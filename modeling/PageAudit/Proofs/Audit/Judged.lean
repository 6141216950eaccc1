import PageAudit.Proofs.Audit.Quiet

/-!
# The claims that a run judges

A run judges the claims of its trace in their order: all of them or, if the first failure stops it,
those through the first that fails (`judged`). A run is `Conducted` if they alone tell what it comes
to: its counts, and the failures that it finds. So is the run of a trace without long numerals,
unless the first line that decides it is malformed (`runTrace_cases`), and so are both runs if the
one that goes on comes to a verdict (`conducted_of_keepGoing`).
-/

namespace PageAudit.Audit

open Logged

variable {mappings : List Mapping}

/-! ## The claims through the first that fails -/

/-- The claims of the lines of a trace, up to the first line that cannot be read. -/
def claimsOf (lines : List Text) : List Claim := Source.trace.claims (lines.zipIdx 1)

/-- The claims through the first that fails. -/
def throughFailure (mappings : List Mapping) : List Claim → List Claim
  | [] => []
  | claim :: claims =>
    match failure? mappings claim with
    | some _ => [claim]
    | none => claim :: throughFailure mappings claims

/-- The claims that a run judges. -/
def judged (mappings : List Mapping) (failFast : Bool) (lines : List Text) : List Claim :=
  if failFast then throughFailure mappings (claimsOf lines) else claimsOf lines

/-- The failures of a claim and more: its own, and those of the others. -/
lemma failures_cons (claim : Claim) (claims : List Claim) :
    failures mappings (claim :: claims) =
      (failure? mappings claim).toList ++ failures mappings claims := by
  rw [failures, List.filterMap_cons]
  cases failure? mappings claim <;> rfl

/-- Claims that do not fail are passed on the way to the first that does. -/
lemma throughFailure_append {before : List Claim} (unfailing : failures mappings before = [])
    (after : List Claim) :
    throughFailure mappings (before ++ after) = before ++ throughFailure mappings after := by
  induction before with
  | nil => rfl
  | cons claim before ih =>
    rw [failures_cons] at unfailing
    obtain ⟨fails_not, unfailing⟩ := List.append_eq_nil_iff.mp unfailing
    rw [Option.toList_eq_nil_iff] at fails_not
    rw [List.cons_append, throughFailure, fails_not, ih unfailing, List.cons_append]

/-- If no claim fails, all are judged. -/
lemma throughFailure_of_unfailing {claims : List Claim}
    (unfailing : failures mappings claims = []) : throughFailure mappings claims = claims := by
  have all := throughFailure_append unfailing []
  rwa [List.append_nil, throughFailure, List.append_nil] at all

/-- The first claim that fails is the last to be judged. -/
lemma throughFailure_append_cons {before : List Claim} {claim : Claim} {f : Finding}
    (unfailing : failures mappings before = []) (fails : failure? mappings claim = some f)
    (after : List Claim) :
    throughFailure mappings (before ++ claim :: after) = before ++ [claim] := by
  rw [throughFailure_append unfailing, throughFailure, fails]

/-- The claims through the first that fails have the first failure only. -/
lemma failures_throughFailure (claims : List Claim) :
    failures mappings (throughFailure mappings claims) = (failures mappings claims).take 1 := by
  induction claims with
  | nil => rfl
  | cons claim claims ih =>
    rw [throughFailure, failures_cons]
    cases fails : failure? mappings claim with
    | some f => simp [fails, failures]
    | none => simp [failures_cons, fails, ih]

/-- What the claims judged fail of is all or, if the first failure stops the run, the first of it.
-/
lemma failures_judged (failFast : Bool) (lines : List Text) :
    failures mappings (judged mappings failFast lines) =
      if failFast then (failures mappings (claimsOf lines)).take 1
      else failures mappings (claimsOf lines) := by
  unfold judged
  cases failFast with
  | true => exact failures_throughFailure _
  | false => rfl

/-- The claims through the first failure are the first ones. -/
lemma prefix_throughFailure (claims : List Claim) : throughFailure mappings claims <+: claims := by
  induction claims with
  | nil => exact List.prefix_refl _
  | cons claim claims ih =>
    rw [throughFailure]
    split
    · exact List.prefix_append [claim] claims
    · exact List.prefix_cons_inj claim |>.mpr ih

/-- A claim that is judged is one of the trace. -/
lemma mem_claimsOf_of_mem_judged {failFast : Bool} {lines : List Text} {claim : Claim}
    (mem : claim ∈ judged mappings failFast lines) : claim ∈ claimsOf lines := by
  unfold judged at mem
  split at mem
  · exact (prefix_throughFailure _).subset mem
  · exact mem

/-- A run that no failing claim stops judges all claims. -/
lemma judged_of_unstopped {failFast : Bool} {lines : List Text}
    (unstopped : failFast = true → failures mappings (claimsOf lines) = []) :
    judged mappings failFast lines = claimsOf lines := by
  unfold judged
  split
  · next stops => exact throughFailure_of_unfailing (unstopped stops)
  · rfl

/-! ## What the claims judged tell of a run -/

/-- How the failures that a run finds come out: its verdict tells them, or the only one stops it. -/
inductive Finds : List Finding → Except Fault Verdict → Prop
  | verdict {verdict : Verdict} {found : List Finding} (told : verdict.violations = found) :
    Finds found (.ok verdict)
  | stopped {f : Finding} (is_failure : f.IsFailure) : Finds [f] (.error (.finding f))

/-- The run of a trace that no defect ends is told by the claims that it judges. -/
structure Conducted (a : Auditor) (lines : List Text) : Prop where
  finds : Finds (failures a.mappings (judged a.mappings a.failFast lines)) (a.runTrace lines).1
  checked : (a.runTrace lines).2.checked = (judged a.mappings a.failFast lines).length
  tolerated : (a.runTrace lines).2.tolerated =
    (judged a.mappings a.failFast lines).countP (tolerates a.mappings)

/-- A claim that fails is not tolerated. -/
lemma tolerates_of_failure? {claim : Claim} {f : Finding}
    (fails : failure? mappings claim = some f) : tolerates mappings claim = false := by
  unfold tolerates
  rw [failure?_eq_some_iff_result.mp fails]

section runs

variable {a : Auditor} {lines : List Text}

/-- A run that nothing stops is conducted to the end of the trace. -/
lemma conducted_of_unstopped
    (judgeable : ∀ claim ∈ claimsOf lines, Judgeable a.mappings claim)
    (unstopped : a.failFast = true → failures a.mappings (claimsOf lines) = [])
    (readable : Source.trace.fault? (lines.zipIdx 1) = none) : Conducted a lines := by
  have judged_eq := judged_of_unstopped unstopped
  have ends : a.runTrace lines = _ :=
    Auditor.run_unstopped Source.trace (lines.zipIdx 1) a judgeable unstopped
  simp only [readable] at ends
  refine ⟨?_, ?_, ?_⟩ <;> rw [judged_eq, ends]
  · exact .verdict rfl
  · exact Nat.zero_add _
  · exact Nat.zero_add _

/-- A run that is to stop at the first failure, and has one, stops there. -/
lemma exists_stop (judgeable : ∀ claim ∈ claimsOf lines, Judgeable a.mappings claim)
    (stops : a.failFast = true) (failed : failures a.mappings (claimsOf lines) ≠ []) :
    ∃ before item claim f, failures a.mappings (Source.trace.claims before) = [] ∧
      (Source.trace.read item).result = .ok (some claim) ∧
      failure? a.mappings claim = some f ∧
      judged a.mappings a.failFast lines = Source.trace.claims before ++ [claim] ∧
      a.runTrace lines =
        (.error (.finding f),
          { (a.after Source.trace before).noted
              ((Source.trace.read item).notes ++ (judge a.mappings claim).notes) with
            consumed := Source.trace.reach before + 1
            checked := (Source.trace.claims before).length + 1
            tolerated := (Source.trace.claims before).countP (tolerates a.mappings) }) := by
  obtain ⟨first, rest, failed⟩ := List.exists_cons_of_ne_nil failed
  obtain ⟨before, item, claim, after, split, readable, unfailing, made, fails⟩ :=
    Source.trace.exists_first_failure failed
  have claims_eq : claimsOf lines = _ :=
    (congrArg Source.trace.claims split).trans (Source.claims_append_cons after readable made)
  refine ⟨before, item, claim, first, unfailing, made, fails, ?_, ?_⟩
  · rw [judged, if_pos stops, claims_eq, throughFailure_append_cons unfailing fails]
  · exact (congrArg (a.run Source.trace.read) split).trans <|
      Auditor.run_stopped Source.trace stops readable
        (fun claim mem => judgeable claim (claims_eq ▸ List.mem_append_left _ mem)) unfailing made
        fails after

/-- A run that stops at a failure is conducted up to it, and ends with it. -/
lemma conducted_of_stopped
    (judgeable : ∀ claim ∈ claimsOf lines, Judgeable a.mappings claim) (stops : a.failFast = true)
    (failed : failures a.mappings (claimsOf lines) ≠ []) :
    Conducted a lines ∧
      ∃ f : Finding, f.IsFailure ∧ (a.runTrace lines).1 = .error (.finding f) := by
  obtain ⟨before, item, claim, first, unfailing, made, fails, judged_eq, ends⟩ :=
    exists_stop judgeable stops failed
  have is_failure := (breaks_of_failure? fails).isFailure
  refine ⟨⟨?_, ?_, ?_⟩, first, is_failure, congrArg Prod.fst ends⟩ <;> rw [judged_eq, ends]
  · rw [failures_append, unfailing, failures_cons, fails]
    exact .stopped is_failure
  · rw [List.length_append, List.length_singleton]
  · rw [List.countP_append, List.countP_singleton, tolerates_of_failure? fails]
    rfl

variable (fits : ∀ line ∈ lines, Claim.SizeFits line)
  (recorded : ∀ m ∈ a.mappings, m.pageSize < Numeral.writeBound)

include fits recorded

/-- The run of a trace that fits is ended by the defect of the first line that decides
it, or no such line is malformed and the claims that it judges tell what it comes to. -/
lemma runTrace_cases :
    (∃ before line, ∃ f : Finding, f.IsDefect ∧
        FirstDecides a.mappings a.failFast lines before line f ∧
        (a.runTrace lines).1 = .error (.finding f)) ∨
      (∀ before line f, FirstDecides a.mappings a.failFast lines before line f → ¬f.IsDefect) ∧
        Conducted a lines := by
  have judgeable : ∀ claim ∈ claimsOf lines, Judgeable a.mappings claim :=
    Auditor.judgeable_of_fits fits recorded
  by_cases unstopped : a.failFast = true → failures a.mappings (claimsOf lines) = []
  · cases readable : Source.trace.fault? (lines.zipIdx 1) with
    | none =>
      refine .inr ⟨?_, conducted_of_unstopped judgeable unstopped readable⟩
      intro before line f decides
      -- A run that reads its trace to the end is decided by none of its lines.
      obtain ⟨after, split⟩ := decides.split
      have mem := split ▸ mem_zipIdx_append_cons before line after
      exact absurd decides.decides (not_decides_of_unstopped readable judgeable unstopped _ mem f)
    | some fault =>
      obtain ⟨f, is_defect, rfl⟩ := Auditor.isDefect_of_fits fits readable
      have ends : a.runTrace lines = _ :=
        Auditor.run_unstopped Source.trace (lines.zipIdx 1) a judgeable unstopped
      simp only [readable] at ends
      obtain ⟨before, line, decides, -⟩ := exists_firstDecides ends
      exact .inl ⟨before, line, f, is_defect, decides, congrArg Prod.fst ends⟩
  · rw [Classical.not_imp] at unstopped
    obtain ⟨stops, failed⟩ := unstopped
    obtain ⟨conducted, f', is_failure, ends⟩ := conducted_of_stopped judgeable stops failed
    refine .inr ⟨?_, conducted⟩
    intro before line f decides
    -- The line whose claim fails was the first to decide the run.
    obtain ⟨before', line', decides', -⟩ := exists_firstDecides (b := (a.runTrace lines).2)
      (Prod.ext ends rfl)
    rw [decides.unique decides']
    exact is_failure.not_isDefect

end runs

/-- A run that finds failures is quiet exactly if there are none. -/
lemma Finds.quiet_iff {failFast : Bool} {lines : List Text} {found : List Finding}
    (finds : Finds found (judgeTrace mappings failFast lines).result) :
    (judgeTrace mappings failFast lines).Quiet ↔ found = [] := by
  generalize ends : (judgeTrace mappings failFast lines).result = result at finds
  cases finds with
  | verdict told => rw [quiet_judgeTrace_iff ends, Verdict.passed, List.isEmpty_iff, told]
  | stopped is_failure =>
    exact iff_of_false (not_quiet_judgeTrace is_failure ends) (List.cons_ne_nil _ _)

/-- A run over a trace as it is at every journal. -/
lemma runTrace_at (failFast : Bool) (lines : List Text) (journal : Option Journal) :
    (Auditor.runTrace lines { mappings, failFast, journal }).1 =
        (judgeTrace mappings failFast lines).result ∧
      (Auditor.runTrace lines { mappings, failFast, journal }).2.journal =
        Journal.addAll? journal (judgeTrace mappings failFast lines).notes := by
  have runs : ((Auditor.runTrace lines { mappings, failFast, journal }).1,
      (Auditor.runTrace lines { mappings, failFast, journal }).2.journal) = _ :=
    (oblivious_judgeTrace mappings failFast lines).on_eq journal
  exact Prod.mk.inj runs

/-! ## The two ways to run -/

section ways

variable {lines : List Text} {f : Finding}

/-- No failure of a claim ends a run that goes on. -/
lemma not_isFailure_of_keepGoing
    (ends : (judgeTrace mappings false lines).result = .error (.finding f)) : ¬f.IsFailure := by
  let a : Auditor := { mappings, failFast := false }
  have stopped : a.runTrace lines = (.error (.finding f), (a.runTrace lines).2) :=
    Prod.ext ends rfl
  obtain ⟨before, line, first, -⟩ := exists_firstDecides stopped
  cases first.decides with
  | malformed => exact id
  | failing never => cases never

/-- A finding that is no failure, and ends the run that stops at the first, ends the run that goes
on too. -/
lemma keepGoing_of_not_isFailure (unfailed : ¬f.IsFailure)
    (ends : (judgeTrace mappings true lines).result = .error (.finding f)) :
    (judgeTrace mappings false lines).result = .error (.finding f) := by
  let a : Auditor := { mappings, failFast := true }
  have stopped : a.runTrace lines = (.error (.finding f), (a.runTrace lines).2) :=
    Prod.ext ends rfl
  obtain ⟨before, item, after, split, readable, judgeable, -, -, decided⟩ :=
    Auditor.of_run_eq_finding Source.trace stopped
  obtain ⟨unreadable, -⟩ | ⟨-, claim, -, fails⟩ := decided
  · -- The trace makes no claims but those before the line that cannot be read.
    have claims_eq : claimsOf lines = Source.trace.claims before := by
      simp [claimsOf, split, Source.claims_append _ readable, Source.claims, unreadable]
    have fault_eq : Source.trace.fault? (lines.zipIdx 1) = some (.finding f) := by
      simp [split, Source.fault?_append _ readable, Source.fault?, unreadable]
    have goesOn : Auditor.runTrace lines { a with failFast := false } = _ :=
      Auditor.run_unstopped Source.trace (lines.zipIdx 1) _
        (show ∀ claim ∈ claimsOf lines, _ from claims_eq ▸ judgeable)
        (absurd · Bool.false_ne_true)
    rw [fault_eq] at goesOn
    exact congrArg Prod.fst goesOn
  · exact absurd (breaks_of_failure? fails).isFailure unfailed

/-- If the run that goes on comes to a verdict, either run is told by the claims that it judges. -/
lemma conducted_of_keepGoing {a : Auditor} {verdict : Verdict}
    (ends : (judgeTrace a.mappings false lines).result = .ok verdict) : Conducted a lines := by
  obtain ⟨readable, judgeable, -, -⟩ := Auditor.of_run_eq_ok Source.trace
    (a := { mappings := a.mappings, failFast := false }) ends
  by_cases unstopped : a.failFast = true → failures a.mappings (claimsOf lines) = []
  · exact conducted_of_unstopped judgeable unstopped readable
  · rw [Classical.not_imp] at unstopped
    obtain ⟨stops, failed⟩ := unstopped
    exact (conducted_of_stopped (a := a) judgeable stops failed).1

end ways

/-! ## Single claims -/

/-- A claim is tolerable if the owner of its address has a smaller page size and may be backed by
transparent huge pages. -/
def Tolerable (mappings : List Mapping) (claim : Claim) : Prop :=
  ∃ owner, Mapping.Owns mappings claim.address owner ∧ owner.pageSize < claim.pageSize ∧
    owner.transparentHuge = true

/-- A judgeable claim is tolerated exactly if it is tolerable. -/
lemma tolerates_iff {claim : Claim} (judgeable : Judgeable mappings claim) :
    tolerates mappings claim = true ↔ Tolerable mappings claim := by
  unfold tolerates Tolerable
  cases owned : Mapping.owner? mappings claim.address with
  | none =>
    rw [judge_of_unowned owned]
    refine iff_of_false nofun ?_
    rintro ⟨owner, owns, -⟩
    cases owned.symm.trans (Mapping.owner?_eq_some_iff.mpr owns)
  | some owner =>
    have owner_iff (owner' : Mapping) :
        Mapping.Owns mappings claim.address owner' ↔ owner' = owner := by
      rw [← Mapping.owner?_eq_some_iff, owned, Option.some.injEq, eq_comm]
    simp only [owner_iff, exists_eq_left]
    rw [judge_of_judgeable owned judgeable]
    by_cases same : (owner.pageSize : Int) = claim.pageSize
    · rw [if_pos same]
      refine iff_of_false nofun fun below => ?_
      omega
    rw [if_neg same]
    by_cases tolerable : owner.pageSize < claim.pageSize ∧ owner.transparentHuge = true
    · rw [if_pos tolerable]
      exact iff_of_true rfl tolerable
    · rw [if_neg tolerable]
      exact iff_of_false nofun tolerable

end PageAudit.Audit
