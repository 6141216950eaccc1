import PageAudit.Proofs.Audit.Calls
import PageAudit.Proofs.Claim.Token

/-!
# The line that decides a run

A run that ends with a finding was decided by one line of its trace: a line that claims what is no
page size or, if the first failure stops the run, a line whose claim `Breaks` what the mappings tell
(`Decides`). It is the first such line, the run reads no line after it, and what comes after it
changes nothing. `earliest_line_decides` is the main result.
-/

namespace PageAudit.Audit

open Logged

/-! ## What breaks a claim -/

/-- What is wrong with a claim: no mapping covers its address, or the owner of its address has
another page size, and not a smaller one that is tolerated. -/
inductive Breaks (mappings : List Mapping) (claim : Claim) : Finding → Prop
  | unowned (uncovered : ∀ m ∈ mappings, m.covers claim.address = false) :
    Breaks mappings claim (.unowned claim.address)
  | mismatch {owner : Mapping} (owns : Mapping.Owns mappings claim.address owner)
    (unequal : (owner.pageSize : Int) ≠ claim.pageSize)
    (untolerated : ¬(owner.pageSize < claim.pageSize ∧ owner.transparentHuge = true)) :
    Breaks mappings claim (.mismatch claim.address owner.pageSize claim.pageSize owner)

section breaks

variable {mappings : List Mapping} {claim : Claim} {f f' : Finding}

/-- A claim has a failure exactly if it is judged to it. -/
lemma failure?_eq_some_iff_result :
    failure? mappings claim = some f ↔ (judge mappings claim).result = .error (.finding f) := by
  unfold failure?
  rcases (judge mappings claim).result with (f' | o) | outcome <;> simp

/-- The finding of a claim that fails is what is wrong with it. -/
lemma breaks_of_failure? (fails : failure? mappings claim = some f) : Breaks mappings claim f := by
  have judged := failure?_eq_some_iff_result.mp fails
  have judgeable : Judgeable mappings claim := fun o overlong => by cases judged.symm.trans overlong
  cases owned : Mapping.owner? mappings claim.address with
  | none =>
    rw [judge_of_unowned owned] at judged
    cases judged
    exact .unowned (Mapping.owner?_eq_none_iff.mp owned)
  | some owner =>
    rw [judge_of_judgeable owned judgeable] at judged
    split at judged
    · cases judged
    · next differs =>
      split at judged
      · cases judged
      · next untolerated =>
        cases judged
        exact .mismatch (Mapping.owner?_eq_some_iff.mp owned) differs untolerated

/-- With a claim that holds nothing is wrong. -/
lemma not_breaks_of_judge_eq_ok {outcome : Outcome}
    (holds : (judge mappings claim).result = .ok outcome) : ¬Breaks mappings claim f := by
  obtain ⟨owner, owned, agrees⟩ := of_judge_eq_ok holds
  rintro (uncovered | ⟨owns, unequal, untolerated⟩)
  · cases owned.symm.trans (Mapping.owner?_eq_none_iff.mpr uncovered)
  · cases owned.symm.trans (Mapping.owner?_eq_some_iff.mpr owns)
    exact agrees.elim unequal untolerated

/-- A claim fails for one reason only. -/
lemma Breaks.unique (breaks : Breaks mappings claim f) (breaks' : Breaks mappings claim f') :
    f = f' := by
  cases breaks with
  | unowned uncovered =>
    cases breaks' with
    | unowned uncovered' => rfl
    | mismatch owns =>
      have owned := Mapping.owner?_eq_some_iff.mpr owns
      cases owned.symm.trans (Mapping.owner?_eq_none_iff.mpr uncovered)
  | mismatch owns =>
    have owned := Mapping.owner?_eq_some_iff.mpr owns
    cases breaks' with
    | unowned uncovered => cases owned.symm.trans (Mapping.owner?_eq_none_iff.mpr uncovered)
    | mismatch owns' =>
      cases owned.symm.trans (Mapping.owner?_eq_some_iff.mpr owns')
      rfl

/-- A judgeable claim fails exactly for what is wrong with it. -/
lemma failure?_eq_some_iff (judgeable : Judgeable mappings claim) :
    failure? mappings claim = some f ↔ Breaks mappings claim f := by
  refine ⟨breaks_of_failure?, fun breaks => ?_⟩
  rcases judged : (judge mappings claim).result with (f' | o) | outcome
  · have fails : failure? mappings claim = some f' := by simp [failure?, judged]
    rw [fails, breaks.unique (breaks_of_failure? fails)]
  · exact absurd judged (judgeable o)
  · exact absurd breaks (not_breaks_of_judge_eq_ok judged)

end breaks

/-! ## Runs that are stopped -/

/-- A run over readable items gets to the end of them. -/
lemma Source.reach_eq_length {α : Type} (source : Source α) {items : List α}
    (readable : source.fault? items = none) : source.reach items = items.length := by
  induction items with
  | nil => rfl
  | cons item items ih =>
    rw [reach]
    rcases made : (source.read item).result with fault | made' <;>
      simp only [fault?, made] at readable ⊢
    · cases readable
    · rw [ih readable, List.length_cons]

namespace Auditor

variable {α : Type} (source : Source α)

/-- A run that a claim stops was to stop at the first failure, and this claim fails. -/
lemma of_advance_eq_finding {violations : List Finding} {claim : Claim} {f : Finding}
    {a b : Auditor} (stops : a.advance violations claim = (.error (.finding f), b)) :
    a.failFast = true ∧ failure? a.mappings claim = some f ∧ b.consumed = a.consumed := by
  rw [advance_eq] at stops
  rcases judged : (judge a.mappings claim).result with (f' | o) | (_ | _) <;>
    simp only [judged] at stops
  · split at stops
    · next failFast =>
      cases stops
      exact ⟨failFast, failure?_eq_some_iff_result.mpr judged, rfl⟩
    · cases stops
  · cases stops
  · cases stops
  · cases stops

/-- Taking items stops at one of them, up to which it came to its end. -/
lemma of_takeAll_eq_error {items : List α} {violations : List Finding} {fault : Fault}
    {a b : Auditor} (stops : takeAll source.read items violations a = (.error fault, b)) :
    ∃ before item after gathered c, items = before ++ item :: after ∧
      takeAll source.read before violations a = (.ok gathered, c) ∧
      take source.read item gathered c = (.error fault, b) := by
  -- Either the first item stops the run, or it is taken and a later one does.
  induction items generalizing violations a with
  | nil => cases stops
  | cons item items ih =>
    rw [takeAll] at stops
    rcases taken : take source.read item violations a with ⟨fault' | violations', c⟩
    · rw [taken] at stops
      cases stops
      exact ⟨[], item, items, violations, a, rfl, rfl, taken⟩
    · rw [taken] at stops
      obtain ⟨before, item', after, gathered, d, rfl, ends, stopped⟩ := ih stops
      refine ⟨item :: before, item', after, gathered, d, rfl, ?_, stopped⟩
      rw [takeAll, taken]
      exact ends

/-- A run that is stopped is stopped at the same place whatever comes after. -/
lemma run_append_of_error {items : List α} {fault : Fault} {a b : Auditor}
    (stops : a.run source.read items = (.error fault, b)) (more : List α) :
    a.run source.read (items ++ more) = (.error fault, b) := by
  rw [run_eq] at stops ⊢
  rw [takeAll_append]
  rcases taken : takeAll source.read items [] a.reset with ⟨fault' | violations, c⟩
  · rw [taken] at stops
    exact stops
  · rw [taken] at stops
    cases stops

/-- A run that ends with a finding is stopped by the first item that cannot be read, or by the first
claim that fails. -/
lemma of_run_eq_finding {items : List α} {f : Finding} {a b : Auditor}
    (stops : a.run source.read items = (.error (.finding f), b)) :
    ∃ before item after, items = before ++ item :: after ∧ source.fault? before = none ∧
      (∀ claim ∈ source.claims before, Judgeable a.mappings claim) ∧
      (a.failFast = true → failures a.mappings (source.claims before) = []) ∧
      b.consumed = before.length + 1 ∧
      ((source.read item).result = .error (.finding f) ∧
          b.checked = (source.claims before).length ∨
        a.failFast = true ∧ ∃ claim, (source.read item).result = .ok (some claim) ∧
          failure? a.mappings claim = some f) := by
  -- Concluding cannot fail, so the run is stopped among its items.
  have taken : takeAll source.read items [] a.reset = (.error (.finding f), b) := by
    rw [run_eq] at stops
    rcases taken : takeAll source.read items [] a.reset with ⟨fault | violations, c⟩
    · rw [taken] at stops
      cases stops
      rfl
    · rw [taken] at stops
      cases stops
  obtain ⟨before, item, after, gathered, c, rfl, ends, stopped⟩ := of_takeAll_eq_error source taken
  obtain ⟨readable, judgeable, unfailing⟩ := of_takeAll_eq_ok source ends
  refine ⟨before, item, after, rfl, readable, judgeable, unfailing, ?_⟩
  rw [takeAll_eq source before [] a.reset judgeable unfailing, readable] at ends
  obtain ⟨-, rfl⟩ := Prod.mk.inj ends
  rw [take_eq] at stopped
  rcases made : (source.read item).result with fault | (_ | claim)
  · simp only [made, Prod.mk.injEq, Except.error.injEq] at stopped
    obtain ⟨rfl, rfl⟩ := stopped
    simp [Auditor.after, noted, reset, Source.reach_eq_length source readable]
  · simp [made] at stopped
  · simp only [made] at stopped
    obtain ⟨failFast, fails, consumed⟩ := of_advance_eq_finding stopped
    refine ⟨?_, .inr ⟨failFast, claim, rfl, fails⟩⟩
    simp [consumed, Auditor.after, noted, reset, Source.reach_eq_length source readable]

end Auditor

/-! ## Lines of a trace -/

/-- Whether a line claims a page size: it has both fields, and its token is a numeral and a unit. -/
def claimsSize (line : Text) : Bool :=
  ((Claim.fields? (Text.chomp line)).bind fun fields => PageSize.split? fields.2).isSome

/-- A line decides a run with a finding: it claims what is no page size or, if the first failure
stops the run, something is wrong with its claim. -/
inductive Decides (mappings : List Mapping) (failFast : Bool) (line : Text) (number : Nat) :
    Finding → Prop
  | malformed {address : Nat} {token : Text}
    (fields : Claim.fields? (Text.chomp line) = some (address, token))
    (unsplit : PageSize.split? token = none) :
    Decides mappings failFast line number
      (.trace (.malformedSize token) (some (number : Int)))
  | failing {claim : Claim} {f : Finding} (stops : failFast = true)
    (made : (Claim.read? line number).result = .ok (some claim))
    (breaks : Breaks mappings claim f) : Decides mappings failFast line number f

section lines

variable {line : Text} {number : Nat}

/-- The token of a line that is read is a numeral and a unit. -/
lemma split?_of_read?_eq_ok {made : Option Claim} {address : Nat} {token : Text}
    (read : (Claim.read? line number).result = .ok made)
    (fields : Claim.fields? (Text.chomp line) = some (address, token)) :
    PageSize.split? token ≠ none := by
  intro unsplit
  simp only [Claim.result_read?, fields, PageSize.result_inKB, unsplit] at read
  cases read

/-- A line that can be read makes a claim exactly if it claims a page size. -/
lemma claimsSize_of_read?_eq_ok {made : Option Claim}
    (read : (Claim.read? line number).result = .ok made) : claimsSize line = made.isSome := by
  unfold claimsSize
  cases fields : Claim.fields? (Text.chomp line) with
  | none =>
    rw [Claim.result_read?, fields] at read
    cases read
    rfl
  | some both =>
    obtain ⟨address, token⟩ := both
    have claims := split?_of_read?_eq_ok read fields
    simp only [Claim.result_read?, fields] at read
    rw [Option.bind_some, Option.isSome_iff_ne_none.mpr claims]
    cases inKB : (PageSize.inKB token (some (number : Int))).result with
    | error fault =>
      rw [inKB] at read
      cases read
    | ok size =>
      rw [inKB] at read
      cases read
      rfl

/-- What is wrong with a line that cannot be read, if it is a finding: its token is malformed. -/
lemma decides_of_read?_eq_error {f : Finding} {mappings : List Mapping} {failFast : Bool}
    (unreadable : (Claim.read? line number).result = .error (.finding f)) :
    Decides mappings failFast line number f := by
  rw [Claim.result_read?] at unreadable
  cases fields : Claim.fields? (Text.chomp line) with
  | none =>
    rw [fields] at unreadable
    cases unreadable
  | some both =>
    obtain ⟨address, token⟩ := both
    simp only [fields, PageSize.result_inKB] at unreadable
    cases split : PageSize.split? token with
    | none =>
      rw [split] at unreadable
      cases unreadable
      exact .malformed fields split
    | some parts =>
      -- A numeral that is too long breaks the run off, but is no finding.
      obtain ⟨digits, unit⟩ := parts
      rw [split] at unreadable
      cases reads : Numeral.read digits with
      | error o => simp [reads, ofNumeral, Except.mapError, Except.map] at unreadable
      | ok count => simp [reads, ofNumeral, Except.mapError, Except.map] at unreadable

/-- The claims of lines that can be read are as many as there are lines that claim a page size. -/
lemma length_claims_trace {lines : List Text}
    (readable : Source.trace.fault? (lines.zipIdx number) = none) :
    (Source.trace.claims (lines.zipIdx number)).length = lines.countP claimsSize := by
  induction lines generalizing number with
  | nil => rfl
  | cons line lines ih =>
    rw [List.zipIdx_cons] at readable ⊢
    rw [Source.claims, List.countP_cons]
    rcases made : (Source.trace.read (line, number)).result with fault | (_ | claim) <;>
      simp only [Source.fault?, made] at readable ⊢
    · cases readable
    · rw [ih readable, claimsSize_of_read?_eq_ok made]
      rfl
    · rw [List.length_cons, ih readable, claimsSize_of_read?_eq_ok made]
      rfl

end lines

/-- Lines that are read to their end, where no failure stops the run, decide nothing. -/
lemma not_decides_of_unstopped {mappings : List Mapping} {failFast : Bool} {lines : List Text}
    (readable : Source.trace.fault? (lines.zipIdx 1) = none)
    (judgeable : ∀ claim ∈ Source.trace.claims (lines.zipIdx 1), Judgeable mappings claim)
    (unfailing : failFast = true → failures mappings (Source.trace.claims (lines.zipIdx 1)) = []) :
    ∀ item ∈ lines.zipIdx 1, ∀ f, ¬Decides mappings failFast item.1 item.2 f := by
  intro item mem f decides
  obtain ⟨made, read⟩ := (Source.fault?_eq_none_iff _).mp readable item mem
  cases decides with
  | malformed fields unsplit => exact split?_of_read?_eq_ok read fields unsplit
  | @failing claim _ stops read' breaks =>
    have claim_mem := (Source.mem_claims_iff _ readable).mpr ⟨item, mem, read'⟩
    have fails := (failure?_eq_some_iff (judgeable claim claim_mem)).mpr breaks
    rw [List.filterMap_eq_nil_iff.mp (unfailing stops) claim claim_mem] at fails
    cases fails

/-- A line that comes after some others is the first of a trace to decide a run. -/
structure FirstDecides (mappings : List Mapping) (failFast : Bool) (lines before : List Text)
    (line : Text) (f : Finding) : Prop where
  split : ∃ after, lines = before ++ line :: after
  decides : Decides mappings failFast line (before.length + 1) f
  first : ∀ earlier ∈ before.zipIdx 1, ∀ f', ¬Decides mappings failFast earlier.1 earlier.2 f'

section first

variable {mappings : List Mapping} {failFast : Bool} {lines before before' : List Text}
  {line line' : Text} {number : Nat} {f f' : Finding}

/-- A line decides a run for one reason only. -/
lemma Decides.unique (decides : Decides mappings failFast line number f)
    (decides' : Decides mappings failFast line number f') : f = f' := by
  cases decides with
  | malformed fields unsplit =>
    cases decides' with
    | malformed fields' unsplit' =>
      cases fields.symm.trans fields'
      rfl
    | failing _ made => exact absurd unsplit (split?_of_read?_eq_ok made fields)
  | failing _ made breaks =>
    cases decides' with
    | malformed fields unsplit => exact absurd unsplit (split?_of_read?_eq_ok made fields)
    | failing _ made' breaks' =>
      cases made.symm.trans made'
      exact breaks.unique breaks'

/-- A line is numbered by the lines before it. -/
lemma mem_zipIdx_append_cons (before : List Text) (line : Text) (after : List Text) :
    (line, before.length + 1) ∈ (before ++ line :: after).zipIdx 1 := by
  rw [List.zipIdx_append, List.zipIdx_cons, Nat.add_comm 1]
  exact List.mem_append_right _ List.mem_cons_self

/-- No line decides a run behind the first that does. -/
lemma FirstDecides.not_before (h : FirstDecides mappings failFast lines before line f)
    (h' : FirstDecides mappings failFast lines before' line' f') (rest : List Text) :
    before' ≠ before ++ line :: rest := by
  rintro rfl
  exact h'.first _ (mem_zipIdx_append_cons before line rest) f h.decides

/-- Only one line is the first to decide a run, and for one reason. -/
lemma FirstDecides.unique (h : FirstDecides mappings failFast lines before line f)
    (h' : FirstDecides mappings failFast lines before' line' f') : f = f' := by
  obtain ⟨after, split⟩ := h.split
  obtain ⟨after', split'⟩ := h'.split
  rw [split, List.append_eq_append_iff] at split'
  -- Neither line comes before the other, so they are the same.
  obtain ⟨_ | ⟨next, rest⟩, before_eq, rest_eq⟩ | ⟨_ | ⟨next, rest⟩, before_eq, rest_eq⟩ := split'
  · rw [List.append_nil] at before_eq
    subst before_eq
    cases rest_eq
    exact h.decides.unique h'.decides
  · cases rest_eq
    exact absurd before_eq (h.not_before h' rest)
  · rw [List.append_nil] at before_eq
    subst before_eq
    cases rest_eq
    exact h.decides.unique h'.decides
  · cases rest_eq
    exact absurd before_eq (h'.not_before h rest)

end first

section runs

variable {lines : List Text} {f : Finding} {a b : Auditor}

/-- A run that was stopped reads no line that is added to the trace. -/
lemma Auditor.runTrace_append_of_error {fault : Fault}
    (stops : a.runTrace lines = (.error fault, b)) (more : List Text) :
    a.runTrace (lines ++ more) = (.error fault, b) := by
  have stopped := run_append_of_error Source.trace stops
  unfold runTrace
  rw [List.zipIdx_append]
  exact stopped _

/-- A run over a trace that ends with a finding reads it through the first line that decides the
run. If that line is malformed, the claims before it were checked. -/
lemma exists_firstDecides (ends : a.runTrace lines = (.error (.finding f), b)) :
    ∃ before line, FirstDecides a.mappings a.failFast lines before line f ∧
      b.consumed = before.length + 1 ∧
      (∀ defect number, f = .trace defect number → b.checked = before.countP claimsSize) := by
  obtain ⟨before, item, after, split, readable, judgeable, unfailing, consumed, decided⟩ :=
    Auditor.of_run_eq_finding Source.trace ends
  obtain ⟨before, rest, rfl, rfl, rest_eq⟩ := List.zipIdx_eq_append_iff.mp split
  obtain ⟨line, after, rfl, rfl, rfl⟩ := List.zipIdx_eq_cons_iff.mp rest_eq.symm
  rw [Nat.add_comm] at decided
  rw [List.length_zipIdx] at consumed
  refine ⟨before, line, ⟨⟨after, rfl⟩, ?_, ?_⟩, consumed, ?_⟩
  · obtain ⟨unreadable, -⟩ | ⟨stops, claim, made, fails⟩ := decided
    · exact decides_of_read?_eq_error unreadable
    · exact .failing stops made (breaks_of_failure? fails)
  · exact not_decides_of_unstopped readable judgeable unfailing
  · rintro defect number rfl
    obtain ⟨-, checked⟩ | ⟨-, claim, -, fails⟩ := decided
    · rw [checked, length_claims_trace readable]
    · cases breaks_of_failure? fails

/-- **The earliest deciding line decides.** A run over a trace that ends with a finding ends with it
whatever lines come after: with the same counts, the same journal and as many lines read, which are
those through the first line that decides it. If that line is malformed, the claims before it were
checked. -/
theorem earliest_line_decides (ends : a.runTrace lines = (.error (.finding f), b)) :
    (∀ more, a.runTrace (lines ++ more) = (.error (.finding f), b)) ∧
    ∃ before line, FirstDecides a.mappings a.failFast lines before line f ∧
      b.consumed = before.length + 1 ∧
      (∀ defect number, f = .trace defect number → b.checked = before.countP claimsSize) :=
  ⟨Auditor.runTrace_append_of_error ends, exists_firstDecides ends⟩

end runs

/-- The third line is malformed and decides the run: neither the failing claim after it nor what is
appended is reached. -/
theorem malformed_line_decides :
    let m : Mapping := ⟨0x1000, 0x2000, 4, true, false, by decide, by decide, by decide⟩
    let a : Auditor := { mappings := [m], journal := some { threshold := .debug } }
    let lines : List Text :=
      ["base=0x1000 page_size=2M", "noise", "base=0x1000 page_size=4KB", "base=0x2000 page_size=4K"]
    let more : List Text := ["base=0x1000 page_size=K"]
    let b := (a.runTrace lines).2
    a.runTrace lines = (.error (.finding (.trace (.malformedSize "4KB") (some 3))), b) ∧
      a.runTrace (lines ++ more) = (.error (.finding (.trace (.malformedSize "4KB") (some 3))), b) ∧
      b.consumed = 3 ∧ b.checked = 1 := by
  intro m a lines more b
  have found : (a.runTrace lines).1 =
      .error (.finding (.trace (.malformedSize "4KB") (some 3))) := by decide +kernel
  have ends : a.runTrace lines =
      (.error (.finding (.trace (.malformedSize "4KB") (some 3))), b) := by
    rw [← found]
  obtain ⟨stopped, -⟩ := earliest_line_decides ends
  exact ⟨ends, stopped more, by decide +kernel, by decide +kernel⟩

end PageAudit.Audit
