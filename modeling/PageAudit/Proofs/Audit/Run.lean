import PageAudit.Audit.Auditor
import PageAudit.Proofs.Audit.Judgement

/-!
# Runs over a source of claims

A `Source` is what a run takes its claims from: items that each make a claim, make none or cannot be
read, and that may note what they do. Plain claims are a source, and so are the lines of a trace.

What a run does is told from the source alone: the `claims` up to the item that cannot be read, the
`fault?` of that item, how many items are reached, and the `transcript` of everything noted on the
way. `takeAll_eq` says that a run over judgeable claims which no failing claim stops comes to just
that; `of_takeAll_eq_ok` says that a run which comes to its end is such a run; `takeAll_append` cuts
a run in two. A whole run passes exactly if every claim holds (`run_passes_iff`).
-/

namespace PageAudit.Audit

open Logged

/-! ## Single claims, as a run sees them -/

/-- Whether a claim is tolerated. -/
def tolerates (mappings : List Mapping) (claim : Claim) : Bool :=
  match (judge mappings claim).result with
  | .ok .tolerated => true
  | _ => false

/-- The finding of a claim that fails. -/
def failure? (mappings : List Mapping) (claim : Claim) : Option Finding :=
  match (judge mappings claim).result with
  | .error (.finding f) => some f
  | _ => none

/-- The findings of the claims that fail, in the order of the claims. -/
def failures (mappings : List Mapping) (claims : List Claim) : List Finding :=
  claims.filterMap (failure? mappings)

/-- The failures of two lists of claims are put together. -/
lemma failures_append (mappings : List Mapping) (claims claims' : List Claim) :
    failures mappings (claims ++ claims') = failures mappings claims ++ failures mappings claims' :=
  List.filterMap_append

/-- A claim is judgeable if no number is too long to be written on the way. -/
def Judgeable (mappings : List Mapping) (claim : Claim) : Prop :=
  ∀ o, (judge mappings claim).result ≠ .error (.overlong o)

/-- A claim is judgeable if all page sizes can be written. -/
lemma judgeable_of_lt {mappings : List Mapping} {claim : Claim}
    (recorded : ∀ m ∈ mappings, m.pageSize < Numeral.writeBound)
    (claimed : claim.pageSize.natAbs < Numeral.writeBound) : Judgeable mappings claim := by
  intro o overlong
  cases owned : Mapping.owner? mappings claim.address with
  | none =>
    rw [judge_of_unowned owned] at overlong
    cases overlong
  | some owner =>
    have bound := recorded owner (List.mem_of_find?_eq_some owned)
    rw [judge_of_owner owned bound claimed] at overlong
    split at overlong
    · cases overlong
    split at overlong <;> cases overlong

/-- What becomes of a judgeable claim whose address has an owner. -/
lemma judge_of_judgeable {mappings : List Mapping} {claim : Claim} {owner : Mapping}
    (owned : Mapping.owner? mappings claim.address = some owner)
    (judgeable : Judgeable mappings claim) :
    (judge mappings claim).result =
      if owner.pageSize = claim.pageSize then .ok .equal
      else if owner.pageSize < claim.pageSize ∧ owner.transparentHuge = true then .ok .tolerated
      else .error (.finding (.mismatch claim.address owner.pageSize claim.pageSize owner)) := by
  unfold Judgeable at judgeable
  rw [judge_eq_of_owner owned] at judgeable ⊢
  revert judgeable
  cases owner.describe with
  | error o => exact fun judgeable => absurd rfl (judgeable o)
  | ok description =>
    cases Numeral.write owner.pageSize with
    | error o => exact fun judgeable => absurd rfl (judgeable o)
    | ok recorded =>
      cases Numeral.write claim.pageSize with
      | ok claimed => exact fun _ => rfl
      | error o =>
        intro judgeable
        simp only [ofNumeral, Except.mapError, Except.bind] at judgeable ⊢
        split
        · rfl
        · next differs =>
          rw [if_neg differs] at judgeable
          exact absurd rfl (judgeable o)

/-- A claim holds exactly if it is judgeable and does not fail. -/
lemma holds_iff {mappings : List Mapping} {claim : Claim} :
    (∃ outcome, (judge mappings claim).result = .ok outcome) ↔
      Judgeable mappings claim ∧ failure? mappings claim = none := by
  unfold Judgeable failure?
  rcases (judge mappings claim).result with (f | o) | outcome <;> simp

/-! ## Sources -/

/-- What a run takes its claims from. The journal decides nothing of what its items make. -/
structure Source (α : Type) where
  /-- Reads an item: the claim that it makes, if it makes one. -/
  read : α → Logged Fault (Option Claim)
  oblivious : ∀ item, (read item).Oblivious

namespace Source

variable {α : Type}

/-- Plain claims. -/
def plain : Source Claim where
  read claim := pure (some claim)
  oblivious _ := oblivious_pure _

/-- The numbered lines of a trace. -/
def trace : Source (Text × Nat) where
  read := fun (line, number) => Claim.read? line number
  oblivious item := Claim.oblivious_read? item.1 item.2

variable (source : Source α)

/-- The claims of some items, up to the first item that cannot be read. -/
def claims : List α → List Claim
  | [] => []
  | item :: items =>
    match (source.read item).result with
    | .ok none => claims items
    | .ok (some claim) => claim :: claims items
    | .error _ => []

/-- What is wrong with the first item that cannot be read, if there is one. -/
def fault? : List α → Option Fault
  | [] => none
  | item :: items =>
    match (source.read item).result with
    | .ok _ => fault? items
    | .error fault => some fault

/-- How many items are reached: all through the first that cannot be read. -/
def reach : List α → Nat
  | [] => 0
  | item :: items =>
    match (source.read item).result with
    | .ok _ => reach items + 1
    | .error _ => 1

/-- What is noted of some items and the judgement of their claims. -/
def transcript (mappings : List Mapping) : List α → List Entry
  | [] => []
  | item :: items =>
    (source.read item).notes ++
      match (source.read item).result with
      | .ok none => transcript mappings items
      | .ok (some claim) => (judge mappings claim).notes ++ transcript mappings items
      | .error _ => []

/-- Items have no fault exactly if each of them is read. -/
lemma fault?_eq_none_iff {items : List α} :
    source.fault? items = none ↔ ∀ item ∈ items, ∃ made, (source.read item).result = .ok made := by
  induction items with
  | nil => simp [fault?]
  | cons item items ih =>
    rw [fault?, List.forall_mem_cons, ← ih]
    cases (source.read item).result with
    | ok made => simp
    | error fault => simp

/-- The claims of a source without a fault are those that its items make. -/
lemma mem_claims_iff {items : List α} (readable : source.fault? items = none) {claim : Claim} :
    claim ∈ source.claims items ↔ ∃ item ∈ items, (source.read item).result = .ok (some claim) := by
  induction items with
  | nil => simp [claims]
  | cons item items ih =>
    rw [claims]
    rcases made : (source.read item).result with fault | (_ | claim') <;>
      simp only [fault?, made] at readable
    · cases readable
    · simp [ih readable, made]
    · simp [ih readable, made, eq_comm]

/-! ### Sources in two parts

If every item of the first part can be read, a source is the first part and then the second. If not,
nothing after it matters. -/

section append

variable {source} {before : List α} (items : List α)

/-- Behind readable items, more claims are added. -/
lemma claims_append (readable : source.fault? before = none) :
    source.claims (before ++ items) = source.claims before ++ source.claims items := by
  induction before with
  | nil => rfl
  | cons item before ih =>
    rw [List.cons_append, claims, claims]
    rcases h : (source.read item).result with fault | (_ | claim) <;>
      simp only [fault?, h] at readable ⊢
    · cases readable
    · exact ih readable
    · rw [ih readable, List.cons_append]

/-- Behind readable items, the claim of an item is added, and those of the items after it. -/
lemma claims_append_cons {item : α} {claim : Claim} (readable : source.fault? before = none)
    (made : (source.read item).result = .ok (some claim)) :
    source.claims (before ++ item :: items) =
      source.claims before ++ claim :: source.claims items := by
  rw [claims_append _ readable]
  simp only [claims, made]

/-- Behind readable items, the fault is that of the other items. -/
lemma fault?_append (readable : source.fault? before = none) :
    source.fault? (before ++ items) = source.fault? items := by
  induction before with
  | nil => rfl
  | cons item before ih =>
    rw [List.cons_append, fault?]
    rcases h : (source.read item).result with fault | made <;> simp only [fault?, h] at readable ⊢
    · cases readable
    · exact ih readable

/-- Behind readable items, a run gets as much farther as the other items let it. -/
lemma reach_append (readable : source.fault? before = none) :
    source.reach (before ++ items) = source.reach before + source.reach items := by
  induction before with
  | nil => simp [reach]
  | cons item before ih =>
    rw [List.cons_append, reach, reach]
    rcases h : (source.read item).result with fault | made <;> simp only [fault?, h] at readable ⊢
    · cases readable
    · rw [ih readable]
      omega

/-- Behind readable items, the transcript goes on. -/
lemma transcript_append (mappings : List Mapping) (readable : source.fault? before = none) :
    source.transcript mappings (before ++ items) =
      source.transcript mappings before ++ source.transcript mappings items := by
  induction before with
  | nil => rfl
  | cons item before ih =>
    rw [List.cons_append, transcript, transcript]
    rcases h : (source.read item).result with fault | (_ | claim) <;>
      simp only [fault?, h] at readable ⊢
    · cases readable
    · rw [ih readable, List.append_assoc]
    · simp only [ih readable, List.append_assoc]

end append

/-- Nothing after an item that cannot be read matters. -/
lemma cons_of_unreadable {item : α} {fault : Fault}
    (unreadable : (source.read item).result = .error fault) (items : List α) :
    source.claims (item :: items) = source.claims [item] ∧
      source.fault? (item :: items) = source.fault? [item] ∧
      source.reach (item :: items) = source.reach [item] ∧
      ∀ mappings, source.transcript mappings (item :: items) =
        source.transcript mappings [item] := by
  simp [claims, fault?, reach, transcript, unreadable]

/-- Where the first failure of a source lies. -/
lemma exists_first_failure {mappings : List Mapping} {items : List α} {first : Finding}
    {rest : List Finding} (failed : failures mappings (source.claims items) = first :: rest) :
    ∃ before item claim after, items = before ++ item :: after ∧ source.fault? before = none ∧
      failures mappings (source.claims before) = [] ∧
      (source.read item).result = .ok (some claim) ∧ failure? mappings claim = some first := by
  induction items with
  | nil => cases failed
  | cons item items ih =>
    rcases made : (source.read item).result with fault | (_ | claim) <;>
      simp only [claims, made] at failed
    · cases failed
    · obtain ⟨before, item', claim, after, rfl, readable, unfailing, made', fails⟩ := ih failed
      refine ⟨item :: before, item', claim, after, rfl, ?_, ?_, made', fails⟩
      · simpa [fault?, made] using readable
      · simpa [claims, made] using unfailing
    · cases fails : failure? mappings claim with
      | some f =>
        simp only [failures, List.filterMap_cons, fails, List.cons.injEq] at failed
        obtain ⟨rfl, -⟩ := failed
        exact ⟨[], item, claim, items, rfl, rfl, rfl, made, fails⟩
      | none =>
        simp only [failures, List.filterMap_cons, fails] at failed
        obtain ⟨before, item', claim', after, rfl, readable, unfailing, made', fails'⟩ := ih failed
        refine ⟨item :: before, item', claim', after, rfl, ?_, ?_, made', fails'⟩
        · simpa [fault?, made] using readable
        · simpa [claims, made, failures, fails] using unfailing

end Source

namespace Auditor

variable {α : Type} (source : Source α)

/-- The auditor once some more is noted. -/
def noted (a : Auditor) (entries : List Entry) : Auditor :=
  { a with journal := Journal.addAll? a.journal entries }

/-- The auditor after a run over some items that no failing claim stops. -/
def after (a : Auditor) (items : List α) : Auditor :=
  { a.noted (source.transcript a.mappings items) with
    consumed := a.consumed + source.reach items
    checked := a.checked + (source.claims items).length
    tolerated := a.tolerated + (source.claims items).countP (tolerates a.mappings) }

/-! ## One step -/

/-- A check notes what the judgement notes, and comes to its result. -/
lemma check_eq (a : Auditor) (claim : Claim) :
    a.check claim = ((judge a.mappings claim).result, a.noted (judge a.mappings claim).notes) := by
  rw [check, (oblivious_judge a.mappings claim).on_eq]
  rfl

/-- One claim, as it is counted, judged and noted. -/
lemma advance_eq (a : Auditor) (violations : List Finding) (claim : Claim) :
    a.advance violations claim =
      let b := { a.noted (judge a.mappings claim).notes with checked := a.checked + 1 }
      match (judge a.mappings claim).result with
      | .ok .equal => (.ok violations, b)
      | .ok .tolerated => (.ok violations, { b with tolerated := a.tolerated + 1 })
      | .error (.finding f) =>
        if a.failFast then (.error (.finding f), b) else (.ok (violations ++ [f]), b)
      | .error (.overlong o) => (.error (.overlong o), b) := by
  rw [advance, check_eq]
  rcases (judge a.mappings claim).result with (f | o) | (_ | _) <;> rfl

/-- One item, as it is consumed, read and noted. -/
lemma take_eq (item : α) (violations : List Finding) (a : Auditor) :
    take source.read item violations a =
      let b := { a.noted (source.read item).notes with consumed := a.consumed + 1 }
      match (source.read item).result with
      | .error fault => (.error fault, b)
      | .ok none => (.ok violations, b)
      | .ok (some claim) => b.advance violations claim := by
  rw [take, (source.oblivious item).on_eq]
  rfl

/-! ## Whole runs -/

/-- A run in two parts: the second goes on from where the first came to its end. -/
lemma takeAll_append (before after : List α) (violations : List Finding) (a : Auditor) :
    takeAll source.read (before ++ after) violations a =
      match takeAll source.read before violations a with
      | (.ok violations, a) => takeAll source.read after violations a
      | (.error fault, a) => (.error fault, a) := by
  induction before generalizing violations a with
  | nil => rfl
  | cons item items ih =>
    simp only [List.cons_append, takeAll]
    rcases take source.read item violations a with ⟨_ | violations, a⟩
    · rfl
    · exact ih violations a

/-- Behind readable items, the auditor goes on from where they left it. -/
lemma after_append {before : List α} (readable : source.fault? before = none) (items : List α)
    (a : Auditor) :
    a.after source (before ++ items) = (a.after source before).after source items := by
  simp only [after, noted, Source.claims_append items readable, Source.reach_append items readable,
    Source.transcript_append items a.mappings readable, Journal.addAll?_append,
    List.length_append, List.countP_append, Nat.add_assoc]

/-- One item of a run, if no failing claim stops it there. -/
lemma take_unstopped (item : α) (violations : List Finding) (a : Auditor)
    (judgeable : ∀ claim ∈ source.claims [item], Judgeable a.mappings claim)
    (unstopped : a.failFast = true → failures a.mappings (source.claims [item]) = []) :
    take source.read item violations a =
      (match source.fault? [item] with
        | none => .ok (violations ++ failures a.mappings (source.claims [item]))
        | some fault => .error fault,
        a.after source [item]) := by
  rw [take_eq]
  rcases made : (source.read item).result with fault | (_ | claim)
  · simp [Source.fault?, Source.claims, Source.reach, Source.transcript, made, after, noted]
  · simp [Source.fault?, Source.claims, Source.reach, Source.transcript, made, after, noted,
      failures]
  · simp only [Source.claims, made, List.mem_singleton, forall_eq] at judgeable unstopped
    simp only [advance_eq, noted, after, Source.fault?, Source.claims, Source.reach,
      Source.transcript, made, List.append_nil, Journal.addAll?_append]
    rcases judged : (judge a.mappings claim).result with (f | o) | (_ | _)
    · -- A failing claim is gathered here, for it would have stopped the run.
      have goesOn : a.failFast = false := by
        by_contra stops
        simp [failures, failure?, judged] at unstopped
        exact stops unstopped
      simp [goesOn, failures, failure?, tolerates, judged]
    · exact absurd judged (judgeable o)
    · simp [failures, failure?, tolerates, judged]
    · simp [failures, failure?, tolerates, judged]

/-- A run over judgeable claims that no failing claim stops reads its source to the end and gathers
every failure. -/
lemma takeAll_eq (items : List α) (violations : List Finding) (a : Auditor)
    (judgeable : ∀ claim ∈ source.claims items, Judgeable a.mappings claim)
    (unstopped : a.failFast = true → failures a.mappings (source.claims items) = []) :
    takeAll source.read items violations a =
      (match source.fault? items with
        | none => .ok (violations ++ failures a.mappings (source.claims items))
        | some fault => .error fault,
        a.after source items) := by
  induction items generalizing violations a with
  | nil => simp [takeAll, Source.fault?, Source.claims, failures, after, noted, Source.transcript,
      Source.reach]
  | cons item items ih =>
    cases unreadable : source.fault? [item] with
    | some fault =>
      have made : (source.read item).result = .error fault := by
        cases made : (source.read item).result with
        | ok made => simp [Source.fault?, made] at unreadable
        | error fault' => simpa [Source.fault?, made] using unreadable
      obtain ⟨claims_eq, fault_eq, reach_eq, transcript_eq⟩ := source.cons_of_unreadable made items
      rw [claims_eq] at judgeable unstopped
      rw [takeAll, take_unstopped source item violations a judgeable unstopped, claims_eq, fault_eq,
        unreadable]
      simp only [after, claims_eq, reach_eq, transcript_eq]
    | none =>
      rw [← List.singleton_append, Source.claims_append items unreadable] at judgeable unstopped ⊢
      rw [Source.fault?_append items unreadable, after_append source unreadable]
      rw [failures_append] at unstopped ⊢
      have first := take_unstopped source item violations a
        (fun claim h => judgeable claim (List.mem_append_left _ h))
        (fun stops => (List.append_eq_nil_iff.mp (unstopped stops)).1)
      rw [unreadable] at first
      rw [List.singleton_append, takeAll, first, ← List.append_assoc]
      exact ih _ _ (fun claim h => judgeable claim (List.mem_append_right _ h))
        (fun stops => (List.append_eq_nil_iff.mp (unstopped stops)).2)

/-- A run that stops at the first failure, up to the claim that fails. -/
lemma takeAll_stopped {before : List α} {item : α} {claim : Claim} {f : Finding} {a : Auditor}
    (stops : a.failFast = true) (readable : source.fault? before = none)
    (judgeable : ∀ claim ∈ source.claims before, Judgeable a.mappings claim)
    (unfailing : failures a.mappings (source.claims before) = [])
    (made : (source.read item).result = .ok (some claim))
    (fails : failure? a.mappings claim = some f) (items : List α) (violations : List Finding) :
    takeAll source.read (before ++ item :: items) violations a =
      (.error (.finding f),
        { (a.after source before).noted
            ((source.read item).notes ++ (judge a.mappings claim).notes) with
          consumed := a.consumed + source.reach before + 1
          checked := a.checked + (source.claims before).length + 1 }) := by
  have judged : (judge a.mappings claim).result = .error (.finding f) := by
    unfold failure? at fails
    split at fails
    · next judged => rw [judged, Option.some.inj fails]
    · cases fails
  rw [takeAll_append, takeAll_eq source before violations a judgeable (fun _ => unfailing)]
  simp only [readable, takeAll, take_eq, made, advance_eq, after, noted, judged, stops, if_true,
    Journal.addAll?_append]

/-- A run that goes on after a claim could judge it and was not to stop there, and its auditor still
judges by the same mappings in the same way. -/
lemma of_advance_eq_ok {violations gathered : List Finding} {claim : Claim} {a b : Auditor}
    (ends : a.advance violations claim = (.ok gathered, b)) :
    Judgeable a.mappings claim ∧ (a.failFast = true → failure? a.mappings claim = none) ∧
      b.mappings = a.mappings ∧ b.failFast = a.failFast := by
  rw [advance_eq] at ends
  unfold Judgeable failure?
  rcases judged : (judge a.mappings claim).result with (f | o) | (_ | _) <;>
    simp only [judged] at ends
  · split at ends
    · cases ends
    · next goesOn =>
      cases ends
      exact ⟨by simp, fun stops => absurd stops goesOn, rfl, rfl⟩
  · cases ends
  · cases ends
    exact ⟨by simp, by simp, rfl, rfl⟩
  · cases ends
    exact ⟨by simp, by simp, rfl, rfl⟩

/-- A run that comes to its end could read every item, had only judgeable claims and was not
stopped. -/
lemma of_takeAll_eq_ok {items : List α} {violations gathered : List Finding} {a b : Auditor}
    (ends : takeAll source.read items violations a = (.ok gathered, b)) :
    source.fault? items = none ∧
      (∀ claim ∈ source.claims items, Judgeable a.mappings claim) ∧
      (a.failFast = true → failures a.mappings (source.claims items) = []) := by
  induction items generalizing violations a with
  | nil => simp [Source.fault?, Source.claims, failures]
  | cons item items ih =>
    simp only [takeAll, take_eq] at ends
    rcases made : (source.read item).result with fault | (_ | claim)
    · simp [made] at ends
    · simp only [made] at ends
      simpa [Source.fault?, Source.claims, made, noted] using ih ends
    · simp only [made] at ends
      split at ends
      · next gathered' c advanced =>
        obtain ⟨judgeable, unfailing, mappings_eq, failFast_eq⟩ := of_advance_eq_ok advanced
        simp only [noted] at judgeable unfailing mappings_eq failFast_eq
        obtain ⟨readable, judgeable', unfailing'⟩ := ih ends
        rw [mappings_eq] at judgeable' unfailing'
        rw [failFast_eq] at unfailing'
        simp only [Source.fault?, Source.claims, made, List.mem_cons, forall_eq_or_imp]
        refine ⟨readable, ⟨judgeable, judgeable'⟩, fun stops => ?_⟩
        rw [failures, List.filterMap_cons, unfailing stops]
        exact unfailing' stops
      · cases ends

/-! ## From the reset to the closing note -/

/-- The auditor that takes up a new run. -/
def reset (a : Auditor) : Auditor := { a with consumed := 0, checked := 0, tolerated := 0 }

/-- The end of a run that nothing stopped: its verdict and its closing note. -/
def conclude (a : Auditor) (violations : List Finding) : Except Fault Verdict × Auditor :=
  (.ok { checked := a.checked, tolerated := a.tolerated, violations },
    a.noted [{ level := .info, source := "verify", message := a.summary violations }])

/-- A run takes all items from the start, and comes to a verdict unless one of them stops it. -/
lemma run_eq (items : List α) (a : Auditor) :
    a.run source.read items =
      match takeAll source.read items [] a.reset with
      | (.error fault, a) => (.error fault, a)
      | (.ok violations, a) => a.conclude violations := rfl

/-- A whole run over judgeable claims that no failing claim stops. -/
lemma run_unstopped (items : List α) (a : Auditor)
    (judgeable : ∀ claim ∈ source.claims items, Judgeable a.mappings claim)
    (unstopped : a.failFast = true → failures a.mappings (source.claims items) = []) :
    a.run source.read items =
      match source.fault? items with
      | none => (a.reset.after source items).conclude (failures a.mappings (source.claims items))
      | some fault => (.error fault, a.reset.after source items) := by
  rw [run_eq, takeAll_eq source items [] a.reset judgeable unstopped]
  cases source.fault? items with
  | none => rfl
  | some fault => rfl

/-- A whole run over judgeable claims that no failing claim stops notes everything on the way, and
perhaps a closing line, which is no warning. -/
lemma journal_unstopped (items : List α) (a : Auditor)
    (judgeable : ∀ claim ∈ source.claims items, Judgeable a.mappings claim)
    (unstopped : a.failFast = true → failures a.mappings (source.claims items) = []) :
    ∃ closing : List Entry, (∀ e ∈ closing, e.level = .info) ∧
      (a.run source.read items).2.journal =
        Journal.addAll? a.journal (source.transcript a.mappings items ++ closing) := by
  rw [run_unstopped source items a judgeable unstopped]
  cases source.fault? items with
  | none => exact ⟨_, List.forall_mem_singleton.mpr rfl, (Journal.addAll?_append ..).symm⟩
  | some fault => exact ⟨[], nofun, by rw [List.append_nil]; rfl⟩

/-- What a whole run finds that nothing stops. -/
def verdictOn (mappings : List Mapping) (claims : List Claim) : Verdict where
  checked := claims.length
  tolerated := claims.countP (tolerates mappings)
  violations := failures mappings claims

/-- A whole run that comes to a verdict could read every item, had only judgeable claims and was not
stopped. -/
lemma of_run_eq_ok {items : List α} {a : Auditor} {verdict : Verdict}
    (ends : (a.run source.read items).1 = .ok verdict) :
    source.fault? items = none ∧
      (∀ claim ∈ source.claims items, Judgeable a.mappings claim) ∧
      (a.failFast = true → failures a.mappings (source.claims items) = []) ∧
      verdict = verdictOn a.mappings (source.claims items) := by
  have taken := ends
  rw [run_eq] at taken
  split at taken
  · cases taken
  · next taken_eq =>
    obtain ⟨readable, judgeable, unstopped⟩ := of_takeAll_eq_ok source (a := a.reset) taken_eq
    refine ⟨readable, judgeable, unstopped, ?_⟩
    rw [run_unstopped source items a judgeable unstopped, readable] at ends
    cases ends
    simp [verdictOn, after, noted, reset]

/-- A whole run passes exactly if every item can be read and every claim holds. -/
lemma run_passes_iff (items : List α) (a : Auditor) :
    (∃ verdict, (a.run source.read items).1 = .ok verdict ∧ verdict.passed = true) ↔
      source.fault? items = none ∧ ∀ claim ∈ source.claims items,
        ∃ outcome, (judge a.mappings claim).result = .ok outcome := by
  constructor
  · rintro ⟨verdict, ends, passed⟩
    obtain ⟨readable, judgeable, -, rfl⟩ := of_run_eq_ok source ends
    have unfailing : failures a.mappings (source.claims items) = [] := List.isEmpty_iff.mp passed
    refine ⟨readable, fun claim mem => holds_iff.mpr ⟨judgeable claim mem, ?_⟩⟩
    exact List.filterMap_eq_nil_iff.mp unfailing claim mem
  · rintro ⟨readable, holds⟩
    have unfailing : failures a.mappings (source.claims items) = [] :=
      List.filterMap_eq_nil_iff.mpr fun claim mem => (holds_iff.mp (holds claim mem)).2
    have judgeable (claim : Claim) (mem : claim ∈ source.claims items) :
        Judgeable a.mappings claim := (holds_iff.mp (holds claim mem)).1
    rw [run_unstopped source items a judgeable fun _ => unfailing, readable, unfailing]
    exact ⟨_, rfl, rfl⟩

/-- A whole run that stops at the first failure. -/
lemma run_stopped {before : List α} {item : α} {claim : Claim} {f : Finding} {a : Auditor}
    (stops : a.failFast = true) (readable : source.fault? before = none)
    (judgeable : ∀ claim ∈ source.claims before, Judgeable a.mappings claim)
    (unfailing : failures a.mappings (source.claims before) = [])
    (made : (source.read item).result = .ok (some claim))
    (fails : failure? a.mappings claim = some f) (items : List α) :
    a.run source.read (before ++ item :: items) =
      (.error (.finding f),
        { (a.after source before).noted
            ((source.read item).notes ++ (judge a.mappings claim).notes) with
          consumed := source.reach before + 1
          checked := (source.claims before).length + 1
          tolerated := (source.claims before).countP (tolerates a.mappings) }) := by
  rw [run_eq, takeAll_stopped source (a := a.reset) stops readable judgeable unfailing made fails]
  simp [after, noted, reset]

end Auditor

end PageAudit.Audit
