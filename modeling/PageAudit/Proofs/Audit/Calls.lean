import PageAudit.Proofs.Audit.Observability

/-!
# One auditor under any calls

A run that goes on after failures accounts for every claim: each is counted, and each that fails
leaves its finding, in the order of the claims (`keepGoing_accounts`). What is found of a claim is
told by the owner of its address alone (`Explains`).

An auditor may be called again and again, for single claims and for whole runs. `Follows` is what
every call keeps: the mappings, the mode, and that no more claims are tolerated than checked. A run
begins with a reset, so it is the run of a fresh auditor (`run_eq_fresh`), and the counts are those
of the latest run (`counts_after`). `auditor_accounts` is the main result.
-/

namespace PageAudit

namespace Mapping

/-- The mapping owns the address: it covers it, and no mapping before it does. -/
def Owns (mappings : List Mapping) (address : Int) (owner : Mapping) : Prop :=
  owner.covers address = true ∧
    ∃ before after, mappings = before ++ owner :: after ∧ ∀ m ∈ before, m.covers address = false

/-- An owner is looked up as it is defined: the first mapping that covers the address. -/
lemma owner?_eq_some_iff {mappings : List Mapping} {address : Int} {owner : Mapping} :
    owner? mappings address = some owner ↔ Owns mappings address owner := by
  simp [owner?, Owns, List.find?_eq_some_iff_append]

/-- No owner is found exactly if no mapping covers the address. -/
lemma owner?_eq_none_iff {mappings : List Mapping} {address : Int} :
    owner? mappings address = none ↔ ∀ m ∈ mappings, m.covers address = false := by
  simp [owner?]

end Mapping

namespace Audit

open Logged

/-! ## What is found of a claim -/

/-- The finding says what is wrong with the claim: that no mapping covers its address, or that the
owner of the address has another page size. -/
def Explains (mappings : List Mapping) (claim : Claim) (f : Finding) : Prop :=
  (f = .unowned claim.address ∧ ∀ m ∈ mappings, m.covers claim.address = false) ∨
    ∃ owner, Mapping.Owns mappings claim.address owner ∧
      f = .mismatch claim.address owner.pageSize claim.pageSize owner

/-- The finding of a claim that fails says what is wrong with it. -/
lemma explains_of_failure? {mappings : List Mapping} {claim : Claim} {f : Finding}
    (recorded : ∀ m ∈ mappings, m.pageSize < Numeral.writeBound)
    (claimed : claim.pageSize.natAbs < Numeral.writeBound)
    (fails : failure? mappings claim = some f) : Explains mappings claim f := by
  unfold failure? at fails
  cases owned : Mapping.owner? mappings claim.address with
  | none =>
    rw [judge_of_unowned owned] at fails
    cases fails
    exact .inl ⟨rfl, Mapping.owner?_eq_none_iff.mp owned⟩
  | some owner =>
    have bound := recorded owner (List.mem_of_find?_eq_some owned)
    rw [judge_of_owner owned bound claimed] at fails
    split_ifs at fails
    · cases fails
      exact .inr ⟨owner, Mapping.owner?_eq_some_iff.mp owned, rfl⟩

/-- Whether judging the claim comes to this outcome. -/
def comesTo (mappings : List Mapping) (outcome : Outcome) (claim : Claim) : Bool :=
  (judge mappings claim).result = .ok outcome

/-- A claim is tolerated exactly if judging it says so. -/
lemma tolerates_eq_comesTo (mappings : List Mapping) :
    tolerates mappings = comesTo mappings .tolerated := by
  funext claim
  unfold tolerates comesTo
  rcases (judge mappings claim).result with fault | (_ | _) <;> rfl

/-- A judgeable claim is equal, is tolerated or fails. -/
lemma length_eq_of_judgeable {mappings : List Mapping} {claims : List Claim}
    (judgeable : ∀ claim ∈ claims, Judgeable mappings claim) :
    claims.length = claims.countP (comesTo mappings .equal) +
      claims.countP (comesTo mappings .tolerated) + (failures mappings claims).length := by
  induction claims with
  | nil => rfl
  | cons claim claims ih =>
    obtain ⟨judgeable_claim, judgeable⟩ := List.forall_mem_cons.mp judgeable
    have rest := ih judgeable
    unfold Judgeable at judgeable_claim
    rcases judged : (judge mappings claim).result with (f | o) | (_ | _)
    · simp [comesTo, failures, failure?, judged] at rest ⊢
      omega
    · exact absurd judged (judgeable_claim o)
    · simp [comesTo, failures, failure?, judged] at rest ⊢
      omega
    · simp [comesTo, failures, failure?, judged] at rest ⊢
      omega

namespace Auditor

/-- What checking a claim outside a run finds, if it fails. -/
def finding? (a : Auditor) (claim : Claim) : Option Finding :=
  match (a.check claim).1 with
  | .error (.finding f) => some f
  | _ => none

/-- What checking a claim finds is what fails of it in a run. -/
lemma finding?_eq (a : Auditor) : a.finding? = failure? a.mappings := by
  funext claim
  unfold finding?
  rw [check_eq]
  rfl

/-- A claim is checked to what it is judged to be. -/
lemma fst_check (a : Auditor) (claim : Claim) :
    (a.check claim).1 = (judge a.mappings claim).result := by
  rw [check_eq]

/-- A run that goes on accounts for every claim. -/
lemma keepGoing_accounts {a : Auditor} (goesOn : a.failFast = false) {claims : List Claim}
    (judgeable : ∀ claim ∈ claims, Judgeable a.mappings claim) :
    (a.runClaims claims).1 =
      .ok
        { checked := claims.length
          tolerated := claims.countP (comesTo a.mappings .tolerated)
          violations := failures a.mappings claims } := by
  have plain_claims : Source.plain.claims claims = claims := by
    induction claims with
    | nil => rfl
    | cons claim claims ih =>
      have := ih (List.forall_mem_cons.mp judgeable).2
      simp [Source.claims, Source.plain] at this ⊢
      exact this
  have readable : Source.plain.fault? claims = none :=
    (Source.fault?_eq_none_iff _).mpr fun claim _ => ⟨some claim, rfl⟩
  show (a.run Source.plain.read claims).1 = _
  rw [run_unstopped Source.plain claims a (by rwa [plain_claims]) (by simp [goesOn]), readable,
    plain_claims]
  simp [conclude, after, reset, plain_claims, tolerates_eq_comesTo]

/-! ## What every call keeps -/

/-- The second auditor can be the first after some calls: it judges by the same mappings in the same
way, and tolerates no more claims than it checks if the first does not. -/
structure Follows (a b : Auditor) : Prop where
  mappings_eq : b.mappings = a.mappings
  failFast_eq : b.failFast = a.failFast
  tolerated_le : a.tolerated ≤ a.checked → b.tolerated ≤ b.checked

variable {α : Type} (source : Source α)

/-- An auditor follows itself. -/
lemma Follows.refl (a : Auditor) : Follows a a := ⟨rfl, rfl, id⟩

/-- What follows from what follows, follows. -/
lemma Follows.trans {a b c : Auditor} (ab : Follows a b) (bc : Follows b c) : Follows a c :=
  ⟨bc.mappings_eq.trans ab.mappings_eq, bc.failFast_eq.trans ab.failFast_eq,
    bc.tolerated_le ∘ ab.tolerated_le⟩

/-- A claim that is counted and judged leaves an auditor that follows. -/
lemma follows_advance (a : Auditor) (violations : List Finding) (claim : Claim) :
    Follows a (a.advance violations claim).2 := by
  rw [advance_eq]
  rcases (judge a.mappings claim).result with (f | o) | (_ | _)
  · cases a.failFast <;> exact ⟨rfl, rfl, Nat.le_succ_of_le⟩
  · exact ⟨rfl, rfl, Nat.le_succ_of_le⟩
  · exact ⟨rfl, rfl, Nat.le_succ_of_le⟩
  · exact ⟨rfl, rfl, Nat.succ_le_succ⟩

/-- An item that is read, whatever it makes, leaves an auditor that follows. -/
lemma follows_take (item : α) (violations : List Finding) (a : Auditor) :
    Follows a (take source.read item violations a).2 := by
  rw [take_eq]
  rcases (source.read item).result with fault | (_ | claim)
  · exact ⟨rfl, rfl, id⟩
  · exact ⟨rfl, rfl, id⟩
  · have noticed : Follows a
        { a.noted (source.read item).notes with consumed := a.consumed + 1 } := ⟨rfl, rfl, id⟩
    exact noticed.trans (follows_advance _ violations claim)

/-- Items that are read until one stops the run leave an auditor that follows. -/
lemma follows_takeAll (items : List α) (violations : List Finding) (a : Auditor) :
    Follows a (takeAll source.read items violations a).2 := by
  induction items generalizing violations a with
  | nil => exact .refl a
  | cons item items ih =>
    have first := follows_take source item violations a
    rw [takeAll]
    rcases taken : take source.read item violations a with ⟨fault | violations', b⟩
    · rw [taken] at first
      exact first
    · rw [taken] at first
      exact first.trans (ih violations' b)

/-- A whole run. Its counts begin at zero, so no more claims are tolerated than checked after it. -/
lemma follows_run (items : List α) (a : Auditor) :
    Follows a (a.run source.read items).2 ∧
      (a.run source.read items).2.tolerated ≤ (a.run source.read items).2.checked := by
  have taken := follows_takeAll source items [] a.reset
  have counted := taken.tolerated_le (Nat.le_refl 0)
  rw [run_eq]
  rcases ends : takeAll source.read items [] a.reset with ⟨fault | violations, b⟩ <;>
    · rw [ends] at taken counted
      exact ⟨⟨taken.mappings_eq, taken.failFast_eq, fun _ => counted⟩, counted⟩

/-- The auditor without a journal and before any call. -/
def fresh (a : Auditor) : Auditor := { mappings := a.mappings, failFast := a.failFast }

/-- A run comes to what it comes to for a fresh auditor, and counts the same. -/
lemma run_eq_fresh (items : List α) (a : Auditor) :
    let r := a.run source.read items
    let r' := a.fresh.run source.read items
    r.1 = r'.1 ∧ r.2.checked = r'.2.checked ∧ r.2.tolerated = r'.2.tolerated ∧
      r.2.consumed = r'.2.consumed := by
  intro r r'
  obtain ⟨result, b, es, runs⟩ := stepsAtAnyJournal_run source items a.fresh
  -- The reset leaves nothing of the earlier calls but the journal.
  have here : r = _ := runs a.journal
  have there : r' = _ := runs none
  rw [here, there]
  exact ⟨rfl, rfl, rfl, rfl⟩

/-! ## Any number of calls -/

/-- What a caller may ask of an auditor. -/
inductive Call where
  | check (claim : Claim)
  | run {α : Type} (source : Source α) (items : List α)

/-- The auditor after a call, whatever came of it. -/
def call (a : Auditor) : Call → Auditor
  | .check claim => (a.check claim).2
  | .run source items => (a.run source.read items).2

/-- The auditor after some calls. -/
def afterCalls (a : Auditor) (calls : List Call) : Auditor := calls.foldl call a

/-- The counts of the latest run among some calls, as a fresh auditor makes it: how many claims it
checked and how many it tolerated. Before any run both are those given. -/
def latestCounts (fresh : Auditor) (counts : Nat × Nat) : List Call → Nat × Nat
  | [] => counts
  | .check _ :: calls => latestCounts fresh counts calls
  | .run source items :: calls =>
    let b := (fresh.run source.read items).2
    latestCounts fresh (b.checked, b.tolerated) calls

/-- Every call leaves an auditor that follows. -/
lemma follows_call (a : Auditor) (c : Call) : Follows a (a.call c) := by
  cases c with
  | check claim => exact ⟨rfl, rfl, id⟩
  | run source items => exact (follows_run source items a).1

/-- Any calls leave an auditor that follows. -/
lemma follows_afterCalls (a : Auditor) (calls : List Call) : Follows a (a.afterCalls calls) := by
  induction calls generalizing a with
  | nil => exact .refl a
  | cons c calls ih => exact (follows_call a c).trans (ih (a.call c))

/-- Calls leave an auditor that is the same when fresh. -/
lemma Follows.fresh_eq {a b : Auditor} (follows : Follows a b) : b.fresh = a.fresh := by
  rw [fresh, follows.mappings_eq, follows.failFast_eq, fresh]

/-- The counts after some calls are those of the latest run. -/
lemma counts_after (a : Auditor) (calls : List Call) :
    ((a.afterCalls calls).checked, (a.afterCalls calls).tolerated) =
      latestCounts a.fresh (a.checked, a.tolerated) calls := by
  induction calls generalizing a with
  | nil => rfl
  | cons c calls ih =>
    show (((a.call c).afterCalls calls).checked, ((a.call c).afterCalls calls).tolerated) = _
    rw [ih, (follows_call a c).fresh_eq]
    cases c with
    | check claim => rfl
    | run source items =>
      obtain ⟨-, checked, tolerated, -⟩ := run_eq_fresh source items a
      rw [latestCounts, ← checked, ← tolerated]
      rfl

/-- **A verdict accounts for every claim, and an auditor has no memory.** After any calls, a run
that goes on counts every claim and gathers the finding of each that fails. Whatever the mode, a run
comes to what it comes to for a fresh auditor, checking a claim outside a run changes no count, and
the counts are those of the latest run. -/
theorem auditor_accounts (mappings : List Mapping) (failFast : Bool) (journal : Option Journal)
    (calls : List Call) :
    let fresh : Auditor := { mappings, failFast }
    let a := ({ fresh with journal } : Auditor).afterCalls calls
    (∀ claims : List Claim, failFast = false →
      (∀ m ∈ mappings, m.pageSize < Numeral.writeBound) →
      (∀ claim ∈ claims, claim.pageSize.natAbs < Numeral.writeBound) →
      ∃ verdict, (a.runClaims claims).1 = .ok verdict ∧
        verdict.checked = claims.length ∧
        verdict.tolerated = claims.countP (fun claim => (a.check claim).1 = .ok .tolerated) ∧
        verdict.violations = claims.filterMap a.finding? ∧
        (∀ claim ∈ claims, ∀ f, a.finding? claim = some f → Explains mappings claim f) ∧
        verdict.checked =
          claims.countP (fun claim => (a.check claim).1 = .ok .equal) + verdict.tolerated +
            verdict.violations.length) ∧
    (∀ {α : Type} (source : Source α) (items : List α),
      (a.run source.read items).1 = (fresh.run source.read items).1) ∧
    (∀ claim, (a.check claim).2.checked = a.checked ∧ (a.check claim).2.tolerated = a.tolerated) ∧
    (a.checked, a.tolerated) = latestCounts fresh (0, 0) calls ∧
    a.tolerated ≤ a.checked := by
  intro fresh a
  have follows : Follows { fresh with journal } a := follows_afterCalls _ calls
  have mappings_eq : a.mappings = mappings := follows.mappings_eq
  refine ⟨?_, ?_, fun claim => ⟨rfl, rfl⟩, counts_after _ calls,
    follows.tolerated_le (Nat.le_refl 0)⟩
  · intro claims goesOn recorded claimed
    have judgeable (claim : Claim) (mem : claim ∈ claims) : Judgeable a.mappings claim :=
      mappings_eq ▸ judgeable_of_lt recorded (claimed claim mem)
    have all := length_eq_of_judgeable judgeable
    simp only [fst_check, finding?_eq]
    refine ⟨_, keepGoing_accounts (follows.failFast_eq.trans goesOn) judgeable, rfl, rfl, rfl,
      ?_, congrArg Int.ofNat all⟩
    intro claim mem f fails
    rw [mappings_eq] at fails
    exact explains_of_failure? recorded (claimed claim mem) fails
  · intro α source items
    obtain ⟨same, -⟩ := run_eq_fresh source items a
    rw [same, follows.fresh_eq]
    rfl

/-- After a claim that fails and a trace whose second line cannot be read, the counts are those of
the trace. The next run accounts for its own claims alone. -/
theorem auditor_accounts_after_failures :
    let m : Mapping := ⟨0x1000, 0x2000, 4, true, false, by decide, by decide, by decide⟩
    let lines : List (Text × Nat) :=
      [("base=0x1000 page_size=2M", 1), ("base=0x1000 page_size=4KB", 2)]
    let calls : List Call :=
      [.check { address := 0x3000, pageSize := 4 }, .run Source.trace lines]
    let a := ({ mappings := [m], failFast := false } : Auditor).afterCalls calls
    let claims : List Claim :=
      [{ address := 0x1000, pageSize := 4 }, { address := 0x1000, pageSize := 2 },
        { address := 0x1fff, pageSize := 8 }, { address := 0x2000, pageSize := 4 }]
    (a.checked, a.tolerated) = (1, 1) ∧
      ∃ verdict, (a.runClaims claims).1 = .ok verdict ∧ verdict.checked = 4 ∧
        verdict.tolerated = 1 ∧
        verdict.violations = [.mismatch 0x1000 4 2 m, .unowned 0x2000] := by
  intro m lines calls a claims
  obtain ⟨accounts, -, -, counts, -⟩ := auditor_accounts [m] false none calls
  have latest : latestCounts { mappings := [m], failFast := false } (0, 0) calls = (1, 1) := by
    decide +kernel
  have recorded : ∀ m' ∈ [m], m'.pageSize < Numeral.writeBound := by decide +kernel
  have claimed : ∀ claim ∈ claims, claim.pageSize.natAbs < Numeral.writeBound := by
    decide +kernel
  obtain ⟨verdict, ends, checked, tolerated, violations, -⟩ := accounts claims rfl recorded claimed
  refine ⟨counts.trans latest, verdict, ends, checked, ?_, ?_⟩
  · rw [tolerated]
    decide +kernel
  · rw [violations]
    decide +kernel

end Auditor

end Audit

end PageAudit
