import PageAudit.Proofs.Audit.Run

/-!
# Stopping at the first failure

The two ways to run over a source, on one auditor. `failFast_refines_keepGoing` says that stopping
at the first failure tells the beginning of what going on would have told. Without a failure the two
runs are the same (`failFast_eq_keepGoing`). With one, the stopped run raises the first failure,
counts the claims through it, and leaves a beginning of the other run's journal (`failFast_stops`).
-/

namespace PageAudit.Audit

open Auditor

variable {α : Type} (source : Source α) (items : List α) (a : Auditor)

/-- A run that goes on gathers every failure, unless an item cannot be read. -/
lemma keepGoing_ends (judgeable : ∀ claim ∈ source.claims items, Judgeable a.mappings claim) :
    match source.fault? items with
    | none => ∃ verdict, ({ a with failFast := false }.run source.read items).1 = .ok verdict ∧
        verdict.violations = failures a.mappings (source.claims items)
    | some fault => ({ a with failFast := false }.run source.read items).1 = .error fault := by
  rw [run_unstopped source items { a with failFast := false } judgeable nofun]
  cases source.fault? items with
  | none => exact ⟨_, rfl, rfl⟩
  | some fault => rfl

/-- Without a failure it does not matter whether a failure would stop the run. -/
lemma failFast_eq_keepGoing
    (judgeable : ∀ claim ∈ source.claims items, Judgeable a.mappings claim)
    (unfailing : failures a.mappings (source.claims items) = []) :
    let fast := { a with failFast := true }.run source.read items
    let slow := { a with failFast := false }.run source.read items
    fast.1 = slow.1 ∧ fast.2.checked = slow.2.checked ∧ fast.2.tolerated = slow.2.tolerated ∧
      fast.2.journal = slow.2.journal := by
  intro fast slow
  have fast_eq : fast = _ :=
    run_unstopped source items { a with failFast := true } judgeable fun _ => unfailing
  have slow_eq : slow = _ := run_unstopped source items { a with failFast := false } judgeable nofun
  rw [fast_eq, slow_eq]
  cases source.fault? items with
  | none => exact ⟨rfl, rfl, rfl, rfl⟩
  | some fault => exact ⟨rfl, rfl, rfl, rfl⟩

/-- With a failure the stopped run raises the first, has counted the claims through it, and leaves a
beginning of what the other run leaves. -/
lemma failFast_stops (judgeable : ∀ claim ∈ source.claims items, Judgeable a.mappings claim)
    {first : Finding} {rest : List Finding}
    (failed : failures a.mappings (source.claims items) = first :: rest) :
    let fast := { a with failFast := true }.run source.read items
    let slow := { a with failFast := false }.run source.read items
    fast.1 = .error (.finding first) ∧
      (∃ before claim after, source.claims items = before ++ claim :: after ∧
        failures a.mappings before = [] ∧ failure? a.mappings claim = some first ∧
        fast.2.checked = before.length + 1 ∧
        fast.2.tolerated = before.countP (tolerates a.mappings)) ∧
      Journal.held fast.2.journal <+: Journal.held slow.2.journal := by
  intro fast slow
  obtain ⟨before, item, claim, after, rfl, readable, unfailing, made, fails⟩ :=
    source.exists_first_failure failed
  have claims_eq := Source.claims_append_cons after readable made
  have transcript_eq : source.transcript a.mappings (before ++ item :: after) =
      source.transcript a.mappings before ++
        ((source.read item).notes ++ (judge a.mappings claim).notes) ++
        source.transcript a.mappings after := by
    rw [Source.transcript_append _ _ readable]
    simp only [Source.transcript, made, List.append_assoc]
  have judgeable_before (claim : Claim) (h : claim ∈ source.claims before) :
      Judgeable a.mappings claim :=
    judgeable claim (claims_eq ▸ List.mem_append_left _ h)
  have fast_eq : fast = _ :=
    run_stopped source (a := { a with failFast := true }) rfl readable judgeable_before unfailing
      made fails after
  refine ⟨by rw [fast_eq], ?_, ?_⟩
  · exact ⟨source.claims before, claim, source.claims after, claims_eq, unfailing, fails,
      by rw [fast_eq], by rw [fast_eq]⟩
  · obtain ⟨closing, -, slow_journal⟩ :=
      journal_unstopped source _ { a with failFast := false } judgeable
        (absurd · Bool.false_ne_true)
    have fast_journal : fast.2.journal =
        Journal.addAll? a.journal (source.transcript a.mappings before ++
          ((source.read item).notes ++ (judge a.mappings claim).notes)) := by
      rw [fast_eq]
      exact (Journal.addAll?_append ..).symm
    rw [slow_journal, transcript_eq, List.append_assoc _ _ closing, Journal.addAll?_append,
      ← fast_journal]
    exact Journal.held_prefix_addAll? _ _

/-- **Fail-fast refines keep-going.** The run that goes on gathers every failure, or ends with the
fault of its source. Without a failure the other run does the same in every respect. With one it
raises the first, and its counts and its journal are those of going on up to there. -/
theorem failFast_refines_keepGoing (recorded : ∀ m ∈ a.mappings, m.pageSize < Numeral.writeBound)
    (claimed : ∀ claim ∈ source.claims items, claim.pageSize.natAbs < Numeral.writeBound) :
    let fast := { a with failFast := true }.run source.read items
    let slow := { a with failFast := false }.run source.read items
    let failed := failures a.mappings (source.claims items)
    (match source.fault? items with
      | none => ∃ verdict, slow.1 = .ok verdict ∧ verdict.violations = failed
      | some fault => slow.1 = .error fault) ∧
    (failed = [] →
      fast.1 = slow.1 ∧ fast.2.checked = slow.2.checked ∧ fast.2.tolerated = slow.2.tolerated ∧
        fast.2.journal = slow.2.journal) ∧
    (∀ first rest, failed = first :: rest →
      fast.1 = .error (.finding first) ∧
      (∃ before claim after, source.claims items = before ++ claim :: after ∧
        failures a.mappings before = [] ∧ failure? a.mappings claim = some first ∧
        fast.2.checked = before.length + 1 ∧
        fast.2.tolerated = before.countP (tolerates a.mappings)) ∧
      Journal.held fast.2.journal <+: Journal.held slow.2.journal) := by
  have judgeable (claim : Claim) (h : claim ∈ source.claims items) : Judgeable a.mappings claim :=
    judgeable_of_lt recorded (claimed claim h)
  refine ⟨keepGoing_ends source items a judgeable, ?_, ?_⟩
  · exact failFast_eq_keepGoing source items a judgeable
  · intro first rest failed
    exact failFast_stops source items a judgeable failed

/-- The second of these claims stops the run that stops at a failure; the other run gathers it and
the third. -/
theorem failFast_stops_at_second_claim :
    let m : Mapping := ⟨0x1000, 0x2000, 4, true, false, by decide, by decide, by decide⟩
    let a : Auditor := { mappings := [m], journal := some { threshold := .debug } }
    let claims : List Claim :=
      [{ address := 0x1000, pageSize := 8 }, { address := 0x1000, pageSize := 2 },
        { address := 0x2000, pageSize := 4 }]
    let run (failFast : Bool) := { a with failFast }.run Source.plain.read claims
    (∀ m ∈ a.mappings, m.pageSize < Numeral.writeBound) ∧
      (∀ claim ∈ Source.plain.claims claims, claim.pageSize.natAbs < Numeral.writeBound) ∧
      (∃ verdict, (run false).1 = .ok verdict ∧
        verdict.violations = [.mismatch 0x1000 4 2 m, .unowned 0x2000]) ∧
      (run true).1 = .error (.finding (.mismatch 0x1000 4 2 m)) := by
  intro m a claims run
  have recorded : ∀ m ∈ a.mappings, m.pageSize < Numeral.writeBound := by decide +kernel
  have claimed : ∀ claim ∈ Source.plain.claims claims,
      claim.pageSize.natAbs < Numeral.writeBound := by decide +kernel
  have failed : failures a.mappings (Source.plain.claims claims) =
      [.mismatch 0x1000 4 2 m, .unowned 0x2000] := by decide +kernel
  have ends : Source.plain.fault? claims = none := by decide +kernel
  obtain ⟨goesOn, -, stops⟩ := failFast_refines_keepGoing Source.plain claims a recorded claimed
  rw [ends, failed] at goesOn
  obtain ⟨stopped, -, -⟩ := stops _ _ failed
  exact ⟨recorded, claimed, goesOn, stopped⟩

end PageAudit.Audit
