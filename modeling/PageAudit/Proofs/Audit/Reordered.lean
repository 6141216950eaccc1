import Mathlib.Data.List.Pairwise
import PageAudit.Proofs.Audit.Calls

/-!
# Mappings in another order

The owner of an address is the mapping that covers it at the first place (`Mapping.StandsFirst`).
Of mappings that are pairwise disjoint at most one covers an address, so its owner is the same in
whatever order they stand (`Mapping.owner?_of_perm`). A judgement asks nothing else of the mappings,
and neither does a whole run (`Auditor.run_given`). `order_of_disjoint_mappings` is the main result.
-/

namespace PageAudit

namespace Mapping

/-- A mapping covers the addresses from its start to its stop. -/
lemma covers_iff {m : Mapping} {address : Int} :
    m.covers address = true ↔ m.start ≤ address ∧ address < m.stop := by
  simp [covers]

/-! ## The first place -/

/-- At this place stands the owner of the address: it covers it, and no mapping at an earlier place
does. -/
structure StandsFirst (mappings : List Mapping) (address : Int) (owner : Mapping) (place : Nat) :
    Prop where
  stands : mappings[place]? = some owner
  covers : owner.start ≤ address ∧ address < owner.stop
  first : ∀ earlier < place, ∀ m, mappings[earlier]? = some m →
    ¬(m.start ≤ address ∧ address < m.stop)

variable {mappings mappings' : List Mapping} {address : Int}

/-- The owner of an address is the mapping that stands first among those that cover it. -/
lemma owner?_eq_some_iff_standsFirst {owner : Mapping} :
    owner? mappings address = some owner ↔ ∃ place, StandsFirst mappings address owner place := by
  constructor
  · intro owned
    obtain ⟨covers, place, bound, stands, first⟩ := List.find?_eq_some_iff_getElem.mp owned
    refine ⟨place, List.getElem?_eq_some_iff.mpr ⟨bound, stands⟩, covers_iff.mp covers, ?_⟩
    intro earlier lt m stands' covers'
    obtain ⟨bound', rfl⟩ := List.getElem?_eq_some_iff.mp stands'
    simpa [covers_iff.mpr covers'] using first earlier lt
  · rintro ⟨place, stands, covers, first⟩
    obtain ⟨bound, stands⟩ := List.getElem?_eq_some_iff.mp stands
    refine List.find?_eq_some_iff_getElem.mpr ⟨covers_iff.mpr covers, place, bound, stands, ?_⟩
    intro earlier lt
    have uncovered := first earlier lt _ (List.getElem?_eq_getElem (Nat.lt_trans lt bound))
    rw [← covers_iff] at uncovered
    simpa using uncovered

/-- An address is unowned exactly if it is outside the bounds of every mapping. -/
lemma owner?_eq_none_iff_bounds :
    owner? mappings address = none ↔
      ∀ m ∈ mappings, ¬(m.start ≤ address ∧ address < m.stop) := by
  simp only [owner?_eq_none_iff, ← covers_iff, Bool.not_eq_true]

/-! ## Disjoint mappings -/

/-- No address lies in both mappings. -/
def Disjoint (m m' : Mapping) : Prop :=
  ∀ address : Int, ¬(m.covers address = true ∧ m'.covers address = true)

/-- Two mappings are disjoint in either order. -/
lemma Disjoint.symm {m m' : Mapping} (disjoint : Disjoint m m') : Disjoint m' m :=
  fun address both => disjoint address both.symm

/-- It does not matter which of two disjoint mappings is named first. -/
instance : Std.Symm Disjoint := ⟨fun _ _ => Disjoint.symm⟩

/-- Mappings are disjoint if one stops where the other starts, or before. -/
lemma disjoint_iff {m m' : Mapping} :
    Disjoint m m' ↔ m.stop ≤ m'.start ∨ m'.stop ≤ m.start := by
  have ordered := m.start_lt_stop
  have ordered' := m'.start_lt_stop
  simp only [Disjoint, covers_iff]
  constructor
  · intro disjoint
    by_contra overlap
    -- Mappings that overlap both cover the later of the two starts.
    apply disjoint (max m.start m'.start : Nat)
    omega
  · intro apart address both
    omega

/-- Whether mappings are disjoint is told by their bounds. -/
instance (m m' : Mapping) : Decidable (Disjoint m m') := decidable_of_iff _ disjoint_iff.symm

/-- Disjoint mappings that cover the same address are one mapping. -/
lemma eq_of_covers (disjoint : mappings.Pairwise Disjoint) {m m' : Mapping} (mem : m ∈ mappings)
    (mem' : m' ∈ mappings) (covers : m.covers address = true) (covers' : m'.covers address = true) :
    m = m' := by
  by_contra differs
  exact disjoint.forall mem mem' differs address ⟨covers, covers'⟩

/-- Of disjoint mappings the owner is any that covers the address. -/
lemma owner?_eq_some_iff_of_disjoint (disjoint : mappings.Pairwise Disjoint) {owner : Mapping} :
    owner? mappings address = some owner ↔ owner ∈ mappings ∧ owner.covers address = true := by
  constructor
  · intro owned
    exact ⟨List.mem_of_find?_eq_some owned, (owner?_eq_some_iff.mp owned).1⟩
  · rintro ⟨mem, covers⟩
    cases owned : owner? mappings address with
    | none =>
      have uncovered := owner?_eq_none_iff.mp owned owner mem
      rw [covers] at uncovered
      cases uncovered
    | some owner' =>
      rw [eq_of_covers disjoint mem (List.mem_of_find?_eq_some owned) covers
        (owner?_eq_some_iff.mp owned).1]

/-- Disjoint mappings have the same owners in every order. -/
lemma owner?_of_perm (disjoint : mappings.Pairwise Disjoint) (perm : mappings'.Perm mappings)
    (address : Int) : owner? mappings' address = owner? mappings address := by
  have disjoint' : mappings'.Pairwise Disjoint :=
    (perm.pairwise_iff fun disjoint => disjoint.symm).mpr disjoint
  apply Option.ext
  intro owner
  rw [owner?_eq_some_iff_of_disjoint disjoint, owner?_eq_some_iff_of_disjoint disjoint',
    perm.mem_iff]

end Mapping

namespace Audit

/-- Mappings with the same owners judge alike. -/
lemma judge_congr {mappings mappings' : List Mapping} {claim : Claim}
    (same : Mapping.owner? mappings' claim.address = Mapping.owner? mappings claim.address) :
    judge mappings' claim = judge mappings claim := by
  unfold judge
  rw [same]

namespace Auditor

/-! ## Runs by other mappings -/

/-- The auditor, given other mappings to judge by. -/
def given (a : Auditor) (mappings : List Mapping) : Auditor := { a with mappings }

section given

variable {α : Type} (source : Source α) {mappings : List Mapping} {a : Auditor}

/-- A claim is judged alike with other mappings, if every claim is. -/
lemma advance_given (alike : ∀ claim, judge mappings claim = judge a.mappings claim)
    (violations : List Finding) (claim : Claim) :
    (a.given mappings).advance violations claim =
      ((a.advance violations claim).1, (a.advance violations claim).2.given mappings) := by
  simp only [advance_eq, given, alike, noted]
  rcases (judge a.mappings claim).result with (f | o) | (_ | _)
  · cases a.failFast <;> rfl
  · rfl
  · rfl
  · rfl

/-- An item is taken alike with other mappings, if every claim is judged alike. -/
lemma take_given (alike : ∀ claim, judge mappings claim = judge a.mappings claim) (item : α)
    (violations : List Finding) :
    take source.read item violations (a.given mappings) =
      ((take source.read item violations a).1,
        (take source.read item violations a).2.given mappings) := by
  rw [take_eq, take_eq]
  rcases (source.read item).result with fault | (_ | claim)
  · rfl
  · rfl
  · exact advance_given (a := { a.noted (source.read item).notes with consumed := a.consumed + 1 })
      alike violations claim

/-- Items are taken alike with other mappings, by induction on them. -/
lemma takeAll_given (alike : ∀ claim, judge mappings claim = judge a.mappings claim)
    (items : List α) (violations : List Finding) :
    takeAll source.read items violations (a.given mappings) =
      ((takeAll source.read items violations a).1,
        (takeAll source.read items violations a).2.given mappings) := by
  induction items generalizing violations a with
  | nil => rfl
  | cons item items ih =>
    rw [takeAll, takeAll, take_given source alike]
    -- Whatever the item does, the mappings that the run goes on with are still alike.
    have follows := follows_take source item violations a
    rcases taken : take source.read item violations a with ⟨fault | violations', b⟩
    · rfl
    · rw [taken] at follows
      apply ih
      rw [follows.mappings_eq]
      exact alike

/-- A run by mappings that judge alike differs in nothing else. -/
lemma run_given (alike : ∀ claim, judge mappings claim = judge a.mappings claim) (items : List α) :
    (a.given mappings).run source.read items =
      ((a.run source.read items).1, (a.run source.read items).2.given mappings) := by
  rw [run_eq, run_eq]
  have taken := takeAll_given source (a := a.reset) alike items []
  rw [show (a.given mappings).reset = a.reset.given mappings from rfl, taken]
  rcases takeAll source.read items [] a.reset with ⟨fault | violations, b⟩
  · rfl
  · rfl

end given

/-- **The earliest owner is found, and the order of disjoint mappings never matters.** An address
has no owner exactly if it lies in no mapping, and otherwise its owner is the mapping at the first
place in which it lies. If the mappings are pairwise disjoint, every address has the same owner in
every order of them. So a run over any claims, in either mode, comes to the same: the same verdict
or fault, the same counts and the same journal. -/
theorem order_of_disjoint_mappings (mappings : List Mapping) :
    (∀ address : Int,
      (Mapping.owner? mappings address = none ↔
        ∀ m ∈ mappings, ¬(m.start ≤ address ∧ address < m.stop)) ∧
      ∀ owner, Mapping.owner? mappings address = some owner ↔
        ∃ place, Mapping.StandsFirst mappings address owner place) ∧
    (mappings.Pairwise Mapping.Disjoint → ∀ mappings' : List Mapping, mappings'.Perm mappings →
      (∀ address, Mapping.owner? mappings' address = Mapping.owner? mappings address) ∧
      ∀ {α : Type} (source : Source α) (items : List α) (a : Auditor), a.mappings = mappings →
        (a.given mappings').run source.read items =
          ((a.run source.read items).1, (a.run source.read items).2.given mappings')) := by
  constructor
  · intro address
    exact ⟨Mapping.owner?_eq_none_iff_bounds, fun _ => Mapping.owner?_eq_some_iff_standsFirst⟩
  · intro disjoint mappings' perm
    have owners := Mapping.owner?_of_perm disjoint perm
    refine ⟨owners, ?_⟩
    rintro α source items a rfl
    exact run_given source (fun claim => judge_congr (owners claim.address)) items

/-- Two mappings that touch, in both orders: the address between them belongs to the second, and a
run that goes on gathers the same failures. -/
theorem order_of_touching_mappings :
    let low : Mapping := ⟨0x1000, 0x2000, 4, true, false, by decide, by decide, by decide⟩
    let high : Mapping := ⟨0x2000, 0x3000, 2048, false, true, by decide, by decide, by decide⟩
    let claims : List Claim :=
      [{ address := 0x2000, pageSize := 4 }, { address := 0x1fff, pageSize := 8 },
        { address := 0x3000, pageSize := 4 }]
    let run (mappings : List Mapping) :=
      ({ mappings, failFast := false } : Auditor).run Source.plain.read claims
    [low, high].Pairwise Mapping.Disjoint ∧ [high, low].Perm [low, high] ∧
      Mapping.owner? [high, low] 0x2000 = some high ∧
      (run [high, low]).1 =
        .ok
          { checked := 3
            tolerated := 1
            violations := [.mismatch 0x2000 2048 4 high, .unowned 0x3000] } := by
  intro low high claims run
  have disjoint : [low, high].Pairwise Mapping.Disjoint := by decide
  have perm : [high, low].Perm [low, high] := List.Perm.swap low high []
  obtain ⟨earliest, unordered⟩ := order_of_disjoint_mappings [low, high]
  obtain ⟨owners, runs⟩ := unordered disjoint [high, low] perm
  have second : Mapping.StandsFirst [low, high] 0x2000 high 1 := ⟨rfl, by decide, by decide⟩
  refine ⟨disjoint, perm, ?_, ?_⟩
  · rw [owners]
    exact ((earliest 0x2000).2 high).mpr ⟨1, second⟩
  · have same := runs Source.plain claims { mappings := [low, high], failFast := false } rfl
    show (({ mappings := [low, high], failFast := false } : Auditor).given
      [high, low] |>.run Source.plain.read claims).1 = _
    rw [same]
    decide +kernel

end Auditor

end Audit

end PageAudit
