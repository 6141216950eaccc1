import PageAudit.Proofs.Audit.Hopeless
import PageAudit.Proofs.Spelling

/-!
# Conversion of page sizes

Which tokens are page sizes, and what they come to. A token is a page size if it is a numeral, in
digits of any script, with one more character behind it (`Measured`); every other token is
malformed. The character may be the letter of a unit (`IsUnit`). Then the numeral counts that many
KB, and nothing is noted; behind any other character it counts nothing, and that is a warning.

`conversion_follows_grammar` is the main result. It ends with the numerals as they are written: a
number of some unit is converted exactly, and to the same as 1024 times the number of the unit
below.
-/

namespace PageAudit.PageSize

open Audit Logged

/-- The character is, in either case, the letter of a unit of 1024 to this power KB. -/
inductive IsUnit (c : CodePoint) : Nat → Prop
  | kilo : c = 'K' ∨ c = 'k' → IsUnit c 0
  | mega : c = 'M' ∨ c = 'm' → IsUnit c 1
  | giga : c = 'G' ∨ c = 'g' → IsUnit c 2

/-- What is noted of a token whose last character is the letter of no unit. -/
def unitWarning (unit : CodePoint) (token : Text) (line : Option Int) : Entry where
  level := .warning
  source := "trace"
  message := unknownUnit unit token
  line := line

variable {token digits : Text} {unit : CodePoint} {i : Nat}

/-! ## Units -/

/-- The size of a unit is its power of 1024. -/
lemma IsUnit.unitKB? (is_unit : IsUnit unit i) : unitKB? unit = some (1024 ^ i) := by
  cases is_unit with
  | kilo letter => obtain rfl | rfl := letter <;> rfl
  | mega letter => obtain rfl | rfl := letter <;> rfl
  | giga letter => obtain rfl | rfl := letter <;> rfl

/-- A letter that is no unit has no size. -/
lemma unitKB?_of_not_isUnit (unknown : ∀ i, ¬IsUnit unit i) : unitKB? unit = none := by
  unfold PageSize.unitKB?
  rw [if_neg fun letter => unknown 0 (.kilo letter), if_neg fun letter => unknown 1 (.mega letter),
    if_neg fun letter => unknown 2 (.giga letter)]

/-! ## Tokens -/

variable (line : Option Int) (journal : Option Journal)

/-- A token that is no page size is malformed, and nothing is noted of it. -/
lemma on_inKB_of_not_measured (malformed : ¬∃ digits unit, Measured token digits unit) :
    (inKB token line).on journal =
      (.error (.finding (.trace (.malformedSize token) line)), journal) := by
  have unsplit : split? token = none := by
    rw [Option.eq_none_iff_forall_ne_some]
    rintro ⟨digits, unit⟩ split
    exact malformed ⟨digits, unit, split?_eq_some_iff.mp split⟩
  unfold inKB
  rw [unsplit]
  rfl

/-- A token that is a page size may have too long a numeral, but there is nothing to find. -/
lemma on_inKB_ne_finding (measured : Measured token digits unit) (f : Finding) :
    ((inKB token line).on journal).1 ≠ .error (.finding f) := by
  rw [(oblivious_inKB token line).on_eq, result_inKB, split?_eq_some_iff.mpr measured]
  dsimp only
  cases Numeral.read digits with
  | error o => exact nofun
  | ok count => exact nofun

/-- The numeral of a page size is read, and then the unit is looked at. -/
lemma on_inKB_of_measured (measured : Measured token digits unit)
    (short : digits.length ≤ Numeral.maxDigits) {n : Nat}
    (spells : Numeral.Spells 10 Text.digitValue? digits n) :
    (inKB token line).on journal =
      match unitKB? unit with
      | some kb => (.ok (n * kb), journal)
      | none => (.ok 0, Journal.add? journal (unitWarning unit token line)) := by
  have reads : Numeral.read digits = .ok n := by
    rw [Numeral.read_of_length_le short, spells.value.2]
  unfold inKB
  rw [split?_eq_some_iff.mpr measured]
  dsimp only
  rw [reads]
  cases PageSize.unitKB? unit with
  | some kb => rfl
  | none => rfl

/-! ## Numerals as they are written -/

/-- A number is written in digits, so a letter behind it makes a page size. -/
lemma measured_toString (is_unit : IsUnit unit i) (n : Nat) :
    Measured (Text.ofString (toString n) ++ [unit]) (Text.ofString (toString n)) unit := by
  have spells := Numeral.spells_toString n
  exact ⟨rfl, spells.1, spells.value.1, isDigit_of_unitKB? is_unit.unitKB?⟩

/-- A number of some unit is converted exactly. -/
lemma on_inKB_toString (is_unit : IsUnit unit i) {n : Nat} (bounded : n < Numeral.writeBound) :
    (inKB (Text.ofString (toString n) ++ [unit]) line).on journal =
      (.ok (n * 1024 ^ i), journal) := by
  have measured := measured_toString is_unit n
  have short := Numeral.length_toString_le_iff.mpr bounded
  rw [on_inKB_of_measured line journal measured short (Numeral.spells_toString n),
    is_unit.unitKB?]

/-- **Page sizes are converted by their grammar, and exactly.** A token is refused exactly if it is
no page size, and then nothing is noted. A page size whose numeral can be read comes to the number
that the numeral spells in KB of its unit; without a unit it comes to zero, and one warning is
noted. So a number as it is written is converted exactly, and to the same as 1024 times the number
of the unit below. -/
theorem conversion_follows_grammar (line : Option Int) (journal : Option Journal) :
    (∀ token : Text,
      ((∃ defect number,
          ((inKB token line).on journal).1 = .error (.finding (.trace defect number))) ↔
        ¬∃ digits unit, Measured token digits unit) ∧
      ((¬∃ digits unit, Measured token digits unit) →
        (inKB token line).on journal =
          (.error (.finding (.trace (.malformedSize token) line)), journal)) ∧
      ∀ digits unit, Measured token digits unit → digits.length ≤ Numeral.maxDigits →
        ∃ n, Numeral.Spells 10 Text.digitValue? digits n ∧
          (∀ i, IsUnit unit i → (inKB token line).on journal = (.ok (n * 1024 ^ i), journal)) ∧
          ((∀ i, ¬IsUnit unit i) → (inKB token line).on journal =
            (.ok 0, Journal.add? journal (unitWarning unit token line)))) ∧
    (∀ (n : Nat) (unit : CodePoint) (i : Nat), n < Numeral.writeBound → IsUnit unit i →
      (inKB (Text.ofString (toString n) ++ [unit]) line).on journal =
        (.ok (n * 1024 ^ i), journal)) ∧
    ∀ (n : Nat) (unit below : CodePoint) (i : Nat), 1024 * n < Numeral.writeBound →
      IsUnit unit (i + 1) → IsUnit below i →
      (inKB (Text.ofString (toString n) ++ [unit]) line).on journal =
        (inKB (Text.ofString (toString (1024 * n)) ++ [below]) line).on journal := by
  refine ⟨fun token => ⟨⟨?_, ?_⟩, on_inKB_of_not_measured line journal, ?_⟩, ?_, ?_⟩
  · rintro ⟨defect, number, refused⟩ ⟨digits, unit, measured⟩
    exact on_inKB_ne_finding line journal measured _ refused
  · intro malformed
    rw [on_inKB_of_not_measured line journal malformed]
    exact ⟨_, _, rfl⟩
  · intro digits unit measured short
    obtain ⟨n, spells⟩ : ∃ n, Numeral.Spells 10 Text.digitValue? digits n :=
      Numeral.exists_spells_of_all measured.2.1 measured.2.2.1
    refine ⟨n, spells, ?_, ?_⟩
    · intro i is_unit
      rw [on_inKB_of_measured line journal measured short spells, is_unit.unitKB?]
    · intro unknown
      rw [on_inKB_of_measured line journal measured short spells, unitKB?_of_not_isUnit unknown]
  · intro n unit i bounded is_unit
    exact on_inKB_toString line journal is_unit bounded
  · intro n unit below i bounded is_unit is_below
    have smaller : n < Numeral.writeBound := by omega
    rw [on_inKB_toString line journal is_unit smaller,
      on_inKB_toString line journal is_below bounded]
    have same : n * 1024 ^ (i + 1) = 1024 * n * 1024 ^ i := by ring
    rw [same]

/-- Digits of two scripts spell one number, a letter that only looks like a unit is none, and with
one more letter behind its unit a token is no page size. -/
theorem conversion_of_mixed_scripts :
    let mixed : Text := "\u0660\u06642m"
    let lookalike : Text := "8\u212a"
    let journal : Journal := { threshold := .debug }
    (inKB mixed none).on (some journal) = (.ok (42 * 1024), some journal) ∧
      (inKB lookalike none).on (some journal) =
        (.ok 0, some (journal.record (unitWarning '\u212a' lookalike none))) ∧
      (∃ defect number,
        ((inKB "4KB" none).on (some journal)).1 = .error (.finding (.trace defect number))) ∧
      (inKB "4G" none).on (some journal) = (inKB "4096M" none).on (some journal) := by
  intro mixed lookalike journal
  obtain ⟨grammar, -, scales⟩ := conversion_follows_grammar none (some journal)
  refine ⟨?_, ?_, ?_, ?_⟩
  · have measured : Measured mixed "\u0660\u06642" 'm' := ⟨rfl, nofun, by decide, by decide⟩
    obtain ⟨n, spells, converts, -⟩ := (grammar mixed).2.2 _ _ measured (by decide)
    obtain rfl : n = 42 := by
      rw [← spells.value.2]
      decide
    exact converts 1 (.mega (.inr rfl))
  · have measured : Measured lookalike "8" '\u212a' := ⟨rfl, nofun, by decide, by decide⟩
    have unknown (i : Nat) : ¬IsUnit '\u212a' i := by
      intro is_unit
      cases is_unit.unitKB?
    obtain ⟨n, -, -, warns⟩ := (grammar lookalike).2.2 _ _ measured (by decide)
    exact warns unknown
  · apply (grammar "4KB").1.mpr
    rintro ⟨digits, unit, measured⟩
    cases split?_eq_some_iff.mpr measured
  · have few : 4 ≤ Numeral.maxDigits := by decide
    have bounded : 1024 * 4 < Numeral.writeBound :=
      Nat.lt_of_lt_of_le (by decide) (Numeral.pow_le_writeBound few)
    exact scales 4 'G' 'M' 1 bounded (.giga (.inl rfl)) (.mega (.inl rfl))

end PageAudit.PageSize
