import PageAudit.Proofs.Audit.Judgement
import PageAudit.Proofs.Claim.Line

/-!
# Page size tokens

A token is *measured* if it is a decimal numeral with one more character behind it
(`PageSize.Measured`), and it *spells* a page size if that character is a unit (`PageSize.Spells`).
Such a token is turned into the size that it spells, if the numeral can be read (`inKB_of_spells`),
and every token that is turned into a positive size spells it (`spells_of_inKB`). What can be read
and written of a claim is bounded by the numeral of its token alone (`Claim.SizeFits`), however long
its address and its line are.
-/

namespace PageAudit

open Logged

namespace PageSize

/-- A token is a numeral in these digits, followed by one more character. -/
def Measured (token digits : Text) (unit : CodePoint) : Prop :=
  token = digits ++ [unit] ∧ digits ≠ [] ∧ digits.all Text.isDigit = true ∧
    Text.isDigit unit = false

/-- The numeral of a token, if it is measured, has at most so many digits. -/
def TokenWithin (most : Nat) (token : Text) : Prop :=
  ∀ digits unit, Measured token digits unit → digits.length ≤ most

/-- The numeral of a token can be read, and the size that it spells can be written. -/
def TokenFits (token : Text) : Prop :=
  ∀ digits unit, Measured token digits unit → digits.length ≤ Numeral.maxDigits ∧
    ∀ kb ∈ unitKB? unit, Numeral.value digits * kb < Numeral.writeBound

/-- The token is a decimal numeral followed by a unit, and this is its size in KB. -/
def Spells (token : Text) (size : Nat) : Prop :=
  ∃ digits unit kb, token = digits ++ [unit] ∧ digits ≠ [] ∧ digits.all Text.isDigit = true ∧
    unitKB? unit = some kb ∧ size = Numeral.value digits * kb

/-- A unit is no digit. -/
lemma isDigit_of_unitKB? {unit : CodePoint} {kb : Nat} (h : unitKB? unit = some kb) :
    Text.isDigit unit = false := by
  unfold unitKB? at h
  split_ifs at h with kilo mega giga
  · obtain rfl | rfl := kilo <;> decide
  · obtain rfl | rfl := mega <;> decide
  · obtain rfl | rfl := giga <;> decide

/-- The largest unit has seven digits. -/
lemma unitKB?_le {unit : CodePoint} {kb : Nat} (h : unitKB? unit = some kb) : kb ≤ 10 ^ 7 := by
  unfold unitKB? at h
  split_ifs at h <;> cases h <;> decide

/-- How a token is split. -/
lemma split?_eq_some_iff {token digits : Text} {unit : CodePoint} :
    split? token = some (digits, unit) ↔ Measured token digits unit := by
  constructor
  · intro h
    unfold split? at h
    split at h
    · next d digits' unit' taken dropped =>
      cases h
      refine ⟨?_, nofun, ?_, ?_⟩
      · rw [← taken, ← dropped, List.takeWhile_append_dropWhile]
      · rw [← taken]
        exact List.all_takeWhile
      · have first := List.head?_dropWhile_not Text.isDigit token
        rw [dropped] at first
        simpa using first
    · cases h
  · rintro ⟨rfl, nonempty, digital, noDigit⟩
    have digital := List.all_eq_true.mp digital
    obtain ⟨d, digits, rfl⟩ := List.exists_cons_of_ne_nil nonempty
    simp only [split?, List.takeWhile_append_of_pos digital, List.dropWhile_append_of_pos digital]
    simp [noDigit]

/-- A token is measured in one way only. -/
lemma Measured.unique {token digits digits' : Text} {unit unit' : CodePoint}
    (measured : Measured token digits unit) (measured' : Measured token digits' unit') :
    digits = digits' ∧ unit = unit' := by
  have split := split?_eq_some_iff.mpr measured
  rw [split?_eq_some_iff.mpr measured'] at split
  cases split
  exact ⟨rfl, rfl⟩

/-- A token is converted by its numeral and its unit. -/
lemma result_inKB (token : Text) (line : Option Int) :
    (inKB token line).result =
      match split? token with
      | none => .error (.finding (.trace (.malformedSize token) line))
      | some (digits, unit) =>
        (ofNumeral (Numeral.read digits)).map fun count => count * (unitKB? unit).getD 0 := by
  unfold inKB
  cases split? token with
  | none => rfl
  | some parts =>
    obtain ⟨digits, unit⟩ := parts
    simp only [result_bind, oblivious_ofExcept, result_ofExcept]
    cases ofNumeral (Numeral.read digits) with
    | error fault => rfl
    | ok count =>
      cases unitKB? unit with
      | none => rfl
      | some kb => rfl

/-- A token that is turned into a positive size spells it. -/
lemma spells_of_inKB {token : Text} {line : Option Int} {size : Nat}
    (ok : (inKB token line).result = .ok size) (positive : 0 < size) : Spells token size := by
  rw [result_inKB] at ok
  cases split : split? token with
  | none =>
    rw [split] at ok
    cases ok
  | some parts =>
    obtain ⟨digits, unit⟩ := parts
    obtain ⟨token_eq, nonempty, digital, -⟩ := split?_eq_some_iff.mp split
    simp only [split] at ok
    cases reads : Numeral.read digits with
    | error o =>
      rw [reads] at ok
      cases ok
    | ok count =>
      obtain ⟨-, rfl⟩ := Numeral.of_read_eq_ok reads
      rw [reads] at ok
      obtain rfl : Numeral.value digits * (unitKB? unit).getD 0 = size := Except.ok.inj ok
      cases known : unitKB? unit with
      | none => simp [known] at positive
      | some kb => exact ⟨digits, unit, kb, token_eq, nonempty, digital, known, rfl⟩

/-- Whether the numeral of a token is short enough is decided by how the token is split. -/
instance (most : Nat) (token : Text) : Decidable (TokenWithin most token) :=
  decidable_of_iff ((split? token).all (fun parts => parts.1.length ≤ most) = true)
    (by simp [TokenWithin, Option.all_eq_true, split?_eq_some_iff])

/-- A unit has at most seven digits, so some must be left for it. -/
lemma TokenWithin.fits {token : Text} {most : Nat} (within : TokenWithin most token)
    (few : most + 7 ≤ Numeral.maxDigits) : TokenFits token := by
  intro digits unit measured
  have short := within digits unit measured
  refine ⟨by omega, fun kb known => ?_⟩
  have value_lt : Numeral.value digits < 10 ^ most :=
    Nat.lt_of_lt_of_le (Numeral.value_lt_pow digits) (Nat.pow_le_pow_right (by decide) short)
  calc Numeral.value digits * kb
      ≤ Numeral.value digits * 10 ^ 7 := Nat.mul_le_mul_left _ (unitKB?_le known)
    _ < 10 ^ most * 10 ^ 7 := Nat.mul_lt_mul_of_pos_right value_lt (by decide)
    _ = 10 ^ (most + 7) := (Nat.pow_add 10 most 7).symm
    _ ≤ Numeral.writeBound := Numeral.pow_le_writeBound few

/-- A token that spells a size is measured, and its unit is known. -/
lemma Spells.measured {token : Text} {size : Nat} (spells : Spells token size) :
    ∃ digits unit kb, Measured token digits unit ∧ unitKB? unit = some kb ∧
      size = Numeral.value digits * kb := by
  obtain ⟨digits, unit, kb, token_eq, nonempty, digital, known, size_eq⟩ := spells
  exact ⟨digits, unit, kb, ⟨token_eq, nonempty, digital, isDigit_of_unitKB? known⟩, known, size_eq⟩

/-- A token is turned into the size that it spells, if its numeral can be read. -/
lemma inKB_of_spells {token : Text} {size : Nat} (spells : Spells token size)
    (fits : TokenFits token) (line : Option Int) : (inKB token line).result = .ok size := by
  obtain ⟨digits, unit, kb, measured, known, rfl⟩ := spells.measured
  have short := (fits digits unit measured).1
  rw [result_inKB, split?_eq_some_iff.mpr measured]
  simp only [known, Numeral.read_of_length_le short]
  rfl

/-- A token spells one size at most, if its numeral can be read. -/
lemma Spells.eq {token : Text} {size size' : Nat} (spells : Spells token size)
    (spells' : Spells token size') (fits : TokenFits token) : size = size' := by
  have made := inKB_of_spells spells fits none
  rw [inKB_of_spells spells' fits none] at made
  exact (Except.ok.inj made).symm

/-- A size that a fitting token spells can be written. -/
lemma Spells.lt_writeBound {token : Text} {size : Nat} (spells : Spells token size)
    (fits : TokenFits token) : size < Numeral.writeBound := by
  obtain ⟨digits, unit, kb, measured, known, rfl⟩ := spells.measured
  exact (fits digits unit measured).2 kb known

/-- A token that fits is turned into a size that can be written, or it is malformed. -/
lemma TokenFits.inKB_ends {token : Text} (fits : TokenFits token) (line : Option Int) :
    (∃ size, (inKB token line).result = .ok size ∧ size < Numeral.writeBound) ∨
      (inKB token line).result = .error (.finding (.trace (.malformedSize token) line)) := by
  rw [result_inKB]
  cases split : split? token with
  | none => exact .inr rfl
  | some parts =>
    left
    obtain ⟨digits, unit⟩ := parts
    obtain ⟨short, bound⟩ := fits digits unit (split?_eq_some_iff.mp split)
    simp only [Numeral.read_of_length_le short]
    refine ⟨_, rfl, ?_⟩
    cases known : unitKB? unit with
    | none => exact Nat.lt_of_lt_of_le Nat.one_pos (Numeral.pow_le_writeBound (Nat.zero_le _))
    | some kb => exact bound kb known

end PageSize

/-! ## Lines that make a claim -/

/-- The size numeral of the claim of a line, if it makes one, has at most so many digits. -/
def Claim.SizeWithin (most : Nat) (line : Text) : Prop :=
  ∀ address token, Claim.fields? (Text.chomp line) = some (address, token) →
    PageSize.TokenWithin most token

/-- The size of the claim of a line, if it makes one, can be read and written. -/
def Claim.SizeFits (line : Text) : Prop :=
  ∀ address token, Claim.fields? (Text.chomp line) = some (address, token) →
    PageSize.TokenFits token

/-- Whether a size numeral is short enough is decided by the fields of its line. -/
instance (most : Nat) (line : Text) : Decidable (Claim.SizeWithin most line) :=
  decidable_of_iff
    ((Claim.fields? (Text.chomp line)).all (fun both => PageSize.TokenWithin most both.2) = true)
    (by simp [Claim.SizeWithin, Option.all_eq_true])

/-- A size numeral fits that leaves room for the digits of the largest unit. -/
lemma Claim.SizeWithin.fits {line : Text} {most : Nat} (within : Claim.SizeWithin most line)
    (few : most + 7 ≤ Numeral.maxDigits) : Claim.SizeFits line :=
  fun address token fields => (within address token fields).fits few

/-- The size numeral of a claim is a run of digits in its line. -/
lemma Claim.sizeWithin_of_digitsWithin {line : Text} {most : Nat}
    (within : line.DigitsWithin most) : Claim.SizeWithin most line := by
  intro address token fields digits unit measured
  have token_part := (Claim.infix_of_fields? fields).trans (Text.chomp_part line)
  have digits_part : digits <:+: token := measured.1 ▸ (List.prefix_append digits [unit]).isInfix
  exact within digits (digits_part.trans token_part) measured.2.2.1

/-- A line with fields is read to their claim, if the token is converted. -/
lemma Claim.result_read? (line : Text) (number : Nat) :
    (Claim.read? line number).result =
      match Claim.fields? (Text.chomp line) with
      | none => .ok none
      | some (address, token) =>
        (PageSize.inKB token (some number)).result.map fun size =>
          some { address, pageSize := size, line := number, text := Text.chomp line } := by
  unfold Claim.read?
  dsimp only
  cases Claim.fields? (Text.chomp line) with
  | none => rfl
  | some fields =>
    obtain ⟨address, token⟩ := fields
    simp only [result_bind, oblivious_note, result_note, PageSize.oblivious_inKB]
    cases (PageSize.inKB token (some number)).result with
    | error fault => rfl
    | ok size => rfl

/-- A claim that is read has the base address of its line and the page size that its token is turned
into, and it tells its line. -/
lemma Claim.of_read?_eq_some {line : Text} {number : Nat} {claim : Claim}
    (read : (Claim.read? line number).result = .ok (some claim)) :
    ∃ address token size, Claim.fields? (Text.chomp line) = some (address, token) ∧
      (PageSize.inKB token (some number)).result = .ok size ∧
      claim = { address, pageSize := size, line := number, text := Text.chomp line } := by
  rw [Claim.result_read?] at read
  cases fields : Claim.fields? (Text.chomp line) with
  | none =>
    rw [fields] at read
    cases read
  | some both =>
    obtain ⟨address, token⟩ := both
    cases made : (PageSize.inKB token (some number)).result with
    | error fault =>
      simp only [fields, made] at read
      cases read
    | ok size =>
      simp only [fields, made] at read
      cases read
      exact ⟨address, token, size, rfl, made, rfl⟩

/-- The claim of a line that fits has a size that can be written, or the line has a defect. -/
lemma Claim.SizeFits.read?_ends {line : Text} (fits : Claim.SizeFits line) (number : Nat) :
    (∃ made, (Claim.read? line number).result = .ok made ∧
        ∀ claim ∈ made, claim.pageSize.natAbs < Numeral.writeBound) ∨
      ∃ defect, (Claim.read? line number).result =
        .error (.finding (.trace defect (some (number : Int)))) := by
  rw [Claim.result_read?]
  cases fields : Claim.fields? (Text.chomp line) with
  | none => exact .inl ⟨none, rfl, nofun⟩
  | some both =>
    obtain ⟨address, token⟩ := both
    obtain ⟨size, made, bound⟩ | malformed :=
      (fits address token fields).inKB_ends (some (number : Int))
    · left
      simp only [made]
      refine ⟨_, rfl, ?_⟩
      rintro _ ⟨⟩
      exact bound
    · right
      simp only [malformed]
      exact ⟨_, rfl⟩

end PageAudit
