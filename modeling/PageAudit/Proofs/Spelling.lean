import Mathlib.Data.Nat.Digits.Defs
import PageAudit.Proofs.Numeral

/-!
# Spellings of numbers

Which texts spell a number, told without reading them: `Spells` says that the characters of a text
are digits, the first being the most significant. A number has many spellings, for zeros may stand
in front and a digit may have several characters; all of them are read as that number
(`Spells.value`, `Spells.hexValue`). Every number has one, and a decimal one that is not too long if
the number can be written (`exists_decimal`, `exists_hexadecimal`). One of them is what is written
of the number (`spells_toString`, `spells_hexDigits`), so numbers that are written alike are equal.
-/

namespace PageAudit.Numeral

/-- A text spells a number in some base: it is not empty, and its characters are the digits of the
number, perhaps with zeros in front. -/
def Spells (base : Nat) (digit? : CodePoint → Option Nat) (text : Text) (n : Nat) : Prop :=
  text ≠ [] ∧ ∃ digits : List Nat, text.map digit? = digits.map some ∧
    n = Nat.ofDigits base digits.reverse

variable {base : Nat} {digit? : CodePoint → Option Nat} {text : Text} {n : Nat}

/-- A digit spells its value. -/
lemma spells_singleton {c : CodePoint} {d : Nat} (spelled : digit? c = some d) :
    Spells base digit? [c] d := by
  refine ⟨nofun, [d], ?_, ?_⟩
  · rw [List.map_singleton, spelled, List.map_singleton]
  · exact Nat.ofDigits_singleton.symm

/-- One more digit stands behind all others and counts least. -/
lemma Spells.append_digit (spells : Spells base digit? text n) {c : CodePoint} {d : Nat}
    (spelled : digit? c = some d) : Spells base digit? (text ++ [c]) (d + base * n) := by
  obtain ⟨-, digits, told, rfl⟩ := spells
  refine ⟨List.append_ne_nil_of_right_ne_nil _ (List.cons_ne_nil c []), digits ++ [d], ?_, ?_⟩
  · rw [List.map_append, told, List.map_singleton, spelled, List.map_append, List.map_singleton]
  · rw [List.reverse_append, List.reverse_singleton, List.singleton_append, Nat.ofDigits_cons]

/-- Digits spell a number, whichever they are. -/
lemma exists_spells_of_all (nonempty : text ≠ [])
    (all : text.all (fun c => (digit? c).isSome) = true) : ∃ n, Spells base digit? text n := by
  refine ⟨_, nonempty, text.map fun c => (digit? c).getD 0, ?_, rfl⟩
  rw [List.map_map]
  refine List.map_congr_left fun c mem => ?_
  obtain ⟨d, spelled⟩ := Option.isSome_iff_exists.mp (List.all_eq_true.mp all c mem)
  rw [Function.comp_apply, spelled, Option.getD_some]

/-- A spelling is all digits. -/
lemma Spells.all (spells : Spells base digit? text n) :
    text.all (fun c => (digit? c).isSome) = true := by
  obtain ⟨-, digits, spelled, -⟩ := spells
  rw [List.all_eq_true]
  intro c mem
  have told : digit? c ∈ digits.map some := spelled ▸ List.mem_map_of_mem mem
  obtain ⟨d, -, told⟩ := List.mem_map.mp told
  rw [← told]
  rfl

/-- What is no digit is in no spelling. -/
lemma Spells.not_mem (spells : Spells base digit? text n) {c : CodePoint}
    (no_digit : digit? c = none) : c ∉ text := by
  intro mem
  have digit := List.all_eq_true.mp spells.all c mem
  rw [no_digit] at digit
  cases digit

/-- A spelling is worth what its digits come to. -/
lemma Spells.foldl (spells : Spells base digit? text n) :
    text.foldl (fun m c => base * m + (digit? c).getD 0) 0 = n := by
  obtain ⟨-, digits, spelled, rfl⟩ := spells
  have told : text.map (fun c => (digit? c).getD 0) = digits := by
    have told := congrArg (List.map fun d : Option Nat => d.getD 0) spelled
    rwa [List.map_map, List.map_map, show (fun d : Option Nat => d.getD 0) ∘ some = id from rfl,
      List.map_id] at told
  rw [Nat.ofDigits_eq_foldr, List.foldr_reverse, ← told, List.foldl_map]
  congr 1
  funext m c
  exact Nat.add_comm _ _

/-- A decimal spelling is of digits and has that value. -/
lemma Spells.value (spells : Spells 10 Text.digitValue? text n) :
    text.all Text.isDigit = true ∧ Numeral.value text = n := ⟨spells.all, spells.foldl⟩

/-- A hexadecimal spelling is of hexadecimal digits and has that value. -/
lemma Spells.hexValue (spells : Spells 16 Text.hexDigitValue? text n) :
    text.all Text.isHexDigit = true ∧ Numeral.hexValue text = n := ⟨spells.all, spells.foldl⟩

/-- A number below a power of the base has a spelling with at most as many digits, if every digit
has a character. -/
lemma exists_spells (positive : 0 < base) (spelled : ∀ d < base, ∃ c, digit? c = some d)
    {count : Nat} (short : n < base ^ (count + 1)) :
    ∃ text, Spells base digit? text n ∧ text.length ≤ count + 1 := by
  -- The last digit is the remainder; what is in front of it spells the quotient.
  obtain ⟨c, last⟩ := spelled (n % base) (Nat.mod_lt n positive)
  induction count generalizing n c with
  | zero =>
    rw [Nat.zero_add, Nat.pow_one] at short
    rw [Nat.mod_eq_of_lt short] at last
    exact ⟨[c], spells_singleton last, Nat.le_refl _⟩
  | succ count ih =>
    have shorter : n / base < base ^ (count + 1) := Nat.div_lt_of_lt_mul (by rwa [← Nat.pow_succ'])
    obtain ⟨d, last'⟩ := spelled (n / base % base) (Nat.mod_lt _ positive)
    obtain ⟨text, spells, length_le⟩ := ih shorter d last'
    refine ⟨text ++ [c], ?_, ?_⟩
    · rw [← Nat.mod_add_div n base]
      exact spells.append_digit last
    · rw [List.length_append, List.length_singleton]
      exact Nat.succ_le_succ length_le

/-- A number that can be written has a decimal spelling that can be read. -/
lemma exists_decimal (bounded : n < writeBound) :
    ∃ text, Spells 10 Text.digitValue? text n ∧ text.length ≤ maxDigits := by
  have spelled : ∀ d < 10, Text.digitValue? (.ofNat (0x30 + d)) = some d := by decide
  -- The bound stays a power: it is too large to be worked out.
  obtain ⟨count, succ⟩ : ∃ count, maxDigits = count + 1 := ⟨4299, rfl⟩
  unfold writeBound at bounded
  rw [succ] at bounded ⊢
  exact exists_spells (by decide) (fun d lt => ⟨_, spelled d lt⟩) bounded

/-- Every number has a hexadecimal spelling. -/
lemma exists_hexadecimal (n : Nat) : ∃ text, Spells 16 Text.hexDigitValue? text n := by
  have spelled : ∀ d < 16,
      Text.hexDigitValue? (.ofNat (if d < 10 then 0x30 + d else 0x57 + d)) = some d := by decide
  have short : n < 16 ^ (n + 1) :=
    Nat.lt_of_lt_of_le (Nat.lt_pow_self (by decide)) (Nat.pow_le_pow_right (by decide) n.le_succ)
  obtain ⟨text, spells, -⟩ := exists_spells (by decide) (fun d lt => ⟨_, spelled d lt⟩) short
  exact ⟨text, spells⟩

/-! ## Numbers as they are written -/

/-- The digits that are written of a number spell it, if every digit is read back. -/
lemma spells_toDigits (one_lt : 1 < base)
    (read_back : ∀ d < base, digit? (Nat.digitChar d) = some d) (n : Nat) :
    Spells base digit? (Text.ofChars (Nat.toDigits base n)) n := by
  induction n using Nat.strongRecOn with
  | ind n ih =>
    rw [Nat.toDigits_eq_if one_lt]
    split
    · next small => exact spells_singleton (read_back n small)
    · next large =>
      -- The last digit is the remainder; those in front of it are written of the quotient.
      have shorter : n / base < n := Nat.div_lt_self (by omega) one_lt
      have last := read_back (n % base) (Nat.mod_lt n (Nat.zero_lt_of_lt one_lt))
      have spells := (ih (n / base) shorter).append_digit last
      rw [Nat.mod_add_div] at spells
      rw [Text.ofChars, List.map_append]
      exact spells

/-- The decimal numeral of a number, as a text. -/
lemma ofString_toString (n : Nat) :
    Text.ofString (toString n) = Text.ofChars (Nat.toDigits 10 n) := by
  rw [Text.ofString, Nat.toString_eq_ofList_toDigits, String.toList_ofList]

/-- What is written of a number in decimal digits spells it. -/
lemma spells_toString (n : Nat) : Spells 10 Text.digitValue? (Text.ofString (toString n)) n := by
  rw [ofString_toString]
  exact spells_toDigits (by decide) (by decide) n

/-- What is written of a number in hexadecimal digits spells it. -/
lemma spells_hexDigits (n : Nat) : Spells 16 Text.hexDigitValue? (Text.hexDigits n) n :=
  spells_toDigits (by decide) (by decide) n

/-- A number can be written exactly if its decimal digits are not too many. -/
lemma length_toString_le_iff {n : Nat} :
    (Text.ofString (toString n)).length ≤ maxDigits ↔ n < writeBound := by
  rw [ofString_toString, Text.ofChars, List.length_map]
  -- The bound stays a power: it is too large to be worked out.
  have positive : 0 < maxDigits := by decide
  unfold writeBound
  generalize maxDigits = digits at positive ⊢
  exact Nat.length_toDigits_le_iff (by decide) positive

/-- A natural number is written in hexadecimal by its digits. -/
lemma hex_natCast (n : Nat) : hex n = Text.hexDigits n := rfl

/-- A natural number is written in hexadecimal by its digits behind the mark. -/
lemma hex0x_natCast (n : Nat) : hex0x n = "0x" ++ Text.hexDigits n := rfl

end PageAudit.Numeral
