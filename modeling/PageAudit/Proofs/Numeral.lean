import Mathlib.Algebra.Group.Nat.Defs
import Mathlib.Data.List.Induction
import Mathlib.Tactic.Lemma
import PageAudit.Fault
import PageAudit.Text.Lead

/-!
# The size of numerals

A decimal numeral is less than the power of ten that its number of digits tells
(`value_lt_pow`). So what can be read at all can be written again (`lt_writeBound_of_read`), and a
mapping whose page size was read can always be described (`Mapping.describe_isOk`). What is read of
a text is a numeral in it, so a bound on the runs of digits in a text (`DigitsWithin`) bounds all
that is read of it.
-/

namespace PageAudit

namespace Text

/-- No run of decimal digits in the text is longer than this. -/
def DigitsWithin (most : Nat) (cs : Text) : Prop :=
  ∀ run, run <:+: cs → run.all isDigit = true → run.length ≤ most

/-- A short text has short numerals only. -/
lemma digitsWithin_of_length_le {most : Nat} {cs : Text} (short : cs.length ≤ most) :
    DigitsWithin most cs :=
  fun _ h _ => Nat.le_trans h.length_le short

/-- Only something at the end of a text is taken off it. -/
lemma chomp_part (cs : Text) : chomp cs <:+: cs := by
  have dropped := List.dropWhile_suffix (fun (c : CodePoint) => c == '\n') (l := cs.reverse)
  rw [← List.reverse_prefix, List.reverse_reverse] at dropped
  exact dropped.isInfix

end Text

namespace Numeral

/-- A power of ten with few enough zeros is within the bound. -/
lemma pow_le_writeBound {digits : Nat} (h : digits ≤ maxDigits) : 10 ^ digits ≤ writeBound := by
  -- The bound stays a power throughout: it is too large to be worked out.
  unfold writeBound
  generalize maxDigits = zeros at h ⊢
  exact Nat.pow_le_pow_right (by decide) h

/-- A digit more is worth ten times as much, and its own value. -/
lemma value_append_singleton (digits : Text) (c : CodePoint) :
    value (digits ++ [c]) = 10 * value digits + (Text.digitValue? c).getD 0 := by
  simp [value]

/-- A digit is worth less than ten. -/
lemma digitValue_getD_lt (c : CodePoint) : (Text.digitValue? c).getD 0 < 10 := by
  cases h : Text.digitValue? c with
  | none => decide
  | some d => exact Text.digitValue?_lt h

/-- A numeral is less than the power of ten that its number of digits tells. -/
lemma value_lt_pow (digits : Text) : value digits < 10 ^ digits.length := by
  -- The most significant digit comes first, so the induction takes digits off the end.
  induction digits using List.reverseRecOn with
  | nil => decide
  | append_singleton front c ih =>
    have last := digitValue_getD_lt c
    rw [value_append_singleton, List.length_append, List.length_singleton, Nat.pow_succ]
    omega

/-- A numeral that is not too long is read as its value. -/
lemma read_of_length_le {digits : Text} (h : digits.length ≤ maxDigits) :
    read digits = .ok (value digits) := if_pos h

/-- A numeral that is read is not too long, and it is read as its value. -/
lemma of_read_eq_ok {digits : Text} {n : Nat} (h : read digits = .ok n) :
    digits.length ≤ maxDigits ∧ n = value digits := by
  unfold read at h
  split at h
  · next short => exact ⟨short, by cases h; rfl⟩
  · cases h

/-- A numeral that can be read has a value that can be written. -/
lemma lt_writeBound_of_read {digits : Text} {n : Nat} (h : read digits = .ok n) :
    n < writeBound := by
  obtain ⟨short, rfl⟩ := of_read_eq_ok h
  exact Nat.lt_of_lt_of_le (value_lt_pow digits) (pow_le_writeBound short)

/-- A number below the bound is written. -/
lemma write_of_lt {n : Int} (h : n.natAbs < writeBound) : write n = .ok (toString n : String) :=
  if_pos h

end Numeral

/-- A mapping can be described if its page size can be written. -/
lemma Mapping.describe_isOk {m : Mapping} (h : m.pageSize < Numeral.writeBound) :
    ∃ text, m.describe = .ok text := by
  have written : Numeral.write m.pageSize = _ := Numeral.write_of_lt (by simpa using h)
  unfold Mapping.describe
  rw [written]
  exact ⟨_, rfl⟩

end PageAudit
