/-!
# Texts

A text is a list of code points. Nearly every code point is a character; the others are the
surrogates, which mean nothing on their own but can stand in a text that is given to a program.
-/

namespace PageAudit

/-- A code point: a character, or a surrogate told by its distance from the first surrogate. -/
inductive CodePoint where
  | char (c : Char)
  | surrogate (offset : Fin 0x800)
  deriving DecidableEq, Repr

namespace CodePoint

/-- Every character is a code point. -/
instance : Coe Char CodePoint := ⟨char⟩

/-- The number of the first surrogate. -/
def firstSurrogate : Nat := 0xd800

/-- The number of a code point. -/
def toNat : CodePoint → Nat
  | char c => c.toNat
  | surrogate offset => firstSurrogate + offset

/-- The code point with this number. -/
def ofNat (n : Nat) : CodePoint :=
  if h : firstSurrogate ≤ n ∧ n < firstSurrogate + 0x800 then
    surrogate ⟨n - firstSurrogate, by omega⟩
  else char (Char.ofNat n)

/-- A code point has the number that it was made of. -/
theorem toNat_ofNat {n : Nat} (h : n < 0x110000) : (ofNat n).toNat = n := by
  unfold ofNat
  split
  · simp only [toNat]
    omega
  · have valid : n.isValidChar := by
      simp only [Nat.isValidChar, firstSurrogate] at *
      omega
    have made : Char.ofNat n = Char.ofNatAux n valid := dif_pos valid
    change (Char.ofNat n).toNat = n
    rw [made]
    rfl

/-- The character of a code point; a surrogate, which is none, becomes the replacement character.
-/
def toChar : CodePoint → Char
  | char c => c
  | surrogate _ => Char.ofNat 0xfffd

end CodePoint

/-- A text: its code points in order. -/
abbrev Text := List CodePoint

namespace Text

/-- The text of these characters. -/
def ofChars (cs : List Char) : Text := cs.map .char

/-- A string as a text. -/
def ofString (s : String) : Text := ofChars s.toList

/-- Every string is a text. -/
instance : Coe String Text := ⟨ofString⟩

/-- The text as a string, without its surrogates, which no string can hold. -/
def lossyString (t : Text) : String := String.ofList (t.map CodePoint.toChar)

/-- Whether a text is of ASCII alone. -/
def isAscii (t : Text) : Bool := t.all (·.toNat < 0x80)

/-- Texts with a separator between every two. -/
def join (separator : Text) (parts : List Text) : Text := List.intercalate separator parts

end Text

end PageAudit
