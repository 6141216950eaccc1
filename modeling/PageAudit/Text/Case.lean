import PageAudit.Text.Digit

/-!
# Upper and lower case

Case mapping as far as it ends in ASCII. A character whose other case lies beyond ASCII stays as it
is, since nothing here is compared with such a character.
-/

namespace PageAudit.Text

/-- The characters beyond ASCII whose upper case is letters of ASCII, with those letters. -/
def upperBeyondAscii : List (Nat × Text) :=
  [(0xdf, "SS"), (0x131, "I"), (0x17f, "S"), (0xfb00, "FF"), (0xfb01, "FI"), (0xfb02, "FL"),
   (0xfb03, "FFI"), (0xfb04, "FFL"), (0xfb05, "ST"), (0xfb06, "ST")]

/-- The upper case of a code point, which may be several. -/
def upperChar (c : CodePoint) : Text :=
  let n := c.toNat
  if 0x61 ≤ n ∧ n ≤ 0x7a then [.ofNat (n - 0x20)]
  else (upperBeyondAscii.lookup n).getD [c]

/-- A text in upper case. -/
def toUpper (t : Text) : Text := t.flatMap upperChar

/-- The one character beyond ASCII whose lower case is a letter of ASCII: the sign of kelvins. -/
def kelvinSign : Nat := 0x212a

/-- The lower case of a code point. -/
def lowerChar (c : CodePoint) : CodePoint :=
  let n := c.toNat
  if 0x41 ≤ n ∧ n ≤ 0x5a then .ofNat (n + 0x20)
  else if n = kelvinSign then 'k'
  else c

/-- A text in lower case. -/
def toLower (t : Text) : Text := t.map lowerChar

end PageAudit.Text
