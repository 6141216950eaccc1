import PageAudit.Text.Printable

/-!
# Quoted texts

The form in which a text is shown inside a message: between single quotes, or between double quotes
if it holds a single quote and no double one. The closing quote and the backslash are escaped, and
so is every code point that is not printable.
-/

namespace PageAudit.Text

/-- The single quote. -/
def singleQuote : CodePoint := .char (Char.ofNat 0x27)

/-- The double quote. -/
def doubleQuote : CodePoint := .char '"'

/-- The lower case hexadecimal digits of a number. -/
def hexDigits (n : Nat) : Text := ofChars (Nat.toDigits 16 n)

/-- The lower case hexadecimal digits of a number, padded with zeros to `width`. -/
def paddedHex (width n : Nat) : Text :=
  let digits := hexDigits n
  List.replicate (width - digits.length) (.char '0') ++ digits

/-- The escape of a code point that is not printable: the shortest of three widths that holds it.
-/
def escapeCode (n : Nat) : Text :=
  if n ≤ 0xff then '\\' :: 'x' :: paddedHex 2 n
  else if n ≤ 0xffff then '\\' :: 'u' :: paddedHex 4 n
  else '\\' :: 'U' :: paddedHex 8 n

/-- One code point between two `quote` characters. -/
def escapeChar (quote c : CodePoint) : Text :=
  if c = quote ∨ c = '\\' then ['\\', c]
  else if c = '\n' then ['\\', 'n']
  else if c = '\r' then ['\\', 'r']
  else if c = '\t' then ['\\', 't']
  else if isPrintable c then [c]
  else escapeCode c.toNat

/-- The character that a text is quoted with. -/
def quoteMark (cs : Text) : CodePoint :=
  if cs.contains singleQuote && !cs.contains doubleQuote then doubleQuote else singleQuote

/-- A text in quotes. -/
def quoted (cs : Text) : Text :=
  let mark := quoteMark cs
  mark :: cs.flatMap (escapeChar mark) ++ [mark]

end PageAudit.Text
