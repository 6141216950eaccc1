import PageAudit.Text.Digit
import PageAudit.Text.Quoted

/-!
# Numerals

Numbers as text. A decimal numeral may be written in the digits of any script, even of several, and
holds at most 4300 digits, both when it is read and when it is written; a hexadecimal numeral has no
such limit.
-/

namespace PageAudit.Numeral

/-- The most digits a decimal numeral may have. -/
def maxDigits : Nat := 4300

/-- The least number whose decimal numeral is too long. -/
def writeBound : Nat := Nat.pow 10 maxDigits

/-- A decimal numeral that is too long. -/
inductive Overlong where
  /-- One that was to be read, with its number of digits. -/
  | onRead (digits : Nat)
  /-- One that was to be written. -/
  | onWrite
  deriving DecidableEq, Repr

/-- What is said of a numeral that is too long. -/
def Overlong.message (o : Overlong) : Text :=
  let size := match o with
    | .onRead digits => ": value has " ++ toString digits ++ " digits"
    | .onWrite => ""
  "Exceeds the limit (" ++ toString maxDigits ++ " digits) for integer string conversion" ++ size ++
    "; use sys.set_int_max_str_digits() to increase the limit"

/-- The number that decimal digits spell, the first being the most significant. -/
def value (digits : Text) : Nat :=
  digits.foldl (fun n c => 10 * n + (Text.digitValue? c).getD 0) 0

/-- Reads decimal digits as a number. -/
def read (digits : Text) : Except Overlong Nat :=
  if digits.length ≤ maxDigits then .ok (value digits) else .error (.onRead digits.length)

/-- Writes a number in decimal digits. -/
def write (n : Int) : Except Overlong Text :=
  if n.natAbs < writeBound then .ok (toString n) else .error .onWrite

/-- The number that hexadecimal digits spell, the first being the most significant. -/
def hexValue (digits : Text) : Nat :=
  digits.foldl (fun n c => 16 * n + (Text.hexDigitValue? c).getD 0) 0

/-- The lower case hexadecimal digits of a number, after `mark` and, if it is negative, a minus. -/
def markedHex (mark : Text) (n : Int) : Text :=
  (if n < 0 then "-" else "") ++ mark ++ Text.hexDigits n.natAbs

/-- A number in bare hexadecimal digits. -/
def hex (n : Int) : Text := markedHex "" n

/-- A number in hexadecimal digits after `0x`. -/
def hex0x (n : Int) : Text := markedHex "0x" n

end PageAudit.Numeral
