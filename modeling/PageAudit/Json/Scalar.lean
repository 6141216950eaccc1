import PageAudit.Json.Malformed
import PageAudit.Json.Basic
import PageAudit.Text.Lead
import PageAudit.Text.Wide

/-!
# JSON words, numbers and strings

Readers for the values without parts. Each hands on what it leaves of the text; a reader that stops
tells what was left where it stopped, from which the place of the problem follows.
-/

namespace PageAudit.Json

/-- What stops a reader: a problem with what is left of the text, a numeral that is too long, or a
value that stands too deep. -/
inductive Stop where
  | problem (p : Problem) (left : Text)
  | overlong (o : Numeral.Overlong)
  | tooDeep (c : Container)

/-- What is left of a text once something was taken off its front. -/
abbrev Rest (whole : Text) := { rest : Text // rest.length < whole.length }

/-! ## Words and numbers -/

/-- The values that are words. The numbers among them are those that digits cannot write. -/
def wordValues : List (Text × Json) :=
  [("null", .null), ("true", .bool true), ("false", .bool false), ("NaN", .real "NaN"),
   ("Infinity", .real "Infinity"), ("-Infinity", .real "-Infinity")]

/-- The word value at the front of a text, with its length. -/
def word? (cs : Text) : Option (Nat × Json) :=
  wordValues.findSome? fun (word, value) =>
    (Text.after? word cs).map fun _ => (word.length, value)

/-- The parts of a number as they are written. -/
structure NumberText where
  sign : Text
  whole : Text
  fraction : Text
  exponent : Text

/-- The sign at the front of a text, if it is one of these. -/
def signText (signs : Text) : Text → Text
  | c :: _ => if signs.contains c then [c] else []
  | [] => []

/-- The digits before the point: a lone zero, or digits that do not begin with one. -/
def wholeText : Text → Text
  | .char '0' :: _ => ['0']
  | cs => cs.takeWhile Text.isAsciiDigit

/-- A point with the digits after it, of which there must be one. -/
def fractionText : Text → Text
  | .char '.' :: cs =>
    match cs.takeWhile Text.isAsciiDigit with
    | [] => []
    | digits => '.' :: digits
  | _ => []

/-- The letter of an exponent, its sign and its digits, of which there must be one. -/
def exponentText : Text → Text
  | e :: cs =>
    let sign := signText ['+', '-'] cs
    match (cs.drop sign.length).takeWhile Text.isAsciiDigit with
    | [] => []
    | digits => if e = 'e' ∨ e = 'E' then e :: sign ++ digits else []
  | [] => []

/-- The number at the front of a text. -/
def NumberText.of (cs : Text) : NumberText :=
  let sign := signText ['-'] cs
  let cs := cs.drop sign.length
  let whole := wholeText cs
  let cs := cs.drop whole.length
  let fraction := fractionText cs
  { sign, whole, fraction, exponent := exponentText (cs.drop fraction.length) }

/-- The whole number as it is written. -/
def NumberText.text (n : NumberText) : Text := n.sign ++ n.whole ++ n.fraction ++ n.exponent

/-- The value of a number. -/
def NumberText.value (n : NumberText) : Except Numeral.Overlong Json :=
  if n.fraction = [] ∧ n.exponent = [] then do
    let size ← Numeral.read n.whole
    return .integer (if n.sign = [] then size else -size)
  else .ok (.real n.text)

/-- The word or number at the front of a text, with its length. -/
def scalar? (cs : Text) : Option (Nat × Except Numeral.Overlong Json) :=
  match word? cs with
  | some (length, value) => some (length, .ok value)
  | none =>
    let number := NumberText.of cs
    if number.whole = [] then none else some (number.text.length, number.value)

/-! ## Strings -/

/-- The character that a backslash and a letter stand for. -/
def letterEscape? : CodePoint → Option Char
  | .char '"' => some '"'
  | .char '\\' => some '\\'
  | .char '/' => some '/'
  | .char 'b' => some (Char.ofNat 0x08)
  | .char 'f' => some (Char.ofNat 0x0c)
  | .char 'n' => some '\n'
  | .char 'r' => some '\r'
  | .char 't' => some '\t'
  | _ => none

/-- The number that four hexadecimal digits spell. -/
def fourHex? (digits : Text) : Option Nat :=
  if digits.all Text.isHexDigit then some (Numeral.hexValue digits) else none

/-- The second half of a pair at the front of a text, with what follows it. Something must follow,
since no string ends without a quote. -/
def secondHalf? : Text → Option (Text × Text)
  | .char '\\' :: .char 'u' :: a :: b :: c :: d :: e :: rest => some ([a, b, c, d], e :: rest)
  | _ => none

/-- What follows a second half is shorter than the text it was read from. -/
theorem secondHalf?_shorter {cs digits rest : Text} (h : secondHalf? cs = some (digits, rest)) :
    rest.length < cs.length := by
  unfold secondHalf? at h
  split at h
  · simp only [Option.some.injEq, Prod.mk.injEq] at h
    rw [← h.2]
    simp only [List.length_cons]
    omega
  · cases h

/-- Reads what follows a backslash and `u`: four digits, and a second escape if they are the first
half of a pair. A half that stands alone is a surrogate. -/
def readUnicode (cs : Text) : Except Stop (CodePoint × Rest cs) :=
  let invalid : Stop := .problem .invalidUnicodeEscape ('u' :: cs)
  match cs with
  | a :: b :: c :: d :: e :: rest =>
    match fourHex? [a, b, c, d] with
    | none => .error invalid
    | some n =>
      let alone := .ok (.ofNat n, ⟨e :: rest, by simp only [List.length_cons]; omega⟩)
      if Text.Wide.isHighSurrogate n then
        match h : secondHalf? (e :: rest) with
        | none => alone
        | some (digits, after) =>
          match fourHex? digits with
          | none => .error (.problem .invalidUnicodeEscape ('u' :: (digits ++ after)))
          | some m =>
            if Text.Wide.isLowSurrogate m then
              .ok (.ofNat (Text.Wide.joinSurrogates n m), ⟨after, by
                have := secondHalf?_shorter h
                simp only [List.length_cons] at this ⊢
                omega⟩)
            else alone
      else alone
  | _ => .error invalid

/-- Reads what follows a backslash in a string that was `opened` with so much left. -/
def readEscape (opened : Text) (cs : Text) : Except Stop (CodePoint × Rest cs) :=
  match cs with
  | [] => .error (.problem .unterminatedString opened)
  | c :: rest =>
    if c = 'u' then
      (readUnicode rest).map fun (u, after) => (u, ⟨after.1, Nat.lt_succ_of_lt after.2⟩)
    else
      match letterEscape? c with
      | some escaped => .ok (.char escaped, ⟨rest, Nat.lt_succ_self _⟩)
      | none => .error (.problem .invalidEscape ('\\' :: c :: rest))

/-- Reads a string after the quote that `opened` it; `done` holds the code points read, last first.
-/
def readString (opened done cs : Text) (h : cs.length < opened.length) :
    Except Stop (Text × Rest opened) :=
  match cs with
  | [] => .error (.problem .unterminatedString opened)
  | c :: rest =>
    if c = '"' then .ok (done.reverse, ⟨rest, Nat.lt_of_succ_lt h⟩)
    else if c = '\\' then
      match readEscape opened rest with
      | .error stop => .error stop
      | .ok (escaped, after) =>
        readString opened (escaped :: done) after.1
          (Nat.lt_trans after.2 (Nat.lt_of_succ_lt h))
    else if c.toNat ≤ 0x1f then .error (.problem .controlCharacter (c :: rest))
    else readString opened (c :: done) rest (Nat.lt_of_succ_lt h)
termination_by cs.length
decreasing_by
  · exact Nat.lt_succ_of_lt after.2
  · exact Nat.lt_succ_self _

end PageAudit.Json
