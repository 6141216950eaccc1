import PageAudit.Numeral

/-!
# Texts that are not JSON

The first place where a text stops being JSON, and what was wrong there. A place is told by its
line, its column and its index; only the index counts from zero. A text may also be JSON that is
not read: for a numeral that is too long, or for values that stand too deep in one another.
-/

namespace PageAudit.Json

/-- What is wrong with a text. -/
inductive Problem where
  | expectedValue
  | extraData
  | expectedName
  | expectedColon
  | expectedComma
  | unterminatedString
  | controlCharacter
  | invalidEscape
  | invalidUnicodeEscape
  | byteOrderMark
  deriving DecidableEq, Repr

/-- The problem in words. -/
def Problem.message : Problem → Text
  | .expectedValue => "Expecting value"
  | .extraData => "Extra data"
  | .expectedName => "Expecting property name enclosed in double quotes"
  | .expectedColon => "Expecting ':' delimiter"
  | .expectedComma => "Expecting ',' delimiter"
  | .unterminatedString => "Unterminated string starting at"
  | .controlCharacter => "Invalid control character at"
  | .invalidEscape => "Invalid \\escape"
  | .invalidUnicodeEscape => "Invalid \\uXXXX escape"
  | .byteOrderMark => "Unexpected UTF-8 BOM (decode using utf-8-sig)"

/-- A text that is not JSON. -/
structure Malformed where
  problem : Problem
  /-- The line of the problem, counted from one. -/
  line : Nat
  /-- Its column, counted from one. -/
  column : Nat
  /-- The number of characters before it. -/
  index : Nat
  deriving DecidableEq, Repr

/-- The fault of a text in words. -/
def Malformed.message (m : Malformed) : Text :=
  m.problem.message ++ ": line " ++ toString m.line ++ " column " ++ toString m.column ++
    " (char " ++ toString m.index ++ ")"

/-- A problem with a text at an index. -/
def Malformed.at (text : Text) (problem : Problem) (index : Nat) : Malformed :=
  let before := text.take index
  { problem
    line := before.count (.char '\n') + 1
    column := (before.reverse.takeWhile (· != .char '\n')).length + 1
    index }

/-- A value that holds others. -/
inductive Container where
  | object
  | array
  deriving DecidableEq, Repr

/-- What is said of a value that stands too deep in others. -/
def Container.tooDeepMessage (c : Container) : Text :=
  let name : Text := match c with
    | .object => "object"
    | .array => "array"
  "maximum recursion depth exceeded while decoding a JSON " ++ name ++ " from a unicode string"

/-- Why a text cannot be read as JSON. -/
inductive Unreadable where
  | malformed (m : Malformed)
  /-- An integer with too many digits. -/
  | overlong (o : Numeral.Overlong)
  /-- An object or array inside too many others. -/
  | tooDeep (c : Container)
  deriving DecidableEq, Repr

end PageAudit.Json
