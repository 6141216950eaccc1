import PageAudit.Fault
import PageAudit.Journal.Logged
import PageAudit.Text.Digit

/-!
# Page sizes with a unit

A trace writes a page size as a decimal numeral and one unit letter, which `inKB` turns into
kilobytes. A letter that is no unit makes the size zero, which no mapping has, and is noted.
-/

namespace PageAudit.PageSize

/-- The kilobytes in one unit. -/
def unitKB? (unit : CodePoint) : Option Nat :=
  if unit = 'K' ∨ unit = 'k' then some 1
  else if unit = 'M' ∨ unit = 'm' then some 1024
  else if unit = 'G' ∨ unit = 'g' then some (1024 * 1024)
  else none

/-- The digits and the unit of a page size: one digit or more, and one code point that is none. -/
def split? (token : Text) : Option (Text × CodePoint) :=
  match token.takeWhile Text.isDigit, token.dropWhile Text.isDigit with
  | d :: digits, [unit] => some (d :: digits, unit)
  | _, _ => none

/-- What is noted of a unit that is none. -/
def unknownUnit (unit : CodePoint) (token : Text) : Text :=
  "Unknown page size unit " ++ Text.quoted [unit] ++ " in " ++ Text.quoted token ++ ", using 0"

/-- The page size that a token of the trace's `line` spells, in KB. -/
def inKB (token : Text) (line : Option Int := none) : Logged Fault Nat := do
  match split? token with
  | none => throw (.finding (.trace (.malformedSize token) line))
  | some (digits, unit) =>
    let count ← Logged.ofExcept (ofNumeral (Numeral.read digits))
    match unitKB? unit with
    | some kb => return count * kb
    | none =>
      Logged.note .warning "trace" (unknownUnit unit token) line
      return 0

end PageAudit.PageSize
