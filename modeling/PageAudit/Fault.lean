import PageAudit.Finding

/-!
# Faults

What ends a check before its time: a finding, or a decimal numeral that is too long to be read or
written.
-/

namespace PageAudit

/-- What ends a check before its time. -/
inductive Fault where
  | finding (f : Finding)
  | overlong (o : Numeral.Overlong)
  deriving DecidableEq, Repr

/-- The fault in words. -/
def Fault.message : Fault → Text
  | .finding f => f.message
  | .overlong o => o.message

/-- A result of reading or writing numerals as a result of a check. -/
def ofNumeral {α : Type} : Except Numeral.Overlong α → Except Fault α :=
  Except.mapError .overlong

end PageAudit
