import PageAudit.Text.Basic

/-!
# Intervals of code points

Which code points a table of intervals holds.
-/

namespace PageAudit.Text

/-- Whether a code point lies in one of these intervals, each told by its first and its last number.
-/
def inIntervals (intervals : List (Nat × Nat)) (c : CodePoint) : Bool :=
  intervals.any fun (first, last) => first ≤ c.toNat && c.toNat ≤ last

end PageAudit.Text
