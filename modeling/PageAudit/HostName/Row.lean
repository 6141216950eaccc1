import PageAudit.Text.Basic

/-!
# Rows of foldings

What characters in a row fold to.
-/

namespace PageAudit.HostName

/-- Characters in a row, all of which fold to texts of one length. -/
structure Row where
  /-- The number of the first character. -/
  first : Nat
  /-- How many characters each folds to. -/
  width : Nat
  /-- What they fold to, one after the other. -/
  images : String

/-- What the character of a number folds to, if it stands in the row. -/
def Row.image? (row : Row) (n : Nat) : Option Text :=
  if n < row.first then none
  else
    match ((Text.ofString row.images).drop ((n - row.first) * row.width)).take row.width with
    | [] => none
    | image => some image

end PageAudit.HostName
