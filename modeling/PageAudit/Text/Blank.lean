import PageAudit.Text.Basic

/-!
# Blank characters

Which characters separate words, and the two operations that rest on them: trimming a text and
cutting it into words. Line ends count as blank, and so do the spaces of other scripts; a
zero-width space does not.
-/

namespace PageAudit.Text

/-- A character that separates words. -/
def isBlank (c : CodePoint) : Bool :=
  let n := c.toNat
  (0x09 ≤ n && n ≤ 0x0d) || (0x1c ≤ n && n ≤ 0x20) || n == 0x85 || n == 0xa0 || n == 0x1680 ||
    (0x2000 ≤ n && n ≤ 0x200a) || n == 0x2028 || n == 0x2029 || n == 0x202f || n == 0x205f ||
    n == 0x3000

/-- The text without what `p` holds of at its two ends. -/
def trim (p : CodePoint → Bool) (cs : Text) : Text :=
  ((cs.dropWhile p).reverse.dropWhile p).reverse

/-- The text without the blanks at its two ends. -/
def strip (cs : Text) : Text := trim isBlank cs

/-- The word being gathered, put before the words already found. -/
def keepWord (found : Text × List Text) : List Text :=
  if found.1 = [] then found.2 else found.1 :: found.2

/-- Reads one more character on the left of a text whose first word may still grow. -/
def growWord (c : CodePoint) (found : Text × List Text) : Text × List Text :=
  if isBlank c then ([], keepWord found) else (c :: found.1, found.2)

/-- The words of a text: its longest runs of characters that are not blank. -/
def words (cs : Text) : List Text := keepWord (cs.foldr growWord ([], []))

end PageAudit.Text
