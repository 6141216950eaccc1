import PageAudit.Text.Basic

/-!
# Lines of a text

A line runs through its line feed; the last one may lack it. Other characters may end a line too:
those of files, where a carriage return does, and the wider class of posted texts. Both are read by
turning every end of line into one line feed first.
-/

namespace PageAudit.Text

/-- An end of line in a file. -/
def isFileBreak (c : CodePoint) : Bool := c == '\n' || c == '\r'

/-- An end of line in a posted text. -/
def isPostedBreak (c : CodePoint) : Bool :=
  let n := c.toNat
  (0x0a ≤ n && n ≤ 0x0d) || (0x1c ≤ n && n ≤ 0x1e) || n == 0x85 || n == 0x2028 || n == 0x2029

/-- One character of the unified text, given the character before it: the line feed of a
carriage return and line feed pair is the same end of line and adds nothing. -/
def unifyBreak (isBreak : CodePoint → Bool) : CodePoint × CodePoint → Option CodePoint
  | (c, before) =>
    if c = '\n' ∧ before = '\r' then none
    else if isBreak c then some '\n'
    else some c

/-- The text with every end of line written as one line feed. -/
def unifyBreaks (isBreak : CodePoint → Bool) (cs : Text) : Text :=
  (cs.zip (.char ' ' :: cs)).filterMap (unifyBreak isBreak)

/-- Puts one more character before lines already cut. -/
def growLine (c : CodePoint) : List Text → List Text
  | [] => [[c]]
  | line :: lines => if c = '\n' then [c] :: line :: lines else (c :: line) :: lines

/-- Cuts a text after every line feed; the pieces put together are the text. -/
def cutLines (cs : Text) : List Text := cs.foldr growLine []

/-- Nothing is lost by cutting a text into lines. -/
theorem flatten_cutLines (cs : Text) : (cutLines cs).flatten = cs := by
  induction cs with
  | nil => rfl
  | cons c cs ih =>
    change (growLine c (cutLines cs)).flatten = c :: cs
    cases h : cutLines cs with
    | nil => rw [h] at ih; simpa [growLine] using ih
    | cons line lines =>
      rw [h] at ih
      simp only [List.flatten_cons] at ih
      simp only [growLine]
      split <;> simp_all

/-- The lines of a file, each with the line feed that ends it. -/
def fileLines (cs : Text) : List Text := cutLines (unifyBreaks isFileBreak cs)

/-- The line without the line feed that ends it. -/
def dropLineFeed (line : Text) : Text :=
  if line.getLast? = some (.char '\n') then line.dropLast else line

/-- The lines of a posted text, without what ends them. -/
def postedLines (cs : Text) : List Text :=
  (cutLines (unifyBreaks isPostedBreak cs)).map dropLineFeed

end PageAudit.Text
