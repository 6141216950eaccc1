import PageAudit.Text.Basic

/-!
# Fields of a text

A text cut at every separator, at the first or at the last. There is one field more than there are
separators.
-/

namespace PageAudit.Text

/-- Puts one more character before fields already cut. -/
def growField (separator c : CodePoint) : List Text → List Text
  | [] => [[c]]
  | field :: fields =>
    if c = separator then [] :: field :: fields else (c :: field) :: fields

/-- The fields of a text. -/
def fields (separator : CodePoint) (cs : Text) : List Text := cs.foldr (growField separator) [[]]

/-- A text up to its first separator, and what follows that if there is one. -/
def cutAt (separator : CodePoint) (cs : Text) : Text × Option Text :=
  match cs.dropWhile (· != separator) with
  | [] => (cs, none)
  | _ :: rest => (cs.takeWhile (· != separator), some rest)

/-- What stands before the last separator of a text, if it has one, and what stands after it. -/
def cutAtLast (separator : CodePoint) (cs : Text) : Option Text × Text :=
  let (after, before) := cutAt separator cs.reverse
  (before.map List.reverse, after.reverse)

end PageAudit.Text
