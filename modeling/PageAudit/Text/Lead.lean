import PageAudit.Text.Basic

/-!
# How a text begins and ends

Reading a fixed opening off the front of a text, and taking the line feeds off its end.
-/

namespace PageAudit.Text

/-- What follows `lead` in a text that begins with it. -/
def after? : Text → Text → Option Text
  | [], cs => some cs
  | _ :: _, [] => none
  | l :: lead, c :: cs => if l = c then after? lead cs else none

/-- A text has something after `lead` exactly if it is `lead` and then that. -/
theorem after?_eq_some_iff {lead cs rest : Text} :
    after? lead cs = some rest ↔ cs = lead ++ rest := by
  induction lead generalizing cs with
  | nil => simp [after?]
  | cons l lead ih =>
    cases cs with
    | nil => simp [after?]
    | cons c cs =>
      by_cases h : l = c
      · simp [after?, h, ih]
      · simp [after?, h, Ne.symm h]

/-- The text without the line feeds at its end. -/
def chomp (cs : Text) : Text := (cs.reverse.dropWhile fun (c : CodePoint) => c == '\n').reverse

end PageAudit.Text
