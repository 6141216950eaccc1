import PageAudit.HostName.Rows.Ideographs
import PageAudit.HostName.Rows.Joined
import PageAudit.HostName.Rows.Letters
import PageAudit.HostName.Rows.Symbols
import PageAudit.Text.Composed

/-!
# Folded texts

Two spellings of a host name count as one if they fold to the same text: letters in lower case,
characters of special forms in their plain ones, and nothing of what is not seen.
-/

namespace PageAudit.HostName

/-- The characters that fold to nothing, since they are not seen. -/
def unseen : List (Nat × Nat) :=
  [(0xad, 0xad), (0x34f, 0x34f), (0x1806, 0x1806), (0x180b, 0x180d), (0x200b, 0x200d),
   (0x2060, 0x2060), (0xfe00, 0xfe0f), (0xfeff, 0xfeff)]

/-- The rows of all foldings. -/
def rows : List Row := letterRows ++ symbolRows ++ ideographRows ++ joinedRows

/-- What a character folds to. -/
def fold (c : CodePoint) : Text :=
  if Text.inIntervals unseen c then []
  else (rows.findSome? (·.image? c.toNat)).getD [c]

/-- A text folded, in its composed form. -/
def folded (t : Text) : Text := Text.composed (t.flatMap fold)

end PageAudit.HostName
