import PageAudit.HostName.Alphabet
import PageAudit.HostName.Folded
import PageAudit.HostName.Punycode
import PageAudit.Text.Lead

/-!
# Labels

The parts of a host name between its stops. A label beyond ASCII is folded first, and if it is
still beyond ASCII then, it is spelled in ASCII after a mark that tells so. What such a spelling
stands for can be read back, provided that the label is the spelling of just that.
-/

namespace PageAudit.HostName.Label

/-- Why a label has no spelling. -/
inductive Fault where
  /-- It is empty or too long. -/
  | size
  /-- It has a code point that no host name holds. -/
  | forbidden (c : CodePoint)
  /-- It has letters written from the right together with letters written from the left. -/
  | mixed
  /-- It has a letter written from the right, but does not begin and end with one. -/
  | unframed
  /-- It is beyond ASCII and begins like the spelling of another. -/
  | marked
  deriving DecidableEq, Repr

/-- The fault in words. -/
def Fault.message : Fault → Text
  | .size => "label empty or too long"
  | .forbidden c => "Invalid character " ++ Text.quoted [c]
  | .mixed => "Violation of BIDI requirement 2"
  | .unframed => "Violation of BIDI requirement 3"
  | .marked => "Label starts with ACE prefix"

/-- A label folded, if all of it may stand in a host name. -/
def prepare (label : Text) : Except Fault Text :=
  let t := folded label
  match t.find? isForbidden with
  | some c => .error (.forbidden c)
  | none =>
    if !t.any isFromRight then .ok t
    else if t.any isFromLeft then .error .mixed
    else if t.head?.any isFromRight && t.getLast?.any isFromRight then .ok t
    else .error .unframed

/-- What the spelling of a label beyond ASCII begins with. -/
def mark : Text := "xn--"

/-- The most characters in the spelling of a label. -/
def maxLength : Nat := 63

/-- Whether a spelling is neither empty nor too long. -/
def fits (spelling : Text) : Bool := spelling != [] && spelling.length ≤ maxLength

/-- The spelling of a label, before its length is looked at. -/
def spellAny (label : Text) : Except Fault Text := do
  let prepared ← if Text.isAscii label then .ok label else prepare label
  if Text.isAscii prepared then return prepared
  else if mark.isPrefixOf prepared then throw .marked
  else return mark ++ Punycode.encode prepared

/-- The spelling of a label. -/
def spell (label : Text) : Except Fault Text := do
  let spelling ← spellAny label
  if fits spelling then return spelling else throw .size

/-- Why the spelling of a label cannot be read. -/
inductive ReadFault where
  /-- It spells no text. -/
  | punycode (f : Punycode.Fault)
  /-- It spells a text that is no label. -/
  | label (f : Fault)
  /-- It spells a label whose spelling is another. -/
  | otherwise (spelling proper : Text)
  deriving DecidableEq, Repr

/-- The label that a spelling stands for. -/
def read (spelling : Text) : Except ReadFault Text :=
  match Text.after? mark spelling with
  | none => .ok spelling
  | some tail => do
    let label ← (Punycode.decode tail).mapError .punycode
    let proper ← (spell label).mapError .label
    if Text.toLower spelling = proper then return label else throw (.otherwise spelling proper)

end PageAudit.HostName.Label
