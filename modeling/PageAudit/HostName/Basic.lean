import PageAudit.HostName.Label

/-!
# Host names

Host names beyond ASCII and their spellings in ASCII. A name of ASCII is its own spelling if its
labels have a fit length; the last may be empty.
-/

namespace PageAudit.HostName

/-- What is wrong with a host name or its spelling. -/
inductive Fault where
  /-- A label that has no spelling. -/
  | label (f : Label.Fault)
  /-- A name of ASCII whose last label is too long. -/
  | lastTooLong
  /-- A spelling of a label that cannot be read. -/
  | spelling (f : Label.ReadFault)
  deriving DecidableEq, Repr

/-- What is said of a coding that failed. -/
def failed (coding reason : Text) : Text :=
  coding ++ " codec failed (UnicodeError: " ++ reason ++ ")"

/-- What is said of a spelling of a label that cannot be read. -/
def readMessage : Label.ReadFault → Text
  | .punycode f =>
    failed "decoding with 'idna'" (failed "decoding with 'punycode'" f.message)
  | .label f => failed "decoding with 'idna'" f.message
  | .otherwise spelling proper =>
    "('IDNA does not round-trip', b" ++ Text.quoted spelling ++ ", b" ++ Text.quoted proper ++ ")"

/-- The fault in words. -/
def Fault.message : Fault → Text
  | .label f => failed "encoding with 'idna'" f.message
  | .lastTooLong => failed "encoding with 'idna'" "label too long"
  | .spelling f => readMessage f

/-- The full stops that separate the labels of a host name. -/
def stops : List Nat := [0x2e, 0x3002, 0xff0e, 0xff61]

/-- The labels of a host name. -/
def labels (name : Text) : List Text :=
  Text.fields '.' (name.map fun c => if stops.contains c.toNat then '.' else c)

/-- Labels without an empty last one, and the stop that it leaves behind. -/
def withoutLast (labels : List Text) : List Text × Text :=
  if labels.getLast? = some [] then (labels.dropLast, ".") else (labels, [])

/-- Checks the labels of a host name of ASCII. -/
def checkPlain (name : Text) : Except Fault Unit :=
  let labels := Text.fields '.' name
  if !labels.dropLast.all Label.fits then .error (.label .size)
  else if labels.getLast?.any (·.length > Label.maxLength) then .error .lastTooLong
  else .ok ()

/-- The spelling of a host name. -/
def spell (name : Text) : Except Fault Text := do
  if Text.isAscii name then
    checkPlain name
    return name
  else
    let (parts, stop) := withoutLast (labels name)
    let spelled ← (parts.mapM Label.spell).mapError .label
    return Text.join "." spelled ++ stop

/-- The host name that a spelling stands for. -/
def read (spelling : Text) : Except Fault Text := do
  let (parts, stop) := withoutLast (Text.fields '.' spelling)
  let names ← (parts.mapM Label.read).mapError .spelling
  return Text.join "." names ++ stop

end PageAudit.HostName
