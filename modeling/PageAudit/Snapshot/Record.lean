import PageAudit.Mapping.Bounds
import PageAudit.Snapshot.Line

/-!
# Records of a snapshot

A record is a header and the lines up to the next header or the end of the snapshot. No line closes
it: a header closes the record before it, and the end of the snapshot closes the last. Until then a
later page size or flags line replaces an earlier one.
-/

namespace PageAudit.Snapshot

/-- An open record. -/
structure Record where
  start : Int
  stop : Int
  /-- The number of its header line. -/
  line : Int
  /-- Its page size in KB, once a line told it. -/
  pageSize : Option Int := none
  /-- The words of its flags line. -/
  flags : List Text := []
  deriving DecidableEq, Repr

/-- The open record, if there is one. -/
abbrev State := Option Record

/-- The flag of a mapping that may be backed by transparent huge pages. -/
def transparentHugeFlag : Text := "hg"

/-- The flag of a mapping that is backed by explicit huge pages. -/
def explicitHugeFlag : Text := "ht"

/-- The address that a header spells. -/
def address (text : Text) (line : Int) : Except Fault Int :=
  if text.all Text.isHexDigit then
    if Numeral.hexValue text < addressSpace then .ok (Numeral.hexValue text)
    else .error (.finding (.snapshot (.tooWide text) (some line)))
  else .error (.finding (.snapshot (.notHex text) (some line)))

/-- The mapping that a record describes. -/
def Record.close (r : Record) : Except Fault Mapping :=
  match r.pageSize with
  | none => .error (.finding (.snapshot (.noPageSize r.start r.stop) (some r.line)))
  | some size =>
    Mapping.ofBounds r.start r.stop size (r.flags.contains transparentHugeFlag)
      (r.flags.contains explicitHugeFlag) (some r.line)

/-- The mapping that the open record describes, if there is one. -/
def State.close : State → Except Fault (Option Mapping)
  | none => .ok none
  | some r => r.close.map some

/-- Reads one line: the state after it, and the mapping that it closes. Of a header the addresses
are read before the record before it is closed. -/
def State.step (state : State) (line : Text) (number : Int) :
    Except Fault (State × Option Mapping) := do
  match LineKind.ofLine line with
  | .header start stop =>
    let start ← address start number
    let stop ← address stop number
    let closed ← state.close
    return (some { start, stop, line := number }, closed)
  | .pageSize digits =>
    match state with
    | none => return (none, none)
    | some r =>
      let size ← ofNumeral (Numeral.read digits)
      return (some { r with pageSize := some size }, none)
  | .flags words =>
    match state with
    | none => return (none, none)
    | some r => return (some { r with flags := words }, none)
  | .noise => return (state, none)

end PageAudit.Snapshot
