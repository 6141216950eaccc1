import PageAudit.Json.Reader
import PageAudit.Settings.Basic

/-!
# Settings from a file

A settings file holds a JSON object in UTF-8. Four of its members are settings; it may hold others.
-/

namespace PageAudit.Settings

/-- A member that tells a text. -/
def textMember (j : Json) (name : Text) : Except Complaint (Option Text) :=
  match j.member? name with
  | none => .ok none
  | some (.string s) => .ok (some s)
  | some _ => .error (.notString name)

/-- A member that tells a switch. -/
def boolMember (j : Json) (name : Text) : Except Complaint (Option Bool) :=
  match j.member? name with
  | none => .ok none
  | some (.bool b) => .ok (some b)
  | some _ => .error (.notBool name)

/-- The settings that the value in the file at `path` tells. -/
def ofJson (path : Path) (j : Json) : Except Complaint Settings :=
  if j.isObject then do
    let snapshot ← textMember j "smaps_file"
    let trace ← textMember j "trace_file"
    let debug ← boolMember j "debug"
    let failFast ← boolMember j "fail_fast"
    return { snapshot, trace, debug, failFast }
  else .error (.notObject path)

/-- The JSON value in the bytes of a file, in which at most `room` objects and arrays may stand in
one another. -/
def readJson (room : Nat) (bytes : List UInt8) : Except Fault Json :=
  match Text.Utf8.decode .refused bytes with
  | .error f => .error (.undecodable f)
  | .ok text =>
    match Json.read room (Text.unifyBreaks Text.isFileBreak text) with
    | .ok j => .ok j
    | .error (.malformed m) => .error (.complaint (.malformed m))
    | .error (.overlong o) => .error (.overlong o)
    | .error (.tooDeep c) => .error (.tooDeep c)

/-- The settings that a file tells. -/
def ofFile (read : FileReader) (room : Nat) (path : Path) : Except Fault Settings :=
  match read path with
  | .error .embeddedNull => .error .embeddedNull
  | .error (.unencodable u) => .error (.unencodable u)
  | .error f => .error (.complaint (.unreadable f))
  | .ok bytes => do
    let j ← readJson room bytes
    (ofJson path j).mapError .complaint

end PageAudit.Settings
