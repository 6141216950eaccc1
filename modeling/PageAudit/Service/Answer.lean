import PageAudit.Audit.Auditor
import PageAudit.Json.Bytes
import PageAudit.Json.Reader
import PageAudit.Json.Written
import PageAudit.Service.Route
import PageAudit.Snapshot.Session

/-!
# Answers of the service

The service checks a trace text by a snapshot text, lists the mappings of a snapshot text, and says
that it is up. A request that lacks what it needs is answered with 400, a text that cannot be read
with 422, and a check with 200 whether it passes or not.
-/

namespace PageAudit.Service

/-- A request. -/
structure Request where
  method : Text
  target : Text
  contentType : Option Text := none
  body : List UInt8 := []

/-- A response; without JSON it has no body that counts. -/
structure Response where
  status : Nat
  json : Option Json := none

/-- The body of a response. -/
def Response.body (r : Response) : Text := (r.json.map Json.write).getD ""

/-- A request that has no response. -/
inductive Breakdown where
  /-- A malformed target. -/
  | target (f : TargetFault)
  /-- A content type of several lines. -/
  | brokenHeader
  /-- A decimal numeral that is too long. -/
  | overlong (o : Numeral.Overlong)
  /-- A body with an object or array inside too many others. -/
  | tooDeep (c : Json.Container)
  deriving DecidableEq, Repr

/-- The breakdown in words. -/
def Breakdown.message : Breakdown → Text
  | .target f => f.message
  | .brokenHeader => "Header values must not contain newline characters."
  | .overlong o => o.message
  | .tooDeep c => c.tooDeepMessage

/-- The value that bytes spell, in which at most `room` objects and arrays may stand in one another,
and null if they spell none. -/
def readBody (room : Nat) (bytes : List UInt8) : Except Breakdown Json :=
  match (Json.textOfBytes? bytes).map (Json.read room) with
  | some (.ok j) => .ok j
  | some (.error (.tooDeep c)) => .error (.tooDeep c)
  | _ => .ok .null

/-- The data of a request: its body if that is JSON and said to be, and null otherwise. -/
def Request.data (r : Request) (room : Nat) : Except Breakdown Json :=
  if r.contentType.any isJsonType then readBody room r.body else .ok .null

/-- A response that tells an error. -/
def failure (status : Nat) (message : Text) : Response :=
  { status, json := some (.object [("error", .string message)]) }

/-- The first of these members that is missing or no text; the first of all if there is no object.
-/
def missing? (names : List Text) (data : Json) : Option Text :=
  if data.isObject then names.find? fun name => ((data.member? name).bind Json.text?).isNone
  else names.head?

/-- The first of these members that is there and not true or false. -/
def notBool? (names : List Text) (data : Json) : Option Text :=
  names.find? fun name => (data.member? name).any (·.bool?.isNone)

/-- What is said of a member that is missing. -/
def missingMessage (name : Text) : Text := "Missing '" ++ name ++ "' field"

/-- What is said of a member that should be true or false. -/
def notBoolMessage (name : Text) : Text := "'" ++ name ++ "' must be true or false"

/-- The text of a member. -/
def textOf (data : Json) (name : Text) : Text :=
  ((data.member? name).bind Json.text?).getD ""

/-- The switch of a member. -/
def switchOf (data : Json) (name : Text) (default : Bool) : Bool :=
  ((data.member? name).bind Json.bool?).getD default

/-- The lines of a posted text. -/
def linesOf (data : Json) (name : Text) : List Text :=
  Text.postedLines (textOf data name)

/-- Texts as a JSON array. -/
def textArray (texts : List Text) : Json := .array (texts.map .string)

/-- The response that tells what a check found. -/
def report (a : Audit.Auditor) (violations : List Text) : Response :=
  let log := match a.journal with
    | none => []
    | some j => j.lines
  { status := 200
    json := some (.object
      [("passed", .bool violations.isEmpty),
       ("checked", .integer a.checked),
       ("tolerated", .integer a.tolerated),
       ("violations", textArray violations),
       ("log", textArray log)]) }

/-- A fault as a response: a finding is told, and nothing else can be. -/
def unreadable : Fault → Except Breakdown Response
  | .finding f => .ok (failure 422 f.message)
  | .overlong o => .error (.overlong o)

/-- The response to a check that has run. -/
def verdictResponse : Except Fault Audit.Verdict × Audit.Auditor →
    Except Breakdown Response
  | (.ok verdict, a) => .ok (report a (verdict.violations.map Finding.message))
  | (.error (.finding (.unowned address)), a) =>
    .ok (report a [Finding.message (.unowned address)])
  | (.error (.finding (.mismatch address recorded claimed owner)), a) =>
    .ok (report a [Finding.message (.mismatch address recorded claimed owner)])
  | (.error fault, _) => unreadable fault

/-- The response to a request for a check, once its members are there. -/
def verifyTexts (data : Json) : Except Breakdown Response :=
  let threshold : Level := if switchOf data "debug" false then .debug else .warning
  match (Snapshot.read (linesOf data "smaps")).on (some { threshold }) with
  | (.error fault, _) => unreadable fault
  | (.ok mappings, journal) =>
    let auditor : Audit.Auditor :=
      { mappings, failFast := switchOf data "fail_fast" true, journal }
    verdictResponse (auditor.runTrace (linesOf data "trace"))

/-- The response to a request for a check. -/
def verify (data : Json) : Except Breakdown Response :=
  match missing? ["smaps", "trace"] data with
  | some name => .ok (failure 400 (missingMessage name))
  | none =>
    match notBool? ["debug", "fail_fast"] data with
    | some name => .ok (failure 400 (notBoolMessage name))
    | none => verifyTexts data

/-- A mapping as it is listed. -/
def listed (m : Mapping) : Json :=
  .object
    [("start", .string (Numeral.hex0x m.start)),
     ("end", .string (Numeral.hex0x m.stop)),
     ("page_size_kb", .integer m.pageSize),
     ("transparent_huge", .bool m.transparentHuge),
     ("explicit_huge", .bool m.explicitHuge)]

/-- The response to a request for the mappings of a snapshot. -/
def ranges (data : Json) : Except Breakdown Response :=
  match missing? ["smaps"] data with
  | some name => .ok (failure 400 (missingMessage name))
  | none =>
    match (Snapshot.read (linesOf data "smaps")).on none with
    | (.error fault, _) => unreadable fault
    | (.ok mappings, _) =>
      .ok { status := 200, json := some (.object [("ranges", .array (mappings.map listed))]) }

/-- The response to a request whether the service is up. -/
def status : Response := { status := 200, json := some (.object [("status", .string "ok")]) }

/-- The response of a route to a request whose method is `method` in upper case. Only a request for
the head alone that spells its method in upper case is given no body. -/
def Route.respond (route : Route) (room : Nat) (method : Text) (r : Request) :
    Except Breakdown Response :=
  if method = "OPTIONS" then .ok { status := 200 }
  else
    match route with
    | .verify => r.data room >>= Service.verify
    | .ranges => r.data room >>= Service.ranges
    | .status => .ok (if r.method = "HEAD" then { status := 200 } else Service.status)
    | .file => .ok { status := 404 }

/-- A text of several lines. -/
def hasLineBreak (t : Text) : Bool := t.any Text.isFileBreak

/-- The response to a request in whose body there is `room` for so many objects and arrays in one
another. -/
def respond (room : Nat) (r : Request) : Except Breakdown Response := do
  let location ← (Location.ofTarget r.target).mapError .target
  if r.contentType.any hasLineBreak then throw .brokenHeader
  location.checkSent.mapError .target
  if !location.isServed then return { status := 400 }
  let method := Text.toUpper r.method
  match Destination.of location.isSocket method location.path with
  | .route route => route.respond room method r
  | .moved => return { status := 308 }
  | .wrongMethod => return { status := 405 }
  | .wrongConnection => return { status := 400 }
  | .nowhere => return { status := 404 }

end PageAudit.Service
