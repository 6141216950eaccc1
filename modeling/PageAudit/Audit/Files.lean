import PageAudit.Audit.Auditor
import PageAudit.FileStore
import PageAudit.Snapshot.Session
import PageAudit.Text.Utf8

/-!
# Auditing files

The whole check on two files: the snapshot is read to its end, then the trace is opened and its
claims are judged. Bytes that spell no character are replaced, so what a file holds never stops
the reading of its lines.
-/

namespace PageAudit.Audit

/-- What a check is given: its two files and its two switches. -/
structure Plan where
  snapshot : Path
  trace : Path
  debug : Bool := false
  failFast : Bool := true
  deriving DecidableEq, Repr

/-- What ends a check of files before its time. -/
inductive Stop where
  | fault (f : Fault)
  | file (f : FileFault)
  deriving DecidableEq, Repr

/-- What ended the check, in words. -/
def Stop.message : Stop → Text
  | .fault f => f.message
  | .file f => f.message

/-- The lines of a file. -/
def readLines (read : FileReader) (path : Path) : Except Stop (List Text) :=
  ((read path).mapError .file).map fun bytes => Text.fileLines (Text.Utf8.decodeLenient bytes)

/-- The mappings of a snapshot file. -/
def loadSnapshot (read : FileReader) (path : Path) : Logged Stop (List Mapping) := do
  Logged.note .info "smaps" ("Parsing: " ++ path.name ++ "...")
  let lines ← Logged.ofExcept (readLines read path)
  (Snapshot.read lines).mapError .fault

/-- The claims of at most `limit` pulls from a trace file, all of them if there is no limit, and
what ended them before that. The file is opened by the first pull. -/
def loadClaims (read : FileReader) (path : Path) (limit : Option Nat) (journal : Option Journal) :
    List Claim × Option Stop × Option Journal :=
  if limit = some 0 then ([], none, journal)
  else
    match readLines read path with
    | .error stop => ([], some stop, journal)
    | .ok lines =>
      let (claims, fault, trace) :=
        Trace.takeClaims (limit.getD (lines.length + 1)) { rest := lines, journal }
      (claims, fault.map .fault, trace.journal)

/-- Runs over the claims of a trace. -/
def judgeTrace (mappings : List Mapping) (failFast : Bool) (lines : List Text) :
    Logged Fault Verdict := fun journal =>
  let (result, auditor) := Auditor.runTrace lines { mappings, failFast, journal }
  (result, auditor.journal)

/-- Checks the files of a plan, in the caller's journal. -/
def inspect (read : FileReader) (plan : Plan) : Logged Stop Verdict := do
  let mappings ← loadSnapshot read plan.snapshot
  Logged.note .info "smaps" ("Parsed " ++ toString mappings.length ++ " ranges")
  let lines ← Logged.ofExcept (readLines read plan.trace)
  (judgeTrace mappings plan.failFast lines).mapError .fault

/-- The journal of a check whose caller has none. -/
def ownJournal (plan : Plan) : Journal := { threshold := if plan.debug then .debug else .info }

/-- Checks the files of a plan. Without a caller's journal it keeps one of its own. -/
def checkFiles (read : FileReader) (plan : Plan) : Logged Stop Verdict := fun journal =>
  match journal with
  | some journal => inspect read plan (some journal)
  | none => ((inspect read plan (some (ownJournal plan))).1, none)

end PageAudit.Audit
