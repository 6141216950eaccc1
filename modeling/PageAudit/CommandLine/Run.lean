import PageAudit.Audit.Report
import PageAudit.CommandLine.Invocation

/-!
# Running a command line

One check from its arguments to its exit code and its output. The code is 0 if every claim held, 1
if the check failed and 2 if it could not be made. The journal goes before the outcome, which goes
to the standard output; what hindered the check goes to the standard error. The standard output may
lack characters of what is to be said, while the standard error escapes those that it lacks.
-/

namespace PageAudit.CommandLine

/-- The exit code of a check that passed. -/
def exitPass : Nat := 0

/-- The exit code of a check that failed. -/
def exitFail : Nat := 1

/-- The exit code of a check that could not be made. -/
def exitUsage : Nat := 2

/-- How a run ended. -/
structure Result where
  exitCode : Nat
  out : Text := ""
  err : Text := ""
  /-- Whether the arguments alone decided it, before any check. -/
  byArguments : Bool := false
  deriving DecidableEq, Repr

/-- An input that a run has no answer to. -/
inductive Breakdown where
  /-- A path that holds the null character. -/
  | embeddedNull
  /-- A path that no bytes spell. -/
  | unencodable (u : Text.Unencodable)
  /-- A settings file whose bytes are no text. -/
  | undecodable (f : Text.Utf8.Fault)
  /-- A decimal numeral that is too long. -/
  | overlong (o : Numeral.Overlong)
  /-- A settings file with an object or array inside too many others. -/
  | tooDeep (c : Json.Container)
  /-- A settings file that is named by the mark that ends the options. -/
  | noConfig
  /-- A text that the standard output does not show. -/
  | unshown (message : Text)
  deriving DecidableEq, Repr

/-- The breakdown in words. -/
def Breakdown.message : Breakdown → Text
  | .embeddedNull => FileFault.message .embeddedNull
  | .unencodable u => u.message
  | .undecodable f => f.message
  | .overlong o => o.message
  | .tooDeep c => c.tooDeepMessage
  | .noConfig => "'list' object has no attribute 'read_text'"
  | .unshown message => message

/-- A standard output, by what keeps it from showing a text: nothing if the text is shown. -/
abbrev Output := Text → Option Text

/-- An output in UTF-8, which shows all texts without surrogates. -/
def Output.utf8 : Output := fun text =>
  match Text.encode Text.bytes? text with
  | .ok _ => none
  | .error u => some u.message

/-- How the program is called. -/
def usage : Text :=
  "usage: py-pagecheck [-h] [--smaps SMAPS] [--trace TRACE] [--config CONFIG]\n" ++
    "                    [--debug] [--keep-going]\n"

/-- What the program does and takes. -/
def helpText : Text :=
  usage ++ "\n" ++
    "Check logged VM page sizes against a /proc/<pid>/smaps snapshot.\n" ++
    "\n" ++
    "options:\n" ++
    "  -h, --help       show this help message and exit\n" ++
    "  --smaps SMAPS    smaps snapshot to check against\n" ++
    "  --trace TRACE    page-size trace log written by the VM\n" ++
    "  --config CONFIG  JSON config file\n" ++
    "  --debug, -debug  print every line read and every comparison made\n" ++
    "  --keep-going     report every failed assertion instead of stopping at the\n" ++
    "                   first\n"

/-- A text as it is printed. -/
def printed (text : Text) : Text := text ++ "\n"

/-- What a run comes to before any of it is shown. -/
structure Conclusion where
  exitCode : Nat
  /-- What goes to the standard output, one text after the other. -/
  said : List Text := []
  /-- What goes to the standard error. -/
  err : Text := ""
  deriving DecidableEq, Repr

/-- How a run ends that has shown all it has to say. -/
def Conclusion.result (c : Conclusion) : Result :=
  { exitCode := c.exitCode, out := c.said.flatMap printed, err := c.err }

/-- Shows what a run has to say. The first text that is not shown breaks the run off. -/
def Conclusion.showOn (c : Conclusion) (output : Output) : Except Breakdown Result :=
  match c.said.findSome? output with
  | some message => .error (.unshown message)
  | none => .ok c.result

/-- What a journal has to say: nothing if it has no entries. -/
def saidOf (journal : Journal) : List Text :=
  let text := journal.format
  if text = "" then [] else [text]

/-- What hindered a check. -/
def hindered (message : Text) : Conclusion :=
  { exitCode := exitUsage, err := printed ("error: " ++ message) }

/-- What a check has to say, under the journal that it kept. -/
def reported (exitCode : Nat) (journal : Option Journal) (text : Text) : Conclusion :=
  let before : List Text := match journal with
    | none => []
    | some j => saidOf j
  { exitCode, said := before ++ [text] }

/-- The journal of a run: every step if it is to be told, and warnings otherwise. -/
def journalFor (plan : Audit.Plan) : Journal :=
  { threshold := if plan.debug then .debug else .warning }

/-- What the check of a plan comes to. -/
def concludePlan (read : FileReader) (plan : Audit.Plan) : Except Breakdown Conclusion :=
  match (Audit.checkFiles read plan).on (some (journalFor plan)) with
  | (.ok verdict, journal) =>
    .ok (reported (if verdict.passed then exitPass else exitFail) journal verdict.report)
  | (.error (.fault (.finding f)), journal) =>
    .ok (reported exitFail journal ("FAIL: " ++ f.message))
  | (.error (.fault (.overlong o)), _) => .error (.overlong o)
  | (.error (.file .embeddedNull), _) => .error .embeddedNull
  | (.error (.file (.unencodable u)), _) => .error (.unencodable u)
  | (.error (.file f), _) => .ok (hindered f.message)

/-- What the check comes to that the options ask for. -/
def conclude (read : FileReader) (room : Nat) (o : Options)
    (environment : Settings.Environment) : Except Breakdown Conclusion :=
  if o.config = some terminatorMark then .error .noConfig
  else
    match Settings.resolve read room o.configFile environment o.settings with
    | .ok plan => concludePlan read plan
    | .error (.complaint c) => .ok (hindered c.message)
    | .error .embeddedNull => .error .embeddedNull
    | .error (.unencodable u) => .error (.unencodable u)
    | .error (.undecodable f) => .error (.undecodable f)
    | .error (.overlong o) => .error (.overlong o)
    | .error (.tooDeep c) => .error (.tooDeep c)

/-- Runs a command line, with `room` for objects and arrays in one another in a settings file. -/
def run (read : FileReader) (room : Nat) (output : Output) (arguments : List Text)
    (environment : Settings.Environment) : Except Breakdown Result :=
  match Invocation.ofArguments arguments with
  | .error refusal =>
    .ok
      { exitCode := exitUsage
        err := usage ++ printed ("py-pagecheck: error: " ++ refusal.message)
        byArguments := true }
  | .ok .help => .ok { exitCode := exitPass, out := helpText, byArguments := true }
  | .ok (.check o) => do
    let conclusion ← conclude read room o environment
    conclusion.showOn output

end PageAudit.CommandLine
