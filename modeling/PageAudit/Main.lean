import PageAudit.CommandLine.Run

/-!
# The program

Gathers what a run may read, runs it, and prints what it has to say.
-/

namespace PageAudit.Program

open CommandLine

/-- The cause that an error of the file system tells: its number, and the words of the system. -/
def causeOf : IO.Error → FileFault.Cause
  | .noFileOrDirectory _ code words | .interrupted _ code words | .alreadyExists _ code words
  | .invalidArgument _ code words | .permissionDenied _ code words
  | .resourceExhausted _ code words | .inappropriateType _ code words | .noSuchThing _ code words
  | .otherError code words | .resourceBusy code words | .resourceVanished code words
  | .unsupportedOperation code words | .hardwareFault code words
  | .unsatisfiedConstraints code words | .illegalOperation code words
  | .protocolError code words | .timeExpired code words =>
    { code := code.toNat, message := Text.ofString words }
  | e => { code := 0, message := Text.ofString (toString e) }

/-- What reading a file gives. -/
def load (path : Path) : IO (Except FileFault (List UInt8)) := do
  match Text.encode Text.nameBytes? path.text with
  | .error u => return .error (.unencodable u)
  | .ok bytes =>
    if bytes.contains 0 then return .error .embeddedNull
    try
      return .ok (← IO.FS.readBinFile path.text.lossyString).toList
    catch e => return .error (.refused (causeOf e) path)

/-- A reader of files that were loaded before. -/
def reader (loaded : List (Path × Except FileFault (List UInt8))) : FileReader := fun path =>
  (loaded.lookup path).getD (.error (.refused .missing path))

/-- How many objects and arrays may stand in one another in a settings file. -/
def room : Nat := 988

/-- The files that options lead to: their settings file, then the files of the plan. -/
def gather (o : Options) (environment : Settings.Environment) : IO FileReader := do
  let settings ← o.configFile.toList.mapM fun path => return (path, ← load path)
  match Settings.resolve (reader settings) room o.configFile environment o.settings with
  | .error _ => return reader settings
  | .ok plan =>
    return reader (settings ++
      [(plan.snapshot, ← load plan.snapshot), (plan.trace, ← load plan.trace)])

/-- The variables that a check heeds. -/
def heededVariables : List String :=
  ["PAGECHECK_SMAPS_FILE", "PAGECHECK_TRACE_FILE", "PAGECHECK_DEBUG", "PAGECHECK_FAIL_FAST"]

/-- The environment, as far as a check heeds it. -/
def environment : IO Settings.Environment :=
  heededVariables.filterMapM fun name =>
    return (← IO.getEnv name).map fun value => (Text.ofString name, Text.ofString value)

end PageAudit.Program

/-- Runs the command line of the process. -/
def main (arguments : List String) : IO UInt32 := do
  let arguments := arguments.map PageAudit.Text.ofString
  let environment ← PageAudit.Program.environment
  let read ← match PageAudit.CommandLine.Invocation.ofArguments arguments with
    | .ok (.check o) => PageAudit.Program.gather o environment
    | _ => pure (PageAudit.Program.reader [])
  match PageAudit.CommandLine.run read PageAudit.Program.room PageAudit.CommandLine.Output.utf8
      arguments environment with
  | .ok result =>
    IO.print result.out.lossyString
    IO.eprint result.err.lossyString
    return UInt32.ofNat result.exitCode
  | .error breakdown =>
    IO.eprintln breakdown.message.lossyString
    return 1
