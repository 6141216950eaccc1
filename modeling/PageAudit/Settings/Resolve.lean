import PageAudit.Settings.Environment
import PageAudit.Settings.File

/-!
# What a check is told in the end

Settings come from a file, from the environment and from the caller, the later ones winning. Both
files of a check must be named by a text that is not empty.
-/

namespace PageAudit.Settings

/-- The path that a setting names. -/
def pathOf (setting : Option Text) (what option : Text) : Except Complaint Path :=
  match setting with
  | none | some [] => .error (.missing what option)
  | some text => .ok (Path.ofText text)

/-- The plan that settings make. -/
def plan (s : Settings) : Except Complaint Audit.Plan := do
  let snapshot ← pathOf s.snapshot "smaps file" "--smaps"
  let trace ← pathOf s.trace "trace file" "--trace"
  return { snapshot, trace, debug := s.debug.getD false, failFast := s.failFast.getD true }

/-- The settings of a file, if there is one to read. -/
def ofFile? (read : FileReader) (room : Nat) : Option Path → Except Fault Settings
  | none => .ok {}
  | some path => ofFile read room path

/-- The plan that a file, an environment and the caller make together. -/
def resolve (read : FileReader) (room : Nat) (file : Option Path) (environment : Environment)
    (explicit : Settings) : Except Fault Audit.Plan := do
  let fromFile ← ofFile? read room file
  let fromEnvironment ← (ofEnvironment environment).mapError .complaint
  (plan (explicit.overriding (fromEnvironment.overriding fromFile))).mapError .complaint

end PageAudit.Settings
