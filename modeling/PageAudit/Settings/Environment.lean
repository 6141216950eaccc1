import PageAudit.Settings.Basic
import PageAudit.Text.Case

/-!
# Settings from the environment

Four variables tell the settings. A variable that is empty counts as not set. A switch is told by
one of eight words, in any case and between blanks.
-/

namespace PageAudit.Settings

/-- The words that switch something on. -/
def onWords : List Text := ["1", "true", "yes", "on"]

/-- The words that switch something off. -/
def offWords : List Text := ["0", "false", "no", "off"]

/-- The switch that the value of a variable tells. -/
def readSwitch (name value : Text) : Except Complaint Bool :=
  let word := Text.toLower (Text.strip value)
  if onWords.contains word then .ok true
  else if offWords.contains word then .ok false
  else .error (.notSwitchWord name value)

/-- The variables of an environment with their values. -/
abbrev Environment := List (Text × Text)

/-- The value of a variable, unless it is empty. -/
def Environment.value? (environment : Environment) (name : Text) : Option Text :=
  (environment.lookup name).filter (· != "")

/-- The switch that a variable tells, if it is set. -/
def Environment.switch? (environment : Environment) (name : Text) :
    Except Complaint (Option Bool) :=
  match environment.value? name with
  | none => .ok none
  | some value => (readSwitch name value).map some

/-- The settings that an environment tells. -/
def ofEnvironment (environment : Environment) : Except Complaint Settings := do
  let debug ← environment.switch? "PAGECHECK_DEBUG"
  let failFast ← environment.switch? "PAGECHECK_FAIL_FAST"
  let snapshot := environment.value? "PAGECHECK_SMAPS_FILE"
  let trace := environment.value? "PAGECHECK_TRACE_FILE"
  return { snapshot, trace, debug, failFast }

end PageAudit.Settings
