import PageAudit.Audit.Files
import PageAudit.Json.Malformed
import PageAudit.Text.Blank

/-!
# Settings

The four things a check can be told: its snapshot file, its trace file, whether to note every step
and whether to stop at the first failure. A source of settings need not tell all four; where two
sources tell the same thing the later source wins.
-/

namespace PageAudit

/-- What one source of settings, or several of them together, tell. -/
structure Settings where
  snapshot : Option Text := none
  trace : Option Text := none
  debug : Option Bool := none
  failFast : Option Bool := none
  deriving DecidableEq, Repr

namespace Settings

/-- The settings of two sources, the first of which wins. -/
def overriding (upper lower : Settings) : Settings :=
  { snapshot := upper.snapshot.or lower.snapshot
    trace := upper.trace.or lower.trace
    debug := upper.debug.or lower.debug
    failFast := upper.failFast.or lower.failFast }

/-- Why settings cannot be used. -/
inductive Complaint where
  /-- A switch that is told by a word which is neither yes nor no. -/
  | notSwitchWord (name value : Text)
  /-- A file that cannot be read. -/
  | unreadable (f : FileFault)
  /-- A file that holds no JSON. -/
  | malformed (m : Json.Malformed)
  /-- A file that holds JSON but no object. -/
  | notObject (path : Path)
  /-- A member that should be a string. -/
  | notString (name : Text)
  /-- A member that should be true or false. -/
  | notBool (name : Text)
  /-- A file that no source names, and the option that would. -/
  | missing (what option : Text)
  deriving DecidableEq, Repr

/-- The complaint in words. -/
def Complaint.message : Complaint → Text
  | .notSwitchWord name value => name ++ " must be a boolean, got " ++ Text.quoted value
  | .unreadable f => "Cannot load config file: " ++ f.message
  | .malformed m => "Cannot load config file: " ++ m.message
  | .notObject path => "Config file " ++ path.text ++ " must hold a JSON object"
  | .notString name => name ++ " must be a string"
  | .notBool name => name ++ " must be true or false"
  | .missing what option =>
    "No " ++ what ++ " given (use " ++ option ++ " or the config/environment)"

/-- What a source of settings can fail with. Only a complaint is about the settings themselves. -/
inductive Fault where
  | complaint (c : Complaint)
  /-- A path that holds the null character. -/
  | embeddedNull
  /-- A path that no bytes spell. -/
  | unencodable (u : Text.Unencodable)
  /-- A file whose bytes are no text. -/
  | undecodable (f : Text.Utf8.Fault)
  /-- A file with a numeral that is too long. -/
  | overlong (o : Numeral.Overlong)
  /-- A file with an object or array inside too many others. -/
  | tooDeep (c : Json.Container)
  deriving DecidableEq, Repr

/-- The fault in words. -/
def Fault.message : Fault → Text
  | .complaint c => c.message
  | .embeddedNull => FileFault.message .embeddedNull
  | .unencodable u => u.message
  | .undecodable f => f.message
  | .overlong o => o.message
  | .tooDeep c => c.tooDeepMessage

end Settings

end PageAudit
