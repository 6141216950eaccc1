import PageAudit.Text.Quoted

/-!
# The options of the command line

Each option with its spellings, and what is said of arguments that cannot be understood.
-/

namespace PageAudit.CommandLine

/-- An option of the command line. -/
inductive Flag where
  | help
  | smaps
  | trace
  | config
  | debug
  | keepGoing
  deriving DecidableEq, Repr

namespace Flag

/-- Every option, in the order in which they are shown. -/
def all : List Flag := [help, smaps, trace, config, debug, keepGoing]

/-- The spellings of an option. -/
def spellings : Flag → List Text
  | help => ["-h", "--help"]
  | smaps => ["--smaps"]
  | trace => ["--trace"]
  | config => ["--config"]
  | debug => ["--debug", "-debug"]
  | keepGoing => ["--keep-going"]

/-- Whether an option takes a value. -/
def takesValue : Flag → Bool
  | smaps | trace | config => true
  | help | debug | keepGoing => false

/-- The option as messages call it. -/
def label (f : Flag) : Text := Text.join "/" f.spellings

end Flag

/-- Every spelling with its option. -/
def spelled : List (Text × Flag) :=
  Flag.all.flatMap fun f => f.spellings.map (·, f)

/-- The option that a text spells in full. -/
def inFull? (text : Text) : Option Flag := spelled.lookup text

/-- Arguments that cannot be understood. -/
inductive Refusal where
  /-- A shortened option that could be any of several. -/
  | ambiguous (word : Text) (candidates : List Text)
  /-- An option without the value that it takes. -/
  | valueExpected (f : Flag)
  /-- A value for an option that takes none. -/
  | valueIgnored (f : Flag) (value : Text)
  /-- Arguments that are no options. -/
  | unrecognized (words : List Text)
  deriving DecidableEq, Repr

/-- The refusal in words. -/
def Refusal.message : Refusal → Text
  | .ambiguous word candidates =>
    "ambiguous option: " ++ word ++ " could match " ++ Text.join ", " candidates
  | .valueExpected f => "argument " ++ f.label ++ ": expected one argument"
  | .valueIgnored f value =>
    "argument " ++ f.label ++ ": ignored explicit argument " ++ Text.quoted value
  | .unrecognized words => "unrecognized arguments: " ++ Text.join " " words

end PageAudit.CommandLine
