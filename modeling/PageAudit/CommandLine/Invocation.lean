import PageAudit.CommandLine.Word
import PageAudit.Settings.Resolve

/-!
# What a command line asks for

The options of a command line are carried out from left to right. Where one is repeated, the last
counts. A call for help is answered at once; anything else that cannot be understood is refused once
the options are read.
-/

namespace PageAudit.CommandLine

/-- What the options ask for. -/
structure Options where
  smaps : Option Text := none
  trace : Option Text := none
  config : Option Text := none
  debug : Bool := false
  keepGoing : Bool := false
  deriving DecidableEq, Repr

namespace Options

/-- The file that a value names: none if the value is the mark that ends the options. -/
def fileNamed (value : Text) : Text := if value = terminatorMark then "" else value

/-- The options with a value given to one of them. -/
def assign (o : Options) (f : Flag) (value : Text) : Options :=
  match f with
  | .smaps => { o with smaps := some (fileNamed value) }
  | .trace => { o with trace := some (fileNamed value) }
  | .config => { o with config := some value }
  | _ => o

/-- The options with one of them switched on. -/
def switch (o : Options) (f : Flag) : Options :=
  match f with
  | .debug => { o with debug := true }
  | .keepGoing => { o with keepGoing := true }
  | _ => o

/-- The file of settings that the options name. -/
def configFile (o : Options) : Option Path := o.config.map Path.ofText

/-- The settings that the options tell. Neither switch can be switched back. -/
def settings (o : Options) : Settings :=
  { snapshot := o.smaps
    trace := o.trace
    debug := if o.debug then some true else none
    failFast := if o.keepGoing then some false else none }

end Options

/-- What a command line asks for. -/
inductive Invocation where
  | help
  | check (o : Options)
  deriving DecidableEq, Repr

/-- The options in one word with a value attached to the first of them, which takes none. After a
single dash each character of the value has to be an option of one letter, none of which takes a
value either; what is left at the first that is none was attached in vain. -/
def cluster (f : Flag) (single : Bool) : Text → Except Refusal (List Flag)
  | [] => .error (.valueIgnored f [])
  | c :: rest =>
    match single, inFull? ['-', c] with
    | true, some g => if rest = [] then .ok [f, g] else (cluster g true rest).map (f :: ·)
    | _, _ => .error (.valueIgnored f (c :: rest))

/-- Carries out words from left to right, given the options so far and the words left over. -/
def carryOut (o : Options) (left : List Text) : List (Text × Word) → Except Refusal Invocation
  | [] => if left = [] then .ok (.check o) else .error (.unrecognized left)
  | (_, .flag f _ none) :: rest =>
    if f.takesValue then
      match rest with
      | (value, .value) :: rest => carryOut (o.assign f value) left rest
      | _ => .error (.valueExpected f)
    else if f = .help then .ok .help
    else carryOut (o.switch f) left rest
  | (_, .flag f single (some attached)) :: rest =>
    if f.takesValue then carryOut (o.assign f attached) left rest
    else
      match cluster f single attached with
      | .error refusal => .error refusal
      | .ok flags =>
        if flags.contains .help then .ok .help
        else carryOut (flags.foldl Options.switch o) left rest
  | (word, _) :: rest => carryOut o (left ++ [word]) rest

/-- What a command line asks for. -/
def Invocation.ofArguments (arguments : List Text) : Except Refusal Invocation := do
  carryOut {} [] (← classifyAll arguments)

end PageAudit.CommandLine
