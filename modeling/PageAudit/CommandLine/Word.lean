import PageAudit.CommandLine.Flag
import PageAudit.Text.Digit
import PageAudit.Text.Fields
import PageAudit.Text.Lines

/-!
# The words of a command line

What each argument is by its looks: a value, an option in full or shortened, or something that
looks like an option and is none. A word that begins with a dash is still a value if it is a
negative number or holds a space. After `--` every word is a value.
-/

namespace PageAudit.CommandLine

/-- What an argument is by its looks. -/
inductive Word where
  | value
  /-- The mark after which every word is a value. -/
  | terminator
  /-- An option, whether it is spelled with one dash, and the value in the same word. -/
  | flag (f : Flag) (single : Bool) (attached : Option Text)
  /-- What looks like an option and is none. -/
  | unknown
  deriving DecidableEq, Repr

/-- The mark after which every word is a value. -/
def terminatorMark : Text := "--"

/-- Whether a spelling has one dash. -/
def isSingle : Text → Bool
  | _ :: c :: _ => c != '-'
  | _ => true

/-- A minus and decimal digits, with at most one point before the last of them; a line feed may end
it. -/
def isNegativeNumber : Text → Bool
  | .char '-' :: cs =>
    let cs := Text.dropLineFeed cs
    match cs.dropWhile Text.isDigit with
    | [] => cs != []
    | .char '.' :: fraction => fraction != [] && fraction.all Text.isDigit
    | _ => false
  | _ => false

/-- The options that a word with two dashes may shorten: all that begin with what stands before its
equals sign. -/
def doubleDashCandidates (word : Text) : List (Text × Word) :=
  let (name, value) := Text.cutAt '=' word
  (spelled.filter fun (spelling, _) => name.isPrefixOf spelling).map fun (spelling, f) =>
    (spelling, .flag f (isSingle spelling) value)

/-- The options that a word with one dash may mean: one of a single letter with the rest as its
value, or one that begins with the whole word. -/
def singleDashCandidates (word : Text) : List (Text × Word) :=
  spelled.filterMap fun (spelling, f) =>
    if spelling = word.take 2 then
      some (spelling, .flag f (isSingle spelling) (some (word.drop 2)))
    else if word.isPrefixOf spelling then some (spelling, .flag f (isSingle spelling) none)
    else none

/-- What a word that begins with a dash is when no option is spelled in full. -/
def classifyShortened (word : Text) : Except Refusal Word :=
  let candidates :=
    if isSingle word then singleDashCandidates word else doubleDashCandidates word
  match candidates with
  | [] => .ok (if isNegativeNumber word || word.contains (.char ' ') then .value else .unknown)
  | [(_, found)] => .ok found
  | several => .error (.ambiguous word (several.map (·.1)))

/-- What a word is. -/
def classify (word : Text) : Except Refusal Word :=
  match word with
  | .char '-' :: _ :: _ =>
    match inFull? word with
    | some f => .ok (.flag f (isSingle word) none)
    | none =>
      match Text.cutAt '=' word with
      | (name, some value) =>
        match inFull? name with
        | some f => .ok (.flag f (isSingle name) (some value))
        | none => classifyShortened word
      | (_, none) => classifyShortened word
  | _ => .ok .value

/-- The words of a command line, each with what it is. -/
def classifyAll : List Text → Except Refusal (List (Text × Word))
  | [] => .ok []
  | word :: rest =>
    if word = terminatorMark then .ok ((word, .terminator) :: rest.map (·, .value))
    else do
      let kind ← classify word
      let kinds ← classifyAll rest
      return (word, kind) :: kinds

end PageAudit.CommandLine
