import PageAudit.Text.Basic

/-!
# The diagnostic journal

A journal keeps entries in the order in which they were made. It has a threshold: an entry below
that level is dropped as it is made.
-/

namespace PageAudit

/-- How severe an entry is. -/
inductive Level where
  | debug
  | info
  | warning
  | error
  deriving DecidableEq, Repr

namespace Level

/-- The place of a level in the order from least to most severe. -/
def severity : Level → Nat
  | .debug => 0
  | .info => 1
  | .warning => 2
  | .error => 3

/-- Levels are ordered by severity. -/
instance : LE Level := ⟨fun a b => a.severity ≤ b.severity⟩

/-- The order of levels can be decided. -/
instance (a b : Level) : Decidable (a ≤ b) := inferInstanceAs (Decidable (a.severity ≤ b.severity))

/-- Debug is the least level. -/
theorem debug_le (a : Level) : debug ≤ a := Nat.zero_le _

/-- The level's name. -/
def name : Level → Text
  | .debug => "DEBUG"
  | .info => "INFO"
  | .warning => "WARNING"
  | .error => "ERROR"

end Level

/-- One entry of a journal. -/
structure Entry where
  level : Level
  /-- The stage that made it. -/
  source : Text
  message : Text
  /-- The input line it is about. -/
  line : Option Int := none
  deriving DecidableEq, Repr

/-- The entry as it is shown. -/
def Entry.render (e : Entry) : Text :=
  let place : Text := match e.line with
    | none => e.source
    | some line => e.source ++ ":" ++ toString line
  "[" ++ e.level.name ++ "] " ++ place ++ ": " ++ e.message

/-- Entries in the order in which they were made, and the least level that is kept. -/
structure Journal where
  threshold : Level
  entries : Array Entry := #[]
  deriving DecidableEq, Repr

namespace Journal

/-- Whether entries of this level are kept. -/
def keeps (j : Journal) (level : Level) : Bool := j.threshold ≤ level

/-- Makes an entry. -/
def record (j : Journal) (e : Entry) : Journal :=
  if j.keeps e.level then { j with entries := j.entries.push e } else j

/-- The entries of a journal once one more is made. -/
theorem entries_record (j : Journal) (e : Entry) :
    (j.record e).entries.toList = j.entries.toList ++ [e].filter (j.keeps ·.level) := by
  unfold record
  split <;> simp_all

/-- The entries at or above a level and from a source, where these are given. -/
def select (j : Journal) (level : Option Level) (source : Option Text) : List Entry :=
  j.entries.toList.filter fun e =>
    level.all (fun l => decide (l ≤ e.level)) && source.all (fun s => e.source == s)

/-- The journal without its entries. -/
def clear (j : Journal) : Journal := { j with entries := #[] }

/-- Every entry as it is shown. -/
def lines (j : Journal) : List Text := j.entries.toList.map Entry.render

/-- The entries at or above a level, one under the other. -/
def format (j : Journal) (level : Level := .debug) : Text :=
  Text.join "\n" ((j.select (some level) none).map Entry.render)

end Journal

end PageAudit
