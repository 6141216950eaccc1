import PageAudit.Journal.Logged
import PageAudit.Snapshot.Record

/-!
# Reading a snapshot

A session takes the lines of a snapshot one at a time and gathers the mappings that they close. A
line that cannot be read leaves the open record and the mappings as they were, so the session can go
on after it. Closing the session closes the last record and leaves none open.
-/

namespace PageAudit.Snapshot

/-- A snapshot that is being read. -/
structure Session where
  state : State := none
  /-- The mappings of the records closed so far. -/
  mappings : Array Mapping := #[]
  /-- How many lines were fed. -/
  line : Nat := 0
  journal : Option Journal := none

namespace Session

/-- Notes something. -/
def note (s : Session) (level : Level) (message : Text) (line : Option Int := none) : Session :=
  { s with journal := Journal.add? s.journal { level, source := "smaps", message, line } }

/-- Gathers a mapping, and notes it if there is a journal to note it in. -/
def add (s : Session) (m : Mapping) : Except Fault Unit × Session :=
  let s := { s with mappings := s.mappings.push m }
  match s.journal with
  | none => (.ok (), s)
  | some _ =>
    match m.describe with
    | .ok text => (.ok (), s.note .debug ("Added range: " ++ text))
    | .error overlong => (.error (.overlong overlong), s)

/-- Gathers the mapping of a closed record, if one was closed. -/
def gather (s : Session) : Option Mapping → Except Fault Unit × Session
  | none => (.ok (), s)
  | some m => s.add m

/-- Takes one line. -/
def feed (s : Session) (line : Text) : Except Fault Unit × Session :=
  let s := { s with line := s.line + 1 }
  let s := s.note .debug (Text.chomp line) (some s.line)
  match s.state.step line s.line with
  | .error fault => (.error fault, s)
  | .ok (state, closed) => { s with state }.gather closed

/-- Takes lines up to the first that cannot be read. -/
def feedAll : List Text → Session → Except Fault Unit × Session
  | [], s => (.ok (), s)
  | line :: lines, s =>
    match s.feed line with
    | (.ok (), s) => feedAll lines s
    | (.error fault, s) => (.error fault, s)

/-- Closes the last record; the mappings read so far. -/
def finish (s : Session) : Except Fault (List Mapping) × Session :=
  match s.state.close with
  | .error fault => (.error fault, s)
  | .ok closed =>
    match { s with state := none }.gather closed with
    | (.ok (), s) => (.ok s.mappings.toList, s)
    | (.error fault, s) => (.error fault, s)

end Session

/-- The mappings of a whole snapshot, in its order. -/
def read (lines : List Text) : Logged Fault (List Mapping) := fun journal =>
  match Session.feedAll lines { journal } with
  | (.error fault, s) => (.error fault, s.journal)
  | (.ok (), s) =>
    let (result, s) := s.finish
    (result, s.journal)

end PageAudit.Snapshot
