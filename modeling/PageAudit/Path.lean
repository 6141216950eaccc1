import PageAudit.Text.Fields

/-!
# Paths

A path in normal form: without empty parts and without parts that stay where they are. Parts that go
up are kept, since what they lead to is for the file system to say.
-/

namespace PageAudit

/-- Where a path begins. -/
inductive Path.Origin where
  /-- The working directory. -/
  | working
  /-- The root. -/
  | root
  /-- The root that exactly two slashes name. -/
  | doubleRoot
  deriving DecidableEq, Repr

/-- A path in normal form. -/
structure Path where
  origin : Path.Origin := .working
  parts : List Text := []
  deriving DecidableEq, Repr

namespace Path

/-- What a path with this origin begins with. -/
def Origin.text : Origin → Text
  | .working => ""
  | .root => "/"
  | .doubleRoot => "//"

/-- The origin that the slashes at the front of a text name. -/
def Origin.ofText (cs : Text) : Origin :=
  match (cs.takeWhile fun (c : CodePoint) => c == '/').length with
  | 0 => .working
  | 2 => .doubleRoot
  | _ => .root

/-- A part that a path in normal form keeps. -/
def keepsPart (part : Text) : Bool := part != "" && part != "."

/-- The path that a text spells. -/
def ofText (text : Text) : Path :=
  { origin := .ofText text, parts := (Text.fields '/' text).filter keepsPart }

/-- The path as a text. -/
def text (p : Path) : Text := if p = {} then "." else p.origin.text ++ Text.join "/" p.parts

/-- The last part of a path. -/
def name (p : Path) : Text := p.parts.getLast?.getD ""

end Path

end PageAudit
