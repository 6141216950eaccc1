import PageAudit.Text.Basic

/-!
# JSON values

A value keeps its object members in the order in which they were written. Where a name is written
twice, the last member counts.
-/

namespace PageAudit

/-- A JSON value. -/
inductive Json where
  | null
  | bool (b : Bool)
  | integer (n : Int)
  /-- A number that is no integer, as it is written. -/
  | real (literal : Text)
  | string (s : Text)
  | array (items : List Json)
  | object (members : List (Text × Json))
  deriving Repr, BEq

namespace Json

/-- Whether the value is an object. -/
def isObject : Json → Bool
  | .object _ => true
  | _ => false

/-- The member of an object with this name. -/
def member? (j : Json) (name : Text) : Option Json :=
  match j with
  | .object members => (members.reverse.find? (·.1 == name)).map (·.2)
  | _ => none

/-- The text that a string value holds. -/
def text? : Json → Option Text
  | .string s => some s
  | _ => none

/-- The switch that a boolean value holds. -/
def bool? : Json → Option Bool
  | .bool b => some b
  | _ => none

end Json

end PageAudit
