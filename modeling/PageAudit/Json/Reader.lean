import PageAudit.Json.Scalar

/-!
# Reading JSON

Objects, arrays and whole texts. Every reader leaves less than it was given, which is why reading
ends. The first problem in the order of the text is the one that is told. An object or array is read
only while there is `room` for it: each takes one unit for what it holds.
-/

namespace PageAudit.Json

/-- A character that may stand between the parts of a text. -/
def isSpace (c : CodePoint) : Bool := c == ' ' || c == '\t' || c == '\n' || c == '\r'

/-- The text from its first character that is no space. -/
def skip (cs : Text) : Text := cs.dropWhile isSpace

/-- Skipping does not make a text longer. -/
theorem length_skip_le (cs : Text) : (skip cs).length ≤ cs.length :=
  (List.dropWhile_suffix _).length_le

/-- What follows a character is at least one shorter than the text before it was skipped to. -/
theorem length_lt_of_skip {cs rest : Text} {c : CodePoint} (h : skip cs = c :: rest) :
    rest.length < cs.length := by
  have := length_skip_le cs
  rw [h] at this
  exact this

mutual

/-- Reads the value at the front of a text. -/
def readValue (room : Nat) (cs : Text) : Except Stop (Json × Rest cs) :=
  match cs with
  | [] => .error (.problem .expectedValue [])
  | c :: rest =>
    if c = '"' then
      (readString (c :: rest) [] rest (Nat.lt_succ_self _)).map fun (s, after) => (.string s, after)
    else if c = '{' then
      match room with
      | 0 => .error (.tooDeep .object)
      | room + 1 =>
        match h : skip rest with
        | .char '}' :: after =>
          .ok (.object [], ⟨after, Nat.lt_succ_of_lt (length_lt_of_skip h)⟩)
        | _ =>
          (readMembers room (c :: rest) [] (skip rest)
            (Nat.lt_succ_of_le (length_skip_le rest))).map fun (members, after) =>
              (.object members, after)
    else if c = '[' then
      match room with
      | 0 => .error (.tooDeep .array)
      | room + 1 =>
        match h : skip rest with
        | .char ']' :: after =>
          .ok (.array [], ⟨after, Nat.lt_succ_of_lt (length_lt_of_skip h)⟩)
        | _ =>
          (readItems room (c :: rest) [] (skip rest)
            (Nat.lt_succ_of_le (length_skip_le rest))).map fun (items, after) =>
              (.array items, after)
    else
      match scalar? (c :: rest) with
      | none => .error (.problem .expectedValue (c :: rest))
      | some (length, value) =>
        (value.mapError .overlong).map fun v => (v, ⟨rest.drop (length - 1), by
          simp only [List.length_drop, List.length_cons]
          omega⟩)
termination_by (cs.length, 0)
decreasing_by
  all_goals
    have := length_skip_le rest
    apply Prod.Lex.left
    rw [List.length_cons]
    omega

/-- Reads the members of an object that began with `opened`, up to its brace; `done` holds those
read, last first. -/
def readMembers (room : Nat) (opened : Text) (done : List (Text × Json)) (cs : Text)
    (h : cs.length < opened.length) : Except Stop (List (Text × Json) × Rest opened) :=
  match cs with
  | [] => .error (.problem .expectedName [])
  | c :: rest =>
    if c = '"' then
      match readString (c :: rest) [] rest (Nat.lt_succ_self _) with
      | .error stop => .error stop
      | .ok (name, after) =>
        match colon : skip after.1 with
        | .char ':' :: rest' =>
          match readValue room (skip rest') with
          | .error stop => .error stop
          | .ok (value, after') =>
            have shorter : after'.1.length < rest.length := by
              have : after.1.length ≤ rest.length := Nat.le_of_lt_succ after.2
              have := length_lt_of_skip colon
              have := length_skip_le rest'
              have := after'.2
              omega
            match next : skip after'.1 with
            | .char '}' :: final =>
              .ok (((name, value) :: done).reverse, ⟨final, by
                have := length_lt_of_skip next
                rw [List.length_cons] at h
                omega⟩)
            | .char ',' :: final =>
              readMembers room opened ((name, value) :: done) (skip final) (by
                have := length_lt_of_skip next
                have := length_skip_le final
                rw [List.length_cons] at h
                omega)
            | left => .error (.problem .expectedComma left)
        | left => .error (.problem .expectedColon left)
    else .error (.problem .expectedName (c :: rest))
termination_by (cs.length, 0)
decreasing_by
  · have : after.1.length ≤ rest.length := Nat.le_of_lt_succ after.2
    have := length_lt_of_skip colon
    have := length_skip_le rest'
    apply Prod.Lex.left
    rw [List.length_cons]
    omega
  · have := length_lt_of_skip next
    have := length_skip_le final
    apply Prod.Lex.left
    rw [List.length_cons]
    omega

/-- Reads the items of an array that began with `opened`, up to its bracket; `done` holds those
read, last first. -/
def readItems (room : Nat) (opened : Text) (done : List Json) (cs : Text)
    (h : cs.length < opened.length) : Except Stop (List Json × Rest opened) :=
  match readValue room cs with
  | .error stop => .error stop
  | .ok (item, after) =>
    match next : skip after.1 with
    | .char ']' :: final => .ok ((item :: done).reverse, ⟨final, by
        have := after.2
        have := length_lt_of_skip next
        omega⟩)
    | .char ',' :: final =>
      readItems room opened (item :: done) (skip final) (by
        have := after.2
        have := length_lt_of_skip next
        have := length_skip_le final
        omega)
    | left => .error (.problem .expectedComma left)
termination_by (cs.length, 1)
decreasing_by
  · apply Prod.Lex.right
    omega
  · have := after.2
    have := length_lt_of_skip next
    have := length_skip_le final
    apply Prod.Lex.left
    omega

end

/-- The value that a text spells, and nothing besides it. -/
def readText (room : Nat) (cs : Text) : Except Stop Json := do
  let (value, rest) ← readValue room (skip cs)
  match skip rest.1 with
  | [] => return value
  | left => throw (.problem .extraData left)

/-- A mark of the byte order, which no text may begin with. -/
def byteOrderMark : CodePoint := .ofNat 0xfeff

/-- Reads a text in which at most `room` objects and arrays stand in one another. -/
def read (room : Nat) (text : Text) : Except Unreadable Json :=
  if text.head? = some byteOrderMark then .error (.malformed (.at text .byteOrderMark 0))
  else
    (readText room text).mapError fun
      | .problem p left => .malformed (.at text p (text.length - left.length))
      | .overlong o => .overlong o
      | .tooDeep c => .tooDeep c

end PageAudit.Json
