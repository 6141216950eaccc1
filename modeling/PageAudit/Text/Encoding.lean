import PageAudit.Text.Quoted

/-!
# Writing UTF-8

The bytes of a text. A surrogate has no bytes of its own; in the name of a file 128 of them stand
for the bytes beyond ASCII, so that a name which is no UTF-8 can still be told as a text.
-/

namespace PageAudit.Text

/-- The bytes of a code point. -/
def bytes? : CodePoint → Option (List UInt8)
  | .char c => some (String.utf8EncodeChar c)
  | .surrogate _ => none

/-- How far the surrogate that stands for a byte is from the first surrogate, less the byte. -/
def byteOffset : Nat := 0x400

/-- The bytes of a code point in the name of a file. -/
def nameBytes? : CodePoint → Option (List UInt8)
  | .char c => some (String.utf8EncodeChar c)
  | .surrogate offset =>
    if byteOffset + 0x80 ≤ offset.val ∧ offset.val < byteOffset + 0x100 then
      some [UInt8.ofNat (offset.val - byteOffset)]
    else none

/-- The first part of a text that has no bytes. -/
structure Unencodable where
  /-- The position of its first code point. -/
  first : Nat
  /-- The position of its last code point. -/
  last : Nat
  /-- Its first code point. -/
  codePoint : CodePoint
  deriving DecidableEq, Repr

/-- What is said of a text that has no bytes. -/
def Unencodable.message (u : Unencodable) : Text :=
  let place : Text :=
    if u.first = u.last then
      "character " ++ quoted [u.codePoint] ++ " in position " ++ toString u.first
    else "characters in position " ++ toString u.first ++ "-" ++ toString u.last
  "'utf-8' codec can't encode " ++ place ++ ": surrogates not allowed"

/-- Whether a code point is a surrogate. -/
def isSurrogate : CodePoint → Bool
  | .char _ => false
  | .surrogate _ => true

/-- The first part of a text that has no bytes: it goes on as long as surrogates follow. -/
def unencodable? (bytesOf? : CodePoint → Option (List UInt8)) (t : Text) : Option Unencodable :=
  let first := (t.takeWhile fun c => (bytesOf? c).isSome).length
  match t.drop first with
  | [] => none
  | c :: rest => some ⟨first, first + (rest.takeWhile isSurrogate).length, c⟩

/-- The bytes of a text. -/
def encode (bytesOf? : CodePoint → Option (List UInt8)) (t : Text) :
    Except Unencodable (List UInt8) :=
  match unencodable? bytesOf? t with
  | some u => .error u
  | none => .ok (t.flatMap fun c => (bytesOf? c).getD [])

/-- Every part of a text without surrogates has bytes. -/
theorem unencodable?_ofChars (cs : List Char) : unencodable? bytes? (ofChars cs) = none := by
  have all_some : ((ofChars cs).takeWhile fun c => (bytes? c).isSome) = ofChars cs := by
    induction cs with
    | nil => rfl
    | cons c cs ih =>
      change (CodePoint.char c :: ofChars cs).takeWhile _ = _
      rw [List.takeWhile_cons_of_pos rfl, ih]
      rfl
  unfold unencodable?
  simp only [all_some, List.drop_length]

/-- A text without surrogates has the bytes of its characters one after the other. -/
theorem encode_ofChars (cs : List Char) :
    encode bytes? (ofChars cs) = .ok (cs.flatMap String.utf8EncodeChar) := by
  unfold encode
  rw [unencodable?_ofChars]
  simp [ofChars, List.flatMap_map, bytes?]

end PageAudit.Text
