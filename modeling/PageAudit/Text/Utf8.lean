import PageAudit.Text.Quoted

/-!
# UTF-8

A reader that takes one byte at a time. Of a byte sequence that is no character it names the longest
part that could still have begun one. The lenient reading puts one replacement character for each
such part; the strict reading stops at the first and says where it stands and what is wrong with it.
Surrogates have no place in UTF-8, but a strict reading may be told to keep those that are spelled
as characters are.
-/

namespace PageAudit.Text.Utf8

/-- A character whose last bytes are still to come. -/
structure Partial where
  /-- How many bytes are to come. -/
  missing : Nat
  /-- The bits read so far. -/
  bits : Nat
  /-- The least value of the next byte. -/
  low : Nat
  /-- The greatest value of the next byte. -/
  high : Nat
  deriving DecidableEq, Repr

/-- What one more byte makes of what was read before it. -/
inductive Step where
  | whole (c : CodePoint)
  | more (p : Partial)
  | invalid
  deriving DecidableEq, Repr

/-- What becomes of surrogates. -/
inductive Surrogates where
  | refused
  | kept
  deriving DecidableEq, Repr

/-- The greatest byte that may follow `0xed`, after which the surrogates come last. -/
def Surrogates.highAfterEd : Surrogates → Nat
  | .refused => 0x9f
  | .kept => 0xbf

/-- The first byte of a character. The bounds on the byte after it rule out the longer spellings of
small code points, the surrogates that are not kept, and everything past the last code point. -/
def lead (surrogates : Surrogates) (b : UInt8) : Step :=
  let n := b.toNat
  if n < 0x80 then .whole (.ofNat n)
  else if n < 0xc2 then .invalid
  else if n < 0xe0 then .more ⟨1, n - 0xc0, 0x80, 0xbf⟩
  else if n < 0xf0 then
    .more ⟨2, n - 0xe0, if n = 0xe0 then 0xa0 else 0x80,
      if n = 0xed then surrogates.highAfterEd else 0xbf⟩
  else if n < 0xf5 then
    .more ⟨3, n - 0xf0, if n = 0xf0 then 0x90 else 0x80, if n = 0xf4 then 0x8f else 0xbf⟩
  else .invalid

/-- A further byte of a character. -/
def Partial.next (p : Partial) (b : UInt8) : Step :=
  let n := b.toNat
  if p.low ≤ n ∧ n ≤ p.high then
    let bits := p.bits * 64 + (n - 0x80)
    if p.missing ≤ 1 then .whole (.ofNat bits) else .more ⟨p.missing - 1, bits, 0x80, 0xbf⟩
  else .invalid

/-- Stands for bytes that are no character. -/
def replacement : CodePoint := .ofNat 0xfffd

/-! ## The lenient reading -/

/-- What the lenient reading has after some bytes: its unfinished character and, last first, the
characters read. -/
structure Lenient where
  pending : Option Partial := none
  read : Text := []

/-- Takes in the outcome of one byte. -/
def Lenient.absorb (read : Text) : Step → Lenient
  | .whole c => ⟨none, c :: read⟩
  | .more p => ⟨some p, read⟩
  | .invalid => ⟨none, replacement :: read⟩

/-- Reads one byte. A byte that cannot continue the unfinished character begins a new one. -/
def Lenient.feed (s : Lenient) (b : UInt8) : Lenient :=
  match s.pending with
  | none => absorb s.read (lead .refused b)
  | some p =>
    match p.next b with
    | .invalid => absorb (replacement :: s.read) (lead .refused b)
    | step => absorb s.read step

/-- The characters read, once no byte is left. -/
def Lenient.finish (s : Lenient) : Text :=
  match s.pending with
  | none => s.read.reverse
  | some _ => (replacement :: s.read).reverse

/-- Every byte sequence as a text. -/
def decodeLenient (bytes : List UInt8) : Text :=
  (bytes.foldl Lenient.feed {}).finish

/-! ## The strict reading -/

/-- What can be wrong with a byte sequence. -/
inductive Cause where
  | invalidStart
  | invalidContinuation
  | unexpectedEnd
  deriving DecidableEq, Repr

/-- The first part of a byte sequence that is no character. -/
structure Fault where
  cause : Cause
  /-- The position of its first byte. -/
  first : Nat
  /-- The position of its last byte. -/
  last : Nat
  /-- Its first byte. -/
  byte : UInt8
  deriving DecidableEq, Repr

/-- The cause in words. -/
def Cause.message : Cause → String
  | .invalidStart => "invalid start byte"
  | .invalidContinuation => "invalid continuation byte"
  | .unexpectedEnd => "unexpected end of data"

/-- The fault in words. -/
def Fault.message (f : Fault) : Text :=
  let place : Text :=
    if f.first = f.last then
      "byte 0x" ++ hexDigits f.byte.toNat ++ " in position " ++
        toString f.first
    else "bytes in position " ++ toString f.first ++ "-" ++ toString f.last
  "'utf-8' codec can't decode " ++ place ++ ": " ++ f.cause.message

/-- What the strict reading has after some bytes. -/
structure Strict where
  /-- How many bytes were read. -/
  index : Nat := 0
  /-- The unfinished character with its first byte and that byte's position. -/
  pending : Option (Partial × UInt8 × Nat) := none
  /-- The characters read, last first. -/
  read : Text := []

/-- Reads one byte. -/
def Strict.feed (surrogates : Surrogates) (s : Strict) (b : UInt8) : Except Fault Strict :=
  match s.pending with
  | none =>
    match lead surrogates b with
    | .whole c => .ok { index := s.index + 1, read := c :: s.read }
    | .more p => .ok { index := s.index + 1, pending := some (p, b, s.index), read := s.read }
    | .invalid => .error ⟨.invalidStart, s.index, s.index, b⟩
  | some (p, byte, first) =>
    match p.next b with
    | .whole c => .ok { index := s.index + 1, read := c :: s.read }
    | .more q => .ok { index := s.index + 1, pending := some (q, byte, first), read := s.read }
    | .invalid => .error ⟨.invalidContinuation, first, s.index - 1, byte⟩

/-- The characters read, once no byte is left. -/
def Strict.finish (s : Strict) : Except Fault Text :=
  match s.pending with
  | none => .ok s.read.reverse
  | some (_, byte, first) => .error ⟨.unexpectedEnd, first, s.index - 1, byte⟩

/-- The text that a byte sequence spells. -/
def decode (surrogates : Surrogates) (bytes : List UInt8) : Except Fault Text := do
  (← bytes.foldlM (Strict.feed surrogates) {}).finish

end PageAudit.Text.Utf8
