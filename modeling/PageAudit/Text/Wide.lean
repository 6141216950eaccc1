import PageAudit.Text.Basic

/-!
# Reading UTF-16 and UTF-32

Texts of two-byte and four-byte units, in either byte order. A surrogate that stands alone is kept;
a unit cut short or past the last code point makes the text unreadable.
-/

namespace PageAudit.Text.Wide

/-- Which byte of a unit comes first. -/
inductive ByteOrder where
  | little
  | big
  deriving DecidableEq, Repr

/-- The number that the bytes of one unit spell. -/
def ByteOrder.unit (order : ByteOrder) (bytes : List UInt8) : Nat :=
  let ordered := match order with
    | .little => bytes.reverse
    | .big => bytes
  ordered.foldl (fun n b => n * 256 + b.toNat) 0

/-- The two-byte units of a text. -/
def units16 (order : ByteOrder) : List UInt8 → Option (List Nat)
  | [] => some []
  | a :: b :: bytes => (units16 order bytes).map (order.unit [a, b] :: ·)
  | [_] => none

/-- A unit that begins a pair. -/
def isHighSurrogate (n : Nat) : Bool := 0xd800 ≤ n && n < 0xdc00

/-- A unit that ends a pair. -/
def isLowSurrogate (n : Nat) : Bool := 0xdc00 ≤ n && n < 0xe000

/-- The code point that a pair of surrogates spells. -/
def joinSurrogates (high low : Nat) : Nat := 0x10000 + (high - 0xd800) * 0x400 + (low - 0xdc00)

/-- The text of two-byte units. -/
def ofUnits16 : List Nat → Text
  | [] => []
  | [n] => [.ofNat n]
  | n :: m :: units =>
    if isHighSurrogate n && isLowSurrogate m then .ofNat (joinSurrogates n m) :: ofUnits16 units
    else .ofNat n :: ofUnits16 (m :: units)

/-- A UTF-16 text without a mark of its byte order. -/
def decode16 (order : ByteOrder) (bytes : List UInt8) : Option Text :=
  (units16 order bytes).map ofUnits16

/-- A UTF-32 text without a mark of its byte order. -/
def decode32 (order : ByteOrder) : List UInt8 → Option Text
  | [] => some []
  | a :: b :: c :: d :: bytes =>
    let n := order.unit [a, b, c, d]
    if n ≤ 0x10ffff then (decode32 order bytes).map (.ofNat n :: ·) else none
  | _ => none

end PageAudit.Text.Wide
