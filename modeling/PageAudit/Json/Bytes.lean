import PageAudit.Text.Utf8
import PageAudit.Text.Wide

/-!
# JSON in bytes

JSON may come in any of the Unicode encodings. A mark of the byte order tells which; without one the
zero bytes among the first four do, since a text begins with two characters of ASCII.
-/

namespace PageAudit.Json

/-- The encodings of a text. -/
inductive Encoding where
  | utf8
  | utf16 (order : Text.Wide.ByteOrder)
  | utf32 (order : Text.Wide.ByteOrder)
  deriving DecidableEq, Repr

/-- The encoding that a mark tells, with the bytes after the mark. -/
def Encoding.ofMark? : List UInt8 → Option (Encoding × List UInt8)
  | 0x00 :: 0x00 :: 0xfe :: 0xff :: rest => some (.utf32 .big, rest)
  | 0xff :: 0xfe :: 0x00 :: 0x00 :: rest => some (.utf32 .little, rest)
  | 0xfe :: 0xff :: rest => some (.utf16 .big, rest)
  | 0xff :: 0xfe :: rest => some (.utf16 .little, rest)
  | 0xef :: 0xbb :: 0xbf :: rest => some (.utf8, rest)
  | _ => none

/-- The encoding of bytes without a mark. -/
def Encoding.ofZeros : List UInt8 → Encoding
  | a :: b :: c :: d :: _ =>
    if a = 0 then (if b = 0 then .utf32 .big else .utf16 .big)
    else if b = 0 then (if c = 0 ∧ d = 0 then .utf32 .little else .utf16 .little)
    else .utf8
  | [a, b] => if a = 0 then .utf16 .big else if b = 0 then .utf16 .little else .utf8
  | _ => .utf8

/-- The text that bytes spell in an encoding, its surrogates kept. -/
def Encoding.decode : Encoding → List UInt8 → Option Text
  | .utf8, bytes => (Text.Utf8.decode .kept bytes).toOption
  | .utf16 order, bytes => Text.Wide.decode16 order bytes
  | .utf32 order, bytes => Text.Wide.decode32 order bytes

/-- The text that bytes spell, if they spell one. -/
def textOfBytes? (bytes : List UInt8) : Option Text :=
  let (encoding, bytes) := (Encoding.ofMark? bytes).getD (Encoding.ofZeros bytes, bytes)
  encoding.decode bytes

end PageAudit.Json
