import PageAudit.Json.Basic
import PageAudit.Text.Quoted

/-!
# Writing JSON

A value as a text of ASCII without spaces. Every code point beyond ASCII is written as an escape of
four hexadecimal digits, or as the escapes of a pair of surrogates if four digits do not hold it; so
a surrogate that stands alone has a spelling too.
-/

namespace PageAudit.Json

/-- A code point below `0x10000` as an escape. -/
def unitEscape (n : Nat) : Text := '\\' :: 'u' :: Text.paddedHex 4 n

/-- One code point of a string. -/
def writeChar (c : CodePoint) : Text :=
  let n := c.toNat
  if c = '"' ∨ c = '\\' then ['\\', c]
  else if 0x20 ≤ n ∧ n < 0x7f then [c]
  else if n < 0x10000 then unitEscape n
  else
    unitEscape (0xd800 + (n - 0x10000) / 0x400) ++ unitEscape (0xdc00 + (n - 0x10000) % 0x400)

/-- A string between its quotes. -/
def writeString (s : Text) : Text := Text.doubleQuote :: s.flatMap writeChar ++ [Text.doubleQuote]

mutual

/-- A value as a text. -/
def write : Json → Text
  | .null => "null"
  | .bool true => "true"
  | .bool false => "false"
  | .integer n => toString n
  | .real literal => literal
  | .string s => writeString s
  | .array items => "[" ++ Text.join "," (writeItems items) ++ "]"
  | .object members => "\x7b" ++ Text.join "," (writeMembers members) ++ "\x7d"

/-- Every item of an array. -/
def writeItems : List Json → List Text
  | [] => []
  | item :: items => write item :: writeItems items

/-- Every member of an object. -/
def writeMembers : List (Text × Json) → List Text
  | [] => []
  | (name, value) :: members =>
    (writeString name ++ ":" ++ write value) :: writeMembers members

end

end PageAudit.Json
