import PageAudit.Service.Authority
import PageAudit.Text.Utf8

/-!
# Targets

The text that tells where a request goes: perhaps a scheme and an authority, then a path, then
perhaps a query and a fragment. A target is split twice, and what the second splitting takes for a
scheme or an authority is dropped; the first tells the scheme and the host that are asked. A third
splitting brings the path that is left into normal form, in which its own scheme and authority stay.
-/

namespace PageAudit.Service

/-- A target by its parts, without its fragment. -/
structure Target where
  scheme : Text := []
  authority : Text := []
  path : Text
  query : Text := []

namespace Target

/-- A character that no target begins with: a space or a control character. -/
def isLeadingNoise (c : CodePoint) : Bool := c.toNat ≤ 0x20

/-- A character that no target holds. -/
def isNoise (c : CodePoint) : Bool := c == '\t' || c == '\n' || c == '\r'

/-- The target without what does not count in it. -/
def withoutNoise (t : Text) : Text := (t.dropWhile isLeadingNoise).filter (!isNoise ·)

/-- A character of a scheme. -/
def isSchemeChar (c : CodePoint) : Bool :=
  Text.isAsciiLetter c || Text.isAsciiDigit c || c == '+' || c == '-' || c == '.'

/-- The scheme of a target and what follows its colon. A scheme begins with a letter. -/
def cutScheme (t : Text) : Text × Text :=
  match Text.cutAt ':' t with
  | (name, some rest) =>
    if name.head?.any Text.isAsciiLetter && name.all isSchemeChar then (Text.toLower name, rest)
    else ([], t)
  | (_, none) => ([], t)

/-- A character that ends an authority. -/
def endsAuthority (c : CodePoint) : Bool := c == '/' || c == '?' || c == '#'

/-- The authority that two slashes announce, and what follows it. -/
def cutAuthority : Text → Text × Text
  | .char '/' :: .char '/' :: rest =>
    (rest.takeWhile (!endsAuthority ·), rest.dropWhile (!endsAuthority ·))
  | t => ([], t)

/-- Splits a target into its parts. -/
def split (t : Text) : Except TargetFault Target := do
  let (scheme, rest) := cutScheme (withoutNoise t)
  let (authority, rest) := cutAuthority rest
  checkBrackets authority
  let (path, query) := Text.cutAt '?' (Text.cutAt '#' rest).1
  checkDelimiters authority
  return { scheme, authority, path, query := query.getD [] }

/-- The path of a target with its query, if that is not empty. -/
def pathAndQuery (t : Target) : Text :=
  if t.query = [] then t.path else t.path ++ "?" ++ t.query

/-- The schemes after which an authority stands, even an empty one. -/
def authoritySchemes : List Text :=
  ["ftp", "http", "gopher", "nntp", "telnet", "imap", "wais", "file", "mms", "https", "shttp",
   "snews", "prospero", "rtsp", "rtspu", "rsync", "svn", "svn+ssh", "sftp", "nfs", "git",
   "git+ssh", "ws", "wss"]

/-- Puts a path after its scheme and authority. -/
def assemble (scheme authority path : Text) : Text :=
  let below : Text :=
    if path = [] ∨ path.head? = some (.char '/') then path else "/" ++ path
  let rest : Text :=
    if authority ≠ [] ∨ authoritySchemes.contains scheme = true then "//" ++ authority ++ below
    else path
  if scheme = [] then rest else scheme ++ ":" ++ rest

/-- The path of a target in normal form, with a scheme and an authority of its own. -/
def normalPath (t : Target) : Except TargetFault Text := do
  let inner ← split t.path
  checkBytes inner.path
  let authority ← (Authority.ofText inner.authority).normalized
  return assemble inner.scheme authority.text inner.path

/-! ## The path that a target leads to -/

/-- The bytes of a text, as far as it has any. -/
def plainBytes (t : Text) : List UInt8 := t.flatMap fun c => (Text.bytes? c).getD []

/-- The bytes of a text without its escapes: a percent sign and two hexadecimal digits stand for a
byte. -/
def unescapedBytes : Text → List UInt8
  | c :: a :: b :: rest =>
    if c = '%' ∧ Text.isHexDigit a = true ∧ Text.isHexDigit b = true then
      UInt8.ofNat (Numeral.hexValue [a, b]) :: unescapedBytes rest
    else plainBytes [c] ++ unescapedBytes (a :: b :: rest)
  | short => plainBytes short

/-- A text without its escapes. -/
def unescape (t : Text) : Text := Text.Utf8.decodeLenient (unescapedBytes t)

/-- A path with one slash in front. -/
def rooted (path : Text) : Text := '/' :: path.dropWhile fun (c : CodePoint) => c == '/'

end Target

/-! ## Where a target leads -/

/-- Where a target leads. -/
structure Location where
  scheme : Text
  authority : NormalAuthority
  /-- The path, without escapes. -/
  path : Text
  /-- The path and the query as they are sent. -/
  sent : Text

/-- The scheme of a target that tells none. -/
def defaultScheme : Text := "http"

namespace Location

/-- Where a target leads. -/
def ofTarget (target : Text) : Except TargetFault Location := do
  let outer ← Target.split target
  let inner ← Target.split outer.pathAndQuery
  let path ← inner.normalPath
  let authority ← (Authority.ofText outer.authority).normalized
  checkBrackets authority.text
  return {
    scheme := if outer.scheme = [] then defaultScheme else outer.scheme
    authority
    path := Target.rooted (Target.unescape path)
    sent := outer.pathAndQuery }

/-- The endpoints that their schemes imply. -/
def impliedEndpoints : List (Text × Nat) := [("http", 80), ("ws", 80), ("https", 443), ("wss", 443)]

/-- The endpoint, unless the scheme implies it. -/
def ownEndpoint (l : Location) : Option Nat :=
  if l.authority.endpoint = impliedEndpoints.lookup l.scheme then none else l.authority.endpoint

/-- Checks that the name of the host can be read, and that what is read hides no delimiter. -/
def checkName (l : Location) : Except TargetFault Unit :=
  match l.authority.publicName? with
  | none => .ok ()
  | some spelling => do
    let name ← (HostName.read spelling).mapError .host
    checkDelimiters (name ++ NormalAuthority.endpointText l.ownEndpoint)

/-- Checks what is sent. -/
def checkSent (l : Location) : Except TargetFault Unit := do
  checkBytes l.sent
  l.checkName

/-- Whether the name of the host has labels of a fit length. Stops that come to light only when a
name is folded can leave empty ones. -/
def isServed (l : Location) : Bool :=
  match l.authority.publicName? with
  | none => true
  | some name => (HostName.checkPlain name).isOk

/-- The schemes of connections that stay open for messages both ways, which the service has not. -/
def socketSchemes : List Text := ["ws", "wss"]

/-- Whether a connection is asked for that stays open for messages both ways. -/
def isSocket (l : Location) : Bool := socketSchemes.contains l.scheme

end Location

end PageAudit.Service
