import PageAudit.HostName.Basic
import PageAudit.Service.Address
import PageAudit.Text.Encoding

/-!
# Authorities

The part of a target that tells its host: perhaps a user with a password, then the host, which may
be an address in brackets, then perhaps the number of an endpoint. What can be wrong with a target
is nearly always wrong with its authority.
-/

namespace PageAudit.Service

/-- What is wrong with a target. -/
inductive TargetFault where
  /-- A bracket that is missing or misplaced. -/
  | brackets
  /-- A text in brackets that is no address. -/
  | noAddress (text : Text)
  /-- An address in brackets that needs none. -/
  | needlessBrackets
  /-- A malformed address of a version to come. -/
  | malformedFuture
  /-- An authority with a character that is equivalent to a delimiter. -/
  | hiddenDelimiter (authority : Text)
  /-- A host name that cannot be spelled, or a spelling of one that cannot be read. -/
  | host (f : HostName.Fault)
  /-- An endpoint that is no number. -/
  | endpointWord (text : Text)
  /-- An endpoint number that is too great. -/
  | endpointRange
  /-- An endpoint number with too many digits. -/
  | overlong (o : Numeral.Overlong)
  /-- A text that no bytes spell. -/
  | unencodable (u : Text.Unencodable)
  deriving DecidableEq, Repr

/-- The fault in words. -/
def TargetFault.message : TargetFault → Text
  | .brackets => "Invalid IPv6 URL"
  | .noAddress text => Text.quoted text ++ " does not appear to be an IPv4 or IPv6 address"
  | .needlessBrackets => "An IPv4 address cannot be in brackets"
  | .malformedFuture => "IPvFuture address is invalid"
  | .hiddenDelimiter authority =>
    "netloc '" ++ authority ++ "' contains invalid characters under NFKC normalization"
  | .host f => f.message
  | .endpointWord text => "Port could not be cast to integer value as " ++ Text.quoted text
  | .endpointRange => "Port out of range 0-65535"
  | .overlong o => o.message
  | .unencodable u => u.message

/-! ## The text of an authority -/

/-- The characters beyond ASCII that are equivalent to texts with a delimiter in them. -/
def hiddenDelimiters : List Nat :=
  [0x2047, 0x2048, 0x2049, 0x2100, 0x2101, 0x2105, 0x2106, 0x2a74, 0xfe13, 0xfe16, 0xfe55, 0xfe56,
   0xfe5f, 0xfe6b, 0xff03, 0xff0f, 0xff1a, 0xff1f, 0xff20]

/-- Checks a host that stands in brackets, or should. -/
def checkBracketed (host : Text) : Except TargetFault Unit :=
  if host.head? = some (.char 'v') then
    if isFutureAddress host then .ok () else .error .malformedFuture
  else if isIPv4 host then .error .needlessBrackets
  else if isIPv6 host then .ok ()
  else .error (.noAddress host)

/-- Checks the brackets of an authority that has both. Its host has to be what they hold, and only
an endpoint may follow them. -/
def checkHostBrackets (authority : Text) : Except TargetFault Unit :=
  let afterUser := (Text.cutAtLast '@' authority).2
  match Text.cutAt '[' afterUser with
  | (host, none) => checkBracketed (Text.cutAt ':' host).1
  | (before, some rest) =>
    let (host, after) := Text.cutAt ']' rest
    if before = [] ∧ (after.getD []).head?.all (· = .char ':') = true then checkBracketed host
    else .error .brackets

/-- Checks the brackets of an authority. -/
def checkBrackets (authority : Text) : Except TargetFault Unit :=
  match authority.contains (.char '['), authority.contains (.char ']') with
  | true, true => checkHostBrackets authority
  | false, false => .ok ()
  | _, _ => .error .brackets

/-- Checks that no character of an authority is equivalent to a delimiter. -/
def checkDelimiters (authority : Text) : Except TargetFault Unit :=
  if authority.any (hiddenDelimiters.contains ·.toNat) then .error (.hiddenDelimiter authority)
  else .ok ()

/-- Checks that bytes spell a text. -/
def checkBytes (t : Text) : Except TargetFault Unit :=
  match Text.unencodable? Text.bytes? t with
  | some u => .error (.unencodable u)
  | none => .ok ()

/-! ## The parts of an authority -/

/-- An authority by its parts. -/
structure Authority where
  user : Option Text := none
  password : Option Text := none
  host : Text
  /-- The text of the endpoint, which may be empty. -/
  endpoint : Text

/-- The parts of an authority. -/
def Authority.ofText (t : Text) : Authority :=
  let (info, rest) := Text.cutAtLast '@' t
  let (host, endpoint) := match Text.cutAt '[' rest with
    | (_, some bracketed) =>
      let (host, rest) := Text.cutAt ']' bracketed
      (host, (Text.cutAt ':' (rest.getD [])).2)
    | (_, none) => Text.cutAt ':' rest
  { user := info.map fun text => (Text.cutAt ':' text).1
    password := info.bind fun text => (Text.cutAt ':' text).2
    host, endpoint := endpoint.getD [] }

/-- The host in lower case, the name of its zone apart. -/
def Authority.hostName (a : Authority) : Text :=
  match Text.cutAt '%' a.host with
  | (host, none) => Text.toLower host
  | (host, some zone) => Text.toLower host ++ "%" ++ zone

/-- The greatest number of an endpoint. -/
def maxEndpoint : Nat := 65535

/-- The number of an endpoint, if there is one. -/
def endpointNumber (endpoint : Text) : Except TargetFault (Option Nat) :=
  if endpoint = [] then .ok none
  else if !endpoint.all Text.isAsciiDigit then .error (.endpointWord endpoint)
  else
    match Numeral.read endpoint with
    | .error o => .error (.overlong o)
    | .ok n => if n ≤ maxEndpoint then .ok (some n) else .error .endpointRange

/-! ## Normal form -/

/-- An authority in normal form: its host is spelled in ASCII and its endpoint is a number. -/
structure NormalAuthority where
  user : Option Text
  password : Option Text
  host : Text
  endpoint : Option Nat

/-- An authority brought into normal form. -/
def Authority.normalized (a : Authority) : Except TargetFault NormalAuthority := do
  let host ← (HostName.spell a.hostName).mapError .host
  let endpoint ← endpointNumber a.endpoint
  checkBytes (a.user.getD [])
  checkBytes (a.password.getD [])
  return { user := a.user, password := a.password, host, endpoint }

/-- A text with its brackets escaped, so that those of an authority are its host's. -/
def escapeBrackets (t : Text) : Text :=
  t.flatMap fun (c : CodePoint) => if c = '[' then "%5B" else if c = ']' then "%5D" else [c]

namespace NormalAuthority

/-- The user and the password as they stand before the host. -/
def info (a : NormalAuthority) : Text :=
  let password : Text := match a.password with
    | none => ""
    | some password => ":" ++ escapeBrackets password
  match a.user with
  | none => ""
  | some user => escapeBrackets user ++ password ++ "@"

/-- An endpoint as it stands after the host. -/
def endpointText : Option Nat → Text
  | none => ""
  | some n => ":" ++ toString n

/-- The text of an authority. -/
def text (a : NormalAuthority) : Text :=
  let host : Text := if a.host.contains (.char ':') then "[" ++ a.host ++ "]" else a.host
  a.info ++ host ++ endpointText a.endpoint

/-- A character of a public host name. -/
def isNameChar (c : CodePoint) : Bool :=
  Text.isAsciiLetter c || Text.isAsciiDigit c || c == '.' || c == '-'

/-- The name by which the host of an authority is known to the service. An authority with a user, or
with other characters in its host, is not known by any. -/
def publicName? (a : NormalAuthority) : Option Text :=
  if a.user.isNone && a.host != [] && a.host.all isNameChar then some a.host else none

end NormalAuthority

end PageAudit.Service
