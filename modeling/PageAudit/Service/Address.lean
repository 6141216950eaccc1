import PageAudit.Numeral
import PageAudit.Text.Fields

/-!
# Network addresses

Which texts are addresses of the fourth and of the sixth version of the internet protocol. A text
that is one is never the other, since the first holds no colon and the second needs one.
-/

namespace PageAudit.Service

/-- One of the four numbers of an address of the fourth version: below 256, without zeros in
front. -/
def isOctet (t : Text) : Bool :=
  t != [] && t.length ≤ 3 && t.all Text.isAsciiDigit &&
    (t.length == 1 || t.head? != some (.char '0')) && Numeral.value t < 256

/-- An address of the fourth version. -/
def isIPv4 (t : Text) : Bool :=
  let octets := Text.fields '.' t
  octets.length == 4 && octets.all isOctet

/-- One of the eight groups of an address of the sixth version. -/
def isGroup (t : Text) : Bool := t != [] && t.length ≤ 4 && t.all Text.isHexDigit

/-- How many groups a run of them fills. Its last part may be an address of the fourth version,
which fills two, if the run ends the whole address. -/
def groupCount? (ends : Bool) (run : Text) : Option Nat :=
  if run = [] then some 0
  else
    let parts := Text.fields ':' run
    if parts.all isGroup then some parts.length
    else if ends && parts.dropLast.all isGroup && isIPv4 (parts.getLast?.getD []) then
      some (parts.length + 1)
    else none

/-- What stands before and after the first two colons in a row, which leave groups out. -/
def cutAtGap : Text → Option (Text × Text)
  | [] => none
  | [_] => none
  | a :: b :: rest =>
    if a = ':' ∧ b = ':' then some ([], rest)
    else (cutAtGap (b :: rest)).map fun (before, after) => (a :: before, after)

/-- The groups of an address of the sixth version: all eight, or at most seven about a gap. -/
def isGroups (t : Text) : Bool :=
  match cutAtGap t with
  | none => groupCount? true t == some 8
  | some (before, after) =>
    match groupCount? false before, groupCount? true after with
    | some m, some n => m + n ≤ 7
    | _, _ => false

/-- An address of the sixth version, perhaps with the name of a zone. -/
def isIPv6 (t : Text) : Bool :=
  match Text.cutAt '%' t with
  | (groups, none) => isGroups groups
  | (groups, some zone) => isGroups groups && zone != [] && !zone.contains (.char '%')

/-- An address of a version to come. -/
def isFutureAddress : Text → Bool
  | .char 'v' :: rest =>
    match rest.takeWhile Text.isHexDigit, rest.dropWhile Text.isHexDigit with
    | _ :: _, .char '.' :: _ :: _ => true
    | _, _ => false
  | _ => false

end PageAudit.Service
