import PageAudit.Text.Blank
import PageAudit.Text.Digit
import PageAudit.Text.Lead

/-!
# The lines of a snapshot

Three kinds of snapshot line matter: the header of a mapping, its page size and its flags. Every
other line is noise.
-/

namespace PageAudit.Snapshot

/-- What a snapshot line says. -/
inductive LineKind where
  /-- Begins a mapping with these two addresses, which need not be hexadecimal. -/
  | header (start stop : Text)
  /-- Tells the page size in these digits. -/
  | pageSize (digits : Text)
  /-- Tells the flags. -/
  | flags (words : List Text)
  | noise
  deriving DecidableEq, Repr

/-- A character of an address in a header. -/
def isAddressChar (c : CodePoint) : Bool := Text.isAsciiDigit c || Text.isAsciiLetter c

/-- A character of a permission field. -/
def isPermission (c : CodePoint) : Bool :=
  c == '-' || c == 'r' || c == 'w' || c == 'x' || c == 's' || c == 'p'

/-- A text that begins with four permissions and ends there or goes on with a blank. -/
def startsWithPermissions : Text → Bool
  | a :: b :: c :: d :: rest =>
    isPermission a && isPermission b && isPermission c && isPermission d &&
      (match rest with
        | [] => true
        | e :: _ => Text.isBlank e)
  | _ => false

/-- The two addresses of a header: `start-stop`, a space and the permissions. -/
def header? (cs : Text) : Option (Text × Text) :=
  match cs.takeWhile isAddressChar, cs.dropWhile isAddressChar with
  | a :: start, .char '-' :: rest =>
    match rest.takeWhile isAddressChar, rest.dropWhile isAddressChar with
    | b :: stop, .char ' ' :: rest =>
      if startsWithPermissions rest then some (a :: start, b :: stop) else none
    | _, _ => none
  | _, _ => none

/-- What stands before a page size. -/
def pageSizeLabel : Text := "KernelPageSize:"

/-- The digits of a page size line: blanks, the digits and ` kB`, whatever comes after. -/
def pageSize? (cs : Text) : Option Text :=
  match Text.after? pageSizeLabel cs with
  | none => none
  | some rest =>
    let rest := rest.dropWhile Text.isBlank
    match rest.takeWhile Text.isDigit, Text.after? " kB" (rest.dropWhile Text.isDigit) with
    | d :: digits, some _ => some (d :: digits)
    | _, _ => none

/-- What stands before the flags. -/
def flagsLabel : Text := "VmFlags:"

/-- The words of a flags line, which holds no line feed. -/
def flags? (cs : Text) : Option (List Text) :=
  match Text.after? flagsLabel cs with
  | none => none
  | some rest => if rest.contains (.char '\n') then none else some (Text.words rest)

/-- What a line says, once it is rid of the line feeds at its end. -/
def LineKind.ofText (cs : Text) : LineKind :=
  match header? cs with
  | some (start, stop) => .header start stop
  | none =>
    match pageSize? cs with
    | some digits => .pageSize digits
    | none =>
      match flags? cs with
      | some words => .flags words
      | none => .noise

/-- What a line says. -/
def LineKind.ofLine (line : Text) : LineKind := ofText (Text.chomp line)

end PageAudit.Snapshot
