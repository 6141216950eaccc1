import PageAudit.Mapping.Basic
import PageAudit.Text.Quoted

/-!
# Findings

Why a check cannot pass: a snapshot or a trace that cannot be read, an address that no mapping owns,
or two page sizes that disagree. Each cause is a value, and its wording is one function.
-/

namespace PageAudit

/-- What is wrong with a snapshot. -/
inductive SnapshotDefect where
  /-- An address that is no hexadecimal numeral. -/
  | notHex (text : Text)
  /-- An address past the end of the address space. -/
  | tooWide (text : Text)
  /-- A mapping whose page size the snapshot does not tell. -/
  | noPageSize (start stop : Int)
  /-- Bounds that are not both addresses. -/
  | outsideSpace (start stop : Int)
  /-- Bounds with no address between them. -/
  | inverted (start stop : Int)
  /-- A page size that is not positive. -/
  | nonPositiveSize (size start stop : Int)
  /-- A defect told in words. -/
  | stated (text : Text)
  deriving DecidableEq, Repr

/-- What is wrong with a line of a trace. -/
inductive TraceDefect where
  /-- A page size that is not a numeral and a unit. -/
  | malformedSize (token : Text)
  /-- A defect told in words. -/
  | stated (text : Text)
  deriving DecidableEq, Repr

/-- Why a check cannot pass. -/
inductive Finding where
  /-- The snapshot cannot be read, perhaps because of one line. -/
  | snapshot (defect : SnapshotDefect) (line : Option Int)
  /-- The trace cannot be read, perhaps because of one line. -/
  | trace (defect : TraceDefect) (line : Option Int)
  /-- No mapping owns the address. -/
  | unowned (address : Int)
  /-- The page size recorded for the owner of the address is not the one claimed. -/
  | mismatch (address recorded claimed : Int) (owner : Mapping)
  /-- A reason told in words. -/
  | stated (text : Text)
  deriving DecidableEq, Repr

/-- Two bounds as messages show them. -/
def showBounds (start stop : Int) : Text := Numeral.hex0x start ++ "-" ++ Numeral.hex0x stop

/-- The defect in words. -/
def SnapshotDefect.message : SnapshotDefect → Text
  | .notHex text => "Invalid hex address " ++ Text.quoted text
  | .tooWide text => "Address " ++ Text.quoted text ++ " does not fit in 64 bits"
  | .noPageSize start stop =>
    "No KernelPageSize for mapping " ++ Numeral.hex start ++ "-" ++ Numeral.hex stop
  | .outsideSpace start stop => "Address outside 64-bit space: " ++ showBounds start stop
  | .inverted start stop => "Empty or inverted range: " ++ showBounds start stop
  | .nonPositiveSize size start stop =>
    "Non-positive page size " ++ toString size ++ " KB for " ++ showBounds start stop
  | .stated text => text

/-- The defect in words. -/
def TraceDefect.message : TraceDefect → Text
  | .malformedSize token => "Malformed page size " ++ Text.quoted token
  | .stated text => text

/-- A message about a line, if the line is known. -/
def atLine (message : Text) : Option Int → Text
  | none => message
  | some line => "line " ++ toString line ++ ": " ++ message

/-- The finding in words. -/
def Finding.message : Finding → Text
  | .snapshot defect line => atLine defect.message line
  | .trace defect line => atLine defect.message line
  | .unowned address => "No memory range found for address: " ++ Numeral.hex0x address
  | .mismatch address recorded claimed _ =>
    "Page sizes mismatch for address " ++ Numeral.hex0x address ++ ": " ++ toString recorded ++
      " != " ++ toString claimed
  | .stated text => text

end PageAudit
