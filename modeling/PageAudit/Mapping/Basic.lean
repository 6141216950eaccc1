import PageAudit.Numeral

/-!
# Mappings

A mapping is a half-open span of a 64-bit address space with the page size that backs it. Its bounds
and size are part of its type, so a mapping in hand is never empty, inverted or out of the space. An
address belongs to the first mapping, in the order given, that covers it.
-/

namespace PageAudit

/-- The number of addresses. -/
def addressSpace : Nat := 0x10000000000000000

/-- One mapping of a memory snapshot. -/
structure Mapping where
  /-- Its first address. -/
  start : Nat
  /-- The first address after it. -/
  stop : Nat
  /-- Its page size in KB. -/
  pageSize : Nat
  /-- Whether it may be backed by transparent huge pages. -/
  transparentHuge : Bool
  /-- Whether it is backed by explicit huge pages. -/
  explicitHuge : Bool
  start_lt_stop : start < stop
  stop_lt_space : stop < addressSpace
  pageSize_pos : 0 < pageSize
  deriving DecidableEq, Repr

namespace Mapping

/-- Whether the address lies in the mapping. -/
def covers (m : Mapping) (address : Int) : Bool := m.start ≤ address && address < m.stop

/-- The first mapping that covers the address. -/
def owner? (mappings : List Mapping) (address : Int) : Option Mapping :=
  mappings.find? (·.covers address)

/-- A switch as it is shown. -/
def flagWord : Bool → Text
  | true => "True"
  | false => "False"

/-- The mapping as it is shown. -/
def describe (m : Mapping) : Except Numeral.Overlong Text := do
  let size ← Numeral.write m.pageSize
  return "[" ++ Numeral.hex m.start ++ ", " ++ Numeral.hex m.stop ++ ") pageSize=" ++ size ++
    "KB isTHP=" ++ flagWord m.transparentHuge ++ " isHUGETLB=" ++ flagWord m.explicitHuge

end Mapping

end PageAudit
