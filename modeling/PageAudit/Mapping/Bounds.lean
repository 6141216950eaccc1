import PageAudit.Fault

/-!
# Mappings from unchecked bounds

The only way from plain numbers to a mapping. Both bounds must be addresses, the first must lie
below the second, and the page size must be positive; the first of these that fails is the defect.
-/

namespace PageAudit

/-- Whether a number is an address. -/
def isAddress (n : Int) : Bool := 0 ≤ n && n < addressSpace

namespace Mapping

/-- The mapping with these bounds and page size, which a record at `line` describes. -/
def ofBounds (start stop size : Int) (transparentHuge explicitHuge : Bool)
    (line : Option Int := none) : Except Fault Mapping :=
  if inSpace : isAddress start = true ∧ isAddress stop = true then
    if ordered : start < stop then
      if positive : 0 < size then
        .ok
          { start := start.toNat
            stop := stop.toNat
            pageSize := size.toNat
            transparentHuge
            explicitHuge
            start_lt_stop := by
              simp only [isAddress, Bool.and_eq_true, decide_eq_true_eq] at inSpace
              omega
            stop_lt_space := by
              simp only [isAddress, Bool.and_eq_true, decide_eq_true_eq] at inSpace
              omega
            pageSize_pos := by omega }
      else do
        discard (ofNumeral (Numeral.write size))
        throw (.finding (.snapshot (.nonPositiveSize size start stop) line))
    else .error (.finding (.snapshot (.inverted start stop) line))
  else .error (.finding (.snapshot (.outsideSpace start stop) line))

/-- A mapping's own bounds and page size describe it. -/
theorem ofBounds_self (m : Mapping) (line : Option Int) :
    ofBounds m.start m.stop m.pageSize m.transparentHuge m.explicitHuge line = .ok m := by
  have ordered := m.start_lt_stop
  have bounded := m.stop_lt_space
  have positive := m.pageSize_pos
  have inSpace : isAddress m.start = true ∧ isAddress m.stop = true := by
    simp only [isAddress, Bool.and_eq_true, decide_eq_true_eq]
    omega
  simp [ofBounds, inSpace, ordered, positive]

end Mapping

end PageAudit
