import PageAudit.Claim.Trace

/-!
# Judging one claim

A claim holds if the first mapping that owns its address has the claimed page size. A larger claim
is tolerated if that mapping may be backed by transparent huge pages, because the snapshot does
not show those. Every other claim fails, and so does one whose address no mapping owns.
-/

namespace PageAudit.Audit

/-- How a claim can hold. -/
inductive Outcome where
  | equal
  | tolerated
  deriving DecidableEq, Repr

/-- The outcome's name. -/
def Outcome.name : Outcome → Text
  | .equal => "equal"
  | .tolerated => "tolerated"

/-- Notes a step of the judgement of a claim. -/
def noteOn (claim : Claim) (level : Level) (message : Text) : Logged Fault Unit :=
  Logged.note level "verify" message (some claim.line)

/-- Writes a number into a note. -/
def written (n : Int) : Logged Fault Text := Logged.ofExcept (ofNumeral (Numeral.write n))

/-- Judges a claim by a snapshot's mappings. -/
def judge (mappings : List Mapping) (claim : Claim) : Logged Fault Outcome := do
  match Mapping.owner? mappings claim.address with
  | none =>
    noteOn claim .error ("Could not find range for: " ++ claim.text)
    throw (.finding (.unowned claim.address))
  | some owner =>
    let description ← Logged.ofExcept (ofNumeral owner.describe)
    noteOn claim .debug ("From smaps: " ++ description)
    let recorded ← written owner.pageSize
    if owner.pageSize = claim.pageSize then
      noteOn claim .debug ("Success: " ++ recorded ++ " == " ++ recorded)
      return .equal
    else if owner.pageSize < claim.pageSize ∧ owner.transparentHuge = true then
      let claimed ← written claim.pageSize
      noteOn claim .debug ("Success: " ++ claimed ++ " > " ++ recorded ++ " and THP enabled")
      return .tolerated
    else
      let claimed ← written claim.pageSize
      noteOn claim .error ("Failure: " ++ recorded ++ " != " ++ claimed)
      throw (.finding (.mismatch claim.address owner.pageSize claim.pageSize owner))

end PageAudit.Audit
