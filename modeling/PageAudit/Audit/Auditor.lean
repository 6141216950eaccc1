import PageAudit.Audit.Judgement

/-!
# Auditing a run of claims

An auditor judges claims in the order of their source and counts them. It either stops at the first
claim that fails or goes on and gathers the failures into its verdict; a source that cannot be read
stops it either way. The counts are those of its latest run, also of one that was stopped.
-/

namespace PageAudit.Audit

/-- What a whole run found. -/
structure Verdict where
  /-- How many claims were judged. -/
  checked : Int
  /-- How many of them were tolerated. -/
  tolerated : Int := 0
  /-- The findings of the claims that failed, in their order. -/
  violations : List Finding := []
  deriving DecidableEq, Repr

/-- Whether no claim failed. -/
def Verdict.passed (v : Verdict) : Bool := v.violations.isEmpty

/-- One who judges claims by a snapshot's mappings. -/
structure Auditor where
  mappings : List Mapping
  /-- Whether the first failure stops a run. -/
  failFast : Bool := true
  journal : Option Journal := none
  /-- How many items of its source the latest run took. -/
  consumed : Nat := 0
  /-- How many claims the latest run judged. -/
  checked : Nat := 0
  /-- How many of them were tolerated. -/
  tolerated : Nat := 0

namespace Auditor

/-- Judges one claim outside a run. -/
def check (a : Auditor) (claim : Claim) : Except Fault Outcome × Auditor :=
  let (result, journal) := (judge a.mappings claim).on a.journal
  (result, { a with journal })

/-- Judges the next claim of a run, given the failures so far. -/
def advance (a : Auditor) (violations : List Finding) (claim : Claim) :
    Except Fault (List Finding) × Auditor :=
  match { a with checked := a.checked + 1 }.check claim with
  | (.ok .equal, a) => (.ok violations, a)
  | (.ok .tolerated, a) => (.ok violations, { a with tolerated := a.tolerated + 1 })
  | (.error (.finding f), a) =>
    if a.failFast then (.error (.finding f), a) else (.ok (violations ++ [f]), a)
  | (.error (.overlong o), a) => (.error (.overlong o), a)

/-- Takes one item of the source and judges the claim that it makes, if it makes one. -/
def take {α : Type} (source : α → Logged Fault (Option Claim)) (item : α)
    (violations : List Finding) (a : Auditor) : Except Fault (List Finding) × Auditor :=
  let (read, journal) := (source item).on a.journal
  let a := { a with journal, consumed := a.consumed + 1 }
  match read with
  | .error fault => (.error fault, a)
  | .ok none => (.ok violations, a)
  | .ok (some claim) => a.advance violations claim

/-- Takes items up to the one that stops the run, or to the last. -/
def takeAll {α : Type} (source : α → Logged Fault (Option Claim)) :
    List α → List Finding → Auditor → Except Fault (List Finding) × Auditor
  | [], violations, a => (.ok violations, a)
  | item :: items, violations, a =>
    match take source item violations a with
    | (.ok violations, a) => takeAll source items violations a
    | (.error fault, a) => (.error fault, a)

/-- What is noted at the end of a run. -/
def summary (a : Auditor) (violations : List Finding) : Text :=
  "Checked " ++ toString a.checked ++ " assertions, " ++ toString a.tolerated ++ " tolerated, " ++
    toString violations.length ++ " failed"

/-- Runs over the items of a source. -/
def run {α : Type} (source : α → Logged Fault (Option Claim)) (items : List α) (a : Auditor) :
    Except Fault Verdict × Auditor :=
  match takeAll source items [] { a with consumed := 0, checked := 0, tolerated := 0 } with
  | (.error fault, a) => (.error fault, a)
  | (.ok violations, a) =>
    let entry : Entry := { level := .info, source := "verify", message := a.summary violations }
    (.ok { checked := a.checked, tolerated := a.tolerated, violations },
      { a with journal := Journal.add? a.journal entry })

/-- Runs over claims. -/
def runClaims (claims : List Claim) (a : Auditor) : Except Fault Verdict × Auditor :=
  a.run (fun claim => pure (some claim)) claims

/-- Runs over the claims of a trace. -/
def runTrace (lines : List Text) (a : Auditor) : Except Fault Verdict × Auditor :=
  a.run (fun (line, number) => Claim.read? line number) (lines.zipIdx 1)

end Auditor

end PageAudit.Audit
