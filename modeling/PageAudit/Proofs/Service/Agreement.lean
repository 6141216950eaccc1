import Mathlib
import PageAudit.Proofs.Audit.Held
import PageAudit.Proofs.Service.Verify
import PageAudit.Proofs.Text.Lines

/-!
# The service and files agree

The same texts are checked alike whether they are posted or held by two files, as long as both are
cut into the same lines: the ends of line of files are ends of line of posted texts, but not the
other way round (`Text.PlainBreaks`). `posting_agrees_with_files` is the main result, and
`posting_disagrees_at_line_separator` a pair of texts with another end of line, where it fails.
-/

namespace PageAudit.Service

open Audit

/-- The response tells what a check of files came to. -/
structure Response.Tells (r : Response) (failFast : Bool) (checked : Except Stop Verdict) :
    Prop where
  /-- It refuses the texts exactly if the check found a defect, with its message. -/
  refuses_iff : ∀ message, r.Refuses message ↔
    ∃ f : Finding, f.IsDefect ∧ f.message = message ∧ checked = .error (.fault (.finding f))
  /-- Otherwise it reports the verdict, or the failure that stopped the check. -/
  reports : (¬∃ message, r.Refuses message) →
    (∃ verdict, checked = .ok verdict ∧
      r.Reports verdict.passed (verdict.violations.map Finding.message)) ∨
    (failFast = true ∧ ∃ f : Finding, f.IsFailure ∧ checked = .error (.fault (.finding f)) ∧
      r.Reports false [f.message])

/-- An audit that ends is answered with a response that tells what it came to. -/
lemma tells_of_ends {failFast : Bool} {result : Except Fault Verdict} (ends : Ends failFast result)
    (a : Auditor) :
    ∃ response, verdictResponse (result, a) = .ok response ∧
      response.Tells failFast (result.mapError .fault) := by
  cases ends with
  | verdict verdict =>
    obtain ⟨response, answers, reports⟩ := verdictResponse_ok a verdict
    refine ⟨response, answers, fun message => ⟨?_, nofun⟩, ?_⟩
    · intro refused
      exact absurd refused (reports.not_refuses message)
    · intro _
      exact .inl ⟨verdict, rfl, reports⟩
  | @defect f is_defect =>
    refine ⟨_, verdictResponse_of_isDefect a is_defect, fun message => ?_, ?_⟩
    · rw [failure_refuses_iff]
      constructor
      · rintro rfl
        exact ⟨f, is_defect, rfl, rfl⟩
      · rintro ⟨f, -, rfl, found⟩
        cases found
        rfl
    · intro unrefused
      exact absurd ⟨_, failure_refuses_iff.mpr rfl⟩ unrefused
  | @failure f stops is_failure =>
    obtain ⟨response, answers, reports⟩ := verdictResponse_of_isFailure a is_failure
    refine ⟨response, answers, fun message => ⟨?_, ?_⟩, ?_⟩
    · intro refused
      exact absurd refused (reports.not_refuses message)
    · rintro ⟨f, is_defect, -, found⟩
      cases found
      exact absurd is_defect is_failure.not_isDefect
    · intro _
      exact .inr ⟨stops, f, is_failure, rfl, reports⟩

variable {data : Json} {snapshot trace : Text} {debug failFast : Bool} {read : FileReader}
  {plan : Plan}

/-- **The service and files agree.** Data that ask for a check of two texts are answered with what a
check of two files comes to that hold the same texts: refused with the message of a defect exactly
if the check finds that defect, and otherwise told the verdict or the failure that stopped the
check. No size numeral may be too long, and the texts must not have ends of line that files lack. -/
theorem posting_agrees_with_files (asks : Asks data snapshot trace debug failFast)
    (snapshot_held : Holds read plan.snapshot snapshot) (trace_held : Holds read plan.trace trace)
    (same_mode : plan.failFast = failFast)
    (snapshot_within : ∀ line ∈ Text.postedLines snapshot, Snapshot.SizeWithin 4000 line)
    (trace_within : ∀ line ∈ Text.postedLines trace, Claim.SizeWithin 4000 line)
    (snapshot_plain : snapshot.PlainBreaks) (trace_plain : trace.PlainBreaks)
    (journal : Option Journal) :
    ∃ response, verify data = .ok response ∧
      response.Tells failFast ((checkFiles read plan).on journal).1 := by
  have snapshot_fits := Snapshot.fits_of_lines fun line mem =>
    (snapshot_within line mem).fits (by decide)
  have trace_fits (line : Text) (mem : line ∈ Text.postedLines trace) : Claim.SizeFits line :=
    (trace_within line mem).fits (by decide)
  have same_outcome :
      outcome (Text.postedLines snapshot) (Text.postedLines trace) failFast =
        outcome (Text.fileLines snapshot) (Text.fileLines trace) failFast := by
    rw [Text.postedLines_eq snapshot_plain, Text.postedLines_eq trace_plain,
      outcome_map Text.chomp_dropLineFeed]
  have ends := outcome_ends snapshot_fits trace_fits failFast
  obtain ⟨a, answers⟩ := asks.answers_outcome fun _ => Snapshot.isDefect_of_read snapshot_fits
  obtain ⟨response, responds, tells⟩ := tells_of_ends ends a
  refine ⟨response, answers.trans responds, ?_⟩
  rwa [fst_checkFiles_of_holds snapshot_held trace_held, same_mode, ← same_outcome]

/-! ## Two texts posted and held -/

/-- The data that ask for a check of two texts with the default switches. -/
def dataOf (snapshot trace : Text) : Json :=
  .object [("smaps", .string snapshot), ("trace", .string trace)]

/-- The data of two texts ask for the check of them. -/
lemma asks_dataOf (snapshot trace : Text) :
    Asks (dataOf snapshot trace) snapshot trace false true := ⟨rfl, rfl, rfl, rfl⟩

/-- A claim of a larger page than the one it is in. -/
def largerClaim : Text := "base=0x1 page_size=8K"

/-- A claim that fails is reported as the only violation, and a check of files stops with it. -/
theorem posting_agrees_on_one_page :
    let m : Mapping := ⟨1, 2, 4, false, false, by decide, by decide, by decide⟩
    ∃ response, verify (dataOf onePage largerClaim) = .ok response ∧
      response.Reports false [(Finding.mismatch 1 4 8 m).message] ∧
      ((checkFiles (holding onePage largerClaim).read heldPlan).on none).1 =
        .error (.fault (.finding (.mismatch 1 4 8 m))) := by
  intro m
  have snapshot_held : Holds (holding onePage largerClaim).read heldPlan.snapshot onePage :=
    holding_snapshot (by decide)
  have trace_held : Holds (holding onePage largerClaim).read heldPlan.trace largerClaim :=
    holding_trace (by decide)
  have checked : ((checkFiles (holding onePage largerClaim).read heldPlan).on none).1 =
      .error (.fault (.finding (.mismatch 1 4 8 m))) := by
    have ends : outcome (Text.fileLines onePage) (Text.fileLines largerClaim) true =
        .error (.finding (.mismatch 1 4 8 m)) := by decide +kernel
    rw [fst_checkFiles_of_holds snapshot_held trace_held, show heldPlan.failFast = true from rfl,
      ends]
    rfl
  obtain ⟨response, responds, tells⟩ :=
    posting_agrees_with_files (asks_dataOf onePage largerClaim) snapshot_held trace_held rfl
      (by decide +kernel) (by decide +kernel) (by decide +kernel) (by decide +kernel) none
  rw [checked] at tells
  refine ⟨response, responds, ?_, checked⟩
  have unrefused : ¬∃ message, response.Refuses message := by
    rintro ⟨message, refused⟩
    obtain ⟨_, is_defect, -, found⟩ := (tells.refuses_iff message).mp refused
    cases found
    exact is_defect
  obtain ⟨verdict, passed, -⟩ | ⟨-, f, -, found, reports⟩ := tells.reports unrefused
  · cases passed
  · cases found
    exact reports

/-- One page with a line separator in its pathname, and behind it what looks like a mapping. -/
def separatedPage : Text := "1-2 rw-p /\u2028b-c rw-p\nKernelPageSize: 4 kB\n"

/-- **The service does not agree with files on other ends of line.** A line separator in a pathname
ends a line of a posted text only, and what follows it is read as another mapping. -/
theorem posting_disagrees_at_line_separator :
    Asks (dataOf separatedPage onePageClaim) separatedPage onePageClaim false true ∧
    Holds (holding separatedPage onePageClaim).read heldPlan.snapshot separatedPage ∧
    Holds (holding separatedPage onePageClaim).read heldPlan.trace onePageClaim ∧
    separatedPage.DigitsWithin 4000 ∧ onePageClaim.DigitsWithin 4000 ∧
    ¬∃ response, verify (dataOf separatedPage onePageClaim) = .ok response ∧
      response.Tells true
        ((checkFiles (holding separatedPage onePageClaim).read heldPlan).on none).1 := by
  have asks := asks_dataOf separatedPage onePageClaim
  have snapshot_held : Holds (holding separatedPage onePageClaim).read heldPlan.snapshot
      separatedPage := holding_snapshot (by decide)
  have trace_held : Holds (holding separatedPage onePageClaim).read heldPlan.trace onePageClaim :=
    holding_trace (by decide)
  refine ⟨asks, snapshot_held, trace_held, Text.digitsWithin_of_length_le (by decide),
    Text.digitsWithin_of_length_le (by decide), ?_⟩
  rintro ⟨response, responds, tells⟩
  -- Posted, the first mapping has lost its size to the one that the separator lets begin.
  have unread : (Snapshot.read (Text.postedLines separatedPage)).result =
      .error (.finding (.snapshot (.noPageSize 1 2) (some 1))) := by decide +kernel
  have refused := asks.verify_of_unread (f := .snapshot (.noPageSize 1 2) (some 1)) trivial unread
  cases refused.symm.trans responds
  have passes : outcome (Text.fileLines separatedPage) (Text.fileLines onePageClaim) true =
      .ok { checked := 1 } := by decide +kernel
  obtain ⟨f, -, -, found⟩ := (tells.refuses_iff _).mp (failure_refuses_iff.mpr rfl)
  rw [fst_checkFiles_of_holds snapshot_held trace_held, show heldPlan.failFast = true from rfl,
    passes] at found
  cases found

end PageAudit.Service
