import PageAudit.Proofs.Audit.Ending
import PageAudit.Service.Answer

/-!
# Verifying posted texts

Data that ask for a check of two texts (`Asks`) are answered with what the audit of their lines
comes to (`Asks.answers_outcome`): a response `Refuses` with the message of a defect, or it
`Reports` whether the check passed and its violations. No answer does both
(`Response.Reports.not_refuses`).
-/

namespace PageAudit.Service

open Audit

/-! ## Requests for a check -/

/-- The data ask for a check of two texts. A switch that they do not tell has its default. -/
structure Asks (data : Json) (snapshot trace : Text) (debug failFast : Bool) : Prop where
  snapshot_told : data.member? "smaps" = some (.string snapshot)
  trace_told : data.member? "trace" = some (.string trace)
  debug_told : (data.member? "debug").getD (.bool false) = .bool debug
  failFast_told : (data.member? "fail_fast").getD (.bool true) = .bool failFast

section members

variable {data : Json} {name : Text}

/-- Data with a member are an object. -/
lemma isObject_of_member? {value : Json} (told : data.member? name = some value) :
    data.isObject = true := by
  cases data with
  | object members => rfl
  | _ => cases told

/-- A switch that is told, or has its default, is no text or the like. -/
lemma bool?_of_told {b default : Bool}
    (told : (data.member? name).getD (.bool default) = .bool b) :
    ((data.member? name).any fun value => value.bool?.isNone) = false ∧
      switchOf data name default = b := by
  unfold switchOf
  cases member : data.member? name with
  | none =>
    rw [member] at told
    cases told
    exact ⟨rfl, rfl⟩
  | some value =>
    rw [member] at told
    cases told
    exact ⟨rfl, rfl⟩

end members

/-! ## What is answered to an audit -/

namespace Response

/-- The response refuses the texts with this message. -/
def Refuses (r : Response) (message : Text) : Prop :=
  r.status = 422 ∧ ∃ json, r.json = some json ∧ json.member? "error" = some (.string message)

/-- The response reports whether a check passed, and these violations. -/
def Reports (r : Response) (passed : Bool) (violations : List Text) : Prop :=
  r.status = 200 ∧ ∃ json, r.json = some json ∧ json.member? "passed" = some (.bool passed) ∧
    json.member? "violations" = some (.array (violations.map .string))

/-- A response that reports a check refuses nothing. -/
lemma Reports.not_refuses {r : Response} {passed : Bool} {violations : List Text}
    (reports : r.Reports passed violations) (message : Text) : ¬r.Refuses message := by
  rintro ⟨refused, -⟩
  cases reports.1.symm.trans refused

end Response

/-- A failure with this status refuses the texts with its own message and no other. -/
lemma failure_refuses_iff {message message' : Text} :
    (failure 422 message).Refuses message' ↔ message' = message := by
  constructor
  · rintro ⟨-, json, is_json, told⟩
    cases is_json
    cases told
    rfl
  · rintro rfl
    exact ⟨rfl, _, rfl, rfl⟩

/-- A report reports its violations, and that the check passed if there are none. -/
lemma report_reports (a : Auditor) (violations : List Text) :
    (report a violations).Reports violations.isEmpty violations :=
  ⟨rfl, _, rfl, rfl, rfl⟩

section answers

variable (a : Auditor)

/-- A verdict is answered with a report of it. -/
lemma verdictResponse_ok (verdict : Verdict) :
    ∃ response, verdictResponse (.ok verdict, a) = .ok response ∧
      response.Reports verdict.passed (verdict.violations.map Finding.message) := by
  refine ⟨_, rfl, ?_⟩
  have reports := report_reports a (verdict.violations.map Finding.message)
  rwa [List.isEmpty_map] at reports

/-- A defect is answered with its message. -/
lemma verdictResponse_of_isDefect {f : Finding} (defect : f.IsDefect) :
    verdictResponse (.error (.finding f), a) = .ok (failure 422 f.message) := by
  cases f with
  | snapshot | trace => rfl
  | unowned | mismatch | stated => cases defect

/-- A failure that stopped the check is reported as its only violation. -/
lemma verdictResponse_of_isFailure {f : Finding} (failed : f.IsFailure) :
    ∃ response, verdictResponse (.error (.finding f), a) = .ok response ∧
      response.Reports false [f.message] := by
  cases f with
  | unowned | mismatch => exact ⟨_, rfl, report_reports a _⟩
  | snapshot | trace | stated => cases failed

end answers

/-! ## What is answered to posted texts -/

variable {data : Json} {snapshot trace : Text} {debug failFast : Bool}

/-- Data that ask for a check lack no text. -/
lemma Asks.complete (asks : Asks data snapshot trace debug failFast) :
    missing? ["smaps", "trace"] data = none := by
  have is_object := isObject_of_member? asks.snapshot_told
  simp [missing?, is_object, asks.snapshot_told, asks.trace_told, Json.text?]

/-- Data that ask for a check have no switch of another type. -/
lemma Asks.switches (asks : Asks data snapshot trace debug failFast) :
    notBool? ["debug", "fail_fast"] data = none := by
  simp [notBool?, (bool?_of_told asks.debug_told).1, (bool?_of_told asks.failFast_told).1]

/-- Data that ask for a check lack nothing. -/
lemma Asks.verify_eq (asks : Asks data snapshot trace debug failFast) :
    verify data = verifyTexts data := by
  simp only [verify, asks.complete, asks.switches]

/-- The least level that is told of a check of posted texts. -/
def postedThreshold (debug : Bool) : Level := if debug then .debug else .warning

/-- The auditor of a posted trace, once the mappings of the snapshot are read. -/
def postedAuditor (snapshot : List Text) (mappings : List Mapping) (debug failFast : Bool) :
    Auditor where
  mappings := mappings
  failFast := failFast
  journal :=
    Journal.addAll? (some { threshold := postedThreshold debug }) (Snapshot.read snapshot).notes

/-- What is answered to data that ask for a check: the snapshot is read, then the trace is run over.
-/
lemma Asks.verifyTexts_eq (asks : Asks data snapshot trace debug failFast) :
    verifyTexts data =
      match (Snapshot.read (Text.postedLines snapshot)).result with
      | .error fault => unreadable fault
      | .ok mappings =>
        let a := postedAuditor (Text.postedLines snapshot) mappings debug failFast
        verdictResponse (a.runTrace (Text.postedLines trace)) := by
  have snapshot_lines : linesOf data "smaps" = Text.postedLines snapshot := by
    simp [linesOf, textOf, asks.snapshot_told, Json.text?]
  have trace_lines : linesOf data "trace" = Text.postedLines trace := by
    simp [linesOf, textOf, asks.trace_told, Json.text?]
  simp only [verifyTexts, snapshot_lines, trace_lines, (bool?_of_told asks.debug_told).2,
    (bool?_of_told asks.failFast_told).2, (Snapshot.oblivious_read _).on_eq]
  cases (Snapshot.read (Text.postedLines snapshot)).result <;> rfl

/-- Data that ask for a check are answered with what the audit of their texts comes to, if the
snapshot has no faults but defects. -/
lemma Asks.answers_outcome (asks : Asks data snapshot trace debug failFast)
    (defective : ∀ fault, (Snapshot.read (Text.postedLines snapshot)).result = .error fault →
      ∃ f : Finding, f.IsDefect ∧ fault = .finding f) :
    ∃ a, verify data =
      verdictResponse
        (outcome (Text.postedLines snapshot) (Text.postedLines trace) failFast, a) := by
  rw [asks.verify_eq, asks.verifyTexts_eq, outcome]
  cases reads : (Snapshot.read (Text.postedLines snapshot)).result with
  | error fault =>
    obtain ⟨f, defect, rfl⟩ := defective fault reads
    refine ⟨{ mappings := [] }, ?_⟩
    rw [verdictResponse_of_isDefect _ defect]
    rfl
  | ok mappings =>
    obtain ⟨verdict, a, es, runs⟩ :=
      stepsAtAnyJournal_runTrace (Text.postedLines trace) { mappings, failFast }
    simp only [postedAuditor, runs]
    exact ⟨_, rfl⟩

/-- A snapshot that has a defect is refused with its message. -/
lemma Asks.verify_of_unread (asks : Asks data snapshot trace debug failFast) {f : Finding}
    (is_defect : f.IsDefect)
    (unread : (Snapshot.read (Text.postedLines snapshot)).result = .error (.finding f)) :
    verify data = .ok (failure 422 f.message) := by
  rw [asks.verify_eq, asks.verifyTexts_eq, unread]
  cases f with
  | snapshot | trace => rfl
  | unowned | mismatch | stated => cases is_defect

end PageAudit.Service
