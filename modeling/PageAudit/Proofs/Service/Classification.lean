import PageAudit.Proofs.Audit.Held
import PageAudit.Proofs.Audit.Judged
import PageAudit.Proofs.Service.Verify
import PageAudit.Proofs.Text.Lines

/-!
# How requests for a check are classified

Data that do not ask for a check of two texts are a bad request. Of two texts that are to be checked
there may be a defect which spoils the check (`Spoils`): that of the snapshot or else, of the first
line that decides the run over the trace. Texts with such a defect are refused with its message, and
of all others the claims judged are recounted (`Response.Classifies`). Stopping at the first failure
refines going on (`Refines`). `requests_classified` is the main result.
-/

namespace PageAudit.Service

open Audit Logged

/-! ## Bad requests -/

section bad

variable {data : Json}

/-- Only a string has a text. -/
lemma text?_eq_some_iff {value : Json} {text : Text} :
    value.text? = some text ↔ value = .string text := by
  cases value <;> simp [Json.text?]

/-- Only a Boolean has a truth value. -/
lemma bool?_eq_some_iff {value : Json} {b : Bool} : value.bool? = some b ↔ value = .bool b := by
  cases value <;> simp [Json.bool?]

/-- Complete data hold a text for each of the names. -/
lemma exists_text {names : List Text} (complete : missing? names data = none) (name : Text)
    (mem : name ∈ names) : ∃ text, data.member? name = some (.string text) := by
  unfold missing? at complete
  split at complete
  · have told := List.find?_eq_none.mp complete name mem
    rw [Bool.not_eq_true, Option.isNone_eq_false_iff, Option.isSome_iff_exists] at told
    obtain ⟨text, told⟩ := told
    obtain ⟨value, member, is_text⟩ := Option.bind_eq_some_iff.mp told
    exact ⟨text, text?_eq_some_iff.mp is_text ▸ member⟩
  · cases List.head?_eq_none_iff.mp complete
    cases mem

/-- Data without a switch of another type hold a Boolean for each of the names, or none. -/
lemma exists_switch {names : List Text} (switches : notBool? names data = none) (name : Text)
    (mem : name ∈ names) (default : Bool) :
    ∃ b, (data.member? name).getD (.bool default) = .bool b := by
  have told := List.find?_eq_none.mp switches name mem
  cases member : data.member? name with
  | none => exact ⟨default, rfl⟩
  | some value =>
    rw [member, Option.any_some, Bool.not_eq_true, Option.isNone_eq_false_iff,
      Option.isSome_iff_exists] at told
    obtain ⟨b, is_bool⟩ := told
    exact ⟨b, bool?_eq_some_iff.mp is_bool⟩

/-- Complete data with proper switches ask for a check. -/
lemma exists_asks (complete : missing? ["smaps", "trace"] data = none)
    (switches : notBool? ["debug", "fail_fast"] data = none) :
    ∃ snapshot trace debug failFast, Asks data snapshot trace debug failFast := by
  obtain ⟨snapshot, snapshot_told⟩ := exists_text complete "smaps" (by simp)
  obtain ⟨trace, trace_told⟩ := exists_text complete "trace" (by simp)
  obtain ⟨debug, debug_told⟩ := exists_switch switches "debug" (by simp) false
  obtain ⟨failFast, failFast_told⟩ := exists_switch switches "fail_fast" (by simp) true
  exact ⟨snapshot, trace, debug, failFast, snapshot_told, trace_told, debug_told, failFast_told⟩

/-- Texts that cannot be read are refused. -/
lemma status_unreadable {fault : Fault} {r : Response} (answers : unreadable fault = .ok r) :
    r.status = 422 := by
  cases fault with
  | finding f =>
    cases answers
    rfl
  | overlong o => cases answers

/-- A check that is made is answered with a report or a refusal, if it is answered. -/
lemma status_verifyTexts {r : Response} (answers : verifyTexts data = .ok r) :
    r.status = 200 ∨ r.status = 422 := by
  unfold verifyTexts at answers
  dsimp only at answers
  split at answers
  · exact .inr (status_unreadable answers)
  · unfold verdictResponse at answers
    split at answers
    · cases answers
      exact .inl rfl
    · cases answers
      exact .inl rfl
    · cases answers
      exact .inl rfl
    · exact .inr (status_unreadable answers)

/-- Data are a bad request exactly if they do not ask for a check. -/
lemma bad_request_iff (data : Json) :
    (∃ r, verify data = .ok r ∧ r.status = 400) ↔
      ¬∃ snapshot trace debug failFast, Asks data snapshot trace debug failFast := by
  constructor
  · rintro ⟨r, answers, bad⟩ ⟨snapshot, trace, debug, failFast, asks⟩
    rw [asks.verify_eq] at answers
    obtain answered | refused := status_verifyTexts answers
    · cases answered.symm.trans bad
    · cases refused.symm.trans bad
  · intro asks_not
    unfold verify
    cases complete : missing? ["smaps", "trace"] data with
    | some name => exact ⟨_, rfl, rfl⟩
    | none =>
      cases switches : notBool? ["debug", "fail_fast"] data with
      | some name => exact ⟨_, rfl, rfl⟩
      | none => exact absurd (exists_asks complete switches) asks_not

end bad

/-! ## Texts with a defect -/

/-- A defect that spoils the check of two texts: that of the snapshot or, if there is none, that of
the first line to decide the run over the trace. -/
structure Spoils (snapshot trace : List Text) (failFast : Bool) (f : Finding) : Prop where
  is_defect : f.IsDefect
  found : (Snapshot.read snapshot).result = .error (.finding f) ∨
    ∃ mappings, (Snapshot.read snapshot).result = .ok mappings ∧
      ∃ before line, FirstDecides mappings failFast trace before line f

/-- Only one defect spoils a check. -/
lemma Spoils.unique {snapshot trace : List Text} {failFast : Bool} {f f' : Finding}
    (spoils : Spoils snapshot trace failFast f) (spoils' : Spoils snapshot trace failFast f') :
    f = f' := by
  obtain unread | ⟨mappings, reads, before, line, decides⟩ := spoils.found
  · obtain unread' | ⟨mappings', reads', -⟩ := spoils'.found
    · cases unread.symm.trans unread'
      rfl
    · cases unread.symm.trans reads'
  · obtain unread' | ⟨mappings', reads', before', line', decides'⟩ := spoils'.found
    · cases unread'.symm.trans reads
    · cases reads.symm.trans reads'
      exact decides.unique decides'

/-! ## Reports -/

/-- The log that is told of some entries: all if it is for debugging, and warnings otherwise. -/
def logOf (debug : Bool) (entries : List Entry) : List Text :=
  (entries.filter (decide <| postedThreshold debug ≤ ·.level)).map Entry.render

/-- A log that is not for debugging is empty if there is no warning. -/
lemma logOf_eq_nil_iff {entries : List Entry} :
    logOf false entries = [] ↔ Journal.Calm entries := by
  rw [logOf, List.map_eq_nil_iff]
  exact Journal.filter_warning_eq_nil_iff

namespace Response

/-- The response recounts the claims judged by some mappings, and tells this log. -/
structure Recounts (r : Response) (mappings : List Mapping) (claims : List Claim)
    (log : List Text) : Prop where
  status : r.status = 200
  json : r.json = some (.object
    [("passed", .bool (failures mappings claims).isEmpty),
     ("checked", .integer claims.length),
     ("tolerated", .integer (claims.countP (tolerates mappings))),
     ("violations", .array ((failures mappings claims).map fun f => .string f.message)),
     ("log", .array (log.map .string))])

/-- The response tells of two texts what is wrong with them, or which claims were judged. -/
structure Classifies (r : Response) (snapshot trace : List Text) (debug failFast : Bool) :
    Prop where
  /-- It refuses the texts exactly if a defect spoils the check, with its message. -/
  refuses_iff : ∀ message, r.Refuses message ↔
    ∃ f : Finding, Spoils snapshot trace failFast f ∧ f.message = message
  /-- Otherwise it recounts the claims judged. Each of them fails for what is wrong with it, and is
  tolerated if it is tolerable; and a log that is not for debugging is empty if none fails. -/
  recounts : (¬∃ f, Spoils snapshot trace failFast f) →
    ∃ mappings, (Snapshot.read snapshot).result = .ok mappings ∧
      let claims := judged mappings failFast trace
      let log := logOf debug
        ((Snapshot.read snapshot).notes ++ (judgeTrace mappings failFast trace).notes)
      r.Recounts mappings claims log ∧
      (∀ claim ∈ claims, (∀ f, failure? mappings claim = some f ↔ Breaks mappings claim f) ∧
        (tolerates mappings claim = true ↔ Tolerable mappings claim)) ∧
      (debug = false → (log = [] ↔ failures mappings claims = []))

/-- Texts that are not refused are recounted by the mappings of their snapshot. -/
lemma Classifies.recounted {r : Response} {snapshot trace : List Text} {debug failFast : Bool}
    {mappings : List Mapping} (classifies : r.Classifies snapshot trace debug failFast)
    (reported : r.status = 200) (reads : (Snapshot.read snapshot).result = .ok mappings) :
    ∃ log, r.Recounts mappings (judged mappings failFast trace) log := by
  have unspoiled : ¬∃ f, Spoils snapshot trace failFast f := by
    rintro ⟨f, spoils⟩
    have refused := (classifies.refuses_iff f.message).mpr ⟨f, spoils, rfl⟩
    cases refused.1.symm.trans reported
  obtain ⟨mappings', reads', recounts, -⟩ := classifies.recounts unspoiled
  cases reads.symm.trans reads'
  exact ⟨_, recounts⟩

end Response

/-- The failures of a run are answered with a report of them. -/
lemma verdictResponse_of_finds {found : List Finding} {result : Except Fault Verdict}
    (finds : Finds found result) (a : Auditor) :
    verdictResponse (result, a) = .ok (report a (found.map Finding.message)) := by
  cases finds with
  | verdict told =>
    rw [← told]
    rfl
  | @stopped f is_failure =>
    cases f with
    | unowned | mismatch => rfl
    | snapshot | trace | stated => cases is_failure

/-- A failure classifies texts that its defect spoils. -/
lemma classifies_of_spoils {snapshot trace : List Text} {debug failFast : Bool} {f : Finding}
    (spoils : Spoils snapshot trace failFast f) :
    (failure 422 f.message).Classifies snapshot trace debug failFast where
  refuses_iff message := by
    rw [failure_refuses_iff]
    constructor
    · rintro rfl
      exact ⟨f, spoils, rfl⟩
    · rintro ⟨f', spoils', rfl⟩
      rw [spoils.unique spoils']
  recounts unspoiled := absurd ⟨f, spoils⟩ unspoiled

/-- What a report tells. -/
lemma json_report (a : Auditor) (violations : List Text) :
    (report a violations).json = some (.object
      [("passed", .bool violations.isEmpty),
       ("checked", .integer a.checked),
       ("tolerated", .integer a.tolerated),
       ("violations", .array (violations.map .string)),
       ("log", .array (((Journal.held a.journal).map Entry.render).map .string))]) := by
  unfold report
  cases a.journal <;> rfl

section conducted

variable {snapshot trace : List Text} {debug failFast : Bool} {mappings : List Mapping}

/-- The log of posted texts tells what is noted of the snapshot and then of the trace. -/
lemma log_posted (mappings : List Mapping) (debug failFast : Bool) (snapshot trace : List Text) :
    let a := postedAuditor snapshot mappings debug failFast
    (Journal.held (a.runTrace trace).2.journal).map Entry.render =
      logOf debug
        ((Snapshot.read snapshot).notes ++ (judgeTrace mappings failFast trace).notes) := by
  intro a
  rw [show a = postedAuditor snapshot mappings debug failFast from rfl, postedAuditor,
    (runTrace_at failFast trace _).2, ← Journal.addAll?_append, Journal.held_addAll?_fresh]
  rfl

/-- The report of a run that no defect ends classifies its texts. -/
lemma classifies_of_conducted (reads : (Snapshot.read snapshot).result = .ok mappings)
    (judgeable : ∀ claim ∈ claimsOf trace, Judgeable mappings claim)
    (undecided : ∀ before line f, FirstDecides mappings failFast trace before line f → ¬f.IsDefect)
    (conducted : Conducted (postedAuditor snapshot mappings debug failFast) trace) :
    let a := postedAuditor snapshot mappings debug failFast
    let found := failures mappings (judged mappings failFast trace)
    (report (a.runTrace trace).2 (found.map Finding.message)).Classifies snapshot trace debug
      failFast := by
  intro a found
  have unspoiled (f : Finding) : ¬Spoils snapshot trace failFast f := by
    rintro ⟨is_defect, unread | ⟨mappings', reads', before, line, decides⟩⟩
    · cases reads.symm.trans unread
    · cases reads.symm.trans reads'
      exact undecided before line f decides is_defect
  refine ⟨fun message => iff_of_false ?_ ?_, fun _ => ⟨mappings, reads, ⟨rfl, ?_⟩, ?_, ?_⟩⟩
  · exact (report_reports _ _).not_refuses message
  · rintro ⟨f, spoils, -⟩
    exact unspoiled f spoils
  · rw [json_report, log_posted, List.isEmpty_map, List.map_map, conducted.checked,
      conducted.tolerated]
    rfl
  · intro claim mem
    have judgeable := judgeable claim (mem_claimsOf_of_mem_judged mem)
    exact ⟨fun f => failure?_eq_some_iff judgeable, tolerates_iff judgeable⟩
  · rintro rfl
    have finds : Finds (failures mappings (judged mappings failFast trace))
        (judgeTrace mappings failFast trace).result :=
      (runTrace_at failFast trace _).1 ▸ conducted.finds
    rw [logOf_eq_nil_iff, Journal.calm_append_iff, ← finds.quiet_iff]
    exact and_iff_right (Snapshot.quiet_read snapshot)

end conducted

/-! ## The answers to both ways of checking -/

/-- What is answered to the check that stops at the first failure refines what is answered to the
check that goes on: the one refuses the texts only as the other does, and where the other reports
violations, it reports the first of them. -/
structure Refines (fast slow : Except Breakdown Response) : Prop where
  refused : ∀ r, fast = .ok r → r.status = 422 → slow = .ok r
  reported : ∀ r', slow = .ok r' → r'.status = 200 → ∃ r, fast = .ok r ∧
    ∃ passed violations, r.Reports passed (violations.take 1) ∧ r'.Reports passed violations

section verdicts

variable {result : Except Fault Verdict} {a : Auditor} {r : Response}

/-- A check that is refused ended with a finding that is no failure, and is refused with its
message. -/
lemma of_verdictResponse_refused (answers : verdictResponse (result, a) = .ok r)
    (refused : r.status = 422) :
    ∃ f : Finding, ¬f.IsFailure ∧ result = .error (.finding f) ∧ r = failure 422 f.message := by
  rcases result with (f | o) | verdict
  · cases f with
    | unowned | mismatch =>
      cases answers
      cases refused
    | snapshot | trace | stated =>
      cases answers
      exact ⟨_, id, rfl, rfl⟩
  · cases answers
  · cases answers
    cases refused

/-- A check that is reported came to a verdict, or a failure stopped it. -/
lemma of_verdictResponse_reported (answers : verdictResponse (result, a) = .ok r)
    (reported : r.status = 200) :
    (∃ verdict, result = .ok verdict) ∨
      ∃ f : Finding, f.IsFailure ∧ result = .error (.finding f) := by
  rcases result with (f | o) | verdict
  · cases f with
    | unowned | mismatch =>
      refine .inr ⟨_, ?_, rfl⟩
      trivial
    | snapshot | trace | stated =>
      cases answers
      cases reported
  · cases answers
  · exact .inl ⟨verdict, rfl⟩

/-- A run that ends with a finding that is no failure is refused with its message. -/
lemma verdictResponse_of_not_isFailure {f : Finding} (unfailed : ¬f.IsFailure) (a : Auditor) :
    verdictResponse (.error (.finding f), a) = .ok (failure 422 f.message) := by
  cases f with
  | unowned | mismatch => exact absurd trivial unfailed
  | snapshot | trace | stated => rfl

end verdicts

/-- The answers to both runs over a trace, whatever their journals. -/
lemma refines_runTrace (mappings : List Mapping) (lines : List Text)
    (journal journal' : Option Journal) :
    Refines (verdictResponse (Auditor.runTrace lines { mappings, failFast := true, journal }))
      (verdictResponse
        (Auditor.runTrace lines { mappings, failFast := false, journal := journal' })) := by
  let a : Auditor := { mappings, failFast := true, journal }
  let a' : Auditor := { mappings, failFast := false, journal := journal' }
  -- What the runs come to does not depend on what their journals hold or keep.
  have fast_eq : a.runTrace lines =
      ((judgeTrace mappings true lines).result, (a.runTrace lines).2) :=
    Prod.ext (runTrace_at true lines journal).1 rfl
  have slow_eq : a'.runTrace lines =
      ((judgeTrace mappings false lines).result, (a'.runTrace lines).2) :=
    Prod.ext (runTrace_at false lines journal').1 rfl
  constructor
  · intro r answers refused
    rw [fast_eq] at answers
    obtain ⟨f, unfailed, ends, rfl⟩ := of_verdictResponse_refused answers refused
    rw [slow_eq, keepGoing_of_not_isFailure unfailed ends]
    exact verdictResponse_of_not_isFailure unfailed _
  · intro r' answers' reported'
    obtain ⟨verdict, ends⟩ | ⟨f, is_failure, ends⟩ :=
      of_verdictResponse_reported (slow_eq ▸ answers') reported'
    · have fast := (conducted_of_keepGoing (a := a) ends).finds
      have slow := (conducted_of_keepGoing (a := a') ends).finds
      rw [failures_judged, if_pos rfl] at fast
      rw [failures_judged, if_neg nofun] at slow
      generalize failures a.mappings (claimsOf lines) = found at fast slow
      have same_passed : ((found.take 1).map Finding.message).isEmpty =
          (found.map Finding.message).isEmpty := by cases found <;> rfl
      cases (verdictResponse_of_finds slow (a'.runTrace lines).2).symm.trans answers'
      refine ⟨_, verdictResponse_of_finds fast (a.runTrace lines).2, _, _, ?_, report_reports _ _⟩
      rw [← List.map_take, ← same_passed]
      exact report_reports _ _
    · exact absurd is_failure (not_isFailure_of_keepGoing ends)

/-- The answers to both ways of checking the same texts. -/
lemma Asks.refines {data data' : Json} {snapshot trace : Text} {debug debug' : Bool}
    (asks : Asks data snapshot trace debug true) (asks' : Asks data' snapshot trace debug' false) :
    Refines (verify data) (verify data') := by
  rw [asks.verify_eq, asks'.verify_eq, asks.verifyTexts_eq, asks'.verifyTexts_eq]
  cases (Snapshot.read (Text.postedLines snapshot)).result with
  | ok mappings => exact refines_runTrace mappings _ _ _
  | error fault =>
    refine ⟨fun r answers _ => answers, fun r' answers' reported' => ?_⟩
    cases (status_unreadable answers').symm.trans reported'

/-! ## Classified requests -/

section classified

variable {data : Json} {snapshot trace : Text} {debug failFast : Bool}

/-- Data that ask for a check are answered with a response that classifies their texts, if no size
numeral is too long. -/
lemma Asks.classified (asks : Asks data snapshot trace debug failFast)
    (snapshot_fits : ∀ line ∈ Text.postedLines snapshot, Snapshot.SizeFits line)
    (trace_fits : ∀ line ∈ Text.postedLines trace, Claim.SizeFits line) :
    ∃ r, verify data = .ok r ∧
      r.Classifies (Text.postedLines snapshot) (Text.postedLines trace) debug failFast := by
  rw [asks.verify_eq, asks.verifyTexts_eq]
  obtain ⟨mappings, reads⟩ | ⟨f, is_defect, unread⟩ :=
    Snapshot.read_ends (Snapshot.fits_of_lines snapshot_fits)
  · rw [reads]
    have recorded := Snapshot.lt_writeBound_of_read reads
    let a := postedAuditor (Text.postedLines snapshot) mappings debug failFast
    obtain ⟨before, line, f, is_defect, decides, ends⟩ | ⟨undecided, conducted⟩ :=
      runTrace_cases (a := a) trace_fits recorded
    · have spoils : Spoils (Text.postedLines snapshot) (Text.postedLines trace) failFast f :=
        ⟨is_defect, .inr ⟨mappings, reads, before, line, decides⟩⟩
      refine ⟨failure 422 f.message, ?_, classifies_of_spoils spoils⟩
      rw [← verdictResponse_of_isDefect (a.runTrace (Text.postedLines trace)).2 is_defect, ← ends]
    · refine ⟨_, verdictResponse_of_finds conducted.finds _, ?_⟩
      exact classifies_of_conducted reads (Auditor.judgeable_of_fits trace_fits recorded) undecided
        conducted
  · rw [unread]
    exact ⟨failure 422 f.message, rfl, classifies_of_spoils ⟨is_defect, .inl unread⟩⟩

end classified

/-- **Requests for a check are classified.** Data are a bad request exactly if they do not ask for a
check of two texts. If they do, and no size numeral is longer than 4000 digits, the texts are
refused with the message of the defect that spoils the check, and otherwise the claims judged are
recounted. And what is answered to the check that stops at the first failure refines what is
answered to the check of the same texts that goes on. -/
theorem requests_classified (data : Json) :
    ((∃ r, verify data = .ok r ∧ r.status = 400) ↔
      ¬∃ snapshot trace debug failFast, Asks data snapshot trace debug failFast) ∧
    ∀ (snapshot trace : Text) (debug failFast : Bool), Asks data snapshot trace debug failFast →
      ((∀ line ∈ Text.postedLines snapshot, Snapshot.SizeWithin 4000 line) →
        (∀ line ∈ Text.postedLines trace, Claim.SizeWithin 4000 line) → ∃ r, verify data = .ok r ∧
          r.Classifies (Text.postedLines snapshot) (Text.postedLines trace) debug failFast) ∧
      ∀ (data' : Json) (debug' : Bool), failFast = true → Asks data' snapshot trace debug' false →
        Refines (verify data) (verify data') := by
  refine ⟨bad_request_iff data, fun snapshot trace debug failFast asks => ⟨?_, ?_⟩⟩
  · intro snapshot_within trace_within
    exact asks.classified (fun line mem => (snapshot_within line mem).fits (by decide))
      fun line mem => (trace_within line mem).fits (by decide)
  · rintro data' debug' rfl asks'
    exact asks.refines asks'

/-- Two claims that fail, one for its page size and one for want of an owner, posted to both ways of
checking them: the one judges and reports the first of them, the other both. -/
theorem two_failures_classified :
    let m : Mapping := ⟨1, 2, 4, false, false, by decide, by decide, by decide⟩
    let trace : Text := "base=0x1 page_size=8K\nbase=0x5 page_size=4K\n"
    let posted (failFast : Bool) : Json :=
      .object [("smaps", .string onePage), ("trace", .string trace), ("fail_fast", .bool failFast)]
    let larger : Finding := .mismatch 1 4 8 m
    let unowned : Finding := .unowned 5
    (∃ r json, verify (posted true) = .ok r ∧ r.status = 200 ∧ r.json = some json ∧
      json.member? "passed" = some (.bool false) ∧ json.member? "checked" = some (.integer 1) ∧
      json.member? "tolerated" = some (.integer 0) ∧
      json.member? "violations" = some (.array [.string larger.message])) ∧
    (∃ r json, verify (posted false) = .ok r ∧ r.status = 200 ∧ r.json = some json ∧
      json.member? "passed" = some (.bool false) ∧ json.member? "checked" = some (.integer 2) ∧
      json.member? "tolerated" = some (.integer 0) ∧
      json.member? "violations" =
        some (.array [.string larger.message, .string unowned.message])) ∧
    Refines (verify (posted true)) (verify (posted false)) := by
  intro m trace posted larger unowned
  have asks (failFast : Bool) : Asks (posted failFast) onePage trace false failFast :=
    ⟨rfl, rfl, rfl, rfl⟩
  have snapshot_within : ∀ line ∈ Text.postedLines onePage, Snapshot.SizeWithin 4000 line := by
    decide +kernel
  have trace_within : ∀ line ∈ Text.postedLines trace, Claim.SizeWithin 4000 line := by
    decide +kernel
  have reads : (Snapshot.read (Text.postedLines onePage)).result = .ok [m] := by decide +kernel
  have recounted (failFast : Bool)
      (answered : (verify (posted failFast)).toOption.map Response.status = some 200) :
      ∃ r log, verify (posted failFast) = .ok r ∧
        r.Recounts [m] (judged [m] failFast (Text.postedLines trace)) log := by
    obtain ⟨classified, -⟩ :=
      (requests_classified (posted failFast)).2 onePage trace false failFast (asks failFast)
    obtain ⟨r, answers, classifies⟩ := classified snapshot_within trace_within
    rw [answers] at answered
    obtain ⟨log, recounts⟩ := classifies.recounted (Option.some.inj answered) reads
    exact ⟨r, log, answers, recounts⟩
  have fast : failures [m] (judged [m] true (Text.postedLines trace)) = [larger] ∧
      (judged [m] true (Text.postedLines trace)).length = 1 ∧
      (judged [m] true (Text.postedLines trace)).countP (tolerates [m]) = 0 := by decide +kernel
  have slow : failures [m] (judged [m] false (Text.postedLines trace)) = [larger, unowned] ∧
      (judged [m] false (Text.postedLines trace)).length = 2 ∧
      (judged [m] false (Text.postedLines trace)).countP (tolerates [m]) = 0 := by decide +kernel
  obtain ⟨-, refines⟩ := (requests_classified (posted true)).2 onePage trace false true (asks true)
  refine ⟨?_, ?_, refines (posted false) false rfl (asks false)⟩
  · obtain ⟨r, log, answers, recounts⟩ := recounted true (by decide +kernel)
    have json := recounts.json
    rw [fast.1, fast.2.1, fast.2.2] at json
    exact ⟨r, _, answers, recounts.status, json, rfl, rfl, rfl, rfl⟩
  · obtain ⟨r, log, answers, recounts⟩ := recounted false (by decide +kernel)
    have json := recounts.json
    rw [slow.1, slow.2.1, slow.2.2] at json
    exact ⟨r, _, answers, recounts.status, json, rfl, rfl, rfl, rfl⟩

end PageAudit.Service
