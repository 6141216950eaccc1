import PageAudit.CommandLine.Run
import PageAudit.Proofs.Audit.Held
import PageAudit.Proofs.Audit.Quiet

/-!
# The exit code and the output tell the same truth

A run that is to make a check and comes to its end `Concludes` in one of four ways: its settings do
not resolve, an input that is reached cannot be read (`Audit.Unread`), the check fails, or it
passes. The exit code tells which, and what is printed goes with it (`Result.Tells`): one line alone
for a check that passed in silence, the journal and the failure for one that failed, and what
hindered a check that was not made. `outcome_told` is the main result.
-/

namespace PageAudit

/-! ## Printed texts -/

namespace Text

/-- Parts are joined by a separator before each but the first. -/
lemma join_cons (separator part : Text) (parts : List Text) :
    join separator (part :: parts) = part ++ parts.flatMap (separator ++ ·) := by
  induction parts generalizing part with
  | nil => simp [join]
  | cons next parts ih =>
    rw [join, List.intercalate_cons_cons, ← join, ih, List.flatMap_cons, List.append_assoc,
      List.append_assoc]

end Text

namespace CommandLine

/-- Lines that are joined are printed one by one. -/
lemma printed_join (part : Text) (parts : List Text) :
    printed (Text.join "\n" (part :: parts)) = (part :: parts).flatMap printed := by
  rw [Text.join_cons]
  induction parts generalizing part with
  | nil => simp [printed]
  | cons next parts ih =>
    rw [List.flatMap_cons, List.flatMap_cons, ← ih next]
    simp [printed]

/-- No entry is shown as nothing. -/
lemma render_ne_nil (e : Entry) : e.render ≠ [] := by
  unfold Entry.render
  simp [Text.ofString, Text.ofChars]

/-- What a journal has to say is printed entry by entry. -/
lemma printed_saidOf (j : Journal) :
    (saidOf j).flatMap printed = j.entries.toList.flatMap (printed ·.render) := by
  have all : j.select (some .debug) none = j.entries.toList := by
    refine List.filter_eq_self.mpr fun e _ => ?_
    simp [Level.debug_le]
  unfold saidOf Journal.format
  rw [all]
  cases j.entries.toList with
  | nil => rfl
  | cons e entries =>
    have shown : Text.join "\n" ((e :: entries).map Entry.render) ≠ "" := by
      rw [List.map_cons, Text.join_cons]
      exact List.append_ne_nil_of_left_ne_nil (render_ne_nil e) _
    dsimp only
    rw [if_neg shown, List.flatMap_singleton, List.map_cons, printed_join, ← List.map_cons,
      List.flatMap_map]

/-- What a check has to say goes behind the entries that its journal holds. -/
lemma out_reported (exitCode : Nat) (journal : Option Journal) (text : Text) :
    (reported exitCode journal text).result.out =
      (Journal.held journal).flatMap (printed ·.render) ++ printed text := by
  cases journal with
  | none => exact List.append_nil _
  | some j =>
    show (saidOf j ++ [text]).flatMap printed = _
    rw [List.flatMap_append, printed_saidOf, List.flatMap_singleton]
    rfl

end CommandLine

/-! ## Checks of files -/

namespace Audit

variable {read : FileReader} {plan : Plan}

/-- The check of a plan comes to this, whatever journal its caller has. -/
def ChecksTo (read : FileReader) (plan : Plan) (checked : Except Stop Verdict) : Prop :=
  ∀ journal, ((checkFiles read plan).on journal).1 = checked

/-- A check comes to what it comes to without a journal. -/
lemma checksTo_iff {checked : Except Stop Verdict} :
    ChecksTo read plan checked ↔ (inspect read plan).result = checked := by
  unfold ChecksTo
  simp only [fst_checkFiles, forall_const]

/-- A plan comes to one thing only. -/
lemma ChecksTo.unique {checked checked' : Except Stop Verdict} (h : ChecksTo read plan checked)
    (h' : ChecksTo read plan checked') : checked = checked' :=
  (h none).symm.trans (h' none)

/-- An input that the check of a plan reaches cannot be read: the snapshot or, once the mappings of
the snapshot are there, the trace. -/
inductive Unread (read : FileReader) (plan : Plan) : Prop
  | snapshot {f : FileFault} (refused : read plan.snapshot = .error f) : Unread read plan
  | trace {lines : List Text} {mappings : List Mapping} {f : FileFault}
    (snapshot_read : readLines read plan.snapshot = .ok lines)
    (parsed : (Snapshot.read lines).result = .ok mappings)
    (refused : read plan.trace = .error f) : Unread read plan

/-- A file that is refused has no lines. -/
lemma readLines_of_refused {path : Path} {f : FileFault} (refused : read path = .error f) :
    readLines read path = .error (.file f) := by
  rw [readLines, refused]
  rfl

/-- The lines of a file are missing only if the file is refused. -/
lemma of_readLines_eq_error {path : Path} {stop : Stop}
    (unread : readLines read path = .error stop) : ∃ f, read path = .error f ∧ stop = .file f := by
  unfold readLines at unread
  cases reads : read path with
  | error f =>
    rw [reads] at unread
    exact ⟨f, rfl, (Except.error.inj unread).symm⟩
  | ok bytes =>
    rw [reads] at unread
    cases unread

/-- A check ends with a file exactly if an input that it reaches cannot be read. -/
lemma unread_iff : Unread read plan ↔ ∃ f, ChecksTo read plan (.error (.file f)) := by
  simp only [checksTo_iff, result_inspect]
  constructor
  · rintro (refused | ⟨snapshot_read, parsed, refused⟩)
    · rw [readLines_of_refused refused]
      exact ⟨_, rfl⟩
    · simp only [snapshot_read, parsed, readLines_of_refused refused, Except.bind, Except.mapError]
      exact ⟨_, rfl⟩
  · rintro ⟨f, ends⟩
    cases snapshot_read : readLines read plan.snapshot with
    | error stop =>
      obtain ⟨f, refused, -⟩ := of_readLines_eq_error snapshot_read
      exact .snapshot refused
    | ok lines =>
      cases parsed : (Snapshot.read lines).result with
      | error fault => simp [snapshot_read, parsed, Except.bind, Except.mapError] at ends
      | ok mappings =>
        cases trace_read : readLines read plan.trace with
        | error stop =>
          obtain ⟨f, refused, -⟩ := of_readLines_eq_error trace_read
          exact .trace snapshot_read parsed refused
        | ok trace =>
          simp only [snapshot_read, parsed, trace_read, Except.bind, Except.mapError] at ends
          split at ends <;> cases ends

end Audit

namespace CommandLine

open Audit

/-! ## What is said of a check -/

/-- What is said of a check that passed. -/
def passText (verdict : Verdict) : Text :=
  "PASS: " ++ toString verdict.checked ++ " page sizes checked (" ++ toString verdict.tolerated ++
    " THP tolerated)"

/-- What is said of a verdict that fails: how many claims failed, and each failure on a line. -/
def failText (verdict : Verdict) : Text :=
  let line (f : Finding) : Text := "\n  " ++ f.message
  "FAIL: " ++ toString verdict.violations.length ++ " of " ++ toString verdict.checked ++
    " page sizes failed" ++ verdict.violations.flatMap line

/-- What is said of a check that failed. -/
inductive FailTold : Except Stop Verdict → Text → Prop
  | verdict {verdict : Verdict} (failed : verdict.violations ≠ []) :
    FailTold (.ok verdict) (failText verdict)
  | finding (f : Finding) : FailTold (.error (.fault (.finding f))) ("FAIL: " ++ f.message)

/-- The report of a verdict that passed. -/
lemma report_of_passed {verdict : Verdict} (passed : verdict.passed = true) :
    verdict.report = passText verdict := if_pos passed

/-- The report of a verdict that failed. -/
lemma report_of_failed {verdict : Verdict} (failed : ¬verdict.passed = true) :
    verdict.report = failText verdict := by
  rw [Verdict.report, if_neg failed]
  dsimp only
  rw [Text.join_cons, List.flatMap_map]
  rfl

/-! ## How a run concludes -/

/-- The journal that a run keeps of its check. -/
def kept (read : FileReader) (plan : Plan) : Option Journal :=
  ((checkFiles read plan).on (some (journalFor plan))).2

/-- How a run concludes whose settings come to this. -/
inductive Concludes (read : FileReader) (settled : Except Settings.Fault Plan) : Result → Prop
  | unsettled {c : Settings.Complaint} (unresolved : settled = .error (.complaint c)) :
    Concludes read settled (hindered c.message).result
  | unread {plan : Plan} {f : FileFault} (resolved : settled = .ok plan)
    (checked : ChecksTo read plan (.error (.file f))) :
    Concludes read settled (hindered f.message).result
  | failed {plan : Plan} {checked : Except Stop Verdict} {text : Text}
    (resolved : settled = .ok plan) (checksTo : ChecksTo read plan checked)
    (told : FailTold checked text) :
    Concludes read settled (reported exitFail (kept read plan) text).result
  | passed {plan : Plan} {verdict : Verdict} (resolved : settled = .ok plan)
    (checksTo : ChecksTo read plan (.ok verdict)) (passed : verdict.passed = true) :
    Concludes read settled (reported exitPass (kept read plan) (passText verdict)).result

section concludes

variable {read : FileReader} {room : Nat} {output : Output} {environment : Settings.Environment}
  {c : Conclusion} {r : Result}

/-- How a run concludes that makes the check of its plan. -/
lemma concludes_of_concludePlan {plan : Plan} (comes : concludePlan read plan = .ok c) :
    Concludes read (.ok plan) c.result := by
  -- The journal that is kept is the one of this check, and does not change what it comes to.
  have ended : (checkFiles read plan).on (some (journalFor plan)) =
      ((inspect read plan).result, kept read plan) := Prod.ext (fst_checkFiles ..) rfl
  rw [concludePlan, ended] at comes
  cases checked : (inspect read plan).result with
  | ok verdict =>
    have checksTo := checksTo_iff.mpr checked
    rw [checked] at comes
    cases comes
    by_cases passed : verdict.passed = true
    · rw [if_pos passed, report_of_passed passed]
      exact .passed rfl checksTo passed
    · rw [if_neg passed, report_of_failed passed]
      exact .failed rfl checksTo (.verdict (mt List.isEmpty_iff.mpr passed))
  | error stop =>
    have checksTo := checksTo_iff.mpr checked
    rw [checked] at comes
    cases stop with
    | fault fault =>
      cases fault with
      | finding f =>
        cases comes
        exact .failed rfl checksTo (.finding f)
      | overlong o => cases comes
    | file f =>
      -- A path that no file can have breaks the run off, so it has no result.
      cases f with
      | refused cause path =>
        cases comes
        exact .unread rfl checksTo
      | embeddedNull | unencodable => cases comes

/-- How a run concludes that is to make a check. -/
lemma concludes_of_conclude {o : Options} (comes : conclude read room o environment = .ok c) :
    Concludes read (Settings.resolve read room o.configFile environment o.settings) c.result := by
  unfold conclude at comes
  split at comes
  · cases comes
  cases settled : Settings.resolve read room o.configFile environment o.settings with
  | ok plan =>
    rw [settled] at comes
    exact concludes_of_concludePlan comes
  | error fault =>
    rw [settled] at comes
    cases fault with
    | complaint c =>
      cases comes
      exact .unsettled rfl
    | _ => cases comes

/-- A run that is to make a check and comes to its end has shown what it concludes with. -/
lemma concludes_of_run {arguments : List Text} {o : Options}
    (accepted : Invocation.ofArguments arguments = .ok (.check o))
    (returns : run read room output arguments environment = .ok r) :
    Concludes read (Settings.resolve read room o.configFile environment o.settings) r := by
  rw [run, accepted] at returns
  cases comes : conclude read room o environment with
  | error breakdown =>
    simp only [comes] at returns
    cases returns
  | ok c =>
    simp only [comes] at returns
    change c.showOn output = .ok r at returns
    unfold Conclusion.showOn at returns
    split at returns
    · cases returns
    · cases returns
      exact concludes_of_conclude comes

end concludes

/-! ## What the result tells -/

/-- The settings resolve, and the check of their plan comes to a verdict without violations. -/
def Passes (read : FileReader) (settled : Except Settings.Fault Plan) : Prop :=
  ∃ plan verdict, settled = .ok plan ∧ ChecksTo read plan (.ok verdict) ∧ verdict.violations = []

/-- The settings do not resolve, or an input that the check of their plan reaches cannot be read. -/
def Hinders (read : FileReader) (settled : Except Settings.Fault Plan) : Prop :=
  (∃ fault, settled = .error fault) ∨ ∃ plan, settled = .ok plan ∧ Unread read plan

/-- The result of a run tells how the check went that its settings ask for, in its exit code as in
its output. -/
structure Result.Tells (r : Result) (read : FileReader)
    (settled : Except Settings.Fault Plan) : Prop where
  passed_iff : r.exitCode = 0 ↔ Passes read settled
  hindered_iff : r.exitCode = 2 ↔ Hinders read settled
  failed_iff : r.exitCode = 1 ↔ ¬Passes read settled ∧ ¬Hinders read settled
  /-- The trace is not reached if the snapshot is malformed. -/
  malformed : ∀ plan lines f, settled = .ok plan → readLines read plan.snapshot = .ok lines →
    (Snapshot.read lines).result = .error (.finding f) → r.exitCode = 1
  pass_told : r.exitCode = 0 → ∃ plan verdict, settled = .ok plan ∧
    ChecksTo read plan (.ok verdict) ∧
    (plan.debug = false → r.out = printed (passText verdict) ∧ r.err = "")
  fail_told : r.exitCode = 1 → ∃ plan checked text, settled = .ok plan ∧
    ChecksTo read plan checked ∧ FailTold checked text ∧
    r.out = (Journal.held (kept read plan)).flatMap (printed ·.render) ++ printed text ∧
    r.err = ""
  hindrance_told : r.exitCode = 2 → r.out = "" ∧ Text.ofString "error: " <+: r.err

section tells

variable {read : FileReader} {settled : Except Settings.Fault Plan} {r : Result} {plan : Plan}
  {checked : Except Stop Verdict}

/-- Nothing passes that comes to no verdict without violations. -/
lemma not_passes (resolved : settled = .ok plan) (checksTo : ChecksTo read plan checked)
    (fails : ∀ verdict, checked = .ok verdict → verdict.violations ≠ []) :
    ¬Passes read settled := by
  rintro ⟨plan', verdict, resolved', checksTo', passed⟩
  cases resolved.symm.trans resolved'
  exact fails verdict (checksTo.unique checksTo') passed

/-- Nothing is hindered whose files are read. -/
lemma not_hinders (resolved : settled = .ok plan) (checksTo : ChecksTo read plan checked)
    (made : ∀ f, checked ≠ .error (.file f)) : ¬Hinders read settled := by
  rintro (⟨fault, unresolved⟩ | ⟨plan', resolved', unread⟩)
  · cases resolved.symm.trans unresolved
  · cases resolved.symm.trans resolved'
    obtain ⟨f, checksTo'⟩ := unread_iff.mp unread
    exact made f (checksTo.unique checksTo')

/-- What is told of a failure is told of violations. -/
lemma FailTold.violations_ne_nil {text : Text} (told : FailTold checked text) :
    ∀ verdict, checked = .ok verdict → verdict.violations ≠ [] := by
  rintro verdict rfl
  cases told with
  | verdict failed => exact failed

/-- What is told of a failure is not told of a file. -/
lemma FailTold.ne_file {text : Text} (told : FailTold checked text) :
    ∀ f, checked ≠ .error (.file f) := by
  rintro f rfl
  cases told

/-- The check of a malformed snapshot comes to what is wrong with it. -/
lemma checksTo_of_malformed {lines : List Text} {f : Finding}
    (snapshot_read : readLines read plan.snapshot = .ok lines)
    (malformed : (Snapshot.read lines).result = .error (.finding f)) :
    ChecksTo read plan (.error (.fault (.finding f))) := by
  rw [checksTo_iff, result_inspect, snapshot_read]
  simp only [malformed, Except.bind, Except.mapError]

/-- In silence nothing is kept of a check that passes. -/
lemma held_kept_of_passed {verdict : Verdict} (checksTo : ChecksTo read plan (.ok verdict))
    (passed : verdict.passed = true) (silent : plan.debug = false) :
    Journal.held (kept read plan) = [] := by
  -- A unit that is none would be warned of, but then its claim fails.
  have quiet := quiet_inspect_of_passed (checksTo_iff.mp checksTo) passed
  have held := (Logged.held_warning_eq_nil_iff (oblivious_inspect read plan)).mpr quiet
  have threshold : journalFor plan = { threshold := .warning } := by
    rw [journalFor, silent]
    rfl
  rw [kept, threshold]
  exact held

/-- The exit code tells whether the check passed, failed or was hindered. -/
lemma Concludes.code (concludes : Concludes read settled r) :
    (r.exitCode = 0 ∧ Passes read settled ∧ ¬Hinders read settled) ∨
    (r.exitCode = 1 ∧ ¬Passes read settled ∧ ¬Hinders read settled) ∨
    (r.exitCode = 2 ∧ ¬Passes read settled ∧ Hinders read settled) := by
  cases concludes with
  | unsettled unresolved =>
    refine .inr (.inr ⟨rfl, ?_, .inl ⟨_, unresolved⟩⟩)
    rintro ⟨plan, verdict, resolved, -⟩
    cases unresolved.symm.trans resolved
  | unread resolved checksTo =>
    have hinders : Hinders read settled := .inr ⟨_, resolved, unread_iff.mpr ⟨_, checksTo⟩⟩
    exact .inr (.inr ⟨rfl, not_passes resolved checksTo nofun, hinders⟩)
  | failed resolved checksTo told =>
    have fails := not_passes resolved checksTo told.violations_ne_nil
    exact .inr (.inl ⟨rfl, fails, not_hinders resolved checksTo told.ne_file⟩)
  | passed resolved checksTo passed =>
    have passes : Passes read settled := ⟨_, _, resolved, checksTo, List.isEmpty_iff.mp passed⟩
    exact .inl ⟨rfl, passes, not_hinders resolved checksTo nofun⟩

/-- The exit code of a pass is told with the text of a verdict that passed. -/
lemma Concludes.pass_told (concludes : Concludes read settled r) (code : r.exitCode = 0) :
    ∃ plan verdict, settled = .ok plan ∧ ChecksTo read plan (.ok verdict) ∧
      (plan.debug = false → r.out = printed (passText verdict) ∧ r.err = "") := by
  cases concludes with
  | unsettled | unread | failed => cases code
  | passed resolved checksTo passed =>
    refine ⟨_, _, resolved, checksTo, fun silent => ⟨?_, rfl⟩⟩
    rw [out_reported, held_kept_of_passed checksTo passed silent]
    rfl

/-- The exit code of a failure is told with the entries kept and the text of what failed. -/
lemma Concludes.fail_told (concludes : Concludes read settled r) (code : r.exitCode = 1) :
    ∃ plan checked text, settled = .ok plan ∧ ChecksTo read plan checked ∧
      FailTold checked text ∧
      r.out = (Journal.held (kept read plan)).flatMap (printed ·.render) ++ printed text ∧
      r.err = "" := by
  cases concludes with
  | unsettled | unread | passed => cases code
  | failed resolved checksTo told =>
    exact ⟨_, _, _, resolved, checksTo, told, out_reported .., rfl⟩

/-- The exit code of a hindrance is told with an error and nothing else. -/
lemma Concludes.hindrance_told (concludes : Concludes read settled r) (code : r.exitCode = 2) :
    r.out = "" ∧ Text.ofString "error: " <+: r.err := by
  cases concludes with
  | failed | passed => cases code
  | unsettled | unread =>
    refine ⟨rfl, ?_⟩
    rw [Conclusion.result, hindered, printed, List.append_assoc]
    exact List.prefix_append _ _

/-- The result of a run that concludes tells how the check went. -/
lemma Concludes.tells (concludes : Concludes read settled r) : r.Tells read settled := by
  have failed_iff : r.exitCode = 1 ↔ ¬Passes read settled ∧ ¬Hinders read settled := by
    obtain ⟨code, passes, -⟩ | ⟨code, failed⟩ | ⟨code, -, hinders⟩ := concludes.code
    · exact iff_of_false (by omega) fun failed => failed.1 passes
    · exact iff_of_true code failed
    · exact iff_of_false (by omega) fun failed => failed.2 hinders
  refine ⟨?_, ?_, failed_iff, ?_, concludes.pass_told, concludes.fail_told,
    concludes.hindrance_told⟩
  · obtain ⟨code, passes, -⟩ | ⟨code, fails, -⟩ | ⟨code, fails, -⟩ := concludes.code
    · exact iff_of_true code passes
    · exact iff_of_false (by omega) fails
    · exact iff_of_false (by omega) fails
  · obtain ⟨code, -, unhindered⟩ | ⟨code, -, unhindered⟩ | ⟨code, -, hinders⟩ := concludes.code
    · exact iff_of_false (by omega) unhindered
    · exact iff_of_false (by omega) unhindered
    · exact iff_of_true code hinders
  · intro plan lines f resolved snapshot_read malformed
    have checksTo := checksTo_of_malformed snapshot_read malformed
    exact failed_iff.mpr ⟨not_passes resolved checksTo nofun, not_hinders resolved checksTo nofun⟩

end tells

/-- **The exit code and the output tell the same truth.** Of a run that is to make a check and comes
to its end the code is 0 exactly if the check passes, 2 exactly if the settings do not resolve or an
input that is reached cannot be read, and 1 otherwise. A check that passes in silence is told in one
line alone, one that fails under the journal that was kept of it, and what hinders a check goes to
the standard error. -/
theorem outcome_told {read : FileReader} {room : Nat} {output : Output} {arguments : List Text}
    {environment : Settings.Environment} {o : Options} {r : Result}
    (accepted : Invocation.ofArguments arguments = .ok (.check o))
    (returns : run read room output arguments environment = .ok r) :
    r.Tells read (Settings.resolve read room o.configFile environment o.settings) :=
  (concludes_of_run accepted returns).tells

/-- Of two files that agree one line is printed. -/
theorem outcome_told_on_one_page :
    let read := (holding onePage onePageClaim).read
    let r : Result := { exitCode := 0, out := "PASS: 1 page sizes checked (0 THP tolerated)\n" }
    run read 0 .utf8 ["--smaps", "smaps", "--trace", "trace"] [] = .ok r ∧
      r.Tells read (.ok heldPlan) := by
  intro read r
  have accepted : Invocation.ofArguments ["--smaps", "smaps", "--trace", "trace"] =
      .ok (.check { smaps := some "smaps", trace := some "trace" }) := by decide +kernel
  have returns : run read 0 .utf8 ["--smaps", "smaps", "--trace", "trace"] [] = .ok r := by
    decide +kernel
  exact ⟨returns, outcome_told accepted returns⟩

end CommandLine

end PageAudit
