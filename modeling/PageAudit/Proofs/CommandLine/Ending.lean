import Mathlib
import PageAudit.CommandLine.Run
import PageAudit.Proofs.Audit.Held
import PageAudit.Proofs.Settings
import PageAudit.Proofs.Text.Lines

/-!
# Runs that come to an end

A check of files is `Answered` with a verdict, with a finding or with the file that was refused, and
a run of a command line `Exits` with one of three codes, if the inputs are fit: paths that can name
files, no size numeral that is too long, a settings file that can be read, and an output that shows
what the run has to say. `fit_runs_exit` is the main result. On unfit inputs a check breaks off, as
`check_breaks_off_at_overlong_size` shows of a page size of one digit too many.
-/

namespace PageAudit

namespace Audit

/-! ## Checks of files -/

/-- The check has an answer: a verdict, a finding or the file that was refused. -/
inductive Answered : Except Stop Verdict → Prop
  | verdict (verdict : Verdict) : Answered (.ok verdict)
  | finding (f : Finding) : Answered (.error (.fault (.finding f)))
  | refused (cause : FileFault.Cause) (path : Path) :
    Answered (.error (.file (.refused cause path)))

/-- An audit that ends, ends as promised. -/
lemma Ends.answered {failFast : Bool} {r : Except Fault Verdict} (ends : Ends failFast r) :
    Answered (r.mapError .fault) := by
  cases ends with
  | verdict verdict => exact .verdict verdict
  | @defect f _ => exact .finding f
  | @failure f _ _ => exact .finding f

/-- A plan whose paths can name files. The page sizes in the sections of its snapshot can be read,
and those of the claims in its trace can be read and written, if there are such files. -/
structure Plan.Fit (read : FileReader) (plan : Plan) : Prop where
  snapshot_usable : plan.snapshot.Usable
  trace_usable : plan.trace.Usable
  snapshot_fits : ∀ lines, readLines read plan.snapshot = .ok lines →
    ∀ s ∈ Snapshot.sections lines, s.Fits
  trace_fits : ∀ lines, readLines read plan.trace = .ok lines →
    ∀ line ∈ lines, Claim.SizeFits line

section

variable {read : FileReader} (truthful : read.Truthful)

include truthful

/-- A file at a usable path has lines, or it is refused. -/
lemma readLines_ends {path : Path} (usable : path.Usable) :
    (∃ lines, readLines read path = .ok lines) ∨
      ∃ cause, readLines read path = .error (.file (.refused cause path)) := by
  unfold readLines
  obtain ⟨bytes, reads⟩ | ⟨cause, refused⟩ := truthful.read_ends usable
  · rw [reads]
    exact .inl ⟨_, rfl⟩
  · rw [refused]
    exact .inr ⟨cause, rfl⟩

/-- The check of a fit plan has an answer. -/
lemma checkFiles_answered {plan : Plan} (fit : plan.Fit read) (journal : Option Journal) :
    Answered ((checkFiles read plan).on journal).1 := by
  rw [fst_checkFiles, result_inspect]
  obtain ⟨snapshot, snapshot_reads⟩ | ⟨cause, refused⟩ :=
    readLines_ends truthful fit.snapshot_usable
  · rw [snapshot_reads]
    obtain ⟨mappings, reads⟩ | ⟨f, -, unread⟩ :=
      Snapshot.read_ends (fit.snapshot_fits snapshot snapshot_reads)
    · obtain ⟨trace, trace_reads⟩ | ⟨cause, refused⟩ := readLines_ends truthful fit.trace_usable
      · have ends := Auditor.runTrace_ends (fit.trace_fits trace trace_reads)
          (a := { mappings, failFast := plan.failFast }) (Snapshot.lt_writeBound_of_read reads)
        simp only [Except.bind, reads, Except.mapError, trace_reads]
        exact ends.answered
      · simp only [Except.bind, reads, Except.mapError, refused]
        exact .refused cause plan.trace
    · simp only [Except.bind, unread, Except.mapError]
      exact .finding f
  · rw [refused]
    exact .refused cause plan.snapshot

end

end Audit

namespace CommandLine

/-! ## Runs -/

/-- The run comes to its end with one of the three exit codes. -/
def Exits (r : Except Breakdown Result) : Prop :=
  ∃ result, r = .ok result ∧
    (result.exitCode = exitPass ∨ result.exitCode = exitFail ∨ result.exitCode = exitUsage)

/-- Options whose settings file can be read and whose plan, if they make one, is fit. Whatever they
lead to that is to be said, the output shows. -/
structure Options.Fit (read : FileReader) (room : Nat) (output : Output)
    (environment : Settings.Environment) (o : Options) : Prop where
  named : o.config ≠ some terminatorMark
  usable : ∀ path ∈ o.configFile, path.Usable
  legible : ∀ path ∈ o.configFile, ∀ bytes, read path = .ok bytes → Settings.Legible room bytes
  plan : ∀ plan, Settings.resolve read room o.configFile environment o.settings = .ok plan →
    plan.Fit read
  shown : ∀ c, conclude read room o environment = .ok c → ∀ text ∈ c.said, output text = none

section

variable {read : FileReader} {room : Nat} {output : Output} {environment : Settings.Environment}

/-- What is shown to the end has the exit code of the conclusion. -/
lemma Conclusion.showOn_eq {c : Conclusion} (shown : ∀ text ∈ c.said, output text = none) :
    c.showOn output = .ok c.result := by
  rw [showOn, List.findSome?_eq_none_iff.mpr shown]

/-- A conclusion with one of the three exit codes. -/
def Concluded (r : Except Breakdown Conclusion) : Prop :=
  ∃ c, r = .ok c ∧ (c.exitCode = exitPass ∨ c.exitCode = exitFail ∨ c.exitCode = exitUsage)

/-- A plan that fits is concluded. -/
lemma concluded_concludePlan (truthful : read.Truthful) {plan : Audit.Plan} (fit : plan.Fit read) :
    Concluded (concludePlan read plan) := by
  have answered := Audit.checkFiles_answered truthful fit (some (journalFor plan))
  unfold concludePlan
  generalize (Audit.checkFiles read plan).on (some (journalFor plan)) = checked at answered ⊢
  obtain ⟨r, journal⟩ := checked
  cases answered with
  | verdict verdict =>
    refine ⟨_, rfl, ?_⟩
    cases verdict.passed with
    | true => exact .inl rfl
    | false => exact .inr (.inl rfl)
  | finding f => exact ⟨_, rfl, .inr (.inl rfl)⟩
  | refused cause path => exact ⟨_, rfl, .inr (.inr rfl)⟩

/-- Options that fit are concluded. -/
lemma concluded_conclude (truthful : read.Truthful) {o : Options}
    (fit : o.Fit read room output environment) :
    Concluded (conclude read room o environment) := by
  unfold conclude
  rw [if_neg fit.named]
  cases resolves : Settings.resolve read room o.configFile environment o.settings with
  | ok plan => exact concluded_concludePlan truthful (fit.plan plan resolves)
  | error fault =>
    obtain ⟨c, rfl⟩ := Settings.complaint_of_resolve truthful fit.usable fit.legible resolves
    exact ⟨_, rfl, .inr (.inr rfl)⟩

/-- A run exits if the options, where the arguments give some, are fit. -/
lemma run_exits (truthful : read.Truthful) {arguments : List Text}
    (fit : ∀ o, Invocation.ofArguments arguments = .ok (.check o) →
      o.Fit read room output environment) :
    Exits (run read room output arguments environment) := by
  unfold run
  cases asks : Invocation.ofArguments arguments with
  | error refusal => exact ⟨_, rfl, .inr (.inr rfl)⟩
  | ok invocation =>
    cases invocation with
    | help => exact ⟨_, rfl, .inl rfl⟩
    | check o =>
      -- What the conclusion has to say is shown, so the run ends with its code.
      obtain ⟨c, concludes, code⟩ := concluded_conclude truthful (fit o asks)
      refine ⟨c.result, ?_, code⟩
      simp only [concludes]
      exact c.showOn_eq ((fit o asks).shown c concludes)

end

/-- **Fit inputs come to an end.** The check of a fit plan has an answer: a verdict, a finding or
the file that was refused. And every command line, in every environment, exits with one of the three
codes, if the options that it gives are fit. This holds of whatever files a truthful reader finds,
of every output, and however many objects and arrays may stand in one another in a settings file. -/
theorem fit_runs_exit {read : FileReader} (truthful : read.Truthful) (room : Nat)
    (output : Output) :
    (∀ (plan : Audit.Plan) (journal : Option Journal), plan.Fit read →
      Audit.Answered ((Audit.checkFiles read plan).on journal).1) ∧
    ∀ (arguments : List Text) (environment : Settings.Environment),
      (∀ o, Invocation.ofArguments arguments = .ok (.check o) →
        o.Fit read room output environment) →
      Exits (run read room output arguments environment) :=
  ⟨fun _ journal fit => Audit.checkFiles_answered truthful fit journal,
    fun _ _ fit => run_exits truthful fit⟩

/-- A settings file that names both files of a check. -/
def settingsText : Text := "\x7b\"smaps_file\":\"smaps\",\"trace_file\":\"trace\"\x7d"

/-- A store of two files and of settings that name them. -/
def settledStore : FileStore where
  entries := ([FileStore.partName "settings"], .file (Text.bytesOf settingsText)) ::
    (Audit.holding Audit.onePage Audit.onePageClaim).entries

/-- Its two files are fit to be checked. -/
lemma heldPlan_fit : Audit.heldPlan.Fit settledStore.read := by
  have snapshot_held : Audit.Holds settledStore.read Audit.heldPlan.snapshot Audit.onePage :=
    ⟨_, Text.encode_of_scalar (by decide), rfl⟩
  have trace_held : Audit.Holds settledStore.read Audit.heldPlan.trace Audit.onePageClaim :=
    ⟨_, Text.encode_of_scalar (by decide), rfl⟩
  refine ⟨⟨_, rfl, by decide +kernel⟩, ⟨_, rfl, by decide +kernel⟩, ?_, ?_⟩
  · intro lines reads
    cases snapshot_held.readLines_eq.symm.trans reads
    exact Snapshot.fits_of_lines (by decide +kernel)
  · intro lines reads
    cases trace_held.readLines_eq.symm.trans reads
    have within : ∀ line ∈ Text.fileLines Audit.onePageClaim, Claim.SizeWithin 4000 line := by
      decide +kernel
    exact fun line mem => (within line mem).fits (by decide)

/-- What is said of its two files. -/
def settledConclusion : Conclusion :=
  { exitCode := exitPass, said := ["PASS: 1 page sizes checked (0 THP tolerated)"] }

/-- The options that name its settings. -/
def settledOptions : Options := { config := some "settings" }

/-- The file of settings in the store settles the plan. -/
lemma settled_resolves :
    Settings.resolve settledStore.read 988 settledOptions.configFile [] settledOptions.settings =
      .ok Audit.heldPlan := by cbv

/-- What the options in the store come to. -/
lemma settled_concludes :
    conclude settledStore.read 988 settledOptions [] = .ok settledConclusion := by
  have concludes : concludePlan settledStore.read Audit.heldPlan = .ok settledConclusion := by
    decide +kernel
  rw [conclude, if_neg (by decide), settled_resolves]
  exact concludes

/-- The arguments ask for the options in the store. -/
lemma settled_asked :
    Invocation.ofArguments ["--config", "settings"] = .ok (.check settledOptions) := by
  decide +kernel

/-- The options in the store fit. -/
lemma settled_fit (o : Options)
    (asks : Invocation.ofArguments ["--config", "settings"] = .ok (.check o)) :
    o.Fit settledStore.read 988 .utf8 [] := by
  cases settled_asked.symm.trans asks
  refine ⟨by decide, ?_, ?_, ?_, ?_⟩
  · rintro _ ⟨⟩
    exact ⟨_, rfl, by decide +kernel⟩
  · rintro _ ⟨⟩ _ ⟨⟩
    exact Settings.legible_of_length_le settingsText (by decide +kernel) (by decide) (by decide)
  · intro plan resolves
    cases settled_resolves.symm.trans resolves
    exact heldPlan_fit
  · intro c concludes
    cases settled_concludes.symm.trans concludes
    decide +kernel

/-- A run whose settings lead it to two files that agree exits, and tells that the check passed. -/
theorem settled_run_exits :
    Audit.Answered ((Audit.checkFiles settledStore.read Audit.heldPlan).on none).1 ∧
      ∃ result, run settledStore.read 988 .utf8 ["--config", "settings"] [] = .ok result ∧
        result.exitCode = exitPass ∧
        result.out = "PASS: 1 page sizes checked (0 THP tolerated)\n" := by
  obtain ⟨answered, exits⟩ := fit_runs_exit (FileStore.truthful_read settledStore) 988 .utf8
  refine ⟨answered Audit.heldPlan none heldPlan_fit, ?_⟩
  obtain ⟨result, runs, -⟩ := exits _ _ settled_fit
  have shown : settledConclusion.showOn .utf8 = .ok settledConclusion.result := by decide +kernel
  have ends := runs
  rw [run, settled_asked] at ends
  simp only [settled_concludes] at ends
  cases shown.symm.trans ends
  exact ⟨_, runs, rfl, by decide +kernel⟩

/-! ## A page size of one digit too many -/

/-- So many nines. -/
def nines (count : Nat) : Text := List.replicate count (.char '9')

/-- The unit after the digits of a page size. -/
def sizeUnit : Text := " kB"

/-- A page size line with these digits. -/
def sizeLine (digits : Text) : Text := Snapshot.pageSizeLabel ++ .char ' ' :: (digits ++ sizeUnit)

/-- The header of a mapping of one page. -/
def pageHeader : Text := "1-2 rw-p"

/-- A mapping whose page size is told in so many nines. -/
def ninesPage (count : Nat) : Text :=
  pageHeader ++ .char '\n' :: (sizeLine (nines count) ++ [.char '\n'])

/-- It is made of the same characters however many nines there are. -/
lemma mem_ninesPage {count : Nat} {c : CodePoint} (mem : c ∈ ninesPage count) :
    c ∈ ninesPage 1 := by
  simp only [ninesPage, sizeLine, nines, List.mem_append, List.mem_cons, List.mem_replicate]
    at mem ⊢
  tauto

/-- The page size line tells its digits. -/
lemma pageSize?_nines (count : Nat) :
    Snapshot.pageSize? (sizeLine (nines (count + 1))) = some (nines (count + 1)) := by
  have digital : ∀ c ∈ nines (count + 1), Text.isDigit c = true := by
    intro c mem
    rw [List.eq_of_mem_replicate mem]
    decide
  have after : Text.after? Snapshot.pageSizeLabel (sizeLine (nines (count + 1))) =
      some (.char ' ' :: (nines (count + 1) ++ sizeUnit)) := Text.after?_eq_some_iff.mpr rfl
  have trimmed : (CodePoint.char ' ' :: (nines (count + 1) ++ sizeUnit)).dropWhile Text.isBlank =
      nines (count + 1) ++ sizeUnit := rfl
  have taken : (nines (count + 1) ++ sizeUnit).takeWhile Text.isDigit = nines (count + 1) := by
    rw [List.takeWhile_append_of_pos digital, show sizeUnit.takeWhile Text.isDigit = [] by decide,
      List.append_nil]
  have dropped : (nines (count + 1) ++ sizeUnit).dropWhile Text.isDigit = sizeUnit := by
    rw [List.dropWhile_append_of_pos digital]
    decide
  simp only [Snapshot.pageSize?, after, trimmed, taken, dropped]
  rfl

/-- The lines of the mapping are its header and its page size. -/
lemma fileLines_ninesPage (count : Nat) :
    Text.fileLines (ninesPage count) =
      [pageHeader ++ [.char '\n'], sizeLine (nines count) ++ [.char '\n']] := by
  have unreturned : CodePoint.char '\r' ∉ ninesPage count := fun mem =>
    absurd (mem_ninesPage mem) (by decide)
  have unbroken : CodePoint.char '\n' ∉ sizeLine (nines count) := by
    intro mem
    simp only [sizeLine, nines, List.mem_append, List.mem_cons, List.mem_replicate] at mem
    obtain label | blank | ⟨-, nine⟩ | unit := mem
    · exact absurd label (by decide)
    · exact absurd blank (by decide)
    · exact absurd nine (by decide)
    · exact absurd unit (by decide)
  rw [Text.fileLines, Text.unifyBreaks_of_not_mem unreturned, ninesPage,
    Text.cutLines_append (by decide), Text.cutLines_append unbroken]
  rfl

/-- The mapping has no surrogates. -/
lemma scalar_ninesPage (count : Nat) : Text.Scalar (ninesPage count) := by
  have scalar : Text.Scalar (ninesPage 1) := by decide
  exact fun c mem => scalar c (mem_ninesPage mem)

section overlong

variable {count : Nat} (long : Numeral.maxDigits ≤ count)

include long

/-- Reading the mapping breaks off if its page size has too many digits. -/
lemma read_ninesPage :
    ∃ o, (Snapshot.read (Text.fileLines (ninesPage (count + 1)))).result =
      .error (.overlong o) := by
  have chomped : Text.chomp (sizeLine (nines (count + 1)) ++ [.char '\n']) =
      sizeLine (nines (count + 1)) := by
    have last : sizeUnit.getLast? = some (.char 'B') := by decide
    apply Text.chomp_append_lineFeed
    rw [sizeLine, ← List.cons_append, ← List.append_assoc, List.getLast?_append, last]
    simp
  have unfit : ¬Snapshot.SizeFits (sizeLine (nines (count + 1)) ++ [.char '\n']) := by
    intro fits
    have short := fits (nines (count + 1)) (by rw [chomped]; exact pageSize?_nines count)
    rw [nines, List.length_replicate] at short
    omega
  have opens : Snapshot.State.step none (pageHeader ++ [.char '\n']) 1 =
      .ok (some { start := 1, stop := 2, line := 1 }, none) := by decide +kernel
  obtain ⟨o, breaks⟩ := Snapshot.step_overlong (by rw [chomped]; rfl) unfit
    { start := 1, stop := 2, line := 1 } 2
  refine ⟨o, ?_⟩
  rw [Snapshot.result_read, fileLines_ninesPage, Snapshot.walk_cons opens, Snapshot.walk,
    show ((1 + 1 : Nat) : Int) = 2 from rfl, breaks]
  rfl

/-- So does checking a file that holds it, whatever the trace. -/
lemma checkFiles_ninesPage {trace : Text} (scalar : Text.Scalar trace) :
    ∃ o, ∀ journal, ((Audit.checkFiles (Audit.holding (ninesPage (count + 1)) trace).read
      Audit.heldPlan).on journal).1 = .error (.fault (.overlong o)) := by
  obtain ⟨o, breaks⟩ := read_ninesPage long
  refine ⟨o, fun journal => ?_⟩
  rw [Audit.fst_checkFiles_of_holds (Audit.holding_snapshot (scalar_ninesPage (count + 1)))
    (Audit.holding_trace scalar), Audit.outcome, breaks]
  rfl

/-- So does the run that makes this check. -/
lemma run_ninesPage {trace : Text} (scalar : Text.Scalar trace) :
    ∃ o, ∀ room output, run (Audit.holding (ninesPage (count + 1)) trace).read room output
      ["--smaps", "smaps", "--trace", "trace"] [] = .error (.overlong o) := by
  obtain ⟨o, checked⟩ := checkFiles_ninesPage long scalar
  refine ⟨o, fun room output => ?_⟩
  have asked : Invocation.ofArguments ["--smaps", "smaps", "--trace", "trace"] =
      .ok (.check { smaps := some "smaps", trace := some "trace" }) := by decide +kernel
  have run_eq (read : FileReader) :
      run read room output ["--smaps", "smaps", "--trace", "trace"] [] =
        (concludePlan read Audit.heldPlan).bind (·.showOn output) := by
    rw [run, asked]
    rfl
  have breaks := checked (some (journalFor Audit.heldPlan))
  rw [run_eq, concludePlan]
  generalize (Audit.checkFiles _ Audit.heldPlan).on _ = ended at breaks ⊢
  obtain ⟨r, journal⟩ := ended
  cases breaks
  rfl

end overlong

/-- **A page size of one digit too many has no answer.** The check of a snapshot that tells it
breaks off, and so does the run that makes this check, though both files can be read. -/
theorem check_breaks_off_at_overlong_size :
    Audit.heldPlan.snapshot.Usable ∧ Audit.heldPlan.trace.Usable ∧
    ¬Audit.Answered
      ((Audit.checkFiles (Audit.holding (ninesPage (Numeral.maxDigits + 1)) "").read
        Audit.heldPlan).on none).1 ∧
    ¬Exits (run (Audit.holding (ninesPage (Numeral.maxDigits + 1)) "").read 988 .utf8
      ["--smaps", "smaps", "--trace", "trace"] []) := by
  have scalar : Text.Scalar "" := by decide
  refine ⟨⟨_, rfl, by decide +kernel⟩, ⟨_, rfl, by decide +kernel⟩, ?_, ?_⟩
  · obtain ⟨o, checked⟩ := checkFiles_ninesPage (Nat.le_refl Numeral.maxDigits) scalar
    rw [checked]
    nofun
  · obtain ⟨o, runs⟩ := run_ninesPage (Nat.le_refl Numeral.maxDigits) scalar
    rw [runs]
    nofun

end CommandLine

end PageAudit
