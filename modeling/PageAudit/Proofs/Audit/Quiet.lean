import PageAudit.Proofs.Audit.Deciding
import PageAudit.Proofs.Audit.Ending
import PageAudit.Proofs.Audit.Observability
import PageAudit.Proofs.Journal.Quiet

/-!
# Warnings tell failures

Two things that an audit notes are no mere steps: the error of a claim that fails, and the warning
of a unit that is none. The claim of such a unit is one of no kilobytes, so it fails too. Reading a
snapshot is quiet (`Snapshot.quiet_read`), and judging a claim is exactly if the claim does not fail
(`quiet_judge_iff`). So a run that comes to a verdict or is stopped by a failure is quiet exactly if
it passes (`quiet_judgeTrace_iff`), and a check of files that passes is quiet
(`quiet_inspect_of_passed`).
-/

namespace PageAudit

open Logged Journal

/-! ## Snapshots -/

namespace Snapshot

namespace Session

-- Whatever a session takes, it notes for debugging only.
variable {s : Session}

/-- A session stays calm that notes something for debugging. -/
lemma calm_note (calm : Calm (held s.journal)) (message : Text) (line : Option Int) :
    Calm (held (s.note .debug message line).journal) :=
  calm.held_add? (show ¬Level.warning ≤ .debug by decide)

/-- A session stays calm that gathers a mapping. -/
lemma calm_gather (calm : Calm (held s.journal)) (closed : Option Mapping) :
    Calm (held (s.gather closed).2.journal) := by
  cases closed with
  | none => exact calm
  | some m =>
    unfold gather add
    dsimp only
    split
    · exact calm
    · split
      · exact calm_note (s := { s with mappings := s.mappings.push m }) calm _ _
      · exact calm

/-- A session stays calm that is fed a line. -/
lemma calm_feed (calm : Calm (held s.journal)) (line : Text) :
    Calm (held (s.feed line).2.journal) := by
  have noted := calm_note (s := { s with line := s.line + 1 }) calm (Text.chomp line)
    (some ((s.line + 1 : Nat) : Int))
  unfold feed
  dsimp only
  split
  · exact noted
  · next state closed _ =>
    let fed := { s with line := s.line + 1 }.note .debug (Text.chomp line)
      (some ((s.line + 1 : Nat) : Int))
    exact calm_gather (s := { fed with state }) noted closed

/-- A session stays calm that is fed some lines. -/
lemma calm_feedAll (calm : Calm (held s.journal)) (lines : List Text) :
    Calm (held (feedAll lines s).2.journal) := by
  induction lines generalizing s with
  | nil => exact calm
  | cons line lines ih =>
    have fed := calm_feed calm line
    rw [feedAll]
    rcases feeds : s.feed line with ⟨fault | ⟨⟩, s'⟩
    · rw [feeds] at fed
      exact fed
    · rw [feeds] at fed
      exact ih fed

/-- A session stays calm that is finished. -/
lemma calm_finish (calm : Calm (held s.journal)) : Calm (held s.finish.2.journal) := by
  unfold finish
  split
  · exact calm
  · next closed _ =>
    have gathered := calm_gather (s := { s with state := none }) calm closed
    split
    · next gathers =>
      rw [gathers] at gathered
      exact gathered
    · next gathers =>
      rw [gathers] at gathered
      exact gathered

end Session

/-- Reading a snapshot is quiet. -/
lemma quiet_read (lines : List Text) : (read lines).Quiet := by
  have fed := Session.calm_feedAll (s := { journal := some { threshold := .debug } })
    calm_nil lines
  show Calm (held (read lines (some { threshold := .debug })).2)
  unfold read
  split
  · next feeds =>
    rw [feeds] at fed
    exact fed
  · next feeds =>
    rw [feeds] at fed
    exact Session.calm_finish fed

end Snapshot

/-! ## Claims -/

/-- A token that spells a page size is turned into it without a warning. -/
lemma PageSize.Spells.quiet_inKB {token : Text} {size : Nat} (spells : Spells token size)
    (line : Option Int) : (inKB token line).Quiet := by
  obtain ⟨digits, unit, kb, token_eq, nonempty, digital, known, -⟩ := spells
  have split : split? token = some (digits, unit) :=
    split?_eq_some_iff.mpr ⟨token_eq, nonempty, digital, isDigit_of_unitKB? known⟩
  unfold inKB
  simp only [split, known]
  exact quiet_ofExcept_bind fun _ _ => ⟨oblivious_pure _, quiet_pure _⟩

/-- A line that makes no claim, or one of a positive page size, is read without a warning. -/
lemma Claim.quiet_read? {line : Text} {number : Nat} {made : Option Claim}
    (read : (Claim.read? line number).result = .ok made)
    (positive : ∀ claim ∈ made, 0 < claim.pageSize) : (Claim.read? line number).Quiet := by
  rw [result_read?] at read
  unfold Claim.read?
  dsimp only
  cases fields : Claim.fields? (Text.chomp line) with
  | none => exact quiet_pure _
  | some both =>
    obtain ⟨address, token⟩ := both
    have sizes : (PageSize.inKB token (some (number : Int))).Quiet := by
      simp only [fields] at read
      cases inKB : (PageSize.inKB token (some (number : Int))).result with
      | error fault =>
        rw [inKB] at read
        cases read
      | ok size =>
        rw [inKB] at read
        cases read
        have positive : 0 < size := Int.natCast_pos.mp (positive _ rfl)
        exact (PageSize.spells_of_inKB inKB positive).quiet_inKB _
    refine quiet_note_bind (by decide) ?_ ?_
    · exact (PageSize.oblivious_inKB ..).bind fun _ _ => oblivious_pure _
    · exact sizes.bind (PageSize.oblivious_inKB ..) fun _ _ => ⟨oblivious_pure _, quiet_pure _⟩

namespace Audit

variable {mappings : List Mapping} {claim : Claim}

/-- Judging a claim is quiet exactly if the claim does not fail. -/
lemma quiet_judge_iff : (judge mappings claim).Quiet ↔ failure? mappings claim = none := by
  rw [← held_warning_eq_nil_iff (oblivious_judge ..)]
  unfold failure?
  cases owned : Mapping.owner? mappings claim.address with
  | none =>
    rw [judge_of_unowned owned]
    unfold judge
    rw [owned]
    exact iff_of_false nofun nofun
  | some owner =>
    rw [judge_eq_of_owner owned]
    unfold judge
    rw [owned]
    simp only [on_bind, on_ofExcept, noteOn, on_note, written]
    -- Where a number cannot be written the claim is neither judged nor anything noted.
    cases owner.describe with
    | error o => exact iff_of_true rfl rfl
    | ok description =>
      cases Numeral.write owner.pageSize with
      | error o => exact iff_of_true rfl rfl
      | ok recorded =>
        simp only [ofNumeral, Except.mapError, Except.bind]
        split
        · exact iff_of_true rfl rfl
        cases Numeral.write claim.pageSize with
        | error o => split <;> exact iff_of_true rfl rfl
        | ok claimed =>
          split
          · exact iff_of_true rfl rfl
          · exact iff_of_false (List.cons_ne_nil _ _) (Option.some_ne_none _)

/-- A claim that holds is one of a positive page size. -/
lemma pageSize_pos_of_judge_eq_ok {outcome : Outcome}
    (holds : (judge mappings claim).result = .ok outcome) : 0 < claim.pageSize := by
  obtain ⟨owner, -, same | ⟨below, -⟩⟩ := of_judge_eq_ok holds
  · have := owner.pageSize_pos
    omega
  · omega

/-! ## Runs -/

/-- What is noted of lines that are read and of claims that hold is calm. -/
lemma calm_transcript {items : List (Text × Nat)} (readable : Source.trace.fault? items = none)
    (holds : ∀ claim ∈ Source.trace.claims items,
      ∃ outcome, (judge mappings claim).result = .ok outcome) :
    Calm (Source.trace.transcript mappings items) := by
  induction items with
  | nil => exact calm_nil
  | cons item items ih =>
    rw [Source.transcript, calm_append_iff]
    rcases made : (Source.trace.read item).result with fault | (_ | claim) <;>
      simp only [Source.fault?, Source.claims, made] at readable holds ⊢
    · cases readable
    · exact ⟨Claim.quiet_read? made (by simp), ih readable holds⟩
    · rw [List.forall_mem_cons] at holds
      obtain ⟨⟨outcome, judged⟩, holds⟩ := holds
      refine ⟨Claim.quiet_read? made ?_, calm_append_iff.mpr ⟨?_, ih readable holds⟩⟩
      · rintro _ ⟨⟩
        exact pageSize_pos_of_judge_eq_ok judged
      · exact quiet_judge_iff.mpr (holds_iff.mp ⟨outcome, judged⟩).2

/-- What is noted of a claim that fails is not calm. -/
lemma not_calm_transcript {α : Type} (source : Source α) {items : List α}
    (failed : failures mappings (source.claims items) ≠ []) :
    ¬Calm (source.transcript mappings items) := by
  obtain ⟨first, rest, failed⟩ := List.exists_cons_of_ne_nil failed
  obtain ⟨before, item, claim, after, rfl, readable, -, made, fails⟩ :=
    source.exists_first_failure failed
  rw [Source.transcript_append _ _ readable, Source.transcript]
  simp only [made, calm_append_iff]
  rintro ⟨-, -, judged, -⟩
  cases fails.symm.trans (quiet_judge_iff.mp judged)

section runs

variable {failFast : Bool} {lines : List Text}

/-- The run of a trace that comes to a verdict is quiet exactly if the verdict passes. -/
lemma quiet_judgeTrace_iff {verdict : Verdict}
    (ends : (judgeTrace mappings failFast lines).result = .ok verdict) :
    (judgeTrace mappings failFast lines).Quiet ↔ verdict.passed = true := by
  let a : Auditor := { mappings, failFast, journal := some { threshold := .debug } }
  let items := lines.zipIdx 1
  obtain ⟨readable, judgeable, unstopped, rfl⟩ :=
    Auditor.of_run_eq_ok Source.trace (a := { mappings, failFast }) ends
  obtain ⟨closing, info, journal⟩ :=
    Auditor.journal_unstopped Source.trace items a judgeable unstopped
  have notes_eq : (judgeTrace mappings failFast lines).notes =
      Source.trace.transcript mappings items ++ closing := by
    rw [← held_addAll?_debug (_ ++ closing)]
    exact congrArg held journal
  -- The closing line sums a run up, whether it passes or not, so it is no warning.
  have calm_closing : Calm closing := fun e mem => by
    rw [info e mem]
    decide
  rw [Quiet, notes_eq, calm_append_iff, Verdict.passed, List.isEmpty_iff]
  constructor
  · rintro ⟨calm, -⟩
    by_contra failed
    exact not_calm_transcript Source.trace failed calm
  · intro unfailing
    refine ⟨calm_transcript readable fun claim mem => ?_, calm_closing⟩
    exact holds_iff.mpr ⟨judgeable claim mem, List.filterMap_eq_nil_iff.mp unfailing claim mem⟩

/-- The run of a trace that a failure stops is not quiet. -/
lemma not_quiet_judgeTrace {f : Finding} (is_failure : f.IsFailure)
    (ends : (judgeTrace mappings failFast lines).result = .error (.finding f)) :
    ¬(judgeTrace mappings failFast lines).Quiet := by
  let a : Auditor := { mappings, failFast }
  have stopped : a.runTrace lines = (.error (.finding f), (a.runTrace lines).2) :=
    Prod.ext ends rfl
  obtain ⟨before, item, after, split, readable, judgeable, unfailing, -, decided⟩ :=
    Auditor.of_run_eq_finding Source.trace stopped
  obtain ⟨unreadable, -⟩ | ⟨stops, claim, made, fails⟩ := decided
  · -- A line that cannot be read is a defect.
    have decides : Decides mappings false item.1 item.2 f := decides_of_read?_eq_error unreadable
    cases decides with
    | malformed => cases is_failure
    | failing never => cases never
  · -- The last that is noted is the judgement of the claim that fails.
    have stopped := Auditor.run_stopped Source.trace
      (a := { a with journal := some { threshold := .debug } }) stops readable judgeable
      (unfailing stops) made fails after
    have notes_eq : (judgeTrace mappings failFast lines).notes =
        Source.trace.transcript mappings before ++
          ((Source.trace.read item).notes ++ (judge mappings claim).notes) := by
      rw [← held_addAll?_debug (_ ++ (_ ++ _)), addAll?_append]
      have journal := congrArg (held ·.2.journal) stopped
      rw [← split] at journal
      exact journal
    rw [Quiet, notes_eq, calm_append_iff, calm_append_iff]
    rintro ⟨-, -, judged⟩
    cases fails.symm.trans (quiet_judge_iff.mp judged)

end runs

/-! ## Checks of files -/

/-- No warning is given for a snapshot that is loaded. -/
lemma quiet_loadSnapshot (read : FileReader) (path : Path) : (loadSnapshot read path).Quiet := by
  have reads (lines : List Text) :
      ((Snapshot.read lines).mapError Stop.fault).Oblivious ∧
        ((Snapshot.read lines).mapError Stop.fault).Quiet :=
    ⟨(Snapshot.oblivious_read lines).mapError _, Snapshot.quiet_read lines⟩
  refine quiet_note_bind (by decide) ?_ ?_
  · exact (oblivious_ofExcept _).bind fun lines _ => (reads lines).1
  · exact quiet_ofExcept_bind fun lines _ => reads lines

/-- No warning is given for the file of a trace that passes. -/
lemma quiet_judgeFile_of_passed {read : FileReader} {path : Path} {failFast : Bool}
    {verdict : Verdict} (ends : (judgeFile read path mappings failFast).result = .ok verdict)
    (passed : verdict.passed = true) : (judgeFile read path mappings failFast).Quiet := by
  refine quiet_ofExcept_bind fun lines reads => ?_
  refine ⟨(oblivious_judgeTrace mappings failFast lines).mapError _, ?_⟩
  rw [judgeFile, result_ofExcept_bind, reads] at ends
  simp only [Except.bind, result_mapError] at ends
  cases judges : (judgeTrace mappings failFast lines).result with
  | error fault =>
    rw [judges] at ends
    cases ends
  | ok verdict' =>
    rw [judges] at ends
    cases ends
    exact quiet_mapError_iff.mpr ((quiet_judgeTrace_iff judges).mpr passed)

/-- A check of files that passes is quiet. -/
lemma quiet_inspect_of_passed {read : FileReader} {plan : Plan} {verdict : Verdict}
    (ends : (inspect read plan).result = .ok verdict) (passed : verdict.passed = true) :
    (inspect read plan).Quiet := by
  rw [inspect_eq, result_bind (oblivious_loadSnapshot ..)] at ends
  rw [inspect_eq]
  refine (quiet_loadSnapshot read plan.snapshot).bind (oblivious_loadSnapshot ..) ?_
  intro mappings loads
  have judges := oblivious_judgeFile read plan.trace mappings plan.failFast
  simp only [loads, result_note_bind, Except.bind] at ends
  refine ⟨(oblivious_note ..).bind fun _ _ => judges, quiet_note_bind (by decide) judges ?_⟩
  exact quiet_judgeFile_of_passed ends passed

end Audit

end PageAudit
