import PageAudit.Audit.Files
import PageAudit.Proofs.Audit.Run
import PageAudit.Proofs.Snapshot.Walk

/-!
# The journal is only observed

Nothing that is noted decides anything. `AtAnyJournal` says so of a function of the journal: it has
one value for all journals, and makes the same entries in each. Reading a snapshot is oblivious
(`Snapshot.oblivious_read`), and a run comes to the same at any journal, step by step
(`stepsAtAnyJournal_take`) and as a whole (`stepsAtAnyJournal_run`). `journal_only_observes` is the
main result: it says so of the two stages one after the other (`audit`) and of the check of two
files, and tells what a journal keeps at each threshold.
-/

namespace PageAudit.Audit

open Logged

/-- A function of the journal has one value for all journals, and makes the same entries in each. -/
def AtAnyJournal {β : Type} (f : Option Journal → β × Option Journal) : Prop :=
  ∃ b es, ∀ journal, f journal = (b, Journal.addAll? journal es)

namespace AtAnyJournal

variable {β : Type} {f : Option Journal → β × Option Journal}

/-- The value is the same for any two journals. -/
lemma fst_eq (h : AtAnyJournal f) (journal journal' : Option Journal) :
    (f journal).1 = (f journal').1 := by
  obtain ⟨b, es, h⟩ := h
  rw [h, h]

/-- What a fresh journal keeps at a threshold, told from what is kept at the least. -/
lemma held_eq (h : AtAnyJournal f) (threshold : Level) :
    Journal.held (f (some { threshold })).2 =
      (Journal.held (f (some { threshold := .debug })).2).filter
        (decide <| threshold ≤ ·.level) := by
  obtain ⟨b, es, h⟩ := h
  rw [h, h, Journal.held_addAll?_fresh, Journal.held_addAll?_debug]

end AtAnyJournal

/-! ## Runs -/

namespace Auditor

/-- A step of an auditor at any journal: it comes to the same, leaves the same auditor but for the
journal, and makes the same entries. -/
def StepsAtAnyJournal {β : Type} (f : Auditor → Except Fault β × Auditor) (a : Auditor) : Prop :=
  ∃ r, ∃ b : Auditor, ∃ es, ∀ journal : Option Journal,
    f { a with journal } = (r, { b with journal := Journal.addAll? journal es })

variable {α : Type} (source : Source α)

/-- A claim is judged alike at any journal. -/
lemma stepsAtAnyJournal_advance (violations : List Finding) (claim : Claim) (a : Auditor) :
    StepsAtAnyJournal (·.advance violations claim) a := by
  refine ⟨(a.advance violations claim).1, (a.advance violations claim).2,
    (judge a.mappings claim).notes, fun journal => ?_⟩
  simp only [advance_eq, noted]
  rcases (judge a.mappings claim).result with (f | o) | (_ | _)
  · cases a.failFast <;> rfl
  · rfl
  · rfl
  · rfl

/-- An item is taken alike at any journal. -/
lemma stepsAtAnyJournal_take (item : α) (violations : List Finding) (a : Auditor) :
    StepsAtAnyJournal (take source.read item violations) a := by
  rcases made : (source.read item).result with fault | (_ | claim)
  · refine ⟨.error fault, { a with consumed := a.consumed + 1 }, (source.read item).notes, ?_⟩
    intro journal
    simp only [take_eq, made]
    rfl
  · refine ⟨.ok violations, { a with consumed := a.consumed + 1 }, (source.read item).notes, ?_⟩
    intro journal
    simp only [take_eq, made]
    rfl
  · obtain ⟨r, b, es, advances⟩ :=
      stepsAtAnyJournal_advance violations claim { a with consumed := a.consumed + 1 }
    refine ⟨r, b, (source.read item).notes ++ es, fun journal => ?_⟩
    simp only [take_eq, made, noted]
    rw [Journal.addAll?_append]
    exact advances _

/-- Items are taken alike at any journal, by induction on them. -/
lemma stepsAtAnyJournal_takeAll (items : List α) (violations : List Finding) (a : Auditor) :
    StepsAtAnyJournal (takeAll source.read items violations) a := by
  induction items generalizing violations a with
  | nil => exact ⟨.ok violations, a, [], fun journal => rfl⟩
  | cons item items ih =>
    obtain ⟨r, b, es, takes⟩ := stepsAtAnyJournal_take source item violations a
    cases r with
    | error fault =>
      refine ⟨.error fault, b, es, fun journal => ?_⟩
      rw [takeAll, takes]
    | ok violations' =>
      -- The first item leaves one auditor for all journals, and from it the others go on.
      obtain ⟨r, c, es', goesOn⟩ := ih violations' b
      refine ⟨r, c, es ++ es', fun journal => ?_⟩
      rw [takeAll, takes, Journal.addAll?_append]
      exact goesOn _

/-- A run is alike at any journal. -/
lemma stepsAtAnyJournal_run (items : List α) (a : Auditor) :
    StepsAtAnyJournal (run source.read items) a := by
  obtain ⟨r, b, es, takes⟩ := stepsAtAnyJournal_takeAll source items [] a.reset
  have reset_eq (journal : Option Journal) :
      ({ a with journal } : Auditor).reset = { a.reset with journal } := rfl
  cases r with
  | error fault =>
    refine ⟨.error fault, b, es, fun journal => ?_⟩
    rw [run_eq, reset_eq, takes]
  | ok violations =>
    let closing : Entry := { level := .info, source := "verify", message := b.summary violations }
    refine ⟨(b.conclude violations).1, b, es ++ [closing], fun journal => ?_⟩
    rw [run_eq, reset_eq, takes, Journal.addAll?_append]
    rfl

end Auditor

/-! ## The two stages -/

/-- What reading a snapshot and then running over a trace come to. -/
structure Audited where
  mappings : Except Fault (List Mapping)
  /-- What the run came to; there is none if the snapshot could not be read. -/
  verdict : Option (Except Fault Verdict) := none
  /-- How many lines of the trace were read. -/
  consumed : Nat := 0
  checked : Nat := 0
  tolerated : Nat := 0
  deriving DecidableEq

/-- What a run over a trace comes to. -/
def Audited.ofRun (mappings : List Mapping) (verdict : Except Fault Verdict) (a : Auditor) :
    Audited where
  mappings := .ok mappings
  verdict := some verdict
  consumed := a.consumed
  checked := a.checked
  tolerated := a.tolerated

/-- Reads a snapshot and then runs over a trace, in one journal. -/
def audit (snapshot trace : List Text) (failFast : Bool) (journal : Option Journal) :
    Audited × Option Journal :=
  match (Snapshot.read snapshot).on journal with
  | (.error fault, journal) => ({ mappings := .error fault }, journal)
  | (.ok mappings, journal) =>
    let (verdict, a) := Auditor.runTrace trace { mappings, failFast, journal }
    (.ofRun mappings verdict a, a.journal)

/-- A run over a trace is alike at any journal. -/
lemma stepsAtAnyJournal_runTrace (lines : List Text) (a : Auditor) :
    Auditor.StepsAtAnyJournal (Auditor.runTrace lines) a :=
  Auditor.stepsAtAnyJournal_run Source.trace (lines.zipIdx 1) a

/-- The two stages one after the other. -/
lemma atAnyJournal_audit (snapshot trace : List Text) (failFast : Bool) :
    AtAnyJournal (audit snapshot trace failFast) := by
  obtain ⟨es, reads⟩ := Snapshot.on_read snapshot
  cases ended : Snapshot.walk none 1 snapshot with
  | error fault =>
    refine ⟨{ mappings := .error fault }, es, fun journal => ?_⟩
    simp only [audit, reads, ended]
  | ok mappings =>
    obtain ⟨verdict, a, es', runs⟩ :=
      stepsAtAnyJournal_runTrace trace { mappings, failFast }
    refine ⟨.ofRun mappings verdict a, es ++ es', fun journal => ?_⟩
    simp only [audit, reads, ended, runs, Journal.addAll?_append]
    rfl

/-! ## The check of two files -/

/-- Judging a trace does not look at the journal. -/
lemma oblivious_judgeTrace (mappings : List Mapping) (failFast : Bool) (lines : List Text) :
    (judgeTrace mappings failFast lines).Oblivious := by
  obtain ⟨verdict, a, es, runs⟩ := stepsAtAnyJournal_runTrace lines { mappings, failFast }
  have judges (journal : Option Journal) :
      (judgeTrace mappings failFast lines).on journal =
        (verdict, Journal.addAll? journal es) := by
    show judgeTrace mappings failFast lines journal = _
    simp only [judgeTrace, runs]
  exact .of_on judges

/-- Loading a snapshot does not look at the journal. -/
lemma oblivious_loadSnapshot (read : FileReader) (path : Path) :
    (loadSnapshot read path).Oblivious := by
  refine (oblivious_note ..).bind fun _ _ => ?_
  refine (oblivious_ofExcept _).bind fun lines _ => ?_
  exact (Snapshot.oblivious_read lines).mapError _

/-- Runs over a trace file. -/
def judgeFile (read : FileReader) (path : Path) (mappings : List Mapping) (failFast : Bool) :
    Logged Stop Verdict := do
  let lines ← Logged.ofExcept (readLines read path)
  (judgeTrace mappings failFast lines).mapError .fault

/-- Judging the file of a trace does not look at the journal. -/
lemma oblivious_judgeFile (read : FileReader) (path : Path) (mappings : List Mapping)
    (failFast : Bool) : (judgeFile read path mappings failFast).Oblivious :=
  (oblivious_ofExcept _).bind fun lines _ =>
    (oblivious_judgeTrace mappings failFast lines).mapError _

/-- A check of files reads the snapshot file, and then runs over the trace file. -/
lemma inspect_eq (read : FileReader) (plan : Plan) :
    inspect read plan = (do
      let mappings ← loadSnapshot read plan.snapshot
      Logged.note .info "smaps" ("Parsed " ++ toString mappings.length ++ " ranges")
      judgeFile read plan.trace mappings plan.failFast) := rfl

/-- The pipeline does not look at the journal. -/
lemma oblivious_inspect (read : FileReader) (plan : Plan) : (inspect read plan).Oblivious :=
  (oblivious_loadSnapshot read plan.snapshot).bind fun mappings _ =>
    (oblivious_note ..).bind fun _ _ => oblivious_judgeFile read plan.trace mappings plan.failFast

/-- The result of a check of files is that of the check without a journal, whatever journal its
caller has. -/
lemma fst_checkFiles (read : FileReader) (plan : Plan) (journal : Option Journal) :
    ((checkFiles read plan).on journal).1 = (inspect read plan).result := by
  cases journal with
  | none =>
    show ((inspect read plan).on (some (ownJournal plan))).1 = _
    rw [(oblivious_inspect read plan).on_eq]
  | some journal =>
    show ((inspect read plan).on (some journal)).1 = _
    rw [(oblivious_inspect read plan).on_eq]

/-- **The journal is only observed.** Neither a journal nor its threshold changes what an audit or a
check of files comes to, and what is kept at a threshold is what is kept at the least threshold,
less the entries below it. A plan's debug switch changes nothing either. -/
theorem journal_only_observes (snapshot trace : List Text) (failFast : Bool) (read : FileReader)
    (plan : Plan) :
    (∀ journal journal' : Option Journal,
      (audit snapshot trace failFast journal).1 = (audit snapshot trace failFast journal').1) ∧
    (∀ threshold : Level,
      Journal.held (audit snapshot trace failFast (some { threshold })).2 =
        (Journal.held (audit snapshot trace failFast (some { threshold := .debug })).2).filter
          (decide <| threshold ≤ ·.level)) ∧
    (∀ (debug debug' : Bool) (journal journal' : Option Journal),
      ((checkFiles read { plan with debug }).on journal).1 =
        ((checkFiles read { plan with debug := debug' }).on journal').1) ∧
    (∀ threshold : Level,
      Journal.held ((checkFiles read plan).on (some { threshold })).2 =
        (Journal.held ((checkFiles read plan).on (some { threshold := .debug })).2).filter
          (decide <| threshold ≤ ·.level)) := by
  have audits := atAnyJournal_audit snapshot trace failFast
  have inspects : AtAnyJournal (inspect read plan).on :=
    ⟨_, _, (oblivious_inspect read plan).on_eq⟩
  refine ⟨audits.fst_eq, audits.held_eq, ?_, inspects.held_eq⟩
  intro debug debug' journal journal'
  rw [fst_checkFiles, fst_checkFiles]
  rfl

end PageAudit.Audit
