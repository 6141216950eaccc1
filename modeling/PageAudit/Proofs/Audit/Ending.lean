import PageAudit.Proofs.Audit.Deciding
import PageAudit.Proofs.Claim.Line
import PageAudit.Proofs.Claim.Token
import PageAudit.Proofs.Snapshot.Segmentation

/-!
# How checks end

If no size numeral is too long, reading a snapshot comes to its mappings or to a defect
(`read_ends`), and a run over a trace `Ends` with a verdict, with a defect or, if a failure stops
it, with the failure of a claim (`runTrace_ends`). An audit of lines is these two one after the
other (`outcome_ends`), and so is a check of files, which opens the trace once the snapshot is read
(`result_inspect`).

Of a line only what is left without the line feeds at its end counts, both in a snapshot
(`result_read_map`) and in a trace (`runTrace_map`).
-/

namespace PageAudit

open Logged

/-! ## Kinds of findings -/

namespace Finding

/-- The finding is a defect of a snapshot or of a trace. -/
def IsDefect : Finding → Prop
  | .snapshot .. | .trace .. => True
  | .unowned .. | .mismatch .. | .stated .. => False

/-- The finding is the failure of a claim. -/
def IsFailure : Finding → Prop
  | .unowned .. | .mismatch .. => True
  | .snapshot .. | .trace .. | .stated .. => False

/-- A failure of a claim is no defect of the texts. -/
lemma IsFailure.not_isDefect {f : Finding} (is_failure : f.IsFailure) : ¬f.IsDefect := by
  cases f with
  | unowned | mismatch => exact id
  | snapshot | trace | stated => cases is_failure

end Finding

/-- What is wrong with a claim is a failure. -/
lemma Audit.Breaks.isFailure {mappings : List Mapping} {claim : Claim} {f : Finding}
    (breaks : Breaks mappings claim f) : f.IsFailure := by
  cases breaks with
  | unowned | mismatch => exact trivial

/-! ## Line feeds at the end of a line -/

section chomped

variable {f : Text → Text} (same : ∀ line, Text.chomp (f line) = Text.chomp line)

include same

/-- A snapshot is read the same with other line feeds at the ends of its lines. -/
lemma Snapshot.result_read_map (lines : List Text) :
    (read (lines.map f)).result = (read lines).result := by
  refine result_read_congr ?_
  rw [List.map_map]
  refine List.map_congr_left fun line _ => ?_
  show LineKind.ofLine (f line) = _
  rw [LineKind.ofLine, same, LineKind.ofLine]

/-- A run over a trace is the same with other line feeds at the ends of its lines. -/
lemma Audit.Auditor.runTrace_map (lines : List Text) (a : Auditor) :
    a.runTrace (lines.map f) = a.runTrace lines := by
  have read_eq (line : Text) (number : Nat) :
      Claim.read? (f line) number = Claim.read? line number := by
    simp only [Claim.read?, same]
  have takeAll_eq (number : Nat) (violations : List Finding) (a : Auditor) :
      takeAll Source.trace.read ((lines.map f).zipIdx number) violations a =
        takeAll Source.trace.read (lines.zipIdx number) violations a := by
    induction lines generalizing number violations a with
    | nil => rfl
    | cons line lines ih =>
      have take_eq : take Source.trace.read (f line, number) violations a =
          take Source.trace.read (line, number) violations a := by
        simp only [take, Source.trace, read_eq]
      simp only [List.map_cons, List.zipIdx_cons, takeAll, take_eq]
      rcases take Source.trace.read (line, number) violations a with ⟨fault | violations', b⟩
      · rfl
      · exact ih (number + 1) violations' b
  show a.run Source.trace.read _ = a.run Source.trace.read _
  rw [run_eq, run_eq, takeAll_eq]

end chomped

/-! ## Readings without long size numerals -/

/-- A snapshot that fits is read, or has a defect. -/
lemma Snapshot.read_ends {lines : List Text} (fits : ∀ s ∈ sections lines, s.Fits) :
    (∃ mappings, (read lines).result = .ok mappings) ∨
      ∃ f : Finding, f.IsDefect ∧ (read lines).result = .error (.finding f) := by
  have decided := decided_read fits
  unfold Decided firstFailing at decided
  cases failing : (checks (sections lines)).find? (!·.passes) with
  | some c =>
    rw [failing] at decided
    exact .inr ⟨.snapshot c.defect (some c.line), trivial, decided⟩
  | none =>
    rw [failing] at decided
    obtain ⟨mappings, reads, -⟩ := decided
    exact .inl ⟨mappings, reads⟩

/-- A snapshot that fits has no faults but defects. -/
lemma Snapshot.isDefect_of_read {lines : List Text} {fault : Fault}
    (fits : ∀ s ∈ sections lines, s.Fits) (unread : (read lines).result = .error fault) :
    ∃ f : Finding, f.IsDefect ∧ fault = .finding f := by
  obtain ⟨mappings, reads⟩ | ⟨f, is_defect, unreadable⟩ := read_ends fits
  · cases reads.symm.trans unread
  · cases unreadable.symm.trans unread
    exact ⟨f, is_defect, rfl⟩

namespace Audit

/-! ## Runs without long size numerals -/

/-- How an audit ends: with a verdict, with a defect of one of its texts or, if the first failure is
to stop it, with the failure of a claim. -/
inductive Ends (failFast : Bool) : Except Fault Verdict → Prop
  | verdict (verdict : Verdict) : Ends failFast (.ok verdict)
  | defect {f : Finding} (is_defect : f.IsDefect) : Ends failFast (.error (.finding f))
  | failure {f : Finding} (stops : failFast = true) (is_failure : f.IsFailure) :
    Ends failFast (.error (.finding f))

namespace Source

variable {α : Type} (source : Source α)

/-- The fault of some items is that of one of them. -/
lemma exists_of_fault?_eq_some {items : List α} {fault : Fault}
    (h : source.fault? items = some fault) :
    ∃ item ∈ items, (source.read item).result = .error fault := by
  induction items with
  | nil => cases h
  | cons item items ih =>
    rw [fault?] at h
    cases made : (source.read item).result with
    | ok made' =>
      rw [made] at h
      obtain ⟨item', mem, unreadable⟩ := ih h
      exact ⟨item', List.mem_cons_of_mem _ mem, unreadable⟩
    | error fault' =>
      rw [made] at h
      cases h
      exact ⟨item, List.mem_cons_self, made⟩

/-- The claims of some items are made by them. -/
lemma exists_of_mem_claims {items : List α} {claim : Claim} (h : claim ∈ source.claims items) :
    ∃ item ∈ items, (source.read item).result = .ok (some claim) := by
  induction items with
  | nil => cases h
  | cons item items ih =>
    rw [claims] at h
    rcases made : (source.read item).result with fault | (_ | claim') <;> simp only [made] at h
    · cases h
    · obtain ⟨item', mem, made'⟩ := ih h
      exact ⟨item', List.mem_cons_of_mem _ mem, made'⟩
    · obtain rfl | h := List.mem_cons.mp h
      · exact ⟨item, List.mem_cons_self, made⟩
      · obtain ⟨item', mem, made'⟩ := ih h
        exact ⟨item', List.mem_cons_of_mem _ mem, made'⟩

end Source

namespace Auditor

/-- How a run over judgeable claims ends: with a verdict, with the fault of its source, or with a
failure that stops it. -/
lemma run_ends {α : Type} (source : Source α) (items : List α) (a : Auditor)
    (judgeable : ∀ claim ∈ source.claims items, Judgeable a.mappings claim) :
    (∃ verdict, (a.run source.read items).1 = .ok verdict) ∨
      (∃ fault, source.fault? items = some fault ∧
        (a.run source.read items).1 = .error fault) ∨
      (a.failFast = true ∧ ∃ claim ∈ source.claims items, ∃ f,
        failure? a.mappings claim = some f ∧
          (a.run source.read items).1 = .error (.finding f)) := by
  by_cases unstopped : a.failFast = true → failures a.mappings (source.claims items) = []
  · rw [run_unstopped source items a judgeable unstopped]
    cases readable : source.fault? items with
    | none => exact .inl ⟨_, rfl⟩
    | some fault => exact .inr (.inl ⟨fault, rfl, rfl⟩)
  · rw [Classical.not_imp] at unstopped
    obtain ⟨stops, failed⟩ := unstopped
    obtain ⟨first, rest, failed⟩ := List.exists_cons_of_ne_nil failed
    obtain ⟨before, item, claim, after, rfl, readable, unfailing, made, fails⟩ :=
      source.exists_first_failure failed
    rw [Source.claims_append_cons after readable made] at judgeable ⊢
    rw [run_stopped source stops readable
      (fun claim mem => judgeable claim (List.mem_append_left _ mem)) unfailing made fails]
    exact .inr (.inr ⟨stops, claim, List.mem_append_right _ List.mem_cons_self, first, fails, rfl⟩)

section

variable {lines : List Text} (fits : ∀ line ∈ lines, Claim.SizeFits line)

include fits

/-- The claims of a trace that fits are judgeable. -/
lemma judgeable_of_fits {mappings : List Mapping}
    (recorded : ∀ m ∈ mappings, m.pageSize < Numeral.writeBound) :
    ∀ claim ∈ Source.trace.claims (lines.zipIdx 1), Judgeable mappings claim := by
  intro claim mem
  obtain ⟨item, item_mem, made⟩ := Source.exists_of_mem_claims _ mem
  obtain ⟨_, made', claimed⟩ | ⟨defect, unreadable⟩ :=
    (fits item.1 (List.fst_mem_of_mem_zipIdx item_mem)).read?_ends item.2
  · cases made'.symm.trans made
    exact judgeable_of_lt recorded (claimed claim rfl)
  · cases unreadable.symm.trans made

/-- The fault of a trace that fits is a defect of one of its lines. -/
lemma trace_of_fits {fault : Fault}
    (unreadable : Source.trace.fault? (lines.zipIdx 1) = some fault) :
    ∃ defect number, fault = .finding (.trace defect number) := by
  obtain ⟨item, item_mem, unreadable⟩ := Source.exists_of_fault?_eq_some _ unreadable
  obtain ⟨_, made, -⟩ | ⟨defect, unreadable'⟩ :=
    (fits item.1 (List.fst_mem_of_mem_zipIdx item_mem)).read?_ends item.2
  · cases made.symm.trans unreadable
  · cases unreadable'.symm.trans unreadable
    exact ⟨defect, _, rfl⟩

/-- A trace whose numerals fit is unreadable only for a defect. -/
lemma isDefect_of_fits {fault : Fault}
    (unreadable : Source.trace.fault? (lines.zipIdx 1) = some fault) :
    ∃ f : Finding, f.IsDefect ∧ fault = .finding f := by
  obtain ⟨defect, number, rfl⟩ := trace_of_fits fits unreadable
  exact ⟨.trace defect number, trivial, rfl⟩

/-- How a run over a trace that fits ends. -/
lemma runTrace_ends {a : Auditor} (recorded : ∀ m ∈ a.mappings, m.pageSize < Numeral.writeBound) :
    Ends a.failFast (a.runTrace lines).1 := by
  unfold runTrace
  obtain ⟨verdict, ends⟩ | ⟨fault, unreadable, ends⟩ | ⟨stops, claim, mem, f, fails, ends⟩ :=
    run_ends Source.trace (lines.zipIdx 1) a (judgeable_of_fits fits recorded)
  · exact ends ▸ .verdict verdict
  · obtain ⟨f, is_defect, rfl⟩ := isDefect_of_fits fits unreadable
    exact ends ▸ .defect is_defect
  · exact ends ▸ .failure stops (breaks_of_failure? fails).isFailure

end

end Auditor

/-! ## Audits of lines -/

/-- What an audit of lines comes to: the snapshot is read first, then a run goes over the trace. -/
def outcome (snapshot trace : List Text) (failFast : Bool) : Except Fault Verdict :=
  match (Snapshot.read snapshot).result with
  | .error fault => .error fault
  | .ok mappings => (Auditor.runTrace trace { mappings, failFast }).1

/-- An audit comes to the same with other line feeds at the ends of its lines. -/
lemma outcome_map {f : Text → Text} (same : ∀ line, Text.chomp (f line) = Text.chomp line)
    (snapshot trace : List Text) (failFast : Bool) :
    outcome (snapshot.map f) (trace.map f) failFast = outcome snapshot trace failFast := by
  simp only [outcome, Snapshot.result_read_map same, Auditor.runTrace_map same]

/-- How an audit of lines that fit ends. -/
lemma outcome_ends {snapshot trace : List Text}
    (snapshot_fits : ∀ s ∈ Snapshot.sections snapshot, s.Fits)
    (trace_fits : ∀ line ∈ trace, Claim.SizeFits line) (failFast : Bool) :
    Ends failFast (outcome snapshot trace failFast) := by
  unfold outcome
  obtain ⟨mappings, reads⟩ | ⟨f, is_defect, unreadable⟩ := Snapshot.read_ends snapshot_fits
  · rw [reads]
    have recorded := Snapshot.lt_writeBound_of_read reads
    exact Auditor.runTrace_ends trace_fits (a := { mappings, failFast }) recorded
  · rw [unreadable]
    exact .defect is_defect

/-! ## Checks of files -/

/-- A snapshot is loaded by reading the lines of its file. -/
lemma result_loadSnapshot (read : FileReader) (path : Path) :
    (loadSnapshot read path).result =
      (readLines read path).bind fun snapshot =>
        (Snapshot.read snapshot).result.mapError .fault := by
  unfold loadSnapshot
  rw [result_note_bind, result_ofExcept_bind]
  rfl

/-- What a check of files comes to: the trace is opened once the snapshot is read. -/
lemma result_inspect (read : FileReader) (plan : Plan) :
    (inspect read plan).result =
      (readLines read plan.snapshot).bind fun snapshot =>
        ((Snapshot.read snapshot).result.mapError .fault).bind fun mappings =>
          (readLines read plan.trace).bind fun trace =>
            (Auditor.runTrace trace { mappings, failFast := plan.failFast }).1.mapError .fault := by
  unfold inspect
  rw [result_bind (oblivious_loadSnapshot ..), result_loadSnapshot]
  simp only [result_note_bind, result_ofExcept_bind]
  cases readLines read plan.snapshot <;> rfl

/-- A check of files that can be read comes to what the audit of their lines comes to. -/
lemma result_inspect_of_read {read : FileReader} {plan : Plan} {snapshot trace : List Text}
    (snapshot_read : readLines read plan.snapshot = .ok snapshot)
    (trace_read : readLines read plan.trace = .ok trace) :
    (inspect read plan).result = (outcome snapshot trace plan.failFast).mapError .fault := by
  rw [result_inspect, snapshot_read, trace_read]
  unfold outcome
  cases reads : (Snapshot.read snapshot).result <;> simp only [Except.bind, reads, Except.mapError]

end Audit

end PageAudit
