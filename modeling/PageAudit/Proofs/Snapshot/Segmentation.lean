import PageAudit.Proofs.Snapshot.Walk

/-!
# Snapshots by their sections

A snapshot is cut at its headers: a `Section` is a header with the lines up to the next header or to
the end, and the lines before the first header lie in none. What a section comes to is read off it
whole: the last of its page sizes and the last of its lists of flags (`Section.record`).

`read_eq_segmentation` is the main result. Reading a snapshot is decided by the `checks` of its
sections, and if all of them pass there is one mapping for each section. The addresses of a header
are checked before the record of the section before it.
-/

namespace PageAudit.Snapshot

/-- Whether a line is no header. -/
def isInner (line : Text) : Bool := (header? (Text.chomp line)).isNone

/-- A header and the lines from it up to the next header. -/
structure Section where
  /-- The number of the header. -/
  line : Nat
  /-- The addresses in the header, as they are spelled. -/
  start : Text
  stop : Text
  /-- The lines below the header. -/
  body : List Text
  deriving DecidableEq

/-- The sections of some lines, the first of which has this number. -/
def sectionsFrom (number : Nat) : List Text → List Section
  | [] => []
  | line :: lines =>
    match header? (Text.chomp line) with
    | some (start, stop) =>
      { line := number, start, stop, body := lines.takeWhile isInner } ::
        sectionsFrom (number + 1) lines
    | none => sectionsFrom (number + 1) lines

/-- The sections of a snapshot. -/
def sections (lines : List Text) : List Section := sectionsFrom 1 lines

namespace Section

/-- The page sizes that a section tells, in their order. -/
def pageSizes (s : Section) : List Nat :=
  s.body.filterMap fun line => (pageSize? (Text.chomp line)).map Numeral.value

/-- The lists of flags that a section tells, in their order. -/
def flagLists (s : Section) : List (List Text) :=
  s.body.filterMap fun line => flags? (Text.chomp line)

/-- The record that the header opens. -/
def header (s : Section) : Record where
  start := Numeral.hexValue s.start
  stop := Numeral.hexValue s.stop
  line := s.line

/-- What a section comes to: its last page size and its last list of flags count. -/
def record (s : Section) : Record where
  start := Numeral.hexValue s.start
  stop := Numeral.hexValue s.stop
  line := s.line
  pageSize := s.pageSizes.getLast?.map fun size : Nat => (size : Int)
  flags := s.flagLists.getLast?.getD []

/-- The checks of the header: its first address, then its second. -/
def addressChecks (s : Section) : List Check :=
  Snapshot.addressChecks s.start s.line ++ Snapshot.addressChecks s.stop s.line

/-- The page sizes in the section are not too long to be read. -/
def Fits (s : Section) : Prop := ∀ line ∈ s.body, SizeFits line

end Section

/-- The checks from an open record on, with the sections after it: the addresses of the next header
are checked before the record. -/
def checksAfter (r : Record) : List Section → List Check
  | [] => r.checks
  | s :: ss => s.addressChecks ++ (r.checks ++ checksAfter s.record ss)

/-- The checks of a snapshot. -/
def checks : List Section → List Check
  | [] => []
  | s :: ss => s.addressChecks ++ checksAfter s.record ss

/-! ## From one line to the next -/

/-- A header begins a section with the inner lines that follow it. -/
lemma sectionsFrom_header {line start stop : Text}
    (h : header? (Text.chomp line) = some (start, stop)) (number : Nat) (lines : List Text) :
    sectionsFrom number (line :: lines) =
      { line := number, start, stop, body := lines.takeWhile isInner } ::
        sectionsFrom (number + 1) lines := by
  simp only [sectionsFrom, h]

/-- A line before the first header is in no section. -/
lemma sectionsFrom_inner {line : Text} (h : header? (Text.chomp line) = none) (number : Nat)
    (lines : List Text) :
    sectionsFrom number (line :: lines) = sectionsFrom (number + 1) lines := by
  simp only [sectionsFrom, h]

/-- A record that is told the lines of a body takes the last page size and the last flags in it. -/
lemma foldl_told (body : List Text) (r : Record) :
    body.foldl Record.told r =
      { r with
        pageSize := ((body.filterMap fun line =>
          (pageSize? (Text.chomp line)).map Numeral.value).getLast?.map fun size : Nat =>
            (size : Int)).or r.pageSize
        flags := (body.filterMap fun line => flags? (Text.chomp line)).getLast?.getD r.flags } := by
  induction body generalizing r with
  | nil => rfl
  | cons line body ih =>
    rw [List.foldl_cons, ih]
    cases size : pageSize? (Text.chomp line) with
    | some digits =>
      -- No line tells both, so this one leaves the flags as they were.
      have noFlags := flags?_of_pageSize? size
      simp only [Record.told, size, noFlags, List.filterMap_cons, Option.map_some,
        List.getLast?_cons]
      cases (body.filterMap fun line =>
        (pageSize? (Text.chomp line)).map Numeral.value).getLast? <;> rfl
    | none =>
      cases flags : flags? (Text.chomp line) with
      | some words =>
        simp only [Record.told, size, flags, List.filterMap_cons, Option.map_none,
          List.getLast?_cons]
        cases (body.filterMap fun line => flags? (Text.chomp line)).getLast? <;> rfl
      | none => simp only [Record.told, size, flags, List.filterMap_cons, Option.map_none]

/-- What a section comes to is what its header is once it was told the body. -/
lemma foldl_told_header (s : Section) : s.body.foldl Record.told s.header = s.record := by
  rw [foldl_told]
  simp only [Section.header, Option.or_none]
  rfl

/-- A mapping that a section describes has the last page size in it. -/
lemma Section.getLast?_pageSizes {s : Section} {m : Mapping} (describes : s.record.Describes m) :
    s.pageSizes.getLast? = some m.pageSize := by
  obtain ⟨size, last, same⟩ := Option.map_eq_some_iff.mp describes.pageSize
  rw [last, Int.ofNat.inj same]

/-! ## Decided by the checks -/

/-- The mappings are those of the sections, one for each and in their order. -/
def Describe (ss : List Section) (mappings : List Mapping) : Prop :=
  List.Forall₂ (fun s m => s.record.Describes m) ss mappings

/-- The two addresses of a section are decided by its address checks, and if these pass, its header
opens a sound record. -/
lemma decided_addresses (s : Section) {β : Type} {checks' : List Check} {Told' : β → Prop}
    {f : Int → Int → Except Fault β}
    (hf : s.header.Sound →
      Decided checks' Told' (f (Numeral.hexValue s.start) (Numeral.hexValue s.stop))) :
    Decided (s.addressChecks ++ checks') Told' (do
      let start ← address s.start s.line
      let stop ← address s.stop s.line
      f start stop) := by
  rw [Section.addressChecks, List.append_assoc]
  refine (decided_address s.start s.line).bind ?_
  rintro _ ⟨rfl, start_mem⟩
  refine (decided_address s.stop s.line).bind ?_
  rintro _ ⟨rfl, stop_mem⟩
  exact hf ⟨start_mem, stop_mem, nofun⟩

/-- A walk from an open record is decided by the checks from there on. -/
lemma decided_walk_open {r : Record} (sound : r.Sound) (number : Nat) (lines : List Text)
    (inner : ∀ line ∈ lines.takeWhile isInner, SizeFits line)
    (fits : ∀ s ∈ sectionsFrom number lines, s.Fits) :
    let closing := (lines.takeWhile isInner).foldl Record.told r
    Decided (checksAfter closing (sectionsFrom number lines))
      (fun mappings => ∃ m rest, mappings = m :: rest ∧ closing.Describes m ∧
        Describe (sectionsFrom number lines) rest)
      (walk (some r) number lines) := by
  induction lines generalizing r number with
  | nil =>
    show Decided r.checks _ ((State.close (some r)).map Option.toList)
    apply (decided_closeOpen sound).map
    rintro _ ⟨m, rfl, describes⟩
    exact ⟨m, [], rfl, describes, .nil⟩
  | cons line lines ih =>
    intro closing
    cases h : header? (Text.chomp line) with
    | some addresses =>
      -- The header closes the record, so nothing more is told to it.
      obtain ⟨start, stop⟩ := addresses
      have closing_eq : closing = r := by simp [closing, isInner, h]
      rw [sectionsFrom_header h] at fits ⊢
      rw [closing_eq, checksAfter, walk, step_header h]
      simp only [bind_assoc, pure_bind]
      let s : Section := ⟨number, start, stop, lines.takeWhile isInner⟩
      apply decided_addresses s
      intro opened
      apply (decided_closeOpen sound).bind
      rintro _ ⟨m, rfl, describes⟩
      have rest := ih opened (number + 1) (fits s List.mem_cons_self)
        (fun s mem => fits s (List.mem_cons_of_mem _ mem))
      rw [foldl_told_header s] at rest
      apply rest.map
      rintro _ ⟨m', rest, rfl, describes', describe⟩
      exact ⟨m, m' :: rest, rfl, describes, .cons describes' describe⟩
    | none =>
      have inner_line : isInner line = true := by simp [isInner, h]
      have closing_eq : closing = (lines.takeWhile isInner).foldl Record.told (r.told line) := by
        simp [closing, inner_line]
      rw [sectionsFrom_inner h] at fits ⊢
      simp only [List.takeWhile_cons, inner_line, if_true, List.mem_cons, forall_eq_or_imp] at inner
      rw [closing_eq, walk_cons (step_told h inner.1 r number)]
      have rest := ih (sound.told inner.1) (number + 1) inner.2 fits
      apply rest.map
      intro mappings described
      exact described

/-- A walk over lines is decided by the checks of their sections. -/
lemma decided_walk (number : Nat) (lines : List Text)
    (fits : ∀ s ∈ sectionsFrom number lines, s.Fits) :
    Decided (checks (sectionsFrom number lines)) (Describe (sectionsFrom number lines))
      (walk none number lines) := by
  induction lines generalizing number with
  | nil => exact ⟨[], rfl, .nil⟩
  | cons line lines ih =>
    cases h : header? (Text.chomp line) with
    | some addresses =>
      obtain ⟨start, stop⟩ := addresses
      rw [sectionsFrom_header h] at fits ⊢
      rw [checks, walk, step_header h]
      simp only [bind_assoc, pure_bind]
      let s : Section := ⟨number, start, stop, lines.takeWhile isInner⟩
      apply decided_addresses s
      intro opened
      have rest := decided_walk_open opened (number + 1) lines (fits s List.mem_cons_self)
        (fun s mem => fits s (List.mem_cons_of_mem _ mem))
      rw [foldl_told_header s] at rest
      apply rest.map
      rintro _ ⟨m, rest, rfl, describes, describe⟩
      exact .cons describes describe
    | none =>
      rw [sectionsFrom_inner h] at fits ⊢
      rw [walk_cons (step_idle h number)]
      apply (ih (number + 1) fits).map
      intro mappings described
      exact described

/-- A walk that comes to its end could read the page sizes in every section. -/
lemma fits_of_walk {state : State} {number : Nat} {lines : List Text} {mappings : List Mapping}
    (ok : walk state number lines = .ok mappings) :
    (state ≠ none → ∀ line ∈ lines.takeWhile isInner, SizeFits line) ∧
      ∀ s ∈ sectionsFrom number lines, s.Fits := by
  induction lines generalizing state number mappings with
  | nil => exact ⟨nofun, nofun⟩
  | cons line lines ih =>
    obtain ⟨state', closed, rest, steps, ok', -⟩ := of_walk_cons ok
    obtain ⟨inner, fits⟩ := ih ok'
    obtain ⟨start, stop, a, b, h, -, -, -, rfl⟩ | ⟨h, -, ⟨rfl, -⟩ | ⟨r, -, fits_line, rfl⟩⟩ :=
      step_cases steps
    · rw [sectionsFrom_header h]
      refine ⟨?_, ?_⟩
      · simp [isInner, h]
      · intro s mem
        obtain rfl | mem := List.mem_cons.mp mem
        · exact inner nofun
        · exact fits s mem
    · rw [sectionsFrom_inner h]
      exact ⟨fun opened => absurd rfl opened, fits⟩
    · rw [sectionsFrom_inner h]
      refine ⟨fun _ => ?_, fits⟩
      have inner_line : isInner line = true := by simp [isInner, h]
      simp only [List.takeWhile_cons, inner_line, if_true, List.mem_cons, forall_eq_or_imp]
      exact ⟨fits_line, inner nofun⟩

/-! ## Reading a snapshot -/

/-- The lines of a section are lines of the snapshot. -/
lemma mem_of_mem_body {number : Nat} {lines : List Text} {s : Section} {line : Text}
    (section_mem : s ∈ sectionsFrom number lines) (mem : line ∈ s.body) : line ∈ lines := by
  induction lines generalizing number with
  | nil => cases section_mem
  | cons first lines ih =>
    unfold sectionsFrom at section_mem
    split at section_mem
    · obtain rfl | section_mem := List.mem_cons.mp section_mem
      · exact List.mem_cons_of_mem _ ((List.takeWhile_prefix _).subset mem)
      · exact List.mem_cons_of_mem _ (ih section_mem)
    · exact List.mem_cons_of_mem _ (ih section_mem)

/-- The sections of a snapshot fit if its lines do. -/
lemma fits_of_lines {lines : List Text} (fits : ∀ line ∈ lines, SizeFits line) :
    ∀ s ∈ sections lines, s.Fits :=
  fun _ section_mem line mem => fits line (mem_of_mem_body section_mem mem)

/-- Reading a snapshot is decided by the checks of its sections. -/
lemma decided_read {lines : List Text} (fits : ∀ s ∈ sections lines, s.Fits) :
    Decided (checks (sections lines)) (Describe (sections lines)) (read lines).result := by
  rw [result_read]
  exact decided_walk 1 lines fits

/-- A snapshot that is read has page sizes that can be read and passes all checks, and its mappings
are those of its sections. -/
lemma of_read_eq_ok {lines : List Text} {mappings : List Mapping}
    (ok : (read lines).result = .ok mappings) :
    (∀ c ∈ checks (sections lines), c.passes = true) ∧ Describe (sections lines) mappings := by
  have walks := ok
  rw [result_read] at walks
  obtain ⟨-, fits⟩ := fits_of_walk walks
  have decided := decided_read fits
  rw [ok] at decided
  obtain ⟨failing, describe⟩ := decided.of_ok
  exact ⟨firstFailing_eq_none_iff.mp failing, describe⟩

/-- A snapshot whose checks all pass is read to the mappings its sections describe. -/
lemma read_isOk {lines : List Text} (fits : ∀ s ∈ sections lines, s.Fits)
    (passes : ∀ c ∈ checks (sections lines), c.passes = true) :
    ∃ mappings, (read lines).result = .ok mappings ∧ Describe (sections lines) mappings := by
  have decided := decided_read fits
  rw [Decided, firstFailing_eq_none_iff.mpr passes] at decided
  exact decided

/-- **A snapshot is read by its sections.** If no page size in it is too long to be read, it gives
one mapping for each section, unless a check fails; the first check that fails is what is found. -/
theorem read_eq_segmentation (lines : List Text) (fits : ∀ line ∈ lines, SizeFits line)
    (journal : Option Journal) :
    match firstFailing (checks (sections lines)) with
    | some finding => ((read lines).on journal).1 = .error (.finding finding)
    | none => ∃ mappings, ((read lines).on journal).1 = .ok mappings ∧
        List.Forall₂ (fun s m => s.record.Describes m) (sections lines) mappings := by
  rw [(oblivious_read lines).on_eq]
  exact decided_read (fits_of_lines fits)

/-- The first section of these lines is read alone, with the flag that is told of it: the size
before it is not in it. The second is inverted, and that is what is found of both. -/
theorem read_second_inverted :
    let lines : List Text :=
      ["KernelPageSize: 0 kB", "1000-2000 rw-p", "KernelPageSize: 4 kB", "VmFlags: rd hg",
        "2000-1000 r--p 0 00:00 0", "KernelPageSize: 4 kB"]
    (∀ line ∈ lines, SizeFits line) ∧
      (∃ m, ((read (lines.take 4)).on none).1 = .ok [m] ∧ m.start = 0x1000 ∧ m.stop = 0x2000 ∧
        m.pageSize = 4 ∧ m.transparentHuge = true ∧ m.explicitHuge = false) ∧
      ((read lines).on none).1 =
        .error (.finding (.snapshot (.inverted 0x2000 0x1000) (some 5))) := by
  intro lines
  have fits : ∀ line ∈ lines, SizeFits line := by decide +kernel
  have passing : firstFailing (checks (sections (lines.take 4))) = none := by decide +kernel
  have failing : firstFailing (checks (sections lines)) =
      some (.snapshot (.inverted 0x2000 0x1000) (some 5)) := by decide +kernel
  have told := read_eq_segmentation (lines.take 4) (fun line mem =>
    fits line (List.mem_of_mem_take mem)) none
  have found := read_eq_segmentation lines fits none
  rw [passing] at told
  rw [failing] at found
  refine ⟨fits, ?_, found⟩
  obtain ⟨mappings, reads, describes⟩ := told
  have alone : sections (lines.take 4) =
      [⟨2, "1000", "2000", ["KernelPageSize: 4 kB", "VmFlags: rd hg"]⟩] := by decide +kernel
  rw [alone] at describes
  obtain _ | @⟨_, m, _, _, describes, ended⟩ := describes
  cases ended
  have start : (0x1000 : Int) = m.start := describes.start
  have stop : (0x2000 : Int) = m.stop := describes.stop
  have size : some (4 : Int) = some (m.pageSize : Int) := describes.pageSize
  have untold : ¬m.explicitHuge = true := mt describes.explicitHuge.mp (by decide)
  refine ⟨m, reads, by omega, by omega, ?_, describes.transparentHuge.mpr (by decide), ?_⟩
  · have := Option.some.inj size
    omega
  · exact Bool.eq_false_iff.mpr untold

end PageAudit.Snapshot
