import PageAudit.Proofs.Snapshot.Calls
import PageAudit.Proofs.Snapshot.Grammar
import PageAudit.Proofs.Spelling
import PageAudit.Proofs.Text.Lines

/-!
# Snapshots that are written

Which lines write a list of mappings: one record for each mapping (`RecordOf`), and noise anywhere
among their lines (`Amid`). Neither says how the lines are read.

Noise does not change what is read (`walk_amid`), and of the lines that are left a header closes the
record before it and the others fill the record that is open, so a walk closes the mappings one
after the other (`walk_records`). `read_written` puts the two together.
-/

namespace PageAudit.Snapshot

open Numeral (Spells)

/-! ## Lines that write mappings -/

/-- A header of the mapping. -/
def HeaderOf (m : Mapping) (line : Text) : Prop :=
  ∃ start stop, IsHeader (Text.chomp line) start stop ∧
    Spells 16 Text.hexDigitValue? start m.start ∧ Spells 16 Text.hexDigitValue? stop m.stop

/-- A line that tells the page size of the mapping, in no more digits than are read. -/
def PageSizeOf (m : Mapping) (line : Text) : Prop :=
  ∃ digits, IsPageSize (Text.chomp line) digits ∧ digits.length ≤ Numeral.maxDigits ∧
    Spells 10 Text.digitValue? digits m.pageSize

/-- A line whose flags are, as far as they matter, those of the mapping. -/
def FlagsOf (m : Mapping) (line : Text) : Prop :=
  ∃ flags, IsFlags (Text.chomp line) flags ∧
    (transparentHugeFlag ∈ flags.splitOnP Text.isBlank ↔ m.transparentHuge = true) ∧
    (explicitHugeFlag ∈ flags.splitOnP Text.isBlank ↔ m.explicitHuge = true)

/-- A record of the mapping: its header, and below that its page size and its flags. The flags may
be missing if there is nothing to tell. -/
inductive RecordOf (m : Mapping) : List Text → Prop
  | unflagged {header size : Text} : HeaderOf m header → PageSizeOf m size →
    m.transparentHuge = false → m.explicitHuge = false → RecordOf m [header, size]
  | sizeFirst {header size flags : Text} : HeaderOf m header → PageSizeOf m size →
    FlagsOf m flags → RecordOf m [header, size, flags]
  | flagsFirst {header size flags : Text} : HeaderOf m header → PageSizeOf m size →
    FlagsOf m flags → RecordOf m [header, flags, size]

/-- Lines with noise before, between and after them. -/
inductive Amid : List Text → List Text → Prop
  | nil : Amid [] []
  | noise {telling lines : List Text} {line : Text} : Noise line → Amid telling lines →
    Amid telling (line :: lines)
  | telling {telling lines : List Text} {line : Text} : Amid telling lines →
    Amid (line :: telling) (line :: lines)

/-- Lines that write mappings: their records one after the other, amid noise. -/
def Written (mappings : List Mapping) (lines : List Text) : Prop :=
  ∃ records, List.Forall₂ RecordOf mappings records ∧ Amid records.flatten lines

/-! ## Noise -/

/-- A state is alike to itself. -/
lemma State.Alike.refl (state : State) : state.Alike state := by
  cases state with
  | none => exact .none
  | some r => exact .some ⟨r.line, rfl⟩

/-- Noise leaves the state as it is. -/
lemma step_noise {line : Text} (noise : Noise line) (state : State) (number : Int) :
    state.step line number = .ok (state, none) := by
  obtain ⟨no_header, no_size, no_flags⟩ := noise_iff.mp noise
  cases state with
  | none => exact step_idle no_header number
  | some r =>
    have fits : SizeFits line := fun digits sized => by rw [no_size] at sized; cases sized
    rw [step_told no_header fits, Record.told, no_size, no_flags]

/-- Lines that are read are read the same amid noise. -/
lemma walk_amid {telling lines : List Text} (amid : Amid telling lines) {state : State} {n : Nat}
    {mappings : List Mapping} (ok : walk state n telling = .ok mappings) (m : Nat) :
    walk state m lines = .ok mappings := by
  induction amid generalizing state n mappings m with
  | nil => exact (State.Alike.refl state).walk ok m
  | noise noise _ ih =>
    rw [walk_cons (step_noise noise state m), ih ok]
    rfl
  | telling _ ih =>
    obtain ⟨state', closed, rest, steps, ok', rfl⟩ := of_walk_cons ok
    obtain ⟨state'', steps', alike⟩ := (State.Alike.refl state).step steps m
    rw [walk_cons steps', ih (alike.walk ok' n)]
    rfl

/-! ## Records -/

variable {m : Mapping} {line : Text}

/-- A header of a mapping closes the open record and opens one with the bounds of the mapping. -/
lemma step_headerOf (header : HeaderOf m line) {state : State} {closed : Option Mapping}
    (closes : state.close = .ok closed) (number : Int) :
    state.step line number =
      .ok (some { start := m.start, stop := m.stop, line := number }, closed) := by
  obtain ⟨start, stop, read, start_spells, stop_spells⟩ := header
  obtain ⟨start_hex, start_eq⟩ := start_spells.hexValue
  obtain ⟨stop_hex, stop_eq⟩ := stop_spells.hexValue
  have stop_lt := m.stop_lt_space
  have start_lt := Nat.lt_trans m.start_lt_stop stop_lt
  have start_ok : address start number = .ok m.start :=
    address_eq_ok_iff.mpr ⟨start_hex, start_eq ▸ start_lt, by rw [start_eq]⟩
  have stop_ok : address stop number = .ok m.stop :=
    address_eq_ok_iff.mpr ⟨stop_hex, stop_eq ▸ stop_lt, by rw [stop_eq]⟩
  rw [step_header (header?_eq_some_iff.mpr read), start_ok, stop_ok, closes]
  rfl

/-- A spelling of the page size is told to the record. -/
lemma step_pageSizeOf (size : PageSizeOf m line) (r : Record) (number : Int) :
    State.step (some r) line number = .ok (some { r with pageSize := some ↑m.pageSize }, none) := by
  obtain ⟨digits, sized, short, spells⟩ := size
  have read := pageSize?_eq_some_iff.mpr sized
  have fits : SizeFits line := by
    intro digits' read'
    cases read.symm.trans read'
    exact short
  rw [step_told (header?_of_isPageSize sized) fits, Record.told, read, ← spells.value.2]

/-- The words of a flags line of a mapping tell the flags of the mapping. -/
lemma step_flagsOf (flags : FlagsOf m line) : ∃ words : List Text,
    words.contains transparentHugeFlag = m.transparentHuge ∧
    words.contains explicitHugeFlag = m.explicitHuge ∧
    ∀ (r : Record) (number : Int),
      State.step (some r) line number = .ok (some { r with flags := words }, none) := by
  obtain ⟨flags, flagged, transparent, explicit⟩ := flags
  refine ⟨Text.words flags, ?_, ?_, fun r number => ?_⟩
  · rw [Bool.eq_iff_iff, ← transparent, List.contains_iff_mem, Text.words_eq_splitOnP,
      List.mem_filter]
    exact and_iff_left rfl
  · rw [Bool.eq_iff_iff, ← explicit, List.contains_iff_mem, Text.words_eq_splitOnP,
      List.mem_filter]
    exact and_iff_left rfl
  · have sizeless := pageSize?_of_isFlags flagged
    have fits : SizeFits line := fun digits sized => by rw [sizeless] at sized; cases sized
    have read := flags?_eq_some_iff.mpr ⟨flags, flagged, rfl⟩
    rw [step_told (header?_of_isFlags flagged) fits, Record.told, sizeless, read]

/-- A record that holds all that is told of a mapping closes to it. -/
lemma close_eq_self {r : Record} (start : r.start = m.start) (stop : r.stop = m.stop)
    (size : r.pageSize = some ↑m.pageSize)
    (transparent : r.flags.contains transparentHugeFlag = m.transparentHuge)
    (explicit : r.flags.contains explicitHugeFlag = m.explicitHuge) :
    State.close (some r) = .ok (some m) := by
  rw [State.close, Record.close, size, start, stop, transparent, explicit]
  exact congrArg (Except.map some) (Mapping.ofBounds_self m _)

/-- A walk goes on from the state that its first line leads to. -/
lemma walk_cons_ok {state state' : State} {n : Nat} {closed : Option Mapping} {lines : List Text}
    {mappings : List Mapping} (steps : state.step line n = .ok (state', closed))
    (ok : walk state' (n + 1) lines = .ok mappings) :
    walk state n (line :: lines) = .ok (closed.toList ++ mappings) := by
  rw [walk_cons steps, ok]
  rfl

/-- Records give the mapping of the open record, which the first of them closes, and then their
own. -/
lemma walk_records {mappings : List Mapping} {records : List (List Text)}
    (written : List.Forall₂ RecordOf mappings records) {state : State} {closed : Option Mapping}
    (closes : state.close = .ok closed) (n : Nat) :
    walk state n records.flatten = .ok (closed.toList ++ mappings) := by
  induction written generalizing state closed n with
  | nil =>
    rw [List.flatten_nil, walk, closes, List.append_nil]
    rfl
  | @cons m record mappings records one _ ih =>
    -- The open record takes in the lines below its header, and then it closes to the mapping.
    cases one with
    | unflagged header size transparent explicit =>
      refine walk_cons_ok (step_headerOf header closes n) ?_
      refine walk_cons_ok (step_pageSizeOf size _ _) ?_
      have flagless : ([] : List Text).contains transparentHugeFlag = m.transparentHuge ∧
          ([] : List Text).contains explicitHugeFlag = m.explicitHuge :=
        ⟨transparent.symm, explicit.symm⟩
      exact ih (close_eq_self rfl rfl rfl flagless.1 flagless.2) _
    | sizeFirst header size flags =>
      obtain ⟨words, transparent, explicit, step_flags⟩ := step_flagsOf flags
      refine walk_cons_ok (step_headerOf header closes n) ?_
      refine walk_cons_ok (step_pageSizeOf size _ _) ?_
      refine walk_cons_ok (step_flags _ _) ?_
      exact ih (close_eq_self rfl rfl rfl transparent explicit) _
    | flagsFirst header size flags =>
      obtain ⟨words, transparent, explicit, step_flags⟩ := step_flagsOf flags
      refine walk_cons_ok (step_headerOf header closes n) ?_
      refine walk_cons_ok (step_flags _ _) ?_
      refine walk_cons_ok (step_pageSizeOf size _ _) ?_
      exact ih (close_eq_self rfl rfl rfl transparent explicit) _

/-! ## Every list of mappings can be written -/

/-- Lines stand amid nothing but themselves. -/
lemma Amid.refl (lines : List Text) : Amid lines lines := by
  induction lines with
  | nil => exact .nil
  | cons line lines ih => exact .telling ih

/-- A hexadecimal digit spells an address. -/
lemma isAddressChar_of_isHexDigit {c : CodePoint} (hex : Text.isHexDigit c = true) :
    isAddressChar c = true := by
  simp only [Text.isHexDigit, Text.hexDigitValue?, Bool.and_eq_true, decide_eq_true_eq] at hex
  simp only [isAddressChar, Text.isAsciiDigit, Text.isAsciiLetter, Bool.or_eq_true,
    Bool.and_eq_true, decide_eq_true_eq]
  split_ifs at hex
  · omega
  · omega
  · omega
  · cases hex

/-- Every mapping has a header. -/
lemma exists_headerOf (m : Mapping) : ∃ line, HeaderOf m line := by
  obtain ⟨start, start_spells⟩ := Numeral.exists_hexadecimal m.start
  obtain ⟨stop, stop_spells⟩ := Numeral.exists_hexadecimal m.stop
  have start_hex := List.all_eq_true.mp start_spells.hexValue.1
  have stop_hex := List.all_eq_true.mp stop_spells.hexValue.1
  have start_all : start.all isAddressChar = true :=
    List.all_eq_true.mpr fun c mem => isAddressChar_of_isHexDigit (start_hex c mem)
  have stop_all : stop.all isAddressChar = true :=
    List.all_eq_true.mpr fun c mem => isAddressChar_of_isHexDigit (stop_hex c mem)
  let line : Text := start ++ .char '-' :: (stop ++ .char ' ' :: "rw-p")
  have unbroken : CodePoint.char '\n' ∉ line := by
    intro mem
    simp only [line, List.mem_append, List.mem_cons] at mem
    obtain mem | dash | mem | space | mem := mem
    · cases start_hex _ mem
    · cases dash
    · cases stop_hex _ mem
    · cases space
    · exact absurd mem (by decide)
  refine ⟨line, start, stop, ?_, start_spells, stop_spells⟩
  rw [Text.chomp_eq unbroken]
  exact ⟨line, [], ⟨start_spells.1, start_all, stop_spells.1, stop_all, _, rfl, rfl, rfl⟩,
    (List.append_nil _).symm, nofun⟩

/-- Every page size below the bound has a spelling. -/
lemma exists_pageSizeOf {m : Mapping} (bounded : m.pageSize < Numeral.writeBound) :
    ∃ line, PageSizeOf m line := by
  obtain ⟨digits, spells, short⟩ := Numeral.exists_decimal bounded
  have digital := List.all_eq_true.mp spells.value.1
  let line : Text := pageSizeLabel ++ (digits ++ " kB")
  have unbroken : CodePoint.char '\n' ∉ line := by
    intro mem
    simp only [line, List.mem_append] at mem
    obtain mem | mem | mem := mem
    · exact absurd mem (by decide)
    · cases digital _ mem
    · exact absurd mem (by decide)
  refine ⟨line, digits, ?_, short, spells⟩
  rw [Text.chomp_eq unbroken]
  exact ⟨[], [], by simp [line], rfl, spells.1, spells.value.1⟩

/-- Every mapping has a line of flags. -/
lemma exists_flagsOf (m : Mapping) : ∃ line, FlagsOf m line := by
  have told (transparent explicit : Bool) : ∃ flags : Text, CodePoint.char '\n' ∉ flags ∧
      (transparentHugeFlag ∈ flags.splitOnP Text.isBlank ↔ transparent = true) ∧
      (explicitHugeFlag ∈ flags.splitOnP Text.isBlank ↔ explicit = true) := by
    cases transparent <;> cases explicit
    · exact ⟨" rd", by decide, by decide, by decide⟩
    · exact ⟨" rd ht", by decide, by decide, by decide⟩
    · exact ⟨" rd hg", by decide, by decide, by decide⟩
    · exact ⟨" rd hg ht", by decide, by decide, by decide⟩
  obtain ⟨flags, unbroken, told⟩ := told m.transparentHuge m.explicitHuge
  have label_unbroken : CodePoint.char '\n' ∉ flagsLabel := by decide
  refine ⟨flagsLabel ++ flags, flags, ?_, told⟩
  rw [Text.chomp_eq fun mem => (List.mem_append.mp mem).elim label_unbroken unbroken]
  exact ⟨rfl, unbroken⟩

/-- All mappings below the bound can be written. -/
lemma exists_written {mappings : List Mapping}
    (bounded : ∀ m ∈ mappings, m.pageSize < Numeral.writeBound) :
    ∃ lines, Written mappings lines := by
  suffices ∃ records, List.Forall₂ RecordOf mappings records by
    obtain ⟨records, written⟩ := this
    exact ⟨records.flatten, records, written, .refl _⟩
  induction mappings with
  | nil => exact ⟨[], .nil⟩
  | cons m mappings ih =>
    rw [List.forall_mem_cons] at bounded
    obtain ⟨records, written⟩ := ih bounded.2
    obtain ⟨header, header_of⟩ := exists_headerOf m
    obtain ⟨size, size_of⟩ := exists_pageSizeOf bounded.1
    obtain ⟨flags, flags_of⟩ := exists_flagsOf m
    exact ⟨_, .cons (.sizeFirst header_of size_of flags_of) written⟩

/-- **A snapshot gives back the mappings that it was written from.** Every list of mappings whose
page sizes can be written can be written as a snapshot, and however it is written, with whatever
spellings and amid whatever noise, exactly this list is read, whatever journal is kept. -/
theorem read_written (mappings : List Mapping)
    (bounded : ∀ m ∈ mappings, m.pageSize < Numeral.writeBound) :
    (∃ lines, Written mappings lines) ∧
      ∀ lines, Written mappings lines → ∀ journal, ((read lines).on journal).1 = .ok mappings := by
  refine ⟨exists_written bounded, ?_⟩
  rintro lines ⟨records, written, amid⟩ journal
  rw [(oblivious_read lines).on_eq]
  show (read lines).result = _
  have closes : State.close none = .ok none := rfl
  rw [result_read]
  exact walk_amid amid (walk_records written closes 1) 1

/-- Two mappings come back from a snapshot with noise among its lines, with zeros in front of its
numbers, with the flags before the page size and without flags. -/
theorem read_written_amid_noise :
    let small : Mapping := ⟨0x1000, 0xab00, 4, true, false, by decide, by decide, by decide⟩
    let large : Mapping :=
      ⟨0, 0xffffffffffffffff, 2048, false, false, by decide, by decide, by decide⟩
    let lines : List Text :=
      ["KernelPageSize: kB", "00001000-aB00 rw-p 00:00 0 /lib\n", "VmFlags: rd hg\n", "Rss: 3 kB",
        "KernelPageSize:4 kB", "", "0-FFFFFFFFFFFFFFFF ---p", "KernelPageSize: \t 02048 kB, all\n"]
    (∀ m ∈ [small, large], m.pageSize < Numeral.writeBound) ∧ Written [small, large] lines ∧
      ((read lines).on none).1 = .ok [small, large] := by
  intro small large lines
  have bounded : ∀ m ∈ [small, large], m.pageSize < Numeral.writeBound := by
    have written : 10 ^ 4 ≤ Numeral.writeBound := Numeral.pow_le_writeBound (by decide)
    intro m mem
    have small_enough : m.pageSize < 10 ^ 4 := by
      revert m
      decide
    exact Nat.lt_of_lt_of_le small_enough written
  have first : RecordOf small
      ["00001000-aB00 rw-p 00:00 0 /lib\n", "VmFlags: rd hg\n", "KernelPageSize:4 kB"] := by
    refine .flagsFirst ⟨"00001000", "aB00", ?_, ?_, ?_⟩ ⟨"4", ?_, ?_, ?_⟩ ⟨" rd hg", ?_, ?_, ?_⟩
    · exact header?_eq_some_iff.mp rfl
    · exact ⟨nofun, [0, 0, 0, 0, 1, 0, 0, 0], rfl, rfl⟩
    · exact ⟨nofun, [0xa, 0xb, 0, 0], rfl, rfl⟩
    · exact pageSize?_eq_some_iff.mp rfl
    · decide
    · exact ⟨nofun, [4], rfl, rfl⟩
    · exact ⟨rfl, by decide⟩
    · decide
    · decide
  have second :
      RecordOf large ["0-FFFFFFFFFFFFFFFF ---p", "KernelPageSize: \t 02048 kB, all\n"] := by
    refine .unflagged ⟨"0", "FFFFFFFFFFFFFFFF", ?_, ?_, ?_⟩ ⟨"02048", ?_, ?_, ?_⟩ rfl rfl
    · exact header?_eq_some_iff.mp rfl
    · exact ⟨nofun, [0], rfl, rfl⟩
    · exact ⟨nofun, List.replicate 16 0xf, rfl, rfl⟩
    · exact pageSize?_eq_some_iff.mp rfl
    · decide
    · exact ⟨nofun, [0, 2, 0, 4, 8], rfl, rfl⟩
  have written : Written [small, large] lines := by
    refine ⟨_, .cons first (.cons second .nil), ?_⟩
    refine .noise (noise_iff.mpr (by decide)) ?_
    refine .telling (.telling ?_)
    refine .noise (noise_iff.mpr (by decide)) ?_
    refine .telling ?_
    refine .noise (noise_iff.mpr (by decide)) ?_
    exact .telling (.telling .nil)
  exact ⟨bounded, written, (read_written [small, large] bounded).2 lines written none⟩

end PageAudit.Snapshot
