import Mathlib.Data.List.Basic
import PageAudit.Proofs.Snapshot.Calls
import PageAudit.Proofs.Snapshot.Grammar
import PageAudit.Proofs.Spelling

/-!
# Records that are reached

Which records can be open after some lines, if a line that cannot be read leaves the open record as
it was (`State.after`). Such a record is `Founded` on the lines: its bounds are addresses, its page
size could be read, its flags are words, and one of the lines is its header. Each step keeps it so
(`State.Founded.step`), and hence any number of steps (`founded_after`).

What may be wrong with a record that is closed is then told at its header
(`State.Founded.of_close_eq_error`), and the message names that line once
(`namesOnce_of_not_infix`). `reached_record_is_founded` is the main result.
-/

namespace PageAudit

namespace Text

/-- The words kept are the one that was open, unless empty, and those found before. -/
lemma mem_keepWord {word : Text} {found : Text × List Text} (mem : word ∈ keepWord found) :
    word = found.1 ∧ word ≠ [] ∨ word ∈ found.2 := by
  unfold keepWord at mem
  split at mem
  · exact .inr mem
  · next nonempty =>
    obtain rfl | mem := List.mem_cons.mp mem
    · exact .inl ⟨rfl, nonempty⟩
    · exact .inr mem

/-- No blank is in the words that are gathered from the end of a text, nor in the one that is not
yet whole, which may be empty. -/
lemma foldr_growWord_solid (cs : Text) :
    (∀ c ∈ (cs.foldr growWord ([], [])).1, isBlank c = false) ∧
      ∀ word ∈ (cs.foldr growWord ([], [])).2, word ≠ [] ∧ ∀ c ∈ word, isBlank c = false := by
  induction cs with
  | nil => exact ⟨List.forall_mem_nil _, List.forall_mem_nil _⟩
  | cons c cs ih =>
    obtain ⟨gathering, found⟩ := ih
    rw [List.foldr_cons, growWord]
    split
    · refine ⟨List.forall_mem_nil _, fun word mem => ?_⟩
      obtain ⟨rfl, nonempty⟩ | mem := mem_keepWord mem
      · exact ⟨nonempty, gathering⟩
      · exact found word mem
    · next solid =>
      refine ⟨List.forall_mem_cons.mpr ⟨?_, gathering⟩, found⟩
      exact Bool.eq_false_iff.mpr solid

/-- The words of a text are not empty, and no blank is in them. -/
lemma of_mem_words {cs word : Text} (mem : word ∈ words cs) :
    word ≠ [] ∧ ∀ c ∈ word, isBlank c = false := by
  obtain ⟨gathering, found⟩ := foldr_growWord_solid cs
  obtain ⟨rfl, nonempty⟩ | mem := mem_keepWord mem
  · exact ⟨nonempty, gathering⟩
  · exact found word mem

end Text

namespace Snapshot

open Numeral (Spells)

/-! ## Records and the lines before them -/

/-- The open record after one more line; a line that cannot be read leaves it as it was. -/
def State.next (state : State) (line : Text) (number : Nat) : State :=
  match state.step line number with
  | .ok (state', _) => state'
  | .error _ => state

/-- The open record after the lines of a snapshot, whatever came of them. -/
def State.after (lines : List Text) : State :=
  (lines.zipIdx 1).foldl (fun state (line, number) => State.next state line number) none

/-- The line is a header with these two addresses. -/
def Opens (line : Text) (start stop : Nat) : Prop :=
  ∃ a b, IsHeader (Text.chomp line) a b ∧ Spells 16 Text.hexDigitValue? a start ∧
    Spells 16 Text.hexDigitValue? b stop

/-- A record is founded on the lines of a snapshot. -/
structure Record.Founded (r : Record) (lines : List Text) : Prop where
  /-- Its bounds are addresses, and its page size, if it has one, could be read. -/
  sound : r.Sound
  /-- Its flags are words. -/
  flags : ∀ flag ∈ r.flags, flag ≠ [] ∧ ∀ c ∈ flag, Text.isBlank c = false
  /-- The line with its number is a header with its bounds. -/
  header : ∃ place line start stop, lines[place]? = some line ∧ Opens line start stop ∧
    r.line = (place + 1 : Nat) ∧ r.start = start ∧ r.stop = stop

/-- The open record, if there is one, is founded on the lines. -/
def State.Founded (state : State) (lines : List Text) : Prop := ∀ r ∈ state, r.Founded lines

variable {lines : List Text} {line : Text} {r : Record}

/-- A founded state is sound. -/
lemma State.Founded.sound {state : State} (founded : state.Founded lines) : state.Sound :=
  fun r mem => (founded r mem).sound

/-- A header whose addresses are read is one with these addresses. -/
lemma opens_of_address {start stop : Text} {number number' a b : Int}
    (header : header? (Text.chomp line) = some (start, stop))
    (start_ok : address start number = .ok a) (stop_ok : address stop number' = .ok b) :
    ∃ m n : Nat, Opens line m n ∧ a = m ∧ b = n := by
  have is_header := header?_eq_some_iff.mp header
  obtain ⟨front, rest, heading, -, -⟩ := is_header
  obtain ⟨start_hex, -, rfl⟩ := address_eq_ok_iff.mp start_ok
  obtain ⟨stop_hex, -, rfl⟩ := address_eq_ok_iff.mp stop_ok
  obtain ⟨m, start_spells⟩ : ∃ m, Spells 16 Text.hexDigitValue? start m :=
    Numeral.exists_spells_of_all heading.start_ne start_hex
  obtain ⟨n, stop_spells⟩ : ∃ n, Spells 16 Text.hexDigitValue? stop n :=
    Numeral.exists_spells_of_all heading.stop_ne stop_hex
  refine ⟨m, n, ⟨start, stop, header?_eq_some_iff.mp header, start_spells, stop_spells⟩, ?_, ?_⟩
  · rw [start_spells.hexValue.2]
  · rw [stop_spells.hexValue.2]

/-! ## Steps -/

/-- A record stays founded if lines are added. -/
lemma Record.Founded.append (founded : r.Founded lines) (more : List Text) :
    r.Founded (lines ++ more) := by
  obtain ⟨place, line, start, stop, stands, opens, told⟩ := founded.header
  refine ⟨founded.sound, founded.flags, place, line, start, stop, ?_, opens, told⟩
  have within : place < lines.length := (List.getElem?_eq_some_iff.mp stands).1
  rw [List.getElem?_append_left within]
  exact stands

/-- Being told a line keeps a record founded. -/
lemma Record.Founded.told (founded : r.Founded lines) (fits : SizeFits line) :
    (r.told line).Founded lines := by
  have sound := founded.sound.told fits
  unfold Record.told at sound ⊢
  cases size : pageSize? (Text.chomp line) with
  | some digits =>
    rw [size] at sound
    exact ⟨sound, founded.flags, founded.header⟩
  | none =>
    rw [size] at sound
    cases flags : flags? (Text.chomp line) with
    | some words =>
      rw [flags] at sound
      obtain ⟨behind, -, rfl⟩ := flags?_eq_some_iff.mp flags
      exact ⟨sound, fun flag mem => Text.of_mem_words mem, founded.header⟩
    | none => exact founded

/-- Every step keeps the open record founded. -/
lemma State.Founded.step {state state' : State} {closed : Option Mapping}
    (founded : state.Founded lines)
    (ok : state.step line (lines.length + 1 : Nat) = .ok (state', closed)) :
    state'.Founded (lines ++ [line]) := by
  have sound := (founded.sound.step ok).1
  obtain ⟨start, stop, a, b, header, start_ok, stop_ok, -, rfl⟩ |
    ⟨-, -, ⟨-, rfl⟩ | ⟨r, rfl, fits, rfl⟩⟩ := step_cases ok
  · -- The header is the last of the lines.
    obtain ⟨m, n, opens, rfl, rfl⟩ := opens_of_address header start_ok stop_ok
    rintro _ ⟨⟩
    refine ⟨sound _ rfl, nofun, lines.length, line, m, n, ?_, opens, rfl, rfl, rfl⟩
    exact List.getElem?_concat_length
  · exact nofun
  · rintro _ ⟨⟩
    exact ((founded r rfl).told fits).append [line]

/-- The next line leaves a founded state. -/
lemma State.Founded.next {state : State} (founded : state.Founded lines) :
    State.Founded (state.next line (lines.length + 1)) (lines ++ [line]) := by
  unfold State.next
  split
  · next steps => exact founded.step steps
  · exact fun r mem => (founded r mem).append [line]

/-- The state after one more line is the next. -/
lemma after_append_singleton (lines : List Text) (line : Text) :
    State.after (lines ++ [line]) = State.next (State.after lines) line (lines.length + 1) := by
  unfold State.after
  rw [List.zipIdx_append, List.foldl_append, Nat.add_comm 1]
  rfl

/-- Whatever lines come, the open record is founded on them. -/
lemma founded_after (lines : List Text) : State.Founded (State.after lines) lines := by
  -- A step takes the last line, so the induction takes lines off the end.
  induction lines using List.reverseRecOn with
  | nil => exact nofun
  | append_singleton lines line ih =>
    rw [after_append_singleton]
    exact ih.next

/-! ## Findings about the open record -/

/-- What stands in front of a message about a line. -/
def lineMark (number : Int) : Text := "line " ++ toString number ++ ": "

/-- A message names a line once: the mark of the line stands at its front and nowhere else. -/
def NamesOnce (number : Int) (message : Text) : Prop :=
  ∀ before, (∃ after, message = before ++ (lineMark number ++ after)) ↔ before = []

/-- The first two letters of a mark. -/
def markLetters : Text := "li"

/-- No numeral holds the letter. -/
lemma not_mem_toString (n : Nat) : CodePoint.char 'l' ∉ Text.ofString (toString n) :=
  (Numeral.spells_toString n).not_mem (by decide)

/-- No hexadecimal numeral holds the letter. -/
lemma not_mem_hexDigits (n : Nat) : CodePoint.char 'l' ∉ Text.hexDigits n :=
  (Numeral.spells_hexDigits n).not_mem (by decide)

/-- A mark begins with its two letters, and the first of them does not come again in it. -/
lemma lineMark_eq (number : Nat) :
    ∃ rest : Text, lineMark number = markLetters ++ rest ∧
      CodePoint.char 'l' ∉ CodePoint.char 'i' :: rest := by
  refine ⟨"ne " ++ toString number ++ ": ", rfl, ?_⟩
  apply List.not_mem_cons_of_ne_of_not_mem (by decide)
  exact List.not_mem_append (List.not_mem_append (by decide) (not_mem_toString number)) (by decide)

/-- A message names its line once if no mark can begin in the text behind the mark. -/
lemma namesOnce_of_not_infix {number : Nat} {text : Text} (unmarked : ¬markLetters <:+: text) :
    NamesOnce number (lineMark number ++ text) := by
  obtain ⟨rest, mark, once⟩ := lineMark_eq number
  intro before
  constructor
  · rintro ⟨after, same⟩
    cases before with
    | nil => rfl
    | cons c before =>
      -- A second mark would begin in the first one or in the text behind it.
      exfalso
      rw [mark] at same
      have behind : CodePoint.char 'i' :: rest ++ text = before ++ (markLetters ++ rest ++ after) :=
        List.tail_eq_of_cons_eq same
      obtain ⟨between, -, rfl⟩ | ⟨between, inside, left⟩ := List.append_eq_append_iff.mp behind
      · exact unmarked ⟨between, rest ++ after, by simp⟩
      · cases between with
        | nil => exact unmarked ⟨[], rest ++ after, by simpa using left⟩
        | cons d between =>
          have first : CodePoint.char 'l' = d := (List.cons.inj left).1
          rw [inside, ← first] at once
          exact once (List.mem_append_right before List.mem_cons_self)
  · rintro rfl
    exact ⟨text, rfl⟩

/-- A text without the letter does not hold the mark. -/
lemma not_infix_of_not_mem {text : Text} (free : CodePoint.char 'l' ∉ text) :
    ¬markLetters <:+: text := by
  intro part
  exact free (part.subset List.mem_cons_self)

/-- The bounds of a mapping are shown without the letter. -/
lemma not_mem_showBounds (start stop : Nat) : CodePoint.char 'l' ∉ showBounds start stop := by
  unfold showBounds
  rw [Numeral.hex0x_natCast, Numeral.hex0x_natCast]
  have shown (n : Nat) : CodePoint.char 'l' ∉ ("0x" : Text) ++ Text.hexDigits n :=
    List.not_mem_append (by decide) (not_mem_hexDigits n)
  exact List.not_mem_append (List.not_mem_append (shown start) (by decide)) (shown stop)

/-- A text with one `l`, which no `i` follows, is one in which no mark can begin. -/
lemma not_infix_append_cons {front : Text} {c : CodePoint} {rest : Text} (other : c ≠ .char 'i')
    (front_free : CodePoint.char 'l' ∉ front) (rest_free : CodePoint.char 'l' ∉ c :: rest) :
    ¬markLetters <:+: front ++ .char 'l' :: c :: rest := by
  rintro ⟨before, after, same⟩
  have split : front ++ .char 'l' :: (c :: rest) = before ++ .char 'l' :: (.char 'i' :: after) := by
    rw [← same, List.append_assoc]
    rfl
  obtain ⟨-, -, follows⟩ := (List.append_cons_inj_of_notMem front_free rest_free).mp split
  exact other (List.cons.inj follows).1

/-- What is checked of a record is told at its header. -/
lemma of_mem_checks {c : Check} (mem : c ∈ r.checks) :
    c.line = r.line ∧
      (c.defect = .noPageSize r.start r.stop ∨ c.defect = .inverted r.start r.stop ∨
        c.defect = .nonPositiveSize (r.pageSize.getD 0) r.start r.stop) := by
  obtain rfl | mem := List.mem_cons.mp mem
  · exact ⟨rfl, .inl rfl⟩
  · obtain rfl | mem := List.mem_cons.mp mem
    · exact ⟨rfl, .inr (.inl rfl)⟩
    · obtain rfl := List.mem_singleton.mp mem
      exact ⟨rfl, .inr (.inr rfl)⟩

/-- What may be wrong with a record is told in a text in which no mark can begin. -/
lemma Record.Founded.not_infix_message (founded : r.Founded lines) {c : Check}
    (mem : c ∈ r.checks) : ¬markLetters <:+: c.defect.message := by
  obtain ⟨-, -, start, stop, -, -, -, start_eq, stop_eq⟩ := founded.header
  have size_nonneg : 0 ≤ r.pageSize.getD 0 := by
    cases size : r.pageSize with
    | none => exact Int.le_refl 0
    | some n => exact (founded.sound.pageSize n size).1
  obtain ⟨size, size_eq⟩ := Int.eq_ofNat_of_zero_le size_nonneg
  obtain ⟨-, defect⟩ := of_mem_checks mem
  rw [start_eq, stop_eq, size_eq] at defect
  obtain defect | defect | defect := defect
  · have behind : CodePoint.char 'l' ∉
        ("PageSize for mapping " : Text) ++ Text.hexDigits start ++ "-" ++ Text.hexDigits stop :=
      List.not_mem_append (List.not_mem_append (List.not_mem_append (by decide)
        (not_mem_hexDigits start)) (by decide)) (not_mem_hexDigits stop)
    rw [defect]
    exact not_infix_append_cons (by decide) (by decide : CodePoint.char 'l' ∉ ("No Kerne" : Text))
      behind
  · rw [defect]
    apply not_infix_of_not_mem
    exact List.not_mem_append (by decide) (not_mem_showBounds start stop)
  · rw [defect]
    apply not_infix_of_not_mem
    exact List.not_mem_append (List.not_mem_append (List.not_mem_append (by decide)
      (not_mem_toString size)) (by decide)) (not_mem_showBounds start stop)

/-- Nothing that is checked of a record is whether its bounds are addresses. -/
lemma ne_outsideSpace {c : Check} (mem : c ∈ r.checks) (start stop : Int) :
    c.defect ≠ .outsideSpace start stop := by
  intro outside
  obtain ⟨-, defect⟩ := of_mem_checks mem
  rw [outside] at defect
  obtain defect | defect | defect := defect
  · cases defect
  · cases defect
  · cases defect

/-- What closing fails with is one of the things that are checked of the open record, told at its
header. -/
lemma State.Founded.of_close_eq_error {state : State} (founded : state.Founded lines)
    {fault : Fault} (failed : state.close = .error fault) :
    ∃ r, state = some r ∧
      ∃ c ∈ r.checks, fault = .finding (.snapshot c.defect (some r.line)) := by
  cases state with
  | none => cases failed
  | some r =>
    have decided := decided_closeOpen (founded r rfl).sound
    unfold Decided at decided
    cases failing : firstFailing r.checks with
    | none =>
      rw [failing, failed] at decided
      obtain ⟨closed, closes, -⟩ := decided
      cases closes
    | some finding =>
      rw [failing, failed] at decided
      unfold firstFailing at failing
      obtain ⟨c, found, rfl⟩ := Option.map_eq_some_iff.mp failing
      have mem : c ∈ r.checks := List.mem_of_find?_eq_some found
      refine ⟨r, rfl, c, mem, ?_⟩
      rw [Except.error.inj decided, Check.finding, (of_mem_checks mem).1]

/-- A mapping is completed by a header only, which leaves nothing of the record before it. -/
lemma of_step_completes {state state' : State} {number : Int} {m : Mapping}
    (steps : state.step line number = .ok (state', some m)) :
    ∃ r start stop, state = some r ∧ Opens line start stop ∧
      state' = some { start, stop, line := number } := by
  obtain ⟨_, _, a, b, header, start_ok, stop_ok, closes, rfl⟩ | ⟨-, nothing, -⟩ := step_cases steps
  · obtain ⟨start, stop, opens, rfl, rfl⟩ := opens_of_address header start_ok stop_ok
    cases state with
    | none => cases closes
    | some r => exact ⟨r, start, stop, rfl, opens, rfl⟩
  · cases nothing

/-- **Only records that stand on a header are reached.** Whatever lines come, and if every line that
cannot be read leaves the open record as it was:

* the open record has addresses for bounds, a page size that can be written if it has one, words for
  flags, and the number of a line before that is a header with these bounds;
* closing it fails only with a defect that is told at that header and names it once, and its bounds
  are never found outside the address space;
* a line completes a mapping only if it is a header and a record was open, and nothing of that
  record is left in the next.
-/
theorem reached_record_is_founded (lines : List Text) :
    let state := State.after lines
    (∀ r, state = some r → r.Founded lines) ∧
    (∀ fault, state.close = .error fault →
      ∃ r defect, state = some r ∧ fault = .finding (.snapshot defect (some r.line)) ∧
        (∀ start stop, defect ≠ .outsideSpace start stop) ∧ NamesOnce r.line fault.message) ∧
    (∀ line number state' m, state.step line number = .ok (state', some m) →
      ∃ r start stop, state = some r ∧ Opens line start stop ∧
        state' = some { start, stop, line := number }) := by
  intro state
  have founded : State.Founded state lines := founded_after lines
  refine ⟨founded, ?_, fun line number state' m => of_step_completes⟩
  intro fault failed
  obtain ⟨r, opened, c, mem, rfl⟩ := founded.of_close_eq_error failed
  have record_founded := founded r opened
  obtain ⟨place, -, -, -, -, -, line_eq, -, -⟩ := record_founded.header
  refine ⟨r, c.defect, opened, rfl, ne_outsideSpace mem, ?_⟩
  rw [line_eq]
  exact namesOnce_of_not_infix (record_founded.not_infix_message mem)

/-- A header that cannot be read leaves the record before it open, which the next header closes;
bounds the wrong way round are told at their own header. -/
theorem reached_record_outlives_failed_header :
    let lines : List Text :=
      ["1000-2000 rw-p", "VmFlags: rd hg", "KernelPageSize: 4 kB", "2000-xyz r--p"]
    let r : Record := ⟨0x1000, 0x2000, 1, some 4, ["rd", "hg"]⟩
    let m : Mapping := ⟨0x1000, 0x2000, 4, true, false, by decide, by decide, by decide⟩
    let line : Text := "2000-3000 r--p"
    let inverted : List Text := ["Size: 4 kB", "2000-1000 rw-p", "KernelPageSize: 4 kB"]
    let fault : Fault := .finding (.snapshot (.inverted 0x2000 0x1000) (some 2))
    State.after lines = some r ∧ r.Founded lines ∧
      State.step (some r) line 5 = .ok (some ⟨0x2000, 0x3000, 5, none, []⟩, some m) ∧
      Opens line 0x2000 0x3000 ∧
      (State.after inverted).close = .error fault ∧
      fault.message = ("line 2: Empty or inverted range: 0x2000-0x1000" : Text) ∧
      NamesOnce 2 fault.message := by
  intro lines r m line inverted fault
  have reached : State.after lines = some r := by decide +kernel
  have steps : (State.after lines).step line 5 =
      .ok (some ⟨0x2000, 0x3000, 5, none, []⟩, some m) := by
    rw [reached]
    decide +kernel
  have failed : (State.after inverted).close = .error fault := by decide +kernel
  obtain ⟨founded, -, completes⟩ := reached_record_is_founded lines
  obtain ⟨-, start, stop, -, opens, next⟩ := completes line 5 _ m steps
  cases next
  obtain ⟨-, told, -⟩ := reached_record_is_founded inverted
  obtain ⟨r', defect, -, same, -, once⟩ := told fault failed
  obtain ⟨-, line_eq⟩ := Finding.snapshot.inj (Fault.finding.inj same)
  rw [← Option.some.inj line_eq] at once
  exact ⟨reached, founded r reached, reached ▸ steps, opens, failed, by decide +kernel, once⟩

end Snapshot

end PageAudit
