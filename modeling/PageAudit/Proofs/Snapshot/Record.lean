import PageAudit.Proofs.Numeral
import PageAudit.Snapshot.Record

/-!
# Single steps of a snapshot

What one line does to an open record, and what closing a record comes to. A line that is no header
leaves a record open and is told to it (`Record.told`); a header closes the record before it
(`step_cases`). The addresses of a header and a record that is closed are each put to a list of
checks, and the first check that fails is the defect (`decided_address`, `decided_close`).

A record is `Sound` if its bounds are addresses and its page size can be written. Every line keeps
the open record sound (`State.Sound.step`).
-/

namespace PageAudit.Snapshot

/-! ## Lines -/

/-- A page size line is no flags line. -/
lemma flags?_of_pageSize? {cs digits : Text} (h : pageSize? cs = some digits) :
    flags? cs = none := by
  unfold pageSize? at h
  split at h
  · cases h
  · next rest after =>
    rw [Text.after?_eq_some_iff] at after
    subst after
    rfl

/-- The numeral of a page size line is not too long to be read. -/
def SizeFits (line : Text) : Prop :=
  ∀ digits, pageSize? (Text.chomp line) = some digits → digits.length ≤ Numeral.maxDigits

/-- Whether the numeral of a page size line can be read is decided by its length. -/
instance (line : Text) : Decidable (SizeFits line) :=
  decidable_of_iff
    ((pageSize? (Text.chomp line)).all (fun digits => digits.length ≤ Numeral.maxDigits) = true)
    (by simp [SizeFits, Option.all_eq_true])

/-- The numeral of a page size line has at most so many digits. -/
def SizeWithin (most : Nat) (line : Text) : Prop :=
  ∀ digits, pageSize? (Text.chomp line) = some digits → digits.length ≤ most

/-- Whether the numeral of a page size line is short enough is decided by its length. -/
instance (most : Nat) (line : Text) : Decidable (SizeWithin most line) :=
  decidable_of_iff ((pageSize? (Text.chomp line)).all (fun digits => digits.length ≤ most) = true)
    (by simp [SizeWithin, Option.all_eq_true])

/-- A size numeral fits that is within the digits which can be read. -/
lemma SizeWithin.fits {most : Nat} {line : Text} (within : SizeWithin most line)
    (few : most ≤ Numeral.maxDigits) : SizeFits line :=
  fun digits size => Nat.le_trans (within digits size) few

/-- The digits of a page size line are a run of digits in it. -/
lemma sizeWithin_of_digitsWithin {most : Nat} {line : Text} (within : line.DigitsWithin most) :
    SizeWithin most line := by
  intro digits h
  unfold pageSize? at h
  split at h
  · cases h
  · next rest after =>
    dsimp only at h
    split at h
    · next taken _ =>
      cases h
      rw [Text.after?_eq_some_iff] at after
      have blanks := List.dropWhile_suffix Text.isBlank (l := rest)
      have digits_part := (List.takeWhile_prefix Text.isDigit).isInfix.trans blanks.isInfix
      rw [taken] at digits_part
      have rest_part : rest <:+: Text.chomp line := after ▸ (List.suffix_append _ _).isInfix
      refine within _ (digits_part.trans (rest_part.trans (Text.chomp_part line))) ?_
      rw [← taken]
      exact List.all_takeWhile
    · cases h

/-- A record that is told one more line, which is no header. -/
def Record.told (r : Record) (line : Text) : Record :=
  match pageSize? (Text.chomp line), flags? (Text.chomp line) with
  | some digits, _ => { r with pageSize := some (Numeral.value digits) }
  | none, some words => { r with flags := words }
  | none, none => r

/-! ## One step -/

/-- A header closes the record that is open, and opens one at its addresses. -/
lemma step_header {line start stop : Text} (h : header? (Text.chomp line) = some (start, stop))
    (state : State) (number : Int) :
    state.step line number = do
      let start ← address start number
      let stop ← address stop number
      let closed ← state.close
      return (some { start, stop, line := number }, closed) := by
  simp only [State.step, LineKind.ofLine, LineKind.ofText, h]

/-- Without a record, a line that is no header is skipped. -/
lemma step_idle {line : Text} (h : header? (Text.chomp line) = none) (number : Int) :
    State.step none line number = .ok (none, none) := by
  simp only [State.step, LineKind.ofLine, LineKind.ofText, h]
  cases pageSize? (Text.chomp line) with
  | some digits => rfl
  | none => cases flags? (Text.chomp line) <;> rfl

/-- A line that is no header is told to the record. -/
lemma step_told {line : Text} (h : header? (Text.chomp line) = none) (fits : SizeFits line)
    (r : Record) (number : Int) :
    State.step (some r) line number = .ok (some (r.told line), none) := by
  simp only [State.step, LineKind.ofLine, LineKind.ofText, h, Record.told]
  cases size : pageSize? (Text.chomp line) with
  | some digits =>
    simp only [Numeral.read_of_length_le (fits digits size)]
    rfl
  | none => cases flags? (Text.chomp line) <;> rfl

/-- Within a record a page size that is too long to be read ends the reading. -/
lemma step_overlong {line : Text} (h : header? (Text.chomp line) = none) (unfit : ¬ SizeFits line)
    (r : Record) (number : Int) :
    ∃ o, State.step (some r) line number = .error (.overlong o) := by
  obtain ⟨digits, size, long⟩ : ∃ digits, pageSize? (Text.chomp line) = some digits ∧
      ¬ digits.length ≤ Numeral.maxDigits := by
    simpa [SizeFits] using unfit
  simp only [State.step, LineKind.ofLine, LineKind.ofText, h, size, Numeral.read, if_neg long]
  exact ⟨_, rfl⟩

/-- What a step that succeeds can have been. -/
lemma step_cases {state state' : State} {line : Text} {number : Int} {closed : Option Mapping}
    (ok : state.step line number = .ok (state', closed)) :
    (∃ start stop a b, header? (Text.chomp line) = some (start, stop) ∧
      address start number = .ok a ∧ address stop number = .ok b ∧ state.close = .ok closed ∧
      state' = some { start := a, stop := b, line := number }) ∨
    (header? (Text.chomp line) = none ∧ closed = none ∧
      (state = none ∧ state' = none ∨
        ∃ r, state = some r ∧ SizeFits line ∧ state' = some (r.told line))) := by
  cases h : header? (Text.chomp line) with
  | some addresses =>
    -- Of a header each address may end the step, and so may the record that it closes.
    obtain ⟨start, stop⟩ := addresses
    left
    rw [step_header h] at ok
    cases ha : address start number with
    | error fault => rw [ha] at ok; cases ok
    | ok a =>
      cases hb : address stop number with
      | error fault => rw [ha, hb] at ok; cases ok
      | ok b =>
        cases hc : state.close with
        | error fault => rw [ha, hb, hc] at ok; cases ok
        | ok closed' =>
          rw [ha, hb, hc] at ok
          cases ok
          exact ⟨start, stop, a, b, rfl, ha, hb, rfl, rfl⟩
  | none =>
    right
    cases state with
    | none =>
      rw [step_idle h] at ok
      cases ok
      exact ⟨rfl, rfl, .inl ⟨rfl, rfl⟩⟩
    | some r =>
      by_cases fits : SizeFits line
      · rw [step_told h fits] at ok
        cases ok
        exact ⟨rfl, rfl, .inr ⟨r, rfl, fits, rfl⟩⟩
      · obtain ⟨o, overlong⟩ := step_overlong h fits r number
        rw [overlong] at ok
        cases ok

/-! ## Checks -/

/-- One thing that is checked of a snapshot. -/
structure Check where
  passes : Bool
  /-- What is wrong if it does not pass. -/
  defect : SnapshotDefect
  /-- The number of the header that it is about. -/
  line : Int

/-- What is found if the check does not pass. -/
def Check.finding (c : Check) : Finding := .snapshot c.defect (some c.line)

/-- What the first check that does not pass finds. -/
def firstFailing (checks : List Check) : Option Finding :=
  (checks.find? (!·.passes)).map Check.finding

/-- An address of a header is a hexadecimal numeral, and then it lies in the address space. -/
def addressChecks (text : Text) (line : Int) : List Check :=
  [{ passes := text.all Text.isHexDigit, defect := .notHex text, line },
    { passes := Numeral.hexValue text < addressSpace, defect := .tooWide text, line }]

/-- A record has a page size, then addresses between its bounds, and then a positive page size. -/
def Record.checks (r : Record) : List Check :=
  [{ passes := r.pageSize.isSome, defect := .noPageSize r.start r.stop, line := r.line },
    { passes := r.start < r.stop, defect := .inverted r.start r.stop, line := r.line },
    { passes := 0 < r.pageSize.getD 0
      defect := .nonPositiveSize (r.pageSize.getD 0) r.start r.stop
      line := r.line }]

/-- A mapping is what a record describes. -/
structure Record.Describes (r : Record) (m : Mapping) : Prop where
  start : r.start = m.start
  stop : r.stop = m.stop
  pageSize : r.pageSize = some (m.pageSize : Int)
  transparentHuge : m.transparentHuge = true ↔ transparentHugeFlag ∈ r.flags
  explicitHuge : m.explicitHuge = true ↔ explicitHugeFlag ∈ r.flags

/-- A result is decided by checks: the first that does not pass is its finding, and if all pass, it
is as told. -/
def Decided {α : Type} (checks : List Check) (Told : α → Prop) (result : Except Fault α) : Prop :=
  match firstFailing checks with
  | some finding => result = .error (.finding finding)
  | none => ∃ a, result = .ok a ∧ Told a

/-- The first check to fail is in the first part, or else in the second. -/
lemma firstFailing_append (checks checks' : List Check) :
    firstFailing (checks ++ checks') = (firstFailing checks).or (firstFailing checks') := by
  unfold firstFailing
  rw [List.find?_append]
  cases checks.find? (!·.passes) <;> rfl

/-- No check fails first exactly if all pass. -/
lemma firstFailing_eq_none_iff {checks : List Check} :
    firstFailing checks = none ↔ ∀ c ∈ checks, c.passes = true := by
  simp [firstFailing]

/-- Two results one after the other are decided by the checks of both. -/
lemma Decided.bind {α β : Type} {checks checks' : List Check} {Told : α → Prop} {Told' : β → Prop}
    {x : Except Fault α} {f : α → Except Fault β} (hx : Decided checks Told x)
    (hf : ∀ a, Told a → Decided checks' Told' (f a)) :
    Decided (checks ++ checks') Told' (x >>= f) := by
  unfold Decided at hx ⊢
  rw [firstFailing_append]
  cases failing : firstFailing checks with
  | some finding =>
    rw [failing] at hx
    rw [show x = _ from hx]
    rfl
  | none =>
    rw [failing] at hx
    obtain ⟨a, rfl, told⟩ := hx
    exact hf a told

/-- What follows from what is told is decided by the same checks. -/
lemma Decided.map {α β : Type} {checks : List Check} {Told : α → Prop} {Told' : β → Prop}
    {x : Except Fault α} {f : α → β} (hx : Decided checks Told x)
    (hf : ∀ a, Told a → Told' (f a)) : Decided checks Told' (x.map f) := by
  unfold Decided at hx ⊢
  cases failing : firstFailing checks with
  | some finding =>
    rw [failing] at hx
    rw [show x = _ from hx]
    rfl
  | none =>
    rw [failing] at hx
    obtain ⟨a, rfl, told⟩ := hx
    exact ⟨f a, rfl, hf a told⟩

/-- A result is decided by checks that all pass. -/
lemma Decided.of_ok {α : Type} {checks : List Check} {Told : α → Prop} {a : α}
    (decided : Decided checks Told (.ok a)) : firstFailing checks = none ∧ Told a := by
  unfold Decided at decided
  split at decided
  · cases decided
  · next failing =>
    obtain ⟨a', same, told⟩ := decided
    cases same
    exact ⟨failing, told⟩

/-- An address is decided by its checks. -/
lemma decided_address (text : Text) (line : Int) :
    Decided (addressChecks text line)
      (fun a => a = (Numeral.hexValue text : Int) ∧ isAddress a = true) (address text line) := by
  unfold address
  by_cases hex : text.all Text.isHexDigit = true
  · by_cases narrow : Numeral.hexValue text < addressSpace
    · simp [Decided, firstFailing, addressChecks, hex, narrow, isAddress]
    · simp [Decided, firstFailing, addressChecks, hex, narrow, Check.finding]
  · simp [Decided, firstFailing, addressChecks, hex, Check.finding]

/-! ## Sound records -/

/-- A record whose bounds are addresses and whose page size, if it has one, can be written. -/
structure Record.Sound (r : Record) : Prop where
  start : isAddress r.start = true
  stop : isAddress r.stop = true
  pageSize : ∀ size ∈ r.pageSize, 0 ≤ size ∧ size < Numeral.writeBound

/-- The open record, if there is one, is sound. -/
def State.Sound (state : State) : Prop := ∀ r ∈ state, r.Sound

/-- An idle state is sound. -/
lemma State.sound_none : State.Sound none := nofun

/-- Valid bounds and a positive page size make a mapping. -/
lemma ofBounds_isOk {start stop size : Int} (start_mem : isAddress start = true)
    (stop_mem : isAddress stop = true) (ordered : start < stop) (positive : 0 < size)
    (transparentHuge explicitHuge : Bool) (line : Option Int) :
    ∃ m, Mapping.ofBounds start stop size transparentHuge explicitHuge line = .ok m ∧
      start = m.start ∧ stop = m.stop ∧ size = m.pageSize ∧
      m.transparentHuge = transparentHuge ∧ m.explicitHuge = explicitHuge := by
  have inSpace : isAddress start = true ∧ isAddress stop = true := ⟨start_mem, stop_mem⟩
  rw [Mapping.ofBounds, dif_pos inSpace, dif_pos ordered, dif_pos positive]
  simp only [isAddress, Bool.and_eq_true, decide_eq_true_eq] at inSpace
  refine ⟨_, rfl, ?_, ?_, ?_, rfl, rfl⟩
  · exact (Int.toNat_of_nonneg inSpace.1.1).symm
  · exact (Int.toNat_of_nonneg inSpace.2.1).symm
  · exact (Int.toNat_of_nonneg (Int.le_of_lt positive)).symm

/-- Closing a sound record is decided by its checks. -/
lemma decided_close {r : Record} (sound : r.Sound) : Decided r.checks r.Describes r.close := by
  unfold Record.close
  cases size_eq : r.pageSize with
  | none => simp [Decided, firstFailing, Record.checks, size_eq, Check.finding]
  | some size =>
    obtain ⟨nonneg, -⟩ := sound.pageSize size size_eq
    by_cases ordered : r.start < r.stop
    · by_cases positive : 0 < size
      · obtain ⟨m, made, start, stop, pageSize, thp, huge⟩ :=
          ofBounds_isOk sound.start sound.stop ordered positive
            (r.flags.contains transparentHugeFlag) (r.flags.contains explicitHugeFlag) r.line
        have passes : firstFailing r.checks = none := by
          simp [firstFailing, Record.checks, size_eq, ordered, positive]
        have describes : r.Describes m :=
          ⟨start, stop, by rw [size_eq, pageSize], by simp [thp], by simp [huge]⟩
        simpa only [Decided, passes] using ⟨m, made, describes⟩
      · -- A size that is not positive is zero here, which can always be written.
        obtain rfl : size = 0 := by omega
        have zero : Numeral.write 0 = _ :=
          Numeral.write_of_lt (Numeral.pow_le_writeBound (Nat.zero_le _))
        simp [Decided, firstFailing, Record.checks, size_eq, ordered, Check.finding, zero,
          Mapping.ofBounds, sound.start, sound.stop]
        rfl
    · simp [Decided, firstFailing, Record.checks, size_eq, ordered, Check.finding,
        Mapping.ofBounds, sound.start, sound.stop]

/-- Closing a sound open record gives its mapping. -/
lemma decided_closeOpen {r : Record} (sound : r.Sound) :
    Decided r.checks (fun closed => ∃ m, some m = closed ∧ r.Describes m) (State.close (some r)) :=
  (decided_close sound).map fun m describes => ⟨m, rfl, describes⟩

/-- The page size of a mapping that a sound record describes can be written. -/
lemma Record.Describes.lt_writeBound {r : Record} {m : Mapping} (describes : r.Describes m)
    (sound : r.Sound) : m.pageSize < Numeral.writeBound := by
  have := (sound.pageSize _ describes.pageSize).2
  exact_mod_cast this

/-- Being told a line keeps a record sound. -/
lemma Record.Sound.told {r : Record} {line : Text} (sound : r.Sound) (fits : SizeFits line) :
    (r.told line).Sound := by
  unfold Record.told
  cases size : pageSize? (Text.chomp line) with
  | some digits =>
    refine ⟨sound.start, sound.stop, ?_⟩
    rintro _ ⟨⟩
    have bound := Numeral.lt_writeBound_of_read (Numeral.read_of_length_le (fits digits size))
    omega
  | none =>
    cases flags? (Text.chomp line) with
    | some words => exact ⟨sound.start, sound.stop, sound.pageSize⟩
    | none => exact sound

/-- What is taken for an address is one. -/
lemma isAddress_of_address {text : Text} {line a : Int} (ok : address text line = .ok a) :
    isAddress a = true := by
  have decided := decided_address text line
  rw [ok] at decided
  exact decided.of_ok.2.2

/-- The page size of a mapping that a sound state closes can be written. -/
lemma State.Sound.lt_writeBound_of_close {state : State} {m : Mapping} (sound : state.Sound)
    (ok : state.close = .ok (some m)) : m.pageSize < Numeral.writeBound := by
  cases state with
  | none => cases ok
  | some r =>
    have decided := decided_closeOpen (sound r rfl)
    rw [ok] at decided
    obtain ⟨-, _, ⟨⟩, describes⟩ := decided.of_ok
    exact describes.lt_writeBound (sound r rfl)

/-- Every step keeps the open record sound, and the mapping that it closes can be described. -/
lemma State.Sound.step {state state' : State} {line : Text} {number : Int}
    {closed : Option Mapping} (sound : state.Sound)
    (ok : state.step line number = .ok (state', closed)) :
    state'.Sound ∧ ∀ m ∈ closed, m.pageSize < Numeral.writeBound := by
  obtain ⟨start, stop, a, b, -, ha, hb, closes, rfl⟩ |
    ⟨-, rfl, ⟨rfl, rfl⟩ | ⟨r, rfl, fits, rfl⟩⟩ := step_cases ok
  · refine ⟨?_, fun m closed => ?_⟩
    · rintro _ ⟨⟩
      exact ⟨isAddress_of_address ha, isAddress_of_address hb, nofun⟩
    · obtain rfl := closed
      exact sound.lt_writeBound_of_close closes
  · exact ⟨nofun, nofun⟩
  · refine ⟨?_, nofun⟩
    rintro _ ⟨⟩
    exact (sound r rfl).told fits

end PageAudit.Snapshot
