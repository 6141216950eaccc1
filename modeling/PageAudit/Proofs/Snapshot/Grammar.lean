import Mathlib.Tactic.Lemma
import PageAudit.Snapshot.Line

/-!
# The grammar of snapshot lines

What the three kinds of line look like, told as texts put together: a header (`IsHeader`), a page
size (`IsPageSize`) and a list of flags (`IsFlags`). These are the lines that are read
(`header?_eq_some_iff`, `pageSize?_eq_some_iff`, `flags?_eq_some_iff`). A line of one kind is of no
other, and a line of none is `Noise`.

Of a header only what stands before the blank behind its permissions counts: `Heading` tells that
part alone.
-/

namespace PageAudit

namespace Text

/-- The words of a text are what stands between its blanks, less what is empty. -/
lemma words_eq_splitOnP (cs : Text) : words cs = (cs.splitOnP isBlank).filter (!·.isEmpty) := by
  -- The word being gathered is the first part, and may be empty.
  have found (cs : Text) : ∃ first rest, cs.splitOnP isBlank = first :: rest ∧
      cs.foldr growWord ([], []) = (first, rest.filter (!·.isEmpty)) := by
    induction cs with
    | nil => exact ⟨[], [], rfl, rfl⟩
    | cons c cs ih =>
      obtain ⟨first, rest, split, grown⟩ := ih
      rw [List.splitOnP_cons_eq_if_modifyHead, split, List.foldr_cons, grown, growWord]
      split
      · refine ⟨[], first :: rest, rfl, ?_⟩
        cases first <;> rfl
      · exact ⟨c :: first, rest, rfl, rfl⟩
  obtain ⟨first, rest, split, grown⟩ := found cs
  rw [words, grown, split]
  cases first <;> rfl

/-- A text is cut in one way into a run of some class and the rest. -/
lemma run_append {p : CodePoint → Bool} {run : Text} (all : run.all p = true) (rest : Text)
    (stops : ∀ c ∈ rest.head?, p c = false) :
    (run ++ rest).takeWhile p = run ∧ (run ++ rest).dropWhile p = rest := by
  have all := List.all_eq_true.mp all
  rw [List.takeWhile_append_of_pos all, List.dropWhile_append_of_pos all]
  cases rest with
  | nil => exact ⟨List.append_nil _, rfl⟩
  | cons c rest =>
    have stop := stops c rfl
    rw [List.takeWhile_cons, List.dropWhile_cons, stop]
    exact ⟨List.append_nil _, rfl⟩

end Text

namespace Snapshot

/-! ## The three kinds of line -/

/-- A header up to its permissions: two addresses with a dash between them, a space and four
permissions. -/
structure Heading (front start stop : Text) : Prop where
  start_ne : start ≠ []
  start_all : start.all isAddressChar = true
  stop_ne : stop ≠ []
  stop_all : stop.all isAddressChar = true
  split : ∃ permissions : Text, front = start ++ .char '-' :: (stop ++ .char ' ' :: permissions) ∧
    permissions.length = 4 ∧ permissions.all isPermission = true

/-- A header with these addresses: behind its permissions it ends or goes on with a blank. -/
def IsHeader (cs start stop : Text) : Prop :=
  ∃ front rest, Heading front start stop ∧ cs = front ++ rest ∧
    ∀ c ∈ rest.head?, Text.isBlank c = true

/-- A page size in these digits: the label, blanks, the digits and ` kB`, whatever comes after. -/
def IsPageSize (cs digits : Text) : Prop :=
  ∃ blanks rest : Text, cs = pageSizeLabel ++ (blanks ++ (digits ++ (" kB" ++ rest))) ∧
    blanks.all Text.isBlank = true ∧ digits ≠ [] ∧ digits.all Text.isDigit = true

/-- A list of flags: the label and a text without line feeds, whose words the flags are. -/
def IsFlags (cs flags : Text) : Prop := cs = flagsLabel ++ flags ∧ CodePoint.char '\n' ∉ flags

/-- A line that is of none of the three kinds. -/
structure Noise (line : Text) : Prop where
  no_header : ∀ start stop, ¬IsHeader (Text.chomp line) start stop
  no_pageSize : ∀ digits, ¬IsPageSize (Text.chomp line) digits
  no_flags : ∀ flags, ¬IsFlags (Text.chomp line) flags

variable {cs start stop digits flags front rest : Text}

/-! ## What is read of a line -/

/-- Permissions stand first exactly if four of their characters do, with a blank or nothing behind.
-/
lemma startsWithPermissions_iff :
    startsWithPermissions cs = true ↔ ∃ permissions rest : Text, cs = permissions ++ rest ∧
      permissions.length = 4 ∧ permissions.all isPermission = true ∧
      ∀ c ∈ rest.head?, Text.isBlank c = true := by
  constructor
  · intro starts
    unfold startsWithPermissions at starts
    split at starts
    · next a b c d rest =>
      simp only [Bool.and_eq_true] at starts
      obtain ⟨⟨⟨⟨ha, hb⟩, hc⟩, hd⟩, ends⟩ := starts
      refine ⟨[a, b, c, d], rest, rfl, rfl, by simp [ha, hb, hc, hd], ?_⟩
      rintro e head
      cases rest with
      | nil => cases head
      | cons e' rest =>
        cases head
        exact ends
    · cases starts
  · rintro ⟨permissions, rest, rfl, four, all, ends⟩
    match permissions, four with
    | [a, b, c, d], _ =>
      simp only [List.all_cons, List.all_nil, Bool.and_true, Bool.and_eq_true] at all
      obtain ⟨ha, hb, hc, hd⟩ := all
      cases rest with
      | nil => simp [startsWithPermissions, ha, hb, hc, hd]
      | cons e rest => simp [startsWithPermissions, ha, hb, hc, hd, ends e rfl]

/-- Whatever follows a heading, if it is a blank or nothing, the header is read. -/
lemma Heading.header? (heading : Heading front start stop)
    (ends : ∀ c ∈ rest.head?, Text.isBlank c = true) :
    header? (front ++ rest) = some (start, stop) := by
  obtain ⟨permissions, rfl, four, all⟩ := heading.split
  have starts : startsWithPermissions (permissions ++ rest) = true :=
    startsWithPermissions_iff.mpr ⟨permissions, rest, rfl, four, all, ends⟩
  -- Neither the dash nor the space is a character of an address.
  obtain ⟨start_taken, start_left⟩ := Text.run_append (p := isAddressChar) heading.start_all
    (.char '-' :: (stop ++ .char ' ' :: (permissions ++ rest)))
    (fun c head => by cases head; rfl)
  obtain ⟨stop_taken, stop_left⟩ := Text.run_append (p := isAddressChar) heading.stop_all
    (.char ' ' :: (permissions ++ rest)) (fun c head => by cases head; rfl)
  obtain ⟨a, start, rfl⟩ := List.exists_cons_of_ne_nil heading.start_ne
  obtain ⟨b, stop, rfl⟩ := List.exists_cons_of_ne_nil heading.stop_ne
  have whole : (a :: start) ++ .char '-' :: ((b :: stop) ++ .char ' ' :: permissions) ++ rest =
      (a :: start) ++ .char '-' :: ((b :: stop) ++ .char ' ' :: (permissions ++ rest)) := by simp
  unfold Snapshot.header?
  rw [whole, start_taken, start_left]
  simp only [stop_taken, stop_left]
  exact if_pos starts

/-- The header is read exactly as the grammar has it. -/
lemma header?_eq_some_iff : header? cs = some (start, stop) ↔ IsHeader cs start stop := by
  constructor
  · intro read
    unfold header? at read
    split at read
    · next a start' behind start_taken start_left =>
      split at read
      · next b stop' ending stop_taken stop_left =>
        split at read
        · next starts =>
          cases read
          obtain ⟨permissions, rest, rfl, four, all, ends⟩ := startsWithPermissions_iff.mp starts
          have start_all : (a :: start').all isAddressChar = true :=
            start_taken ▸ List.all_takeWhile
          have stop_all : (b :: stop').all isAddressChar = true := stop_taken ▸ List.all_takeWhile
          have cs_eq := List.takeWhile_append_dropWhile (p := isAddressChar) (l := cs)
          have behind_eq := List.takeWhile_append_dropWhile (p := isAddressChar) (l := behind)
          rw [start_taken, start_left] at cs_eq
          rw [stop_taken, stop_left] at behind_eq
          refine ⟨(a :: start') ++ .char '-' :: ((b :: stop') ++ .char ' ' :: permissions), rest,
            ⟨nofun, start_all, nofun, stop_all, permissions, rfl, four, all⟩, ?_, ends⟩
          rw [← cs_eq, ← behind_eq]
          simp
        · cases read
      · cases read
    · cases read
  · rintro ⟨front, rest, heading, rfl, ends⟩
    exact heading.header? ends

/-- No blank is a digit: no run of ten digits reaches it. -/
lemma isDigit_of_isBlank {c : CodePoint} (blank : Text.isBlank c = true) :
    Text.isDigit c = false := by
  have apart : ∀ base ∈ Text.digitZeros, base = 0x30 ∨
      0xa0 < base ∧ base + 10 ≤ 0x1680 ∨ 0x1680 < base ∧ base + 10 ≤ 0x2000 ∨ 0x3000 < base := by
    decide
  cases digit : Text.isDigit c with
  | false => rfl
  | true =>
    obtain ⟨value, spelled⟩ := Option.isSome_iff_exists.mp digit
    obtain ⟨base, found, -⟩ := Option.map_eq_some_iff.mp spelled
    have place := apart base (List.mem_of_find?_eq_some found)
    have reached := List.find?_some found
    simp only [Bool.and_eq_true, decide_eq_true_eq] at reached
    simp only [Text.isBlank, Bool.or_eq_true, Bool.and_eq_true, decide_eq_true_eq, beq_iff_eq]
      at blank
    omega

/-- The page size is read exactly as the grammar has it. -/
lemma pageSize?_eq_some_iff : pageSize? cs = some digits ↔ IsPageSize cs digits := by
  constructor
  · intro read
    unfold pageSize? at read
    split at read
    · cases read
    · next behind after =>
      dsimp only at read
      split at read
      · next d digits' ending taken left =>
        cases read
        rw [Text.after?_eq_some_iff] at after left
        refine ⟨behind.takeWhile Text.isBlank, ending, ?_, List.all_takeWhile, nofun,
          taken ▸ List.all_takeWhile⟩
        rw [after, ← left, ← taken, List.takeWhile_append_dropWhile,
          List.takeWhile_append_dropWhile]
      · cases read
  · rintro ⟨blanks, rest, rfl, blank, nonempty, digital⟩
    obtain ⟨d, digits, rfl⟩ := List.exists_cons_of_ne_nil nonempty
    have solid : Text.isBlank d = false := by
      rw [List.all_cons, Bool.and_eq_true] at digital
      cases blank : Text.isBlank d with
      | false => rfl
      | true => cases digital.1.symm.trans (isDigit_of_isBlank blank)
    obtain ⟨-, blanks_left⟩ := Text.run_append (p := Text.isBlank) blank
      (d :: digits ++ (" kB" ++ rest)) (fun c head => by cases head; exact solid)
    obtain ⟨digits_taken, digits_left⟩ := Text.run_append (p := Text.isDigit) digital
      (" kB" ++ rest) (fun c head => by cases head; rfl)
    unfold pageSize?
    rw [Text.after?_eq_some_iff.mpr rfl]
    dsimp only
    rw [blanks_left, digits_taken, digits_left, Text.after?_eq_some_iff.mpr rfl]

/-- The flags are read exactly as the grammar has them. -/
lemma flags?_eq_some_iff {words : List Text} :
    flags? cs = some words ↔ ∃ flags, IsFlags cs flags ∧ words = Text.words flags := by
  constructor
  · intro read
    unfold flags? at read
    split at read
    · cases read
    · next flags after =>
      rw [Text.after?_eq_some_iff] at after
      split at read
      · cases read
      · next unbroken =>
        cases read
        exact ⟨flags, ⟨after, by simpa using unbroken⟩, rfl⟩
  · rintro ⟨flags, ⟨rfl, unbroken⟩, rfl⟩
    simp [flags?, Text.after?_eq_some_iff.mpr rfl, unbroken]

/-! ## A line is of one kind -/

/-- A line with a page size is no header. -/
lemma header?_of_isPageSize (sized : IsPageSize cs digits) : header? cs = none := by
  obtain ⟨blanks, rest, rfl, -⟩ := sized
  rfl

/-- A line with flags is no header. -/
lemma header?_of_isFlags (flagged : IsFlags cs flags) : header? cs = none := by
  obtain ⟨rfl, -⟩ := flagged
  rfl

/-- A line with flags has no page size. -/
lemma pageSize?_of_isFlags (flagged : IsFlags cs flags) : pageSize? cs = none := by
  obtain ⟨rfl, -⟩ := flagged
  rfl

/-- A line is noise exactly if it is read as none of the three. -/
lemma noise_iff {line : Text} : Noise line ↔
    header? (Text.chomp line) = none ∧ pageSize? (Text.chomp line) = none ∧
      flags? (Text.chomp line) = none := by
  simp only [Option.eq_none_iff_forall_ne_some]
  constructor
  · intro noise
    refine ⟨?_, ?_, ?_⟩
    · rintro ⟨start, stop⟩ read
      exact noise.no_header start stop (header?_eq_some_iff.mp read)
    · intro digits read
      exact noise.no_pageSize digits (pageSize?_eq_some_iff.mp read)
    · intro words read
      obtain ⟨flags, flagged, -⟩ := flags?_eq_some_iff.mp read
      exact noise.no_flags flags flagged
  · rintro ⟨no_header, no_pageSize, no_flags⟩
    refine ⟨?_, ?_, ?_⟩
    · intro start stop header
      exact no_header _ (header?_eq_some_iff.mpr header)
    · intro digits sized
      exact no_pageSize _ (pageSize?_eq_some_iff.mpr sized)
    · intro flags flagged
      exact no_flags _ (flags?_eq_some_iff.mpr ⟨flags, flagged, rfl⟩)

end Snapshot

end PageAudit
