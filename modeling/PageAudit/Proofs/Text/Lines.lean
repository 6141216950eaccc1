import Mathlib.Data.List.Basic
import PageAudit.Proofs.Numeral
import PageAudit.Text.Lines

/-!
# Lines and the text they are cut from

Ends of line become line feeds before a text is cut, each by the character before it
(`unifyFrom_append`). A text whose only ends of line are those of files has the same lines when it
is posted, less what ends them (`postedLines_eq`); and `chomp` does not see that difference
(`chomp_dropLineFeed`).
-/

namespace PageAudit.Text

/-! ## Unified ends of line -/

/-- The rest of a text with every end of line written as one line feed, given the character before
it. -/
def unifyFrom (isBreak : CodePoint → Bool) (before : CodePoint) (cs : Text) : Text :=
  (cs.zip (before :: cs)).filterMap (unifyBreak isBreak)

variable {isBreak : CodePoint → Bool} {before c : CodePoint} {cs : Text}

/-- The rest of a text from one character to the next. -/
lemma unifyFrom_cons :
    unifyFrom isBreak before (c :: cs) =
      (unifyBreak isBreak (c, before)).toList ++ unifyFrom isBreak c cs := by
  unfold unifyFrom
  rw [List.zip_cons_cons, List.filterMap_cons]
  cases unifyBreak isBreak (c, before) <;> rfl

/-! ## The lines of a posted text -/

/-- Every end of line in the text is one in a file, too. -/
def PlainBreaks (cs : Text) : Prop := ∀ c ∈ cs, isPostedBreak c = true → isFileBreak c = true

/-- Whether a text has only the ends of line of files is decided by its characters. -/
instance (cs : Text) : Decidable (PlainBreaks cs) :=
  inferInstanceAs (Decidable (∀ c ∈ cs, isPostedBreak c = true → isFileBreak c = true))

/-- The ends of line of files end the lines of posted texts, too. -/
lemma isPostedBreak_of_isFileBreak (h : isFileBreak c = true) : isPostedBreak c = true := by
  simp only [isFileBreak, Bool.or_eq_true, beq_iff_eq] at h
  obtain rfl | rfl := h <;> decide

/-- A text whose ends of line are those of files has the same lines when it is posted, less what
ends them. -/
lemma postedLines_eq (plain : PlainBreaks cs) :
    postedLines cs = (fileLines cs).map dropLineFeed := by
  have same : unifyBreaks isPostedBreak cs = unifyBreaks isFileBreak cs := by
    refine List.filterMap_congr ?_
    rintro ⟨c, before⟩ mem
    have break_eq : isPostedBreak c = isFileBreak c :=
      Bool.eq_iff_iff.mpr ⟨plain c (List.of_mem_zip mem).1, isPostedBreak_of_isFileBreak⟩
    simp only [unifyBreak, break_eq]
  rw [postedLines, same, fileLines]

/-- Without the line feeds at its end a line is the same whether or not one was dropped before. -/
lemma chomp_dropLineFeed (line : Text) : chomp (dropLineFeed line) = chomp line := by
  unfold dropLineFeed
  split
  · next ends =>
    obtain ⟨front, rfl⟩ := List.getLast?_eq_some_iff.mp ends
    simp [chomp]
  · rfl

/-- Nothing is taken off a line without line feeds. -/
lemma chomp_eq {line : Text} (unbroken : CodePoint.char '\n' ∉ line) : chomp line = line := by
  have kept : line.reverse.dropWhile (fun (c : CodePoint) => c == '\n') = line.reverse := by
    cases reversed : line.reverse with
    | nil => rfl
    | cons c rest =>
      have mem : c ∈ line := by
        rw [← List.mem_reverse, reversed]
        exact List.mem_cons_self
      have other : c ≠ CodePoint.char '\n' := by
        rintro rfl
        exact unbroken mem
      simp [other]
  rw [chomp, kept, List.reverse_reverse]

/-- Of a line that ends with one line feed only this is taken off. -/
lemma chomp_append_lineFeed {line : Text} (single : line.getLast? ≠ some (.char '\n')) :
    chomp (line ++ [.char '\n']) = line := by
  rcases List.eq_nil_or_concat line with rfl | ⟨front, c, rfl⟩
  · rfl
  · have last : c ≠ CodePoint.char '\n' := by simpa using single
    simp [chomp, last]

/-- Of a line with or without a line feed at its end only this is taken off. -/
lemma chomp_append_ending {line ending : Text} (unbroken : CodePoint.char '\n' ∉ line)
    (fed : ending = [] ∨ ending = [CodePoint.char '\n']) : chomp (line ++ ending) = line := by
  obtain rfl | rfl := fed
  · rw [List.append_nil, chomp_eq unbroken]
  · exact chomp_append_lineFeed fun last => unbroken (List.mem_of_getLast? last)

/-! ## Cutting where the line feeds are -/

/-- Without a carriage return nothing is unified. -/
lemma unifyBreaks_of_not_mem (single : CodePoint.char '\r' ∉ cs) :
    unifyBreaks isFileBreak cs = cs := by
  have unified (before : CodePoint) (h : before ≠ '\r') : unifyFrom isFileBreak before cs = cs := by
    induction cs generalizing before with
    | nil => rfl
    | cons c cs ih =>
      rw [List.mem_cons, not_or] at single
      rw [unifyFrom_cons, ih single.2 c (Ne.symm single.1)]
      by_cases fed : c = '\n' <;> simp [unifyBreak, isFileBreak, h, fed, Ne.symm single.1]
  exact unified (.char ' ') (by decide)

/-- A text without line feeds is its only line. -/
lemma cutLines_of_not_mem {line : Text} (unbroken : CodePoint.char '\n' ∉ line) :
    cutLines line = if line = [] then [] else [line] := by
  -- Without a line feed every character goes on with the only line.
  induction line with
  | nil => rfl
  | cons c line ih =>
    rw [List.mem_cons, not_or] at unbroken
    show growLine c (cutLines line) = _
    rw [ih unbroken.2]
    cases line with
    | nil => rfl
    | cons d line => exact if_neg (Ne.symm unbroken.1)

/-- A text is cut after its first line feed. -/
lemma cutLines_append {line : Text} (unbroken : CodePoint.char '\n' ∉ line) (rest : Text) :
    cutLines (line ++ .char '\n' :: rest) = (line ++ [.char '\n']) :: cutLines rest := by
  induction line with
  | nil =>
    show growLine (.char '\n') (cutLines rest) = _
    cases cutLines rest <;> rfl
  | cons c line ih =>
    rw [List.mem_cons, not_or] at unbroken
    show growLine c (cutLines (line ++ .char '\n' :: rest)) = _
    rw [ih unbroken.2]
    exact if_neg (Ne.symm unbroken.1)

/-! ## A piece without ends of line -/

/-- The second part of a text is unified from the last character of the first. -/
lemma unifyFrom_append (xs ys : Text) :
    unifyFrom isBreak before (xs ++ ys) =
      unifyFrom isBreak before xs ++ unifyFrom isBreak (xs.getLast?.getD before) ys := by
  induction xs generalizing before with
  | nil => rfl
  | cons c xs ih =>
    rw [List.cons_append, unifyFrom_cons, unifyFrom_cons, ih, List.append_assoc,
      List.getLast?_cons, Option.getD_some]

/-- Of what stands before a text only a carriage return matters. -/
lemma unifyFrom_eq (single : before ≠ '\r') :
    unifyFrom isBreak before cs = unifyBreaks isBreak cs := by
  have plain : CodePoint.char ' ' ≠ '\r' := by decide
  cases cs with
  | nil => rfl
  | cons c cs =>
    show _ = unifyFrom isBreak (.char ' ') (c :: cs)
    simp [unifyFrom_cons, unifyBreak, single, plain]

/-- One character more is unified by the one before it. -/
lemma unifyBreaks_concat (cs : Text) (c : CodePoint) :
    unifyBreaks isBreak (cs ++ [c]) =
      unifyBreaks isBreak cs ++ (unifyBreak isBreak (c, cs.getLast?.getD (.char ' '))).toList := by
  show unifyFrom isBreak (.char ' ') (cs ++ [c]) = _
  rw [unifyFrom_append, unifyFrom_cons]
  simp [unifyFrom, unifyBreaks]

/-- A text that ends no line is left as it is. -/
lemma unifyFrom_of_unbroken (unbroken : ∀ c ∈ cs, isFileBreak c = false) :
    unifyFrom isFileBreak before cs = cs := by
  induction cs generalizing before with
  | nil => rfl
  | cons c cs ih =>
    rw [List.forall_mem_cons] at unbroken
    have other : c ≠ CodePoint.char '\n' := by
      rintro rfl
      cases unbroken.1
    rw [unifyFrom_cons, ih unbroken.2]
    simp [unifyBreak, unbroken.1, other]

/-- A text with an end of line at its end has a line feed there once the ends of line are unified.
-/
lemma getLast?_unifyBreaks (ends : ∀ c ∈ cs.getLast?, isFileBreak c = true) :
    ∀ c ∈ (unifyBreaks isFileBreak cs).getLast?, c = CodePoint.char '\n' := by
  have returned (front : Text) :
      unifyBreaks isFileBreak (front ++ [.char '\r']) =
        unifyBreaks isFileBreak front ++ [.char '\n'] := unifyBreaks_concat front _
  rcases List.eq_nil_or_concat' cs with rfl | ⟨front, c, rfl⟩
  · exact nofun
  rw [List.getLast?_concat] at ends
  rw [unifyBreaks_concat]
  by_cases paired : c = '\n' ∧ front.getLast?.getD (.char ' ') = '\r'
  · -- The line feed adds nothing to the carriage return before it, which is one already.
    rcases List.eq_nil_or_concat' front with rfl | ⟨front, d, rfl⟩
    · exact absurd paired.2 (by decide)
    · rw [List.getLast?_concat, Option.getD_some] at paired
      obtain ⟨rfl, rfl⟩ := paired
      rw [returned, List.getLast?_concat, Option.getD_some,
        show (unifyBreak isFileBreak (.char '\n', .char '\r')).toList = [] from rfl,
        List.append_nil, List.getLast?_concat]
      rintro c ⟨⟩
      rfl
  · have fed : unifyBreak isFileBreak (c, front.getLast?.getD (.char ' ')) =
        some (.char '\n') := by
      rw [unifyBreak, if_neg paired, if_pos (ends c rfl)]
    rw [fed, Option.toList_some, List.getLast?_concat]
    rintro c ⟨⟩
    rfl

/-- Cutting behind a line feed cuts both parts. -/
lemma cutLines_append_of_ended {xs : Text} (ended : ∀ c ∈ xs.getLast?, c = CodePoint.char '\n')
    (ys : Text) : cutLines (xs ++ ys) = cutLines xs ++ cutLines ys := by
  induction xs with
  | nil => rfl
  | cons c xs ih =>
    show growLine c (cutLines (xs ++ ys)) = growLine c (cutLines xs) ++ cutLines ys
    cases xs with
    | nil =>
      obtain rfl := ended c rfl
      rw [List.nil_append]
      cases cutLines ys <;> rfl
    | cons d xs =>
      rw [List.getLast?_cons_cons] at ended
      rw [ih ended]
      cases cut : cutLines (d :: xs) with
      | nil =>
        have whole := flatten_cutLines (d :: xs)
        rw [cut] at whole
        cases whole
      | cons line lines =>
        simp only [List.cons_append, growLine]
        split <;> rfl

/-- A piece that ends no line stands within one line, and what is around that line is the same
whatever the piece is. -/
lemma exists_fileLines_around {above below : Text}
    (starts : ∀ c ∈ above.getLast?, isFileBreak c = true)
    (ends : ∀ c ∈ below.head?, isFileBreak c = true) :
    ∃ linesAbove linesBelow ending, (ending = [] ∨ ending = [CodePoint.char '\n']) ∧
      ∀ piece, piece ≠ [] → (∀ c ∈ piece, isFileBreak c = false) →
        fileLines (above ++ (piece ++ below)) = linesAbove ++ (piece ++ ending) :: linesBelow := by
  have unified (piece : Text) (nonempty : piece ≠ [])
      (unbroken : ∀ c ∈ piece, isFileBreak c = false) :
      fileLines (above ++ (piece ++ below)) =
        cutLines (unifyBreaks isFileBreak above) ++
          cutLines (piece ++ unifyBreaks isFileBreak below) := by
    have single : (piece.getLast?.getD (above.getLast?.getD (.char ' '))) ≠ '\r' := by
      rcases List.eq_nil_or_concat' piece with rfl | ⟨front, c, rfl⟩
      · exact absurd rfl nonempty
      · rw [List.getLast?_concat, Option.getD_some]
        rintro rfl
        cases unbroken '\r' (by simp)
    have pieces : unifyBreaks isFileBreak (above ++ (piece ++ below)) =
        unifyBreaks isFileBreak above ++ (piece ++ unifyBreaks isFileBreak below) := by
      show unifyFrom isFileBreak (.char ' ') _ = _
      rw [unifyFrom_append, unifyFrom_append, unifyFrom_of_unbroken unbroken, unifyFrom_eq single]
      rfl
    rw [fileLines, pieces, cutLines_append_of_ended (getLast?_unifyBreaks starts)]
  have unfed (piece : Text) (unbroken : ∀ c ∈ piece, isFileBreak c = false) :
      CodePoint.char '\n' ∉ piece := fun mem => by cases unbroken _ mem
  cases below with
  | nil =>
    refine ⟨cutLines (unifyBreaks isFileBreak above), [], [], .inl rfl, ?_⟩
    intro piece nonempty unbroken
    rw [unified piece nonempty unbroken, show unifyBreaks isFileBreak [] = [] from rfl,
      List.append_nil, cutLines_of_not_mem (unfed piece unbroken), if_neg nonempty]
  | cons b below =>
    refine ⟨cutLines (unifyBreaks isFileBreak above), cutLines (unifyFrom isFileBreak b below),
      [.char '\n'], .inr rfl, ?_⟩
    intro piece nonempty unbroken
    have plain : ¬(b = '\n' ∧ CodePoint.char ' ' = '\r') := by simp
    have fed : unifyBreaks isFileBreak (b :: below) =
        .char '\n' :: unifyFrom isFileBreak b below := by
      show unifyFrom isFileBreak (.char ' ') _ = _
      rw [unifyFrom_cons, unifyBreak, if_neg plain, if_pos (ends b rfl)]
      rfl
    rw [unified piece nonempty unbroken, fed, cutLines_append (unfed piece unbroken)]

end PageAudit.Text
