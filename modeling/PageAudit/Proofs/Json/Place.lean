import Mathlib.Data.List.TakeWhile
import Mathlib.Tactic.Lemma
import PageAudit.Json.Reader

/-!
# Places in a JSON text

A place in a text is outside of strings or in one, and so many objects and arrays are open there. It
is told from the characters before it (`Place.step`), whether or not these are JSON. So there are
two things to be said of any text: that an integer in it is too long where a value may begin
(`HasLongInteger`), and that an object or array begins in it inside more others than there is room
for (`NestsBeyond`). Neither is true of a short text.
-/

namespace PageAudit.Json

/-- The character opens an object or an array. -/
def opens (c : CodePoint) : Bool := c == '{' || c == '['

/-- The character closes an object or an array. -/
def closes (c : CodePoint) : Bool := c == '}' || c == ']'

/-- A place in a text, with the number of objects and arrays that are open there. -/
inductive Place where
  | outside (depth : Nat)
  /-- In a string. -/
  | quoted (depth : Nat)
  /-- In a string, behind a backslash. -/
  | escaped (depth : Nat)

namespace Place

/-- The place behind one more character. -/
def step : Place → CodePoint → Place
  | outside depth, c =>
    if c = '"' then quoted depth
    else if opens c then outside (depth + 1)
    else if closes c then outside (depth - 1)
    else outside depth
  | quoted depth, c =>
    if c = '"' then outside depth else if c = '\\' then escaped depth else quoted depth
  | escaped depth, _ => quoted depth

/-- How many objects and arrays are open. -/
def depth : Place → Nat
  | outside depth | quoted depth | escaped depth => depth

/-- Each character opens one at most. -/
lemma depth_step_le (p : Place) (c : CodePoint) : (p.step c).depth ≤ p.depth + 1 := by
  cases p with
  | outside | quoted =>
    simp only [step]
    split_ifs <;> simp only [depth] <;> omega
  | escaped => exact Nat.le_succ _

/-- A text leads no deeper than by its length. -/
lemma depth_foldl_le (before : Text) (p : Place) :
    (before.foldl step p).depth ≤ p.depth + before.length := by
  induction before generalizing p with
  | nil => exact Nat.le_refl _
  | cons c before ih =>
    have rest := ih (p.step c)
    have first := depth_step_le p c
    rw [List.foldl_cons, List.length_cons]
    omega

end Place

open Place (outside quoted escaped)

/-- From one place in a text the reading comes to another, where this is left. -/
def Passes (p : Place) (cs : Text) (q : Place) (rest : Text) : Prop :=
  ∃ before, before ++ rest = cs ∧ before.foldl Place.step p = q

/-- The character may stand in a number, in its first place or a later one. -/
def inNumber (c : CodePoint) : Bool :=
  Text.isAsciiDigit c || c == '-' || c == '+' || c == '.' || c == 'e' || c == 'E'

/-- The reading comes to a place where a number, if there is one, begins. -/
def Leads (p : Place) (cs : Text) (q : Place) (rest : Text) : Prop :=
  ∃ before, before ++ rest = cs ∧ before.foldl Place.step p = q ∧
    ∀ c ∈ before.getLast?, inNumber c = false

/-- At the front of the text stands an integer that is too long. -/
structure LongInteger (cs : Text) : Prop where
  fraction : (NumberText.of cs).fraction = []
  exponent : (NumberText.of cs).exponent = []
  long : Numeral.maxDigits < (NumberText.of cs).whole.length

/-- Outside of its strings the text has an integer that is too long. -/
def HasLongInteger (text : Text) : Prop :=
  ∃ depth rest, Leads (outside 0) text (outside depth) rest ∧ LongInteger rest

/-- Outside of its strings the text opens an object or array where so many are open. -/
def NestsBeyond (room : Nat) (text : Text) : Prop :=
  ∃ c rest, Passes (outside 0) text (outside room) (c :: rest) ∧ opens c = true

section

variable {p q r : Place} {cs part rest before : Text} {c : CodePoint} {depth : Nat}

/-! ## Ways through a text -/

/-- Nothing is passed without reading. -/
lemma Passes.refl (p : Place) (cs : Text) : Passes p cs p cs := ⟨[], rfl, rfl⟩

/-- What is passed in two parts is passed. -/
lemma Passes.trans (h : Passes p cs q part) (h' : Passes q part r rest) : Passes p cs r rest := by
  obtain ⟨before, rfl, rfl⟩ := h
  obtain ⟨between, rfl, rfl⟩ := h'
  exact ⟨before ++ between, List.append_assoc .., List.foldl_append⟩

/-- One character is passed by a step. -/
lemma passes_cons (p : Place) (c : CodePoint) (rest : Text) :
    Passes p (c :: rest) (p.step c) rest := ⟨[c], rfl, rfl⟩

/-- Characters that do not change the place may be passed over. -/
lemma passes_append (still : ∀ c ∈ before, p.step c = p) (rest : Text) :
    Passes p (before ++ rest) p rest := by
  refine ⟨before, rfl, ?_⟩
  induction before with
  | nil => rfl
  | cons c before ih =>
    rw [List.foldl_cons, still c List.mem_cons_self]
    exact ih fun c mem => still c (List.mem_cons_of_mem _ mem)

/-- A part at the front that does not change the place may be dropped. -/
lemma passes_drop (still : ∀ c ∈ before, p.step c = p) (h : before <+: cs) :
    Passes p cs p (cs.drop before.length) := by
  obtain ⟨rest, rfl⟩ := h
  rw [List.drop_left]
  exact passes_append still rest

/-- A reader that reads nothing stays where it is. -/
lemma Leads.refl (p : Place) (cs : Text) : Leads p cs p cs := ⟨[], rfl, rfl, nofun⟩

/-- What leads to a place passes to it. -/
lemma Leads.passes (h : Leads p cs q rest) : Passes p cs q rest := by
  obtain ⟨before, whole, scanned, -⟩ := h
  exact ⟨before, whole, scanned⟩

/-- What leads on from where it has led, leads there. -/
lemma Leads.trans (h : Leads p cs q part) (h' : Leads q part r rest) : Leads p cs r rest := by
  obtain ⟨before, rfl, rfl, apart⟩ := h
  obtain ⟨between, rfl, rfl, apart'⟩ := h'
  refine ⟨before ++ between, List.append_assoc .., List.foldl_append, fun c last => ?_⟩
  -- The last character read is that of the second way, unless nothing is read on it.
  rw [List.getLast?_append] at last
  cases ended : between.getLast? with
  | none =>
    rw [ended] at last
    exact apart c last
  | some c' =>
    rw [ended] at last
    cases last
    exact apart' c ended

/-- Behind a character that is in no number a number can begin. -/
lemma Passes.leads_of_cons (h : Passes p cs q (c :: rest)) (apart : inNumber c = false) :
    Leads p cs (q.step c) rest := by
  obtain ⟨before, rfl, rfl⟩ := h
  refine ⟨before ++ [c], ?_, ?_, fun c' last => ?_⟩
  · rw [List.append_assoc, List.singleton_append]
  · rw [List.foldl_append, List.foldl_cons, List.foldl_nil]
  · rw [List.getLast?_append] at last
    cases last
    exact apart

/-! ## Spaces -/

/-- The four characters that are space. -/
lemma isSpace_cases (space : isSpace c = true) :
    c = ' ' ∨ c = '\t' ∨ c = '\n' ∨ c = '\r' := by
  simpa [isSpace, or_assoc] using space

/-- Space is no part of a number. -/
lemma inNumber_of_isSpace (space : isSpace c = true) : inNumber c = false := by
  obtain rfl | rfl | rfl | rfl := isSpace_cases space <;> decide

/-- Space outside of strings leaves the depth as it is. -/
lemma step_of_isSpace (depth : Nat) (space : isSpace c = true) :
    (outside depth).step c = outside depth := by
  obtain rfl | rfl | rfl | rfl := isSpace_cases space <;> rfl

/-- Skipping space leads to the same depth. -/
lemma leads_skip (depth : Nat) (cs : Text) :
    Leads (outside depth) cs (outside depth) (skip cs) := by
  have spaces : ∀ c ∈ cs.takeWhile isSpace, isSpace c = true := fun _ mem =>
    List.mem_takeWhile_imp mem
  obtain ⟨before, whole, scanned⟩ :=
    passes_append (fun c mem => step_of_isSpace depth (spaces c mem)) (skip cs)
  refine ⟨cs.takeWhile isSpace, List.takeWhile_append_dropWhile, ?_, fun c last => ?_⟩
  · rw [← List.append_cancel_right whole]
    exact scanned
  · exact inNumber_of_isSpace (spaces c (List.mem_of_getLast? last))

/-- Where something stands behind the spaces, the reading comes to what follows it. -/
lemma passes_of_skip (h : skip cs = c :: rest) :
    Passes (outside depth) cs ((outside depth).step c) rest := by
  have skipped := (leads_skip depth cs).passes
  rw [h] at skipped
  exact skipped.trans (passes_cons _ c rest)

/-- Between a mark behind the spaces and what stands behind more spaces a number can begin. -/
lemma Passes.leads_of_skip (h : Passes p cs (outside depth) part) (marked : skip part = c :: rest)
    (apart : inNumber c = false) (still : (outside depth).step c = outside depth) :
    Leads p cs (outside depth) (skip rest) := by
  have skipped := h.trans (leads_skip depth part).passes
  rw [marked] at skipped
  have behind := skipped.leads_of_cons apart
  rw [still] at behind
  exact behind.trans (leads_skip depth rest)

/-- What stands behind a mark and more spaces is shorter than the text. -/
lemma length_skip_lt (marked : skip cs = c :: rest) : (skip rest).length < cs.length :=
  Nat.lt_of_le_of_lt (length_skip_le rest) (length_lt_of_skip marked)

/-! ## Short texts -/

/-- The digits of a whole number stand first. -/
lemma prefix_wholeText (cs : Text) : wholeText cs <+: cs := by
  unfold wholeText
  split
  · next rest => exact ⟨rest, rfl⟩
  · exact List.takeWhile_prefix _

/-- A text with a long integer in front is longer than the bound. -/
lemma LongInteger.lt_length (h : LongInteger cs) : Numeral.maxDigits < cs.length := by
  have part := (prefix_wholeText (cs.drop (signText ['-'] cs).length)).length_le
  have dropped := List.length_drop (i := (signText ['-'] cs).length) (l := cs)
  have long : Numeral.maxDigits < (wholeText (cs.drop (signText ['-'] cs).length)).length := h.long
  omega

/-- A text that has a long integer is longer than the bound. -/
lemma HasLongInteger.lt_length {text : Text} (h : HasLongInteger text) :
    Numeral.maxDigits < text.length := by
  obtain ⟨depth, rest, ⟨before, rfl, -⟩, long⟩ := h
  have := long.lt_length
  rw [List.length_append]
  omega

/-- A text that nests beyond some room is longer than the room. -/
lemma NestsBeyond.lt_length {room : Nat} {text : Text} (h : NestsBeyond room text) :
    room < text.length := by
  obtain ⟨c, rest, ⟨before, rfl, scanned⟩, -⟩ := h
  have bound := Place.depth_foldl_le before (outside 0)
  rw [scanned] at bound
  rw [List.length_append, List.length_cons]
  change room ≤ 0 + before.length at bound
  omega

end

end PageAudit.Json
