import Mathlib.Data.List.Infix
import PageAudit.Proofs.Claim.Line
import PageAudit.Proofs.Claim.Token
import PageAudit.Proofs.Text.Lines

/-!
# The grammar of claims

Which lines make a claim, told without any search: `Sized` and `Based` say what stands at a place of
a text, and `LastPlace` is the last place of which something holds. `Tells` puts them together: the
address follows the last base with a page size after it, the token the last page size. This is what
is read (`fieldsIn?_eq_some_iff`). Fields at other places do not matter: those behind the last page
size (`fieldsIn?_append_blank`), a label without a token (`fieldsIn?_tokenless`) and all that stands
before the first base (`last?_append_of_none`). `trace_line_grammar` is the main result.
-/

namespace PageAudit.Claim

open Logged

/-! ## Places of a text -/

/-- The last place of a text of which something holds, told by all that follows it. -/
structure LastPlace (P : Text → Prop) (cs here : Text) : Prop where
  place : here <:+ cs
  holds : P here
  /-- Wherever else it holds, this place is still to come. -/
  last : ∀ place, place <:+ cs → P place → here <:+ place

/-- There is only one last place. -/
lemma LastPlace.unique {P : Text → Prop} {cs here here' : Text} (h : LastPlace P cs here)
    (h' : LastPlace P cs here') : here = here' := by
  have fore := h.last here' h'.place h'.holds
  have back := h'.last here h.place h.holds
  exact fore.eq_of_length (Nat.le_antisymm fore.length_le back.length_le)

/-- The last place of the end of a text is the last place of the whole. -/
lemma LastPlace.of_suffix {P : Text → Prop} {ending cs here : Text} (h : LastPlace P ending here)
    (suffix : ending <:+ cs) : LastPlace P cs here := by
  refine ⟨h.place.trans suffix, h.holds, fun place place_suffix holds => ?_⟩
  obtain within | before := List.suffix_or_suffix_of_suffix place_suffix suffix
  · exact h.last place within holds
  · exact h.place.trans before

section last

variable {α : Type} {f : Text → Option α} (nothing : f [] = none)

include nothing

/-- Nothing is read if there is no place at which something is. -/
lemma last?_eq_none_iff {cs : Text} :
    last? f cs = none ↔ ∀ place, place <:+ cs → f place = none := by
  induction cs with
  | nil =>
    constructor
    · intro _ place suffix
      rw [List.suffix_nil.mp suffix, nothing]
    · intro _
      rfl
  | cons c cs ih =>
    rw [last?_cons, Option.or_eq_none_iff, ih]
    constructor
    · rintro ⟨later, here⟩ place suffix
      obtain rfl | suffix := List.suffix_cons_iff.mp suffix
      · exact here
      · exact later place suffix
    · intro all
      exact ⟨fun place suffix => all place (suffix.trans (List.suffix_cons c cs)),
        all _ (List.suffix_refl _)⟩

/-- What is read is read at the last place at which something is. -/
lemma last?_eq_some_iff_lastPlace {cs : Text} {b : α} :
    last? f cs = some b ↔
      ∃ here, LastPlace (fun place => (f place).isSome = true) cs here ∧ f here = some b := by
  rw [last?_eq_some_iff]
  constructor
  · rintro ⟨c, here, suffix, accepted, later⟩
    refine ⟨c :: here, ⟨suffix, by simp [accepted], fun place place_suffix some => ?_⟩, accepted⟩
    -- A place further on would be one in `here`, where nothing more is read.
    obtain within | before := List.suffix_or_suffix_of_suffix place_suffix suffix
    · obtain rfl | within := List.suffix_cons_iff.mp within
      · exact List.suffix_refl _
      · rw [(last?_eq_none_iff nothing).mp later place within] at some
        cases some
    · exact before
  · rintro ⟨here, last, accepted⟩
    cases here with
    | nil =>
      rw [nothing] at accepted
      cases accepted
    | cons c here =>
      refine ⟨c, here, last.place, accepted, (last?_eq_none_iff nothing).mpr ?_⟩
      intro place suffix
      by_contra some
      have behind := last.last place ((suffix.trans (List.suffix_cons c here)).trans last.place)
        (Option.isSome_iff_ne_none.mpr some)
      have longer := (behind.trans suffix).length_le
      rw [List.length_cons] at longer
      omega

end last

section append

variable {α : Type} {f : Text → Option α}

/-- What stands in front of a text does not matter if nothing is read there. -/
lemma last?_append_of_none {front rest : Text}
    (none : ∀ place, place <:+ front → place ≠ [] → f (place ++ rest) = none) :
    last? f (front ++ rest) = last? f rest := by
  induction front with
  | nil => rfl
  | cons c front ih =>
    have later := ih fun place suffix => none place (suffix.trans (List.suffix_cons c front))
    rw [List.cons_append, last?_cons, later]
    have here : f (c :: (front ++ rest)) = .none := none (c :: front) (List.suffix_refl _) nofun
    rw [here, Option.or_none]

/-- Of what stands behind a text only what is read there matters, if at every place of the text the
same is read with the one behind it as with the other. -/
lemma last?_append_congr {front rest rest' : Text} (behind : last? f rest = last? f rest')
    (same : ∀ place, place <:+ front → f (place ++ rest) = f (place ++ rest')) :
    last? f (front ++ rest) = last? f (front ++ rest') := by
  induction front with
  | nil => exact behind
  | cons c front ih =>
    have later := ih fun place suffix => same place (suffix.trans (List.suffix_cons c front))
    have here := same (c :: front) (List.suffix_refl _)
    rw [List.cons_append] at here
    rw [List.cons_append, List.cons_append, last?_cons, last?_cons, later]
    exact congrArg _ here

end append

/-! ## The two fields -/

/-- A place with a page size: the label, directly followed by what is not blank. -/
def Sized (cs : Text) : Prop :=
  ∃ c rest, cs = pageSizeLabel ++ c :: rest ∧ Text.isBlank c = false

/-- A place with a base that still has a page size: `base=0x`, at least one hexadecimal digit and,
after these digits, a page size. -/
def Based (cs : Text) : Prop :=
  ∃ rest, cs = baseLabel ++ rest ∧ rest.takeWhile Text.isHexDigit ≠ [] ∧
    ∃ size, size <:+ rest.dropWhile Text.isHexDigit ∧ Sized size

/-- What a line tells: the address in the hexadecimal digits after the last base that still has a
page size, and as token what is not blank after the last page size. -/
def Tells (line : Text) (address : Nat) (token : Text) : Prop :=
  ∃ afterBase afterLabel,
    LastPlace Based line (baseLabel ++ afterBase) ∧
    address = Numeral.hexValue (afterBase.takeWhile Text.isHexDigit) ∧
    LastPlace Sized line (pageSizeLabel ++ afterLabel) ∧
    token = afterLabel.takeWhile (!Text.isBlank ·)

/-- A token is found here exactly if a label and a digit stand here, and reaches to the next blank.
-/
lemma tokenHere?_eq_some_iff {cs token : Text} :
    tokenHere? cs = some token ↔
      Sized cs ∧ ∃ rest, cs = pageSizeLabel ++ rest ∧ token = rest.takeWhile (!Text.isBlank ·) := by
  constructor
  · intro h
    unfold tokenHere? at h
    split at h
    · cases h
    · next rest after =>
      rw [Text.after?_eq_some_iff] at after
      cases rest with
      | nil => cases h
      | cons c rest =>
        rw [List.takeWhile_cons] at h
        cases blank : Text.isBlank c with
        | true => simp [blank] at h
        | false =>
          simp only [blank, Bool.not_false, if_true, Option.some.injEq] at h
          subst h
          exact ⟨⟨c, rest, after, blank⟩, c :: rest, after, by simp [blank]⟩
  · rintro ⟨⟨c, rest, rfl, blank⟩, rest', same, rfl⟩
    cases List.append_cancel_left same
    simp [tokenHere?, Text.after?_eq_some_iff.mpr rfl, blank]

/-- A token is found exactly at the places that are sized. -/
lemma tokenHere?_isSome_iff {cs : Text} : (tokenHere? cs).isSome = true ↔ Sized cs := by
  rw [Option.isSome_iff_exists]
  constructor
  · rintro ⟨token, read⟩
    exact (tokenHere?_eq_some_iff.mp read).1
  · intro sized
    have ⟨c, rest, cs_eq, _⟩ := sized
    exact ⟨_, tokenHere?_eq_some_iff.mpr ⟨sized, c :: rest, cs_eq, rfl⟩⟩

/-- The last token of a text follows its last page size. -/
lemma last?_tokenHere?_eq_some_iff {cs token : Text} :
    last? tokenHere? cs = some token ↔
      ∃ rest, LastPlace Sized cs (pageSizeLabel ++ rest) ∧
        token = rest.takeWhile (!Text.isBlank ·) := by
  rw [last?_eq_some_iff_lastPlace rfl]
  simp only [tokenHere?_isSome_iff]
  constructor
  · rintro ⟨here, last, read⟩
    obtain ⟨-, rest, rfl, token_eq⟩ := tokenHere?_eq_some_iff.mp read
    exact ⟨rest, last, token_eq⟩
  · rintro ⟨rest, last, token_eq⟩
    exact ⟨_, last, tokenHere?_eq_some_iff.mpr ⟨last.holds, rest, rfl, token_eq⟩⟩

/-- No token is found exactly if no place is sized. -/
lemma last?_tokenHere?_eq_none_iff {cs : Text} :
    last? tokenHere? cs = none ↔ ∀ place, place <:+ cs → ¬Sized place := by
  rw [last?_eq_none_iff rfl]
  simp only [← tokenHere?_isSome_iff, Option.not_isSome_iff_eq_none]

/-- A base is found here with its address and the last token behind it. -/
lemma baseHere?_eq_some_iff {cs token : Text} {address : Nat} :
    baseHere? cs = some (address, token) ↔
      ∃ rest, cs = baseLabel ++ rest ∧ rest.takeWhile Text.isHexDigit ≠ [] ∧
        address = Numeral.hexValue (rest.takeWhile Text.isHexDigit) ∧
        last? tokenHere? (rest.dropWhile Text.isHexDigit) = some token := by
  constructor
  · intro h
    unfold baseHere? at h
    split at h
    · cases h
    · next rest after =>
      rw [Text.after?_eq_some_iff] at after
      split at h
      · cases h
      · next d digits taken =>
        simp only [Option.map_eq_some_iff, Prod.mk.injEq] at h
        obtain ⟨token', last, address_eq, rfl⟩ := h
        exact ⟨rest, after, by simp [taken], by rw [taken, address_eq], last⟩
  · rintro ⟨rest, rfl, nonempty, rfl, last⟩
    obtain ⟨d, digits, taken⟩ := List.exists_cons_of_ne_nil nonempty
    simp [baseHere?, Text.after?_eq_some_iff.mpr rfl, taken, last]

/-- A base is found exactly at the places that are based. -/
lemma baseHere?_isSome_iff {cs : Text} : (baseHere? cs).isSome = true ↔ Based cs := by
  rw [Option.isSome_iff_exists]
  constructor
  · rintro ⟨⟨address, token⟩, read⟩
    obtain ⟨rest, rfl, nonempty, -, last⟩ := baseHere?_eq_some_iff.mp read
    obtain ⟨afterLabel, place, -⟩ := last?_tokenHere?_eq_some_iff.mp last
    exact ⟨rest, rfl, nonempty, _, place.place, place.holds⟩
  · rintro ⟨rest, rfl, nonempty, size, suffix, sized⟩
    cases last : last? tokenHere? (rest.dropWhile Text.isHexDigit) with
    | none => exact absurd sized (last?_tokenHere?_eq_none_iff.mp last size suffix)
    | some token => exact ⟨_, baseHere?_eq_some_iff.mpr ⟨rest, rfl, nonempty, rfl, last⟩⟩

/-- What is read of a text is what it tells. -/
lemma fieldsIn?_eq_some_iff {line token : Text} {address : Nat} :
    fieldsIn? line = some (address, token) ↔ Tells line address token := by
  unfold fieldsIn?
  rw [last?_eq_some_iff_lastPlace rfl]
  simp only [baseHere?_isSome_iff]
  constructor
  · rintro ⟨here, base, read⟩
    obtain ⟨afterBase, rfl, -, address_eq, last⟩ := baseHere?_eq_some_iff.mp read
    obtain ⟨afterLabel, size, token_eq⟩ := last?_tokenHere?_eq_some_iff.mp last
    -- The last page size after the digits is the last one in the line.
    have behind : afterBase.dropWhile Text.isHexDigit <:+ line :=
      (List.dropWhile_suffix _).trans ((List.suffix_append _ _).trans base.place)
    exact ⟨afterBase, afterLabel, base, address_eq, size.of_suffix behind, token_eq⟩
  · rintro ⟨afterBase, afterLabel, base, rfl, size, rfl⟩
    refine ⟨_, base, ?_⟩
    obtain ⟨⟨address, token⟩, read⟩ :=
      Option.isSome_iff_exists.mp (baseHere?_isSome_iff.mpr base.holds)
    rw [read]
    obtain ⟨rest, same, -, rfl, last⟩ := baseHere?_eq_some_iff.mp read
    cases List.append_cancel_left same
    obtain ⟨afterLabel', size', rfl⟩ := last?_tokenHere?_eq_some_iff.mp last
    have behind : afterBase.dropWhile Text.isHexDigit <:+ line :=
      (List.dropWhile_suffix _).trans ((List.suffix_append _ _).trans base.place)
    cases List.append_cancel_left (size.unique (size'.of_suffix behind))
    rfl

/-- A line has fields exactly if a base stands somewhere in it. -/
lemma fieldsIn?_isSome_iff {line : Text} :
    (fieldsIn? line).isSome = true ↔ ∃ place, place <:+ line ∧ Based place := by
  rw [← not_iff_not, Option.not_isSome_iff_eq_none]
  unfold fieldsIn?
  rw [last?_eq_none_iff rfl]
  simp only [← baseHere?_isSome_iff, not_exists, not_and, Option.not_isSome_iff_eq_none]

/-! ## Fields that do not matter -/

/-- A blank is no hexadecimal digit. -/
lemma isHexDigit_of_isBlank {c : CodePoint} (blank : Text.isBlank c = true) :
    Text.isHexDigit c = false := by
  simp only [Text.isBlank, Bool.or_eq_true, Bool.and_eq_true, decide_eq_true_eq, beq_iff_eq]
    at blank
  simp only [Text.isHexDigit, Text.hexDigitValue?, Bool.and_eq_true, decide_eq_true_eq]
  split_ifs
  · omega
  · omega
  · omega
  · rfl

/-- A run stops at a character that is not in its class, whatever comes after it. -/
lemma run_append_cons {p : CodePoint → Bool} {c : CodePoint} (stops : p c = false)
    (front tail : Text) :
    (front ++ c :: tail).takeWhile p = front.takeWhile p ∧
      (front ++ c :: tail).dropWhile p = front.dropWhile p ++ c :: tail := by
  induction front with
  | nil => simp [stops]
  | cons d front ih =>
    rw [List.cons_append, List.takeWhile_cons, List.takeWhile_cons, List.dropWhile_cons,
      List.dropWhile_cons, ih.1, ih.2]
    cases p d with
    | true => exact ⟨rfl, rfl⟩
    | false => exact ⟨rfl, rfl⟩

/-- The base at the front of a text, with the token that some search finds after its digits. -/
def baseWith? (search : Text → Option Text) (cs : Text) : Option (Nat × Text) :=
  (Text.after? baseLabel cs).bind fun rest =>
    if rest.takeWhile Text.isHexDigit = [] then none
    else (search (rest.dropWhile Text.isHexDigit)).map
      (Numeral.hexValue (rest.takeWhile Text.isHexDigit), ·)

/-- A base is read with the last token after its digits. -/
lemma baseHere?_eq_baseWith? (cs : Text) : baseHere? cs = baseWith? (last? tokenHere?) cs := by
  unfold baseHere? baseWith?
  cases Text.after? baseLabel cs with
  | none => rfl
  | some rest =>
    rw [Option.bind_some]
    cases taken : rest.takeWhile Text.isHexDigit with
    | nil => simp [taken]
    | cons d digits => simp [taken]

section blank

variable {blank : CodePoint} (separates : Text.isBlank blank = true)

/-- A blank that a label lacks cuts what stands behind the label. -/
lemma after?_append_cons {lead : Text} (lacks : blank ∉ lead) (front tail : Text) :
    Text.after? lead (front ++ blank :: tail) =
      (Text.after? lead front).map (· ++ blank :: tail) := by
  induction lead generalizing front with
  | nil => rfl
  | cons l lead ih =>
    rw [List.mem_cons, not_or] at lacks
    cases front with
    | nil => simp [Text.after?, Ne.symm lacks.1]
    | cons c front =>
      simp only [List.cons_append, Text.after?]
      split
      · exact ih lacks.2 front
      · rfl

include separates

/-- Neither label holds a blank. -/
lemma blank_not_mem_labels : blank ∉ pageSizeLabel ∧ blank ∉ baseLabel := by
  have solid : ∀ c ∈ pageSizeLabel ++ baseLabel, Text.isBlank c = false := by decide
  rw [← not_or, ← List.mem_append]
  intro mem
  cases separates.symm.trans (solid blank mem)

/-- A token does not reach over a blank. -/
lemma tokenHere?_append_blank (front tail : Text) :
    tokenHere? (front ++ blank :: tail) = tokenHere? front := by
  unfold tokenHere?
  rw [after?_append_cons (blank_not_mem_labels separates).1]
  cases Text.after? pageSizeLabel front with
  | none => rfl
  | some rest =>
    have stops : (!Text.isBlank blank) = false := by rw [separates, Bool.not_true]
    simp only [Option.map_some, (run_append_cons (p := (!Text.isBlank ·)) stops rest tail).1]

/-- The last token of a text with a blank in it: the last one behind the blank or, failing that, the
last one before it. -/
lemma last?_tokenHere?_append_blank (front tail : Text) :
    last? tokenHere? (front ++ blank :: tail) =
      (last? tokenHere? tail).or (last? tokenHere? front) := by
  induction front with
  | nil =>
    have here := tokenHere?_append_blank separates [] tail
    rw [List.nil_append] at here
    rw [List.nil_append, last?_cons, here]
    rfl
  | cons c front ih =>
    have here := tokenHere?_append_blank separates (c :: front) tail
    rw [List.cons_append] at here
    rw [List.cons_append, last?_cons, last?_cons, ih, here, Option.or_assoc]

/-- At the place of a base before a blank only the last token of what stands behind the blank
matters. -/
lemma baseHere?_append_blank (front tail : Text) :
    baseHere? (front ++ blank :: tail) =
      baseWith? (fun rest => (last? tokenHere? tail).or (last? tokenHere? rest)) front := by
  rw [baseHere?_eq_baseWith?]
  unfold baseWith?
  rw [after?_append_cons (blank_not_mem_labels separates).2]
  cases Text.after? baseLabel front with
  | none => rfl
  | some rest =>
    obtain ⟨taken, dropped⟩ := run_append_cons (isHexDigit_of_isBlank separates) rest tail
    simp only [Option.map_some, Option.bind_some, taken, dropped,
      last?_tokenHere?_append_blank separates]

/-- What stands behind a blank does not matter if it has no page size. -/
lemma fieldsIn?_append_blank {front tail : Text}
    (unsized : ∀ place, place <:+ tail → ¬Sized place) :
    fieldsIn? (front ++ blank :: tail) = fieldsIn? front := by
  have no_token := last?_tokenHere?_eq_none_iff.mpr unsized
  -- A base behind the blank would need a page size there.
  have no_base : last? baseHere? (blank :: tail) = none := by
    have behind := last?_tokenHere?_append_blank separates [] tail
    rw [no_token] at behind
    rw [← Option.not_isSome_iff_eq_none]
    intro read
    obtain ⟨place, suffix, rest, rfl, -, size, size_suffix, sized⟩ := fieldsIn?_isSome_iff.mp read
    have size_suffix := size_suffix.trans (List.dropWhile_suffix _)
    have size_suffix := size_suffix.trans ((List.suffix_append _ _).trans suffix)
    exact last?_tokenHere?_eq_none_iff.mp behind size size_suffix sized
  have here (place : Text) : baseHere? (place ++ blank :: tail) = baseHere? place := by
    rw [baseHere?_append_blank separates, baseHere?_eq_baseWith?, no_token]
    rfl
  have same : last? baseHere? (front ++ blank :: tail) = last? baseHere? (front ++ []) :=
    last?_append_congr no_base fun place _ => by rw [here, List.append_nil]
  rwa [List.append_nil] at same

end blank

/-- Without a token behind it no page size begins within its label. -/
lemma tokenHere?_label {place rest : Text} (suffix : place <:+ pageSizeLabel)
    (ends : ∀ c ∈ rest.head?, Text.isBlank c = true) : tokenHere? (place ++ rest) = none := by
  have none_within : ∀ place ∈ pageSizeLabel.tails, tokenHere? place = none := by decide
  have none_here := none_within place ((List.mem_tails place pageSizeLabel).mpr suffix)
  cases rest with
  | nil => rw [List.append_nil, none_here]
  | cons c tail => rw [tokenHere?_append_blank (ends c rfl), none_here]

/-- No base begins within the label of a page size. -/
lemma baseHere?_label {place : Text} (suffix : place <:+ pageSizeLabel) (nonempty : place ≠ [])
    (rest : Text) : baseHere? (place ++ rest) = none := by
  obtain ⟨c, place, rfl⟩ := List.exists_cons_of_ne_nil nonempty
  -- The one label lacks the first character of the other.
  have others : ∀ c ∈ pageSizeLabel, ¬(CodePoint.char 'b' = c) := by decide
  have unlabelled : Text.after? baseLabel (c :: place ++ rest) = none :=
    if_neg (others c (suffix.subset List.mem_cons_self))
  unfold baseHere?
  rw [unlabelled]

/-- A label without a token behind a blank does not matter. -/
lemma fieldsIn?_tokenless {blank : CodePoint} (separates : Text.isBlank blank = true)
    {front rest : Text} (ends : ∀ c ∈ rest.head?, Text.isBlank c = true) :
    fieldsIn? (front ++ blank :: (pageSizeLabel ++ rest)) = fieldsIn? (front ++ blank :: rest) := by
  have no_token : last? tokenHere? (pageSizeLabel ++ rest) = last? tokenHere? rest :=
    last?_append_of_none fun place suffix _ => tokenHere?_label suffix ends
  have no_base : last? baseHere? (pageSizeLabel ++ rest) = last? baseHere? rest :=
    last?_append_of_none fun place suffix nonempty => baseHere?_label suffix nonempty rest
  have here (place : Text) : baseHere? (place ++ blank :: (pageSizeLabel ++ rest)) =
      baseHere? (place ++ blank :: rest) := by
    rw [baseHere?_append_blank separates, baseHere?_append_blank separates, no_token]
  refine last?_append_congr ?_ fun place _ => here place
  -- The place of the blank itself is left.
  have front := here []
  rw [List.nil_append, List.nil_append] at front
  rw [last?_cons, last?_cons, no_base, front]

/-! ## Lines -/

/-- A line without line feeds is not cut, so its fields are those of the whole. -/
lemma fields?_eq {line : Text} (unbroken : CodePoint.char '\n' ∉ line) :
    fields? line = fieldsIn? line := by
  unfold fields?
  rw [Text.cutLines_of_not_mem unbroken]
  cases line with
  | nil => rfl
  | cons c line =>
    simp only [reduceCtorEq, if_false, List.findSome?_cons, List.findSome?_nil]
    cases fieldsIn? (c :: line) <;> rfl

/-- **The grammar of claims.** A line without line feeds makes a claim exactly if `base=0x` with a
hexadecimal digit stands in it and, after these digits, `page_size=` with a token. The claim is
about the address after the last such base, and its size is what the token after the last page size
is turned into. What stands behind a blank and has no page size, a label without a token behind a
blank, and what stands before the first base never change what is read. -/
theorem trace_line_grammar (line : Text) (number : Nat)
    (unbroken : CodePoint.char '\n' ∉ line) :
    ((Claim.read? line number).result ≠ .ok none ↔ ∃ place, place <:+ line ∧ Based place) ∧
    (∀ address token, Tells line address token →
      (Claim.read? line number).result =
        (PageSize.inKB token (some number)).result.map fun (size : Nat) =>
          some { address, pageSize := size, line := number, text := line }) ∧
    ((∃ place, place <:+ line ∧ Based place) → ∃ address token, Tells line address token) ∧
    (∀ front blank tail, line = front ++ blank :: tail → Text.isBlank blank = true →
      (∀ place, place <:+ tail → ¬Sized place) → fields? line = fields? front) ∧
    (∀ front blank rest, line = front ++ blank :: (pageSizeLabel ++ rest) →
      Text.isBlank blank = true → (∀ c ∈ rest.head?, Text.isBlank c = true) →
        fields? line = fields? (front ++ blank :: rest)) ∧
    (∀ front rest, line = front ++ rest →
      (∀ place, place <:+ front → place ≠ [] → ¬baseLabel <+: place ++ rest) →
        fields? line = fields? rest) := by
  have fields_eq := fields?_eq unbroken
  have read_eq := Claim.result_read? line number
  rw [Text.chomp_eq unbroken, fields_eq] at read_eq
  refine ⟨?_, ?_, ?_, ?_, ?_, ?_⟩
  · rw [← fieldsIn?_isSome_iff, read_eq]
    cases fieldsIn? line with
    | none => simp
    | some both =>
      obtain ⟨address, token⟩ := both
      simp only [Option.isSome_some, iff_true]
      cases (PageSize.inKB token (some number)).result <;> nofun
  · intro address token tells
    simp only [read_eq, fieldsIn?_eq_some_iff.mpr tells]
    cases (PageSize.inKB token (some (number : Int))).result <;> rfl
  · intro based
    obtain ⟨⟨address, token⟩, read⟩ := Option.isSome_iff_exists.mp (fieldsIn?_isSome_iff.mpr based)
    exact ⟨address, token, fieldsIn?_eq_some_iff.mp read⟩
  · rintro front blank tail rfl separates unsized
    rw [List.mem_append, not_or] at unbroken
    rw [fields_eq, fields?_eq unbroken.1, fieldsIn?_append_blank separates unsized]
  · rintro front blank rest rfl separates ends
    have unbroken' : CodePoint.char '\n' ∉ front ++ blank :: rest := by
      simp only [List.mem_append, List.mem_cons, not_or] at unbroken ⊢
      exact ⟨unbroken.1, unbroken.2.1, unbroken.2.2.2⟩
    rw [fields_eq, fields?_eq unbroken', fieldsIn?_tokenless separates ends]
  · rintro front rest rfl unbased
    rw [List.mem_append, not_or] at unbroken
    rw [fields_eq, fields?_eq unbroken.2]
    refine last?_append_of_none fun place suffix nonempty => ?_
    have unlabelled : Text.after? baseLabel (place ++ rest) = none := by
      rw [← Option.not_isSome_iff_eq_none, Option.isSome_iff_exists]
      rintro ⟨behind, after⟩
      rw [Text.after?_eq_some_iff] at after
      exact unbased place suffix nonempty (after ▸ List.prefix_append _ _)
    unfold baseHere?
    rw [unlabelled]

/-- The last base has no page size, and the last label no token. The base before these stands in the
token of another page size. -/
theorem trace_line_of_nested_fields :
    let line : Text := "page_size=8K base=0x10 page_size=base=0x2A page_size=4k page_size= base=0x3"
    CodePoint.char '\n' ∉ line ∧
      (Claim.read? line 7).result =
        .ok (some { address := 42, pageSize := 4, line := 7, text := line }) := by
  intro line
  have unbroken : CodePoint.char '\n' ∉ line := by decide +kernel
  obtain ⟨-, reads, -⟩ := trace_line_grammar line 7 unbroken
  have tells : Tells line 42 "4k" := fieldsIn?_eq_some_iff.mp (by decide +kernel)
  exact ⟨unbroken, reads 42 "4k" tells⟩

end PageAudit.Claim
