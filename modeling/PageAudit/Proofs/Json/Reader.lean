import PageAudit.Proofs.Json.Place
import PageAudit.Proofs.Numeral

/-!
# Why JSON is not read

Every reader of JSON goes on at the place where what it has read ends, or stops for a reason that is
in the text (`readers_sound`): a text that is not JSON has a problem, an integer that is too long
stands where a value begins, and whoever finds no room has come to an object or array that begins
where as many are open as there is room for. So a text without such places is read or malformed
(`justified_of_read`).
-/

namespace PageAudit.Json

open Place (outside quoted escaped)

/-! ## Reasons to stop -/

/-- What stops a reader, where so many objects and arrays are open and there is room for `limit`, is
a problem, or else the text has what it tells. -/
def Stop.Justified (limit depth : Nat) (cs : Text) : Stop → Prop
  | .problem .. => True
  | .overlong _ => ∃ depth' rest, Leads (outside depth) cs (outside depth') rest ∧ LongInteger rest
  | .tooDeep _ => ∃ c rest, Passes (outside depth) cs (outside limit) (c :: rest) ∧ opens c = true

/-- A reader that is outside of strings passes from one depth to another, or it is justified in
stopping. -/
def Sound {α : Type} {whole : Text} (limit depth depth' : Nat) (cs : Text) :
    Except Stop (α × Rest whole) → Prop
  | .ok (_, after) => Passes (outside depth) cs (outside depth') after.1
  | .error stop => stop.Justified limit depth cs

/-- A reader that is in a string passes from one place to another, or it has a problem. -/
def SoundIn {α : Type} {whole : Text} (p q : Place) (cs : Text) :
    Except Stop (α × Rest whole) → Prop
  | .ok (_, after) => Passes p cs q after.1
  | .error stop => ∃ problem left, stop = .problem problem left

section

variable {α β : Type} {whole cs part rest : Text} {limit depth depth' from' : Nat} {c : CodePoint}
  {p q r : Place} {stop : Stop}

/-- What is at a place of a text is in the text. -/
lemma Stop.Justified.of_leads (justified : stop.Justified limit depth part)
    (leads : Leads (outside from') cs (outside depth) part) :
    stop.Justified limit from' cs := by
  cases stop with
  | problem problem left => exact trivial
  | overlong o =>
    obtain ⟨depth', rest, leads', long⟩ := justified
    exact ⟨depth', rest, leads.trans leads', long⟩
  | tooDeep container =>
    obtain ⟨c, rest, passes, opening⟩ := justified
    exact ⟨c, rest, leads.passes.trans passes, opening⟩

/-- Soundness is carried back over what leads to the place. -/
lemma Sound.of_leads {r : Except Stop (α × Rest whole)} (sound : Sound limit depth depth' part r)
    (leads : Leads (outside from') cs (outside depth) part) : Sound limit from' depth' cs r := by
  cases r with
  | ok read => exact leads.passes.trans sound
  | error stop => exact Stop.Justified.of_leads sound leads

/-- It does not matter what is made of the value that was read. -/
lemma Sound.map {r : Except Stop (α × Rest whole)} (sound : Sound limit depth depth' cs r)
    (f : α → β) : Sound limit depth depth' cs (r.map fun read => (f read.1, read.2)) := by
  cases r with
  | ok read => exact sound
  | error stop => exact sound

/-- Soundness inside a string is carried back over what passes to the place. -/
lemma SoundIn.of_passes {r : Except Stop (α × Rest whole)} (sound : SoundIn p q part r)
    {p' : Place} (passes : Passes p' cs p part) : SoundIn p' q cs r := by
  cases r with
  | ok read => exact passes.trans sound
  | error stop => exact sound

/-- A reader that is in a string only for a while is sound. -/
lemma SoundIn.sound {r : Except Stop (α × Rest whole)}
    (sound : SoundIn (outside depth) (outside depth') cs r) : Sound limit depth depth' cs r := by
  cases r with
  | ok read => exact sound
  | error stop =>
    obtain ⟨problem, left, rfl⟩ := sound
    exact trivial

end

/-! ## Strings -/

section strings

variable {cs digits rest : Text} {depth : Nat} {c : CodePoint}

/-- A character of a string that is neither quote nor backslash leaves it open. -/
lemma step_quoted (quote : c ≠ '"') (backslash : c ≠ '\\') :
    (quoted depth).step c = quoted depth := by
  simp only [Place.step, if_neg quote, if_neg backslash]

/-- A hexadecimal digit leaves a string open. -/
lemma step_of_isHexDigit (digit : Text.isHexDigit c = true) :
    (quoted depth).step c = quoted depth := by
  refine step_quoted ?_ ?_
  · rintro rfl
    exact absurd digit (by decide)
  · rintro rfl
    exact absurd digit (by decide)

/-- Hexadecimal digits leave a string open. -/
lemma passes_fourHex {n : Nat} (hex : fourHex? digits = some n) (rest : Text) :
    Passes (quoted depth) (digits ++ rest) (quoted depth) rest := by
  unfold fourHex? at hex
  split_ifs at hex with digital
  exact passes_append (fun c mem => step_of_isHexDigit (List.all_eq_true.mp digital c mem)) rest

/-- The second half of a pair is an escape of its own. -/
lemma eq_of_secondHalf? (h : secondHalf? cs = some (digits, rest)) :
    cs = .char '\\' :: .char 'u' :: (digits ++ rest) := by
  unfold secondHalf? at h
  split at h
  · cases h
    rfl
  · cases h

/-- What reads the digits of an escape stays in the string. -/
lemma readUnicode_sound (depth : Nat) (cs : Text) :
    SoundIn (quoted depth) (quoted depth) cs (readUnicode cs) := by
  unfold readUnicode
  split
  · next a b c d e rest =>
    split
    · exact ⟨_, _, rfl⟩
    · next n hex =>
      have alone : Passes (quoted depth) (a :: b :: c :: d :: e :: rest) (quoted depth)
          (e :: rest) := passes_fourHex hex (e :: rest)
      dsimp only
      split_ifs
      · split
        · exact alone
        · next digits after half =>
          split
          · exact ⟨_, _, rfl⟩
          · next m hex' =>
            split_ifs
            · -- The second escape is passed over like the first.
              have begun := (passes_cons (quoted depth) '\\' ('u' :: (digits ++ after))).trans
                (passes_cons _ 'u' (digits ++ after))
              have second : Passes (quoted depth) (e :: rest) (quoted depth) after := by
                rw [eq_of_secondHalf? half]
                exact begun.trans (passes_fourHex hex' after)
              exact alone.trans second
            · exact alone
      · exact alone
  · exact ⟨_, _, rfl⟩

/-- What reads an escape gets back into the string. -/
lemma readEscape_sound (depth : Nat) (opened cs : Text) :
    SoundIn (escaped depth) (quoted depth) cs (readEscape opened cs) := by
  unfold readEscape
  split
  · exact ⟨_, _, rfl⟩
  · next c rest =>
    have passes : Passes (escaped depth) (c :: rest) (quoted depth) rest := passes_cons _ c rest
    split_ifs
    · have sound := readUnicode_sound depth rest
      cases reads : readUnicode rest with
      | ok read =>
        rw [reads] at sound
        exact passes.trans sound
      | error stop =>
        rw [reads] at sound
        exact sound
    · split
      · exact passes
      · exact ⟨_, _, rfl⟩

/-- What reads a string gets out of it at the same depth, by induction on what is left of it. -/
lemma readString_sound (depth : Nat) (opened done cs : Text) (h : cs.length < opened.length) :
    SoundIn (quoted depth) (outside depth) cs (readString opened done cs h) := by
  fun_induction readString opened done cs h with
  | case1 => exact ⟨_, _, rfl⟩
  | case2 done rest => exact passes_cons _ _ rest
  | case3 done rest stop escape =>
    have sound := readEscape_sound depth opened rest
    rw [escape] at sound
    exact sound
  | case4 done rest escaped after escape _ _ _ ih =>
    have sound := readEscape_sound depth opened rest
    rw [escape] at sound
    exact ih.of_passes ((passes_cons _ _ rest).trans sound)
  | case5 => exact ⟨_, _, rfl⟩
  | case6 done c rest _ quote backslash _ _ ih =>
    have passes := passes_cons (quoted depth) c rest
    rw [step_quoted quote backslash] at passes
    exact ih.of_passes passes

/-- A string is read soundly from the quote that opens it. -/
lemma readQuoted_sound (depth : Nat) (rest : Text) :
    SoundIn (outside depth) (outside depth) ('"' :: rest)
      (readString ('"' :: rest) [] rest (Nat.lt_succ_self _)) :=
  (readString_sound depth _ [] rest _).of_passes (passes_cons (outside depth) '"' rest)

end strings

/-! ## Words and numbers -/

section scalars

variable {cs : Text} {depth length : Nat} {c : CodePoint}

/-- A digit is part of a number. -/
lemma inNumber_of_isAsciiDigit (digit : Text.isAsciiDigit c = true) : inNumber c = true := by
  simp [inNumber, digit]

/-- What may stand in a number is no mark of a string, an object or an array. -/
lemma step_of_inNumber (number : inNumber c = true) : (outside depth).step c = outside depth := by
  have quote : c ≠ '"' := by
    rintro rfl
    exact absurd number (by decide)
  have opening : ¬opens c = true := by
    intro opening
    obtain rfl | rfl : c = '{' ∨ c = '[' := by simpa [opens] using opening
    all_goals exact absurd number (by decide)
  have closing : ¬closes c = true := by
    intro closing
    obtain rfl | rfl : c = '}' ∨ c = ']' := by simpa [closes] using closing
    all_goals exact absurd number (by decide)
  simp only [Place.step, if_neg quote, if_neg opening, if_neg closing]

/-- The text begins with this part, and the part may stand in a number. -/
structure Begins (part cs : Text) : Prop where
  front : part <+: cs
  number : ∀ c ∈ part, inNumber c = true

/-- Every text begins with nothing. -/
lemma begins_nil (cs : Text) : Begins [] cs := ⟨List.nil_prefix, nofun⟩

/-- A text begins with two parts, if what is left behind the first begins with the second. -/
lemma Begins.append {first later : Text} (h : Begins first cs)
    (h' : Begins later (cs.drop first.length)) : Begins (first ++ later) cs := by
  obtain ⟨⟨rest, rfl⟩, number⟩ := h
  rw [List.drop_left] at h'
  refine ⟨(List.prefix_append_right_inj first).mpr h'.front, fun c mem => ?_⟩
  exact (List.mem_append.mp mem).elim (number c) (h'.number c)

/-- A character of a number may stand before what a text begins with. -/
lemma Begins.cons {part : Text} (h : Begins part cs) (number : inNumber c = true) :
    Begins (c :: part) (c :: cs) := by
  refine ⟨List.cons_prefix_cons.mpr ⟨rfl, h.front⟩, ?_⟩
  rintro c' (_ | ⟨_, mem⟩)
  · exact number
  · exact h.number c' mem

/-- A text begins with its digits. -/
lemma begins_digits (cs : Text) : Begins (cs.takeWhile Text.isAsciiDigit) cs :=
  ⟨List.takeWhile_prefix _, fun _ mem => inNumber_of_isAsciiDigit (List.mem_takeWhile_imp mem)⟩

/-- A text begins with its sign. -/
lemma begins_sign (signs : Text) (number : ∀ c ∈ signs, inNumber c = true) (cs : Text) :
    Begins (signText signs cs) cs := by
  unfold signText
  split
  · next c rest =>
    split_ifs with sign
    · exact (begins_nil rest).cons (number c (List.contains_iff_mem.mp sign))
    · exact begins_nil _
  · exact begins_nil _

/-- A text begins with its whole part. -/
lemma begins_whole (cs : Text) : Begins (wholeText cs) cs := by
  refine ⟨prefix_wholeText cs, ?_⟩
  unfold wholeText
  split
  · decide
  · exact (begins_digits cs).number

/-- A text begins with its fraction. -/
lemma begins_fraction (cs : Text) : Begins (fractionText cs) cs := by
  unfold fractionText
  split
  · next rest =>
    split
    · exact begins_nil _
    · exact (begins_digits rest).cons (by decide)
  · exact begins_nil _

/-- A text begins with its exponent. -/
lemma begins_exponent (cs : Text) : Begins (exponentText cs) cs := by
  unfold exponentText
  split
  · next e rest =>
    dsimp only
    split
    · exact begins_nil _
    · split_ifs with letter
      · have sign := begins_sign ['+', '-'] (by decide) rest
        have behind := sign.append (begins_digits _)
        refine behind.cons ?_
        obtain rfl | rfl := letter <;> decide
      · exact begins_nil _
  · exact begins_nil _

/-- A number stands at the front of its text. -/
lemma begins_number (cs : Text) : Begins (NumberText.of cs).text cs := by
  -- Each part is read of what the parts before it leave.
  have sign := begins_sign ['-'] (by decide) cs
  have whole := sign.append (begins_whole _)
  have fraction := whole.append (begins_fraction _)
  have exponent := fraction.append (begins_exponent _)
  simpa only [List.length_append, List.drop_drop, NumberText.text, NumberText.of] using exponent

/-- A word or number at the front of a text leaves the place as it is. -/
lemma passes_scalar (depth : Nat) {value : Except Numeral.Overlong Json}
    (h : scalar? cs = some (length, value)) :
    0 < length ∧ Passes (outside depth) cs (outside depth) (cs.drop length) := by
  unfold scalar? at h
  split at h
  · next found =>
    cases h
    obtain ⟨⟨word, _⟩, mem, found⟩ := List.exists_of_findSome?_eq_some found
    obtain ⟨rest, after, is_found⟩ := Option.map_eq_some_iff.mp found
    cases is_found
    rw [Text.after?_eq_some_iff] at after
    have still : 0 < word.length ∧ ∀ c ∈ word, (outside depth).step c = outside depth := by
      simp only [wordValues, List.mem_cons, Prod.mk.injEq, List.not_mem_nil, or_false] at mem
      obtain ⟨rfl, -⟩ | ⟨rfl, -⟩ | ⟨rfl, -⟩ | ⟨rfl, -⟩ | ⟨rfl, -⟩ | ⟨rfl, -⟩ := mem
      all_goals exact ⟨by decide, by simp [Text.ofString, Text.ofChars, Place.step, opens, closes]⟩
    exact ⟨still.1, passes_drop still.2 ⟨rest, after.symm⟩⟩
  · dsimp only at h
    split_ifs at h with nonempty
    cases h
    have begun := begins_number cs
    refine ⟨?_, passes_drop (fun c mem => step_of_inNumber (begun.number c mem)) begun.front⟩
    have := List.length_pos_iff.mpr nonempty
    simp only [NumberText.text, List.length_append]
    omega

/-- A number that is too long to be read is an integer. -/
lemma longInteger_of_scalar? {o : Numeral.Overlong} (h : scalar? cs = some (length, .error o)) :
    LongInteger cs := by
  unfold scalar? at h
  split at h
  · cases h
  · dsimp only at h
    split_ifs at h
    simp only [Option.some.injEq, Prod.mk.injEq] at h
    obtain ⟨-, unread⟩ := h
    unfold NumberText.value at unread
    split at unread
    · next integer =>
      refine ⟨integer.1, integer.2, ?_⟩
      by_contra short
      rw [Numeral.read_of_length_le (Nat.not_lt.mp short)] at unread
      cases unread
    · cases unread

end scalars

/-! ## Values -/

section values

variable {room limit depth : Nat} {cs opened : Text}

/-- Behind a mark a number can begin, and spaces before it. -/
lemma leads_behind {c : CodePoint} (depth : Nat) (rest : Text) (apart : inNumber c = false)
    (steps : (outside depth).step c = outside (depth + 1)) :
    Leads (outside depth) (c :: rest) (outside (depth + 1)) (skip rest) := by
  have behind := (Passes.refl (outside depth) (c :: rest)).leads_of_cons apart
  rw [steps] at behind
  exact behind.trans (leads_skip (depth + 1) rest)

/-- A value is read soundly if the items and members in it are. -/
lemma readValue_step (full : room + depth = limit)
    (items : ∀ {room' : Nat} {part : Text} (h : part.length < cs.length),
      room' + (depth + 1) = limit →
        Sound limit (depth + 1) depth part (readItems room' cs [] part h))
    (members : ∀ {room' : Nat} {part : Text} (h : part.length < cs.length),
      room' + (depth + 1) = limit →
        Sound limit (depth + 1) depth part (readMembers room' cs [] part h)) :
    Sound limit depth depth cs (readValue room cs) := by
  unfold readValue
  split
  · exact trivial
  · next c rest =>
    split_ifs with quote brace bracket
    · subst quote
      exact (readQuoted_sound depth rest).sound.map _
    · subst brace
      have leads := leads_behind (c := '{') depth rest (by decide) rfl
      split
      · -- No room is left, so as many are open here as there may be.
        obtain rfl : depth = limit := by omega
        exact ⟨_, rest, .refl _ _, rfl⟩
      · split
        · next closed =>
          exact (passes_cons (outside depth) '{' rest).trans (passes_of_skip closed)
        · exact ((members _ (by omega)).of_leads leads).map _
    · subst bracket
      have leads := leads_behind (c := '[') depth rest (by decide) rfl
      split
      · -- No room is left, so as many are open here as there may be.
        obtain rfl : depth = limit := by omega
        exact ⟨_, rest, .refl _ _, rfl⟩
      · split
        · next closed =>
          exact (passes_cons (outside depth) '[' rest).trans (passes_of_skip closed)
        · exact ((items _ (by omega)).of_leads leads).map _
    · split
      · exact trivial
      · next length value scalar =>
        cases value with
        | ok v =>
          obtain ⟨positive, passes⟩ := passes_scalar depth scalar
          cases length with
          | zero => exact absurd positive (Nat.lt_irrefl 0)
          | succ length => exact passes
        | error o => exact ⟨depth, c :: rest, .refl _ _, longInteger_of_scalar? scalar⟩

/-- Items are read soundly if the first of them and the later ones are. -/
lemma readItems_step (value : Sound limit (depth + 1) (depth + 1) cs (readValue room cs))
    (later : ∀ {done : List Json} {part : Text} (h : part.length < opened.length),
      part.length < cs.length →
        Sound limit (depth + 1) depth part (readItems room opened done part h))
    (done : List Json) (h : cs.length < opened.length) :
    Sound limit (depth + 1) depth cs (readItems room opened done cs h) := by
  unfold readItems
  split
  · next stops =>
    rw [stops] at value
    exact value
  · next item after reads =>
    rw [reads] at value
    split
    · next next => exact value.trans (passes_of_skip next)
    · next next =>
      have shorter := length_skip_lt next
      exact (later _ (Nat.lt_trans shorter after.2)).of_leads
        (value.leads_of_skip next (by decide) rfl)
    · exact trivial

/-- Members are read soundly if the value of the first of them and the later ones are. -/
lemma readMembers_step
    (value : ∀ {part : Text}, part.length < cs.length →
      Sound limit (depth + 1) (depth + 1) part (readValue room part))
    (later : ∀ {done : List (Text × Json)} {part : Text} (h : part.length < opened.length),
      part.length < cs.length →
        Sound limit (depth + 1) depth part (readMembers room opened done part h))
    (done : List (Text × Json)) (h : cs.length < opened.length) :
    Sound limit (depth + 1) depth cs (readMembers room opened done cs h) := by
  unfold readMembers
  split
  · exact trivial
  · next c rest _ =>
    split_ifs with quote
    · subst quote
      have name_sound := readQuoted_sound (depth + 1) rest
      split
      · next stops =>
        rw [stops] at name_sound
        exact name_sound.sound
      · next after reads =>
        rw [reads] at name_sound
        split
        · next rest' colon =>
          have shorter := Nat.lt_trans (length_skip_lt colon) after.2
          have value_sound := (value shorter).of_leads
            (name_sound.leads_of_skip colon (by decide) rfl)
          split
          · next stops =>
            rw [stops] at value_sound
            exact value_sound
          · next after' reads' =>
            rw [reads'] at value_sound
            dsimp only
            split
            · next next => exact value_sound.trans (passes_of_skip next)
            · next next =>
              have shorter' := Nat.lt_trans (Nat.lt_trans (length_skip_lt next) after'.2) shorter
              exact (later _ shorter').of_leads (value_sound.leads_of_skip next (by decide) rfl)
            · exact trivial
        · exact trivial
    · exact trivial

end values

/-- Values, items and members are read soundly. -/
lemma readers_sound (limit size : Nat) :
    (∀ room depth cs, room + depth = limit → cs.length = size →
      Sound limit depth depth cs (readValue room cs)) ∧
    (∀ room depth opened done cs h, room + (depth + 1) = limit → cs.length = size →
      Sound limit (depth + 1) depth cs (readItems room opened done cs h)) ∧
    (∀ room depth opened done cs h, room + (depth + 1) = limit → cs.length = size →
      Sound limit (depth + 1) depth cs (readMembers room opened done cs h)) := by
  -- What is read inside of a value is shorter than it, and so is what follows an item of it.
  induction size using Nat.strongRecOn with
  | _ size ih =>
    have value (room depth : Nat) (cs : Text) (full : room + depth = limit)
        (is_size : cs.length = size) : Sound limit depth depth cs (readValue room cs) := by
      subst is_size
      exact readValue_step full (fun h full' => (ih _ h).2.1 _ _ _ _ _ _ full' rfl)
        (fun h full' => (ih _ h).2.2 _ _ _ _ _ _ full' rfl)
    refine ⟨value, ?_, ?_⟩
    · intro room depth opened done cs h full is_size
      subst is_size
      exact readItems_step (value room (depth + 1) cs full rfl)
        (fun _ shorter => (ih _ shorter).2.1 _ _ _ _ _ _ full rfl) done h
    · intro room depth opened done cs h full is_size
      subst is_size
      exact readMembers_step (fun shorter => (ih _ shorter).1 _ _ _ full rfl)
        (fun _ shorter => (ih _ shorter).2.2 _ _ _ _ _ _ full rfl) done h

/-- What reads a value is sound from the outermost depth. -/
lemma readValue_sound (room : Nat) (cs : Text) : Sound room 0 0 cs (readValue room cs) :=
  (readers_sound room cs.length).1 room 0 cs rfl rfl

/-! ## Whole texts -/

/-- What a text is refused for is a problem with it, or else the text has what is told. -/
def Unreadable.Justified (room : Nat) (text : Text) : Unreadable → Prop
  | .malformed _ => True
  | .overlong _ => HasLongInteger text
  | .tooDeep _ => NestsBeyond room text

/-- A text that is unreadable gives the reason for it. -/
lemma justified_of_read {room : Nat} {text : Text} {why : Unreadable}
    (unread : read room text = .error why) : why.Justified room text := by
  have sound := (readValue_sound room (skip text)).of_leads (leads_skip 0 text)
  unfold read at unread
  split_ifs at unread
  · cases unread
    exact trivial
  · unfold readText at unread
    rcases reads : readValue room (skip text) with stop | ⟨value, rest⟩
    · rw [reads] at sound unread
      cases stop with
      | problem =>
        cases unread
        exact trivial
      | overlong | tooDeep =>
        cases unread
        exact sound
    · rw [reads] at unread
      dsimp only [bind, Except.bind] at unread
      split at unread
      · cases unread
      · cases unread
        exact trivial

end PageAudit.Json
