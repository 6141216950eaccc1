import Mathlib.Algebra.Group.Nat.Defs
import Mathlib.Data.List.Basic
import PageAudit.Proofs.Text.Utf8
import PageAudit.Text.Lines

/-!
# Bytes read in parts

Bytes can be read in two parts where a byte of ASCII stands (`decodeLenient_append_cons`) and behind
the bytes of a text (`decodeLenient_encode_append`), however broken the parts are. Bytes that end no
line of a file are read as a text that ends none (`unbroken_decodeLenient`).
-/

namespace PageAudit.Text.Utf8

/-! ## Unfinished characters

Whatever bytes complete a character that takes several, it is none of ASCII. So bytes of ASCII never
belong to it, and the ends of line of a file come from bytes of their own. -/

/-- Whatever bytes complete the character, it is none of ASCII. -/
structure Partial.Beyond (p : Partial) : Prop where
  low : 0x80 ≤ p.low
  number : 0x80 ≤ (p.bits * 64 + (p.low - 0x80)) * 64 ^ (p.missing - 1)

/-- The unfinished character, if there is one, is none of ASCII. -/
def Lenient.Sound (s : Lenient) : Prop := ∀ p ∈ s.pending, p.Beyond

/-- A leading byte begins a character beyond the single bytes. -/
lemma beyond_of_lead {surrogates : Surrogates} {b : UInt8} {p : Partial}
    (more : lead surrogates b = .more p) : p.Beyond := by
  unfold lead at more
  dsimp only at more
  split_ifs at more <;> cases more
  all_goals constructor <;> dsimp only <;> omega

/-- A part of a character stays beyond the single bytes. -/
lemma Partial.Beyond.next {p q : Partial} (beyond : p.Beyond) {b : UInt8}
    (more : p.next b = .more q) : q.Beyond := by
  unfold Partial.next at more
  dsimp only at more
  split_ifs at more with within last
  cases more
  refine ⟨Nat.le_refl _, ?_⟩
  obtain ⟨count, succ⟩ : ∃ count, p.missing = count + 2 := ⟨p.missing - 2, by omega⟩
  have number := beyond.number
  simp only [succ, Nat.sub_self, Nat.add_zero] at number ⊢
  calc 0x80 ≤ (p.bits * 64 + (p.low - 0x80)) * 64 ^ (count + 1) := number
    _ ≤ (p.bits * 64 + (b.toNat - 0x80)) * 64 ^ (count + 1) := Nat.mul_le_mul_right _ (by omega)
    _ = (p.bits * 64 + (b.toNat - 0x80)) * 64 * 64 ^ count := by rw [Nat.pow_succ', Nat.mul_assoc]

/-- A character of several bytes is beyond the single bytes. -/
lemma Partial.Beyond.whole {p : Partial} (beyond : p.Beyond) {b : UInt8} {c : CodePoint}
    (whole : p.next b = .whole c) : ∃ n, 0x80 ≤ n ∧ c = .ofNat n := by
  unfold Partial.next at whole
  dsimp only at whole
  split_ifs at whole with within last
  have number := beyond.number
  rw [show p.missing - 1 = 0 by omega, Nat.pow_zero, Nat.mul_one] at number
  exact ⟨_, by omega, (Step.whole.inj whole).symm⟩

/-- A byte leaves a sound state. -/
lemma Lenient.Sound.feed {s : Lenient} (sound : s.Sound) (b : UInt8) : (s.feed b).Sound := by
  have first (read : Text) : (absorb read (lead .refused b)).Sound := by
    intro p mem
    cases step : lead .refused b with
    | whole c => rw [step] at mem; cases mem
    | invalid => rw [step] at mem; cases mem
    | more q =>
      rw [step] at mem
      cases mem
      exact beyond_of_lead step
  cases pending : s.pending with
  | none =>
    simp only [Lenient.feed, pending]
    exact first s.read
  | some p =>
    cases step : p.next b with
    | invalid =>
      simp only [Lenient.feed, pending, step]
      exact first _
    | whole c =>
      simp only [Lenient.feed, pending, step]
      rintro _ ⟨⟩
    | more q =>
      simp only [Lenient.feed, pending, step]
      rintro _ ⟨⟩
      exact (sound p pending).next step

/-- Any bytes leave a sound state. -/
lemma sound_foldl_feed (bytes : List UInt8) {s : Lenient} (sound : s.Sound) :
    (bytes.foldl Lenient.feed s).Sound := by
  induction bytes generalizing s with
  | nil => exact sound
  | cons b bytes ih => exact ih (sound.feed b)

/-- A byte of ASCII ends an unfinished character and is a character of its own. -/
lemma feed_ascii {b : UInt8} (ascii : b.toNat < 0x80) {s : Lenient} (sound : s.Sound) :
    s.feed b = ⟨none, .ofNat b.toNat :: s.finish.reverse⟩ := by
  have whole : lead .refused b = .whole (.ofNat b.toNat) := if_pos ascii
  rcases s with ⟨_ | p, read⟩
  · simp [Lenient.feed, whole, Lenient.absorb, Lenient.finish]
  · have invalid : p.next b = .invalid := by
      have low := (sound p rfl).low
      exact if_neg (by omega)
    simp [Lenient.feed, invalid, whole, Lenient.absorb, Lenient.finish]

/-- What was read before does not matter to a step. -/
lemma absorb_append (read before : Text) (step : Step) :
    Lenient.absorb (read ++ before) step =
      ⟨(Lenient.absorb read step).pending, (Lenient.absorb read step).read ++ before⟩ := by
  cases step <;> rfl

/-- What was read before does not matter to a byte. -/
lemma feed_append (pending : Option Partial) (read before : Text) (b : UInt8) :
    Lenient.feed ⟨pending, read ++ before⟩ b =
      ⟨(Lenient.feed ⟨pending, read⟩ b).pending,
        (Lenient.feed ⟨pending, read⟩ b).read ++ before⟩ := by
  cases pending with
  | none => exact absorb_append read before _
  | some p =>
    cases step : p.next b with
    | invalid =>
      simp only [Lenient.feed, step]
      exact absorb_append (replacement :: read) before _
    | whole c =>
      simp only [Lenient.feed, step]
      exact absorb_append read before _
    | more q =>
      simp only [Lenient.feed, step]
      exact absorb_append read before _

/-- What was read before does not matter for what is read of some bytes. -/
lemma finish_foldl_feed (bytes : List UInt8) (pending : Option Partial) (read before : Text) :
    (bytes.foldl Lenient.feed ⟨pending, read ++ before⟩).finish =
      before.reverse ++ (bytes.foldl Lenient.feed ⟨pending, read⟩).finish := by
  induction bytes generalizing pending read with
  | nil => cases pending <;> simp [Lenient.finish]
  | cons b bytes ih => rw [List.foldl_cons, feed_append, ih, List.foldl_cons]

/-- At a byte of ASCII the bytes can be read in two parts. -/
lemma decodeLenient_append_cons {b : UInt8} (ascii : b.toNat < 0x80) (front back : List UInt8) :
    decodeLenient (front ++ b :: back) =
      decodeLenient front ++ .ofNat b.toNat :: decodeLenient back := by
  have sound := sound_foldl_feed front (s := {}) nofun
  rw [decodeLenient, List.foldl_append, List.foldl_cons, feed_ascii ascii sound,
    ← List.nil_append (_ :: _), finish_foldl_feed]
  simp [decodeLenient]

/-- Bytes that end with one of ASCII are read on their own. -/
lemma decodeLenient_append_of_getLast? {front : List UInt8}
    (ascii : ∀ b ∈ front.getLast?, b.toNat < 0x80) (back : List UInt8) :
    decodeLenient (front ++ back) = decodeLenient front ++ decodeLenient back := by
  obtain rfl | ⟨front, b, rfl⟩ := List.eq_nil_or_concat' front
  · rfl
  · have ascii := ascii b (by rw [List.getLast?_concat]; rfl)
    rw [List.append_assoc, List.singleton_append, decodeLenient_append_cons ascii,
      decodeLenient_append_cons ascii, List.append_assoc]
    rfl

/-- Bytes that begin with one of ASCII are read on their own. -/
lemma decodeLenient_append_of_head? {back : List UInt8}
    (ascii : ∀ b ∈ back.head?, b.toNat < 0x80) (front : List UInt8) :
    decodeLenient (front ++ back) = decodeLenient front ++ decodeLenient back := by
  cases back with
  | nil =>
    rw [List.append_nil]
    exact (List.append_nil _).symm
  | cons b back =>
    have ascii := ascii b rfl
    rw [decodeLenient_append_cons ascii]
    exact congrArg _ (decodeLenient_append_cons ascii [] back).symm

/-- Behind the bytes of a text the other bytes are read as they are without it. -/
lemma decodeLenient_encode_append {cs : Text} {bytes : List UInt8}
    (ok : encode bytes? cs = .ok bytes) (back : List UInt8) :
    decodeLenient (bytes ++ back) = cs ++ decodeLenient back := by
  obtain ⟨chars, rfl⟩ := ofChars_of_encode ok
  rw [encode_ofChars] at ok
  cases ok
  rw [decodeLenient, List.foldl_append, foldl_feed_ofChars, List.append_nil,
    ← List.nil_append (List.reverse _), finish_foldl_feed, List.reverse_reverse]
  rfl

/-! ## Ends of line -/

/-- A byte that ends a line of a file. -/
def isBreakByte (b : UInt8) : Bool := b.toNat == 0x0a || b.toNat == 0x0d

/-- A code point beyond ASCII ends no line of a file. -/
lemma isFileBreak_ofNat {n : Nat} (beyond : 0x80 ≤ n) : isFileBreak (.ofNat n) = false := by
  rw [Bool.eq_false_iff]
  intro ends
  have ascii : (CodePoint.ofNat n).toNat < 0x80 := by
    simp only [isFileBreak, Bool.or_eq_true, beq_iff_eq] at ends
    obtain fed | returned := ends
    · rw [fed]
      decide
    · rw [returned]
      decide
  by_cases bounded : n < 0x110000
  · rw [CodePoint.toNat_ofNat bounded] at ascii
    omega
  · -- A number of no code point stands for the null character.
    have null : CodePoint.ofNat n = .char (Char.ofNat 0) := by
      have unreal : ¬n.isValidChar := by
        simp only [Nat.isValidChar]
        omega
      have plain : ¬(CodePoint.firstSurrogate ≤ n ∧ n < CodePoint.firstSurrogate + 0x800) := by
        simp only [CodePoint.firstSurrogate]
        omega
      rw [CodePoint.ofNat, dif_neg plain, Char.ofNat, dif_neg unreal]
      rfl
    rw [null] at ends
    cases ends

/-- A byte ends a line exactly if its character does. -/
lemma isFileBreak_ofNat_byte {b : UInt8} : isFileBreak (.ofNat b.toNat) = isBreakByte b := by
  have bytes : ∀ n < 0x80, isFileBreak (.ofNat n) = (n == 0x0a || n == 0x0d) := by decide
  by_cases ascii : b.toNat < 0x80
  · exact bytes _ ascii
  · rw [isFileBreak_ofNat (Nat.le_of_not_lt ascii)]
    simp only [isBreakByte, Bool.false_eq, Bool.or_eq_false_iff, beq_eq_false_iff_ne]
    omega

/-- A byte that ends a line is a character by itself. -/
lemma ascii_of_isBreakByte {b : UInt8} (ends : isBreakByte b = true) : b.toNat < 0x80 := by
  simp only [isBreakByte, Bool.or_eq_true, beq_iff_eq] at ends
  omega

/-- Bytes that begin with an end of line are read as a text that does. -/
lemma head?_decodeLenient {bytes : List UInt8} (ends : ∀ b ∈ bytes.head?, isBreakByte b = true) :
    ∀ c ∈ (decodeLenient bytes).head?, isFileBreak c = true := by
  cases bytes with
  | nil => exact nofun
  | cons b bytes =>
    have ends := ends b rfl
    have read := decodeLenient_append_cons (ascii_of_isBreakByte ends) [] bytes
    rw [List.nil_append] at read
    rw [read]
    rintro _ ⟨⟩
    rw [isFileBreak_ofNat_byte, ends]

/-- Bytes that end with an end of line are read as a text that does. -/
lemma getLast?_decodeLenient {bytes : List UInt8}
    (ends : ∀ b ∈ bytes.getLast?, isBreakByte b = true) :
    ∀ c ∈ (decodeLenient bytes).getLast?, isFileBreak c = true := by
  obtain rfl | ⟨bytes, b, rfl⟩ := List.eq_nil_or_concat' bytes
  · exact nofun
  · have ends := ends b (by rw [List.getLast?_concat]; rfl)
    rw [decodeLenient_append_cons (ascii_of_isBreakByte ends) bytes []]
    show ∀ c ∈ (decodeLenient bytes ++ [CodePoint.ofNat b.toNat]).getLast?, _
    rw [List.getLast?_concat]
    rintro _ ⟨⟩
    rw [isFileBreak_ofNat_byte, ends]

/-- No character that was read ends a line. -/
def Lenient.Unbroken (s : Lenient) : Prop := ∀ c ∈ s.read, isFileBreak c = false

/-- A step that ends no line leaves what is read unbroken. -/
lemma Lenient.Unbroken.absorb {read : Text} (unbroken : ∀ c ∈ read, isFileBreak c = false)
    {step : Step} (whole : ∀ c, step = .whole c → isFileBreak c = false) :
    (Lenient.absorb read step).Unbroken := by
  cases step with
  | whole c => exact List.forall_mem_cons.mpr ⟨whole c rfl, unbroken⟩
  | more p => exact unbroken
  | invalid => exact List.forall_mem_cons.mpr ⟨by decide, unbroken⟩

/-- A byte that ends no line leaves what is read unbroken. -/
lemma Lenient.Unbroken.feed {s : Lenient} (unbroken : s.Unbroken) (sound : s.Sound) {b : UInt8}
    (ends_not : isBreakByte b = false) : (s.feed b).Unbroken := by
  have first (c : CodePoint) (whole : lead .refused b = .whole c) : isFileBreak c = false := by
    unfold lead at whole
    dsimp only at whole
    split_ifs at whole
    rw [← Step.whole.inj whole, isFileBreak_ofNat_byte, ends_not]
  cases pending : s.pending with
  | none =>
    simp only [Lenient.feed, pending]
    exact .absorb unbroken first
  | some p =>
    cases step : p.next b with
    | invalid =>
      simp only [Lenient.feed, pending, step]
      exact .absorb (List.forall_mem_cons.mpr ⟨by decide, unbroken⟩) first
    | whole c =>
      simp only [Lenient.feed, pending, step]
      refine .absorb unbroken ?_
      rintro _ ⟨⟩
      obtain ⟨n, beyond, rfl⟩ := (sound p pending).whole step
      exact isFileBreak_ofNat beyond
    | more q =>
      simp only [Lenient.feed, pending, step]
      refine .absorb unbroken ?_
      rintro _ ⟨⟩

/-- Bytes that end no line are read as a text that ends none. -/
lemma unbroken_decodeLenient {bytes : List UInt8} (ends_not : ∀ b ∈ bytes, isBreakByte b = false) :
    ∀ c ∈ decodeLenient bytes, isFileBreak c = false := by
  have fed (s : Lenient) (sound : s.Sound) (unbroken : s.Unbroken) :
      (bytes.foldl Lenient.feed s).Unbroken := by
    induction bytes generalizing s with
    | nil => exact unbroken
    | cons b bytes ih =>
      rw [List.forall_mem_cons] at ends_not
      exact ih ends_not.2 _ (sound.feed b) (unbroken.feed sound ends_not.1)
  intro c mem
  have unbroken := fed {} nofun nofun
  unfold decodeLenient Lenient.finish at mem
  split at mem
  · exact unbroken c (List.mem_reverse.mp mem)
  · obtain rfl | mem := List.mem_cons.mp (List.mem_reverse.mp mem)
    · decide
    · exact unbroken c mem

end PageAudit.Text.Utf8
