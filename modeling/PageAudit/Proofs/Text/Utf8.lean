import Mathlib.Data.List.TakeWhile
import Mathlib.Tactic.Lemma
import Mathlib.Tactic.SplitIfs
import PageAudit.Text.Encoding
import PageAudit.Text.Utf8

/-!
# UTF-8 read back

The bytes of a character are read as that character, whatever was read before (`foldl_feed_bytes`):
the first byte tells how many follow (`feed_first`), and each of these adds six bits
(`feed_further`, `feed_last`). So a text is read back from its bytes (`decodeLenient_of_encode`). A
text of scalar values has bytes (`encode_of_scalar`), and one with a surrogate has none.
-/

namespace PageAudit

/-- A character is that of its number. -/
lemma CodePoint.ofNat_toNat (c : Char) : CodePoint.ofNat c.toNat = .char c := by
  have valid := c.valid
  have plain : ¬ (firstSurrogate ≤ c.toNat ∧ c.toNat < firstSurrogate + 0x800) := by
    simp only [UInt32.isValidChar, Nat.isValidChar] at valid
    simp only [firstSurrogate, Char.toNat]
    omega
  rw [ofNat, dif_neg plain, Char.ofNat_toNat]

namespace Text

/-- A text that has bytes is a text of characters. -/
lemma ofChars_of_encode {cs : Text} {bytes : List UInt8} (ok : encode bytes? cs = .ok bytes) :
    ∃ chars, cs = ofChars chars := by
  unfold encode at ok
  cases whole : unencodable? bytes? cs with
  | some u =>
    rw [whole] at ok
    cases ok
  | none =>
    have all_some : ∀ c ∈ cs, (bytes? c).isSome = true := by
      unfold unencodable? at whole
      dsimp only at whole
      split at whole
      · next nothing =>
        have short := List.drop_eq_nil_iff.mp nothing
        have front := List.takeWhile_prefix (fun c => (bytes? c).isSome) (l := cs)
        rw [← front.eq_of_length_le short]
        exact List.all_eq_true.mp List.all_takeWhile
      · cases whole
    refine ⟨cs.map CodePoint.toChar, ?_⟩
    rw [ofChars, List.map_map]
    refine (List.map_congr_left fun c mem => ?_).trans (List.map_id cs) |>.symm
    cases c with
    | char c => rfl
    | surrogate offset => cases all_some _ mem

/-- The bytes of a text. -/
def bytesOf (text : Text) : List UInt8 := text.flatMap fun c => (bytes? c).getD []

/-- The text is one of scalar values. -/
def Scalar (text : Text) : Prop := ∀ c ∈ text, (bytes? c).isSome = true

/-- Whether a text is one of scalar values is decided by its characters. -/
instance (text : Text) : Decidable text.Scalar :=
  inferInstanceAs (Decidable (∀ c ∈ text, (bytes? c).isSome = true))

/-- A text of scalar values is encoded to its bytes. -/
lemma encode_of_scalar {text : Text} (scalar : text.Scalar) :
    encode bytes? text = .ok (bytesOf text) := by
  have all : (text.takeWhile fun c => (bytes? c).isSome) = text :=
    List.takeWhile_eq_self_iff.mpr scalar
  simp only [encode, unencodable?, all, List.drop_length]
  rfl

namespace Utf8

/-! ## One byte -/

/-- A number below 256 is kept by a byte. -/
lemma toNat_byte {n : Nat} (h : n < 256) : (UInt8.ofNat n).toNat = n := UInt8.toNat_ofNat_of_lt' h

/-- The first byte of a character. -/
lemma feed_first (read : Text) (b : UInt8) :
    Lenient.feed ⟨none, read⟩ b = Lenient.absorb read (lead .refused b) := rfl

section

variable {front bits low high : Nat} (few : bits < 64) (above : low ≤ bits + 128)
  (below : bits + 128 ≤ high) (read : Text)

include few above below

/-- A byte before the last: six more bits of the number. -/
lemma feed_further (missing : Nat) :
    Lenient.feed ⟨some ⟨missing + 2, front, low, high⟩, read⟩ (UInt8.ofNat (bits + 128)) =
      ⟨some ⟨missing + 1, front * 64 + bits, 0x80, 0xbf⟩, read⟩ := by
  have byte := toNat_byte (show bits + 128 < 256 by omega)
  have more : ¬missing + 2 ≤ 1 := by omega
  simp only [Lenient.feed, Partial.next, byte, if_pos (And.intro above below), if_neg more,
    Nat.add_sub_cancel]
  rfl

/-- The last byte: the last six bits of the number. -/
lemma feed_last :
    Lenient.feed ⟨some ⟨1, front, low, high⟩, read⟩ (UInt8.ofNat (bits + 128)) =
      ⟨none, .ofNat (front * 64 + bits) :: read⟩ := by
  have byte := toNat_byte (show bits + 128 < 256 by omega)
  simp only [Lenient.feed, Partial.next, byte, if_pos (And.intro above below), Nat.le_refl,
    if_true, Nat.add_sub_cancel]
  rfl

end

/-! ## One character -/

section

variable {n : Nat} (read : Text)

/-- One byte is read to a character. -/
lemma feed_one (h : n < 0x80) :
    Lenient.feed ⟨none, read⟩ (UInt8.ofNat n) = ⟨none, .ofNat n :: read⟩ := by
  rw [feed_first, lead, toNat_byte (by omega), if_pos h, Lenient.absorb]

/-- Two bytes are read to a character. -/
lemma foldl_feed_two (h : 0x80 ≤ n ∧ n < 0x800) :
    [UInt8.ofNat (n / 64 % 32 + 192), UInt8.ofNat (n % 64 + 128)].foldl Lenient.feed
      ⟨none, read⟩ = ⟨none, .ofNat n :: read⟩ := by
  have first : lead .refused (UInt8.ofNat (n / 64 % 32 + 192)) =
      .more ⟨1, n / 64 % 32, 0x80, 0xbf⟩ := by
    simp only [lead, toNat_byte (show n / 64 % 32 + 192 < 256 by omega)]
    rw [if_neg (by omega), if_neg (by omega), if_pos (by omega), Nat.add_sub_cancel]
  simp only [List.foldl_cons, List.foldl_nil, feed_first, first, Lenient.absorb]
  rw [feed_last (by omega) (by omega) (by omega),
    show n / 64 % 32 * 64 + n % 64 = n by omega]

/-- Three bytes are read to a character that is no surrogate. -/
lemma foldl_feed_three (h : 0x800 ≤ n ∧ n < 0x10000) (plain : n < 0xd800 ∨ 0xdfff < n) :
    [UInt8.ofNat (n / 4096 % 16 + 224), UInt8.ofNat (n / 64 % 64 + 128),
      UInt8.ofNat (n % 64 + 128)].foldl Lenient.feed ⟨none, read⟩ = ⟨none, .ofNat n :: read⟩ := by
  have first : lead .refused (UInt8.ofNat (n / 4096 % 16 + 224)) =
      .more ⟨2, n / 4096 % 16, if n / 4096 % 16 = 0 then 0xa0 else 0x80,
        if n / 4096 % 16 = 0xd then 0x9f else 0xbf⟩ := by
    simp only [lead, toNat_byte (show n / 4096 % 16 + 224 < 256 by omega), Surrogates.highAfterEd]
    rw [if_neg (by omega), if_neg (by omega), if_neg (by omega), if_pos (by omega),
      Nat.add_sub_cancel]
    simp only [show n / 4096 % 16 + 224 = 0xe0 ↔ n / 4096 % 16 = 0 by omega,
      show n / 4096 % 16 + 224 = 0xed ↔ n / 4096 % 16 = 0xd by omega]
  simp only [List.foldl_cons, List.foldl_nil, feed_first, first, Lenient.absorb]
  -- The bounds on the second byte keep out short numbers and surrogates, which `n` is not.
  rw [feed_further (by omega) (by split_ifs <;> omega) (by split_ifs <;> omega) read 0,
    feed_last (by omega) (by omega) (by omega),
    show (n / 4096 % 16 * 64 + n / 64 % 64) * 64 + n % 64 = n by omega]

/-- Four bytes are read to a character. -/
lemma foldl_feed_four (h : 0x10000 ≤ n ∧ n < 0x110000) :
    [UInt8.ofNat (n / 262144 % 8 + 240), UInt8.ofNat (n / 4096 % 64 + 128),
      UInt8.ofNat (n / 64 % 64 + 128), UInt8.ofNat (n % 64 + 128)].foldl Lenient.feed
      ⟨none, read⟩ = ⟨none, .ofNat n :: read⟩ := by
  have first : lead .refused (UInt8.ofNat (n / 262144 % 8 + 240)) =
      .more ⟨3, n / 262144 % 8, if n / 262144 % 8 = 0 then 0x90 else 0x80,
        if n / 262144 % 8 = 4 then 0x8f else 0xbf⟩ := by
    simp only [lead, toNat_byte (show n / 262144 % 8 + 240 < 256 by omega)]
    rw [if_neg (by omega), if_neg (by omega), if_neg (by omega), if_neg (by omega),
      if_pos (by omega), Nat.add_sub_cancel]
    simp only [show n / 262144 % 8 + 240 = 0xf0 ↔ n / 262144 % 8 = 0 by omega,
      show n / 262144 % 8 + 240 = 0xf4 ↔ n / 262144 % 8 = 4 by omega]
  simp only [List.foldl_cons, List.foldl_nil, feed_first, first, Lenient.absorb]
  -- The bounds on the second byte keep out short numbers and those past the last code point.
  rw [feed_further (by omega) (by split_ifs <;> omega) (by split_ifs <;> omega) read 1,
    feed_further (by omega) (by omega) (by omega) read 0,
    feed_last (by omega) (by omega) (by omega),
    show ((n / 262144 % 8 * 64 + n / 4096 % 64) * 64 + n / 64 % 64) * 64 + n % 64 = n by omega]

end

/-- The bytes of a character are read as that character. -/
lemma foldl_feed_bytes (c : Char) (read : Text) :
    (String.utf8EncodeChar c).foldl Lenient.feed ⟨none, read⟩ = ⟨none, .char c :: read⟩ := by
  have valid := c.valid
  simp only [UInt32.isValidChar, Nat.isValidChar] at valid
  rw [← CodePoint.ofNat_toNat c]
  unfold String.utf8EncodeChar
  simp only [Char.toNat]
  generalize c.val.toNat = n at valid
  split_ifs with one two three
  · exact feed_one read (by omega)
  · exact foldl_feed_two read (by omega)
  · exact foldl_feed_three read (by omega) (by omega)
  · exact foldl_feed_four read (by omega)

/-! ## Whole texts -/

/-- The characters of a text are read from their bytes one after the other. -/
lemma foldl_feed_ofChars (chars : List Char) (read : Text) :
    (chars.flatMap String.utf8EncodeChar).foldl Lenient.feed ⟨none, read⟩ =
      ⟨none, (ofChars chars).reverse ++ read⟩ := by
  induction chars generalizing read with
  | nil => rfl
  | cons c chars ih =>
    rw [List.flatMap_cons, List.foldl_append, foldl_feed_bytes, ih]
    simp [ofChars]

/-- A text is read back from its bytes. -/
lemma decodeLenient_of_encode {cs : Text} {bytes : List UInt8} (ok : encode bytes? cs = .ok bytes) :
    decodeLenient bytes = cs := by
  obtain ⟨chars, rfl⟩ := ofChars_of_encode ok
  rw [encode_ofChars] at ok
  cases ok
  rw [decodeLenient, foldl_feed_ofChars]
  simp [Lenient.finish]

end Utf8

end Text

end PageAudit
