import Mathlib.Tactic.Lemma
import PageAudit.Claim.Line

/-!
# The last place of a text

What `last?` reads is read at a place after which nothing is read (`last?_eq_some_iff`). The fields
of a claim are read in this way, so the token is a part of its line (`infix_of_fields?`).
-/

namespace PageAudit.Claim

variable {α : Type} {f : Text → Option α}

/-- The last place of a text with one more character at its front. -/
lemma last?_cons (c : CodePoint) (cs : Text) :
    last? f (c :: cs) = (last? f cs).or (f (c :: cs)) := by
  show scanLast f ((f (c :: cs)).or none) cs = _
  rw [scanLast_eq, Option.or_none]

/-- What is read is read at the last place that is accepted. -/
lemma last?_eq_some_iff {cs : Text} {b : α} :
    last? f cs = some b ↔
      ∃ c here, c :: here <:+ cs ∧ f (c :: here) = some b ∧ last? f here = none := by
  induction cs with
  | nil => simp [last?, scanLast]
  | cons c cs ih =>
    rw [last?_cons]
    constructor
    -- A place further on comes before the one at the front.
    · intro h
      cases later : last? f cs with
      | some b' =>
        rw [later, Option.some_or] at h
        obtain ⟨d, here, suffix, accepted, last⟩ := ih.mp (later.trans h)
        exact ⟨d, here, suffix.trans (List.suffix_cons c cs), accepted, last⟩
      | none =>
        rw [later, Option.none_or] at h
        exact ⟨c, cs, List.suffix_refl _, h, later⟩
    · rintro ⟨d, here, suffix, accepted, last⟩
      obtain same | suffix := List.suffix_cons_iff.mp suffix
      · obtain ⟨rfl, rfl⟩ := List.cons.inj same
        rw [last, Option.none_or, accepted]
      · rw [ih.mpr ⟨d, here, suffix, accepted, last⟩, Option.some_or]

/-- A token is a part of the text at whose front it is read. -/
lemma infix_of_tokenHere? {cs token : Text} (h : tokenHere? cs = some token) : token <:+: cs := by
  unfold tokenHere? at h
  split at h
  · cases h
  · next rest after =>
    split at h
    · cases h
    · next taken =>
      cases h
      rw [Text.after?_eq_some_iff] at after
      rw [← taken, after]
      exact (List.takeWhile_prefix _).isInfix.trans (List.suffix_append _ _).isInfix

/-- The token of a claim is a part of the text at whose front its base address is read. -/
lemma infix_of_baseHere? {cs token : Text} {address : Nat}
    (h : baseHere? cs = some (address, token)) : token <:+: cs := by
  unfold baseHere? at h
  split at h
  · cases h
  · next rest after =>
    split at h
    · cases h
    · next taken =>
      simp only [Option.map_eq_some_iff, Prod.mk.injEq] at h
      obtain ⟨token', last, -, rfl⟩ := h
      obtain ⟨c, here, suffix, read, -⟩ := last?_eq_some_iff.mp last
      rw [Text.after?_eq_some_iff] at after
      have place : c :: here <:+ cs :=
        suffix.trans ((List.dropWhile_suffix _).trans (after ▸ List.suffix_append _ _))
      exact (infix_of_tokenHere? read).trans place.isInfix

/-- The token of a claim is a part of its line. -/
lemma infix_of_fields? {line token : Text} {address : Nat}
    (h : fields? line = some (address, token)) : token <:+: line := by
  obtain ⟨part, mem, read⟩ := List.exists_of_findSome?_eq_some h
  obtain ⟨c, here, suffix, read, -⟩ := last?_eq_some_iff.mp read
  have cut : part <:+: line := by
    rw [← Text.flatten_cutLines line]
    exact List.infix_of_mem_flatten mem
  exact (infix_of_baseHere? read).trans (suffix.isInfix.trans cut)

end PageAudit.Claim
