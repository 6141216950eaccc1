import PageAudit.Proofs.Journal.Oblivious

/-!
# Quiet computations

A computation is *quiet* if nothing that it notes is a warning or an error. What a computation notes
in a fresh journal that keeps warnings is nothing exactly if it is quiet
(`held_warning_eq_nil_iff`). `Quiet.bind` puts quiet computations together.
-/

namespace PageAudit

/-- No entry is a warning or an error. -/
def Journal.Calm (entries : List Entry) : Prop := ∀ e ∈ entries, ¬Level.warning ≤ e.level

namespace Journal

@[simp] lemma calm_nil : Calm [] := nofun

@[simp] lemma calm_append_iff {es fs : List Entry} : Calm (es ++ fs) ↔ Calm es ∧ Calm fs :=
  List.forall_mem_append

@[simp] lemma calm_singleton_iff {e : Entry} : Calm [e] ↔ ¬Level.warning ≤ e.level :=
  List.forall_mem_singleton

/-- Nothing of calm entries is kept where only warnings are. -/
lemma filter_warning_eq_nil_iff {es : List Entry} :
    es.filter (decide <| Level.warning ≤ ·.level) = [] ↔ Calm es := by
  simp [Calm, List.filter_eq_nil_iff]

/-- A journal stays calm if the entry made in it is. -/
lemma Calm.held_add? {journal : Option Journal} {e : Entry} (calm : Calm (held journal))
    (below : ¬Level.warning ≤ e.level) : Calm (held (add? journal e)) := by
  cases journal with
  | none => exact calm
  | some j =>
    rw [← addAll?_singleton, held_addAll?, calm_append_iff]
    refine ⟨calm, fun e' mem => ?_⟩
    obtain rfl := List.mem_singleton.mp (List.mem_filter.mp mem).1
    exact below

end Journal

namespace Logged

open Journal

variable {ε ε' α β : Type}

/-- Nothing that a computation notes is a warning or an error. -/
def Quiet (x : Logged ε α) : Prop := Calm x.notes

/-- A fresh journal that keeps warnings holds nothing of a computation exactly if that is quiet. -/
lemma held_warning_eq_nil_iff {x : Logged ε α} (oblivious : x.Oblivious) :
    held (x.on (some { threshold := .warning })).2 = [] ↔ x.Quiet := by
  rw [oblivious.on_eq, held_addAll?_fresh, filter_warning_eq_nil_iff, Quiet]

@[simp] lemma quiet_pure (a : α) : (pure a : Logged ε α).Quiet := calm_nil

@[simp] lemma quiet_ofExcept (r : Except ε α) : (ofExcept r).Quiet := by
  rw [Quiet, notes_ofExcept]
  exact calm_nil

@[simp] lemma quiet_note_iff {level : Level} {source message : Text} {line : Option Int} :
    (note level source message line : Logged ε Unit).Quiet ↔ ¬Level.warning ≤ level :=
  calm_singleton_iff

section bind

variable {f : α → Logged ε β}

/-- Quiet computations one after the other are quiet. -/
lemma Quiet.bind {x : Logged ε α} (quiet : x.Quiet) (oblivious : x.Oblivious)
    (hf : ∀ a, x.result = .ok a → (f a).Oblivious ∧ (f a).Quiet) : (x >>= f).Quiet := by
  unfold Quiet
  rw [notes_bind oblivious fun a ends => (hf a ends).1, calm_append_iff]
  refine ⟨quiet, ?_⟩
  cases ends : x.result with
  | error e => exact calm_nil
  | ok a => exact (hf a ends).2

/-- A quiet computation stays quiet behind a result that notes nothing. -/
lemma quiet_ofExcept_bind {r : Except ε α}
    (hf : ∀ a, r = .ok a → (f a).Oblivious ∧ (f a).Quiet) : (ofExcept r >>= f).Quiet := by
  refine (quiet_ofExcept r).bind (oblivious_ofExcept r) fun a ends => hf a ?_
  rwa [result_ofExcept] at ends

/-- A note below a warning leaves what follows it quiet. -/
lemma quiet_note_bind {level : Level} {source message : Text} {line : Option Int}
    {x : Logged ε β} (below : ¬Level.warning ≤ level) (oblivious : x.Oblivious) (quiet : x.Quiet) :
    (note level source message line >>= fun _ => x).Quiet :=
  (quiet_note_iff.mpr below).bind (oblivious_note ..) fun _ _ => ⟨oblivious, quiet⟩

end bind

/-- A computation is as quiet if its failures are told in other terms. -/
lemma quiet_mapError_iff {x : Logged ε α} {g : ε → ε'} : (x.mapError g).Quiet ↔ x.Quiet := Iff.rfl

end Logged

end PageAudit
