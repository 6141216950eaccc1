import Mathlib.Tactic.Lemma
import PageAudit.Journal.Logged

/-!
# Oblivious computations

A computation is *oblivious* if its journal decides nothing: whatever journal it is run on, and also
without one, it comes to the same `result` and makes the same `notes`. Of those a journal then keeps
the ones at or above its threshold (`Journal.held_addAll?`), so what is kept at one threshold is
read off what is kept at the least (`Journal.held_addAll?_fresh`).

The building blocks of computations are oblivious, and `Oblivious.bind` puts oblivious computations
together; `result_bind` and `notes_bind` say what the whole then comes to.
-/

namespace PageAudit

namespace Journal

/-- Makes entries in a journal, if there is one. -/
def addAll? (journal : Option Journal) (entries : List Entry) : Option Journal :=
  entries.foldl add? journal

/-- The entries that a journal holds; without a journal there are none. -/
def held (journal : Option Journal) : List Entry :=
  (journal.map (·.entries.toList)).getD []

@[simp] lemma addAll?_nil (journal : Option Journal) : addAll? journal [] = journal := rfl

/-- One entry is added as by itself. -/
lemma addAll?_singleton (journal : Option Journal) (e : Entry) :
    addAll? journal [e] = add? journal e := rfl

/-- Entries are added one part after the other. -/
lemma addAll?_append (journal : Option Journal) (es fs : List Entry) :
    addAll? journal (es ++ fs) = addAll? (addAll? journal es) fs := by
  simp [addAll?]

/-- Without a journal nothing is added. -/
@[simp] lemma addAll?_none (es : List Entry) : addAll? none es = none := by
  induction es with
  | nil => rfl
  | cons e es ih => exact ih

/-- Recording leaves the threshold as it is. -/
@[simp] lemma threshold_record (j : Journal) (e : Entry) :
    (j.record e).threshold = j.threshold := by
  unfold record
  split <;> rfl

/-- A journal holds its earlier entries and after them the new ones at or above its threshold. -/
lemma held_addAll? (j : Journal) (es : List Entry) :
    held (addAll? (some j) es) = j.entries.toList ++ es.filter (j.keeps ·.level) := by
  induction es generalizing j with
  | nil => simp [held]
  | cons e es ih =>
    have keeps_record (level : Level) : (j.record e).keeps level = j.keeps level := by
      simp [keeps]
    change held (addAll? (some (j.record e)) es) = _
    simp only [ih, entries_record, keeps_record, List.append_assoc]
    rw [← List.filter_append, List.singleton_append]

/-- Of what is made in a fresh journal it holds exactly what is at or above its threshold. -/
lemma held_addAll?_fresh (threshold : Level) (es : List Entry) :
    held (addAll? (some { threshold }) es) = es.filter (decide <| threshold ≤ ·.level) := by
  rw [held_addAll?]
  rfl

/-- A fresh journal with the least threshold holds everything that is made in it. -/
lemma held_addAll?_debug (es : List Entry) :
    held (addAll? (some { threshold := .debug }) es) = es := by
  rw [held_addAll?_fresh, List.filter_eq_self]
  exact fun e _ => decide_eq_true (Level.debug_le e.level)

/-- What a journal holds stays at the front of what it holds later. -/
lemma held_prefix_addAll? (journal : Option Journal) (es : List Entry) :
    held journal <+: held (addAll? journal es) := by
  cases journal with
  | none => simp
  | some j =>
    rw [held_addAll?]
    exact List.prefix_append _ _

end Journal

namespace Logged

variable {ε ε' α β : Type}

/-- What a computation comes to without a journal. -/
def result (x : Logged ε α) : Except ε α := (x.on none).1

/-- All that a computation notes: what it leaves in a fresh journal that keeps everything. -/
def notes (x : Logged ε α) : List Entry :=
  Journal.held (x.on (some { threshold := .debug })).2

/-- The journal decides nothing of a computation. -/
structure Oblivious (x : Logged ε α) : Prop where
  /-- It runs on every journal as it does without one, and makes the same entries in it. -/
  on_eq : ∀ journal, x.on journal = (x.result, Journal.addAll? journal x.notes)

/-- What holds of every journal tells the result. -/
lemma result_of_on {x : Logged ε α} {r es}
    (h : ∀ journal, x.on journal = (r, Journal.addAll? journal es)) : x.result = r := by
  rw [result, h]

/-- What holds of every journal tells the notes. -/
lemma notes_of_on {x : Logged ε α} {r es}
    (h : ∀ journal, x.on journal = (r, Journal.addAll? journal es)) : x.notes = es := by
  rw [notes, h]
  exact Journal.held_addAll?_debug es

/-- A computation with one result and one list of notes for all journals is oblivious. -/
lemma Oblivious.of_on {x : Logged ε α} {r es}
    (h : ∀ journal, x.on journal = (r, Journal.addAll? journal es)) : x.Oblivious := by
  refine ⟨fun journal => ?_⟩
  rw [h, result_of_on h, notes_of_on h]

/-! ## The building blocks -/

section blocks

variable (a : α) (e : ε) (level : Level) (source message : Text) (line : Option Int)

/-- A value adds no entries. -/
lemma on_pure_addAll? (journal : Option Journal) :
    (pure a : Logged ε α).on journal = (.ok a, Journal.addAll? journal []) := rfl

/-- A failure adds no entries. -/
lemma on_throw_addAll? (journal : Option Journal) :
    (throw e : Logged ε α).on journal = (.error e, Journal.addAll? journal []) := rfl

/-- A note adds its own entry. -/
lemma on_note_addAll? (journal : Option Journal) :
    (note level source message line : Logged ε Unit).on journal =
      (.ok (), Journal.addAll? journal [{ level, source, message, line }]) := rfl

@[simp] lemma oblivious_pure : (pure a : Logged ε α).Oblivious := .of_on (on_pure_addAll? a)

@[simp] lemma oblivious_throw : (throw e : Logged ε α).Oblivious := .of_on (on_throw_addAll? e)

@[simp] lemma oblivious_note : (note level source message line : Logged ε Unit).Oblivious :=
  .of_on (on_note_addAll? level source message line)

@[simp] lemma result_pure : (pure a : Logged ε α).result = .ok a := rfl

@[simp] lemma result_throw : (throw e : Logged ε α).result = .error e := rfl

@[simp] lemma result_note :
    (note level source message line : Logged ε Unit).result = .ok () := rfl

@[simp] lemma notes_pure : (pure a : Logged ε α).notes = [] := rfl

@[simp] lemma notes_throw : (throw e : Logged ε α).notes = [] := rfl

@[simp] lemma notes_note :
    (note level source message line : Logged ε Unit).notes =
      [{ level, source, message, line }] := rfl

end blocks

@[simp] lemma oblivious_ofExcept (r : Except ε α) : (ofExcept r).Oblivious := by
  cases r with
  | ok a => exact oblivious_pure a
  | error e => exact oblivious_throw e

@[simp] lemma result_ofExcept (r : Except ε α) : (ofExcept r).result = r := by
  rw [result, on_ofExcept]

@[simp] lemma notes_ofExcept (r : Except ε α) : (ofExcept r).notes = [] := by
  cases r <;> rfl

/-! ## Putting computations together -/

variable {x : Logged ε α} {f : α → Logged ε β}

/-- How two oblivious computations run one after the other. -/
lemma on_bind_addAll? (hx : x.Oblivious) (hf : ∀ a, x.result = .ok a → (f a).Oblivious)
    (journal : Option Journal) :
    (x >>= f).on journal =
      match x.result with
      | .ok a => ((f a).result, Journal.addAll? journal (x.notes ++ (f a).notes))
      | .error e => (.error e, Journal.addAll? journal x.notes) := by
  rw [on_bind, hx.on_eq journal]
  cases h : x.result with
  | error e => rfl
  | ok a =>
    change (f a).on _ = ((f a).result, _)
    rw [(hf a h).on_eq, Journal.addAll?_append]

/-- A computation is oblivious that goes on from one that is, if what it goes on with is. -/
lemma Oblivious.bind (hx : x.Oblivious) (hf : ∀ a, x.result = .ok a → (f a).Oblivious) :
    (x >>= f).Oblivious := by
  have run := on_bind_addAll? hx hf
  cases h : x.result with
  | error e =>
    rw [h] at run
    exact .of_on run
  | ok a =>
    rw [h] at run
    exact .of_on run

/-- A computation comes to what it goes on with from the result of its first part. -/
lemma result_bind (hx : x.Oblivious) : (x >>= f).result = x.result.bind fun a => (f a).result := by
  rw [result, on_bind, hx.on_eq none, Journal.addAll?_none]
  cases x.result <;> rfl

/-- A note does not change what comes of what follows it. -/
lemma result_note_bind (level : Level) (source message : Text) (line : Option Int)
    (f : Unit → Logged ε β) : (note level source message line >>= f).result = (f ()).result :=
  result_bind (oblivious_note ..)

/-- A computation goes on from a result that is given. -/
lemma result_ofExcept_bind (r : Except ε α) :
    (ofExcept r >>= f).result = r.bind fun a => (f a).result := by
  rw [result_bind (oblivious_ofExcept r), result_ofExcept]

/-- A computation notes what its first part notes, and then what it goes on with. -/
lemma notes_bind (hx : x.Oblivious) (hf : ∀ a, x.result = .ok a → (f a).Oblivious) :
    (x >>= f).notes =
      x.notes ++
        match x.result with
        | .ok a => (f a).notes
        | .error _ => [] := by
  have run := on_bind_addAll? hx hf
  cases h : x.result with
  | error e =>
    rw [h] at run
    rw [notes_of_on run, List.append_nil]
  | ok a =>
    rw [h] at run
    exact notes_of_on run

/-- What a computation comes to whose failures are told in other terms. -/
lemma result_mapError (x : Logged ε α) (g : ε → ε') :
    (x.mapError g).result = x.result.mapError g := rfl

/-- A computation stays oblivious whose failures are told in other terms. -/
lemma Oblivious.mapError {x : Logged ε α} (hx : x.Oblivious) (g : ε → ε') :
    (x.mapError g).Oblivious := by
  have run (journal : Option Journal) :
      (x.mapError g).on journal = (x.result.mapError g, Journal.addAll? journal x.notes) := by
    rw [on_mapError, hx.on_eq]
  exact .of_on run

end Logged

end PageAudit
