import PageAudit.Journal.Basic

/-!
# Computations that keep a journal

A computation that may fail and may note what it does. The journal is the caller's, who need not
have one; what was noted before a failure stays noted.
-/

namespace PageAudit

/-- A computation that may fail with an `ε` and notes what it does in a journal, if there is one.
-/
abbrev Logged (ε α : Type) := ExceptT ε (StateM (Option Journal)) α

/-- Adds an entry to a journal, if there is one. -/
def Journal.add? (journal : Option Journal) (e : Entry) : Option Journal :=
  journal.map (·.record e)

namespace Logged

/-- Notes something. -/
def note {ε : Type} (level : Level) (source message : Text) (line : Option Int := none) :
    Logged ε Unit :=
  modify (Journal.add? · { level, source, message, line })

/-- A result that notes nothing. -/
def ofExcept {ε α : Type} : Except ε α → Logged ε α
  | .ok a => pure a
  | .error e => throw e

/-- Runs a computation on a journal: its result, and the journal after it. -/
def on {ε α : Type} (x : Logged ε α) (journal : Option Journal) : Except ε α × Option Journal :=
  StateT.run (ExceptT.run x) journal

/-- The same computation, its failures told in other terms. -/
def mapError {ε ε' α : Type} (f : ε → ε') (x : Logged ε α) : Logged ε' α :=
  ExceptT.adapt f x

/-! ## How each kind of computation runs -/

variable {ε ε' α β : Type} (journal : Option Journal)

/-- A note adds its entry. -/
@[simp] theorem on_note (level : Level) (source message : Text) (line : Option Int) :
    (note level source message line : Logged ε Unit).on journal =
      (.ok (), Journal.add? journal { level, source, message, line }) := rfl

/-- A result that notes nothing leaves the journal as it is. -/
@[simp] theorem on_ofExcept (r : Except ε α) : (ofExcept r).on journal = (r, journal) := by
  cases r <;> rfl

/-- The second of two computations runs on the journal of the first, unless that failed. -/
theorem on_bind (x : Logged ε α) (f : α → Logged ε β) :
    (x >>= f).on journal =
      match x.on journal with
      | (.ok a, journal) => (f a).on journal
      | (.error e, journal) => (.error e, journal) := by
  change (ExceptT.run (x >>= f)).run journal = _
  rw [ExceptT.run_bind, StateT.run_bind]
  rcases h : x.on journal with ⟨_ | _, _⟩ <;>
    · simp only [on] at h
      simp only [h]
      rfl

/-- Telling failures in other terms changes nothing else. -/
@[simp] theorem on_mapError (f : ε → ε') (x : Logged ε α) :
    (x.mapError f).on journal = ((x.on journal).1.mapError f, (x.on journal).2) := rfl

end Logged

end PageAudit
