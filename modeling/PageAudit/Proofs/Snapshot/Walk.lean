import PageAudit.Proofs.Journal.Oblivious
import PageAudit.Proofs.Snapshot.Record
import PageAudit.Snapshot.Session

/-!
# Reading a whole snapshot

A session gathers mappings while it takes lines and notes what it does. `walk` is the same reading
without either: each line is one step of the open record, and the mappings that the steps close come
one after the other. `result_read` says that reading a snapshot comes to its walk, and
`oblivious_read` that the journal decides nothing of it: although a mapping is described only where
there is a journal, its page size was read, so it can be described (`gather_eq`).
-/

namespace PageAudit.Snapshot

/-- The mappings that are closed from an open record on, the first of the lines having this number.
-/
def walk (state : State) (number : Nat) : List Text → Except Fault (List Mapping)
  | [] => do
    let closed ← state.close
    return closed.toList
  | line :: lines => do
    let (state, closed) ← state.step line number
    let rest ← walk state (number + 1) lines
    return closed.toList ++ rest

/-- A walk goes on from a line that can be read. -/
lemma walk_cons {state state' : State} {number : Nat} {line : Text} {closed : Option Mapping}
    (steps : state.step line number = .ok (state', closed)) (lines : List Text) :
    walk state number (line :: lines) =
      (walk state' (number + 1) lines).map (closed.toList ++ ·) := by
  rw [walk, steps]
  show ((walk state' (number + 1) lines).bind fun rest => .ok (closed.toList ++ rest)) = _
  cases walk state' (number + 1) lines <;> rfl

/-- A walk that comes to its end could read its first line and comes to its end from there. -/
lemma of_walk_cons {state : State} {number : Nat} {line : Text} {lines : List Text}
    {mappings : List Mapping} (ok : walk state number (line :: lines) = .ok mappings) :
    ∃ state' closed rest, state.step line number = .ok (state', closed) ∧
      walk state' (number + 1) lines = .ok rest ∧ mappings = closed.toList ++ rest := by
  cases steps : state.step line number with
  | error fault =>
    rw [walk, steps] at ok
    cases ok
  | ok next =>
    obtain ⟨state', closed⟩ := next
    rw [walk_cons steps] at ok
    cases goesOn : walk state' (number + 1) lines with
    | error fault =>
      rw [goesOn] at ok
      cases ok
    | ok rest =>
      rw [goesOn] at ok
      exact ⟨state', closed, rest, rfl, goesOn, (Except.ok.inj ok).symm⟩

/-- The mappings of a walk can be described. -/
lemma lt_writeBound_of_walk {state : State} {number : Nat} {lines : List Text}
    {mappings : List Mapping} (sound : state.Sound) (ok : walk state number lines = .ok mappings) :
    ∀ m ∈ mappings, m.pageSize < Numeral.writeBound := by
  induction lines generalizing state number mappings with
  | nil =>
    cases closes : state.close with
    | error fault =>
      rw [walk, closes] at ok
      cases ok
    | ok closed =>
      rw [walk, closes] at ok
      cases ok
      intro m mem
      obtain rfl := Option.mem_toList.mp mem
      exact sound.lt_writeBound_of_close closes
  | cons line lines ih =>
    obtain ⟨state', closed, rest, steps, ok', rfl⟩ := of_walk_cons ok
    obtain ⟨sound', bounded⟩ := sound.step steps
    intro m mem
    obtain mem | mem := List.mem_append.mp mem
    · exact bounded m (Option.mem_toList.mp mem)
    · exact ih sound' ok' m mem

namespace Session

/-- Takes lines and then closes the last record. -/
def complete (s : Session) (lines : List Text) : Except Fault (List Mapping) × Option Journal :=
  match feedAll lines s with
  | (.error fault, s) => (.error fault, s.journal)
  | (.ok (), s) => (s.finish.1, s.finish.2.journal)

/-- What is closed is added to the mappings, and noted. -/
lemma gather_eq {closed : Option Mapping}
    (bounded : ∀ m ∈ closed, m.pageSize < Numeral.writeBound) :
    ∃ es, ∀ s : Session, s.gather closed =
      (.ok (), { s with
        mappings := s.mappings ++ closed.toArray
        journal := Journal.addAll? s.journal es }) := by
  cases closed with
  | none => exact ⟨[], fun s => by simp [gather]⟩
  | some m =>
    obtain ⟨text, described⟩ := Mapping.describe_isOk (bounded m rfl)
    -- Without a journal the mapping is not even described, and nothing is made in none.
    refine ⟨[{ level := .debug, source := "smaps", message := "Added range: " ++ text }], ?_⟩
    rintro ⟨state, mappings, line, _ | journal⟩
    · simp [gather, add]
    · simp [gather, add, described, note, Journal.addAll?_singleton]

/-- A session is completed with one line after the other. -/
lemma complete_cons (s : Session) (line : Text) (lines : List Text) :
    s.complete (line :: lines) =
      match s.feed line with
      | (.ok (), s) => s.complete lines
      | (.error fault, s) => (.error fault, s.journal) := by
  simp only [complete, feedAll]
  rcases s.feed line with ⟨fault | ⟨⟩, s⟩ <;> rfl

/-- What is noted of a line. -/
def echo (line : Text) (number : Nat) : Entry :=
  { level := .debug, source := "smaps", message := Text.chomp line, line := some (number : Int) }

/-- One line, as it is counted, stepped over and gathered. -/
lemma feed_eq (s : Session) (line : Text) :
    s.feed line =
      let s' := { s with
        line := s.line + 1, journal := Journal.addAll? s.journal [echo line (s.line + 1)] }
      match s.state.step line (s.line + 1 : Nat) with
      | .error fault => (.error fault, s')
      | .ok (state, closed) => { s' with state }.gather closed := rfl

/-- A session is finished by closing what is open. -/
lemma finish_eq {state : State} (sound : state.Sound) :
    ∃ es, ∀ s : Session, s.state = state →
      (s.finish.1, s.finish.2.journal) =
        (state.close.map (s.mappings.toList ++ ·.toList), Journal.addAll? s.journal es) := by
  cases closes : state.close with
  | error fault =>
    refine ⟨[], fun s h => ?_⟩
    subst h
    simp [finish, closes, Except.map]
  | ok closed =>
    have bounded (m : Mapping) (h : m ∈ closed) : m.pageSize < Numeral.writeBound := by
      obtain rfl := h
      exact sound.lt_writeBound_of_close closes
    obtain ⟨es, gathers⟩ := gather_eq bounded
    refine ⟨es, fun s h => ?_⟩
    subst h
    simp [finish, closes, gathers, Except.map]

/-- A session that takes lines and then closes its last record comes to the walk from its open
record, after the mappings that it has. -/
lemma complete_eq {state : State} (sound : state.Sound) (number : Nat) (lines : List Text) :
    ∃ es, ∀ s : Session, s.state = state → s.line + 1 = number →
      s.complete lines =
        ((walk state number lines).map (s.mappings.toList ++ ·), Journal.addAll? s.journal es) := by
  induction lines generalizing state number with
  | nil =>
    obtain ⟨es, finishes⟩ := finish_eq sound
    refine ⟨es, fun s h _ => ?_⟩
    show (s.finish.1, s.finish.2.journal) = _
    rw [finishes s h, walk]
    cases state.close <;> rfl
  | cons line lines ih =>
    cases steps : state.step line number with
    | error fault =>
      refine ⟨[echo line number], ?_⟩
      rintro s rfl rfl
      rw [complete_cons, feed_eq]
      simp only [steps, walk]
      rfl
    | ok next =>
      obtain ⟨state', closed⟩ := next
      obtain ⟨sound', bounded⟩ := sound.step steps
      obtain ⟨es, gathers⟩ := gather_eq bounded
      obtain ⟨es', completes⟩ := ih sound' (number + 1)
      -- First the line is noted, then the mapping that it closes, then what comes after it.
      refine ⟨[echo line number] ++ es ++ es', ?_⟩
      rintro s rfl rfl
      rw [complete_cons, feed_eq]
      simp only [steps, gathers]
      rw [completes _ rfl rfl]
      simp only [walk_cons steps, Journal.addAll?_append]
      cases walk state' (s.line + 1 + 1) lines with
      | error fault => rfl
      | ok rest => simp [Except.map]

end Session

/-- A snapshot is read as its lines are walked, whatever the journal. -/
lemma on_read (lines : List Text) :
    ∃ es, ∀ journal, (read lines).on journal = (walk none 1 lines, Journal.addAll? journal es) := by
  obtain ⟨es, completes⟩ := Session.complete_eq State.sound_none 1 lines
  refine ⟨es, fun journal => ?_⟩
  have reads : (read lines).on journal = Session.complete { journal } lines := by
    show (read lines) journal = _
    simp only [read, Session.complete]
    rcases Session.feedAll lines { journal } with ⟨fault | ⟨⟩, s⟩ <;> rfl
  rw [reads, completes { journal } rfl rfl]
  cases walk none 1 lines <;> rfl

/-- Reading a snapshot does not look at the journal. -/
@[simp] lemma oblivious_read (lines : List Text) : (read lines).Oblivious := by
  obtain ⟨es, reads⟩ := on_read lines
  exact .of_on reads

/-- A snapshot is read to what the walk over its lines comes to. -/
lemma result_read (lines : List Text) : (read lines).result = walk none 1 lines := by
  obtain ⟨es, reads⟩ := on_read lines
  exact Logged.result_of_on reads

/-- Lines of the same kinds are walked alike. -/
lemma walk_congr {lines lines' : List Text}
    (same : lines.map LineKind.ofLine = lines'.map LineKind.ofLine) (state : State) (number : Nat) :
    walk state number lines = walk state number lines' := by
  induction lines generalizing lines' state number with
  | nil =>
    obtain rfl := List.map_eq_nil_iff.mp same.symm
    rfl
  | cons line lines ih =>
    obtain ⟨line', lines', rfl, told, same⟩ := List.map_eq_cons_iff.mp same.symm
    simp only [walk, State.step, told, ih same.symm]

/-- A snapshot is read the same if its lines say the same. -/
lemma result_read_congr {lines lines' : List Text}
    (same : lines.map LineKind.ofLine = lines'.map LineKind.ofLine) :
    (read lines).result = (read lines').result := by
  rw [result_read, result_read, walk_congr same]

/-- The mappings of a snapshot can be described. -/
lemma lt_writeBound_of_read {lines : List Text} {mappings : List Mapping}
    (ok : (read lines).result = .ok mappings) :
    ∀ m ∈ mappings, m.pageSize < Numeral.writeBound := by
  rw [result_read] at ok
  exact lt_writeBound_of_walk State.sound_none ok

end PageAudit.Snapshot
