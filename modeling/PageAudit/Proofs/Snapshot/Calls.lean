import PageAudit.Proofs.Snapshot.Walk

/-!
# One session under any calls

A caller may feed and close one session in any order, and may go on after a call that failed. What
becomes of the session is told from the calls alone: `Call.steps` is what one call does to the open
record, and `completed` gathers the mappings that the calls close, passing over those that fail.

`call_cases` says all that one call can do: it fails and leaves the open record and the mappings as
they were, or it takes the step of the open record and gathers what that closes. So the mappings of
a session are always those completed so far (`mappings_after`), and what was given out stays at the
front of what is given out later. `session_is_atomic` is the main result.
-/

namespace PageAudit.Snapshot

/-! ## Numbers of headers

The number of a header is told in findings only, so lines that are read are read the same wherever
they stand. -/

/-- Two open records differ at most in the number of their header. -/
def State.Alike (state state' : State) : Prop :=
  Option.Rel (fun r r' : Record => ∃ line, r' = { r with line }) state state'

/-- An address that is read does not depend on the number of its line. -/
lemma address_eq_ok_iff {text : Text} {line a : Int} :
    address text line = .ok a ↔
      text.all Text.isHexDigit = true ∧ Numeral.hexValue text < addressSpace ∧
        a = Numeral.hexValue text := by
  unfold address
  split_ifs with hex narrow
  · simp [hex, narrow, eq_comm]
  · simp [narrow]
  · simp [hex]

/-- A mapping that is made does not depend on the line of its record. -/
lemma ofBounds_of_ok {start stop size : Int} {transparentHuge explicitHuge : Bool}
    {line : Option Int} {m : Mapping}
    (ok : Mapping.ofBounds start stop size transparentHuge explicitHuge line = .ok m)
    (line' : Option Int) :
    Mapping.ofBounds start stop size transparentHuge explicitHuge line' = .ok m := by
  unfold Mapping.ofBounds at ok ⊢
  split_ifs at ok ⊢
  · exact ok
  · cases written : ofNumeral (Numeral.write size) <;> rw [written] at ok <;> cases ok

/-- Records that differ in the number of their header close alike. -/
lemma State.Alike.close {state state' : State} {closed : Option Mapping}
    (alike : state.Alike state') (ok : state.close = .ok closed) : state'.close = .ok closed := by
  cases alike with
  | none => exact ok
  | @some r r' same =>
    obtain ⟨line, rfl⟩ := same
    simp only [State.close, Record.close] at ok ⊢
    cases told : r.pageSize with
    | none =>
      rw [told] at ok
      cases ok
    | some size =>
      simp only [told] at ok ⊢
      cases made : Mapping.ofBounds r.start r.stop size (r.flags.contains transparentHugeFlag)
          (r.flags.contains explicitHugeFlag) (some r.line) with
      | error fault =>
        rw [made] at ok
        cases ok
      | ok m =>
        rw [made] at ok
        rw [ofBounds_of_ok made]
        exact ok

/-- Records that differ in the number of their header take a line alike, whatever its number. -/
lemma State.Alike.step {state₁ state₂ state₁' : State} {line : Text} {n : Int}
    {closed : Option Mapping} (alike : state₁.Alike state₂)
    (ok : state₁.step line n = .ok (state₁', closed)) (m : Int) :
    ∃ state₂', state₂.step line m = .ok (state₂', closed) ∧ state₁'.Alike state₂' := by
  obtain ⟨start, stop, a, b, h, ha, hb, closes, rfl⟩ |
    ⟨h, rfl, ⟨rfl, rfl⟩ | ⟨r, rfl, fits, rfl⟩⟩ := step_cases ok
  · have ha' : address start m = .ok a := address_eq_ok_iff.mpr (address_eq_ok_iff.mp ha)
    have hb' : address stop m = .ok b := address_eq_ok_iff.mpr (address_eq_ok_iff.mp hb)
    refine ⟨some { start := a, stop := b, line := m }, ?_, .some ⟨m, rfl⟩⟩
    rw [step_header h, ha', hb', alike.close closes]
    rfl
  · cases alike
    exact ⟨none, step_idle h m, .none⟩
  · cases alike with
    | some same =>
      obtain ⟨k, rfl⟩ := same
      refine ⟨_, step_told h fits _ m, .some ⟨k, ?_⟩⟩
      unfold Record.told
      cases pageSize? (Text.chomp line) with
      | some digits => rfl
      | none => cases flags? (Text.chomp line) <;> rfl

/-- Lines that are read are read the same, whatever the number of the first. -/
lemma State.Alike.walk {state₁ state₂ : State} {n : Nat} {lines : List Text}
    {mappings : List Mapping} (alike : state₁.Alike state₂)
    (ok : walk state₁ n lines = .ok mappings) (m : Nat) : walk state₂ m lines = .ok mappings := by
  induction lines generalizing state₁ state₂ n m mappings with
  | nil =>
    cases closes : state₁.close with
    | error fault =>
      rw [Snapshot.walk, closes] at ok
      cases ok
    | ok closed =>
      rw [Snapshot.walk, closes] at ok
      rw [Snapshot.walk, alike.close closes]
      exact ok
  | cons line lines ih =>
    obtain ⟨state₁', closed, rest, steps, ok', rfl⟩ := of_walk_cons ok
    obtain ⟨state₂', steps', alike'⟩ := alike.step steps m
    rw [walk_cons steps', ih alike' ok' (m + 1)]
    rfl

namespace Session

/-! ## Calls -/

/-- What a caller may ask of a session. -/
inductive Call where
  | feed (line : Text)
  | finish
  deriving DecidableEq

/-- What a call does to the open record, if the next line has this number: the state after it, and
the mapping that it closes. -/
def Call.steps (state : State) (number : Nat) : Call → Except Fault (State × Option Mapping)
  | .feed line => state.step line number
  | .finish => state.close.map fun closed => (none, closed)

/-- How many lines a call takes. -/
def Call.lines : Call → Nat
  | .feed _ => 1
  | .finish => 0

/-- The mappings that calls close from an open record on. A call that fails closes none and leaves
the record open. -/
def completed (state : State) (number : Nat) : List Call → List Mapping
  | [] => []
  | c :: calls =>
    match c.steps state number with
    | .ok (state, closed) => closed.toList ++ completed state (number + c.lines) calls
    | .error _ => completed state (number + c.lines) calls

/-- What a call is answered, if it does not fail: the mappings so far, if it is to close the
session. -/
def Call.answer (mappings : Array Mapping) : Call → Option (List Mapping)
  | .feed _ => none
  | .finish => some mappings.toList

/-- Makes a call. -/
def call (s : Session) : Call → Except Fault (Option (List Mapping)) × Session
  | .feed line => ((s.feed line).1.map fun _ => none, (s.feed line).2)
  | .finish => (s.finish.1.map some, s.finish.2)

/-- The session after some calls, whatever came of them. -/
def after (s : Session) (calls : List Call) : Session := calls.foldl (fun s c => (s.call c).2) s

/-- The session that has heard a call and done nothing more: a line is counted and noted before it
is read. -/
def heard (s : Session) : Call → Session
  | .feed line =>
    { s with line := s.line + 1, journal := Journal.add? s.journal (echo line (s.line + 1)) }
  | .finish => s

/-- Only a journal that keeps everything is changed by hearing a call. -/
lemma journal_heard {s : Session} {j : Journal} (kept : s.journal = some j)
    (coarse : j.threshold ≠ .debug) (c : Call) : (s.heard c).journal = s.journal := by
  cases c with
  | feed line =>
    have dropped : j.keeps .debug = false := by
      rw [Journal.keeps, decide_eq_false_iff_not]
      revert coarse
      cases j.threshold <;> decide
    simp [heard, kept, Journal.add?, Journal.record, echo, dropped]
  | finish => rfl

/-- Steps keep the open record sound, and what they close can be described. -/
lemma Call.sound_of_steps {state state' : State} {number : Nat} {closed : Option Mapping} {c : Call}
    (sound : state.Sound) (ok : c.steps state number = .ok (state', closed)) :
    state'.Sound ∧ ∀ m ∈ closed, m.pageSize < Numeral.writeBound := by
  cases c with
  | feed line => exact sound.step ok
  | finish =>
    cases closes : state.close with
    | error fault =>
      rw [Call.steps, closes] at ok
      cases ok
    | ok closed' =>
      rw [Call.steps, closes] at ok
      cases ok
      refine ⟨State.sound_none, fun m closed => ?_⟩
      obtain rfl := closed
      exact sound.lt_writeBound_of_close closes

/-- A line that the open record can take: what it closes is gathered. -/
lemma feed_of_step {s : Session} (sound : s.state.Sound) {line : Text} {state : State}
    {closed : Option Mapping} (steps : s.state.step line (s.line + 1 : Nat) = .ok (state, closed)) :
    ∃ es, s.feed line =
      (.ok (),
        { s.heard (.feed line) with
          state
          mappings := s.mappings ++ closed.toArray
          journal := Journal.addAll? (s.heard (.feed line)).journal es }) := by
  obtain ⟨es, gathers⟩ := gather_eq (sound.step steps).2
  refine ⟨es, ?_⟩
  simp only [feed_eq, steps, gathers]
  rfl

/-- A closing that succeeds: the last mapping is gathered, and everything is given out. -/
lemma finish_of_close {s : Session} (sound : s.state.Sound) {closed : Option Mapping}
    (closes : s.state.close = .ok closed) :
    ∃ es, s.finish =
      (.ok (s.mappings ++ closed.toArray).toList,
        { s with
          state := none
          mappings := s.mappings ++ closed.toArray
          journal := Journal.addAll? s.journal es }) := by
  have bounded (m : Mapping) (mem : m ∈ closed) : m.pageSize < Numeral.writeBound := by
    obtain rfl := mem
    exact sound.lt_writeBound_of_close closes
  obtain ⟨es, gathers⟩ := gather_eq bounded
  refine ⟨es, ?_⟩
  simp only [finish, closes, gathers]

/-- All that a call can do. If the open record cannot take the step, the call is heard and fails;
otherwise it takes the step and gathers the mapping that this closes. -/
lemma call_cases {s : Session} (sound : s.state.Sound) (c : Call) :
    (∃ fault, c.steps s.state (s.line + 1) = .error fault ∧ s.call c = (.error fault, s.heard c)) ∨
    (∃ state closed es, c.steps s.state (s.line + 1) = .ok (state, closed) ∧
      s.call c =
        (.ok (c.answer (s.mappings ++ closed.toArray)),
          { s.heard c with
            state
            mappings := s.mappings ++ closed.toArray
            journal := Journal.addAll? (s.heard c).journal es })) := by
  cases c with
  | feed line =>
    cases steps : s.state.step line (s.line + 1 : Nat) with
    | error fault =>
      left
      refine ⟨fault, steps, ?_⟩
      simp only [call, feed_eq, steps]
      rfl
    | ok next =>
      right
      obtain ⟨state, closed⟩ := next
      obtain ⟨es, feeds⟩ := feed_of_step sound steps
      exact ⟨state, closed, es, steps, by rw [call, feeds]; rfl⟩
  | finish =>
    cases closes : s.state.close with
    | error fault =>
      left
      refine ⟨fault, by rw [Call.steps, closes]; rfl, ?_⟩
      simp only [call, finish, closes]
      rfl
    | ok closed =>
      right
      obtain ⟨es, finishes⟩ := finish_of_close sound closes
      exact ⟨none, closed, es, by rw [Call.steps, closes]; rfl, by rw [call, finishes]; rfl⟩

/-- A call counts the lines that it takes, even if it fails. -/
lemma line_call {s : Session} (sound : s.state.Sound) (c : Call) :
    (s.call c).2.line = s.line + c.lines := by
  obtain ⟨fault, -, calls⟩ | ⟨state, closed, es, -, calls⟩ := call_cases sound c <;>
    · rw [calls]
      cases c <;> rfl

/-- Every call leaves a sound state. -/
lemma sound_call {s : Session} (sound : s.state.Sound) (c : Call) : (s.call c).2.state.Sound := by
  obtain ⟨fault, -, calls⟩ | ⟨state, closed, es, steps, calls⟩ := call_cases sound c
  · rw [calls]
    cases c <;> exact sound
  · rw [calls]
    exact (Call.sound_of_steps sound steps).1

/-! ## Any number of calls -/

/-- Calls are made one part after the other. -/
lemma after_append (s : Session) (calls calls' : List Call) :
    s.after (calls ++ calls') = (s.after calls).after calls' := List.foldl_append

/-- Any calls leave a sound state. -/
lemma sound_after {s : Session} (sound : s.state.Sound) (calls : List Call) :
    (s.after calls).state.Sound := by
  induction calls generalizing s with
  | nil => exact sound
  | cons c calls ih => exact ih (sound_call sound c)

/-- A session has the mappings that it had and those that the calls completed. -/
lemma mappings_after {s : Session} (sound : s.state.Sound) (calls : List Call) :
    (s.after calls).mappings.toList =
      s.mappings.toList ++ completed s.state (s.line + 1) calls := by
  induction calls generalizing s with
  | nil => simp [after, completed]
  | cons c calls ih =>
    show ((s.call c).2.after calls).mappings.toList = _
    have number : (s.call c).2.line + 1 = s.line + 1 + c.lines := by
      rw [line_call sound c]
      omega
    rw [ih (sound_call sound c), number, completed]
    obtain ⟨fault, steps, calls⟩ | ⟨state, closed, es, steps, calls⟩ := call_cases sound c
    · simp only [steps, calls]
      cases c <;> rfl
    · simp [steps, calls]

/-- What a session that is closed gives out, and how it is left. -/
lemma of_finish_eq_ok {s : Session} (sound : s.state.Sound) {mappings : List Mapping}
    (ok : s.finish.1 = .ok mappings) :
    s.finish.2.state = none ∧ s.finish.2.mappings.toList = mappings := by
  cases closes : s.state.close with
  | error fault =>
    simp only [finish, closes] at ok
    cases ok
  | ok closed =>
    obtain ⟨es, finishes⟩ := finish_of_close sound closes
    rw [finishes] at ok ⊢
    exact ⟨rfl, Except.ok.inj ok⟩

/-- An idle session is finished with its mappings, and stays as it is. -/
lemma finish_of_idle {s : Session} (idle : s.state = none) :
    s.finish = (.ok s.mappings.toList, s) := by
  obtain ⟨state, mappings, line, journal⟩ := s
  obtain rfl : state = none := idle
  rfl

/-- What a session gives out stays at the front of what it gives out after more calls. -/
lemma finish_prefix_finish {s : Session} (sound : s.state.Sound) {mappings mappings' : List Mapping}
    (first : s.finish.1 = .ok mappings) (later : List Call)
    (second : (s.finish.2.after later).finish.1 = .ok mappings') : mappings <+: mappings' := by
  have left : s.finish.2.state.Sound := sound_call sound .finish
  obtain ⟨-, given⟩ := of_finish_eq_ok sound first
  obtain ⟨-, given'⟩ := of_finish_eq_ok (sound_after left later) second
  -- The second closing is one more call after the later ones.
  have gathered : (s.finish.2.after (later ++ [.finish])).mappings.toList = mappings' := by
    rw [after_append]
    exact given'
  rw [mappings_after left, given] at gathered
  exact ⟨_, gathered⟩

/-! ## A snapshot after a snapshot -/

/-- A session that takes lines and is closed gives out what it had and then the walk over the lines.
-/
lemma feedAll_of_walk {s : Session} (sound : s.state.Sound) {lines : List Text}
    {mappings : List Mapping} (ok : walk s.state (s.line + 1) lines = .ok mappings) :
    ∃ fed closed, feedAll lines s = (.ok (), fed) ∧
      fed.finish = (.ok (s.mappings.toList ++ mappings), closed) ∧ closed.state = none ∧
      closed.mappings.toList = s.mappings.toList ++ mappings := by
  induction lines generalizing s mappings with
  | nil =>
    cases closes : s.state.close with
    | error fault =>
      rw [walk, closes] at ok
      cases ok
    | ok closed =>
      rw [walk, closes] at ok
      cases ok
      obtain ⟨es, finishes⟩ := finish_of_close sound closes
      rw [Array.toList_append, Option.toList_toArray] at finishes
      exact ⟨s, _, rfl, finishes, rfl, by simp⟩
  | cons line lines ih =>
    obtain ⟨state, closed, rest, steps, ok', rfl⟩ := of_walk_cons ok
    obtain ⟨es, feeds⟩ := feed_of_step sound steps
    have goes : walk (s.feed line).2.state ((s.feed line).2.line + 1) lines = .ok rest := by
      rw [feeds]
      exact ok'
    obtain ⟨fed, ended, takes, finishes, idle, given⟩ :=
      ih (by rw [feeds]; exact (sound.step steps).1) goes
    have gathered : (s.feed line).2.mappings.toList = s.mappings.toList ++ closed.toList := by
      simp [feeds]
    rw [gathered, List.append_assoc] at finishes given
    refine ⟨fed, ended, ?_, finishes, idle, given⟩
    rw [feedAll, show s.feed line = (.ok (), (s.feed line).2) by rw [feeds]]
    exact takes

/-- A session without an open record reads a snapshot as a fresh one does. -/
lemma feedAll_of_idle {s : Session} (idle : s.state = none) {lines : List Text}
    {mappings : List Mapping} (ok : (read lines).result = .ok mappings) :
    ∃ fed closed, feedAll lines s = (.ok (), fed) ∧
      fed.finish = (.ok (s.mappings.toList ++ mappings), closed) ∧ closed.state = none ∧
      closed.mappings.toList = s.mappings.toList ++ mappings := by
  rw [result_read] at ok
  have alike : State.Alike none s.state := idle ▸ .none
  exact feedAll_of_walk (idle ▸ State.sound_none) (alike.walk ok (s.line + 1))

/-- **A session is atomic and loses nothing.** After any calls, a call that fails is only heard. A
closing that succeeds gives out all that was completed, leaves no record open, and can be repeated;
what it gives out stays at the front of what is given out later. Two snapshots that are read one
after the other come to the mappings of the first and then those of the second. -/
theorem session_is_atomic (journal : Option Journal) (calls : List Call) :
    let s := ({ journal } : Session).after calls
    (∀ c fault, (s.call c).1 = .error fault →
      (s.call c).2 = s.heard c ∧ (s.call c).2.state = s.state ∧
        (s.call c).2.mappings = s.mappings ∧
        ∀ j, s.journal = some j → j.threshold ≠ .debug → (s.call c).2.journal = s.journal) ∧
    (∀ mappings, s.finish.1 = .ok mappings →
      mappings = completed none 1 (calls ++ [.finish]) ∧ s.finish.2.state = none ∧
        s.finish.2.finish.1 = .ok mappings) ∧
    (∀ mappings later mappings', s.finish.1 = .ok mappings →
      (s.finish.2.after later).finish.1 = .ok mappings' → mappings <+: mappings') ∧
    (∀ first second mappings mappings', (read first).result = .ok mappings →
      (read second).result = .ok mappings' →
      ∃ fed₁ closed₁ fed₂ closed₂, feedAll first { journal } = (.ok (), fed₁) ∧
        fed₁.finish = (.ok mappings, closed₁) ∧ feedAll second closed₁ = (.ok (), fed₂) ∧
        fed₂.finish = (.ok (mappings ++ mappings'), closed₂)) := by
  intro s
  have fresh : ({ journal } : Session).state.Sound := State.sound_none
  have sound : s.state.Sound := sound_after fresh calls
  refine ⟨?_, ?_, ?_, ?_⟩
  · intro c fault failed
    obtain ⟨fault', -, calls⟩ | ⟨state, closed, es, -, calls⟩ := call_cases sound c
    · rw [calls]
      refine ⟨rfl, ?_, ?_, fun j kept coarse => journal_heard kept coarse c⟩
      · cases c <;> rfl
      · cases c <;> rfl
    · rw [calls] at failed
      cases failed
  · intro mappings finished
    obtain ⟨idle, given⟩ := of_finish_eq_ok sound finished
    refine ⟨?_, idle, ?_⟩
    · have gathered := mappings_after fresh (calls ++ [.finish])
      rw [after_append] at gathered
      exact given.symm.trans gathered
    · rw [finish_of_idle idle, given]
  · intro mappings later mappings' first second
    exact finish_prefix_finish sound first later second
  · intro first second mappings mappings' reads reads'
    obtain ⟨fed₁, closed₁, feeds₁, finishes₁, idle, given⟩ :=
      feedAll_of_idle (s := { journal }) rfl reads
    obtain ⟨fed₂, closed₂, feeds₂, finishes₂, -, -⟩ := feedAll_of_idle idle reads'
    rw [given] at finishes₂
    exact ⟨fed₁, closed₁, fed₂, closed₂, feeds₁, finishes₁, feeds₂, finishes₂⟩

/-- A header that cannot be read and a closing that comes too early leave the first record open: it
is closed once its page size is told. The second snapshot begins with a line of no record. -/
theorem session_outlives_failures :
    let calls : List Call :=
      [.feed "1000-2000 rw-p", .feed "2000-xyz r--p", .finish, .feed "KernelPageSize: 4 kB"]
    let s := ({} : Session).after calls
    let first : List Text := ["1000-2000 rw-p", "KernelPageSize: 4 kB"]
    let second : List Text := ["VmFlags: hg", "2000-4000 r--p", "KernelPageSize: 8 kB"]
    let m : Mapping := ⟨0x1000, 0x2000, 4, false, false, by decide, by decide, by decide⟩
    let m' : Mapping := ⟨0x2000, 0x4000, 8, false, false, by decide, by decide, by decide⟩
    s.finish.1 = .ok [m] ∧ s.finish.2.finish.1 = .ok [m] ∧
      (read first).result = .ok [m] ∧ (read second).result = .ok [m'] ∧
      ∃ fed₁ closed₁ fed₂ closed₂, feedAll first {} = (.ok (), fed₁) ∧
        fed₁.finish = (.ok [m], closed₁) ∧ feedAll second closed₁ = (.ok (), fed₂) ∧
        fed₂.finish = (.ok [m, m'], closed₂) := by
  intro calls s first second m m'
  have finished : s.finish.1 = .ok [m] := by decide +kernel
  have reads : (read first).result = .ok [m] := by decide +kernel
  have reads' : (read second).result = .ok [m'] := by decide +kernel
  obtain ⟨-, closing, -, together⟩ := session_is_atomic none calls
  obtain ⟨-, -, again⟩ := closing _ finished
  exact ⟨finished, again, reads, reads', together _ _ _ _ reads reads'⟩

end Session

end PageAudit.Snapshot
