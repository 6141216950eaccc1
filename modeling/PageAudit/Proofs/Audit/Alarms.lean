import Mathlib.Data.List.Basic
import PageAudit.Proofs.Audit.Hopeless
import PageAudit.Proofs.Audit.Judged

/-!
# Alarms

Two entries of a run are more than steps on its way: the warning of a unit that is none and the
error of a claim that fails. Reading a line notes the one (`alarms_read`), judging a claim the
other (`alarms_judge`), and so the alarms of a run are those of the claims that it judges, one claim
after the other (`exists_noted`). This does not depend on how the run ends: what is noted of a claim
stays noted when a later line ends the run. `failures_always_recorded` is the main result.
-/

namespace PageAudit.Audit

open Logged Journal
open PageSize (Measured)

/-- An entry is a warning or an error. -/
def isAlarm (e : Entry) : Bool := decide (Level.warning ≤ e.level)

/-- The warning of a claim whose unit is none. -/
def unitWarning? (claim : Claim) : Option Entry := do
  let (_, token) ← Claim.fields? claim.text
  let (_, unit) ← PageSize.split? token
  if unit ∈ unitLetters then none
  else
    some
      { level := .warning
        source := "trace"
        message := PageSize.unknownUnit unit token
        line := some claim.line }

/-- What is noted of a claim that fails. -/
def failureMessage (claim : Claim) : Finding → Text
  | .mismatch _ recorded claimed _ =>
    "Failure: " ++ toString recorded ++ " != " ++ toString claimed
  | _ => "Could not find range for: " ++ claim.text

/-- The error of a claim that fails. -/
def failureError? (mappings : List Mapping) (claim : Claim) : Option Entry :=
  (failure? mappings claim).map fun f =>
    { level := .error
      source := "verify"
      message := failureMessage claim f
      line := some claim.line }

/-- The alarms of a claim: the warning, if there is one, and directly behind it the error. -/
def alarms (mappings : List Mapping) (claim : Claim) : List Entry :=
  (unitWarning? claim).toList ++ (failureError? mappings claim).toList

variable {mappings : List Mapping} {claim : Claim}

/-! ## Single steps -/

/-- The warning of a claim, by the two parts of its token. -/
lemma unitWarning?_eq (claim : Claim) {address : Nat} {token digits : Text} {unit : CodePoint}
    (fields : Claim.fields? claim.text = some (address, token))
    (split : PageSize.split? token = some (digits, unit)) :
    unitWarning? claim =
      if unit ∈ unitLetters then none
      else
        some
          { level := .warning
            source := "trace"
            message := PageSize.unknownUnit unit token
            line := some claim.line } := by
  unfold unitWarning?
  rw [fields]
  show (PageSize.split? token).bind _ = _
  rw [split]
  rfl

/-- A conversion warns of a unit that is none of the letters, and notes nothing else. -/
lemma notes_inKB (token : Text) (line : Option Int) :
    (PageSize.inKB token line).notes =
      match PageSize.split? token with
      | none => []
      | some (digits, unit) =>
        match Numeral.read digits with
        | .error _ => []
        | .ok _ =>
          if unit ∈ unitLetters then []
          else
            [{ level := .warning
               source := "trace"
               message := PageSize.unknownUnit unit token
               line }] := by
  unfold PageSize.inKB
  cases PageSize.split? token with
  | none => rfl
  | some parts =>
    obtain ⟨digits, unit⟩ := parts
    dsimp only
    cases Numeral.read digits with
    | error o => rfl
    | ok count =>
      cases known : PageSize.unitKB? unit with
      | none =>
        rw [if_neg (unitKB?_eq_none_iff.mp known)]
        rfl
      | some kb =>
        have letter : unit ∈ unitLetters := by
          by_contra unknown
          cases known.symm.trans (unitKB?_eq_none_iff.mpr unknown)
        rw [if_pos letter]
        rfl

/-- A line with fields is noted, and then what the conversion of its token notes. -/
lemma notes_read? (line : Text) (number : Nat) :
    (Claim.read? line number).notes =
      match Claim.fields? (Text.chomp line) with
      | none => []
      | some (_, token) =>
        { level := .debug
          source := "trace"
          message := "From logfile: " ++ Text.chomp line
          line := some (number : Int) } :: (PageSize.inKB token (some (number : Int))).notes := by
  unfold Claim.read?
  dsimp only
  cases Claim.fields? (Text.chomp line) with
  | none => rfl
  | some fields =>
    obtain ⟨address, token⟩ := fields
    have sized := PageSize.oblivious_inKB token (some (number : Int))
    rw [notes_bind (oblivious_note ..) fun _ _ => sized.bind fun _ _ => oblivious_pure _,
      notes_note, result_note]
    dsimp only
    rw [notes_bind sized fun _ _ => oblivious_pure _]
    cases (PageSize.inKB token (some (number : Int))).result with
    | error fault => exact congrArg _ (List.append_nil _)
    | ok size => exact congrArg _ (List.append_nil _)

/-- The alarms of reading a line: the warning of its claim. -/
lemma alarms_read (item : Text × Nat) :
    (Source.trace.read item).notes.filter isAlarm =
      match (Source.trace.read item).result with
      | .ok (some claim) => (unitWarning? claim).toList
      | _ => [] := by
  obtain ⟨line, number⟩ := item
  show (Claim.read? line number).notes.filter isAlarm = match (Claim.read? line number).result with
    | .ok (some claim) => (unitWarning? claim).toList
    | _ => []
  rw [notes_read?, Claim.result_read?]
  cases fields : Claim.fields? (Text.chomp line) with
  | none => rfl
  | some both =>
    obtain ⟨address, token⟩ := both
    dsimp only
    rw [PageSize.result_inKB, List.filter_cons_of_neg Bool.false_ne_true, notes_inKB]
    cases split : PageSize.split? token with
    | none => rfl
    | some parts =>
      obtain ⟨digits, unit⟩ := parts
      dsimp only
      cases Numeral.read digits with
      | error o => rfl
      | ok count =>
        have warned (size : Int) := unitWarning?_eq
          { address, pageSize := size, line := number, text := Text.chomp line } fields split
        show List.filter isAlarm _ = (unitWarning? _).toList
        rw [warned]
        split_ifs <;> rfl

/-- What a number is written as is its numeral. -/
lemma of_write_eq_ok {n : Int} {text : Text} (ok : Numeral.write n = .ok text) :
    text = (toString n : String) := by
  unfold Numeral.write at ok
  split at ok
  · exact (Except.ok.inj ok).symm
  · cases ok

/-- The alarms of judging a claim: the error if it fails. -/
lemma alarms_judge (judgeable : Judgeable mappings claim) :
    (judge mappings claim).notes.filter isAlarm = (failureError? mappings claim).toList := by
  unfold failureError? failure?
  cases owned : Mapping.owner? mappings claim.address with
  | none =>
    rw [judge_of_unowned owned]
    unfold judge
    rw [owned]
    rfl
  | some owner =>
    rw [judge_of_judgeable owned judgeable]
    unfold Judgeable at judgeable
    rw [judge_eq_of_owner owned] at judgeable
    unfold judge
    rw [owned]
    dsimp only [written]
    -- A judgeable claim has all its numbers written.
    revert judgeable
    cases owner.describe with
    | error o => exact fun judgeable => absurd rfl (judgeable o)
    | ok description =>
      cases recorded : Numeral.write owner.pageSize with
      | error o => exact fun judgeable => absurd rfl (judgeable o)
      | ok text =>
        by_cases same : (owner.pageSize : Int) = claim.pageSize
        · rw [if_pos same]
          simp only [if_pos same]
          exact fun _ => rfl
        · cases claimed : Numeral.write claim.pageSize with
          | error o => exact fun judgeable => absurd (if_neg same) (judgeable o)
          | ok text' =>
            intro _
            obtain rfl := of_write_eq_ok recorded
            obtain rfl := of_write_eq_ok claimed
            simp only [if_neg same]
            split_ifs <;> rfl

/-! ## Runs -/

/-- The alarms of items of a trace are those of their claims. -/
lemma alarms_transcript {items : List (Text × Nat)}
    (judgeable : ∀ claim ∈ Source.trace.claims items, Judgeable mappings claim) :
    (Source.trace.transcript mappings items).filter isAlarm =
      (Source.trace.claims items).flatMap (alarms mappings) := by
  induction items with
  | nil => rfl
  | cons item items ih =>
    rw [Source.transcript, List.filter_append, alarms_read, Source.claims]
    rcases made : (Source.trace.read item).result with fault | (_ | claim) <;>
      simp only [Source.claims, made] at judgeable ⊢
    · rfl
    · exact ih judgeable
    · rw [List.forall_mem_cons] at judgeable
      rw [List.filter_append, alarms_judge judgeable.1, ih judgeable.2, ← List.append_assoc]
      rfl

/-- The alarms of a run are those of the claims that it judges, however it ends. -/
lemma exists_noted {a : Auditor} {lines : List Text}
    (judgeable : ∀ claim ∈ claimsOf lines, Judgeable a.mappings claim) :
    (a.runTrace lines).2.checked = (judged a.mappings a.failFast lines).length ∧
    ∃ notes, (a.runTrace lines).2.journal = addAll? a.journal notes ∧
      notes.filter isAlarm = (judged a.mappings a.failFast lines).flatMap (alarms a.mappings) := by
  by_cases unstopped : a.failFast = true → failures a.mappings (claimsOf lines) = []
  · rw [judged_of_unstopped unstopped]
    constructor
    · have ends : a.runTrace lines = _ :=
        Auditor.run_unstopped Source.trace (lines.zipIdx 1) a judgeable unstopped
      rw [ends]
      cases Source.trace.fault? (lines.zipIdx 1) with
      | none => exact Nat.zero_add _
      | some fault => exact Nat.zero_add _
    · obtain ⟨closing, info, journal⟩ :=
        Auditor.journal_unstopped Source.trace (lines.zipIdx 1) a judgeable unstopped
      refine ⟨_, journal, ?_⟩
      have silent : closing.filter isAlarm = [] := by
        refine List.filter_eq_nil_iff.mpr fun e mem => ?_
        rw [isAlarm, info e mem]
        decide
      rw [List.filter_append, silent, List.append_nil]
      exact alarms_transcript judgeable
  · rw [Classical.not_imp] at unstopped
    obtain ⟨stops, failed⟩ := unstopped
    obtain ⟨before, item, claim, f, unfailing, made, fails, judged_eq, ends⟩ :=
      exists_stop judgeable stops failed
    have judgeable : ∀ claim' ∈ Source.trace.claims before ++ [claim],
        Judgeable a.mappings claim' := fun claim' mem =>
      judgeable claim' (mem_claimsOf_of_mem_judged (judged_eq ▸ mem))
    rw [List.forall_mem_append, List.forall_mem_singleton] at judgeable
    rw [judged_eq, ends]
    refine ⟨by rw [List.length_append, List.length_singleton], _, (addAll?_append ..).symm, ?_⟩
    rw [List.filter_append, List.filter_append, alarms_transcript judgeable.1, alarms_read, made,
      alarms_judge judgeable.2, List.flatMap_append, List.flatMap_singleton]
    rfl

/-! ## Levels -/

/-- The entries of one level. -/
def ofLevel (level : Level) (entries : List Entry) : List Entry :=
  entries.filter (decide <| ·.level = level)

/-- A warning of a claim is for a unit that is unknown. -/
lemma of_mem_unitWarning? {e : Entry} (mem : e ∈ unitWarning? claim) :
    e.level = .warning ∧ ∃ address token digits unit,
      Claim.fields? claim.text = some (address, token) ∧ Measured token digits unit ∧
        unit ∉ unitLetters := by
  obtain ⟨⟨address, token⟩, fields, mem⟩ := Option.bind_eq_some_iff.mp mem
  obtain ⟨⟨digits, unit⟩, split, mem⟩ := Option.bind_eq_some_iff.mp mem
  dsimp only at mem
  split at mem
  · cases mem
  · next unknown =>
    obtain rfl := Option.some.inj mem
    exact ⟨rfl, address, token, digits, unit, fields, PageSize.split?_eq_some_iff.mp split, unknown⟩

/-- What is told of a claim that fails is an error. -/
lemma level_of_mem_failureError? {e : Entry} (mem : e ∈ failureError? mappings claim) :
    e.level = .error := by
  obtain ⟨f, -, rfl⟩ := Option.map_eq_some_iff.mp mem
  rfl

/-- One alarm is kept at its own level only. -/
lemma ofLevel_toList {level' : Level} {alarm? : Option Entry}
    (all : ∀ e ∈ alarm?, e.level = level') (level : Level) :
    ofLevel level alarm?.toList = if level' = level then alarm?.toList else [] := by
  cases alarm? with
  | none => exact (ite_self _).symm
  | some e =>
    obtain rfl := all e rfl
    rw [ofLevel, Option.toList_some, List.filter_singleton]
    simp only [decide_eq_true_eq, cond_eq_ite]

/-- The entries of one level are picked from both parts of a list. -/
lemma ofLevel_append (level : Level) (es fs : List Entry) :
    ofLevel level (es ++ fs) = ofLevel level es ++ ofLevel level fs :=
  List.filter_append ..

/-- The entries of one level are picked claim by claim. -/
lemma ofLevel_flatMap (level : Level) (f : Claim → List Entry) (claims : List Claim) :
    ofLevel level (claims.flatMap f) = claims.flatMap fun claim => ofLevel level (f claim) :=
  List.filter_flatMap ..

/-- The alarms of a claim at one level: its warning, or its error. -/
lemma ofLevel_alarms (level : Level) (mappings : List Mapping) (claim : Claim) :
    ofLevel level (alarms mappings claim) =
      (if Level.warning = level then (unitWarning? claim).toList else []) ++
        if Level.error = level then (failureError? mappings claim).toList else [] := by
  rw [alarms, ofLevel_append, ofLevel_toList fun _ mem => (of_mem_unitWarning? mem).1,
    ofLevel_toList fun _ => level_of_mem_failureError?]

/-- The errors among the alarms of some claims are those of the claims that fail. -/
lemma ofLevel_error_alarms (mappings : List Mapping) (claims : List Claim) :
    ofLevel .error (claims.flatMap (alarms mappings)) =
      claims.filterMap (failureError? mappings) := by
  rw [ofLevel_flatMap, List.filterMap_eq_flatMap_toList]
  exact List.flatMap_congr fun claim _ => ofLevel_alarms .error mappings claim

/-- The warnings among the alarms of some claims are those for unknown units. -/
lemma ofLevel_warning_alarms (mappings : List Mapping) (claims : List Claim) :
    ofLevel .warning (claims.flatMap (alarms mappings)) = claims.filterMap unitWarning? := by
  rw [ofLevel_flatMap, List.filterMap_eq_flatMap_toList]
  refine List.flatMap_congr fun claim _ => (ofLevel_alarms .warning mappings claim).trans ?_
  exact List.append_nil _

/-- What is kept of one level of alarms: all of it or nothing. -/
lemma ofLevel_kept {level : Level} (alarm : Level.warning ≤ level) (j : Journal)
    (entries : List Entry) :
    ofLevel level (entries.filter (j.keeps ·.level)) =
      if j.keeps level then ofLevel level (entries.filter isAlarm) else [] := by
  unfold ofLevel
  rw [List.filter_filter, List.filter_filter]
  split
  · next keeps =>
    refine List.filter_congr fun e _ => ?_
    by_cases same : e.level = level
    · simp [isAlarm, same, keeps, alarm]
    · simp [same]
  · next drops =>
    refine List.filter_eq_nil_iff.mpr fun e _ => ?_
    rw [Bool.and_eq_true, decide_eq_true_eq]
    rintro ⟨rfl, keeps⟩
    exact drops keeps

/-! ## What a journal keeps of a run -/

/-- The entries added to a journal are the alarms of some claims, so far as its threshold lets them
in: no error is lost, and a warning stands directly before the error of its claim. -/
structure Tells (j : Journal) (mappings : List Mapping) (claims : List Claim)
    (added : List Entry) : Prop where
  errors : ofLevel .error added = claims.filterMap (failureError? mappings)
  warnings : ofLevel .warning added =
    if j.keeps .warning then claims.filterMap unitWarning? else []
  order : j.keeps .warning = true → added.filter isAlarm = claims.flatMap (alarms mappings)

/-- No journal drops an error. -/
lemma keeps_error (j : Journal) : j.keeps .error = true := by
  unfold keeps
  cases j.threshold <;> rfl

/-- Every journal tells the alarms among what is noted. -/
lemma tells_kept (j : Journal) {claims : List Claim} {notes : List Entry}
    (noted : notes.filter isAlarm = claims.flatMap (alarms mappings)) :
    Tells j mappings claims (notes.filter (j.keeps ·.level)) where
  errors := by rw [ofLevel_kept (by decide), if_pos (keeps_error j), noted, ofLevel_error_alarms]
  warnings := by rw [ofLevel_kept (by decide), noted, ofLevel_warning_alarms]
  order keeps := by
    rw [List.filter_filter, ← noted]
    refine List.filter_congr fun e _ => ?_
    by_cases alarm : isAlarm e = true
    · have kept : j.keeps e.level = true :=
        decide_eq_true (Nat.le_trans (of_decide_eq_true keeps) (of_decide_eq_true alarm))
      rw [kept, Bool.and_true]
    · rw [Bool.not_eq_true] at alarm
      rw [alarm, Bool.false_and]

/-- A claim with the warning of its unit fails. -/
lemma exists_failure_of_unitWarning? {line : Text} {number : Nat} {e : Entry}
    (read : (Claim.read? line number).result = .ok (some claim))
    (judgeable : Judgeable mappings claim) (warned : e ∈ unitWarning? claim) :
    ∃ f, failure? mappings claim = some f := by
  obtain ⟨-, address, token, digits, unit, fields, measured, unknown⟩ := of_mem_unitWarning? warned
  obtain ⟨_, _, size, -, -, rfl⟩ := Claim.of_read?_eq_some read
  have hopeless : Hopeless address token := .unknownUnit measured unknown
  obtain ⟨f, judged, -⟩ := (hopeless.unmeetable fields read).breaks judgeable
  exact ⟨f, failure?_eq_some_iff_result.mpr judged⟩

/-- Claims of a trace have no alarms exactly if none of them fails. -/
lemma alarms_eq_nil_iff {lines : List Text} {claims : List Claim}
    (from_lines : ∀ claim ∈ claims, claim ∈ claimsOf lines)
    (judgeable : ∀ claim ∈ claims, Judgeable mappings claim) :
    claims.flatMap (alarms mappings) = [] ↔ ∀ claim ∈ claims, failure? mappings claim = none := by
  rw [List.flatMap_eq_nil_iff]
  refine forall₂_congr fun claim mem => ?_
  rw [alarms, List.append_eq_nil_iff, Option.toList_eq_nil_iff, Option.toList_eq_nil_iff,
    failureError?, Option.map_eq_none_iff]
  refine ⟨And.right, fun holds => ⟨?_, holds⟩⟩
  obtain ⟨item, -, read⟩ := Source.exists_of_mem_claims _ (from_lines claim mem)
  refine Option.eq_none_iff_forall_not_mem.mpr fun e warned => ?_
  obtain ⟨f, fails⟩ := exists_failure_of_unitWarning? read (judgeable claim mem) warned
  cases holds.symm.trans fails

/-! ## Runs that a line of the trace ends -/

/-- A run ends with a defect of its trace, or what it comes to tells the failures of the claims that
it judges. -/
lemma trace_or_finds {a : Auditor} {lines : List Text}
    (fits : ∀ line ∈ lines, Claim.SizeFits line)
    (recorded : ∀ m ∈ a.mappings, m.pageSize < Numeral.writeBound) :
    (∃ defect number, (a.runTrace lines).1 = .error (.finding (.trace defect number))) ∨
      Finds (failures a.mappings (judged a.mappings a.failFast lines)) (a.runTrace lines).1 := by
  obtain ⟨before, line, f, is_defect, first, ends⟩ | ⟨-, conducted⟩ :=
    runTrace_cases fits recorded
  · have decides := first.decides
    cases decides with
    | malformed => exact .inl ⟨_, _, ends⟩
    | failing _ _ breaks => exact absurd is_defect breaks.isFailure.not_isDefect
  · exact .inr conducted.finds

/-- A line is malformed if it has both fields, but its token is no numeral with a unit. -/
def Malformed (line : Text) : Prop :=
  ∃ address token, Claim.fields? (Text.chomp line) = some (address, token) ∧
    ∀ digits unit, ¬Measured token digits unit

/-- A malformed line is read to a defect that names the line. -/
lemma Malformed.read?_eq_error {line : Text} (malformed : Malformed line) (number : Nat) :
    ∃ defect, (Claim.read? line number).result =
      .error (.finding (.trace defect (some (number : Int)))) := by
  obtain ⟨address, token, fields, unmeasured⟩ := malformed
  have unsplit : PageSize.split? token = none := by
    refine Option.eq_none_iff_forall_not_mem.mpr fun parts split => ?_
    exact unmeasured parts.1 parts.2 (PageSize.split?_eq_some_iff.mp split)
  refine ⟨.malformedSize token, ?_⟩
  rw [Claim.result_read?, fields]
  simp only [PageSize.result_inKB, unsplit]
  rfl

/-- A line that cannot be read adds no claim to those before it, and neither does any line after
it. -/
lemma Source.of_unreadable {α : Type} (source : Source α) {item : α} {fault : Fault}
    (unreadable : (source.read item).result = .error fault) (before after : List α) :
    source.claims (before ++ item :: after) = source.claims before ∧
      source.fault? (before ++ item :: after) = some ((source.fault? before).getD fault) := by
  induction before with
  | nil => simp [claims, fault?, unreadable]
  | cons first before ih =>
    rw [List.cons_append, claims, claims, fault?, fault?]
    obtain ⟨claims_eq, fault_eq⟩ := ih
    rcases (source.read first).result with fault' | (_ | claim)
    · exact ⟨rfl, rfl⟩
    · exact ⟨claims_eq, fault_eq⟩
    · exact ⟨congrArg _ claims_eq, fault_eq⟩

/-- A run that goes on loses its verdict to a malformed line, but none of its alarms. -/
lemma of_malformed {a : Auditor} {lines : List Text}
    (fits : ∀ line ∈ lines, Claim.SizeFits line)
    (recorded : ∀ m ∈ a.mappings, m.pageSize < Numeral.writeBound) (goesOn : a.failFast = false)
    {bad : Text} (malformed : Malformed bad) (more : List Text) :
    claimsOf (lines ++ bad :: more) = claimsOf lines ∧
      ∃ defect number,
        (a.runTrace (lines ++ bad :: more)).1 = .error (.finding (.trace defect number)) := by
  obtain ⟨defect, unreadable⟩ := malformed.read?_eq_error (1 + lines.length)
  change (Source.trace.read (bad, 1 + lines.length)).result = _ at unreadable
  have split : (lines ++ bad :: more).zipIdx 1 =
      lines.zipIdx 1 ++ (bad, 1 + lines.length) :: more.zipIdx (1 + lines.length + 1) := by
    rw [List.zipIdx_append, List.zipIdx_cons]
  obtain ⟨claims_eq, fault_eq⟩ := Source.of_unreadable Source.trace unreadable (lines.zipIdx 1)
    (more.zipIdx (1 + lines.length + 1))
  rw [← split] at claims_eq fault_eq
  refine ⟨claims_eq, ?_⟩
  have judgeable : ∀ claim ∈ Source.trace.claims (lines.zipIdx 1), Judgeable a.mappings claim :=
    Auditor.judgeable_of_fits fits recorded
  have ends : a.runTrace (lines ++ bad :: more) = _ :=
    Auditor.run_unstopped Source.trace _ a (claims_eq ▸ judgeable) fun stops => by
      cases goesOn.symm.trans stops
  rw [ends, fault_eq]
  cases readable : Source.trace.fault? (lines.zipIdx 1) with
  | none => exact ⟨defect, _, rfl⟩
  | some fault =>
    obtain ⟨defect', number, rfl⟩ := Auditor.trace_of_fits fits readable
    exact ⟨defect', number, rfl⟩

/-! ## The main result -/

/-- What a run adds to its journal tells the alarms of the claims that it judges. -/
lemma exists_added {a : Auditor} {j : Journal} (kept : a.journal = some j) {lines : List Text}
    (judgeable : ∀ claim ∈ claimsOf lines, Judgeable a.mappings claim) :
    ∃ added, held (a.runTrace lines).2.journal = j.entries.toList ++ added ∧
      Tells j a.mappings (judged a.mappings a.failFast lines) added ∧
      (j.threshold = .warning →
        (added = [] ↔ ∀ claim ∈ judged a.mappings a.failFast lines,
          failure? a.mappings claim = none)) := by
  obtain ⟨-, notes, journal, noted⟩ := exists_noted judgeable
  refine ⟨notes.filter (j.keeps ·.level), ?_, tells_kept j noted, fun threshold => ?_⟩
  · rw [journal, kept, held_addAll?]
  · have alarming : notes.filter (j.keeps ·.level) = notes.filter isAlarm := by
      unfold keeps
      rw [threshold]
      rfl
    rw [alarming, noted]
    exact alarms_eq_nil_iff (fun _ => mem_claimsOf_of_mem_judged)
      fun claim mem => judgeable claim (mem_claimsOf_of_mem_judged mem)

/-- **No failure goes unrecorded.** However a run ends, it records an error for each claim that it
judges to fail and a warning for each whose unit is none, in the order of the trace and so far as
the threshold of the journal lets them in. If that keeps warnings only, nothing is recorded exactly
if no claim judged fails. A malformed line further on costs a run that goes on its verdict, but
none of these entries. -/
theorem failures_always_recorded {a : Auditor} {j : Journal} (kept : a.journal = some j)
    (recorded : ∀ m ∈ a.mappings, m.pageSize < Numeral.writeBound) {lines : List Text}
    (within : ∀ line ∈ lines, Claim.SizeWithin 4000 line) :
    let claims := judged a.mappings a.failFast lines
    ((∃ defect number, (a.runTrace lines).1 = .error (.finding (.trace defect number))) ∨
      Finds (failures a.mappings claims) (a.runTrace lines).1) ∧
    (a.runTrace lines).2.checked = claims.length ∧
    (∃ added, held (a.runTrace lines).2.journal = j.entries.toList ++ added ∧
      Tells j a.mappings claims added ∧
      (j.threshold = .warning →
        (added = [] ↔ ∀ claim ∈ claims, failure? a.mappings claim = none))) ∧
    (a.failFast = false → ∀ bad more, Malformed bad →
      (∃ defect number,
        (a.runTrace (lines ++ bad :: more)).1 = .error (.finding (.trace defect number))) ∧
      ∃ added, held (a.runTrace (lines ++ bad :: more)).2.journal = j.entries.toList ++ added ∧
        Tells j a.mappings claims added) := by
  intro claims
  have fits (line : Text) (mem : line ∈ lines) : Claim.SizeFits line :=
    (within line mem).fits (by decide)
  have judgeable : ∀ claim ∈ claimsOf lines, Judgeable a.mappings claim :=
    Auditor.judgeable_of_fits fits recorded
  refine ⟨trace_or_finds fits recorded, (exists_noted judgeable).1,
    exists_added kept judgeable, fun goesOn bad more malformed => ?_⟩
  obtain ⟨claims_eq, ends⟩ := of_malformed fits recorded goesOn malformed more
  obtain ⟨added, held_eq, tells, -⟩ := exists_added kept (claims_eq ▸ judgeable)
  have judged_eq : judged a.mappings a.failFast (lines ++ bad :: more) = claims := by
    unfold claims judged
    rw [claims_eq]
  exact ⟨ends, added, held_eq, judged_eq ▸ tells⟩

/-- A unit that is none is warned of directly before the error of its claim, and a malformed line
further on takes back neither. -/
theorem failures_recorded_before_malformed_line :
    let m : Mapping := ⟨0x1000, 0x2000, 4, false, false, by decide, by decide, by decide⟩
    let a : Auditor :=
      { mappings := [m], failFast := false, journal := some { threshold := .warning } }
    let lines : List Text :=
      ["base=0x1000 page_size=4K", "base=0x1000 page_size=8Q", "base=0x3000 page_size=4K"]
    let bad : Text := "base=0x1000 page_size=4KB"
    let warned : Entry :=
      { level := .warning, source := "trace", message := PageSize.unknownUnit 'Q' "8Q",
        line := some 2 }
    let differs : Entry :=
      { level := .error, source := "verify", message := "Failure: 4 != 0", line := some 2 }
    let unowned : Entry :=
      { level := .error, source := "verify",
        message := "Could not find range for: base=0x3000 page_size=4K", line := some 3 }
    (∀ line ∈ lines, Claim.SizeWithin 4000 line) ∧ Malformed bad ∧
      (a.runTrace lines).2.checked = 3 ∧
      (held (a.runTrace lines).2.journal).filter isAlarm = [warned, differs, unowned] ∧
      (∃ defect number,
        (a.runTrace (lines ++ [bad])).1 = .error (.finding (.trace defect number))) ∧
      ofLevel .error (held (a.runTrace (lines ++ [bad])).2.journal) = [differs, unowned] := by
  intro m a lines bad warned differs unowned
  have within : ∀ line ∈ lines, Claim.SizeWithin 4000 line := by decide +kernel
  have recorded : ∀ m ∈ a.mappings, m.pageSize < Numeral.writeBound := by decide +kernel
  have malformed : Malformed bad := by
    refine ⟨0x1000, "4KB", by decide +kernel, fun digits unit measured => ?_⟩
    have unsplit : PageSize.split? "4KB" = none := by decide
    cases unsplit.symm.trans (PageSize.split?_eq_some_iff.mpr measured)
  obtain ⟨-, checked, ⟨added, held_eq, tells, -⟩, goesOn⟩ :=
    failures_always_recorded (a := a) rfl recorded within
  obtain ⟨ends, added', held_eq', tells'⟩ := goesOn rfl bad [] malformed
  rw [List.nil_append] at held_eq held_eq'
  refine ⟨within, malformed, ?_, ?_, ends, ?_⟩
  · rw [checked]
    decide +kernel
  · rw [held_eq, tells.order rfl]
    decide +kernel
  · rw [held_eq', tells'.errors]
    decide +kernel

end PageAudit.Audit
