import PageAudit.Proofs.Service.Agreement
import PageAudit.Proofs.Snapshot.Grammar
import PageAudit.Proofs.Spelling

/-!
# Listed mappings

What the list of the mappings of a snapshot tells about it. An item is read back as the mapping that
it lists (`readListed?_listed`), and mappings that are shown alike are equal
(`Mapping.eq_of_describe`). The list is also all that a check takes from a snapshot: its line
numbers, its noise and its pathnames do not reach the answer (`agreesWith_of_read`).
`listing_decides_verification` is the main result.
-/

namespace PageAudit

namespace Numeral

variable {base : Nat} {digit? : CodePoint → Option Nat}

/-- A numeral before a text that does not begin with a digit is told from it. -/
lemma Spells.append_inj {s t front rest : Text} {m n : Nat} (spells : Spells base digit? s m)
    (spells' : Spells base digit? t n) (stops : ∀ c ∈ front.head?, digit? c = none)
    (stops' : ∀ c ∈ rest.head?, digit? c = none) (same : s ++ front = t ++ rest) :
    m = n ∧ front = rest := by
  have no_digit {text : Text} (stops : ∀ c ∈ text.head?, digit? c = none) :
      ∀ c ∈ text.head?, (digit? c).isSome = false := by
    intro c head
    rw [stops c head]
    rfl
  obtain ⟨taken, left⟩ := Text.run_append spells.all front (no_digit stops)
  obtain ⟨taken', left'⟩ := Text.run_append spells'.all rest (no_digit stops')
  rw [same] at taken left
  refine ⟨?_, left.symm.trans left'⟩
  rw [← spells.foldl, ← spells'.foldl, ← taken, taken']

end Numeral

namespace Mapping

open Numeral (spells_toString spells_hexDigits)

/-! ## Mappings as they are shown -/

/-- A mapping is described by its bounds, its size and its flags. -/
lemma describe_eq {m : Mapping} (bounded : m.pageSize < Numeral.writeBound) :
    m.describe = .ok ("[" ++ (Text.hexDigits m.start ++ (", " ++ (Text.hexDigits m.stop ++
      (") pageSize=" ++ (Text.ofString (toString m.pageSize) ++ ("KB isTHP=" ++
        (flagWord m.transparentHuge ++ (" isHUGETLB=" ++ flagWord m.explicitHuge))))))))) := by
  have written : Numeral.write m.pageSize = _ := Numeral.write_of_lt (by simpa using bounded)
  unfold describe
  rw [written, Numeral.hex_natCast, Numeral.hex_natCast]
  simp only [List.append_assoc]
  rfl

/-- The word of a flag is told from the word of the other, whatever follows. -/
lemma flagWord_append_inj {b b' : Bool} {front rest : Text}
    (same : flagWord b ++ front = flagWord b' ++ rest) : b = b' ∧ front = rest := by
  cases b with
  | true =>
    cases b' with
    | true => exact ⟨rfl, List.append_cancel_left same⟩
    | false => cases same
  | false =>
    cases b' with
    | true => cases same
    | false => exact ⟨rfl, List.append_cancel_left same⟩

/-- Mappings that are shown alike are equal. -/
lemma eq_of_describe {m m' : Mapping} (bounded : m.pageSize < Numeral.writeBound)
    (bounded' : m'.pageSize < Numeral.writeBound) (same : m.describe = m'.describe) : m = m' := by
  rw [describe_eq bounded, describe_eq bounded'] at same
  have same := List.append_cancel_left (Except.ok.inj same)
  obtain ⟨start_eq, same⟩ := (spells_hexDigits m.start).append_inj (spells_hexDigits m'.start)
    (fun c head => by cases head; rfl) (fun c head => by cases head; rfl) same
  obtain ⟨stop_eq, same⟩ := (spells_hexDigits m.stop).append_inj (spells_hexDigits m'.stop)
    (fun c head => by cases head; rfl) (fun c head => by cases head; rfl)
    (List.append_cancel_left same)
  obtain ⟨size_eq, same⟩ := (spells_toString m.pageSize).append_inj (spells_toString m'.pageSize)
    (fun c head => by cases head; rfl) (fun c head => by cases head; rfl)
    (List.append_cancel_left same)
  obtain ⟨thp_eq, same⟩ := flagWord_append_inj (List.append_cancel_left same)
  have same := List.append_cancel_left same
  rw [← List.append_nil (flagWord m.explicitHuge), ← List.append_nil (flagWord m'.explicitHuge)]
    at same
  obtain ⟨huge_eq, -⟩ := flagWord_append_inj same
  cases m
  cases m'
  cases start_eq
  cases stop_eq
  cases size_eq
  cases thp_eq
  cases huge_eq
  rfl

end Mapping

namespace Service

open Audit

/-! ## Mappings as they are listed -/

/-- The number that a text spells in hexadecimal digits after `0x`. -/
def readHex0x? (text : Text) : Option Nat :=
  match Text.after? "0x" text with
  | none => none
  | some digits =>
    if digits ≠ [] ∧ digits.all Text.isHexDigit = true then some (Numeral.hexValue digits) else none

/-- The mapping that an item of a list tells. -/
def readListed? (item : Json) : Option Mapping :=
  match item.member? "start", item.member? "end", item.member? "page_size_kb",
    item.member? "transparent_huge", item.member? "explicit_huge" with
  | some (.string start), some (.string stop), some (.integer size), some (.bool transparentHuge),
    some (.bool explicitHuge) =>
    match readHex0x? start, readHex0x? stop with
    | some start, some stop =>
      (Mapping.ofBounds start stop size transparentHuge explicitHuge).toOption
    | _, _ => none
  | _, _, _, _, _ => none

/-- The mappings that a response lists, in its order. -/
def Response.listing? (r : Response) : Option (List Mapping) :=
  match r.json.bind (·.member? "ranges") with
  | some (.array items) => items.mapM readListed?
  | _ => none

/-- The response that lists mappings. -/
def listing (mappings : List Mapping) : Response where
  status := 200
  json := some (.object [("ranges", .array (mappings.map listed))])

/-- An address is read back as it was written. -/
lemma readHex0x?_hex0x (n : Nat) : readHex0x? (Numeral.hex0x n) = some n := by
  have spells := Numeral.spells_hexDigits n
  unfold readHex0x?
  rw [Numeral.hex0x_natCast, Text.after?_eq_some_iff.mpr rfl]
  dsimp only
  rw [if_pos ⟨spells.1, spells.hexValue.1⟩, spells.hexValue.2]

/-- A mapping is read back as it was listed. -/
lemma readListed?_listed (m : Mapping) : readListed? (listed m) = some m := by
  have start_read : readHex0x? (Numeral.hex0x m.start) = some m.start := readHex0x?_hex0x m.start
  have stop_read : readHex0x? (Numeral.hex0x m.stop) = some m.stop := readHex0x?_hex0x m.stop
  have made := Mapping.ofBounds_self m none
  change (match readHex0x? (Numeral.hex0x m.start), readHex0x? (Numeral.hex0x m.stop) with
    | some start, some stop =>
      (Mapping.ofBounds start stop m.pageSize m.transparentHuge m.explicitHuge).toOption
    | _, _ => none) = some m
  rw [start_read, stop_read]
  dsimp only
  rw [made]
  rfl

/-- What is listed is read back as it was. -/
lemma listing?_listing (mappings : List Mapping) :
    (listing mappings).listing? = some mappings := by
  change (mappings.map listed).mapM readListed? = some mappings
  induction mappings with
  | nil => rfl
  | cons m mappings ih =>
    rw [List.map_cons, List.mapM_cons, readListed?_listed, ih]
    rfl

/-! ## Requests for a list -/

section lists

variable {data data' : Json} {snapshot snapshot' : Text}

/-- Data that tell a snapshot are answered with its mappings or with its defect. -/
lemma ranges_eq (told : data.member? "smaps" = some (.string snapshot)) :
    ranges data =
      match (Snapshot.read (Text.postedLines snapshot)).result with
      | .error fault => unreadable fault
      | .ok mappings => .ok (listing mappings) := by
  have complete : missing? ["smaps"] data = none := by
    simp [missing?, isObject_of_member? told, told, Json.text?]
  have lines_eq : linesOf data "smaps" = Text.postedLines snapshot := by
    simp [linesOf, textOf, told, Json.text?]
  simp only [ranges, complete, lines_eq, (Snapshot.oblivious_read _).on_eq]
  cases (Snapshot.read (Text.postedLines snapshot)).result with
  | error fault => rfl
  | ok mappings => rfl

/-- A snapshot without long size numerals is listed, or refused for its defect. -/
lemma ranges_answered (told : data.member? "smaps" = some (.string snapshot))
    (fits : ∀ line ∈ Text.postedLines snapshot, Snapshot.SizeFits line) :
    (∃ mappings, (Snapshot.read (Text.postedLines snapshot)).result = .ok mappings ∧
      ranges data = .ok (listing mappings)) ∨
    ∃ f : Finding, f.IsDefect ∧
      (Snapshot.read (Text.postedLines snapshot)).result = .error (.finding f) ∧
      ranges data = .ok (failure 422 f.message) := by
  have answers := ranges_eq told
  obtain ⟨mappings, reads⟩ | ⟨f, is_defect, unread⟩ :=
    Snapshot.read_ends (Snapshot.fits_of_lines fits)
  · rw [reads] at answers
    exact .inl ⟨mappings, reads, answers⟩
  · rw [unread] at answers
    exact .inr ⟨f, is_defect, unread, answers⟩

/-- Two snapshots that are listed with the same answer have the same mappings, or defects with the
same message. -/
lemma read_of_same_answer (told : data.member? "smaps" = some (.string snapshot))
    (told' : data'.member? "smaps" = some (.string snapshot'))
    (fits : ∀ line ∈ Text.postedLines snapshot, Snapshot.SizeFits line)
    (fits' : ∀ line ∈ Text.postedLines snapshot', Snapshot.SizeFits line)
    (same : ranges data = ranges data') :
    (∃ mappings, (Snapshot.read (Text.postedLines snapshot)).result = .ok mappings ∧
      (Snapshot.read (Text.postedLines snapshot')).result = .ok mappings) ∨
    ∃ f f' : Finding, f.IsDefect ∧ f'.IsDefect ∧ f.message = f'.message ∧
      (Snapshot.read (Text.postedLines snapshot)).result = .error (.finding f) ∧
      (Snapshot.read (Text.postedLines snapshot')).result = .error (.finding f') := by
  obtain ⟨mappings, reads, answers⟩ | ⟨f, is_defect, unread, answers⟩ := ranges_answered told fits
  · obtain ⟨mappings', reads', answers'⟩ | ⟨f', -, -, answers'⟩ := ranges_answered told' fits'
    · rw [answers, answers'] at same
      have listed_same := congrArg Response.listing? (Except.ok.inj same)
      rw [listing?_listing, listing?_listing] at listed_same
      cases listed_same
      exact .inl ⟨mappings, reads, reads'⟩
    · rw [answers, answers'] at same
      cases same
  · obtain ⟨mappings', -, answers'⟩ | ⟨f', is_defect', unread', answers'⟩ :=
      ranges_answered told' fits'
    · rw [answers, answers'] at same
      cases same
    · rw [answers, answers'] at same
      have refuses : (failure 422 f'.message).Refuses f.message :=
        Except.ok.inj same ▸ failure_refuses_iff.mpr rfl
      have message_eq := failure_refuses_iff.mp refuses
      exact .inr ⟨f, f', is_defect, is_defect', message_eq, unread, unread'⟩

end lists

/-! ## Checks of two snapshots -/

/-- Two responses agree in everything but what was noted on the way. -/
structure Response.AgreesWith (r r' : Response) : Prop where
  status : r.status = r'.status
  members : ∀ name : Text, name ≠ "log" →
    r.json.bind (·.member? name) = r'.json.bind (·.member? name)

/-- Two reports agree that differ in the journal only. -/
lemma agreesWith_report (a : Auditor) (violations : List Text) (j j' : Option Journal) :
    (report { a with journal := j } violations).AgreesWith
      (report { a with journal := j' } violations) := by
  refine ⟨rfl, fun name other => ?_⟩
  -- What was noted stands last, so it is the first member that is passed over.
  have passed : (("log" : Text) == name) = false := beq_false_of_ne (Ne.symm other)
  unfold report
  simp only [Option.bind_some, Json.member?, List.reverse_cons, List.reverse_nil, List.nil_append,
    List.cons_append, List.find?_cons, passed]

/-- What is answered to a run does not depend on the journal it was noted in, but for its notes. -/
lemma agreesWith_verdictResponse {failFast : Bool} {result : Except Fault Verdict}
    (ends : Ends failFast result) (a : Auditor) (j j' : Option Journal) :
    ∃ answer answer', verdictResponse (result, { a with journal := j }) = .ok answer ∧
      verdictResponse (result, { a with journal := j' }) = .ok answer' ∧
      answer.AgreesWith answer' := by
  cases ends with
  | verdict verdict => exact ⟨_, _, rfl, rfl, agreesWith_report a _ j j'⟩
  | @defect f is_defect =>
    exact ⟨_, _, verdictResponse_of_isDefect _ is_defect, verdictResponse_of_isDefect _ is_defect,
      rfl, fun _ _ => rfl⟩
  | @failure f stops is_failure =>
    cases f with
    | unowned | mismatch => exact ⟨_, _, rfl, rfl, agreesWith_report a _ j j'⟩
    | snapshot | trace | stated => cases is_failure

variable {snapshot snapshot' trace : Text} {debug debug' failFast : Bool} {v v' : Json}

/-- Two snapshots with the same mappings are checked alike. -/
lemma agreesWith_of_read (asks : Asks v snapshot trace debug failFast)
    (asks' : Asks v' snapshot' trace debug' failFast)
    (trace_fits : ∀ line ∈ Text.postedLines trace, Claim.SizeFits line) {mappings : List Mapping}
    (reads : (Snapshot.read (Text.postedLines snapshot)).result = .ok mappings)
    (reads' : (Snapshot.read (Text.postedLines snapshot')).result = .ok mappings) :
    ∃ a a', verify v = .ok a ∧ verify v' = .ok a' ∧ a.AgreesWith a' := by
  have recorded := Snapshot.lt_writeBound_of_read reads
  have ends : Ends failFast (Auditor.runTrace (Text.postedLines trace) { mappings, failFast }).1 :=
    Auditor.runTrace_ends trace_fits (a := { mappings, failFast }) recorded
  -- One run, noted in two journals.
  obtain ⟨result, a, es, runs⟩ :=
    stepsAtAnyJournal_runTrace (Text.postedLines trace) { mappings, failFast }
  have unnoted : result = (Auditor.runTrace (Text.postedLines trace) { mappings, failFast }).1 :=
    (congrArg Prod.fst (runs none)).symm
  rw [asks.verify_eq, asks'.verify_eq, asks.verifyTexts_eq, asks'.verifyTexts_eq, reads, reads']
  simp only [postedAuditor, runs]
  exact agreesWith_verdictResponse (unnoted ▸ ends) a _ _

/-- Two snapshots that are refused with the same message are refused so by a check. -/
lemma agreesWith_of_unread (asks : Asks v snapshot trace debug failFast)
    (asks' : Asks v' snapshot' trace debug' failFast) {f f' : Finding} (is_defect : f.IsDefect)
    (is_defect' : f'.IsDefect) (same : f.message = f'.message)
    (unread : (Snapshot.read (Text.postedLines snapshot)).result = .error (.finding f))
    (unread' : (Snapshot.read (Text.postedLines snapshot')).result = .error (.finding f')) :
    ∃ a a', verify v = .ok a ∧ verify v' = .ok a' ∧ a.AgreesWith a' := by
  refine ⟨_, _, asks.verify_of_unread is_defect unread,
    asks'.verify_of_unread is_defect' unread', rfl, fun name _ => ?_⟩
  rw [same]

/-- **The list of mappings decides every check.** Of two snapshots without long size numerals:

* if they are listed with the same answer, then each trace is checked alike by both, whether the
  first failure stops the check or not: the answers differ at most in what was noted;
* a request for a list is refused with the message of the defect of the snapshot, or it lists
  exactly its mappings in their order, and their bounds are read back from the list;
* two mappings of snapshots are shown alike only if they are equal.
-/
theorem listing_decides_verification {snapshot snapshot' : Text}
    (within : ∀ line ∈ Text.postedLines snapshot, Snapshot.SizeWithin 4000 line)
    (within' : ∀ line ∈ Text.postedLines snapshot', Snapshot.SizeWithin 4000 line) :
    (∀ data data' : Json, data.member? "smaps" = some (.string snapshot) →
      data'.member? "smaps" = some (.string snapshot') → ranges data = ranges data' →
      ∀ (trace : Text) (failFast debug debug' : Bool) (v v' : Json),
        (∀ line ∈ Text.postedLines trace, Claim.SizeWithin 4000 line) →
        Asks v snapshot trace debug failFast → Asks v' snapshot' trace debug' failFast →
        ∃ a a', verify v = .ok a ∧ verify v' = .ok a' ∧ a.AgreesWith a') ∧
    (∀ data : Json, data.member? "smaps" = some (.string snapshot) →
      (∃ mappings, (Snapshot.read (Text.postedLines snapshot)).result = .ok mappings ∧
        ∃ answer, ranges data = .ok answer ∧ answer.status = 200 ∧
          answer.listing? = some mappings) ∨
      ∃ f : Finding, f.IsDefect ∧
        (Snapshot.read (Text.postedLines snapshot)).result = .error (.finding f) ∧
        ranges data = .ok (failure 422 f.message)) ∧
    (∀ lines lines' mappings mappings', (Snapshot.read lines).result = .ok mappings →
      (Snapshot.read lines').result = .ok mappings' → ∀ m ∈ mappings, ∀ m' ∈ mappings',
        (∃ text, m.describe = .ok text) ∧ (m.describe = m'.describe → m = m')) := by
  have fits (line : Text) (mem : line ∈ Text.postedLines snapshot) : Snapshot.SizeFits line :=
    (within line mem).fits (by decide)
  have fits' (line : Text) (mem : line ∈ Text.postedLines snapshot') : Snapshot.SizeFits line :=
    (within' line mem).fits (by decide)
  refine ⟨?_, ?_, ?_⟩
  · intro data data' told told' same trace failFast debug debug' v v' trace_within asks asks'
    have trace_fits (line : Text) (mem : line ∈ Text.postedLines trace) : Claim.SizeFits line :=
      (trace_within line mem).fits (by decide)
    obtain ⟨mappings, reads, reads'⟩ |
      ⟨f, f', is_defect, is_defect', message_eq, unread, unread'⟩ :=
      read_of_same_answer told told' fits fits' same
    · exact agreesWith_of_read asks asks' trace_fits reads reads'
    · exact agreesWith_of_unread asks asks' is_defect is_defect' message_eq unread unread'
  · intro data told
    obtain ⟨mappings, reads, answers⟩ | refused := ranges_answered told fits
    · exact .inl ⟨mappings, reads, _, answers, rfl, listing?_listing mappings⟩
    · exact .inr refused
  · intro lines lines' mappings mappings' reads reads' m mem m' mem'
    have bounded := Snapshot.lt_writeBound_of_read reads m mem
    have bounded' := Snapshot.lt_writeBound_of_read reads' m' mem'
    exact ⟨Mapping.describe_isOk bounded, Mapping.eq_of_describe bounded bounded'⟩

/-- One page with zeros before its bounds and its size, among other lines and of another file. -/
def respelledPage : Text := "Rss: 0 kB\n01-02 r--s /bin\nKernelPageSize: 04 kB\n"

/-- A snapshot spelled in two ways is listed alike, and so a claim about it is checked alike. -/
theorem respelling_is_listed_alike :
    let m : Mapping := ⟨1, 2, 4, false, false, by decide, by decide, by decide⟩
    ranges (dataOf onePage onePageClaim) = ranges (dataOf respelledPage onePageClaim) ∧
    (∃ a a', verify (dataOf onePage onePageClaim) = .ok a ∧
      verify (dataOf respelledPage onePageClaim) = .ok a' ∧ a.AgreesWith a') ∧
    (∃ answer, ranges (dataOf onePage onePageClaim) = .ok answer ∧
      answer.status = 200 ∧ answer.listing? = some [m]) ∧
    ∃ text, m.describe = .ok text := by
  intro m
  have told : (dataOf onePage onePageClaim).member? "smaps" = some (.string onePage) := rfl
  have told' : (dataOf respelledPage onePageClaim).member? "smaps" =
      some (.string respelledPage) := rfl
  have reads : (Snapshot.read (Text.postedLines onePage)).result = .ok [m] := by decide +kernel
  have reads' : (Snapshot.read (Text.postedLines respelledPage)).result = .ok [m] := by
    decide +kernel
  have same : ranges (dataOf onePage onePageClaim) =
      ranges (dataOf respelledPage onePageClaim) := by
    rw [ranges_eq told, ranges_eq told', reads, reads']
  obtain ⟨checked_alike, listed, shown⟩ :=
    @listing_decides_verification onePage respelledPage (by decide +kernel) (by decide +kernel)
  refine ⟨same, ?_, ?_, ?_⟩
  · exact checked_alike _ _ told told' same onePageClaim true false false _ _ (by decide +kernel)
      (asks_dataOf onePage onePageClaim) (asks_dataOf respelledPage onePageClaim)
  · obtain ⟨mappings, reads_as, answer⟩ | ⟨f, -, unread, -⟩ := listed _ told
    · cases reads.symm.trans reads_as
      exact answer
    · cases reads.symm.trans unread
  · exact (shown _ _ [m] [m] reads reads' m List.mem_cons_self m List.mem_cons_self).1

end Service

end PageAudit
