import PageAudit.Proofs.Audit.Quiet

/-!
# Claims that cannot hold

A size falls back to zero if its unit is none, and an address may be larger than any that a snapshot
can tell. Neither lets a claim slip through: no mapping has a page size of zero, and none reaches
the last address (`Unmeetable.breaks`). So a line with such a claim keeps every run over its trace
from passing, wherever it stands. `hopeless_claims_never_pass` is the main result.
-/

namespace PageAudit.Audit

open Logged
open PageSize (Measured)

/-! ## Claims -/

/-- A claim that no mapping can meet: its page size is not positive, or its address is the last of
the address space or lies past it. -/
def Unmeetable (claim : Claim) : Prop :=
  claim.pageSize ≤ 0 ∨ (addressSpace : Int) ≤ claim.address + 1

section judged

variable {mappings : List Mapping} {claim : Claim}

/-- A claim that no mapping can meet does not hold: its owner would have a positive page size and
stop within the address space. -/
lemma Unmeetable.judge_ne_ok (unmeetable : Unmeetable claim) (outcome : Outcome) :
    (judge mappings claim).result ≠ .ok outcome := by
  intro holds
  obtain sizeless | beyond := unmeetable
  · have positive := pageSize_pos_of_judge_eq_ok holds
    omega
  · obtain ⟨owner, owned, -⟩ := of_judge_eq_ok holds
    obtain ⟨covered, -⟩ := Mapping.owner?_eq_some_iff.mp owned
    have bounded := owner.stop_lt_space
    simp only [Mapping.covers, Bool.and_eq_true, decide_eq_true_eq] at covered
    omega

/-- Something is wrong with a claim that no mapping can meet, and that is how it is judged. -/
lemma Unmeetable.breaks (unmeetable : Unmeetable claim) (judgeable : Judgeable mappings claim) :
    ∃ f, (judge mappings claim).result = .error (.finding f) ∧ Breaks mappings claim f := by
  rcases judged : (judge mappings claim).result with (f | o) | outcome
  · exact ⟨f, rfl, breaks_of_failure? (failure?_eq_some_iff_result.mpr judged)⟩
  · exact absurd judged (judgeable o)
  · exact absurd judged (unmeetable.judge_ne_ok outcome)

end judged

/-! ## Lines -/

/-- The letters that are units. -/
def unitLetters : Text := "KkMmGg"

/-- What a line claims cannot hold: the unit of its token is none, the numeral of its token is zero,
or its address is the last of the address space or lies past it. -/
inductive Hopeless (address : Nat) (token : Text) : Prop
  | unknownUnit {digits : Text} {unit : CodePoint} (measured : Measured token digits unit)
    (unknown : unit ∉ unitLetters)
  | zero {digits : Text} {unit : CodePoint} (measured : Measured token digits unit)
    (zero : Numeral.value digits = 0)
  | beyond (beyond : addressSpace ≤ address + 1)

/-- A unit has no size exactly if it is none of the letters. -/
lemma unitKB?_eq_none_iff {unit : CodePoint} :
    PageSize.unitKB? unit = none ↔ unit ∉ unitLetters := by
  have letters : unit ∈ unitLetters ↔
      unit = 'K' ∨ unit = 'k' ∨ unit = 'M' ∨ unit = 'm' ∨ unit = 'G' ∨ unit = 'g' := by
    simp [unitLetters, Text.ofString, Text.ofChars]
  rw [letters]
  unfold PageSize.unitKB?
  split_ifs with kilo mega giga
  · simp [← or_assoc, kilo]
  · simp [← or_assoc, mega]
  · simp [giga]
  · simp only [not_or] at kilo mega giga
    simp [kilo, mega, giga]

section lines

variable {line : Text} {number : Nat} {address : Nat} {token : Text}

/-- A numeral that can be read makes a claim, whatever follows it. -/
lemma exists_read?_of_measured {digits : Text} {unit : CodePoint}
    (short : digits.length ≤ Numeral.maxDigits)
    (fields : Claim.fields? (Text.chomp line) = some (address, token))
    (measured : Measured token digits unit) (number : Nat) :
    ∃ claim, (Claim.read? line number).result = .ok (some claim) := by
  simp only [Claim.result_read?, fields, PageSize.result_inKB,
    PageSize.split?_eq_some_iff.mpr measured, Numeral.read_of_length_le short]
  exact ⟨_, rfl⟩

/-- A line with both fields that is read makes a claim. -/
lemma exists_claim_of_fields {made : Option Claim}
    (read : (Claim.read? line number).result = .ok made)
    (fields : Claim.fields? (Text.chomp line) = some (address, token)) :
    ∃ claim, made = some claim := by
  simp only [Claim.result_read?, fields] at read
  cases sized : (PageSize.inKB token (some (number : Int))).result with
  | error fault =>
    rw [sized] at read
    cases read
  | ok size =>
    rw [sized] at read
    exact ⟨_, (Except.ok.inj read).symm⟩

/-- A line whose claim cannot hold makes one that no mapping can meet. -/
lemma Hopeless.unmeetable {claim : Claim} (hopeless : Hopeless address token)
    (fields : Claim.fields? (Text.chomp line) = some (address, token))
    (read : (Claim.read? line number).result = .ok (some claim)) : Unmeetable claim := by
  obtain ⟨_, _, size, fields', sized, rfl⟩ := Claim.of_read?_eq_some read
  cases fields.symm.trans fields'
  -- The size is a product: the number that is spelled, and the kilobytes in a unit or none.
  have product {digits : Text} {unit : CodePoint} (measured : Measured token digits unit) :
      size = Numeral.value digits * (PageSize.unitKB? unit).getD 0 := by
    simp only [PageSize.result_inKB, PageSize.split?_eq_some_iff.mpr measured] at sized
    cases reads : Numeral.read digits with
    | error o =>
      rw [reads] at sized
      cases sized
    | ok count =>
      obtain ⟨-, rfl⟩ := Numeral.of_read_eq_ok reads
      rw [reads] at sized
      exact (Except.ok.inj sized).symm
  cases hopeless with
  | unknownUnit measured unknown =>
    left
    simp [product measured, unitKB?_eq_none_iff.mpr unknown]
  | zero measured zero =>
    left
    simp [product measured, zero]
  | beyond beyond => exact .inr (Int.ofNat_le.mpr beyond)

end lines

/-! ## Runs -/

/-- A run passes only if every line of its trace is read, and every claim holds. -/
lemma holds_of_passed {lines : List Text} {a : Auditor} {verdict : Verdict}
    (ends : (a.runTrace lines).1 = .ok verdict) (passed : verdict.passed = true) {line : Text}
    (mem : line ∈ lines) :
    ∃ number made, (Claim.read? line number).result = .ok made ∧
      ∀ claim ∈ made, ∃ outcome, (judge a.mappings claim).result = .ok outcome := by
  obtain ⟨readable, holds⟩ :=
    (Auditor.run_passes_iff Source.trace (lines.zipIdx 1) a).mp ⟨verdict, ends, passed⟩
  obtain ⟨before, after, rfl⟩ := List.append_of_mem mem
  have item_mem := mem_zipIdx_append_cons before line after
  obtain ⟨made, read⟩ := (Source.fault?_eq_none_iff _).mp readable _ item_mem
  refine ⟨_, made, read, ?_⟩
  rintro claim rfl
  exact holds claim ((Source.mem_claims_iff _ readable).mpr ⟨_, item_mem, read⟩)

/-- **Some claims can never pass.** By the mappings of whatever snapshot is read, a line whose claim
cannot hold is judged to fail, for want of an owner or for its page size, if its size numeral has at
most 4000 digits. No run over a trace with such a line passes, wherever it stands and whether or not
the first failure stops the run. -/
theorem hopeless_claims_never_pass {snapshot lines : List Text} {mappings : List Mapping}
    {journal : Option Journal} (reads : ((Snapshot.read snapshot).on journal).1 = .ok mappings)
    {line : Text} (mem : line ∈ lines) {address : Nat} {token : Text}
    (fields : Claim.fields? (Text.chomp line) = some (address, token))
    (hopeless : Hopeless address token) :
    (∀ digits unit, Measured token digits unit → digits.length ≤ 4000 → ∀ number journal,
      ∃ claim f, ((Claim.read? line number).on journal).1 = .ok (some claim) ∧
        Breaks mappings claim f ∧
        ∀ journal, ((judge mappings claim).on journal).1 = .error (.finding f)) ∧
    ∀ a : Auditor, a.mappings = mappings → ∀ verdict,
      (a.runTrace lines).1 = .ok verdict → verdict.passed = false := by
  rw [(Snapshot.oblivious_read snapshot).on_eq] at reads
  have recorded := Snapshot.lt_writeBound_of_read reads
  constructor
  · intro digits unit measured short number journal
    have fits : PageSize.TokenFits token := by
      have within : PageSize.TokenWithin 4000 token := fun _ _ measured' =>
        (measured'.unique measured).1 ▸ short
      exact within.fits (by decide)
    have line_fits : Claim.SizeFits line := by
      intro address' token' fields'
      cases fields.symm.trans fields'
      exact fits
    obtain ⟨claim, read⟩ :=
      exists_read?_of_measured (fits digits unit measured).1 fields measured number
    have judgeable : Judgeable mappings claim := by
      obtain ⟨made, read', claimed⟩ | ⟨defect, unreadable⟩ := line_fits.read?_ends number
      · cases read'.symm.trans read
        exact judgeable_of_lt recorded (claimed claim rfl)
      · cases unreadable.symm.trans read
    obtain ⟨f, judged, breaks⟩ := (hopeless.unmeetable fields read).breaks judgeable
    refine ⟨claim, f, ?_, breaks, fun journal => ?_⟩
    · rw [(Claim.oblivious_read? line number).on_eq]
      exact read
    · rw [(oblivious_judge mappings claim).on_eq]
      exact judged
  · rintro a rfl verdict ends
    cases passed : verdict.passed with
    | false => rfl
    | true =>
      obtain ⟨number, made, read, holds⟩ := holds_of_passed ends passed mem
      obtain ⟨claim, rfl⟩ := exists_claim_of_fields read fields
      obtain ⟨outcome, judged⟩ := holds claim rfl
      exact absurd judged ((hopeless.unmeetable fields read).judge_ne_ok outcome)

/-- Even where larger claims are tolerated one of no unit does not pass, and a run that goes on
comes to a verdict that does not pass either. -/
theorem unknown_unit_never_passes :
    let m : Mapping :=
      ⟨0, 0xffffffffffffffff, 4, true, false, by decide, by decide, by decide⟩
    let snapshot : List Text :=
      ["0-ffffffffffffffff rw-p\n", "KernelPageSize: 4 kB\n", "VmFlags: hg\n"]
    let lines : List Text :=
      ["base=0x1000 page_size=2M", "base=0xffffffffffffffff page_size=4K",
        "base=0x1000 page_size=0G", "base=0x1000 page_size=8Q"]
    let a : Auditor := { mappings := [m], failFast := false }
    ((Snapshot.read snapshot).on none).1 = .ok [m] ∧ Hopeless 0x1000 "8Q" ∧
      (∃ claim f, ((Claim.read? "base=0x1000 page_size=8Q" 4).on none).1 = .ok (some claim) ∧
        ((judge [m] claim).on none).1 = .error (.finding f)) ∧
      ∃ verdict, (a.runTrace lines).1 = .ok verdict ∧ verdict.passed = false := by
  intro m snapshot lines a
  have reads : ((Snapshot.read snapshot).on none).1 = .ok [m] := by decide +kernel
  have measured : Measured "8Q" "8" 'Q' := ⟨rfl, nofun, rfl, rfl⟩
  have hopeless : Hopeless 0x1000 "8Q" := .unknownUnit measured (by decide)
  have fields : Claim.fields? (Text.chomp "base=0x1000 page_size=8Q") =
      some (0x1000, ("8Q" : Text)) := by decide +kernel
  have mem : ("base=0x1000 page_size=8Q" : Text) ∈ lines := by decide
  obtain ⟨judged, runs⟩ := hopeless_claims_never_pass reads mem fields hopeless
  obtain ⟨claim, f, read, -, fails⟩ := judged _ _ measured (by decide) 4 none
  refine ⟨reads, hopeless, ⟨claim, f, read, fails none⟩, ?_⟩
  cases ends : (a.runTrace lines).1 with
  | error fault =>
    have verdict : (a.runTrace lines).1.isOk = true := by decide +kernel
    rw [ends] at verdict
    cases verdict
  | ok verdict => exact ⟨verdict, rfl, runs a rfl verdict ends⟩

end PageAudit.Audit
