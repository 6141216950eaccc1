import PageAudit.Proofs.Audit.Observability
import PageAudit.Proofs.Claim.Line
import PageAudit.Proofs.Claim.Token
import PageAudit.Proofs.Snapshot.Segmentation

/-!
# What an audit that passes has established

An audit is an oracle for a snapshot and a trace: it is to pass exactly if the snapshot is well
formed (`Section.WellFormed`, for every section) and confirms every claim of the trace (`Confirms`).
Both are told of the lines alone, without the mappings, the claims or the runs in between.
`audit_oracle` is the main result; `wellFormed_of_passes` and `confirms_of_passes` are its one
direction and `passes_of_confirms` is the other, in which the size numerals must not be too long.
-/

namespace PageAudit

namespace Snapshot

/-! ## Sections as they should be -/

/-- A section as it should be: two addresses in order, and a last page size that is positive. -/
structure Section.WellFormed (s : Section) : Prop where
  start_hex : s.start.all Text.isHexDigit = true
  start_lt : Numeral.hexValue s.start < addressSpace
  stop_hex : s.stop.all Text.isHexDigit = true
  stop_lt : Numeral.hexValue s.stop < addressSpace
  ordered : Numeral.hexValue s.start < Numeral.hexValue s.stop
  sized : ∃ size ∈ s.pageSizes.getLast?, 0 < size

/-- Whether the address lies between the bounds of the section. -/
def Section.covers (s : Section) (address : Nat) : Bool :=
  Numeral.hexValue s.start ≤ address && address < Numeral.hexValue s.stop

/-- The checks of one section let it pass exactly if it is well formed. -/
lemma Section.wellFormed_iff {s : Section} :
    s.WellFormed ↔
      (∀ c ∈ s.addressChecks, c.passes = true) ∧ ∀ c ∈ s.record.checks, c.passes = true := by
  have address (text : Text) (line : Int) : 
      (∀ c ∈ Snapshot.addressChecks text line, c.passes = true) ↔
      text.all Text.isHexDigit = true ∧ Numeral.hexValue text < addressSpace := by
    simp [Snapshot.addressChecks]
  have record : (∀ c ∈ s.record.checks, c.passes = true) ↔
      Numeral.hexValue s.start < Numeral.hexValue s.stop ∧
        ∃ size ∈ s.pageSizes.getLast?, 0 < size := by
    cases size : s.pageSizes.getLast? with
    | none => simp [Record.checks, Section.record, size]
    | some size => simp [Record.checks, Section.record, size]
  rw [Section.addressChecks, List.forall_mem_append, address, address, record]
  constructor
  · intro h
    exact ⟨⟨⟨h.start_hex, h.start_lt⟩, h.stop_hex, h.stop_lt⟩, h.ordered, h.sized⟩
  · rintro ⟨⟨⟨start_hex, start_lt⟩, stop_hex, stop_lt⟩, ordered, sized⟩
    exact ⟨start_hex, start_lt, stop_hex, stop_lt, ordered, sized⟩

/-- Whether a section is well formed is decided by its checks. -/
instance (s : Section) : Decidable s.WellFormed := decidable_of_iff _ Section.wellFormed_iff.symm

/-- All checks let a snapshot pass exactly if every section is well formed. -/
lemma checks_pass_iff {ss : List Section} :
    (∀ c ∈ checks ss, c.passes = true) ↔ ∀ s ∈ ss, s.WellFormed := by
  have after (r : Record) (ss : List Section) : (∀ c ∈ checksAfter r ss, c.passes = true) ↔
      (∀ c ∈ r.checks, c.passes = true) ∧ ∀ s ∈ ss, s.WellFormed := by
    induction ss generalizing r with
    | nil => simp [checksAfter]
    | cons s ss ih =>
      simp only [checksAfter, List.forall_mem_append, ih, List.forall_mem_cons,
        Section.wellFormed_iff]
      tauto
  cases ss with
  | nil => simp [checks]
  | cons s ss =>
    simp only [checks, List.forall_mem_append, after, List.forall_mem_cons, Section.wellFormed_iff]
    tauto

/-- The first section that covers an address describes the mapping that owns it, and there is the
one exactly if there is the other. -/
lemma Describe.owner {ss : List Section} {mappings : List Mapping} (describe : Describe ss mappings)
    (address : Nat) :
    Option.Rel (fun s m => s.record.Describes m) (ss.find? (·.covers address))
      (Mapping.owner? mappings address) := by
  induction describe with
  | nil => exact .none
  | @cons s m ss mappings describes describe ih =>
    have same : m.covers address = s.covers address := by
      have start : (Numeral.hexValue s.start : Int) = m.start := describes.start
      have stop : (Numeral.hexValue s.stop : Int) = m.stop := describes.stop
      simp only [Mapping.covers, Section.covers, ← start, ← stop, Int.ofNat_le, Int.ofNat_lt]
    unfold Mapping.owner? at ih ⊢
    rw [List.find?_cons, List.find?_cons, same]
    cases s.covers address with
    | true => exact .some describes
    | false => exact ih

end Snapshot

namespace Audit

open Snapshot PageSize

/-! ## What an audit passes on -/

/-- The audit of a snapshot and a trace passes. -/
def Passes (snapshot trace : List Text) (failFast : Bool) (journal : Option Journal) : Prop :=
  ∃ verdict, (audit snapshot trace failFast journal).1.verdict = some (.ok verdict) ∧
    verdict.passed = true

/-- The sections confirm that the memory at an address uses pages of the size that a token spells:
the first section that covers the address has just that page size, or has a smaller one and the flag
of transparent huge pages. -/
def Confirms (ss : List Section) (address : Nat) (token : Text) : Prop :=
  ∃ size s recorded, PageSize.Spells token size ∧ ss.find? (·.covers address) = some s ∧
    s.pageSizes.getLast? = some recorded ∧
    (size = recorded ∨ recorded < size ∧ transparentHugeFlag ∈ s.flagLists.getLast?.getD [])

variable {snapshot trace : List Text} {failFast : Bool} {journal : Option Journal}

/-- An audit passes exactly if the snapshot and the lines of the trace can be read and every claim
holds by the mappings of the snapshot. -/
lemma passes_iff_holds :
    Passes snapshot trace failFast journal ↔
      ∃ mappings, (Snapshot.read snapshot).result = .ok mappings ∧
        Source.trace.fault? (trace.zipIdx 1) = none ∧
        ∀ claim ∈ Source.trace.claims (trace.zipIdx 1),
          ∃ outcome, (judge mappings claim).result = .ok outcome := by
  unfold Passes audit
  rw [(oblivious_read snapshot).on_eq]
  cases (Snapshot.read snapshot).result with
  | error fault => simp
  | ok mappings =>
    have run := Auditor.run_passes_iff Source.trace (trace.zipIdx 1)
      { mappings, failFast, journal := Journal.addAll? journal (Snapshot.read snapshot).notes }
    simp only [Audited.ofRun, Option.some.injEq, Except.ok.injEq, exists_eq_left']
    exact run

/-- A claim that holds by the mappings of some sections is confirmed by them. -/
lemma confirms_of_holds {ss : List Section} {mappings : List Mapping} {claim : Claim}
    {address size : Nat} {token : Text} {line : Option Int} {outcome : Outcome}
    (describe : Describe ss mappings) (address_eq : claim.address = address)
    (size_eq : claim.pageSize = size) (made : (PageSize.inKB token line).result = .ok size)
    (holds : (judge mappings claim).result = .ok outcome) : Confirms ss address token := by
  obtain ⟨owner, owned, agrees⟩ := of_judge_eq_ok holds
  have covered := describe.owner address
  rw [← address_eq, owned] at covered
  cases found : ss.find? (·.covers address) with
  | none =>
    rw [found] at covered
    cases covered
  | some s =>
    rw [found] at covered
    cases covered with
    | some describes =>
      have last := Section.getLast?_pageSizes describes
      -- An unknown unit makes a size of zero, which is neither that of the owner nor larger.
      have positive := owner.pageSize_pos
      rw [size_eq] at agrees
      refine ⟨size, s, owner.pageSize, spells_of_inKB made (by omega), found, last, ?_⟩
      obtain same | ⟨larger, advised⟩ := agrees
      · exact .inl (by omega)
      · exact .inr ⟨by omega, describes.transparentHuge.mp advised⟩

/-- A claim that some sections confirm holds by their mappings. -/
lemma holds_of_confirms {ss : List Section} {mappings : List Mapping} {claim : Claim}
    {address size : Nat} {token : Text} (describe : Describe ss mappings)
    (bounded : ∀ m ∈ mappings, m.pageSize < Numeral.writeBound)
    (address_eq : claim.address = address) (size_eq : claim.pageSize = size)
    (spelled : ∀ size', PageSize.Spells token size' → size' = size)
    (size_lt : size < Numeral.writeBound) (confirms : Confirms ss address token) :
    ∃ outcome, (judge mappings claim).result = .ok outcome := by
  obtain ⟨size', s, recorded, spells, found, last, agrees⟩ := confirms
  obtain rfl := spelled size' spells
  have covered := describe.owner address
  rw [found] at covered
  cases owned : Mapping.owner? mappings address with
  | none =>
    rw [owned] at covered
    cases covered
  | some owner =>
    rw [owned] at covered
    cases covered with
    | some describes =>
      obtain rfl : recorded = owner.pageSize :=
        Option.some.inj (last.symm.trans (Section.getLast?_pageSizes describes))
      rw [judge_of_owner (address_eq ▸ owned) (bounded owner (List.mem_of_find?_eq_some owned))
        (by rw [size_eq]; exact size_lt), size_eq]
      obtain same | ⟨larger, advised⟩ := agrees
      · exact ⟨.equal, by simp [same]⟩
      · have thp := describes.transparentHuge.mpr advised
        have unequal : (owner.pageSize : Int) ≠ size' := by omega
        exact ⟨.tolerated, by simp [unequal, larger, thp]⟩

/-! ## The two directions -/

/-- An audit passes only on a snapshot whose sections are well formed. -/
lemma wellFormed_of_passes (passes : Passes snapshot trace failFast journal) :
    ∀ s ∈ sections snapshot, s.WellFormed := by
  obtain ⟨mappings, reads, -, -⟩ := passes_iff_holds.mp passes
  exact checks_pass_iff.mp (of_read_eq_ok reads).1

/-- An audit passes only on a trace all of whose claims are confirmed. -/
lemma confirms_of_passes (passes : Passes snapshot trace failFast journal) {line token : Text}
    {address : Nat} (mem : line ∈ trace)
    (fields : Claim.fields? (Text.chomp line) = some (address, token)) :
    Confirms (sections snapshot) address token := by
  obtain ⟨mappings, reads, readable, holds⟩ := passes_iff_holds.mp passes
  obtain ⟨n, found⟩ := List.mem_iff_getElem?.mp mem
  have item_mem : (line, 1 + n) ∈ trace.zipIdx 1 :=
    List.mk_add_mem_zipIdx_iff_getElem?.mpr found
  -- The line could be read, so its token was turned into a size.
  obtain ⟨made, read⟩ := (Source.fault?_eq_none_iff _).mp readable _ item_mem
  have read_eq := read
  simp only [Source.trace] at read_eq
  rw [Claim.result_read?, fields] at read_eq
  cases inKB_eq : (inKB token ((1 + n : Nat) : Int)).result with
  | error fault =>
    simp only [inKB_eq] at read_eq
    cases read_eq
  | ok size =>
    simp only [inKB_eq] at read_eq
    cases read_eq
    have claim_mem := (Source.mem_claims_iff _ readable).mpr ⟨_, item_mem, read⟩
    obtain ⟨outcome, holds⟩ := holds _ claim_mem
    exact confirms_of_holds (of_read_eq_ok reads).2 rfl rfl inKB_eq holds

/-- An audit passes on well-formed sections that confirm every claim of the trace, if no size
numeral in the one or the other is too long. -/
lemma passes_of_confirms (snapshot_fits : ∀ s ∈ sections snapshot, s.Fits)
    (trace_fits : ∀ line ∈ trace, Claim.SizeFits line)
    (wellFormed : ∀ s ∈ sections snapshot, s.WellFormed)
    (confirms : ∀ line ∈ trace, ∀ address token,
      Claim.fields? (Text.chomp line) = some (address, token) →
        Confirms (sections snapshot) address token) :
    Passes snapshot trace failFast journal := by
  obtain ⟨mappings, reads, describe⟩ := read_isOk snapshot_fits (checks_pass_iff.mpr wellFormed)
  have readable : Source.trace.fault? (trace.zipIdx 1) = none := by
    rw [Source.fault?_eq_none_iff]
    rintro ⟨line, number⟩ item_mem
    have mem := List.fst_mem_of_mem_zipIdx item_mem
    simp only [Source.trace, Claim.result_read?]
    cases fields : Claim.fields? (Text.chomp line) with
    | none => exact ⟨none, rfl⟩
    | some both =>
      obtain ⟨address, token⟩ := both
      obtain ⟨size, -, -, spells, -⟩ := confirms line mem address token fields
      simp only [inKB_of_spells spells (trace_fits line mem address token fields)]
      exact ⟨_, rfl⟩
  refine passes_iff_holds.mpr ⟨mappings, reads, readable, ?_⟩
  intro claim claim_mem
  obtain ⟨⟨line, number⟩, item_mem, read⟩ := (Source.mem_claims_iff _ readable).mp claim_mem
  have mem := List.fst_mem_of_mem_zipIdx item_mem
  obtain ⟨address, token, size, fields, made, rfl⟩ := Claim.of_read?_eq_some read
  have confirmed := confirms line mem address token fields
  have fits := trace_fits line mem address token fields
  obtain ⟨size', -, -, spells, -⟩ := id confirmed
  obtain rfl : size' = size := by
    rw [inKB_of_spells spells fits] at made
    exact Except.ok.inj made
  exact holds_of_confirms describe (lt_writeBound_of_read reads) rfl rfl
    (fun _ spells' => spells'.eq spells fits) (spells.lt_writeBound fits) confirmed

/-- **An audit is an oracle.** If it passes, the snapshot is well formed and confirms every claim of
the trace. If these hold and no run of digits is longer than 4000, it passes. -/
theorem audit_oracle (snapshot trace : List Text) (failFast : Bool) (journal : Option Journal) :
    let wellFormed := ∀ s ∈ sections snapshot, s.WellFormed
    let confirmed := ∀ line ∈ trace, ∀ address token,
      Claim.fields? (Text.chomp line) = some (address, token) →
        Confirms (sections snapshot) address token
    (Passes snapshot trace failFast journal → wellFormed ∧ confirmed) ∧
      (wellFormed → confirmed → (∀ line ∈ snapshot ++ trace, line.DigitsWithin 4000) →
        Passes snapshot trace failFast journal) := by
  intro wellFormed confirmed
  refine ⟨?_, ?_⟩
  · intro passes
    refine ⟨wellFormed_of_passes passes, ?_⟩
    intro line mem address token fields
    exact confirms_of_passes passes mem fields
  · intro wellFormed confirmed within
    obtain ⟨snapshot_within, trace_within⟩ := List.forall_mem_append.mp within
    have snapshot_fits := fits_of_lines fun line mem =>
      (sizeWithin_of_digitsWithin (snapshot_within line mem)).fits (by decide)
    have trace_fits (line : Text) (mem : line ∈ trace) : Claim.SizeFits line :=
      (Claim.sizeWithin_of_digitsWithin (trace_within line mem)).fits (by decide)
    exact passes_of_confirms snapshot_fits trace_fits wellFormed confirmed

/-- The first section owns both claims: the one has its page size, the other is larger but the
section is advised for transparent huge pages. So both are counted, and one is tolerated. -/
theorem audit_passes_on_owned_claims :
    let snapshot : List Text :=
      ["1000-3000 rw-p", "KernelPageSize: 4 kB", "VmFlags: rd hg", "2000-4000 r--p",
        "KernelPageSize: 64 kB"]
    let lines : List Text := ["base=0x1000 page_size=4k", "done", "base=0x2000 page_size=2M"]
    (∀ s ∈ sections snapshot, s.WellFormed) ∧
      ∃ verdict, (audit snapshot lines true none).1.verdict = some (.ok verdict) ∧
        verdict.passed = true ∧ verdict.checked = 2 ∧ verdict.tolerated = 1 := by
  intro snapshot lines
  have wellFormed : ∀ s ∈ sections snapshot, s.WellFormed := by decide +kernel
  let owner : Section :=
    { line := 1
      start := "1000"
      stop := "3000"
      body := ["KernelPageSize: 4 kB", "VmFlags: rd hg"] }
  have advised : transparentHugeFlag ∈ owner.flagLists.getLast?.getD [] := by decide +kernel
  have same : Confirms (sections snapshot) 0x1000 "4k" :=
    ⟨4, owner, 4, ⟨"4", .char 'k', 1, by decide +kernel⟩, by decide +kernel, by decide +kernel,
      .inl rfl⟩
  have larger : Confirms (sections snapshot) 0x2000 "2M" :=
    ⟨2048, owner, 4, ⟨"2", .char 'M', 1024, by decide +kernel⟩, by decide +kernel,
      by decide +kernel, .inr ⟨by decide, advised⟩⟩
  have confirmed : ∀ line ∈ lines, ∀ address token,
      Claim.fields? (Text.chomp line) = some (address, token) →
        Confirms (sections snapshot) address token := by
    intro line mem address token fields
    obtain rfl | rfl | rfl : line = _ ∨ line = _ ∨ line = _ := by simpa [lines] using mem
    · have read : Claim.fields? (Text.chomp "base=0x1000 page_size=4k") =
          some (0x1000, ("4k" : Text)) := by decide +kernel
      cases read.symm.trans fields
      exact same
    · have read : Claim.fields? (Text.chomp "done") = none := by decide +kernel
      cases read.symm.trans fields
    · have read : Claim.fields? (Text.chomp "base=0x2000 page_size=2M") =
          some (0x2000, ("2M" : Text)) := by decide +kernel
      cases read.symm.trans fields
      exact larger
  have within : ∀ line ∈ snapshot ++ lines, line.DigitsWithin 4000 := by
    intro line mem
    apply Text.digitsWithin_of_length_le
    revert line
    decide +kernel
  obtain ⟨verdict, ends, passed⟩ :=
    (audit_oracle snapshot lines true none).2 wellFormed confirmed within
  have counts : ((audit snapshot lines true none).1.verdict.bind Except.toOption).map
      (fun verdict => (verdict.checked, verdict.tolerated)) = some (2, 1) := by decide +kernel
  rw [ends] at counts
  obtain ⟨checked, tolerated⟩ := Prod.mk.inj (Option.some.inj counts)
  exact ⟨wellFormed, verdict, ends, passed, checked, tolerated⟩

end Audit

end PageAudit
