import PageAudit.Audit.Judgement
import PageAudit.Proofs.Journal.Oblivious
import PageAudit.Proofs.Numeral

/-!
# Single judgements

Reading a claim and judging it are oblivious of the journal. What judging a claim comes to is told
by the owner of its address: `judge_of_unowned` if there is none, and `judge_of_owner` otherwise,
provided both page sizes can be written. `of_judge_eq_ok` reads a claim that holds back into what
its owner and its page size must be, whatever their size.
-/

namespace PageAudit

open Logged

/-- Turning a token into kilobytes is oblivious. -/
@[simp] lemma PageSize.oblivious_inKB (token : Text) (line : Option Int) :
    (inKB token line).Oblivious := by
  unfold inKB
  cases split? token with
  | none => exact oblivious_throw _
  | some parts =>
    obtain ⟨digits, unit⟩ := parts
    refine (oblivious_ofExcept _).bind fun count _ => ?_
    cases unitKB? unit with
    | none => exact (oblivious_note ..).bind fun _ _ => oblivious_pure _
    | some kb => exact oblivious_pure _

/-- Reading the claim of a line is oblivious. -/
@[simp] lemma Claim.oblivious_read? (line : Text) (number : Nat) :
    (Claim.read? line number).Oblivious := by
  unfold Claim.read?
  dsimp only
  cases Claim.fields? (Text.chomp line) with
  | none => exact oblivious_pure _
  | some fields =>
    obtain ⟨address, token⟩ := fields
    refine (oblivious_note ..).bind fun _ _ => ?_
    exact (PageSize.oblivious_inKB token _).bind fun _ _ => oblivious_pure _

namespace Audit

/-- A step of a judgement is oblivious. -/
@[simp] lemma oblivious_noteOn (claim : Claim) (level : Level) (message : Text) :
    (noteOn claim level message).Oblivious := oblivious_note ..

/-- Noting on a claim does not fail. -/
@[simp] lemma result_noteOn (claim : Claim) (level : Level) (message : Text) :
    (noteOn claim level message).result = .ok () := rfl

/-- Writing a number into a note is oblivious. -/
@[simp] lemma oblivious_written (n : Int) : (written n).Oblivious := oblivious_ofExcept _

/-- A number is written if it is not too long. -/
@[simp] lemma result_written (n : Int) : (written n).result = ofNumeral (Numeral.write n) :=
  result_ofExcept _

/-- Judging a claim is oblivious. -/
@[simp] lemma oblivious_judge (mappings : List Mapping) (claim : Claim) :
    (judge mappings claim).Oblivious := by
  unfold judge
  cases Mapping.owner? mappings claim.address with
  | none => exact (oblivious_noteOn ..).bind fun _ _ => oblivious_throw _
  | some owner =>
    refine (oblivious_ofExcept _).bind fun description _ => ?_
    refine (oblivious_noteOn ..).bind fun _ _ => ?_
    refine (oblivious_written _).bind fun recorded _ => ?_
    split
    · exact (oblivious_noteOn ..).bind fun _ _ => oblivious_pure _
    split
    · refine (oblivious_written _).bind fun claimed _ => ?_
      exact (oblivious_noteOn ..).bind fun _ _ => oblivious_pure _
    · refine (oblivious_written _).bind fun claimed _ => ?_
      exact (oblivious_noteOn ..).bind fun _ _ => oblivious_throw _

/-- A claim whose address no mapping owns fails for that reason. -/
lemma judge_of_unowned {mappings : List Mapping} {claim : Claim}
    (unowned : Mapping.owner? mappings claim.address = none) :
    (judge mappings claim).result = .error (.finding (.unowned claim.address)) := by
  unfold judge
  rw [unowned]
  simp [result_bind, Except.bind]

/-- What becomes of a claim whose address has an owner: three numbers are written on the way, each
of which may be too long. -/
lemma judge_eq_of_owner {mappings : List Mapping} {claim : Claim} {owner : Mapping}
    (owned : Mapping.owner? mappings claim.address = some owner) :
    (judge mappings claim).result =
      (ofNumeral owner.describe).bind fun _ =>
      (ofNumeral (Numeral.write owner.pageSize)).bind fun _ =>
      if owner.pageSize = claim.pageSize then .ok .equal
      else (ofNumeral (Numeral.write claim.pageSize)).bind fun _ =>
        if owner.pageSize < claim.pageSize ∧ owner.transparentHuge = true then .ok .tolerated
        else .error (.finding (.mismatch claim.address owner.pageSize claim.pageSize owner)) := by
  unfold judge
  rw [owned]
  simp only [result_bind, oblivious_ofExcept, result_ofExcept, oblivious_noteOn, result_noteOn,
    oblivious_written, result_written]
  cases ofNumeral owner.describe with
  | error o => simp only [Except.bind]
  | ok description =>
    cases ofNumeral (Numeral.write owner.pageSize) with
    | error o => simp only [Except.bind]
    | ok recorded =>
      simp only [Except.bind]
      split
      · simp only [result_bind, oblivious_noteOn, result_noteOn, result_pure, Except.bind]
      split
      all_goals
        simp only [result_bind, oblivious_written, oblivious_noteOn, result_written, result_noteOn,
          result_pure, result_throw]
        cases ofNumeral (Numeral.write claim.pageSize) <;> simp only [Except.bind]

/-- What becomes of a claim whose address has an owner, if both page sizes can be written. -/
lemma judge_of_owner {mappings : List Mapping} {claim : Claim} {owner : Mapping}
    (owned : Mapping.owner? mappings claim.address = some owner)
    (recorded : owner.pageSize < Numeral.writeBound)
    (claimed : claim.pageSize.natAbs < Numeral.writeBound) :
    (judge mappings claim).result =
      if owner.pageSize = claim.pageSize then .ok .equal
      else if owner.pageSize < claim.pageSize ∧ owner.transparentHuge = true then .ok .tolerated
      else .error (.finding (.mismatch claim.address owner.pageSize claim.pageSize owner)) := by
  obtain ⟨text, described⟩ := Mapping.describe_isOk recorded
  have recorded : Numeral.write owner.pageSize = _ := Numeral.write_of_lt (by simpa using recorded)
  have claimed := Numeral.write_of_lt claimed
  rw [judge_eq_of_owner owned, described, recorded, claimed]
  rfl

/-- A claim that holds has an owner with the claimed page size, or with a smaller one and advised
for transparent huge pages. -/
lemma of_judge_eq_ok {mappings : List Mapping} {claim : Claim} {outcome : Outcome}
    (holds : (judge mappings claim).result = .ok outcome) :
    ∃ owner, Mapping.owner? mappings claim.address = some owner ∧
      ((owner.pageSize : Int) = claim.pageSize ∨
        owner.pageSize < claim.pageSize ∧ owner.transparentHuge = true) := by
  cases owned : Mapping.owner? mappings claim.address with
  | none =>
    rw [judge_of_unowned owned] at holds
    cases holds
  | some owner =>
    refine ⟨owner, rfl, ?_⟩
    rw [judge_eq_of_owner owned] at holds
    cases described : ofNumeral owner.describe with
    | error o => simp [described, Except.bind] at holds
    | ok description =>
      cases recorded : ofNumeral (Numeral.write owner.pageSize) with
      | error o => simp [described, recorded, Except.bind] at holds
      | ok recorded =>
        simp only [described, recorded, Except.bind] at holds
        split at holds
        · next same => exact .inl same
        · cases claimed : ofNumeral (Numeral.write claim.pageSize) with
          | error o => simp [claimed] at holds
          | ok claimed =>
            simp only [claimed] at holds
            split at holds
            · next tolerated => exact .inr tolerated
            · cases holds

end Audit

end PageAudit
