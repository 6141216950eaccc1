import Mathlib.Data.List.Infix
import PageAudit.Proofs.Claim.Token

/-!
# Pulling claims

A trace is read only as far as claims are asked for. The lines of a trace that carry a claim are its
`carriers`: each with its number, its text and the two fields in it. Every pull moves on to the next
carrier (`Standing.pull`), so the pulls follow the carriers one by one and no line is read ahead.
`pulls_follow_carriers` is the main result.
-/

namespace PageAudit.Trace

open Logged

/-! ## Lines that carry a claim -/

/-- A line that carries a claim, with its two fields. -/
structure Carrier where
  /-- Its number in the trace. -/
  number : Nat
  /-- The line without the line feeds at its end. -/
  text : Text
  address : Nat
  token : Text
  deriving DecidableEq, Repr

/-- What a numbered line carries, if it carries a claim. -/
def carrier? (line : Text) (number : Nat) : Option Carrier :=
  (Claim.fields? (Text.chomp line)).map fun (address, token) =>
    { number, text := Text.chomp line, address, token }

/-- The carriers among lines that are numbered from here on. -/
def carriersFrom (number : Nat) (lines : List Text) : List Carrier :=
  (lines.zipIdx number).filterMap fun (line, number) => carrier? line number

/-- The carriers of a trace. -/
def carriers (lines : List Text) : List Carrier := carriersFrom 1 lines

/-- A carrier makes a claim if its token is a numeral, in digits of any script, and one more
character. The claim is of this line alone. -/
def Carrier.Makes (c : Carrier) (claim : Claim) : Prop :=
  ∃ digits unit, c.token = digits ++ [unit] ∧ digits ≠ [] ∧ digits.all Text.isDigit = true ∧
    Text.isDigit unit = false ∧
    claim =
      { address := c.address
        pageSize := (Numeral.value digits * (PageSize.unitKB? unit).getD 0 : Nat)
        line := c.number
        text := c.text }

/-- A carrier whose token makes no claim. -/
def Carrier.Malformed (c : Carrier) : Prop := ∀ claim, ¬c.Makes claim

/-- A carrier whose numeral is not too long to be read. -/
def Carrier.Short (c : Carrier) : Prop :=
  (c.token.takeWhile Text.isDigit).length ≤ Numeral.maxDigits

/-- Whether a numeral is too long is decided by its length. -/
instance (c : Carrier) : Decidable c.Short := Nat.decLe _ _

section

variable {line : Text} {lines : List Text} {number : Nat} {c : Carrier}

/-- A line carries a claim exactly if it has fields, and then these. -/
lemma carrier?_eq_some_iff :
    carrier? line number = some c ↔
      c.number = number ∧ c.text = Text.chomp line ∧
        Claim.fields? c.text = some (c.address, c.token) := by
  obtain ⟨n, text, address, token⟩ := c
  simp only [carrier?, Option.map_eq_some_iff, Carrier.mk.injEq, Prod.exists]
  constructor
  · rintro ⟨_, _, fields, rfl, rfl, rfl, rfl⟩
    exact ⟨rfl, rfl, fields⟩
  · rintro ⟨rfl, rfl, fields⟩
    exact ⟨address, token, fields, rfl, rfl, rfl, rfl⟩

/-- A line carries no claim exactly if it has no fields. -/
lemma carrier?_eq_none_iff :
    carrier? line number = none ↔ Claim.fields? (Text.chomp line) = none :=
  Option.map_eq_none_iff

/-- The carriers of some lines: that of the first line, and those of the others. -/
lemma carriersFrom_cons (line : Text) (lines : List Text) (number : Nat) :
    carriersFrom number (line :: lines) =
      (carrier? line number).toList ++ carriersFrom (number + 1) lines := by
  rw [carriersFrom, List.zipIdx_cons, List.filterMap_cons]
  cases carries : carrier? line number <;> simp only [carries] <;> rfl

/-- A carrier is malformed if its token cannot be split into a numeral and one more character. -/
lemma Carrier.malformed_iff : c.Malformed ↔ PageSize.split? c.token = none := by
  constructor
  · intro malformed
    rw [Option.eq_none_iff_forall_not_mem]
    rintro ⟨digits, unit⟩ split
    obtain ⟨token_eq, nonempty, digital, noDigit⟩ := PageSize.split?_eq_some_iff.mp split
    exact malformed _ ⟨digits, unit, token_eq, nonempty, digital, noDigit, rfl⟩
  · rintro unsplit claim ⟨digits, unit, token_eq, nonempty, digital, noDigit, -⟩
    have split := PageSize.split?_eq_some_iff.mpr ⟨token_eq, nonempty, digital, noDigit⟩
    cases unsplit.symm.trans split

/-- The carriers are those of the lines, each with the number of its line. -/
lemma mem_carriersFrom_iff :
    c ∈ carriersFrom number lines ↔
      ∃ place line, lines[place]? = some line ∧ carrier? line (number + place) = some c := by
  simp only [carriersFrom, List.mem_filterMap, Prod.exists,
    List.mk_mem_zipIdx_iff_le_and_getElem?_sub]
  constructor
  · rintro ⟨line, n, ⟨le, stands⟩, carries⟩
    exact ⟨n - number, line, stands, by rwa [Nat.add_sub_cancel' le]⟩
  · rintro ⟨place, line, stands, carries⟩
    exact ⟨line, number + place, ⟨Nat.le_add_right _ _, by rwa [Nat.add_sub_cancel_left]⟩, carries⟩

/-- Every carrier stands after the one before it. -/
lemma pairwise_carriersFrom (number : Nat) (lines : List Text) :
    (carriersFrom number lines).Pairwise (·.number < ·.number) := by
  induction lines generalizing number with
  | nil => exact .nil
  | cons line lines ih =>
    rw [carriersFrom_cons]
    cases carries : carrier? line number with
    | none => exact ih (number + 1)
    | some c =>
      refine List.pairwise_cons.mpr ⟨fun later mem => ?_, ih (number + 1)⟩
      obtain ⟨place, line', -, carries'⟩ := mem_carriersFrom_iff.mp mem
      obtain ⟨here, -⟩ := carrier?_eq_some_iff.mp carries
      obtain ⟨there, -⟩ := carrier?_eq_some_iff.mp carries'
      omega

/-- The first of some carriers stands behind lines that carry nothing. -/
lemma exists_first_carrier {cs : List Carrier} (first : carriersFrom number lines = c :: cs) :
    ∃ barren line behind, lines = barren ++ line :: behind ∧
      (∀ idle ∈ barren, Claim.fields? (Text.chomp idle) = none) ∧
      carrier? line (number + barren.length) = some c ∧
      carriersFrom (number + barren.length + 1) behind = cs := by
  induction lines generalizing number with
  | nil => cases first
  | cons line lines ih =>
    rw [carriersFrom_cons] at first
    cases carries : carrier? line number with
    | some c' =>
      rw [carries] at first
      cases first
      exact ⟨[], line, lines, rfl, nofun, carries, rfl⟩
    | none =>
      rw [carries] at first
      obtain ⟨barren, line', behind, rfl, idle, carries', rest⟩ := ih first
      have shifted : number + (line :: barren).length = number + 1 + barren.length := by
        rw [List.length_cons]
        omega
      refine ⟨line :: barren, line', behind, rfl, ?_, ?_, ?_⟩
      · exact List.forall_mem_cons.mpr ⟨carrier?_eq_none_iff.mp carries, idle⟩
      · rwa [shifted]
      · rwa [shifted]

/-- Lines without a carrier have no fields. -/
lemma barren_of_carriersFrom (none : carriersFrom number lines = []) :
    ∀ idle ∈ lines, Claim.fields? (Text.chomp idle) = .none := by
  intro idle mem
  obtain ⟨place, bound, rfl⟩ := List.mem_iff_getElem.mp mem
  have uncarried : carrier? lines[place] (number + place) = .none := by
    refine Option.eq_none_iff_forall_ne_some.mpr fun c carries => ?_
    have carried : c ∈ carriersFrom number lines :=
      mem_carriersFrom_iff.mpr ⟨place, _, List.getElem?_eq_getElem bound, carries⟩
    rw [none] at carried
    cases carried
  exact carrier?_eq_none_iff.mp uncarried

/-! ## Reading one line -/

/-- A carrier is read to the claim it makes. -/
lemma result_read?_of_makes (carries : carrier? line number = some c) (short : c.Short)
    {claim : Claim} (makes : c.Makes claim) :
    (Claim.read? line number).result = .ok (some claim) := by
  obtain ⟨rfl, text_eq, fields⟩ := carrier?_eq_some_iff.mp carries
  obtain ⟨digits, unit, token_eq, nonempty, digital, noDigit, rfl⟩ := makes
  have split : PageSize.split? c.token = some (digits, unit) :=
    PageSize.split?_eq_some_iff.mpr ⟨token_eq, nonempty, digital, noDigit⟩
  have few : digits.length ≤ Numeral.maxDigits := by
    have taken : c.token.takeWhile Text.isDigit = digits := by
      rw [token_eq, List.takeWhile_append_of_pos (List.all_eq_true.mp digital)]
      simp [noDigit]
    rw [Carrier.Short, taken] at short
    exact short
  rw [text_eq] at fields
  simp only [Claim.result_read?, fields, PageSize.result_inKB, split,
    Numeral.read_of_length_le few, text_eq]
  rfl

/-- A malformed carrier is read to a defect that quotes its token and names its line. -/
lemma result_read?_of_malformed (carries : carrier? line number = some c)
    (malformed : c.Malformed) :
    (Claim.read? line number).result =
      .error (.finding (.trace (.malformedSize c.token) (some (c.number : Int)))) := by
  obtain ⟨rfl, text_eq, fields⟩ := carrier?_eq_some_iff.mp carries
  rw [text_eq] at fields
  simp only [Claim.result_read?, fields, PageSize.result_inKB, Carrier.malformed_iff.mp malformed]
  rfl

end

/-! ## Single pulls -/

section pull

variable {line : Text} {behind : List Text} {consumed : Nat} {journal : Option Journal}

/-- The first line of a trace is read on its own: the journal decides nothing of it. -/
lemma pullFrom_cons :
    pullFrom consumed journal (line :: behind) =
      let journal' := Journal.addAll? journal (Claim.read? line (consumed + 1)).notes
      match (Claim.read? line (consumed + 1)).result with
      | .ok none => pullFrom (consumed + 1) journal' behind
      | .ok (some claim) =>
        (.ok (some claim), { rest := behind, consumed := consumed + 1, journal := journal' })
      | .error fault =>
        (.error fault, { rest := [], consumed := consumed + 1, journal := journal' }) := by
  rw [pullFrom, (Claim.oblivious_read? line (consumed + 1)).on_eq]
  rcases (Claim.read? line (consumed + 1)).result with fault | (_ | claim) <;> rfl

/-- Lines that carry nothing are passed over in the same pull. -/
lemma pullFrom_append {barren : List Text}
    (idle : ∀ line ∈ barren, Claim.fields? (Text.chomp line) = none) (lines : List Text) :
    pullFrom consumed journal (barren ++ lines) =
      pullFrom (consumed + barren.length) journal lines := by
  induction barren generalizing consumed with
  | nil => rfl
  | cons line barren ih =>
    obtain ⟨idle_line, idle⟩ := List.forall_mem_cons.mp idle
    have unread : (Claim.read? line (consumed + 1)).on journal = (.ok none, journal) := by
      simp only [Claim.read?, idle_line]
      rfl
    rw [List.cons_append, pullFrom, unread]
    show pullFrom (consumed + 1) journal (barren ++ lines) = _
    rw [ih idle, List.length_cons, Nat.add_right_comm, Nat.add_assoc]

end pull

/-- The trace after some pulls, whatever came of them. -/
def afterPulls (t : Trace) : Nat → Trace
  | 0 => t
  | pulls + 1 => (t.afterPulls pulls).pull.2

/-- Nothing can be pulled any more, and pulling changes nothing. -/
def Ended (t : Trace) : Prop := t.pull = (.ok none, t)

/-- A trace that is read to the end has ended. -/
lemma ended_of_rest {t : Trace} (read : t.rest = []) : t.Ended := by
  obtain ⟨rest, consumed, journal⟩ := t
  cases read
  rfl

/-- The trace of these lines after pulls that took so many of its carriers: it has read the lines
through the last of these, and the other carriers are still to come. -/
structure Standing (lines : List Text) (taken : Nat) (t : Trace) : Prop where
  rest : t.rest = lines.drop t.consumed
  ahead : carriersFrom (t.consumed + 1) t.rest = (carriers lines).drop taken
  consumed_le : t.consumed ≤ lines.length

/-- A fresh trace stands before its first carrier. -/
lemma standing_fresh (lines : List Text) (journal : Option Journal) :
    Standing lines 0 { rest := lines, journal } :=
  ⟨rfl, rfl, Nat.zero_le _⟩

section standing

variable {lines : List Text} {taken : Nat} {t : Trace} {c : Carrier}

/-- The next pull comes to the next carrier. -/
lemma Standing.exists_next (standing : Standing lines taken t)
    (next : (carriers lines)[taken]? = some c) :
    ∃ barren line behind, t.rest = barren ++ line :: behind ∧
      (∀ idle ∈ barren, Claim.fields? (Text.chomp idle) = none) ∧
      t.consumed + barren.length + 1 = c.number ∧ carrier? line c.number = some c ∧
      Standing lines (taken + 1) { rest := behind, consumed := c.number, journal := none } := by
  obtain ⟨bound, here⟩ := List.getElem?_eq_some_iff.mp next
  have first := standing.ahead
  rw [List.drop_eq_getElem_cons bound, here] at first
  obtain ⟨barren, line, behind, rest_eq, idle, carries, ahead⟩ := exists_first_carrier first
  have number : t.consumed + barren.length + 1 = c.number := by
    rw [(carrier?_eq_some_iff.mp carries).1]
    omega
  have shifted : t.consumed + 1 + barren.length = c.number := by omega
  rw [shifted] at carries ahead
  refine ⟨barren, line, behind, rest_eq, idle, number, carries, ?_, ahead, ?_⟩
  · -- What is behind the carrier is what is left without the lines through it.
    have dropped : behind = t.rest.drop (barren.length + 1) := by
      rw [rest_eq, List.drop_append]
      simp
    rw [dropped, standing.rest, List.drop_drop, ← Nat.add_assoc, number]
  · have length_eq := congrArg List.length (standing.rest.symm.trans rest_eq)
    simp only [List.length_drop, List.length_append, List.length_cons] at length_eq
    show c.number ≤ lines.length
    omega

/-- A pull takes the next carrier, if it makes a claim. -/
lemma Standing.pull_of_makes (standing : Standing lines taken t)
    (next : (carriers lines)[taken]? = some c) (short : c.Short) {claim : Claim}
    (makes : c.Makes claim) :
    t.pull.1 = .ok (some claim) ∧ t.pull.2.consumed = c.number ∧
      Standing lines (taken + 1) t.pull.2 := by
  obtain ⟨barren, line, behind, rest_eq, idle, number, carries, next⟩ := standing.exists_next next
  have read := result_read?_of_makes carries short makes
  rw [pull, rest_eq, pullFrom_append idle, pullFrom_cons, number, read]
  exact ⟨rfl, rfl, next.rest, next.ahead, next.consumed_le⟩

/-- A pull is stopped by the next carrier, if it is malformed. -/
lemma Standing.pull_of_malformed (standing : Standing lines taken t)
    (next : (carriers lines)[taken]? = some c) (malformed : c.Malformed) :
    t.pull.1 = .error (.finding (.trace (.malformedSize c.token) (some (c.number : Int)))) ∧
      t.pull.2.consumed = c.number ∧ t.pull.2.Ended := by
  obtain ⟨barren, line, behind, rest_eq, idle, number, carries, -⟩ := standing.exists_next next
  have read := result_read?_of_malformed carries malformed
  rw [pull, rest_eq, pullFrom_append idle, pullFrom_cons, number, read]
  exact ⟨rfl, rfl, ended_of_rest rfl⟩

/-- Without a carrier to come, a pull reads the trace to its end. -/
lemma Standing.pull_of_none (standing : Standing lines taken t)
    (last : taken = (carriers lines).length) :
    t.pull.1 = .ok none ∧ t.pull.2.consumed = lines.length ∧ t.pull.2.Ended := by
  have ahead := standing.ahead
  rw [last, List.drop_length] at ahead
  have passed : pullFrom t.consumed t.journal (t.rest ++ []) =
      pullFrom (t.consumed + t.rest.length) t.journal [] :=
    pullFrom_append (barren_of_carriersFrom ahead) []
  rw [List.append_nil] at passed
  rw [pull, passed]
  refine ⟨rfl, ?_, ended_of_rest rfl⟩
  show t.consumed + t.rest.length = lines.length
  rw [standing.rest, List.length_drop, Nat.add_sub_cancel' standing.consumed_le]

/-- As many pulls as there are carriers that make a claim take these. -/
lemma standing_afterPulls (fresh : Standing lines 0 t) (short : ∀ c ∈ carriers lines, c.Short)
    {before after : List Carrier} (split : carriers lines = before ++ after)
    (made : ∀ c ∈ before, ∃ claim, c.Makes claim) :
    Standing lines before.length (t.afterPulls before.length) := by
  -- The last pull is the one after all others, so the induction takes carriers off the end.
  induction before using List.reverseRecOn generalizing after with
  | nil => exact fresh
  | append_singleton before c ih =>
    rw [List.append_assoc, List.singleton_append] at split
    have standing := ih split fun c mem => made c (List.mem_append_left _ mem)
    obtain ⟨claim, makes⟩ := made c (List.mem_append_right _ (List.mem_singleton_self c))
    have next : (carriers lines)[before.length]? = some c := by
      rw [split, List.getElem?_append_right (Nat.le_refl _), Nat.sub_self]
      rfl
    have carried : c ∈ carriers lines := split ▸ List.mem_append_right _ List.mem_cons_self
    rw [List.length_append, List.length_singleton]
    exact (standing.pull_of_makes next (short c carried) makes).2.2

end standing

/-- **The pulls follow the carriers.** The carriers of a trace are its lines with both fields, in
their order. If none of their numerals is too long to be read, each pull takes one carrier: the one
behind those that were taken before. It gives the claim of that line alone, and the trace is read
through that line and no further. A malformed carrier stops the pull that comes to it, with its
number, and the trace has then been read through it. Where no carrier is malformed, the pull after
the last of them ends the trace, all of which has then been read. After either end nothing more is
given and nothing more is read. -/
theorem pulls_follow_carriers (lines : List Text) (journal : Option Journal)
    (short : ∀ c ∈ carriers lines, c.Short) :
    let t : Trace := { rest := lines, journal }
    ((carriers lines).Pairwise (·.number < ·.number) ∧
      ∀ c, c ∈ carriers lines ↔ ∃ place line, lines[place]? = some line ∧ c.number = place + 1 ∧
        c.text = Text.chomp line ∧ Claim.fields? c.text = some (c.address, c.token)) ∧
    (∀ before c after, carriers lines = before ++ c :: after →
      (∀ earlier ∈ before, ∃ claim, earlier.Makes claim) →
      let pulled := (t.afterPulls before.length).pull
      pulled.2.consumed = c.number ∧
        (∀ claim, c.Makes claim →
          pulled.1 = .ok (some claim) ∧ pulled.2.rest = lines.drop c.number) ∧
        (c.Malformed →
          pulled.1 = .error (.finding (.trace (.malformedSize c.token) (some (c.number : Int)))) ∧
          pulled.2.Ended)) ∧
    ((∀ c ∈ carriers lines, ∃ claim, c.Makes claim) →
      let pulled := (t.afterPulls (carriers lines).length).pull
      pulled.1 = .ok none ∧ pulled.2.consumed = lines.length ∧ pulled.2.Ended) := by
  intro t
  have fresh : Standing lines 0 t := standing_fresh lines journal
  refine ⟨⟨pairwise_carriersFrom 1 lines, fun c => ?_⟩, ?_, ?_⟩
  · rw [carriers, mem_carriersFrom_iff]
    simp only [carrier?_eq_some_iff, Nat.add_comm 1]
  · intro before c after split made pulled
    have standing := standing_afterPulls fresh short split made
    have next : (carriers lines)[before.length]? = some c := by simp [split]
    have carried : c ∈ carriers lines := split ▸ List.mem_append_right _ List.mem_cons_self
    by_cases makes : ∃ claim, c.Makes claim
    · obtain ⟨claim, makes⟩ := makes
      obtain ⟨-, consumed, -⟩ := standing.pull_of_makes next (short c carried) makes
      refine ⟨consumed, fun claim makes => ?_, fun malformed => absurd makes (malformed claim)⟩
      obtain ⟨given, -, standing'⟩ := standing.pull_of_makes next (short c carried) makes
      exact ⟨given, consumed ▸ standing'.rest⟩
    · have malformed : c.Malformed := not_exists.mp makes
      obtain ⟨stopped, consumed, ended⟩ := standing.pull_of_malformed next malformed
      exact ⟨consumed, fun claim makes => absurd makes (malformed claim),
        fun _ => ⟨stopped, ended⟩⟩
  · intro made
    have standing := standing_afterPulls fresh short (List.append_nil _).symm made
    exact standing.pull_of_none rfl

/-- Of these lines three carry a claim. The first pull passes over a line, and the third is stopped
by the fifth line, with the claim behind it unread. -/
theorem third_pull_is_stopped :
    let lines : List Text :=
      ["base=0x10 size=8M", "base=0x20 page_size=4K\n", "base=0x30 page_size=2m\n\n", "",
        "base=0x40 page_size=4KB", "base=0x50 page_size=4K"]
    let t : Trace := { rest := lines, journal := some { threshold := .debug } }
    (∀ c ∈ carriers lines, c.Short) ∧
      t.pull.1 =
        .ok (some
          { address := 0x20, pageSize := 4, line := 2
            text := ("base=0x20 page_size=4K" : Text) }) ∧
      t.pull.2.consumed = 2 ∧ (t.afterPulls 1).pull.2.consumed = 3 ∧
      (t.afterPulls 2).pull.1 = .error (.finding (.trace (.malformedSize "4KB") (some 5))) ∧
      (t.afterPulls 2).pull.2.consumed = 5 := by
  intro lines t
  have short : ∀ c ∈ carriers lines, c.Short := by decide +kernel
  let first : Carrier := ⟨2, "base=0x20 page_size=4K", 0x20, "4K"⟩
  let second : Carrier := ⟨3, "base=0x30 page_size=2m", 0x30, "2m"⟩
  let third : Carrier := ⟨5, "base=0x40 page_size=4KB", 0x40, "4KB"⟩
  let fourth : Carrier := ⟨6, "base=0x50 page_size=4K", 0x50, "4K"⟩
  have all : carriers lines = [first, second, third, fourth] := by decide +kernel
  have makes : first.Makes
      { address := 0x20, pageSize := 4, line := 2, text := ("base=0x20 page_size=4K" : Text) } :=
    ⟨"4", 'K', by decide +kernel⟩
  have makes' : second.Makes
      { address := 0x30, pageSize := 2048, line := 3
        text := ("base=0x30 page_size=2m" : Text) } :=
    ⟨"2", 'm', by decide +kernel⟩
  have malformed : third.Malformed := Carrier.malformed_iff.mpr (by decide +kernel)
  obtain ⟨-, follows, -⟩ := pulls_follow_carriers lines (some { threshold := .debug }) short
  obtain ⟨consumed, given, -⟩ := follows [] first _ all nofun
  obtain ⟨consumed', -⟩ := follows [first] second _ all (by simpa using ⟨_, makes⟩)
  obtain ⟨consumed'', -, stops⟩ := follows [first, second] third _ all
    (by simpa using ⟨⟨_, makes⟩, ⟨_, makes'⟩⟩)
  exact ⟨short, (given _ makes).1, consumed, consumed', (stops malformed).1, consumed''⟩

end PageAudit.Trace
