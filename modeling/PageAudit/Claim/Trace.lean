import PageAudit.Claim.Line
import PageAudit.PageSize

/-!
# Claims and traces

A claim says which page size a trace gives for an address. A trace is read one line at a time and
only as far as claims are asked for: `pull` takes lines until one makes a claim.
-/

namespace PageAudit

/-- That the memory at an address uses pages of a size. -/
structure Claim where
  address : Int
  /-- The page size in KB. -/
  pageSize : Int
  /-- The number of the trace line that makes the claim. -/
  line : Int := 0
  /-- That line. -/
  text : Text := ""
  deriving DecidableEq, Repr

/-- The claim that a trace line makes, if it makes one. -/
def Claim.read? (line : Text) (number : Nat) : Logged Fault (Option Claim) := do
  let text := Text.chomp line
  match Claim.fields? text with
  | none => return none
  | some (address, token) =>
    Logged.note .debug "trace" ("From logfile: " ++ text) (some number)
    let pageSize ← PageSize.inKB token (some number)
    return some { address, pageSize, line := number, text }

/-- A trace that has been read up to some line. -/
structure Trace where
  /-- The lines not yet read. -/
  rest : List Text
  /-- How many lines were read. -/
  consumed : Nat := 0
  journal : Option Journal := none

namespace Trace

/-- Reads lines until one makes a claim; `none` once no line is left. Nothing more can be read
after a line that cannot be read as the claim it makes. -/
def pullFrom (consumed : Nat) (journal : Option Journal) :
    List Text → Except Fault (Option Claim) × Trace
  | [] => (.ok none, { rest := [], consumed, journal })
  | line :: rest =>
    match (Claim.read? line (consumed + 1)).on journal with
    | (.ok none, journal) => pullFrom (consumed + 1) journal rest
    | (.ok (some claim), journal) => (.ok (some claim), { rest, consumed := consumed + 1, journal })
    | (.error fault, journal) => (.error fault, { rest := [], consumed := consumed + 1, journal })

/-- The next claim of a trace. -/
def pull (t : Trace) : Except Fault (Option Claim) × Trace :=
  pullFrom t.consumed t.journal t.rest

/-- The claims of at most `limit` pulls, what ended them before that, and the trace after them. -/
def takeClaims : Nat → Trace → List Claim × Option Fault × Trace
  | 0, t => ([], none, t)
  | limit + 1, t =>
    match t.pull with
    | (.ok none, t) => ([], none, t)
    | (.error fault, t) => ([], some fault, t)
    | (.ok (some claim), t) =>
      let (claims, fault, t) := takeClaims limit t
      (claim :: claims, fault, t)

end Trace

end PageAudit
