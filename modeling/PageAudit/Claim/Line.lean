import PageAudit.Numeral
import PageAudit.Text.Blank
import PageAudit.Text.Lead
import PageAudit.Text.Lines

/-!
# The trace lines that make a claim

A line makes a claim if it holds `base=0x` with a hexadecimal numeral and, after that,
`page_size=` with a token. Where a field is repeated the last one counts: the last base that still
has a page size after it, and the last page size. Both fields stand between the same two line
feeds.
-/

namespace PageAudit.Claim

/-- Scans a text for the last place that `f` accepts; `best` is the one found before it. -/
def scanLast {α : Type} (f : Text → Option α) (best : Option α) : Text → Option α
  | [] => best
  | c :: cs => scanLast f ((f (c :: cs)).or best) cs

/-- What `f` reads at the last place of a text that it accepts. -/
def last? {α : Type} (f : Text → Option α) (cs : Text) : Option α := scanLast f none cs

/-- What `f` reads at the last place: what it reads further on or, failing that, here. -/
theorem scanLast_eq {α : Type} (f : Text → Option α) (best : Option α) (cs : Text) :
    scanLast f best cs = (last? f cs).or best := by
  induction cs generalizing best with
  | nil => simp [scanLast, last?]
  | cons c cs ih =>
    simp only [last?, scanLast]
    rw [ih, ih]
    cases last? f cs <;> simp

/-- What stands before a page size. -/
def pageSizeLabel : Text := "page_size="

/-- What stands before a base address. -/
def baseLabel : Text := "base=0x"

/-- The page size token at the front of a text: the longest run without blanks. -/
def tokenHere? (cs : Text) : Option Text :=
  match Text.after? pageSizeLabel cs with
  | none => none
  | some rest =>
    match rest.takeWhile (!Text.isBlank ·) with
    | [] => none
    | t :: token => some (t :: token)

/-- The base address at the front of a text, with the last page size token after it. -/
def baseHere? (cs : Text) : Option (Nat × Text) :=
  match Text.after? baseLabel cs with
  | none => none
  | some rest =>
    match rest.takeWhile Text.isHexDigit with
    | [] => none
    | d :: digits =>
      (last? tokenHere? (rest.dropWhile Text.isHexDigit)).map (Numeral.hexValue (d :: digits), ·)

/-- The base address and the page size token of a text without line feeds. -/
def fieldsIn? (cs : Text) : Option (Nat × Text) := last? baseHere? cs

/-- The base address and the page size token of a line: those of its first part that has them. -/
def fields? (line : Text) : Option (Nat × Text) :=
  (Text.cutLines line).findSome? fieldsIn?

end PageAudit.Claim
