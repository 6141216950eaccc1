import PageAudit.Text.Case
import PageAudit.Text.Fields
import PageAudit.Text.Quoted

/-!
# Punycode

A spelling of texts in letters, digits and hyphens of ASCII. The ASCII of a text comes first, then
a hyphen, then how its other code points are inserted: in the order of their numbers, each told by
its distance from the one before in a count over all numbers and places. Such a distance is written
in digits of 36 values, the last of which is known by being small.
-/

namespace PageAudit.HostName.Punycode

/-! ## Digits -/

/-- The digit of a value below 36. -/
def digit (value : Nat) : CodePoint := .ofNat (if value < 26 then 0x61 + value else 0x16 + value)

/-- The value of a digit, in either case. -/
def digitValue? (c : CodePoint) : Option Nat :=
  let n := c.toNat
  if 0x61 ≤ n ∧ n ≤ 0x7a then some (n - 0x61)
  else if 0x41 ≤ n ∧ n ≤ 0x5a then some (n - 0x41)
  else if 0x30 ≤ n ∧ n ≤ 0x39 then some (n - 0x16)
  else none

/-! ## Numbers -/

/-- The least value of a digit at a place that is not the last of its number. -/
def threshold (bias place : Nat) : Nat := max 1 (min 26 (36 * (place + 1) - bias))

/-- A digit of value zero is always the last. -/
theorem threshold_pos (bias place : Nat) : 0 < threshold bias place := by
  unfold threshold
  omega

/-- What is wrong with a spelling. -/
inductive Fault where
  /-- It ends within a number. -/
  | incomplete
  /-- It has another character where a digit should be. -/
  | badDigit (c : CodePoint)
  /-- It tells a code point past the last. -/
  | pastLast (code : Nat)
  deriving DecidableEq, Repr

/-- The fault in words. -/
def Fault.message : Fault → Text
  | .incomplete => "incomplete punicode string"
  | .badDigit c => "Invalid extended code point '" ++ Text.upperChar c ++ "'"
  | .pastLast code => "Invalid character U+" ++ Text.hexDigits code

/-- The digits of a number from a place on, the least significant first. -/
def writeNumber (bias place n : Nat) : Text :=
  let least := threshold bias place
  if n < least then [digit n]
  else
    digit (least + (n - least) % (36 - least)) ::
      writeNumber bias (place + 1) ((n - least) / (36 - least))
termination_by n
decreasing_by
  have pos := threshold_pos bias place
  exact Nat.lt_of_le_of_lt (Nat.div_le_self _ _) (by omega)

/-- Reads the digits of a number from a place on, where one counts `weight`, and adds it to a sum.
Tells what follows the number, too. -/
def readNumber (bias place weight sum : Nat) : Text → Except Fault (Nat × Text)
  | [] => .error .incomplete
  | c :: rest =>
    match digitValue? c with
    | none => .error (.badDigit c)
    | some value =>
      let least := threshold bias place
      if value < least then .ok (sum + value * weight, rest)
      else readNumber bias (place + 1) (weight * (36 - least)) (sum + value * weight) rest

/-- Reading a number uses something up. -/
theorem length_lt_of_readNumber {bias place weight sum n : Nat} {t rest : Text}
    (h : readNumber bias place weight sum t = .ok (n, rest)) : rest.length < t.length := by
  induction t generalizing place weight sum with
  | nil => cases h
  | cons c t ih =>
    unfold readNumber at h
    split at h
    · cases h
    · dsimp only at h
      split at h
      · cases h
        exact Nat.lt_succ_self _
      · exact Nat.lt_succ_of_lt (ih h)

/-! ## The bias -/

/-- Divides a distance by 35 until it is small, and tells how often. -/
def shrink (distance : Nat) : Nat × Nat :=
  if 455 < distance then
    let (rest, times) := shrink (distance / 35)
    (rest, times + 1)
  else (distance, 0)
termination_by distance
decreasing_by exact Nat.div_lt_self (by omega) (by omega)

/-- The bias after a distance, when the text has `count` code points. The first distance is mostly
much longer than those that follow. -/
def adapt (first : Bool) (distance count : Nat) : Nat :=
  let part := if first then distance / 700 else distance / 2
  let (rest, times) := shrink (part + part / count)
  36 * times + 36 * rest / (rest + 38)

/-- The bias of the first number. -/
def firstBias : Nat := 72

/-! ## Writing -/

/-- The number of the first code point beyond ASCII. -/
def firstWide : Nat := 0x80

/-- Puts a number among others in ascending order, unless it is there. -/
def insertOnce (n : Nat) : List Nat → List Nat
  | [] => [n]
  | m :: rest =>
    if n < m then n :: m :: rest else if n = m then m :: rest else m :: insertOnce n rest

/-- The distances between the places in a text where a code point is inserted, the first of which
starts from `distance`, and the distance from the last of them to the end. Only the code points of
lower numbers count, since the others are inserted later. -/
def distancesOf (code distance : Nat) : List Nat → List Nat × Nat
  | [] => ([], distance)
  | c :: rest =>
    if c < code then distancesOf code (distance + 1) rest
    else if c = code then
      let (distances, left) := distancesOf code 0 rest
      (distance :: distances, left)
    else distancesOf code distance rest

/-- The distances at which code points are inserted into a text, in the ascending order in which
they are given; the count has come to `code`, and to `distance` in it. -/
def distances (codes : List Nat) (code distance : Nat) : List Nat → List Nat
  | [] => []
  | next :: later =>
    let places := codes.countP (· < next) + 1
    let (found, left) := distancesOf next (distance + (next - code) * places) codes
    found ++ distances codes (next + 1) (left + 1) later

/-- Writes distances, when the text has `count` code points before the first. -/
def writeDistances (first : Bool) (bias count : Nat) : List Nat → Text
  | [] => []
  | distance :: rest =>
    writeNumber bias 0 distance ++
      writeDistances false (adapt first distance (count + 1)) (count + 1) rest

/-- The spelling of a text. -/
def encode (t : Text) : Text :=
  let codes := t.map CodePoint.toNat
  let plain := t.filter (·.toNat < firstWide)
  let wide := (codes.filter (firstWide ≤ ·)).foldr insertOnce []
  let tail := writeDistances true firstBias plain.length (distances codes firstWide 0 wide)
  if plain = [] then tail else plain ++ "-" ++ tail

/-! ## Reading -/

/-- Inserts code points into a text: the last was `code`, and the next may stand at `index`. -/
def insertAll (first : Bool) (bias code index : Nat) (made : List Nat) (t : Text) :
    Except Fault (List Nat) :=
  match t with
  | [] => .ok made
  | c :: rest =>
    match h : readNumber bias 0 1 0 (c :: rest) with
    | .error fault => .error fault
    | .ok (distance, left) =>
      let count := made.length + 1
      let place := (index + distance) % count
      let next := code + (index + distance) / count
      if 0x10ffff < next then .error (.pastLast next)
      else
        insertAll false (adapt first distance count) next (place + 1) (made.insertIdx place next)
          left
termination_by t.length
decreasing_by exact length_lt_of_readNumber h

/-- The text that a spelling stands for. -/
def decode (spelling : Text) : Except Fault Text :=
  let (plain, tail) := Text.cutAtLast '-' spelling
  let made := (plain.getD []).map CodePoint.toNat
  (insertAll true firstBias firstWide 0 made tail).map fun codes => codes.map CodePoint.ofNat

end PageAudit.HostName.Punycode
