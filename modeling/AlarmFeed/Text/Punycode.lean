/-
**Punycode.**

A label with code points past ASCII is written in letters, digits and hyphens: first its ASCII code
points, then, in ascending order, where each of the others belongs. What is written is the number of
steps to the next place, in digits whose weights adapt to the steps so far.
-/

import AlarmFeed.Text.Basic

namespace AlarmFeed.Punycode

/-- The digit for a value below 36: a letter or, from 26 on, a decimal digit. -/
def digit (n : Nat) : CodePoint :=
  CodePoint.ofNat (if n < 26 then 0x61 + n else 0x30 + (n - 26))

/-- The value of a digit in either case. -/
def value? (c : CodePoint) : Option Nat :=
  if 0x61 ≤ c.val ∧ c.val ≤ 0x7A then some (c.val - 0x61)
  else if 0x41 ≤ c.val ∧ c.val ≤ 0x5A then some (c.val - 0x41)
  else if c.isDigit then some (c.digitValue + 26)
  else none

/-- The least value of a digit that is not the last one. -/
def threshold (bias place : Nat) : Nat :=
  let k := 36 * (place + 1)
  if k ≤ bias + 1 then 1 else if bias + 26 ≤ k then 26 else k - bias

/-- How often a number has to be divided until it is small, and what is left then. -/
def reduce : Nat → Nat → Nat → Nat × Nat
  | 0, delta, rounds => (delta, rounds)
  | fuel + 1, delta, rounds =>
    if 455 < delta then reduce fuel (delta / 35) (rounds + 1) else (delta, rounds)

/-- The bias after some steps, given how many code points are placed and whether these are the first. -/
def adapt (delta count : Nat) (first : Bool) : Nat :=
  let delta := if first then delta / 700 else delta / 2
  let (rest, rounds) := reduce delta (delta + delta / count) 0
  36 * rounds + 36 * rest / (rest + 38)

/-- A number of steps in digits. -/
def writeNumber (bias : Nat) : Nat → Nat → Nat → Text
  | 0, _, _ => []
  | fuel + 1, place, n =>
    let least := threshold bias place
    if n < least then [digit n]
    else digit (least + (n - least) % (36 - least))
      :: writeNumber bias fuel (place + 1) ((n - least) / (36 - least))

/-- What is known in the middle of writing. -/
structure Progress where
  output : Text
  /-- The steps since the last code point that was placed. -/
  steps : Nat := 0
  /-- How many code points are placed. -/
  count : Nat
  bias : Nat := 72
  first : Bool := true

/-- Passes over one code point of a label while those of a given number are placed. -/
def place (point : Nat) (progress : Progress) (c : CodePoint) : Progress :=
  if c.val < point then { progress with steps := progress.steps + 1 }
  else if c.val = point then
    let digits := writeNumber progress.bias (progress.steps + 1) 0 progress.steps
    let count := progress.count + 1
    ⟨progress.output ++ digits, 0, count, adapt progress.steps count progress.first, false⟩
  else progress

/-- Places the code points of a label, those of each number in turn; `last` is the number that came
before. -/
def placeAll (label : Text) : List Nat → Nat → Progress → Progress
  | [], _, progress => progress
  | point :: points, last, progress =>
    let steps := progress.steps + (point - last - 1) * (progress.count + 1)
    let placed := label.foldl (place point) { progress with steps := steps }
    placeAll label points point { placed with steps := placed.steps + 1 }

/-- A label in Punycode. -/
def encode (label : Text) : Text :=
  let basic := label.filter fun c => c.val < 0x80
  let others := (label.filter fun c => 0x80 ≤ c.val).map fun c => c.val
  let points := (others.mergeSort fun a b => a ≤ b).eraseDups
  let start : Text := if basic = [] then [] else basic ++ [CodePoint.ofChar '-']
  (placeAll label points 0x7F { output := start, count := basic.length }).output

/-- Reads a number of steps: the number and the rest of the digits. -/
def readNumber (bias : Nat) : Nat → Nat → Nat → Text → Option (Nat × Text)
  | _, _, _, [] => none
  | place, weight, sum, c :: rest =>
    match value? c with
    | none => none
    | some value =>
      let sum := sum + value * weight
      let least := threshold bias place
      if value < least then some (sum, rest)
      else readNumber bias (place + 1) (weight * (36 - least)) sum rest

/-- Reads the places of code points, given as much fuel as there are digits. -/
def decodeFrom : Nat → Text → Nat → Nat → Nat → Bool → Text → Option Text
  | 0, _, _, _, _, _, _ => none
  | _, label, _, _, _, _, [] => some label
  | fuel + 1, label, point, position, bias, first, digits => do
    let (steps, rest) ← readNumber bias 0 1 0 digits
    let count := label.length + 1
    let place := position + steps
    let point := point + place / count
    if 0x110000 ≤ point then none
    else
      let position := place % count
      let label := label.take position ++ CodePoint.ofNat point :: label.drop position
      decodeFrom fuel label point (position + 1) (adapt steps count first) false rest

/-- The label that is written in Punycode. -/
def decode? (t : Text) : Option Text :=
  let behind := (t.reverse.takeWhile fun (c : CodePoint) => c != '-').reverse
  let basic := t.take (t.length - behind.length - 1)
  decodeFrom (t.length + 1) basic 0x80 0 72 true behind

end AlarmFeed.Punycode
