/-
**The fewest decimal digits that read back as the same number.**

`shortest` looks at decimal grids of one digit, two digits, and so on up to seventeen, and stops at
the first grid that has a point which reads back as the given number. Only the two grid points next to
the number can be the nearest ones that do, so only those are tried; if both read back the nearer one
is taken, and of two equally near ones the even one.

`NumberStyle` says how a format writes those digits: between which powers of ten positionally, and how
the exponent looks otherwise.
-/

import AlarmFeed.Number.Binary64

namespace AlarmFeed

/-- A positive decimal number `0.d₁d₂… · 10 ^ point`. -/
structure Digits where
  /-- The digits as one number, without zeros at the end. -/
  figure : Nat
  /-- Where the point stands, counted from the first digit. -/
  point : Int
  deriving DecidableEq

namespace Binary64

/-- A positive finite number as a quotient. -/
def quotient (mantissa : Nat) (exponent : Int) : Nat × Nat :=
  match exponent with
  | .ofNat e => (mantissa * Nat.pow 2 e, 1)
  | .negSucc e => (mantissa, Nat.pow 2 (e + 1))

/-- The power of ten next above a positive quotient: the least `p` with `quotient < 10 ^ p`. -/
def decimalPoint (numerator denominator : Nat) : Int :=
  if denominator ≤ numerator then (Decimal.digits (numerator / denominator)).length
  else 1 - ((Decimal.digits ((denominator - 1) / numerator)).length : Int)

/-- The quotient counted in units of `10 ^ power`. -/
def inUnits (numerator denominator : Nat) (power : Int) : Nat × Nat :=
  match power with
  | .ofNat p => (numerator, denominator * Nat.pow 10 p)
  | .negSucc p => (numerator * Nat.pow 10 (p + 1), denominator)

/-- Drops the zeros at the end of a figure. -/
def dropZeros : Nat → Nat → Nat
  | 0, figure => figure
  | fuel + 1, figure =>
    if figure ≠ 0 ∧ figure % 10 = 0 then dropZeros fuel (figure / 10) else figure

/-- The nearest point of the grid with spacing `10 ^ power` that reads back as the given number, if a
neighbour of the number does. -/
def readsBack? (number : Binary64) (numerator denominator : Nat) (power : Int) : Option Nat :=
  let (n, d) := inUnits numerator denominator power
  let below := n / d
  let reads (figure : Nat) : Bool := ofDecimal false figure power == number
  let nearer := roundQuotient n d
  let other := if nearer = below then below + 1 else below
  if reads nearer then some nearer else if reads other then some other else none

/-- Tries grids of more and more digits. -/
def firstGrid (number : Binary64) (numerator denominator : Nat) (point : Int) : Nat → Nat → Digits
  | 0, _ => ⟨0, 0⟩
  | fuel + 1, count =>
    let power := point - count
    match readsBack? number numerator denominator power with
    | some figure =>
      let places := (Decimal.digits figure).length
      ⟨dropZeros places figure, power + places⟩
    | none => firstGrid number numerator denominator point fuel (count + 1)

/-- The fewest digits that read back as a positive finite number. -/
def shortest (mantissa : Nat) (exponent : Int) : Digits :=
  let (numerator, denominator) := quotient mantissa exponent
  firstGrid (.finite false mantissa exponent) numerator denominator
    (decimalPoint numerator denominator) 17 1

end Binary64

/-- How a format writes floating point numbers. -/
structure NumberStyle where
  /-- The least power of ten whose numbers are written positionally. -/
  positionalFrom : Int
  /-- The first power of ten whose numbers are not. -/
  positionalBelow : Int
  /-- The least number of digits of an exponent. -/
  exponentPlaces : Nat
  /-- The word for infinity. -/
  infinity : Text
  /-- The word for NaN. -/
  nan : Text

namespace NumberStyle

/-- A number of zeros. -/
def zeros (count : Nat) : Text :=
  List.replicate count '0'

/-- Digits with the point among them; a whole number keeps one zero after the point. -/
def positional (figures : Text) (point : Int) : Text :=
  match point with
  | .ofNat 0 => ("0." : Text) ++ figures
  | .ofNat p =>
    if figures.length ≤ p then figures ++ zeros (p - figures.length) ++ (".0" : Text)
    else figures.take p ++ ("." : Text) ++ figures.drop p
  | .negSucc p => ("0." : Text) ++ zeros (p + 1) ++ figures

/-- The exponent of scientific notation, with its sign. -/
def exponent (style : NumberStyle) (power : Int) : Text :=
  let figures := Decimal.digits power.natAbs
  let sign : Text := if power < 0 then "e-" else "e+"
  sign ++ zeros (style.exponentPlaces - figures.length) ++ figures

/-- One digit, the others after a point, and the power of ten. -/
def scientific (style : NumberStyle) (figures : Text) (power : Int) : Text :=
  match figures with
  | [] => style.exponent power
  | [figure] => figure :: style.exponent power
  | figure :: more => figure :: '.' :: (more ++ style.exponent power)

/-- A number without its sign. -/
def unsigned (style : NumberStyle) (mantissa : Nat) (exponent : Int) : Text :=
  if mantissa = 0 then "0.0"
  else
    let found := Binary64.shortest mantissa exponent
    let figures := Decimal.digits found.figure
    let power := found.point - 1
    if style.positionalFrom ≤ power ∧ power < style.positionalBelow then
      positional figures found.point
    else style.scientific figures power

/-- The text of a number. -/
def write (style : NumberStyle) : Binary64 → Text
  | .nan => style.nan
  | .infinite negative => if negative then '-' :: style.infinity else style.infinity
  | .finite negative mantissa exponent =>
    if negative then '-' :: style.unsigned mantissa exponent else style.unsigned mantissa exponent

end NumberStyle

end AlarmFeed
