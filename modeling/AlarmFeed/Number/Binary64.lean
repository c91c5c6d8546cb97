/-
**Binary floating point of 64 bits.**

A finite number is `mantissa · 2 ^ exponent` with a mantissa of at most 53 bits and an exponent of at
least `-1074`. `Binary64.round` takes a positive quotient of natural numbers to the nearest such
number, a tie to the even mantissa; every other operation is exact arithmetic followed by `round`, so
one rounding rule serves decimal notation, whole numbers, sums and products alike.
-/

import AlarmFeed.Number.Decimal

namespace AlarmFeed

/-- A number in binary floating point, with one NaN. -/
inductive Binary64
  | nan
  | infinite (negative : Bool)
  | finite (negative : Bool) (mantissa : Nat) (exponent : Int)
  deriving DecidableEq, Inhabited

namespace Binary64

/-- The least exponent of a mantissa. -/
def leastExponent : Int := -1074

/-- The greatest exponent of a mantissa. -/
def greatestExponent : Int := 971

/-- Zero of either sign. -/
def zero (negative : Bool) : Binary64 :=
  .finite negative 0 leastExponent

/-- A quotient rounded to the nearest natural number, a tie to the even one. -/
def roundQuotient (numerator denominator : Nat) : Nat :=
  let quotient := numerator / denominator
  let twice := 2 * (numerator % denominator)
  if twice < denominator then quotient
  else if denominator < twice then quotient + 1
  else quotient + quotient % 2

/-- The numerator and denominator of a quotient divided by `2 ^ exponent`. -/
def scale (numerator denominator : Nat) (exponent : Int) : Nat × Nat :=
  match exponent with
  | .ofNat e => (numerator, denominator * Nat.pow 2 e)
  | .negSucc e => (numerator * Nat.pow 2 (e + 1), denominator)

/-- The exponent at which the integer part of a positive quotient has 53 bits, if the format has that
exponent. -/
def exponentOf (numerator denominator : Nat) : Int :=
  let guess : Int := (Nat.log2 numerator : Int) - Nat.log2 denominator - 52
  let (n, d) := scale numerator denominator guess
  let exact := if n / d < Nat.pow 2 52 then guess - 1 else guess
  if exact < leastExponent then leastExponent else exact

/-- The number nearest to a quotient, a tie to the even mantissa; too large a quotient is infinite. -/
def round (negative : Bool) (numerator denominator : Nat) : Binary64 :=
  if numerator = 0 then zero negative
  else
    let exponent := exponentOf numerator denominator
    let (n, d) := scale numerator denominator exponent
    let mantissa := roundQuotient n d
    let (mantissa, exponent) :=
      if mantissa = Nat.pow 2 53 then (Nat.pow 2 52, exponent + 1) else (mantissa, exponent)
    if greatestExponent < exponent then .infinite negative else .finite negative mantissa exponent

/-- The number nearest to `digits · 10 ^ power`. Powers far outside the format are settled by the
number of digits, so that no huge power is ever computed. -/
def ofDecimal (negative : Bool) (digits : Nat) (power : Int) : Binary64 :=
  let places : Int := (Decimal.digits digits).length + power
  if digits = 0 then zero negative
  else if 400 < places then .infinite negative
  else if places < -400 then zero negative
  else match power with
    | .ofNat p => round negative (digits * Nat.pow 10 p) 1
    | .negSucc p => round negative digits (Nat.pow 10 (p + 1))

/-- The number nearest to an integer. -/
def ofInt (n : Int) : Binary64 :=
  round (n < 0) n.natAbs 1

/-- Whether a number is neither infinite nor NaN. -/
def isFinite : Binary64 → Bool
  | .finite .. => true
  | _ => false

/-- Whether a number is zero of either sign. -/
def isZero : Binary64 → Bool
  | .finite _ 0 _ => true
  | _ => false

/-- The same number with the other sign. -/
def negate : Binary64 → Binary64
  | .nan => .nan
  | .infinite negative => .infinite (!negative)
  | .finite negative mantissa exponent => .finite (!negative) mantissa exponent

/-- The integer that a number is, if it is one. -/
def toInt? : Binary64 → Option Int
  | .finite negative mantissa exponent =>
    match exponent with
    | .ofNat e => some (Decimal.signed negative (mantissa * Nat.pow 2 e))
    | .negSucc e =>
      let parts := Nat.pow 2 (e + 1)
      if mantissa % parts = 0 then some (Decimal.signed negative (mantissa / parts)) else none
  | _ => none

/-- The number nearest to `sum · 2 ^ exponent`; a sum that vanishes is positive zero. -/
def ofScaled (sum : Int) (exponent : Int) : Binary64 :=
  match exponent with
  | .ofNat e => round (sum < 0) (sum.natAbs * Nat.pow 2 e) 1
  | .negSucc e => round (sum < 0) sum.natAbs (Nat.pow 2 (e + 1))

/-- The rounded sum of two numbers. -/
def add : Binary64 → Binary64 → Binary64
  | .nan, _ => .nan
  | _, .nan => .nan
  | .infinite a, .infinite b => if a = b then .infinite a else .nan
  | .infinite a, .finite .. => .infinite a
  | .finite .., .infinite b => .infinite b
  | .finite a m e, .finite b n f =>
    if m = 0 ∧ n = 0 then zero (a && b)
    else
      let least := min e f
      let sum := Decimal.signed a (m * Nat.pow 2 (e - least).toNat)
        + Decimal.signed b (n * Nat.pow 2 (f - least).toNat)
      ofScaled sum least

/-- The rounded product of two numbers. -/
def mul : Binary64 → Binary64 → Binary64
  | .nan, _ => .nan
  | _, .nan => .nan
  | .infinite a, .infinite b => .infinite (a != b)
  | .infinite a, .finite b n _ => if n = 0 then .nan else .infinite (a != b)
  | .finite a m _, .infinite b => if m = 0 then .nan else .infinite (a != b)
  | .finite a m e, .finite b n f =>
    if m = 0 ∨ n = 0 then zero (a != b)
    else match e + f with
      | .ofNat s => round (a != b) (m * n * Nat.pow 2 s) 1
      | .negSucc s => round (a != b) (m * n) (Nat.pow 2 (s + 1))

end Binary64

end AlarmFeed
