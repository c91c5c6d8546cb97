/-
**Decimal notation of integers.**

`Decimal.digits` writes a natural number without leading zeros, `Decimal.ofInt` puts a minus sign in
front of a negative one. `Decimal.value` reads a run of digits. Every integer has a notation, but only
one of at most `Decimal.digitLimit` digits is ever read or printed (`Decimal.Short`).
-/

import AlarmFeed.Text.Basic

namespace AlarmFeed.Decimal

/-- The digit that stands for a number below ten. -/
def digit (n : Nat) : CodePoint :=
  CodePoint.ofNat (0x30 + n)

/-- Writes the digits of a number in front of a text. -/
def digitsOnto (n : Nat) (rest : Text) : Text :=
  if n < 10 then digit n :: rest else digitsOnto (n / 10) (digit (n % 10) :: rest)
termination_by n
decreasing_by omega

/-- The decimal digits of a natural number, the leading one nonzero unless the number is zero. -/
def digits (n : Nat) : Text :=
  digitsOnto n []

/-- The decimal notation of an integer. -/
def ofInt : Int → Text
  | .ofNat n => digits n
  | .negSucc n => '-' :: digits (n + 1)

/-- The number that a run of digits stands for. -/
def value (t : Text) : Nat :=
  t.foldl (fun sum c => 10 * sum + c.digitValue) 0

/-- The integer with a given sign and size. -/
def signed (negative : Bool) (size : Nat) : Int :=
  if negative then -(size : Int) else size

/-- The most digits of an integer that is read or printed. -/
def digitLimit : Nat := 4300

/-- **An integer that can be read and printed**: it does not have too many digits. -/
def Short (n : Int) : Prop :=
  (digits n.natAbs).length ≤ digitLimit

instance (n : Int) : Decidable (Short n) :=
  inferInstanceAs (Decidable (_ ≤ _))

end AlarmFeed.Decimal
