/-
**Numerals.**

`Numeral.read` reads an integer in a base from two to sixteen: blanks around it, one sign, a mark of
the base, and digits, of any script, with single underscores between them. A decimal numeral has at
most 4300 digits; one that starts with more is too long, whatever follows.

`Binary64.ofText?` reads a number in decimal notation with an optional point and an optional power of
ten, or one of the words for infinity and NaN in either case.
-/

import AlarmFeed.Number.Binary64
import AlarmFeed.Text.Basic
import AlarmFeed.Text.Printable
import AlarmFeed.Text.Word

namespace AlarmFeed

namespace Numeral

/-- Why a text is no numeral. -/
inductive ReadError
  | malformed
  | tooLong (digits : Nat)
  deriving DecidableEq

/-- What is ignored around a numeral: ASCII's blanks and all further spaces past ASCII. -/
def isPadding (c : CodePoint) : Bool :=
  c.isAsciiBlank || (0x80 ≤ c.val && c.isSpace)

/-- The value of a digit below a base. -/
def digitValue? (base : Nat) (c : CodePoint) : Option Nat :=
  match c.decimalValue?.or c.hexValue? with
  | some value => if value < base then some value else none
  | none => none

/-- Whether underscores stand only between other code points, and never two in a row. -/
def underscoresFit (t : Text) : Bool :=
  (Text.splitOn '_' t).all fun piece => !piece.isEmpty

/-- The text without its underscores. -/
def dropUnderscores (t : Text) : Text :=
  t.filter (· != '_')

/-- The letter that marks a base behind a zero. -/
def mark? (base : Nat) : Option CodePoint :=
  if base = 2 then some 'b' else if base = 8 then some 'o' else if base = 16 then some 'x' else none

/-- The text behind a mark of the base, which one underscore may follow. -/
def afterMark (base : Nat) : Text → Text
  | zero :: mark :: rest =>
    if zero = '0' ∧ some mark.lower = mark? base then
      if rest.head? = some (CodePoint.ofChar '_') then rest.drop 1 else rest
    else zero :: mark :: rest
  | t => t

/-- Reads an integer in a base. The digits up to the first code point that is none are counted before
anything is said of what follows them. -/
def read (base : Nat) (t : Text) : Except ReadError Int :=
  let padded := Text.trim isPadding t
  let negative := padded.head? == some (CodePoint.ofChar '-')
  let signed := negative || padded.head? == some (CodePoint.ofChar '+')
  let figures := afterMark base (if signed then padded.drop 1 else padded)
  let run := figures.takeWhile fun (c : CodePoint) => c == '_' || (digitValue? base c).isSome
  let values := run.filterMap (digitValue? base)
  if !underscoresFit run then .error .malformed
  else if base = 10 ∧ Decimal.digitLimit < values.length then .error (.tooLong values.length)
  else if run.length < figures.length then .error .malformed
  else .ok (Decimal.signed negative (values.foldl (fun sum digit => base * sum + digit) 0))

/-- The report on a decimal numeral of too many digits. -/
def tooLongMessage (digits : Nat) : Text :=
  ("Exceeds the limit (4300 digits) for integer string conversion: value has " : Text)
    ++ Decimal.digits digits
    ++ (" digits; use sys.set_int_max_str_digits() to increase the limit" : Text)

/-- The report on a text that is no numeral. Of the quoted text it shows two hundred code points. -/
def ReadError.message (base : Nat) (t : Text) : ReadError → Text
  | .malformed =>
    ("invalid literal for int() with base " : Text) ++ Decimal.digits base ++ (": " : Text)
      ++ t.quoted.take 200
  | .tooLong digits => tooLongMessage digits

end Numeral

namespace Binary64

/-- The words for numbers that have no digits. -/
def ofWord? (negative : Bool) (word : Text) : Option Binary64 :=
  if word = "inf" ∨ word = "infinity" then some (.infinite negative)
  else if word = "nan" then some .nan
  else none

/-- The power of ten that an exponent part says; the empty part says zero. -/
def powerOf? : Text → Option Int
  | [] => some 0
  | mark :: rest =>
    let negative := rest.head? == some (CodePoint.ofChar '-')
    let signed := negative || rest.head? == some (CodePoint.ofChar '+')
    let digits := if signed then rest.drop 1 else rest
    if mark = 'e' ∧ digits ≠ [] ∧ digits.all CodePoint.isDigit then
      some (Decimal.signed negative (Decimal.value digits))
    else none

/-- A number without its sign: digits, a point with or without digits behind it, a power of ten. -/
def ofUnsigned? (negative : Bool) (t : Text) : Option Binary64 :=
  let whole := t.takeWhile CodePoint.isDigit
  let rest := t.drop whole.length
  let point := rest.head? == some (CodePoint.ofChar '.')
  let decimals := if point then (rest.drop 1).takeWhile CodePoint.isDigit else []
  let exponent := if point then rest.drop (1 + decimals.length) else rest
  if whole = [] ∧ decimals = [] then none
  else (powerOf? exponent).map fun power =>
    ofDecimal negative (Decimal.value (whole ++ decimals)) (power - decimals.length)

/-- The number that a text says, in either case of its letters. -/
def ofText? (t : Text) : Option Binary64 :=
  let t := t.lower
  let negative := t.head? == some (CodePoint.ofChar '-')
  let signed := negative || t.head? == some (CodePoint.ofChar '+')
  let unsigned := if signed then t.drop 1 else t
  (ofWord? negative unsigned).or (ofUnsigned? negative unsigned)

end Binary64

end AlarmFeed
