/-
**Base 64.**

`Base64.encode` writes three bytes as four digits and fills the last group of four with signs of
padding. `Base64.decode?` reads such a text and skips whatever is neither a digit nor padding.
-/

import AlarmFeed.Text.Utf8

namespace AlarmFeed.Base64

/-- The digit for a value below 64. -/
def digit (n : Nat) : CodePoint :=
  CodePoint.ofNat <|
    if n < 26 then 0x41 + n
    else if n < 52 then 0x61 + (n - 26)
    else if n < 62 then 0x30 + (n - 52)
    else if n = 62 then 0x2B else 0x2F

/-- The value of a digit. -/
def value? (c : CodePoint) : Option Nat :=
  if 0x41 ≤ c.val ∧ c.val ≤ 0x5A then some (c.val - 0x41)
  else if 0x61 ≤ c.val ∧ c.val ≤ 0x7A then some (c.val - 0x61 + 26)
  else if c.isDigit then some (c.digitValue + 52)
  else if c = '+' then some 62
  else if c = '/' then some 63
  else none

/-- Bytes in base 64. -/
def encode : Bytes → Text
  | [] => []
  | [a] => [digit (a.toNat / 4), digit (a.toNat % 4 * 16), '=', '=']
  | [a, b] =>
    [digit (a.toNat / 4), digit (a.toNat % 4 * 16 + b.toNat / 16), digit (b.toNat % 16 * 4), '=']
  | a :: b :: c :: rest =>
    digit (a.toNat / 4) :: digit (a.toNat % 4 * 16 + b.toNat / 16)
      :: digit (b.toNat % 16 * 4 + c.toNat / 64) :: digit (c.toNat % 64) :: encode rest

/-- The bytes of some digits, four digits for three bytes; none if a digit is left over. -/
def bytesOf? : List Nat → Option Bytes
  | [] => some []
  | [a, b] => some [UInt8.ofNat (4 * a + b / 16)]
  | [a, b, c] => some [UInt8.ofNat (4 * a + b / 16), UInt8.ofNat (16 * b + c / 4)]
  | a :: b :: c :: d :: rest =>
    (bytesOf? rest).map fun bytes =>
      UInt8.ofNat (4 * a + b / 16) :: UInt8.ofNat (16 * b + c / 4) :: UInt8.ofNat (64 * c + d) :: bytes
  | _ => none

/-- The digits of a text up to its padding, given how many digits of a group of four and how many signs
of padding stand in front. What is neither is skipped; padding counts only behind two digits of a group,
and ends the text when it fills the group. None if a group is left unfilled. -/
def digits? (digits padding : Nat) : Text → Option (List Nat)
  | [] => if digits = 0 then some [] else none
  | c :: rest =>
    if c = '=' then
      if digits < 2 then digits? digits padding rest
      else if 4 ≤ digits + padding + 1 then some []
      else digits? digits (padding + 1) rest
    else match value? c with
      | some digit => (digit :: ·) <$> digits? ((digits + 1) % 4) 0 rest
      | none => digits? digits padding rest

/-- The bytes that a text says. -/
def decode? (t : Text) : Option Bytes := do
  bytesOf? (← digits? 0 0 t)

end AlarmFeed.Base64
