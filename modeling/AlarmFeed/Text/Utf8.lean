/-
**UTF-8.**

`encode` writes a text in UTF-8, one to four bytes for each code point, and `utf8Length` counts those
bytes. `decode` reads bytes back: it refuses overlong forms and numbers past the last code point, and
says at which bytes it stopped and why. Surrogates have no place in UTF-8; `decode` refuses them unless
it is told to let them pass. `decodeLeniently` reads all bytes and marks those that are no UTF-8.
-/

import AlarmFeed.Text.Basic

namespace AlarmFeed

/-- A sequence of bytes. -/
abbrev Bytes := List UInt8

namespace Utf8

/-- Why bytes are no UTF-8. -/
inductive Flaw
  | invalidStart
  | invalidContinuation
  | unexpectedEnd
  deriving DecidableEq

/-- Where bytes are no UTF-8, and why. -/
structure Malformed where
  /-- The position of the first byte in question. -/
  first : Nat
  /-- How many bytes are in question. -/
  count : Nat
  /-- The first byte in question. -/
  byte : UInt8
  flaw : Flaw
  deriving DecidableEq

/-- The bytes of one code point. -/
def encodePoint (c : CodePoint) : Bytes :=
  let n := c.val
  let tail (place : Nat) : UInt8 := UInt8.ofNat (0x80 + n / place % 0x40)
  if n < 0x80 then [UInt8.ofNat n]
  else if n < 0x800 then [UInt8.ofNat (0xC0 + n / 0x40), tail 1]
  else if n < 0x10000 then [UInt8.ofNat (0xE0 + n / 0x1000), tail 0x40, tail 1]
  else [UInt8.ofNat (0xF0 + n / 0x40000), tail 0x1000, tail 0x40, tail 1]

/-- The bytes of a text. -/
def encode (t : Text) : Bytes :=
  t.flatMap encodePoint

/-- How many bytes a code point takes. -/
def pointLength (c : CodePoint) : Nat :=
  if c.val < 0x80 then 1 else if c.val < 0x800 then 2 else if c.val < 0x10000 then 3 else 4

/-- How many bytes a text takes. -/
def length (t : Text) : Nat :=
  t.foldl (fun bytes c => bytes + pointLength c) 0

/-- A byte that continues a code point. -/
def isTail (b : UInt8) : Bool :=
  0x80 ≤ b && b ≤ 0xBF

/-- The bytes that may follow the first byte of a code point of three bytes. -/
def isSecondOfThree (surrogates : Bool) (a b : UInt8) : Bool :=
  isTail b && !(a == 0xE0 && b < 0xA0) && (surrogates || !(a == 0xED && 0xA0 ≤ b))

/-- The bytes that may follow the first byte of a code point of four bytes. -/
def isSecondOfFour (a b : UInt8) : Bool :=
  isTail b && !(a == 0xF0 && b < 0x90) && !(a == 0xF4 && 0x90 ≤ b)

/-- The code point that a first byte's own bits and the bytes after it stand for. -/
def assemble (bits : Nat) (tails : Bytes) : CodePoint :=
  CodePoint.ofNat (tails.foldl (fun sum b => 64 * sum + (b.toNat - 0x80)) bits)

/-- Reads bytes from a position on. -/
def decodeFrom (surrogates : Bool) (position : Nat) : Bytes → Except Malformed Text
  | [] => .ok []
  | a :: rest =>
    let stop (count : Nat) (flaw : Flaw) : Except Malformed Text :=
      .error ⟨position, count, a, flaw⟩
    if a < 0x80 then
      (assemble a.toNat [] :: ·) <$> decodeFrom surrogates (position + 1) rest
    else if a < 0xC2 then stop 1 .invalidStart
    else if a < 0xE0 then
      match rest with
      | [] => stop 1 .unexpectedEnd
      | b :: rest =>
        if !isTail b then stop 1 .invalidContinuation
        else (assemble (a.toNat - 0xC0) [b] :: ·) <$> decodeFrom surrogates (position + 2) rest
    else if a < 0xF0 then
      match rest with
      | [] => stop 1 .unexpectedEnd
      | [b] =>
        if !isSecondOfThree surrogates a b then stop 1 .invalidContinuation
        else stop 2 .unexpectedEnd
      | b :: c :: rest =>
        if !isSecondOfThree surrogates a b then stop 1 .invalidContinuation
        else if !isTail c then stop 2 .invalidContinuation
        else (assemble (a.toNat - 0xE0) [b, c] :: ·) <$> decodeFrom surrogates (position + 3) rest
    else if a < 0xF5 then
      match rest with
      | [] => stop 1 .unexpectedEnd
      | [b] =>
        if !isSecondOfFour a b then stop 1 .invalidContinuation else stop 2 .unexpectedEnd
      | [b, c] =>
        if !isSecondOfFour a b then stop 1 .invalidContinuation
        else if !isTail c then stop 2 .invalidContinuation
        else stop 3 .unexpectedEnd
      | b :: c :: d :: rest =>
        if !isSecondOfFour a b then stop 1 .invalidContinuation
        else if !isTail c then stop 2 .invalidContinuation
        else if !isTail d then stop 3 .invalidContinuation
        else
          (assemble (a.toNat - 0xF0) [b, c, d] :: ·) <$> decodeFrom surrogates (position + 4) rest
    else stop 1 .invalidStart

/-- Reads UTF-8; surrogates pass only on request. -/
def decode (surrogates : Bool) (bytes : Bytes) : Except Malformed Text :=
  decodeFrom surrogates 0 bytes

/-- Reads UTF-8 with a replacement character for each run of bytes that is none, given at least as much
fuel as there are bytes. -/
def decodeReplacing : Nat → Bytes → Text
  | 0, _ => []
  | fuel + 1, bytes =>
    match decode false bytes with
    | .ok t => t
    | .error stop =>
      let good := (decode false (bytes.take stop.first)).toOption.getD []
      good ++ CodePoint.ofNat 0xFFFD :: decodeReplacing fuel (bytes.drop (stop.first + stop.count))

/-- Reads UTF-8 with a replacement character for each run of bytes that is none. -/
def decodeLeniently (bytes : Bytes) : Text :=
  decodeReplacing (bytes.length + 1) bytes

/-- What is wrong, in words. -/
def Flaw.message : Flaw → Text
  | .invalidStart => "invalid start byte"
  | .invalidContinuation => "invalid continuation byte"
  | .unexpectedEnd => "unexpected end of data"

end Utf8

end AlarmFeed
