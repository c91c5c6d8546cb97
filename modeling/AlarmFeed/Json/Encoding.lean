/-
**JSON in bytes.**

JSON may arrive in UTF-8, UTF-16 or UTF-32. A byte order mark settles which; without one the zero
bytes among the first four do, since JSON starts with ASCII. Surrogates pass in every encoding, as
they do in escapes.

UTF-16 and UTF-32 are read in either byte order. Surrogates that have no partner pass; a code unit that
is cut off, or a number past the last code point, is refused.
-/

import AlarmFeed.Json.Reader
import AlarmFeed.Text.Utf8

namespace AlarmFeed.Wide

/-- The order of the bytes of a code unit. -/
inductive ByteOrder
  | big
  | little
  deriving DecidableEq

/-- The code units of two bytes; none if a byte is left over. -/
def units16? (order : ByteOrder) : Bytes → Option (List CodePoint)
  | [] => some []
  | [_] => none
  | a :: b :: rest =>
    let unit := match order with
      | .big => 256 * a.toNat + b.toNat
      | .little => 256 * b.toNat + a.toNat
    (CodePoint.ofNat unit :: ·) <$> units16? order rest

/-- Joins each high surrogate with a low one that follows it. -/
def joinPairs : List CodePoint → Text
  | [] => []
  | [unit] => [unit]
  | high :: low :: rest =>
    if high.isHighSurrogate && low.isLowSurrogate then .ofPair high low :: joinPairs rest
    else high :: joinPairs (low :: rest)

/-- Reads UTF-16. -/
def decode16? (order : ByteOrder) (bytes : Bytes) : Option Text :=
  (units16? order bytes).map joinPairs

/-- Reads UTF-32. -/
def decode32? (order : ByteOrder) : Bytes → Option Text
  | [] => some []
  | a :: b :: c :: d :: rest =>
    let number (w x y z : UInt8) : Nat :=
      ((w.toNat * 256 + x.toNat) * 256 + y.toNat) * 256 + z.toNat
    let point := match order with
      | .big => number a b c d
      | .little => number d c b a
    if point < 0x110000 then (CodePoint.ofNat point :: ·) <$> decode32? order rest else none
  | _ => none

end AlarmFeed.Wide

namespace AlarmFeed.Json

/-- The text that bytes say, if they say one. -/
def decode? (bytes : Bytes) : Option Text :=
  let eight (bytes : Bytes) : Option Text := (Utf8.decode true bytes).toOption
  match bytes with
  | 0x00 :: 0x00 :: 0xFE :: 0xFF :: rest => Wide.decode32? .big rest
  | 0xFF :: 0xFE :: 0x00 :: 0x00 :: rest => Wide.decode32? .little rest
  | 0xFE :: 0xFF :: rest => Wide.decode16? .big rest
  | 0xFF :: 0xFE :: rest => Wide.decode16? .little rest
  | 0xEF :: 0xBB :: 0xBF :: rest => eight rest
  | a :: b :: c :: d :: rest =>
    if a = 0 then
      if b = 0 then Wide.decode32? .big bytes else Wide.decode16? .big bytes
    else if b = 0 then
      if c = 0 ∧ d = 0 then Wide.decode32? .little bytes else Wide.decode16? .little bytes
    else eight (a :: b :: c :: d :: rest)
  | [a, b] =>
    if a = 0 then Wide.decode16? .big bytes
    else if b = 0 then Wide.decode16? .little bytes
    else eight bytes
  | _ => eight bytes

/-- The value that bytes say, nested no deeper than there are levels. -/
def readBytes (bytes : Bytes) (depth : Nat := depthLimit) : Except ReadError Value :=
  match decode? bytes with
  | some t => read t depth
  | none => .error .malformed

end AlarmFeed.Json
