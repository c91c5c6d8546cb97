/-
**Percent escapes.**

A byte is escaped by a percent sign and its two hexadecimal digits. `Percent.quote` escapes every code
point of a text that is not safe, by the bytes of UTF-8, and leaves the escapes that are there;
`Percent.unquote` puts the bytes back, and where they are no UTF-8 a replacement character.
-/

import AlarmFeed.Text.Utf8

namespace AlarmFeed

/-- One upper-case hexadecimal digit. -/
def Text.upperHexDigit (n : Nat) : CodePoint :=
  CodePoint.ofNat (if n < 10 then 0x30 + n else 0x37 + n)

namespace Percent

/-- The escape of a byte. -/
def escapeByte (byte : UInt8) : Text :=
  ['%', Text.upperHexDigit (byte.toNat / 16), Text.upperHexDigit (byte.toNat % 16)]

/-- The escapes of a code point. -/
def escape (c : CodePoint) : Text :=
  (Utf8.encodePoint c).flatMap escapeByte

/-- The byte that an escape stands for. -/
def byte? (percent high low : CodePoint) : Option UInt8 :=
  if percent = '%' then (Text.hexNumber? [high, low]).map UInt8.ofNat else none

/-- Letters, digits and the four signs that are never escaped. -/
def isUnreserved (c : CodePoint) : Bool :=
  c.isLetter || c.isDigit || c == '-' || c == '.' || c == '_' || c == '~'

/-- Escapes what is neither safe nor an escape. -/
def quote (isSafe : CodePoint → Bool) : Text → Text
  | [] => []
  | [c] => point c
  | [c, d] => point c ++ point d
  | percent :: high :: low :: rest =>
    if (byte? percent high low).isSome then percent :: high :: low :: quote isSafe rest
    else point percent ++ quote isSafe (high :: low :: rest)
where
  /-- One code point, escaped unless it is safe. -/
  point (c : CodePoint) : Text := if isUnreserved c || isSafe c then [c] else escape c

/-- The bytes of a text in which escapes stand for theirs. -/
def bytes : Text → Bytes
  | [] => []
  | [c] => Utf8.encodePoint c
  | [c, d] => Utf8.encodePoint c ++ Utf8.encodePoint d
  | percent :: high :: low :: rest =>
    match byte? percent high low with
    | some byte => byte :: bytes rest
    | none => Utf8.encodePoint percent ++ bytes (high :: low :: rest)

/-- What escapes stand for, as text. -/
def unquote (t : Text) : Text :=
  Utf8.decodeLeniently (bytes t)

end Percent

end AlarmFeed
