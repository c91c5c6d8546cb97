/-
**Writing JSON.**

A value is written on one line in ASCII: a comma and a space between items, a colon and a space after
a name. Quote, backslash, line feed, carriage return, tab, form feed and backspace have escapes of
their own; all else outside printable ASCII is written by its UTF-16 code units. Bytes have no place in
JSON and are null.
-/

import AlarmFeed.Number.Shortest
import AlarmFeed.Value

namespace AlarmFeed.Json

/-- Numbers in JSON. -/
def numberStyle : NumberStyle :=
  ⟨-4, 16, 2, "Infinity", "NaN"⟩

/-- A UTF-16 code unit by its number. -/
def writeUnit (unit : Nat) : Text :=
  '\\' :: 'u' :: Text.hex 4 unit

/-- A code point inside quotes. -/
def writePoint (c : CodePoint) : Text :=
  if c = '"' then "\\\""
  else if c = '\\' then "\\\\"
  else if c = '\n' then "\\n"
  else if c = '\r' then "\\r"
  else if c = '\t' then "\\t"
  else if c.val = 0x0C then "\\f"
  else if c.val = 0x08 then "\\b"
  else if 0x20 ≤ c.val ∧ c.val < 0x7F then [c]
  else if c.val < 0x10000 then writeUnit c.val
  else writeUnit (0xD800 + (c.val - 0x10000) / 0x400) ++ writeUnit (0xDC00 + (c.val - 0x10000) % 0x400)

/-- A text between quotes. -/
def writeText (t : Text) : Text :=
  '"' :: (t.flatMap writePoint ++ [CodePoint.ofChar '"'])

mutual

/-- A value. -/
def write : Value → Text
  | .null => "null"
  | .bool true => "true"
  | .bool false => "false"
  | .int n => Decimal.ofInt n
  | .number x => numberStyle.write x
  | .text t => writeText t
  | .bytes _ => "null"
  | .list items => '[' :: (Text.joinWith ", " (writeItems items) ++ [CodePoint.ofChar ']'])
  | .object members => '{' :: (Text.joinWith ", " (writeMembers members) ++ [CodePoint.ofChar '}'])

/-- Each item of a list. -/
def writeItems : List Value → List Text
  | [] => []
  | item :: items => write item :: writeItems items

/-- Each member of an object. -/
def writeMembers : List (Text × Value) → List Text
  | [] => []
  | (name, value) :: members =>
    (writeText name ++ (": " : Text) ++ write value) :: writeMembers members

end

end AlarmFeed.Json
