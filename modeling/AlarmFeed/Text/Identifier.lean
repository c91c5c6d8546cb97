/-
**Identifiers.**

An identifier starts with a letter of any script, a letter that is a number or an underscore, and goes on
with those, with digits and with marks; a few code points are exceptions, since an identifier stays one
when its letters are replaced by their plain forms. Whether a letter or a number of any script is a letter
is told by `numeralBounds`: in ascending order, the code points at which it changes among those that are
no decimal digits. The tables are those of Unicode 14.
-/

import AlarmFeed.Text.Mark
import AlarmFeed.Text.Word

namespace AlarmFeed

namespace CodePoint

/-- The code points at which being a number changes among letters and numbers that are no digits. -/
def numeralBounds : List Nat :=
  [
    0xB2, 0xB5, 0xB9, 0xBA, 0xBC, 0xC0, 0x9F4, 0x9FC, 0xB72, 0xB83, 0xBF0, 0xC05, 0xC78, 0xC80,
    0xD58, 0xD5F, 0xD70, 0xD7A, 0xF2A, 0xF40, 0x1369, 0x1380, 0x16EE, 0x16F1, 0x17F0, 0x1820,
    0x19DA, 0x1A00, 0x2070, 0x2071, 0x2074, 0x207F, 0x2080, 0x2090, 0x2150, 0x2183, 0x2185,
    0x2C00, 0x2CFD, 0x2D00, 0x3007, 0x3031, 0x3038, 0x303B, 0x3192, 0x31A0, 0x3220, 0x3400,
    0xA6E6, 0xA717, 0xA830, 0xA840, 0x10107, 0x10280, 0x102E1, 0x10300, 0x10320, 0x1032D,
    0x10341, 0x10342, 0x1034A, 0x10350, 0x103D1, 0x10400, 0x10858, 0x10860, 0x10879, 0x10880,
    0x108A7, 0x108E0, 0x108FB, 0x10900, 0x10916, 0x10920, 0x109BC, 0x109BE, 0x109C0, 0x10A00,
    0x10A40, 0x10A60, 0x10A7D, 0x10A80, 0x10A9D, 0x10AC0, 0x10AEB, 0x10B00, 0x10B58, 0x10B60,
    0x10B78, 0x10B80, 0x10BA9, 0x10C00, 0x10CFA, 0x10D00, 0x10E60, 0x10E80, 0x10F1D, 0x10F27,
    0x10F51, 0x10F70, 0x10FC5, 0x10FE0, 0x11052, 0x11071, 0x111E1, 0x11200, 0x1173A, 0x11740,
    0x118EA, 0x118FF, 0x11C5A, 0x11C72, 0x11FC0, 0x12000, 0x12400, 0x12480, 0x16B5B, 0x16B63,
    0x16E80, 0x16F00, 0x1D2E0, 0x1D400, 0x1E8C7, 0x1E900, 0x1EC71, 0x1EE00, 0x1F100, 0x20000
  ]

/-- The code points at which being a letter changes among numbers that are no digits. -/
def letterNumberBounds : List Nat :=
  [
    0x16EE, 0x17F0, 0x2160, 0x2189, 0x3007, 0x3192, 0xA6E6, 0xA830, 0x10140, 0x10175, 0x10341,
    0x10858, 0x12400, 0x16B5B
  ]

/-- The code points at which being a mark around a letter changes. -/
def enclosingBounds : List Nat :=
  [0x488, 0x48A, 0x1ABE, 0x1ABF, 0x20DD, 0x20E1, 0x20E2, 0x20E5, 0xA670, 0xA673]

/-- Letters that no identifier starts with. -/
def lateLetters : List Nat :=
  [
    0x37A, 0xE33, 0xEB3, 0x2E2F, 0xFC5E, 0xFC5F, 0xFC60, 0xFC61, 0xFC62, 0xFC63, 0xFDFA, 0xFDFB,
    0xFE70, 0xFE72, 0xFE74, 0xFE76, 0xFE78, 0xFE7A, 0xFE7C, 0xFE7E, 0xFF9E, 0xFF9F
  ]

/-- What is neither a letter nor a number, and yet starts an identifier. -/
def earlyPoints : List Nat :=
  [0x5F, 0x1885, 0x1886, 0x2118, 0x212E]

/-- What an identifier goes on with besides letters, digits and marks. -/
def innerPoints : List Nat :=
  [
    0xB7, 0x387, 0xE33, 0xEB3, 0x1369, 0x136A, 0x136B, 0x136C, 0x136D, 0x136E, 0x136F, 0x1370,
    0x1371, 0x19DA, 0x203F, 0x2040, 0x2054, 0xFE33, 0xFE34, 0xFE4D, 0xFE4E, 0xFE4F, 0xFF3F,
    0xFF9E, 0xFF9F
  ]

/-- A letter of any script. -/
def isAlphabetic (c : CodePoint) : Bool :=
  c.isAlphanumeric && c.decimalValue?.isNone && !c.isInside numeralBounds

/-- A number that is written with letters. -/
def isLetterNumber (c : CodePoint) : Bool :=
  c.isAlphanumeric && c.decimalValue?.isNone && c.isInside numeralBounds
    && c.isInside letterNumberBounds

/-- What an identifier starts with. -/
def startsIdentifier (c : CodePoint) : Bool :=
  ((c.isAlphabetic || c.isLetterNumber) && !lateLetters.contains c.val) || earlyPoints.contains c.val

/-- What an identifier goes on with. -/
def continuesIdentifier (c : CodePoint) : Bool :=
  c.startsIdentifier || c.decimalValue?.isSome || (c.isMark && !c.isInside enclosingBounds)
    || innerPoints.contains c.val

end CodePoint

/-- Whether a text is an identifier. -/
def Text.isIdentifier (t : Text) : Bool :=
  t.head?.any CodePoint.startsIdentifier && t.all CodePoint.continuesIdentifier

end AlarmFeed
