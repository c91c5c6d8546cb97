/-
**Directions, joining and scripts.**

Some scripts run from left to right, others from right to left, and some code points have no direction of
their own. `direction?` gives the direction of a code point that a label may hold, if Unicode 14 knows it.
In some scripts neighbouring letters are joined, and what is transparent does not part them. Each table
lists, in ascending order, the code points at which its property changes; those of directions leave out the
code points that no label holds.
-/

import AlarmFeed.Text.LabelPoint
import AlarmFeed.Text.Mark

namespace AlarmFeed

/-- How the writing runs at a code point. -/
inductive Direction
  | left
  | right
  /-- A letter of Arabic or a script like it, from right to left. -/
  | arabic
  | number
  | arabicNumber
  /-- A mark runs like what it stands at. -/
  | mark
  | neutral
  deriving DecidableEq

namespace CodePoint

/-! ### Directions -/

/-- The code points at which running from right to left changes, Arabic apart. -/
def rightBounds : List Nat :=
  [
    0x5D0, 0x620, 0x7C0, 0x860, 0x10800, 0x10D00, 0x10E80, 0x10F30, 0x10F70, 0x11000, 0x1E800,
    0x20000
  ]

/-- The code points at which running from right to left as Arabic does changes. -/
def arabicBounds : List Nat :=
  [
    0x620, 0x660, 0x66E, 0x6F0, 0x6FA, 0x7C0, 0x860, 0x903, 0xFE73, 0x10000, 0x10D00, 0x10D30,
    0x10F30, 0x10F70
  ]

/-- The code points at which having no direction changes. -/
def neutralBounds : List Nat :=
  [
    0x2D, 0x30, 0xB7, 0xDF, 0x2B9, 0x2BB, 0x2C6, 0x2D0, 0x2EC, 0x2EE, 0x375, 0x377, 0x200C,
    0x214E, 0x2E2F, 0x3005, 0x30FB, 0x30FC, 0xA67F, 0xA681, 0xA717, 0xA723, 0xA788, 0xA78C
  ]

/-- The marks that have a direction of their own, from left to right. -/
def directedMarks : List Nat :=
  [0xCBF, 0xCC6, 0x11A07, 0x11A08, 0x11C3F]

/-- A digit of Arabic. -/
def isArabicDigit (c : CodePoint) : Bool :=
  0x660 ≤ c.val && c.val ≤ 0x669

/-- A digit of Arabic as Persian and Urdu write it. -/
def isEasternDigit (c : CodePoint) : Bool :=
  0x6F0 ≤ c.val && c.val ≤ 0x6F9

/-- A digit of Hanifi Rohingya. -/
def isHanifiDigit (c : CodePoint) : Bool :=
  0x10D30 ≤ c.val && c.val ≤ 0x10D39

/-- The direction at a code point of a label, if it is known. -/
def direction? (c : CodePoint) : Option Direction :=
  if c.isLaterPoint then none
  else if c.isNonspacing && !directedMarks.contains c.val then some .mark
  else if c.isDigit || c.isEasternDigit then some .number
  else if c.isArabicDigit || c.isHanifiDigit then some .arabicNumber
  else if c.isInside rightBounds then some .right
  else if c.isInside arabicBounds then some .arabic
  else if c.isInside neutralBounds then some .neutral
  else some .left

/-! ### Joining -/

/-- The code points at which being joined to what follows changes. -/
def joiningBounds : List Nat :=
  [
    0x620, 0x621, 0x626, 0x627, 0x628, 0x629, 0x62A, 0x62F, 0x633, 0x640, 0x641, 0x648, 0x649,
    0x64B, 0x66E, 0x670, 0x678, 0x688, 0x69A, 0x6C0, 0x6C1, 0x6C3, 0x6CC, 0x6CD, 0x6CE, 0x6CF,
    0x6D0, 0x6D2, 0x6FA, 0x6FD, 0x6FF, 0x700, 0x712, 0x715, 0x71A, 0x71E, 0x71F, 0x728, 0x729,
    0x72A, 0x72B, 0x72C, 0x72D, 0x72F, 0x74E, 0x759, 0x75C, 0x76B, 0x76D, 0x771, 0x772, 0x773,
    0x775, 0x778, 0x77A, 0x780, 0x7CA, 0x7EB, 0x841, 0x846, 0x848, 0x849, 0x84A, 0x854, 0x855,
    0x856, 0x860, 0x861, 0x862, 0x866, 0x868, 0x869, 0x886, 0x887, 0x889, 0x88E, 0x88F, 0x890,
    0x8A0, 0x8AA, 0x8AF, 0x8B1, 0x8B3, 0x8B9, 0x8BA, 0x8C9, 0x1807, 0x1808, 0x1820, 0x1879,
    0x1887, 0x18A9, 0x18AA, 0x18AB, 0xA840, 0xA873, 0x10AC0, 0x10AC5, 0x10ACD, 0x10ACE, 0x10AD3,
    0x10ADD, 0x10ADE, 0x10AE1, 0x10AEB, 0x10AEF, 0x10B80, 0x10B81, 0x10B82, 0x10B83, 0x10B86,
    0x10B89, 0x10B8A, 0x10B8C, 0x10B8D, 0x10B8E, 0x10B90, 0x10B91, 0x10BAD, 0x10BAF, 0x10D00,
    0x10D22, 0x10D23, 0x10D24, 0x10EC3, 0x10EC5, 0x10EC6, 0x10EC8, 0x10F30, 0x10F33, 0x10F34,
    0x10F45, 0x10F51, 0x10F54, 0x10F70, 0x10F74, 0x10F76, 0x10F82, 0x10FB0, 0x10FB1, 0x10FB2,
    0x10FB4, 0x10FB8, 0x10FB9, 0x10FBB, 0x10FBD, 0x10FBE, 0x10FC0, 0x10FC1, 0x10FC2, 0x10FC4,
    0x10FC5, 0x10FCA, 0x10FCC, 0x1E900, 0x1E944
  ]

/-- The code points at which being joined to what is in front changes. -/
def joinedBounds : List Nat :=
  [
    0x620, 0x621, 0x622, 0x640, 0x641, 0x64B, 0x66E, 0x670, 0x671, 0x674, 0x675, 0x6D4, 0x6D5,
    0x6D6, 0x6EE, 0x6F0, 0x6FA, 0x6FD, 0x6FF, 0x700, 0x710, 0x711, 0x712, 0x730, 0x74D, 0x780,
    0x7CA, 0x7EB, 0x840, 0x859, 0x860, 0x861, 0x862, 0x866, 0x867, 0x86B, 0x870, 0x883, 0x886,
    0x887, 0x889, 0x890, 0x8A0, 0x8AD, 0x8AE, 0x8C9, 0x1807, 0x1808, 0x1820, 0x1879, 0x1887,
    0x18A9, 0x18AA, 0x18AB, 0xA840, 0xA872, 0x10AC0, 0x10AC6, 0x10AC7, 0x10AC8, 0x10AC9, 0x10ACB,
    0x10ACE, 0x10AD7, 0x10AD8, 0x10AE2, 0x10AE4, 0x10AE5, 0x10AEB, 0x10AF0, 0x10B80, 0x10B92,
    0x10BA9, 0x10BAF, 0x10D01, 0x10D24, 0x10EC2, 0x10EC5, 0x10EC6, 0x10EC8, 0x10F30, 0x10F45,
    0x10F51, 0x10F55, 0x10F70, 0x10F82, 0x10FB0, 0x10FB1, 0x10FB2, 0x10FB7, 0x10FB8, 0x10FC0,
    0x10FC1, 0x10FC5, 0x10FC9, 0x10FCB, 0x1E900, 0x1E944
  ]

/-- The code points at which being transparent changes, where for marks without a place of their own it is
not being transparent. -/
def transparentBounds : List Nat :=
  [
    0xAD, 0xAE, 0x61C, 0x61D, 0x70F, 0x710, 0x897, 0x898, 0xECE, 0xECF, 0x1ACF, 0x1ADE, 0x1AE0,
    0x1AEC, 0x200B, 0x200C, 0x200E, 0x2010, 0x202A, 0x202F, 0x2060, 0x2065, 0x206A, 0x2070,
    0xFEFF, 0xFF00, 0xFFF9, 0xFFFC, 0x10D69, 0x10D6E, 0x10EFA, 0x10F00, 0x11241, 0x11242,
    0x113BB, 0x113C1, 0x113CE, 0x113CF, 0x113D0, 0x113D1, 0x113D2, 0x113D3, 0x113E1, 0x113E3,
    0x1171E, 0x1171F, 0x11B60, 0x11B61, 0x11B62, 0x11B65, 0x11B66, 0x11B67, 0x11F00, 0x11F02,
    0x11F36, 0x11F3B, 0x11F40, 0x11F41, 0x11F42, 0x11F43, 0x11F5A, 0x11F5B, 0x13430, 0x13441,
    0x13447, 0x13456, 0x1611E, 0x1612A, 0x1612D, 0x16130, 0x1BCA0, 0x1BCA4, 0x1D173, 0x1D17B,
    0x1E08F, 0x1E090, 0x1E4EC, 0x1E4F0, 0x1E5EE, 0x1E5F0, 0x1E6E3, 0x1E6E4, 0x1E6E6, 0x1E6E7,
    0x1E6EE, 0x1E6F0, 0x1E6F5, 0x1E6F6, 0x1E94B, 0x1E94C, 0xE0001, 0xE0002, 0xE0020, 0xE0080
  ]

/-- Whether joined letters are not parted by a code point. -/
def isTransparent (c : CodePoint) : Bool :=
  c.isNonspacing != c.isInside transparentBounds

/-! ### Scripts -/

/-- The code points at which belonging to Greek changes. -/
def greekBounds : List Nat :=
  [
    0x370, 0x374, 0x375, 0x378, 0x37A, 0x37E, 0x37F, 0x380, 0x384, 0x385, 0x386, 0x387, 0x388,
    0x38B, 0x38C, 0x38D, 0x38E, 0x3A2, 0x3A3, 0x3E2, 0x3F0, 0x400, 0x1D26, 0x1D2B, 0x1D5D,
    0x1D62, 0x1D66, 0x1D6B, 0x1DBF, 0x1DC0, 0x1F00, 0x1F16, 0x1F18, 0x1F1E, 0x1F20, 0x1F46,
    0x1F48, 0x1F4E, 0x1F50, 0x1F58, 0x1F59, 0x1F5A, 0x1F5B, 0x1F5C, 0x1F5D, 0x1F5E, 0x1F5F,
    0x1F7E, 0x1F80, 0x1FB5, 0x1FB6, 0x1FC5, 0x1FC6, 0x1FD4, 0x1FD6, 0x1FDC, 0x1FDD, 0x1FF0,
    0x1FF2, 0x1FF5, 0x1FF6, 0x1FFF, 0x2126, 0x2127, 0xAB65, 0xAB66, 0x10140, 0x1018F, 0x101A0,
    0x101A1, 0x1D200, 0x1D246
  ]

/-- The code points at which belonging to Hebrew changes. -/
def hebrewBounds : List Nat :=
  [
    0x591, 0x5C8, 0x5D0, 0x5EB, 0x5EF, 0x5F5, 0xFB1D, 0xFB37, 0xFB38, 0xFB3D, 0xFB3E, 0xFB3F,
    0xFB40, 0xFB42, 0xFB43, 0xFB45, 0xFB46, 0xFB50
  ]

/-- The code points at which belonging to a script of Japanese changes: Hiragana, Katakana or Han. -/
def japaneseBounds : List Nat :=
  [
    0x2E80, 0x2E9A, 0x2E9B, 0x2EF4, 0x2F00, 0x2FD6, 0x3005, 0x3006, 0x3007, 0x3008, 0x3021,
    0x302A, 0x3038, 0x303C, 0x3041, 0x3097, 0x309D, 0x30A0, 0x30A1, 0x30FB, 0x30FD, 0x3100,
    0x31F0, 0x3200, 0x32D0, 0x32FF, 0x3300, 0x3358, 0x3400, 0x4DC0, 0x4E00, 0xA000, 0xF900,
    0xFA6E, 0xFA70, 0xFADA, 0xFF66, 0xFF70, 0xFF71, 0xFF9E, 0x16FE2, 0x16FE4, 0x16FF0, 0x16FF7,
    0x1AFF0, 0x1AFF4, 0x1AFF5, 0x1AFFC, 0x1AFFD, 0x1AFFF, 0x1B000, 0x1B123, 0x1B132, 0x1B133,
    0x1B150, 0x1B153, 0x1B155, 0x1B156, 0x1B164, 0x1B168, 0x1F200, 0x1F201, 0x20000, 0x2A6E0,
    0x2A700, 0x2B81E, 0x2B820, 0x2CEAE, 0x2CEB0, 0x2EBE1, 0x2EBF0, 0x2EE5E, 0x2F800, 0x2FA1E,
    0x30000, 0x3134B, 0x31350, 0x3347A
  ]

end CodePoint

end AlarmFeed
