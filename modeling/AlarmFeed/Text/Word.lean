/-
**Letters and numbers of all scripts.**

A code point is part of a word if it is a letter or a number of any script, or an underscore. The table
lists, in ascending order, the code points at which this changes, where those that are not printable
count as parts of words too, so that fewer changes are left; a code point is part of a word when it is
printable and an odd number of them are at or below it. The table is that of Unicode 14.

Unicode's decimal digits come in blocks of ten consecutive code points, zero to nine. `decimalZeros`
lists the zero of each block, and `decimalValue?` gives the value of a digit of any script.
-/

import AlarmFeed.Text.Basic
import AlarmFeed.Text.Printable

namespace AlarmFeed.CodePoint

set_option maxRecDepth 4000 in
/-- The code points at which being a letter, a number or not printable changes, ascending. -/
def alphanumericBounds : List Nat :=
  [
    0x0, 0x20, 0x30, 0x3A, 0x41, 0x5B, 0x61, 0x7B, 0x7F, 0xA1, 0xAA, 0xAB, 0xAD, 0xAE, 0xB2,
    0xB4, 0xB5, 0xB6, 0xB9, 0xBB, 0xBC, 0xBF, 0xC0, 0xD7, 0xD8, 0xF7, 0xF8, 0x2C2, 0x2C6, 0x2D2,
    0x2E0, 0x2E5, 0x2EC, 0x2ED, 0x2EE, 0x2EF, 0x370, 0x375, 0x376, 0x37E, 0x37F, 0x384, 0x386,
    0x387, 0x388, 0x3F6, 0x3F7, 0x482, 0x48A, 0x55A, 0x560, 0x589, 0x58B, 0x58D, 0x590, 0x591,
    0x5C8, 0x5F3, 0x5F5, 0x606, 0x61C, 0x61D, 0x620, 0x64B, 0x660, 0x66A, 0x66E, 0x670, 0x671,
    0x6D4, 0x6D5, 0x6D6, 0x6DD, 0x6DE, 0x6E5, 0x6E7, 0x6EE, 0x6FD, 0x6FF, 0x700, 0x70E, 0x711,
    0x712, 0x730, 0x74B, 0x7A6, 0x7B1, 0x7EB, 0x7F4, 0x7F6, 0x7FA, 0x7FD, 0x800, 0x816, 0x81A,
    0x81B, 0x824, 0x825, 0x828, 0x829, 0x82E, 0x830, 0x83F, 0x859, 0x85C, 0x85E, 0x85F, 0x888,
    0x889, 0x898, 0x8A0, 0x8CA, 0x8E2, 0x8E3, 0x904, 0x93A, 0x93D, 0x93E, 0x950, 0x951, 0x958,
    0x962, 0x966, 0x970, 0x971, 0x981, 0x984, 0x9BC, 0x9BD, 0x9BE, 0x9C5, 0x9C7, 0x9C9, 0x9CB,
    0x9CE, 0x9D7, 0x9D8, 0x9E2, 0x9E4, 0x9F2, 0x9F4, 0x9FA, 0x9FC, 0x9FD, 0x9FF, 0xA01, 0xA04,
    0xA3C, 0xA3D, 0xA3E, 0xA43, 0xA47, 0xA49, 0xA4B, 0xA4E, 0xA51, 0xA52, 0xA70, 0xA72, 0xA75,
    0xA77, 0xA81, 0xA84, 0xABC, 0xABD, 0xABE, 0xAC6, 0xAC7, 0xACA, 0xACB, 0xACE, 0xAE2, 0xAE4,
    0xAF0, 0xAF2, 0xAFA, 0xB00, 0xB01, 0xB04, 0xB3C, 0xB3D, 0xB3E, 0xB45, 0xB47, 0xB49, 0xB4B,
    0xB4E, 0xB55, 0xB58, 0xB62, 0xB64, 0xB70, 0xB71, 0xB82, 0xB83, 0xBBE, 0xBC3, 0xBC6, 0xBC9,
    0xBCA, 0xBCE, 0xBD7, 0xBD8, 0xBF3, 0xBFB, 0xC00, 0xC05, 0xC3C, 0xC3D, 0xC3E, 0xC45, 0xC46,
    0xC49, 0xC4A, 0xC4E, 0xC55, 0xC57, 0xC62, 0xC64, 0xC77, 0xC78, 0xC7F, 0xC80, 0xC81, 0xC85,
    0xCBC, 0xCBD, 0xCBE, 0xCC5, 0xCC6, 0xCC9, 0xCCA, 0xCCE, 0xCD5, 0xCD7, 0xCE2, 0xCE4, 0xD00,
    0xD04, 0xD3B, 0xD3D, 0xD3E, 0xD45, 0xD46, 0xD49, 0xD4A, 0xD4E, 0xD4F, 0xD50, 0xD57, 0xD58,
    0xD62, 0xD64, 0xD79, 0xD7A, 0xD81, 0xD84, 0xDCA, 0xDCB, 0xDCF, 0xDD5, 0xDD6, 0xDD7, 0xDD8,
    0xDE0, 0xDF2, 0xDF5, 0xE31, 0xE32, 0xE34, 0xE3B, 0xE3F, 0xE40, 0xE47, 0xE50, 0xE5A, 0xE5C,
    0xEB1, 0xEB2, 0xEB4, 0xEBD, 0xEC8, 0xECE, 0xF01, 0xF20, 0xF34, 0xF40, 0xF71, 0xF88, 0xF8D,
    0xF98, 0xF99, 0xFBD, 0xFBE, 0xFCD, 0xFCE, 0xFDB, 0x102B, 0x103F, 0x104A, 0x1050, 0x1056,
    0x105A, 0x105E, 0x1061, 0x1062, 0x1065, 0x1067, 0x106E, 0x1071, 0x1075, 0x1082, 0x108E,
    0x108F, 0x1090, 0x109A, 0x10A0, 0x10FB, 0x10FC, 0x135D, 0x1369, 0x1390, 0x139A, 0x1400,
    0x1401, 0x166D, 0x166F, 0x169B, 0x169D, 0x16EB, 0x16EE, 0x1712, 0x1716, 0x1732, 0x1737,
    0x1752, 0x1754, 0x1772, 0x1774, 0x17B4, 0x17D7, 0x17D8, 0x17DC, 0x17DD, 0x17DE, 0x1800,
    0x180E, 0x180F, 0x1810, 0x1885, 0x1887, 0x18A9, 0x18AA, 0x1920, 0x192C, 0x1930, 0x193C,
    0x1940, 0x1941, 0x1944, 0x1946, 0x19DE, 0x1A00, 0x1A17, 0x1A1C, 0x1A1E, 0x1A20, 0x1A55,
    0x1A5F, 0x1A60, 0x1A7D, 0x1A7F, 0x1A80, 0x1AA0, 0x1AA7, 0x1AA8, 0x1AAE, 0x1AB0, 0x1ACF,
    0x1B00, 0x1B05, 0x1B34, 0x1B45, 0x1B5A, 0x1B7F, 0x1B80, 0x1B83, 0x1BA1, 0x1BAE, 0x1BE6,
    0x1BF4, 0x1BFC, 0x1C00, 0x1C24, 0x1C38, 0x1C3B, 0x1C40, 0x1C7E, 0x1C80, 0x1CC0, 0x1CC8,
    0x1CD0, 0x1CE9, 0x1CED, 0x1CEE, 0x1CF4, 0x1CF5, 0x1CF7, 0x1CFA, 0x1DC0, 0x1E00, 0x1FBD,
    0x1FBE, 0x1FBF, 0x1FC2, 0x1FCD, 0x1FD0, 0x1FDD, 0x1FE0, 0x1FED, 0x1FF0, 0x1FFD, 0x1FFF,
    0x2010, 0x2028, 0x2030, 0x205F, 0x207A, 0x207F, 0x208A, 0x208F, 0x20A0, 0x20C1, 0x20D0,
    0x20F1, 0x2100, 0x2102, 0x2103, 0x2107, 0x2108, 0x210A, 0x2114, 0x2115, 0x2116, 0x2119,
    0x211E, 0x2124, 0x2125, 0x2126, 0x2127, 0x2128, 0x2129, 0x212A, 0x212E, 0x212F, 0x213A,
    0x213C, 0x2140, 0x2145, 0x214A, 0x214E, 0x214F, 0x2150, 0x218A, 0x218C, 0x2190, 0x2427,
    0x2440, 0x244B, 0x249C, 0x24EA, 0x2500, 0x2776, 0x2794, 0x2B74, 0x2B76, 0x2B96, 0x2B97,
    0x2C00, 0x2CE5, 0x2CEB, 0x2CEF, 0x2CF2, 0x2CF9, 0x2CFD, 0x2CFE, 0x2D00, 0x2D70, 0x2D71,
    0x2D7F, 0x2D80, 0x2DE0, 0x2E2F, 0x2E30, 0x2E5E, 0x2E80, 0x2E9A, 0x2E9B, 0x2EF4, 0x2F00,
    0x2FD6, 0x2FF0, 0x2FFC, 0x3001, 0x3005, 0x3008, 0x3021, 0x302A, 0x3031, 0x3036, 0x3038,
    0x303D, 0x3040, 0x3099, 0x309D, 0x30A0, 0x30A1, 0x30FB, 0x30FC, 0x3190, 0x3192, 0x3196,
    0x31A0, 0x31C0, 0x31E4, 0x3200, 0x321F, 0x322A, 0x3248, 0x3250, 0x3251, 0x3260, 0x3280,
    0x328A, 0x32B1, 0x32C0, 0x3400, 0x4DC0, 0x4E00, 0xA490, 0xA4C7, 0xA4FE, 0xA500, 0xA60D,
    0xA610, 0xA66F, 0xA67F, 0xA69E, 0xA6A0, 0xA6F0, 0xA6F8, 0xA700, 0xA717, 0xA720, 0xA722,
    0xA789, 0xA78B, 0xA802, 0xA803, 0xA806, 0xA807, 0xA80B, 0xA80C, 0xA823, 0xA82D, 0xA836,
    0xA83A, 0xA874, 0xA878, 0xA880, 0xA882, 0xA8B4, 0xA8C6, 0xA8CE, 0xA8D0, 0xA8E0, 0xA8F2,
    0xA8F8, 0xA8FB, 0xA8FC, 0xA8FD, 0xA8FF, 0xA900, 0xA926, 0xA930, 0xA947, 0xA954, 0xA95F,
    0xA960, 0xA980, 0xA984, 0xA9B3, 0xA9CE, 0xA9DE, 0xA9E0, 0xA9E5, 0xA9E6, 0xAA29, 0xAA37,
    0xAA43, 0xAA44, 0xAA4C, 0xAA4E, 0xAA5C, 0xAA60, 0xAA77, 0xAA7A, 0xAA7B, 0xAA7E, 0xAAB0,
    0xAAB1, 0xAAB2, 0xAAB5, 0xAAB7, 0xAAB9, 0xAABE, 0xAAC0, 0xAAC1, 0xAAC2, 0xAADE, 0xAAE0,
    0xAAEB, 0xAAF2, 0xAAF5, 0xAAF7, 0xAB5B, 0xAB5C, 0xAB6A, 0xAB6C, 0xABE3, 0xABEE, 0xFB1E,
    0xFB1F, 0xFB29, 0xFB2A, 0xFBB2, 0xFBC3, 0xFD3E, 0xFD50, 0xFDCF, 0xFDD0, 0xFDFC, 0xFE1A,
    0xFE20, 0xFE53, 0xFE54, 0xFE67, 0xFE68, 0xFE6C, 0xFF01, 0xFF10, 0xFF1A, 0xFF21, 0xFF3B,
    0xFF41, 0xFF5B, 0xFF66, 0xFFE0, 0xFFE7, 0xFFE8, 0xFFEF, 0xFFFC, 0xFFFE, 0x10100, 0x10103,
    0x10137, 0x10140, 0x10179, 0x1018A, 0x1018C, 0x1018F, 0x10190, 0x1019D, 0x101A0, 0x101A1,
    0x101D0, 0x101FE, 0x102E0, 0x102E1, 0x10376, 0x1037B, 0x1039F, 0x103A0, 0x103D0, 0x103D1,
    0x1056F, 0x10570, 0x10857, 0x10858, 0x10877, 0x10879, 0x1091F, 0x10920, 0x1093F, 0x10940,
    0x10A01, 0x10A04, 0x10A05, 0x10A07, 0x10A0C, 0x10A10, 0x10A38, 0x10A3B, 0x10A3F, 0x10A40,
    0x10A50, 0x10A59, 0x10A7F, 0x10A80, 0x10AC8, 0x10AC9, 0x10AE5, 0x10AE7, 0x10AF0, 0x10AF7,
    0x10B39, 0x10B40, 0x10B99, 0x10B9D, 0x10D24, 0x10D28, 0x10EAB, 0x10EAE, 0x10F46, 0x10F51,
    0x10F55, 0x10F5A, 0x10F82, 0x10F8A, 0x11000, 0x11003, 0x11038, 0x1104E, 0x11070, 0x11071,
    0x11073, 0x11075, 0x1107F, 0x11083, 0x110B0, 0x110BD, 0x110BE, 0x110C3, 0x11100, 0x11103,
    0x11127, 0x11135, 0x11140, 0x11144, 0x11145, 0x11147, 0x11173, 0x11176, 0x11180, 0x11183,
    0x111B3, 0x111C1, 0x111C5, 0x111D0, 0x111DB, 0x111DC, 0x111DD, 0x111E0, 0x1122C, 0x1123F,
    0x112A9, 0x112AA, 0x112DF, 0x112EB, 0x11300, 0x11304, 0x1133B, 0x1133D, 0x1133E, 0x11345,
    0x11347, 0x11349, 0x1134B, 0x1134E, 0x11357, 0x11358, 0x11362, 0x11364, 0x11366, 0x1136D,
    0x11370, 0x11375, 0x11435, 0x11447, 0x1144B, 0x11450, 0x1145A, 0x1145C, 0x1145D, 0x1145F,
    0x114B0, 0x114C4, 0x114C6, 0x114C7, 0x115AF, 0x115B6, 0x115B8, 0x115D8, 0x115DC, 0x115DE,
    0x11630, 0x11644, 0x11660, 0x1166D, 0x116AB, 0x116B8, 0x116B9, 0x116BA, 0x1171D, 0x1172C,
    0x1173C, 0x11740, 0x1182C, 0x1183C, 0x11930, 0x11936, 0x11937, 0x11939, 0x1193B, 0x1193F,
    0x11940, 0x11941, 0x11942, 0x11947, 0x119D1, 0x119D8, 0x119DA, 0x119E1, 0x119E2, 0x119E3,
    0x119E4, 0x119E5, 0x11A01, 0x11A0B, 0x11A33, 0x11A3A, 0x11A3B, 0x11A48, 0x11A51, 0x11A5C,
    0x11A8A, 0x11A9D, 0x11A9E, 0x11AA3, 0x11C2F, 0x11C37, 0x11C38, 0x11C40, 0x11C41, 0x11C46,
    0x11C70, 0x11C72, 0x11C92, 0x11CA8, 0x11CA9, 0x11CB7, 0x11D31, 0x11D37, 0x11D3A, 0x11D3B,
    0x11D3C, 0x11D3E, 0x11D3F, 0x11D46, 0x11D47, 0x11D48, 0x11D8A, 0x11D8F, 0x11D90, 0x11D92,
    0x11D93, 0x11D98, 0x11EF3, 0x11EF9, 0x11FD5, 0x11FF2, 0x11FFF, 0x12000, 0x12470, 0x12475,
    0x12FF1, 0x12FF3, 0x16A6E, 0x16A70, 0x16AF0, 0x16AF6, 0x16B30, 0x16B40, 0x16B44, 0x16B46,
    0x16E97, 0x16E9B, 0x16F4F, 0x16F50, 0x16F51, 0x16F88, 0x16F8F, 0x16F93, 0x16FE2, 0x16FE3,
    0x16FE4, 0x16FE5, 0x16FF0, 0x16FF2, 0x1BC9C, 0x1BCA0, 0x1CF00, 0x1CF2E, 0x1CF30, 0x1CF47,
    0x1CF50, 0x1CFC4, 0x1D000, 0x1D0F6, 0x1D100, 0x1D127, 0x1D129, 0x1D173, 0x1D17B, 0x1D1EB,
    0x1D200, 0x1D246, 0x1D300, 0x1D357, 0x1D6C1, 0x1D6C2, 0x1D6DB, 0x1D6DC, 0x1D6FB, 0x1D6FC,
    0x1D715, 0x1D716, 0x1D735, 0x1D736, 0x1D74F, 0x1D750, 0x1D76F, 0x1D770, 0x1D789, 0x1D78A,
    0x1D7A9, 0x1D7AA, 0x1D7C3, 0x1D7C4, 0x1D800, 0x1DA8C, 0x1DA9B, 0x1DAA0, 0x1DAA1, 0x1DAB0,
    0x1E000, 0x1E007, 0x1E008, 0x1E019, 0x1E01B, 0x1E022, 0x1E023, 0x1E025, 0x1E026, 0x1E02B,
    0x1E130, 0x1E137, 0x1E14F, 0x1E150, 0x1E2AE, 0x1E2AF, 0x1E2EC, 0x1E2F0, 0x1E2FF, 0x1E300,
    0x1E8D0, 0x1E8D7, 0x1E944, 0x1E94B, 0x1E95E, 0x1E960, 0x1ECAC, 0x1ECAD, 0x1ECB0, 0x1ECB1,
    0x1ED2E, 0x1ED2F, 0x1EEF0, 0x1EEF2, 0x1F000, 0x1F02C, 0x1F030, 0x1F094, 0x1F0A0, 0x1F0AF,
    0x1F0B1, 0x1F0C0, 0x1F0C1, 0x1F0D0, 0x1F0D1, 0x1F0F6, 0x1F10D, 0x1F1AE, 0x1F1E6, 0x1F203,
    0x1F210, 0x1F23C, 0x1F240, 0x1F249, 0x1F250, 0x1F252, 0x1F260, 0x1F266, 0x1F300, 0x1F6D8,
    0x1F6DD, 0x1F6ED, 0x1F6F0, 0x1F6FD, 0x1F700, 0x1F774, 0x1F780, 0x1F7D9, 0x1F7E0, 0x1F7EC,
    0x1F7F0, 0x1F7F1, 0x1F800, 0x1F80C, 0x1F810, 0x1F848, 0x1F850, 0x1F85A, 0x1F860, 0x1F888,
    0x1F890, 0x1F8AE, 0x1F8B0, 0x1F8B2, 0x1F900, 0x1FA54, 0x1FA60, 0x1FA6E, 0x1FA70, 0x1FA75,
    0x1FA78, 0x1FA7D, 0x1FA80, 0x1FA87, 0x1FA90, 0x1FAAD, 0x1FAB0, 0x1FABB, 0x1FAC0, 0x1FAC6,
    0x1FAD0, 0x1FADA, 0x1FAE0, 0x1FAE8, 0x1FAF0, 0x1FAF7, 0x1FB00, 0x1FB93, 0x1FB94, 0x1FBCB,
    0xE0100, 0xE01F0
  ]

/-- A letter or a number of any script. -/
def isAlphanumeric (c : CodePoint) : Bool :=
  c.isPrintable && c.isInside alphanumericBounds

/-- A part of a word. -/
def isWordPoint (c : CodePoint) : Bool :=
  c.isAlphanumeric || c == '_'

/-- The zero of every block of decimal digits. -/
def decimalZeros : List Nat :=
  [
    0x30, 0x660, 0x6F0, 0x7C0, 0x966, 0x9E6, 0xA66, 0xAE6, 0xB66, 0xBE6, 0xC66, 0xCE6, 0xD66,
    0xDE6, 0xE50, 0xED0, 0xF20, 0x1040, 0x1090, 0x17E0, 0x1810, 0x1946, 0x19D0, 0x1A80, 0x1A90,
    0x1B50, 0x1BB0, 0x1C40, 0x1C50, 0xA620, 0xA8D0, 0xA900, 0xA9D0, 0xA9F0, 0xAA50, 0xABF0,
    0xFF10, 0x104A0, 0x10D30, 0x11066, 0x110F0, 0x11136, 0x111D0, 0x112F0, 0x11450, 0x114D0,
    0x11650, 0x116C0, 0x11730, 0x118E0, 0x11950, 0x11C50, 0x11D50, 0x11DA0, 0x16A60, 0x16AC0,
    0x16B50, 0x1D7CE, 0x1D7D8, 0x1D7E2, 0x1D7EC, 0x1D7F6, 0x1E140, 0x1E2F0, 0x1E950, 0x1FBF0
  ]

/-- The value of a decimal digit of any script. -/
def decimalValue? (c : CodePoint) : Option Nat :=
  (decimalZeros.find? fun block => block ≤ c.val && c.val < block + 10).map (c.val - ·)

end AlarmFeed.CodePoint
