/-
**The code points of labels.**

A label of an internationalised host name holds letters, digits and marks that stay the same when texts
are normalised and case is folded, and hyphens. The table lists, in ascending order, the code points at
which this changes, where those that are not printable and those that have a lower case of their own
count as allowed, so that fewer changes are left. Cherokee letters are folded to upper case, so there it
is those that have a lower case which are allowed. The table is that of Unicode 14; the code points that have
been given out since, up to Unicode 17, have a table of their own.
-/

import AlarmFeed.Text.Lowercase
import AlarmFeed.Text.Printable

namespace AlarmFeed.CodePoint

set_option maxRecDepth 4000 in
/-- The code points at which being allowed, not printable or of upper case changes, ascending. -/
def labelBounds : List Nat :=
  [
    0x0, 0x20, 0x2D, 0x2E, 0x30, 0x3A, 0x41, 0x5B, 0x61, 0x7B, 0x7F, 0xA1, 0xAD, 0xAE, 0xC0,
    0xD7, 0xD8, 0xF7, 0xF8, 0x133, 0x134, 0x140, 0x141, 0x149, 0x14A, 0x17F, 0x180, 0x1C6, 0x1C7,
    0x1C9, 0x1CA, 0x1CC, 0x1CD, 0x1F3, 0x1F4, 0x2B0, 0x2B9, 0x2C2, 0x2C6, 0x2D2, 0x2EC, 0x2ED,
    0x2EE, 0x2EF, 0x300, 0x340, 0x342, 0x343, 0x346, 0x34F, 0x350, 0x374, 0x376, 0x37A, 0x37B,
    0x37E, 0x37F, 0x384, 0x386, 0x387, 0x388, 0x3D0, 0x3D7, 0x3F0, 0x3F3, 0x3F5, 0x3F7, 0x482,
    0x483, 0x488, 0x48A, 0x55A, 0x560, 0x587, 0x588, 0x589, 0x58B, 0x58D, 0x590, 0x5BE, 0x5BF,
    0x5C0, 0x5C1, 0x5C3, 0x5C4, 0x5C6, 0x5C7, 0x5F3, 0x5F5, 0x606, 0x610, 0x61B, 0x61C, 0x61D,
    0x620, 0x640, 0x641, 0x660, 0x66E, 0x675, 0x679, 0x6D4, 0x6D5, 0x6DE, 0x6DF, 0x6E9, 0x6EA,
    0x6F0, 0x6FA, 0x700, 0x70E, 0x7F6, 0x7FB, 0x7FE, 0x800, 0x830, 0x83F, 0x85E, 0x85F, 0x888,
    0x889, 0x958, 0x960, 0x964, 0x966, 0x970, 0x971, 0x9DC, 0x9DE, 0x9DF, 0x9E0, 0x9F2, 0x9FC,
    0x9FD, 0x9FE, 0xA33, 0xA34, 0xA36, 0xA37, 0xA59, 0xA5C, 0xA5E, 0xA5F, 0xA76, 0xA77, 0xAF0,
    0xAF2, 0xB5C, 0xB5E, 0xB70, 0xB71, 0xB72, 0xB78, 0xBF0, 0xBFB, 0xC77, 0xC80, 0xC84, 0xC85,
    0xD4F, 0xD50, 0xD58, 0xD5F, 0xD70, 0xD7A, 0xDF4, 0xDF5, 0xE33, 0xE34, 0xE3F, 0xE40, 0xE4F,
    0xE50, 0xE5A, 0xE5C, 0xEB3, 0xEB4, 0xEDC, 0xEDE, 0xF01, 0xF0B, 0xF0C, 0xF18, 0xF1A, 0xF20,
    0xF2A, 0xF35, 0xF36, 0xF37, 0xF38, 0xF39, 0xF3A, 0xF3E, 0xF43, 0xF44, 0xF4D, 0xF4E, 0xF52,
    0xF53, 0xF57, 0xF58, 0xF5C, 0xF5D, 0xF69, 0xF6A, 0xF73, 0xF74, 0xF75, 0xF7A, 0xF81, 0xF82,
    0xF85, 0xF86, 0xF93, 0xF94, 0xF9D, 0xF9E, 0xFA2, 0xFA3, 0xFA7, 0xFA8, 0xFAC, 0xFAD, 0xFB9,
    0xFBA, 0xFBE, 0xFC6, 0xFC7, 0xFCD, 0xFCE, 0xFDB, 0x104A, 0x1050, 0x109E, 0x10A0, 0x10FB,
    0x10FD, 0x1100, 0x1200, 0x1360, 0x137D, 0x1390, 0x139A, 0x13F8, 0x13FE, 0x1400, 0x1401,
    0x166D, 0x166F, 0x169B, 0x169D, 0x16EB, 0x16F1, 0x1735, 0x1737, 0x17B4, 0x17B6, 0x17D4,
    0x17D7, 0x17D8, 0x17DC, 0x17F0, 0x17FA, 0x1800, 0x180E, 0x180F, 0x1810, 0x1940, 0x1941,
    0x1944, 0x1946, 0x19DA, 0x19DB, 0x19DE, 0x1A00, 0x1A1E, 0x1A20, 0x1AA0, 0x1AA7, 0x1AA8,
    0x1AAE, 0x1ABE, 0x1ABF, 0x1B5A, 0x1B6B, 0x1B74, 0x1B7F, 0x1BFC, 0x1C00, 0x1C3B, 0x1C40,
    0x1C7E, 0x1C89, 0x1CC0, 0x1CC8, 0x1CD3, 0x1CD4, 0x1D2C, 0x1D2F, 0x1D30, 0x1D3B, 0x1D3C,
    0x1D4E, 0x1D4F, 0x1D6B, 0x1D78, 0x1D79, 0x1D9B, 0x1DC0, 0x1E9A, 0x1E9C, 0x1F71, 0x1F72,
    0x1F73, 0x1F74, 0x1F75, 0x1F76, 0x1F77, 0x1F78, 0x1F79, 0x1F7A, 0x1F7B, 0x1F7C, 0x1F7D,
    0x1F7E, 0x1F80, 0x1F88, 0x1F90, 0x1F98, 0x1FA0, 0x1FA8, 0x1FB2, 0x1FB5, 0x1FB7, 0x1FB8,
    0x1FBD, 0x1FC5, 0x1FC7, 0x1FC8, 0x1FCD, 0x1FD0, 0x1FD3, 0x1FD4, 0x1FDD, 0x1FE0, 0x1FE3,
    0x1FE4, 0x1FED, 0x1FF0, 0x1FF2, 0x1FF5, 0x1FF7, 0x1FF8, 0x1FFD, 0x1FFF, 0x2010, 0x2028,
    0x2030, 0x205F, 0x2070, 0x2072, 0x2074, 0x208F, 0x2090, 0x209D, 0x20A0, 0x20C1, 0x20D0,
    0x20F1, 0x2100, 0x2126, 0x2127, 0x212A, 0x212C, 0x2132, 0x2133, 0x214E, 0x214F, 0x2160,
    0x2170, 0x2183, 0x2185, 0x218C, 0x2190, 0x2427, 0x2440, 0x244B, 0x2460, 0x24B6, 0x24D0,
    0x2B74, 0x2B76, 0x2B96, 0x2B97, 0x2C00, 0x2C7C, 0x2C7E, 0x2CE5, 0x2CEB, 0x2CF9, 0x2D00,
    0x2D6F, 0x2D71, 0x2E00, 0x2E2F, 0x2E30, 0x2E5E, 0x2E80, 0x2E9A, 0x2E9B, 0x2EF4, 0x2F00,
    0x2FD6, 0x2FF0, 0x2FFC, 0x3001, 0x3005, 0x3008, 0x302A, 0x302E, 0x303C, 0x303D, 0x3040,
    0x309B, 0x309D, 0x309F, 0x30A1, 0x30FB, 0x30FC, 0x30FF, 0x3100, 0x3131, 0x318F, 0x3190,
    0x31A0, 0x31C0, 0x31E4, 0x3200, 0x321F, 0x3220, 0x3400, 0x4DC0, 0x4E00, 0xA490, 0xA4C7,
    0xA4FE, 0xA500, 0xA60D, 0xA610, 0xA670, 0xA674, 0xA67E, 0xA67F, 0xA69C, 0xA69E, 0xA6E6,
    0xA6F0, 0xA6F2, 0xA6F8, 0xA700, 0xA717, 0xA720, 0xA722, 0xA770, 0xA771, 0xA789, 0xA78B,
    0xA7F2, 0xA7F5, 0xA7F8, 0xA7FA, 0xA828, 0xA82C, 0xA830, 0xA83A, 0xA874, 0xA878, 0xA8CE,
    0xA8D0, 0xA8F8, 0xA8FB, 0xA8FC, 0xA8FD, 0xA92E, 0xA930, 0xA95F, 0xA97D, 0xA9C1, 0xA9CE,
    0xA9DE, 0xA9E0, 0xAA5C, 0xAA60, 0xAA77, 0xAA7A, 0xAADE, 0xAAE0, 0xAAF0, 0xAAF2, 0xAB5B,
    0xAB60, 0xAB69, 0xAB6C, 0xAB70, 0xABC0, 0xABEB, 0xABEC, 0xD7B0, 0xD7C7, 0xD7CB, 0xD7FC,
    0xF900, 0xFA0E, 0xFA10, 0xFA11, 0xFA12, 0xFA13, 0xFA15, 0xFA1F, 0xFA20, 0xFA21, 0xFA22,
    0xFA23, 0xFA25, 0xFA27, 0xFA2A, 0xFA6E, 0xFA70, 0xFADA, 0xFB00, 0xFB07, 0xFB13, 0xFB18,
    0xFB1D, 0xFB1E, 0xFB1F, 0xFB37, 0xFB38, 0xFB3D, 0xFB3E, 0xFB3F, 0xFB40, 0xFB42, 0xFB43,
    0xFB45, 0xFB46, 0xFBC3, 0xFBD3, 0xFD90, 0xFD92, 0xFDC8, 0xFDCF, 0xFDD0, 0xFDF0, 0xFE1A,
    0xFE30, 0xFE53, 0xFE54, 0xFE67, 0xFE68, 0xFE6C, 0xFE70, 0xFE73, 0xFE74, 0xFE75, 0xFE76,
    0xFEFD, 0xFF01, 0xFF21, 0xFF3B, 0xFFBF, 0xFFC2, 0xFFC8, 0xFFCA, 0xFFD0, 0xFFD2, 0xFFD8,
    0xFFDA, 0xFFDD, 0xFFE0, 0xFFE7, 0xFFE8, 0xFFEF, 0xFFFC, 0xFFFE, 0x10100, 0x10103, 0x10107,
    0x10134, 0x10137, 0x1018F, 0x10190, 0x1019D, 0x101A0, 0x101A1, 0x101D0, 0x101FD, 0x102E1,
    0x102FC, 0x10320, 0x10324, 0x10341, 0x10342, 0x1034A, 0x1034B, 0x1039F, 0x103A0, 0x103D0,
    0x103D6, 0x1056F, 0x10570, 0x10781, 0x10786, 0x10787, 0x107B1, 0x107B2, 0x107BB, 0x10857,
    0x10860, 0x10877, 0x10880, 0x108A7, 0x108B0, 0x108FB, 0x10900, 0x10916, 0x1091C, 0x1091F,
    0x10920, 0x1093F, 0x10940, 0x109BC, 0x109BE, 0x109C0, 0x109D0, 0x109D2, 0x10A00, 0x10A40,
    0x10A49, 0x10A50, 0x10A59, 0x10A7D, 0x10A80, 0x10A9D, 0x10AA0, 0x10AC8, 0x10AC9, 0x10AEB,
    0x10AF7, 0x10B39, 0x10B40, 0x10B58, 0x10B60, 0x10B78, 0x10B80, 0x10B99, 0x10B9D, 0x10BA9,
    0x10BB0, 0x10CFA, 0x10D00, 0x10E60, 0x10E7F, 0x10EAD, 0x10EAE, 0x10F1D, 0x10F27, 0x10F51,
    0x10F5A, 0x10F86, 0x10F8A, 0x10FC5, 0x10FCC, 0x11047, 0x1104E, 0x11052, 0x11066, 0x110BB,
    0x110BD, 0x110BE, 0x110C2, 0x11140, 0x11144, 0x11174, 0x11176, 0x111C5, 0x111C9, 0x111CD,
    0x111CE, 0x111DB, 0x111DC, 0x111DD, 0x111E0, 0x111E1, 0x111F5, 0x11238, 0x1123E, 0x112A9,
    0x112AA, 0x1144B, 0x11450, 0x1145A, 0x1145C, 0x1145D, 0x1145E, 0x114C6, 0x114C7, 0x115C1,
    0x115D8, 0x11641, 0x11644, 0x11660, 0x1166D, 0x116B9, 0x116BA, 0x1173A, 0x11740, 0x1183B,
    0x1183C, 0x118EA, 0x118F3, 0x11944, 0x11947, 0x119E2, 0x119E3, 0x11A3F, 0x11A47, 0x11A9A,
    0x11A9D, 0x11A9E, 0x11AA3, 0x11C41, 0x11C46, 0x11C5A, 0x11C6D, 0x11C70, 0x11C72, 0x11EF7,
    0x11EF9, 0x11FC0, 0x11FF2, 0x11FFF, 0x12000, 0x12400, 0x1246F, 0x12470, 0x12475, 0x12FF1,
    0x12FF3, 0x16A6E, 0x16A70, 0x16AF5, 0x16AF6, 0x16B37, 0x16B40, 0x16B44, 0x16B46, 0x16B5B,
    0x16B62, 0x16E80, 0x16E9B, 0x16FE2, 0x16FE3, 0x1BC9C, 0x1BC9D, 0x1BC9F, 0x1BCA0, 0x1CF50,
    0x1CFC4, 0x1D000, 0x1D0F6, 0x1D100, 0x1D127, 0x1D129, 0x1D173, 0x1D17B, 0x1D1EB, 0x1D200,
    0x1D246, 0x1D2E0, 0x1D2F4, 0x1D300, 0x1D357, 0x1D360, 0x1D379, 0x1D400, 0x1D455, 0x1D456,
    0x1D49D, 0x1D49E, 0x1D4A0, 0x1D4A2, 0x1D4A3, 0x1D4A5, 0x1D4A7, 0x1D4A9, 0x1D4AD, 0x1D4AE,
    0x1D4BA, 0x1D4BB, 0x1D4BC, 0x1D4BD, 0x1D4C4, 0x1D4C5, 0x1D506, 0x1D507, 0x1D50B, 0x1D50D,
    0x1D515, 0x1D516, 0x1D51D, 0x1D51E, 0x1D53A, 0x1D53B, 0x1D53F, 0x1D540, 0x1D545, 0x1D546,
    0x1D547, 0x1D54A, 0x1D551, 0x1D552, 0x1D6A6, 0x1D6A8, 0x1D7CC, 0x1D7CE, 0x1DA00, 0x1DA37,
    0x1DA3B, 0x1DA6D, 0x1DA75, 0x1DA76, 0x1DA84, 0x1DA85, 0x1DA8C, 0x1E14F, 0x1E150, 0x1E2FF,
    0x1E300, 0x1E8C7, 0x1E8D0, 0x1E95E, 0x1E960, 0x1EC71, 0x1ECB5, 0x1ED01, 0x1ED3E, 0x1EE00,
    0x1EE04, 0x1EE05, 0x1EE20, 0x1EE21, 0x1EE23, 0x1EE24, 0x1EE25, 0x1EE27, 0x1EE28, 0x1EE29,
    0x1EE33, 0x1EE34, 0x1EE38, 0x1EE39, 0x1EE3A, 0x1EE3B, 0x1EE3C, 0x1EE42, 0x1EE43, 0x1EE47,
    0x1EE48, 0x1EE49, 0x1EE4A, 0x1EE4B, 0x1EE4C, 0x1EE4D, 0x1EE50, 0x1EE51, 0x1EE53, 0x1EE54,
    0x1EE55, 0x1EE57, 0x1EE58, 0x1EE59, 0x1EE5A, 0x1EE5B, 0x1EE5C, 0x1EE5D, 0x1EE5E, 0x1EE5F,
    0x1EE60, 0x1EE61, 0x1EE63, 0x1EE64, 0x1EE65, 0x1EE67, 0x1EE6B, 0x1EE6C, 0x1EE73, 0x1EE74,
    0x1EE78, 0x1EE79, 0x1EE7D, 0x1EE7E, 0x1EE7F, 0x1EE80, 0x1EE8A, 0x1EE8B, 0x1EE9C, 0x1EEA1,
    0x1EEA4, 0x1EEA5, 0x1EEAA, 0x1EEAB, 0x1EEBC, 0x1EEF0, 0x1EEF2, 0x1F000, 0x1F02C, 0x1F030,
    0x1F094, 0x1F0A0, 0x1F0AF, 0x1F0B1, 0x1F0C0, 0x1F0C1, 0x1F0D0, 0x1F0D1, 0x1F0F6, 0x1F100,
    0x1F1AE, 0x1F1E6, 0x1F203, 0x1F210, 0x1F23C, 0x1F240, 0x1F249, 0x1F250, 0x1F252, 0x1F260,
    0x1F266, 0x1F300, 0x1F6D8, 0x1F6DD, 0x1F6ED, 0x1F6F0, 0x1F6FD, 0x1F700, 0x1F774, 0x1F780,
    0x1F7D9, 0x1F7E0, 0x1F7EC, 0x1F7F0, 0x1F7F1, 0x1F800, 0x1F80C, 0x1F810, 0x1F848, 0x1F850,
    0x1F85A, 0x1F860, 0x1F888, 0x1F890, 0x1F8AE, 0x1F8B0, 0x1F8B2, 0x1F900, 0x1FA54, 0x1FA60,
    0x1FA6E, 0x1FA70, 0x1FA75, 0x1FA78, 0x1FA7D, 0x1FA80, 0x1FA87, 0x1FA90, 0x1FAAD, 0x1FAB0,
    0x1FABB, 0x1FAC0, 0x1FAC6, 0x1FAD0, 0x1FADA, 0x1FAE0, 0x1FAE8, 0x1FAF0, 0x1FAF7, 0x1FB00,
    0x1FB93, 0x1FB94, 0x1FBCB, 0x1FBF0, 0x1FBFA, 0x2F800, 0x2FA1E, 0xE0100, 0xE01F0
  ]

/-- A letter of Cherokee in upper case. -/
def isCherokee (c : CodePoint) : Bool :=
  0x13A0 ≤ c.val && c.val ≤ 0x13F5

/-- A code point that a label may hold. -/
def isLabelPoint (c : CodePoint) : Bool :=
  c.isPrintable && c.isInside labelBounds && (c.isCherokee || c.lowercase == [c])

/-- The code points at which being allowed changes among those that were not yet given out. -/
def laterBounds : List Nat :=
  [
    0x88F, 0x890, 0x897, 0x8E2, 0xC5C, 0xC5E, 0xCDC, 0xCDF, 0xCF3, 0xCF4, 0xECE, 0xECF, 0x1ACF,
    0x1ADE, 0x1AE0, 0x1AEC, 0x1C8A, 0x1C8B, 0xA7CD, 0xA7CE, 0xA7CF, 0xA7D2, 0xA7DB, 0xA7DC,
    0x105C0, 0x105F4, 0x10940, 0x1095A, 0x10D40, 0x10D50, 0x10D69, 0x10D6E, 0x10D6F, 0x10D86,
    0x10EC2, 0x10EC8, 0x10EFA, 0x10F28, 0x1123F, 0x11242, 0x11380, 0x1138A, 0x1138B, 0x1138C,
    0x1138E, 0x1138F, 0x11390, 0x113B6, 0x113B7, 0x113C1, 0x113C2, 0x113C3, 0x113C5, 0x113C6,
    0x113C7, 0x113CB, 0x113CC, 0x113D4, 0x113E1, 0x113E3, 0x116D0, 0x116E4, 0x11B60, 0x11B68,
    0x11BC0, 0x11BE1, 0x11BF0, 0x11BFA, 0x11DB0, 0x11DDC, 0x11DE0, 0x11DEA, 0x11F00, 0x11F11,
    0x11F12, 0x11F3B, 0x11F3E, 0x11F43, 0x11F50, 0x11F5B, 0x1342F, 0x13430, 0x13440, 0x13456,
    0x13460, 0x143FB, 0x16100, 0x1613A, 0x16D40, 0x16D6D, 0x16D70, 0x16D7A, 0x16EBB, 0x16ED4,
    0x16FF2, 0x16FF4, 0x187F8, 0x18CD6, 0x18CFF, 0x18D1F, 0x18D80, 0x18DF3, 0x1B132, 0x1B133,
    0x1B155, 0x1B156, 0x1DF25, 0x1DF2B, 0x1E08F, 0x1E090, 0x1E4D0, 0x1E4FA, 0x1E5D0, 0x1E5FB,
    0x1E6C0, 0x1E6DF, 0x1E6E0, 0x1E6F6, 0x1E6FE, 0x1E700, 0x2B739, 0x2B81E, 0x2CEA2, 0x2CEAE,
    0x2EBF0, 0x2EE5E, 0x31350, 0x3347A
  ]

/-- A code point that a label may hold and that was not yet given out. -/
def isLaterPoint (c : CodePoint) : Bool :=
  !c.isPrintable && c.isInside laterBounds

end AlarmFeed.CodePoint
