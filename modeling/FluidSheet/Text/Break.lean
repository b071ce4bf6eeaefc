import FluidSheet.Text.Runs

-- Characters whose part in breaking texts does not follow from their category and properties. Version 16.

namespace FluidSheet.Break

def tagRuns : List Nat :=
  [0xe0020, 0xe0080]

-- Spacing marks that stand apart, and letters that attach like one.
def clusterSpacingRuns : List Nat :=
  [0xe33, 0xe34, 0xeb3, 0xeb4, 0x102b, 0x102d, 0x1038, 0x1039, 0x1062, 0x1065, 0x1067, 0x106e,
   0x1083, 0x1084, 0x1087, 0x108d, 0x108f, 0x1090, 0x109a, 0x109d, 0x1a61, 0x1a62, 0x1a63, 0x1a65,
   0xaa7b, 0xaa7c, 0xaa7d, 0xaa7e, 0x11720, 0x11722]

-- Characters that attach to the next one without being marks of numbers.
def clusterPrependRuns : List Nat :=
  [0xd4e, 0xd4f, 0x111c2, 0x111c4, 0x113d1, 0x113d2, 0x1193f, 0x11940, 0x11941, 0x11942, 0x11a3a,
   0x11a3b, 0x11a84, 0x11a8a, 0x11d46, 0x11d47, 0x11f02, 0x11f03]

def leadingJamoRuns : List Nat :=
  [0x1100, 0x1160, 0xa960, 0xa97d]

def vowelJamoRuns : List Nat :=
  [0x1160, 0x11a8, 0xd7b0, 0xd7c7, 0x16d63, 0x16d64, 0x16d67, 0x16d6b]

def trailingJamoRuns : List Nat :=
  [0x11a8, 0x1200, 0xd7cb, 0xd7fc]

def wordFormatRuns : List Nat :=
  [0x600, 0x606, 0x6dd, 0x6de, 0x70f, 0x710, 0x890, 0x892, 0x8e2, 0x8e3, 0x110bd, 0x110be, 0x110cd,
   0x110ce, 0xe0020, 0xe0080]

def wordNumericRuns : List Nat :=
  [0x600, 0x606, 0x66b, 0x66c, 0x6dd, 0x6de, 0x890, 0x892, 0x8e2, 0x8e3, 0x19da, 0x19db, 0x110bd,
   0x110be, 0x110cd, 0x110ce]

def wordLetterRuns : List Nat :=
  [0x2c2, 0x2c6, 0x2d2, 0x2d8, 0x2de, 0x2e0, 0x2e5, 0x2ec, 0x2ed, 0x2ee, 0x2ef, 0x300, 0x55a,
   0x55d, 0x55e, 0x55f, 0x58a, 0x58b, 0x5f3, 0x5f4, 0x70f, 0x710, 0xe01, 0xe31, 0xe32, 0xe34,
   0xe40, 0xe47, 0xe81, 0xe83, 0xe84, 0xe85, 0xe86, 0xe8b, 0xe8c, 0xea4, 0xea5, 0xea6, 0xea7,
   0xeb1, 0xeb2, 0xeb4, 0xebd, 0xebe, 0xec0, 0xec5, 0xec6, 0xec7, 0xedc, 0xee0, 0x1000, 0x102b,
   0x103f, 0x1040, 0x1050, 0x1056, 0x105a, 0x105e, 0x1061, 0x1062, 0x1065, 0x1067, 0x106e, 0x1071,
   0x1075, 0x1082, 0x108e, 0x108f, 0x1780, 0x17b4, 0x17d7, 0x17d8, 0x17dc, 0x17dd, 0x1950, 0x196e,
   0x1970, 0x1975, 0x1980, 0x19ac, 0x19b0, 0x19ca, 0x1a20, 0x1a55, 0x1aa7, 0x1aa8, 0x3041, 0x3097,
   0x309d, 0x30a0, 0xa708, 0xa717, 0xa720, 0xa722, 0xa789, 0xa78b, 0xa9e0, 0xa9e5, 0xa9e6, 0xa9f0,
   0xa9fa, 0xa9ff, 0xaa60, 0xaa77, 0xaa7a, 0xaa7b, 0xaa7e, 0xaab0, 0xaab1, 0xaab2, 0xaab5, 0xaab7,
   0xaab9, 0xaabe, 0xaac0, 0xaac1, 0xaac2, 0xaac3, 0xaadb, 0xaade, 0xab5b, 0xab5c, 0x11700,
   0x1171b, 0x11740, 0x11747, 0x1b001, 0x1b120, 0x1b132, 0x1b133, 0x1b150, 0x1b153]

def wordKatakanaRuns : List Nat :=
  [0x3031, 0x3036, 0x309b, 0x309d, 0x30a0, 0x30a1, 0x30fc, 0x30fd, 0xff70, 0xff71]

def midLetterRuns : List Nat :=
  [0x3a, 0x3b, 0xb7, 0xb8, 0x387, 0x388, 0x55f, 0x560, 0x5f4, 0x5f5, 0x2027, 0x2028, 0xfe13,
   0xfe14, 0xfe55, 0xfe56, 0xff1a, 0xff1b]

def midNumberRuns : List Nat :=
  [0x2c, 0x2d, 0x3b, 0x3c, 0x37e, 0x37f, 0x589, 0x58a, 0x60c, 0x60e, 0x66c, 0x66d, 0x7f8, 0x7f9,
   0x2044, 0x2045, 0xfe50, 0xfe51, 0xfe54, 0xfe55, 0xff0c, 0xff0d, 0xff1b, 0xff1c]

def midNumberLetterRuns : List Nat :=
  [0x2e, 0x2f, 0x2018, 0x201a, 0x2024, 0x2025, 0xfe52, 0xfe53, 0xff07, 0xff08, 0xff0e, 0xff0f]

def newlineRuns : List Nat :=
  [0xb, 0xd, 0x85, 0x86, 0x2028, 0x202a]

def gluedSpaceRuns : List Nat :=
  [0xa0, 0xa1, 0x2007, 0x2008, 0x202f, 0x2030]

-- Georgian letters, which sentences do not tell apart by case.
def sentenceLowerRuns : List Nat :=
  [0x10d0, 0x10fb, 0x10fd, 0x1100]

def sentenceUpperRuns : List Nat :=
  [0x1c90, 0x1cbb, 0x1cbd, 0x1cc0]

def sentenceFormatRuns : List Nat :=
  [0x70f, 0x710, 0x200b, 0x200c]

def fullStopRuns : List Nat :=
  [0x2e, 0x2f, 0x2024, 0x2025, 0xfe52, 0xfe53, 0xff0e, 0xff0f]

def sentenceCloseRuns : List Nat :=
  [0x275b, 0x2761, 0x2e00, 0x2e0e, 0x2e1c, 0x2e1e, 0x2e20, 0x2e22, 0xff02, 0xff03, 0xff07, 0xff08,
   0x1f676, 0x1f679]

def continueRuns : List Nat :=
  [0x2c, 0x2e, 0x3a, 0x3c, 0x37e, 0x37f, 0x55d, 0x55e, 0x60c, 0x60e, 0x7f8, 0x7f9, 0x1802, 0x1803,
   0x1808, 0x1809, 0x2013, 0x2015, 0x3001, 0x3002, 0xfe10, 0xfe12, 0xfe13, 0xfe15, 0xfe31, 0xfe33,
   0xfe50, 0xfe52, 0xfe54, 0xfe56, 0xfe58, 0xfe59, 0xfe63, 0xfe64, 0xff0c, 0xff0e, 0xff1a, 0xff1c,
   0xff64, 0xff65]

def separatorRuns : List Nat :=
  [0x85, 0x86, 0x2028, 0x202a]

end FluidSheet.Break
