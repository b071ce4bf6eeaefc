import FluidSheet.Text.Classes

namespace FluidSheet.Cells

-- Wide, but no emoji.
def wideRuns : List Nat :=
  [0x1100, 0x1160, 0x17a4, 0x17a5, 0x2329, 0x232b, 0x2630, 0x2638, 0x268a, 0x2690, 0x2e80, 0x2e9a,
   0x2e9b, 0x2ef4, 0x2f00, 0x2fd6, 0x2ff0, 0x302a, 0x3030, 0x303f, 0x3041, 0x3097, 0x309b, 0x3100,
   0x3105, 0x3130, 0x3131, 0x3164, 0x3165, 0x318f, 0x3190, 0x31e6, 0x31ef, 0x321f, 0x3220, 0x3248,
   0x3250, 0xa48d, 0xa490, 0xa4c7, 0xa960, 0xa97d, 0xac00, 0xd7a4, 0xf900, 0xfb00, 0xfe10, 0xfe1a,
   0xfe30, 0xfe53, 0xfe54, 0xfe67, 0xfe68, 0xfe6c, 0xff01, 0xff61, 0xffe0, 0xffe7, 0x16fe0,
   0x16fe4, 0x16ff2, 0x16ff7, 0x17000, 0x18cd6, 0x18cff, 0x18d1f, 0x18d80, 0x18df3, 0x1aff0,
   0x1aff4, 0x1aff5, 0x1affc, 0x1affd, 0x1afff, 0x1b000, 0x1b123, 0x1b132, 0x1b133, 0x1b150,
   0x1b153, 0x1b155, 0x1b156, 0x1b164, 0x1b168, 0x1b170, 0x1b2fc, 0x1d300, 0x1d357, 0x1d360,
   0x1d377, 0x1f200, 0x1f201, 0x1f202, 0x1f203, 0x1f210, 0x1f21a, 0x1f21b, 0x1f22f, 0x1f230,
   0x1f232, 0x1f237, 0x1f238, 0x1f23b, 0x1f23c, 0x1f240, 0x1f249, 0x1f260, 0x1f266, 0x20000,
   0x2fffe, 0x30000, 0x3fffe]

-- Emoji that may also be shown as text, and are narrow then.
def textualRuns : List Nat :=
  [0x231a, 0x231c, 0x23e9, 0x23ed, 0x23f0, 0x23f1, 0x23f3, 0x23f4, 0x25fd, 0x25ff, 0x2614, 0x2616,
   0x2648, 0x2654, 0x267f, 0x2680, 0x2693, 0x2694, 0x26a1, 0x26a2, 0x26aa, 0x26ac, 0x26bd, 0x26bf,
   0x26c4, 0x26c6, 0x26ce, 0x26cf, 0x26d4, 0x26d5, 0x26ea, 0x26eb, 0x26f2, 0x26f4, 0x26f5, 0x26f6,
   0x26fa, 0x26fb, 0x26fd, 0x26fe, 0x2705, 0x2706, 0x270a, 0x270c, 0x2728, 0x2729, 0x274c, 0x274d,
   0x274e, 0x274f, 0x2753, 0x2756, 0x2757, 0x2758, 0x2795, 0x2798, 0x27b0, 0x27b1, 0x27bf, 0x27c0,
   0x2b1b, 0x2b1d, 0x2b50, 0x2b51, 0x2b55, 0x2b56, 0x1f004, 0x1f005, 0x1f30d, 0x1f310, 0x1f315,
   0x1f316, 0x1f31c, 0x1f31d, 0x1f378, 0x1f379, 0x1f393, 0x1f394, 0x1f3a7, 0x1f3a8, 0x1f3ac,
   0x1f3af, 0x1f3c2, 0x1f3c3, 0x1f3c4, 0x1f3c5, 0x1f3c6, 0x1f3c7, 0x1f3ca, 0x1f3cb, 0x1f3e0,
   0x1f3e1, 0x1f3ed, 0x1f3ee, 0x1f408, 0x1f409, 0x1f415, 0x1f416, 0x1f41f, 0x1f420, 0x1f426,
   0x1f427, 0x1f442, 0x1f443, 0x1f446, 0x1f44a, 0x1f44d, 0x1f44f, 0x1f453, 0x1f454, 0x1f46a,
   0x1f46b, 0x1f47d, 0x1f47e, 0x1f4a3, 0x1f4a4, 0x1f4b0, 0x1f4b1, 0x1f4b3, 0x1f4b4, 0x1f4bb,
   0x1f4bc, 0x1f4bf, 0x1f4c0, 0x1f4cb, 0x1f4cc, 0x1f4da, 0x1f4db, 0x1f4df, 0x1f4e0, 0x1f4e4,
   0x1f4e7, 0x1f4ea, 0x1f4ee, 0x1f4f7, 0x1f4f8, 0x1f4f9, 0x1f4fc, 0x1f508, 0x1f509, 0x1f50d,
   0x1f50e, 0x1f512, 0x1f514, 0x1f550, 0x1f568, 0x1f610, 0x1f611, 0x1f687, 0x1f688, 0x1f68d,
   0x1f68e, 0x1f691, 0x1f692, 0x1f694, 0x1f695, 0x1f698, 0x1f699, 0x1f6ad, 0x1f6ae, 0x1f6b2,
   0x1f6b3, 0x1f6b9, 0x1f6bb, 0x1f6bc, 0x1f6bd]

def recentEmojiRuns : List Nat :=
  [0x1f6d8, 0x1f6d9, 0x1fa8a, 0x1fa8b, 0x1fa8e, 0x1fa8f, 0x1fac8, 0x1fac9, 0x1facd, 0x1face,
   0x1faea, 0x1faeb, 0x1faef, 0x1faf0]

def innerJamoRuns : List Nat :=
  [0x1160, 0x1200, 0xd7b0, 0xd7c7, 0xd7cb, 0xd7fc]

def leadingRuns : List Nat :=
  [0x605, 0x606, 0x70f, 0x710, 0x890, 0x892, 0x8e2, 0x8e3, 0xd4e, 0xd4f, 0xa8fa, 0xa8fb, 0x111c2,
   0x111c4, 0x113d1, 0x113d2, 0x1193f, 0x11940, 0x11941, 0x11942, 0x11a84, 0x11a8a, 0x11d46,
   0x11d47, 0x11f02, 0x11f03]

-- A mark that would attach to the character before it, but has a place of its own.
def tifinaghJoiner : Char := '\u2d7f'

def isJoining (c : Char) : Bool :=
  (Text.isExtending c && c != tifinaghJoiner) || (Text.isIgnorable c && c != '\u115f') ||
    inRuns innerJamoRuns c.toNat || inRuns leadingRuns c.toNat

def isIndicator (c : Char) : Bool := inRuns Property.regionalIndicatorRuns c.toNat

def isModifier (c : Char) : Bool := inRuns Property.emojiModifierRuns c.toNat

def isPresented (c : Char) : Bool :=
  (inRuns Property.emojiPresentationRuns c.toNat || inRuns recentEmojiRuns c.toNat) &&
    !isIndicator c && !isModifier c

-- A vowel that is written on both sides of its letter.
def khmerBeyyal : Char := '\u17d8'

def ofChar (c : Char) : Nat :=
  if c.toNat ≤ 0xa0 then 1
  else if isJoining c then 0
  else if isPresented c || isModifier c || inRuns wideRuns c.toNat then 2
  else if c = khmerBeyyal then 3
  else 1

end FluidSheet.Cells
