import FluidSheet.Text.Runs

namespace FluidSheet

structure Age where
  major : Nat
  minor : Nat
  runs : List Nat

namespace Age

def runs1Point1 : List Nat :=
  [0x0, 0x1f6, 0x1fa, 0x218, 0x250, 0x2a9, 0x2b0, 0x2df, 0x2e0, 0x2ea, 0x300, 0x346, 0x360, 0x362,
   0x374, 0x376, 0x37a, 0x37b, 0x37e, 0x37f, 0x384, 0x38b, 0x38c, 0x38d, 0x38e, 0x3a2, 0x3a3,
   0x3cf, 0x3d0, 0x3d7, 0x3da, 0x3db, 0x3dc, 0x3dd, 0x3de, 0x3df, 0x3e0, 0x3e1, 0x3e2, 0x3f4,
   0x401, 0x40d, 0x40e, 0x450, 0x451, 0x45d, 0x45e, 0x487, 0x490, 0x4c5, 0x4c7, 0x4c9, 0x4cb,
   0x4cd, 0x4d0, 0x4ec, 0x4ee, 0x4f6, 0x4f8, 0x4fa, 0x531, 0x557, 0x559, 0x560, 0x561, 0x588,
   0x589, 0x58a, 0x5b0, 0x5ba, 0x5bb, 0x5c4, 0x5d0, 0x5eb, 0x5f0, 0x5f5, 0x60c, 0x60d, 0x61b,
   0x61c, 0x61f, 0x620, 0x621, 0x63b, 0x640, 0x653, 0x660, 0x66e, 0x670, 0x6b8, 0x6ba, 0x6bf,
   0x6c0, 0x6cf, 0x6d0, 0x6ee, 0x6f0, 0x6fa, 0x901, 0x904, 0x905, 0x93a, 0x93c, 0x94e, 0x950,
   0x955, 0x958, 0x971, 0x981, 0x984, 0x985, 0x98d, 0x98f, 0x991, 0x993, 0x9a9, 0x9aa, 0x9b1,
   0x9b2, 0x9b3, 0x9b6, 0x9ba, 0x9bc, 0x9bd, 0x9be, 0x9c5, 0x9c7, 0x9c9, 0x9cb, 0x9ce, 0x9d7,
   0x9d8, 0x9dc, 0x9de, 0x9df, 0x9e4, 0x9e6, 0x9fb, 0xa02, 0xa03, 0xa05, 0xa0b, 0xa0f, 0xa11,
   0xa13, 0xa29, 0xa2a, 0xa31, 0xa32, 0xa34, 0xa35, 0xa37, 0xa38, 0xa3a, 0xa3c, 0xa3d, 0xa3e,
   0xa43, 0xa47, 0xa49, 0xa4b, 0xa4e, 0xa59, 0xa5d, 0xa5e, 0xa5f, 0xa66, 0xa75, 0xa81, 0xa84,
   0xa85, 0xa8c, 0xa8d, 0xa8e, 0xa8f, 0xa92, 0xa93, 0xaa9, 0xaaa, 0xab1, 0xab2, 0xab4, 0xab5,
   0xaba, 0xabc, 0xac6, 0xac7, 0xaca, 0xacb, 0xace, 0xad0, 0xad1, 0xae0, 0xae1, 0xae6, 0xaf0,
   0xb01, 0xb04, 0xb05, 0xb0d, 0xb0f, 0xb11, 0xb13, 0xb29, 0xb2a, 0xb31, 0xb32, 0xb34, 0xb36,
   0xb3a, 0xb3c, 0xb44, 0xb47, 0xb49, 0xb4b, 0xb4e, 0xb56, 0xb58, 0xb5c, 0xb5e, 0xb5f, 0xb62,
   0xb66, 0xb71, 0xb82, 0xb84, 0xb85, 0xb8b, 0xb8e, 0xb91, 0xb92, 0xb96, 0xb99, 0xb9b, 0xb9c,
   0xb9d, 0xb9e, 0xba0, 0xba3, 0xba5, 0xba8, 0xbab, 0xbae, 0xbb6, 0xbb7, 0xbba, 0xbbe, 0xbc3,
   0xbc6, 0xbc9, 0xbca, 0xbce, 0xbd7, 0xbd8, 0xbe7, 0xbf3, 0xc01, 0xc04, 0xc05, 0xc0d, 0xc0e,
   0xc11, 0xc12, 0xc29, 0xc2a, 0xc34, 0xc35, 0xc3a, 0xc3e, 0xc45, 0xc46, 0xc49, 0xc4a, 0xc4e,
   0xc55, 0xc57, 0xc60, 0xc62, 0xc66, 0xc70, 0xc82, 0xc84, 0xc85, 0xc8d, 0xc8e, 0xc91, 0xc92,
   0xca9, 0xcaa, 0xcb4, 0xcb5, 0xcba, 0xcbe, 0xcc5, 0xcc6, 0xcc9, 0xcca, 0xcce, 0xcd5, 0xcd7,
   0xcde, 0xcdf, 0xce0, 0xce2, 0xce6, 0xcf0, 0xd02, 0xd04, 0xd05, 0xd0d, 0xd0e, 0xd11, 0xd12,
   0xd29, 0xd2a, 0xd3a, 0xd3e, 0xd44, 0xd46, 0xd49, 0xd4a, 0xd4e, 0xd57, 0xd58, 0xd60, 0xd62,
   0xd66, 0xd70, 0xe01, 0xe3b, 0xe3f, 0xe5c, 0xe81, 0xe83, 0xe84, 0xe85, 0xe87, 0xe89, 0xe8a,
   0xe8b, 0xe8d, 0xe8e, 0xe94, 0xe98, 0xe99, 0xea0, 0xea1, 0xea4, 0xea5, 0xea6, 0xea7, 0xea8,
   0xeaa, 0xeac, 0xead, 0xeba, 0xebb, 0xebe, 0xec0, 0xec5, 0xec6, 0xec7, 0xec8, 0xece, 0xed0,
   0xeda, 0xedc, 0xede, 0x10a0, 0x10c6, 0x10d0, 0x10f7, 0x10fb, 0x10fc, 0x1100, 0x115a, 0x115f,
   0x11a3, 0x11a8, 0x11fa, 0x1e00, 0x1e9b, 0x1ea0, 0x1efa, 0x1f00, 0x1f16, 0x1f18, 0x1f1e, 0x1f20,
   0x1f46, 0x1f48, 0x1f4e, 0x1f50, 0x1f58, 0x1f59, 0x1f5a, 0x1f5b, 0x1f5c, 0x1f5d, 0x1f5e, 0x1f5f,
   0x1f7e, 0x1f80, 0x1fb5, 0x1fb6, 0x1fc5, 0x1fc6, 0x1fd4, 0x1fd6, 0x1fdc, 0x1fdd, 0x1ff0, 0x1ff2,
   0x1ff5, 0x1ff6, 0x1fff, 0x2000, 0x202f, 0x2030, 0x2047, 0x206a, 0x2071, 0x2074, 0x208f, 0x20a0,
   0x20ab, 0x20d0, 0x20e2, 0x2100, 0x2139, 0x2153, 0x2183, 0x2190, 0x21eb, 0x2200, 0x22f2, 0x2300,
   0x2301, 0x2302, 0x237b, 0x2400, 0x2425, 0x2440, 0x244b, 0x2460, 0x24eb, 0x2500, 0x2596, 0x25a0,
   0x25f0, 0x2600, 0x2614, 0x261a, 0x2670, 0x2701, 0x2705, 0x2706, 0x270a, 0x270c, 0x2728, 0x2729,
   0x274c, 0x274d, 0x274e, 0x274f, 0x2753, 0x2756, 0x2757, 0x2758, 0x275f, 0x2761, 0x2768, 0x2776,
   0x2795, 0x2798, 0x27b0, 0x27b1, 0x27bf, 0x3000, 0x3038, 0x303f, 0x3040, 0x3041, 0x3095, 0x3099,
   0x309f, 0x30a1, 0x30ff, 0x3105, 0x312d, 0x3131, 0x318f, 0x3190, 0x31a0, 0x3200, 0x321d, 0x3220,
   0x3244, 0x3260, 0x327c, 0x327f, 0x32b1, 0x32c0, 0x32cc, 0x32d0, 0x32ff, 0x3300, 0x3377, 0x337b,
   0x33de, 0x33e0, 0x33ff, 0x4e00, 0x9fa6, 0xe000, 0xfa2e, 0xfb00, 0xfb07, 0xfb13, 0xfb18, 0xfb1e,
   0xfb37, 0xfb38, 0xfb3d, 0xfb3e, 0xfb3f, 0xfb40, 0xfb42, 0xfb43, 0xfb45, 0xfb46, 0xfbb2, 0xfbd3,
   0xfd40, 0xfd50, 0xfd90, 0xfd92, 0xfdc8, 0xfdf0, 0xfdfc, 0xfe20, 0xfe24, 0xfe30, 0xfe45, 0xfe49,
   0xfe53, 0xfe54, 0xfe67, 0xfe68, 0xfe6c, 0xfe70, 0xfe73, 0xfe74, 0xfe75, 0xfe76, 0xfefd, 0xfeff,
   0xff00, 0xff01, 0xff5f, 0xff61, 0xffbf, 0xffc2, 0xffc8, 0xffca, 0xffd0, 0xffd2, 0xffd8, 0xffda,
   0xffdd, 0xffe0, 0xffe7, 0xffe8, 0xffef, 0xfffd, 0x10000]

def runs2Point0 : List Nat :=
  [0x591, 0x5a2, 0x5a3, 0x5b0, 0x5c4, 0x5c5, 0xf00, 0xf48, 0xf49, 0xf6a, 0xf71, 0xf8c, 0xf90,
   0xf96, 0xf97, 0xf98, 0xf99, 0xfae, 0xfb1, 0xfb8, 0xfb9, 0xfba, 0x1e9b, 0x1e9c, 0x20ab, 0x20ac,
   0xac00, 0xd7a4, 0x1fffe, 0x20000, 0x2fffe, 0x30000, 0x3fffe, 0x40000, 0x4fffe, 0x50000, 0x5fffe,
   0x60000, 0x6fffe, 0x70000, 0x7fffe, 0x80000, 0x8fffe, 0x90000, 0x9fffe, 0xa0000, 0xafffe,
   0xb0000, 0xbfffe, 0xc0000, 0xcfffe, 0xd0000, 0xdfffe, 0xe0000, 0xefffe, 0x110000]

def runs2Point1 : List Nat :=
  [0x20ac, 0x20ad, 0xfffc, 0xfffd]

def runs3Point0 : List Nat :=
  [0x1f6, 0x1fa, 0x218, 0x220, 0x222, 0x234, 0x2a9, 0x2ae, 0x2df, 0x2e0, 0x2ea, 0x2ef, 0x346,
   0x34f, 0x362, 0x363, 0x3d7, 0x3d8, 0x3db, 0x3dc, 0x3dd, 0x3de, 0x3df, 0x3e0, 0x3e1, 0x3e2,
   0x400, 0x401, 0x40d, 0x40e, 0x450, 0x451, 0x45d, 0x45e, 0x488, 0x48a, 0x48c, 0x490, 0x4ec,
   0x4ee, 0x58a, 0x58b, 0x653, 0x656, 0x6b8, 0x6ba, 0x6bf, 0x6c0, 0x6cf, 0x6d0, 0x6fa, 0x6ff,
   0x700, 0x70e, 0x70f, 0x72d, 0x730, 0x74b, 0x780, 0x7b1, 0xd82, 0xd84, 0xd85, 0xd97, 0xd9a,
   0xdb2, 0xdb3, 0xdbc, 0xdbd, 0xdbe, 0xdc0, 0xdc7, 0xdca, 0xdcb, 0xdcf, 0xdd5, 0xdd6, 0xdd7,
   0xdd8, 0xde0, 0xdf2, 0xdf5, 0xf6a, 0xf6b, 0xf96, 0xf97, 0xfae, 0xfb1, 0xfb8, 0xfb9, 0xfba,
   0xfbd, 0xfbe, 0xfcd, 0xfcf, 0xfd0, 0x1000, 0x1022, 0x1023, 0x1028, 0x1029, 0x102b, 0x102c,
   0x1033, 0x1036, 0x103a, 0x1040, 0x105a, 0x1200, 0x1207, 0x1208, 0x1247, 0x1248, 0x1249, 0x124a,
   0x124e, 0x1250, 0x1257, 0x1258, 0x1259, 0x125a, 0x125e, 0x1260, 0x1287, 0x1288, 0x1289, 0x128a,
   0x128e, 0x1290, 0x12af, 0x12b0, 0x12b1, 0x12b2, 0x12b6, 0x12b8, 0x12bf, 0x12c0, 0x12c1, 0x12c2,
   0x12c6, 0x12c8, 0x12cf, 0x12d0, 0x12d7, 0x12d8, 0x12ef, 0x12f0, 0x130f, 0x1310, 0x1311, 0x1312,
   0x1316, 0x1318, 0x131f, 0x1320, 0x1347, 0x1348, 0x135b, 0x1361, 0x137d, 0x13a0, 0x13f5, 0x1401,
   0x1677, 0x1680, 0x169d, 0x16a0, 0x16f1, 0x1780, 0x17dd, 0x17e0, 0x17ea, 0x1800, 0x180f, 0x1810,
   0x181a, 0x1820, 0x1878, 0x1880, 0x18aa, 0x202f, 0x2030, 0x2048, 0x204e, 0x20ad, 0x20b0, 0x20e2,
   0x20e4, 0x2139, 0x213b, 0x2183, 0x2184, 0x21eb, 0x21f4, 0x2301, 0x2302, 0x237b, 0x237c, 0x237d,
   0x239b, 0x2425, 0x2427, 0x25f0, 0x25f8, 0x2619, 0x261a, 0x2670, 0x2672, 0x2800, 0x2900, 0x2e80,
   0x2e9a, 0x2e9b, 0x2ef4, 0x2f00, 0x2fd6, 0x2ff0, 0x2ffc, 0x3038, 0x303b, 0x303e, 0x303f, 0x31a0,
   0x31b8, 0x3400, 0x4db6, 0xa000, 0xa48d, 0xa490, 0xa4a2, 0xa4a4, 0xa4b4, 0xa4b5, 0xa4c1, 0xa4c2,
   0xa4c5, 0xa4c6, 0xa4c7, 0xfb1d, 0xfb1e, 0xfff9, 0xfffc]

def runs3Point1 : List Nat :=
  [0x3f4, 0x3f6, 0xfdd0, 0xfdf0, 0x10300, 0x1031f, 0x10320, 0x10324, 0x10330, 0x1034b, 0x10400,
   0x10426, 0x10428, 0x1044e, 0x1d000, 0x1d0f6, 0x1d100, 0x1d127, 0x1d12a, 0x1d1de, 0x1d400,
   0x1d455, 0x1d456, 0x1d49d, 0x1d49e, 0x1d4a0, 0x1d4a2, 0x1d4a3, 0x1d4a5, 0x1d4a7, 0x1d4a9,
   0x1d4ad, 0x1d4ae, 0x1d4ba, 0x1d4bb, 0x1d4bc, 0x1d4bd, 0x1d4c1, 0x1d4c2, 0x1d4c4, 0x1d4c5,
   0x1d506, 0x1d507, 0x1d50b, 0x1d50d, 0x1d515, 0x1d516, 0x1d51d, 0x1d51e, 0x1d53a, 0x1d53b,
   0x1d53f, 0x1d540, 0x1d545, 0x1d546, 0x1d547, 0x1d54a, 0x1d551, 0x1d552, 0x1d6a4, 0x1d6a8,
   0x1d7ca, 0x1d7ce, 0x1d800, 0x20000, 0x2a6d7, 0x2f800, 0x2fa1e, 0xe0001, 0xe0002, 0xe0020, 0xe0080]

def runs3Point2 : List Nat :=
  [0x220, 0x221, 0x34f, 0x350, 0x363, 0x370, 0x3d8, 0x3da, 0x3f6, 0x3f7, 0x48a, 0x48c, 0x4c5,
   0x4c7, 0x4c9, 0x4cb, 0x4cd, 0x4cf, 0x500, 0x510, 0x66e, 0x670, 0x7b1, 0x7b2, 0x10f7, 0x10f9,
   0x1700, 0x170d, 0x170e, 0x1715, 0x1720, 0x1737, 0x1740, 0x1754, 0x1760, 0x176d, 0x176e, 0x1771,
   0x1772, 0x1774, 0x2047, 0x2048, 0x204e, 0x2053, 0x2057, 0x2058, 0x205f, 0x2064, 0x2071, 0x2072,
   0x20b0, 0x20b2, 0x20e4, 0x20eb, 0x213d, 0x214c, 0x21f4, 0x2200, 0x22f2, 0x2300, 0x237c, 0x237d,
   0x239b, 0x23cf, 0x24eb, 0x24ff, 0x2596, 0x25a0, 0x25f8, 0x2600, 0x2616, 0x2618, 0x2672, 0x267e,
   0x2680, 0x268a, 0x2768, 0x2776, 0x27d0, 0x27ec, 0x27f0, 0x2800, 0x2900, 0x2b00, 0x303b, 0x303e,
   0x3095, 0x3097, 0x309f, 0x30a1, 0x30ff, 0x3100, 0x31f0, 0x3200, 0x3251, 0x3260, 0x32b1, 0x32c0,
   0xa4a2, 0xa4a4, 0xa4b4, 0xa4b5, 0xa4c1, 0xa4c2, 0xa4c5, 0xa4c6, 0xfa30, 0xfa6b, 0xfdfc, 0xfdfd,
   0xfe00, 0xfe10, 0xfe45, 0xfe47, 0xfe73, 0xfe74, 0xff5f, 0xff61]

def runs4Point0 : List Nat :=
  [0x221, 0x222, 0x234, 0x237, 0x2ae, 0x2b0, 0x2ef, 0x300, 0x350, 0x358, 0x35d, 0x360, 0x3f7,
   0x3fc, 0x600, 0x604, 0x60d, 0x616, 0x656, 0x659, 0x6ee, 0x6f0, 0x6ff, 0x700, 0x72d, 0x730,
   0x74d, 0x750, 0x904, 0x905, 0x9bd, 0x9be, 0xa01, 0xa02, 0xa03, 0xa04, 0xa8c, 0xa8d, 0xae1,
   0xae4, 0xaf1, 0xaf2, 0xb35, 0xb36, 0xb71, 0xb72, 0xbf3, 0xbfb, 0xcbc, 0xcbe, 0x17dd, 0x17de,
   0x17f0, 0x17fa, 0x1900, 0x191d, 0x1920, 0x192c, 0x1930, 0x193c, 0x1940, 0x1941, 0x1944, 0x196e,
   0x1970, 0x1975, 0x19e0, 0x1a00, 0x1d00, 0x1d6c, 0x2053, 0x2055, 0x213b, 0x213c, 0x23cf, 0x23d1,
   0x24ff, 0x2500, 0x2614, 0x2616, 0x268a, 0x2692, 0x26a0, 0x26a2, 0x2b00, 0x2b0e, 0x321d, 0x321f,
   0x3250, 0x3251, 0x327c, 0x327e, 0x32cc, 0x32d0, 0x3377, 0x337b, 0x33de, 0x33e0, 0x33ff, 0x3400,
   0x4dc0, 0x4e00, 0xfdfd, 0xfdfe, 0xfe47, 0xfe49, 0x10000, 0x1000c, 0x1000d, 0x10027, 0x10028,
   0x1003b, 0x1003c, 0x1003e, 0x1003f, 0x1004e, 0x10050, 0x1005e, 0x10080, 0x100fb, 0x10100,
   0x10103, 0x10107, 0x10134, 0x10137, 0x10140, 0x10380, 0x1039e, 0x1039f, 0x103a0, 0x10426,
   0x10428, 0x1044e, 0x1049e, 0x104a0, 0x104aa, 0x10800, 0x10806, 0x10808, 0x10809, 0x1080a,
   0x10836, 0x10837, 0x10839, 0x1083c, 0x1083d, 0x1083f, 0x10840, 0x1d300, 0x1d357, 0x1d4c1,
   0x1d4c2, 0xe0100, 0xe01f0]

def runs4Point1 : List Nat :=
  [0x237, 0x242, 0x358, 0x35d, 0x3fc, 0x400, 0x4f6, 0x4f8, 0x5a2, 0x5a3, 0x5c5, 0x5c8, 0x60b,
   0x60c, 0x61e, 0x61f, 0x659, 0x65f, 0x750, 0x76e, 0x97d, 0x97e, 0x9ce, 0x9cf, 0xbb6, 0xbb7,
   0xbe6, 0xbe7, 0xfd0, 0xfd2, 0x10f9, 0x10fb, 0x10fc, 0x10fd, 0x1207, 0x1208, 0x1247, 0x1248,
   0x1287, 0x1288, 0x12af, 0x12b0, 0x12cf, 0x12d0, 0x12ef, 0x12f0, 0x130f, 0x1310, 0x131f, 0x1320,
   0x1347, 0x1348, 0x135f, 0x1361, 0x1380, 0x139a, 0x1980, 0x19aa, 0x19b0, 0x19ca, 0x19d0, 0x19da,
   0x19de, 0x19e0, 0x1a00, 0x1a1c, 0x1a1e, 0x1a20, 0x1d6c, 0x1dc4, 0x2055, 0x2057, 0x2058, 0x205f,
   0x2090, 0x2095, 0x20b2, 0x20b6, 0x20eb, 0x20ec, 0x213c, 0x213d, 0x214c, 0x214d, 0x23d1, 0x23dc,
   0x2618, 0x2619, 0x267e, 0x2680, 0x2692, 0x269d, 0x26a2, 0x26b2, 0x27c0, 0x27c7, 0x2b0e, 0x2b14,
   0x2c00, 0x2c2f, 0x2c30, 0x2c5f, 0x2c80, 0x2ceb, 0x2cf9, 0x2d26, 0x2d30, 0x2d66, 0x2d6f, 0x2d70,
   0x2d80, 0x2d97, 0x2da0, 0x2da7, 0x2da8, 0x2daf, 0x2db0, 0x2db7, 0x2db8, 0x2dbf, 0x2dc0, 0x2dc7,
   0x2dc8, 0x2dcf, 0x2dd0, 0x2dd7, 0x2dd8, 0x2ddf, 0x2e00, 0x2e18, 0x2e1c, 0x2e1e, 0x31c0, 0x31d0,
   0x327e, 0x327f, 0x9fa6, 0x9fbc, 0xa700, 0xa717, 0xa800, 0xa82c, 0xfa70, 0xfada, 0xfe10, 0xfe1a,
   0x10140, 0x1018b, 0x103a0, 0x103c4, 0x103c8, 0x103d6, 0x10a00, 0x10a04, 0x10a05, 0x10a07,
   0x10a0c, 0x10a14, 0x10a15, 0x10a18, 0x10a19, 0x10a34, 0x10a38, 0x10a3b, 0x10a3f, 0x10a48,
   0x10a50, 0x10a59, 0x1d200, 0x1d246, 0x1d6a4, 0x1d6a6]

def runs5Point0 : List Nat :=
  [0x242, 0x250, 0x37b, 0x37e, 0x4cf, 0x4d0, 0x4fa, 0x500, 0x510, 0x514, 0x5ba, 0x5bb, 0x7c0,
   0x7fb, 0x97b, 0x97d, 0x97e, 0x980, 0xce2, 0xce4, 0xcf1, 0xcf3, 0x1b00, 0x1b4c, 0x1b50, 0x1b7d,
   0x1dc4, 0x1dcb, 0x1dfe, 0x1e00, 0x20ec, 0x20f0, 0x214d, 0x214f, 0x2184, 0x2185, 0x23dc, 0x23e8,
   0x26b2, 0x26b3, 0x27c7, 0x27cb, 0x2b14, 0x2b1b, 0x2b20, 0x2b24, 0x2c60, 0x2c6d, 0x2c74, 0x2c78,
   0xa717, 0xa71b, 0xa720, 0xa722, 0xa840, 0xa878, 0x10900, 0x1091a, 0x1091f, 0x10920, 0x12000,
   0x1236f, 0x12400, 0x12463, 0x12470, 0x12474, 0x1d360, 0x1d372, 0x1d7ca, 0x1d7cc]

def runs5Point1 : List Nat :=
  [0x370, 0x374, 0x376, 0x378, 0x3cf, 0x3d0, 0x487, 0x488, 0x514, 0x524, 0x606, 0x60b, 0x616,
   0x61b, 0x63b, 0x640, 0x76e, 0x780, 0x971, 0x973, 0xa51, 0xa52, 0xa75, 0xa76, 0xb44, 0xb45,
   0xb62, 0xb64, 0xbd0, 0xbd1, 0xc3d, 0xc3e, 0xc58, 0xc5a, 0xc62, 0xc64, 0xc78, 0xc80, 0xd3d,
   0xd3e, 0xd44, 0xd45, 0xd62, 0xd64, 0xd70, 0xd76, 0xd79, 0xd80, 0xf6b, 0xf6d, 0xfce, 0xfcf,
   0xfd2, 0xfd5, 0x1022, 0x1023, 0x1028, 0x1029, 0x102b, 0x102c, 0x1033, 0x1036, 0x103a, 0x1040,
   0x105a, 0x109a, 0x109e, 0x10a0, 0x18aa, 0x18ab, 0x1b80, 0x1bab, 0x1bae, 0x1bba, 0x1c00, 0x1c38,
   0x1c3b, 0x1c4a, 0x1c4d, 0x1c80, 0x1dcb, 0x1de7, 0x1e9c, 0x1ea0, 0x1efa, 0x1f00, 0x2064, 0x2065,
   0x20f0, 0x20f1, 0x214f, 0x2150, 0x2185, 0x2189, 0x269d, 0x269e, 0x26b3, 0x26bd, 0x26c0, 0x26c4,
   0x27cc, 0x27cd, 0x27ec, 0x27f0, 0x2b1b, 0x2b20, 0x2b24, 0x2b4d, 0x2b50, 0x2b55, 0x2c6d, 0x2c70,
   0x2c71, 0x2c74, 0x2c78, 0x2c7e, 0x2de0, 0x2e00, 0x2e18, 0x2e1c, 0x2e1e, 0x2e31, 0x312d, 0x312e,
   0x31d0, 0x31e4, 0x9fbc, 0x9fc4, 0xa500, 0xa62c, 0xa640, 0xa660, 0xa662, 0xa674, 0xa67c, 0xa698,
   0xa71b, 0xa720, 0xa722, 0xa78d, 0xa7fb, 0xa800, 0xa880, 0xa8c5, 0xa8ce, 0xa8da, 0xa900, 0xa954,
   0xa95f, 0xa960, 0xaa00, 0xaa37, 0xaa40, 0xaa4e, 0xaa50, 0xaa5a, 0xaa5c, 0xaa60, 0xfe24, 0xfe27,
   0x10190, 0x1019c, 0x101d0, 0x101fe, 0x10280, 0x1029d, 0x102a0, 0x102d1, 0x10920, 0x1093a,
   0x1093f, 0x10940, 0x1d129, 0x1d12a, 0x1f000, 0x1f02c, 0x1f030, 0x1f094]

def runs5Point2 : List Nat :=
  [0x524, 0x526, 0x800, 0x82e, 0x830, 0x83f, 0x900, 0x901, 0x94e, 0x94f, 0x955, 0x956, 0x979,
   0x97b, 0x9fb, 0x9fc, 0xfd5, 0xfd9, 0x109a, 0x109e, 0x115a, 0x115f, 0x11a3, 0x11a8, 0x11fa,
   0x1200, 0x1400, 0x1401, 0x1677, 0x1680, 0x18b0, 0x18f6, 0x19aa, 0x19ac, 0x19da, 0x19db, 0x1a20,
   0x1a5f, 0x1a60, 0x1a7d, 0x1a7f, 0x1a8a, 0x1a90, 0x1a9a, 0x1aa0, 0x1aae, 0x1cd0, 0x1cf3, 0x1dfd,
   0x1dfe, 0x20b6, 0x20b9, 0x2150, 0x2153, 0x2189, 0x218a, 0x23e8, 0x23e9, 0x269e, 0x26a0, 0x26bd,
   0x26c0, 0x26c4, 0x26ce, 0x26cf, 0x26e2, 0x26e3, 0x26e4, 0x26e8, 0x2700, 0x2757, 0x2758, 0x2b55,
   0x2b5a, 0x2c70, 0x2c71, 0x2c7e, 0x2c80, 0x2ceb, 0x2cf2, 0x2e31, 0x2e32, 0x3244, 0x3250, 0x9fc4,
   0x9fcc, 0xa4d0, 0xa500, 0xa6a0, 0xa6f8, 0xa830, 0xa83a, 0xa8e0, 0xa8fc, 0xa960, 0xa97d, 0xa980,
   0xa9ce, 0xa9cf, 0xa9da, 0xa9de, 0xa9e0, 0xaa60, 0xaa7c, 0xaa80, 0xaac3, 0xaadb, 0xaae0, 0xabc0,
   0xabee, 0xabf0, 0xabfa, 0xd7b0, 0xd7c7, 0xd7cb, 0xd7fc, 0xfa6b, 0xfa6e, 0x10840, 0x10856,
   0x10857, 0x10860, 0x1091a, 0x1091c, 0x10a60, 0x10a80, 0x10b00, 0x10b36, 0x10b39, 0x10b56,
   0x10b58, 0x10b73, 0x10b78, 0x10b80, 0x10c00, 0x10c49, 0x10e60, 0x10e7f, 0x11080, 0x110c2,
   0x13000, 0x1342f, 0x1f100, 0x1f10b, 0x1f110, 0x1f12f, 0x1f131, 0x1f132, 0x1f13d, 0x1f13e,
   0x1f13f, 0x1f140, 0x1f142, 0x1f143, 0x1f146, 0x1f147, 0x1f14a, 0x1f14f, 0x1f157, 0x1f158,
   0x1f15f, 0x1f160, 0x1f179, 0x1f17a, 0x1f17b, 0x1f17d, 0x1f17f, 0x1f180, 0x1f18a, 0x1f18e,
   0x1f190, 0x1f191, 0x1f200, 0x1f201, 0x1f210, 0x1f232, 0x1f240, 0x1f249, 0x2a700, 0x2b735]

def runs6Point0 : List Nat :=
  [0x526, 0x528, 0x620, 0x621, 0x65f, 0x660, 0x840, 0x85c, 0x85e, 0x85f, 0x93a, 0x93c, 0x94f,
   0x950, 0x956, 0x958, 0x973, 0x978, 0xb72, 0xb78, 0xd29, 0xd2a, 0xd3a, 0xd3b, 0xd4e, 0xd4f,
   0xf8c, 0xf90, 0xfd9, 0xfdb, 0x135d, 0x135f, 0x1bc0, 0x1bf4, 0x1bfc, 0x1c00, 0x1dfc, 0x1dfd,
   0x2095, 0x209d, 0x20b9, 0x20ba, 0x23e9, 0x23f4, 0x26ce, 0x26cf, 0x26e2, 0x26e3, 0x26e4, 0x26e8,
   0x2705, 0x2706, 0x270a, 0x270c, 0x2728, 0x2729, 0x274c, 0x274d, 0x274e, 0x274f, 0x2753, 0x2756,
   0x275f, 0x2761, 0x2795, 0x2798, 0x27b0, 0x27b1, 0x27bf, 0x27c0, 0x27ce, 0x27d0, 0x2d70, 0x2d71,
   0x2d7f, 0x2d80, 0x31b8, 0x31bb, 0xa660, 0xa662, 0xa78d, 0xa78f, 0xa790, 0xa792, 0xa7a0, 0xa7aa,
   0xa7fa, 0xa7fb, 0xab01, 0xab07, 0xab09, 0xab0f, 0xab11, 0xab17, 0xab20, 0xab27, 0xab28, 0xab2f,
   0xfbb2, 0xfbc2, 0x11000, 0x1104e, 0x11052, 0x11070, 0x16800, 0x16a39, 0x1b000, 0x1b002, 0x1f0a0,
   0x1f0af, 0x1f0b1, 0x1f0bf, 0x1f0c1, 0x1f0d0, 0x1f0d1, 0x1f0e0, 0x1f130, 0x1f131, 0x1f132,
   0x1f13d, 0x1f13e, 0x1f13f, 0x1f140, 0x1f142, 0x1f143, 0x1f146, 0x1f147, 0x1f14a, 0x1f14f,
   0x1f157, 0x1f158, 0x1f15f, 0x1f160, 0x1f16a, 0x1f170, 0x1f179, 0x1f17a, 0x1f17b, 0x1f17d,
   0x1f17f, 0x1f180, 0x1f18a, 0x1f18e, 0x1f190, 0x1f191, 0x1f19b, 0x1f1e6, 0x1f200, 0x1f201,
   0x1f203, 0x1f232, 0x1f23b, 0x1f250, 0x1f252, 0x1f300, 0x1f321, 0x1f330, 0x1f336, 0x1f337,
   0x1f37d, 0x1f380, 0x1f394, 0x1f3a0, 0x1f3c5, 0x1f3c6, 0x1f3cb, 0x1f3e0, 0x1f3f1, 0x1f400,
   0x1f43f, 0x1f440, 0x1f441, 0x1f442, 0x1f4f8, 0x1f4f9, 0x1f4fd, 0x1f500, 0x1f53e, 0x1f550,
   0x1f568, 0x1f5fb, 0x1f600, 0x1f601, 0x1f611, 0x1f612, 0x1f615, 0x1f616, 0x1f617, 0x1f618,
   0x1f619, 0x1f61a, 0x1f61b, 0x1f61c, 0x1f61f, 0x1f620, 0x1f626, 0x1f628, 0x1f62c, 0x1f62d,
   0x1f62e, 0x1f630, 0x1f634, 0x1f635, 0x1f641, 0x1f645, 0x1f650, 0x1f680, 0x1f6c6, 0x1f700,
   0x1f774, 0x2b740, 0x2b81e]

def runs6Point1 : List Nat :=
  [0x58f, 0x590, 0x604, 0x605, 0x8a0, 0x8a1, 0x8a2, 0x8ad, 0x8e4, 0x8ff, 0xaf0, 0xaf1, 0xede,
   0xee0, 0x10c7, 0x10c8, 0x10cd, 0x10ce, 0x10fd, 0x1100, 0x1bab, 0x1bae, 0x1bba, 0x1bc0, 0x1cc0,
   0x1cc8, 0x1cf3, 0x1cf7, 0x27cb, 0x27cc, 0x27cd, 0x27ce, 0x2cf2, 0x2cf4, 0x2d27, 0x2d28, 0x2d2d,
   0x2d2e, 0x2d66, 0x2d68, 0x2e32, 0x2e3c, 0x9fcc, 0x9fcd, 0xa674, 0xa67c, 0xa69f, 0xa6a0, 0xa792,
   0xa794, 0xa7aa, 0xa7ab, 0xa7f8, 0xa7fa, 0xaae0, 0xaaf7, 0xfa2e, 0xfa30, 0x10980, 0x109b8,
   0x109be, 0x109c0, 0x110d0, 0x110e9, 0x110f0, 0x110fa, 0x11100, 0x11135, 0x11136, 0x11144,
   0x11180, 0x111c9, 0x111d0, 0x111da, 0x11680, 0x116b8, 0x116c0, 0x116ca, 0x16f00, 0x16f45,
   0x16f50, 0x16f7f, 0x16f8f, 0x16fa0, 0x1ee00, 0x1ee04, 0x1ee05, 0x1ee20, 0x1ee21, 0x1ee23,
   0x1ee24, 0x1ee25, 0x1ee27, 0x1ee28, 0x1ee29, 0x1ee33, 0x1ee34, 0x1ee38, 0x1ee39, 0x1ee3a,
   0x1ee3b, 0x1ee3c, 0x1ee42, 0x1ee43, 0x1ee47, 0x1ee48, 0x1ee49, 0x1ee4a, 0x1ee4b, 0x1ee4c,
   0x1ee4d, 0x1ee50, 0x1ee51, 0x1ee53, 0x1ee54, 0x1ee55, 0x1ee57, 0x1ee58, 0x1ee59, 0x1ee5a,
   0x1ee5b, 0x1ee5c, 0x1ee5d, 0x1ee5e, 0x1ee5f, 0x1ee60, 0x1ee61, 0x1ee63, 0x1ee64, 0x1ee65,
   0x1ee67, 0x1ee6b, 0x1ee6c, 0x1ee73, 0x1ee74, 0x1ee78, 0x1ee79, 0x1ee7d, 0x1ee7e, 0x1ee7f,
   0x1ee80, 0x1ee8a, 0x1ee8b, 0x1ee9c, 0x1eea1, 0x1eea4, 0x1eea5, 0x1eeaa, 0x1eeab, 0x1eebc,
   0x1eef0, 0x1eef2, 0x1f16a, 0x1f16c, 0x1f540, 0x1f544, 0x1f600, 0x1f601, 0x1f611, 0x1f612,
   0x1f615, 0x1f616, 0x1f617, 0x1f618, 0x1f619, 0x1f61a, 0x1f61b, 0x1f61c, 0x1f61f, 0x1f620,
   0x1f626, 0x1f628, 0x1f62c, 0x1f62d, 0x1f62e, 0x1f630, 0x1f634, 0x1f635]

def runs6Point2 : List Nat :=
  [0x20ba, 0x20bb]

def runs6Point3 : List Nat :=
  [0x61c, 0x61d, 0x2066, 0x206a]

def runs7Point0 : List Nat :=
  [0x37f, 0x380, 0x528, 0x530, 0x58d, 0x58f, 0x605, 0x606, 0x8a1, 0x8a2, 0x8ad, 0x8b3, 0x8ff,
   0x900, 0x978, 0x979, 0x980, 0x981, 0xc00, 0xc01, 0xc34, 0xc35, 0xc81, 0xc82, 0xd01, 0xd02,
   0xde6, 0xdf0, 0x16f1, 0x16f9, 0x191d, 0x191f, 0x1ab0, 0x1abf, 0x1cf8, 0x1cfa, 0x1de7, 0x1df6,
   0x20bb, 0x20be, 0x23f4, 0x23fb, 0x2700, 0x2701, 0x2b4d, 0x2b50, 0x2b5a, 0x2b74, 0x2b76, 0x2b96,
   0x2b98, 0x2bba, 0x2bbd, 0x2bc9, 0x2bca, 0x2bd2, 0x2e3c, 0x2e43, 0xa698, 0xa69e, 0xa794, 0xa7a0,
   0xa7ab, 0xa7ae, 0xa7b0, 0xa7b2, 0xa7f7, 0xa7f8, 0xa9e0, 0xa9ff, 0xaa7c, 0xaa80, 0xab30, 0xab60,
   0xab64, 0xab66, 0xfe27, 0xfe2e, 0x1018b, 0x1018d, 0x101a0, 0x101a1, 0x102e0, 0x102fc, 0x1031f,
   0x10320, 0x10350, 0x1037b, 0x10500, 0x10528, 0x10530, 0x10564, 0x1056f, 0x10570, 0x10600,
   0x10737, 0x10740, 0x10756, 0x10760, 0x10768, 0x10860, 0x1089f, 0x108a7, 0x108b0, 0x10a80,
   0x10aa0, 0x10ac0, 0x10ae7, 0x10aeb, 0x10af7, 0x10b80, 0x10b92, 0x10b99, 0x10b9d, 0x10ba9,
   0x10bb0, 0x1107f, 0x11080, 0x11150, 0x11177, 0x111cd, 0x111ce, 0x111da, 0x111db, 0x111e1,
   0x111f5, 0x11200, 0x11212, 0x11213, 0x1123e, 0x112b0, 0x112eb, 0x112f0, 0x112fa, 0x11301,
   0x11304, 0x11305, 0x1130d, 0x1130f, 0x11311, 0x11313, 0x11329, 0x1132a, 0x11331, 0x11332,
   0x11334, 0x11335, 0x1133a, 0x1133c, 0x11345, 0x11347, 0x11349, 0x1134b, 0x1134e, 0x11357,
   0x11358, 0x1135d, 0x11364, 0x11366, 0x1136d, 0x11370, 0x11375, 0x11480, 0x114c8, 0x114d0,
   0x114da, 0x11580, 0x115b6, 0x115b8, 0x115ca, 0x11600, 0x11645, 0x11650, 0x1165a, 0x118a0,
   0x118f3, 0x118ff, 0x11900, 0x11ac0, 0x11af9, 0x1236f, 0x12399, 0x12463, 0x1246f, 0x12474,
   0x12475, 0x16a40, 0x16a5f, 0x16a60, 0x16a6a, 0x16a6e, 0x16a70, 0x16ad0, 0x16aee, 0x16af0,
   0x16af6, 0x16b00, 0x16b46, 0x16b50, 0x16b5a, 0x16b5b, 0x16b62, 0x16b63, 0x16b78, 0x16b7d,
   0x16b90, 0x1bc00, 0x1bc6b, 0x1bc70, 0x1bc7d, 0x1bc80, 0x1bc89, 0x1bc90, 0x1bc9a, 0x1bc9c,
   0x1bca4, 0x1e800, 0x1e8c5, 0x1e8c7, 0x1e8d7, 0x1f0bf, 0x1f0c0, 0x1f0e0, 0x1f0f6, 0x1f10b,
   0x1f10d, 0x1f321, 0x1f32d, 0x1f336, 0x1f337, 0x1f37d, 0x1f37e, 0x1f394, 0x1f3a0, 0x1f3c5,
   0x1f3c6, 0x1f3cb, 0x1f3cf, 0x1f3d4, 0x1f3e0, 0x1f3f1, 0x1f3f8, 0x1f43f, 0x1f440, 0x1f441,
   0x1f442, 0x1f4f8, 0x1f4f9, 0x1f4fd, 0x1f4ff, 0x1f53e, 0x1f540, 0x1f544, 0x1f54b, 0x1f568,
   0x1f57a, 0x1f57b, 0x1f5a4, 0x1f5a5, 0x1f5fb, 0x1f641, 0x1f643, 0x1f650, 0x1f680, 0x1f6c6,
   0x1f6d0, 0x1f6e0, 0x1f6ed, 0x1f6f0, 0x1f6f4, 0x1f780, 0x1f7d5, 0x1f800, 0x1f80c, 0x1f810,
   0x1f848, 0x1f850, 0x1f85a, 0x1f860, 0x1f888, 0x1f890, 0x1f8ae]

def runs8Point0 : List Nat :=
  [0x8b3, 0x8b5, 0x8e3, 0x8e4, 0xaf9, 0xafa, 0xc5a, 0xc5b, 0xd5f, 0xd60, 0x13f5, 0x13f6, 0x13f8,
   0x13fe, 0x20be, 0x20bf, 0x218a, 0x218c, 0x2bec, 0x2bf0, 0x9fcd, 0x9fd6, 0xa69e, 0xa69f, 0xa78f,
   0xa790, 0xa7b2, 0xa7b8, 0xa8fc, 0xa8fe, 0xab60, 0xab64, 0xab70, 0xabc0, 0xfe2e, 0xfe30, 0x108e0,
   0x108f3, 0x108f4, 0x108f6, 0x108fb, 0x10900, 0x109bc, 0x109be, 0x109c0, 0x109d0, 0x109d2,
   0x10a00, 0x10c80, 0x10cb3, 0x10cc0, 0x10cf3, 0x10cfa, 0x10d00, 0x111c9, 0x111cd, 0x111db,
   0x111e0, 0x11280, 0x11287, 0x11288, 0x11289, 0x1128a, 0x1128e, 0x1128f, 0x1129e, 0x1129f,
   0x112aa, 0x11300, 0x11301, 0x11350, 0x11351, 0x115ca, 0x115de, 0x11700, 0x1171a, 0x1171d,
   0x1172c, 0x11730, 0x11740, 0x12399, 0x1239a, 0x12480, 0x12544, 0x14400, 0x14647, 0x1d1de,
   0x1d1e9, 0x1d800, 0x1da8c, 0x1da9b, 0x1daa0, 0x1daa1, 0x1dab0, 0x1f32d, 0x1f330, 0x1f37e,
   0x1f380, 0x1f3cf, 0x1f3d4, 0x1f3f8, 0x1f400, 0x1f4ff, 0x1f500, 0x1f54b, 0x1f550, 0x1f643,
   0x1f645, 0x1f6d0, 0x1f6d1, 0x1f910, 0x1f919, 0x1f980, 0x1f985, 0x1f9c0, 0x1f9c1, 0x2b820, 0x2cea2]

def runs9Point0 : List Nat :=
  [0x8b6, 0x8be, 0x8d4, 0x8e3, 0xc80, 0xc81, 0xd4f, 0xd50, 0xd54, 0xd57, 0xd58, 0xd5f, 0xd76,
   0xd79, 0x1c80, 0x1c89, 0x1dfb, 0x1dfc, 0x23fb, 0x23ff, 0x2e43, 0x2e45, 0xa7ae, 0xa7af, 0xa8c5,
   0xa8c6, 0x1018d, 0x1018f, 0x104b0, 0x104d4, 0x104d8, 0x104fc, 0x1123e, 0x1123f, 0x11400,
   0x1145a, 0x1145b, 0x1145c, 0x1145d, 0x1145e, 0x11660, 0x1166d, 0x11c00, 0x11c09, 0x11c0a,
   0x11c37, 0x11c38, 0x11c46, 0x11c50, 0x11c6d, 0x11c70, 0x11c90, 0x11c92, 0x11ca8, 0x11ca9,
   0x11cb7, 0x16fe0, 0x16fe1, 0x17000, 0x187ed, 0x18800, 0x18af3, 0x1e000, 0x1e007, 0x1e008,
   0x1e019, 0x1e01b, 0x1e022, 0x1e023, 0x1e025, 0x1e026, 0x1e02b, 0x1e900, 0x1e94b, 0x1e950,
   0x1e95a, 0x1e95e, 0x1e960, 0x1f19b, 0x1f1ad, 0x1f23b, 0x1f23c, 0x1f57a, 0x1f57b, 0x1f5a4,
   0x1f5a5, 0x1f6d1, 0x1f6d3, 0x1f6f4, 0x1f6f7, 0x1f919, 0x1f91f, 0x1f920, 0x1f928, 0x1f930,
   0x1f931, 0x1f933, 0x1f93f, 0x1f940, 0x1f94c, 0x1f950, 0x1f95f, 0x1f985, 0x1f992]

def runs10Point0 : List Nat :=
  [0x860, 0x86b, 0x9fc, 0x9fe, 0xafa, 0xb00, 0xd00, 0xd01, 0xd3b, 0xd3d, 0x1cf7, 0x1cf8, 0x1df6,
   0x1dfa, 0x20bf, 0x20c0, 0x23ff, 0x2400, 0x2bd2, 0x2bd3, 0x2e45, 0x2e4a, 0x312e, 0x312f, 0x9fd6,
   0x9feb, 0x1032d, 0x10330, 0x11a00, 0x11a48, 0x11a50, 0x11a84, 0x11a86, 0x11a9d, 0x11a9e,
   0x11aa3, 0x11d00, 0x11d07, 0x11d08, 0x11d0a, 0x11d0b, 0x11d37, 0x11d3a, 0x11d3b, 0x11d3c,
   0x11d3e, 0x11d3f, 0x11d48, 0x11d50, 0x11d5a, 0x16fe1, 0x16fe2, 0x1b002, 0x1b11f, 0x1b170,
   0x1b2fc, 0x1f260, 0x1f266, 0x1f6d3, 0x1f6d5, 0x1f6f7, 0x1f6f9, 0x1f900, 0x1f90c, 0x1f91f,
   0x1f920, 0x1f928, 0x1f930, 0x1f931, 0x1f933, 0x1f94c, 0x1f94d, 0x1f95f, 0x1f96c, 0x1f992,
   0x1f998, 0x1f9d0, 0x1f9e7, 0x2ceb0, 0x2ebe1]

def runs11Point0 : List Nat :=
  [0x560, 0x561, 0x588, 0x589, 0x5ef, 0x5f0, 0x7fd, 0x800, 0x8d3, 0x8d4, 0x9fe, 0x9ff, 0xa76,
   0xa77, 0xc04, 0xc05, 0xc84, 0xc85, 0x1878, 0x1879, 0x1c90, 0x1cbb, 0x1cbd, 0x1cc0, 0x2bba,
   0x2bbd, 0x2bd3, 0x2bec, 0x2bf0, 0x2bff, 0x2e4a, 0x2e4f, 0x312f, 0x3130, 0x9feb, 0x9ff0, 0xa7af,
   0xa7b0, 0xa7b8, 0xa7ba, 0xa8fe, 0xa900, 0x10a34, 0x10a36, 0x10a48, 0x10a49, 0x10d00, 0x10d28,
   0x10d30, 0x10d3a, 0x10f00, 0x10f28, 0x10f30, 0x10f5a, 0x110cd, 0x110ce, 0x11144, 0x11147,
   0x1133b, 0x1133c, 0x1145e, 0x1145f, 0x1171a, 0x1171b, 0x11800, 0x1183c, 0x11a9d, 0x11a9e,
   0x11d60, 0x11d66, 0x11d67, 0x11d69, 0x11d6a, 0x11d8f, 0x11d90, 0x11d92, 0x11d93, 0x11d99,
   0x11da0, 0x11daa, 0x11ee0, 0x11ef9, 0x16e40, 0x16e9b, 0x187ed, 0x187f2, 0x1d2e0, 0x1d2f4,
   0x1d372, 0x1d379, 0x1ec71, 0x1ecb5, 0x1f12f, 0x1f130, 0x1f6f9, 0x1f6fa, 0x1f7d5, 0x1f7d9,
   0x1f94d, 0x1f950, 0x1f96c, 0x1f971, 0x1f973, 0x1f977, 0x1f97a, 0x1f97b, 0x1f97c, 0x1f980,
   0x1f998, 0x1f9a3, 0x1f9b0, 0x1f9ba, 0x1f9c1, 0x1f9c3, 0x1f9e7, 0x1fa00, 0x1fa60, 0x1fa6e]

def runs12Point0 : List Nat :=
  [0xc77, 0xc78, 0xe86, 0xe87, 0xe89, 0xe8a, 0xe8c, 0xe8d, 0xe8e, 0xe94, 0xe98, 0xe99, 0xea0,
   0xea1, 0xea8, 0xeaa, 0xeac, 0xead, 0xeba, 0xebb, 0x1cfa, 0x1cfb, 0x2bc9, 0x2bca, 0x2bff, 0x2c00,
   0x2e4f, 0x2e50, 0xa7ba, 0xa7c0, 0xa7c2, 0xa7c7, 0xab66, 0xab68, 0x10fe0, 0x10ff7, 0x1145f,
   0x11460, 0x116b8, 0x116b9, 0x119a0, 0x119a8, 0x119aa, 0x119d8, 0x119da, 0x119e5, 0x11a84,
   0x11a86, 0x11fc0, 0x11ff2, 0x11fff, 0x12000, 0x13430, 0x13439, 0x16f45, 0x16f4b, 0x16f4f,
   0x16f50, 0x16f7f, 0x16f88, 0x16fe2, 0x16fe4, 0x187f2, 0x187f8, 0x1b150, 0x1b153, 0x1b164,
   0x1b168, 0x1e100, 0x1e12d, 0x1e130, 0x1e13e, 0x1e140, 0x1e14a, 0x1e14e, 0x1e150, 0x1e2c0,
   0x1e2fa, 0x1e2ff, 0x1e300, 0x1e94b, 0x1e94c, 0x1ed01, 0x1ed3e, 0x1f16c, 0x1f16d, 0x1f6d5,
   0x1f6d6, 0x1f6fa, 0x1f6fb, 0x1f7e0, 0x1f7ec, 0x1f90d, 0x1f910, 0x1f93f, 0x1f940, 0x1f971,
   0x1f972, 0x1f97b, 0x1f97c, 0x1f9a5, 0x1f9ab, 0x1f9ae, 0x1f9b0, 0x1f9ba, 0x1f9c0, 0x1f9c3,
   0x1f9cb, 0x1f9cd, 0x1f9d0, 0x1fa00, 0x1fa54, 0x1fa70, 0x1fa74, 0x1fa78, 0x1fa7b, 0x1fa80,
   0x1fa83, 0x1fa90, 0x1fa96]

def runs12Point1 : List Nat :=
  [0x32ff, 0x3300]

def runs13Point0 : List Nat :=
  [0x8be, 0x8c8, 0xb55, 0xb56, 0xd04, 0xd05, 0xd81, 0xd82, 0x1abf, 0x1ac1, 0x2b97, 0x2b98, 0x2e50,
   0x2e53, 0x31bb, 0x31c0, 0x4db6, 0x4dc0, 0x9ff0, 0x9ffd, 0xa7c7, 0xa7cb, 0xa7f5, 0xa7f7, 0xa82c,
   0xa82d, 0xab68, 0xab6c, 0x1019c, 0x1019d, 0x10e80, 0x10eaa, 0x10eab, 0x10eae, 0x10eb0, 0x10eb2,
   0x10fb0, 0x10fcc, 0x11147, 0x11148, 0x111ce, 0x111d0, 0x1145a, 0x1145b, 0x11460, 0x11462,
   0x11900, 0x11907, 0x11909, 0x1190a, 0x1190c, 0x11914, 0x11915, 0x11917, 0x11918, 0x11936,
   0x11937, 0x11939, 0x1193b, 0x11947, 0x11950, 0x1195a, 0x11fb0, 0x11fb1, 0x16fe4, 0x16fe5,
   0x16ff0, 0x16ff2, 0x18af3, 0x18cd6, 0x18d00, 0x18d09, 0x1f10d, 0x1f110, 0x1f16d, 0x1f170,
   0x1f1ad, 0x1f1ae, 0x1f6d6, 0x1f6d8, 0x1f6fb, 0x1f6fd, 0x1f8b0, 0x1f8b2, 0x1f90c, 0x1f90d,
   0x1f972, 0x1f973, 0x1f977, 0x1f979, 0x1f9a3, 0x1f9a5, 0x1f9ab, 0x1f9ae, 0x1f9cb, 0x1f9cc,
   0x1fa74, 0x1fa75, 0x1fa83, 0x1fa87, 0x1fa96, 0x1faa9, 0x1fab0, 0x1fab7, 0x1fac0, 0x1fac3,
   0x1fad0, 0x1fad7, 0x1fb00, 0x1fb93, 0x1fb94, 0x1fbcb, 0x1fbf0, 0x1fbfa, 0x2a6d7, 0x2a6de,
   0x30000, 0x3134b]

def runs14Point0 : List Nat :=
  [0x61d, 0x61e, 0x870, 0x88f, 0x890, 0x892, 0x898, 0x8a0, 0x8b5, 0x8b6, 0x8c8, 0x8d3, 0xc3c,
   0xc3d, 0xc5d, 0xc5e, 0xcdd, 0xcde, 0x170d, 0x170e, 0x1715, 0x1716, 0x171f, 0x1720, 0x180f,
   0x1810, 0x1ac1, 0x1acf, 0x1b4c, 0x1b4d, 0x1b7d, 0x1b7f, 0x1dfa, 0x1dfb, 0x20c0, 0x20c1, 0x2c2f,
   0x2c30, 0x2c5f, 0x2c60, 0x2e53, 0x2e5e, 0x9ffd, 0xa000, 0xa7c0, 0xa7c2, 0xa7d0, 0xa7d2, 0xa7d3,
   0xa7d4, 0xa7d5, 0xa7da, 0xa7f2, 0xa7f5, 0xfbc2, 0xfbc3, 0xfd40, 0xfd50, 0xfdcf, 0xfdd0, 0xfdfe,
   0xfe00, 0x10570, 0x1057b, 0x1057c, 0x1058b, 0x1058c, 0x10593, 0x10594, 0x10596, 0x10597,
   0x105a2, 0x105a3, 0x105b2, 0x105b3, 0x105ba, 0x105bb, 0x105bd, 0x10780, 0x10786, 0x10787,
   0x107b1, 0x107b2, 0x107bb, 0x10f70, 0x10f8a, 0x11070, 0x11076, 0x110c2, 0x110c3, 0x116b9,
   0x116ba, 0x11740, 0x11747, 0x11ab0, 0x11ac0, 0x12f90, 0x12ff3, 0x16a70, 0x16abf, 0x16ac0,
   0x16aca, 0x1aff0, 0x1aff4, 0x1aff5, 0x1affc, 0x1affd, 0x1afff, 0x1b11f, 0x1b123, 0x1cf00,
   0x1cf2e, 0x1cf30, 0x1cf47, 0x1cf50, 0x1cfc4, 0x1d1e9, 0x1d1eb, 0x1df00, 0x1df1f, 0x1e290,
   0x1e2af, 0x1e7e0, 0x1e7e7, 0x1e7e8, 0x1e7ec, 0x1e7ed, 0x1e7ef, 0x1e7f0, 0x1e7ff, 0x1f6dd,
   0x1f6e0, 0x1f7f0, 0x1f7f1, 0x1f979, 0x1f97a, 0x1f9cc, 0x1f9cd, 0x1fa7b, 0x1fa7d, 0x1faa9,
   0x1faad, 0x1fab7, 0x1fabb, 0x1fac3, 0x1fac6, 0x1fad7, 0x1fada, 0x1fae0, 0x1fae8, 0x1faf0,
   0x1faf7, 0x2a6de, 0x2a6e0, 0x2b735, 0x2b739]

def runs15Point0 : List Nat :=
  [0xcf3, 0xcf4, 0xece, 0xecf, 0x10efd, 0x10f00, 0x1123f, 0x11242, 0x11b00, 0x11b0a, 0x11f00,
   0x11f11, 0x11f12, 0x11f3b, 0x11f3e, 0x11f5a, 0x1342f, 0x13430, 0x13439, 0x13456, 0x1b132,
   0x1b133, 0x1b155, 0x1b156, 0x1d2c0, 0x1d2d4, 0x1df25, 0x1df2b, 0x1e030, 0x1e06e, 0x1e08f,
   0x1e090, 0x1e4d0, 0x1e4fa, 0x1f6dc, 0x1f6dd, 0x1f774, 0x1f777, 0x1f77b, 0x1f780, 0x1f7d9,
   0x1f7da, 0x1fa75, 0x1fa78, 0x1fa87, 0x1fa89, 0x1faad, 0x1fab0, 0x1fabb, 0x1fabe, 0x1fabf,
   0x1fac0, 0x1face, 0x1fad0, 0x1fada, 0x1fadc, 0x1fae8, 0x1fae9, 0x1faf7, 0x1faf9, 0x2b739,
   0x2b73a, 0x31350, 0x323b0]

def runs15Point1 : List Nat :=
  [0x2ffc, 0x3000, 0x31ef, 0x31f0, 0x2ebf0, 0x2ee5e]

def runs16Point0 : List Nat :=
  [0x897, 0x898, 0x1b4e, 0x1b50, 0x1b7f, 0x1b80, 0x1c89, 0x1c8b, 0x2427, 0x242a, 0x31e4, 0x31e6,
   0xa7cb, 0xa7ce, 0xa7da, 0xa7dd, 0x105c0, 0x105f4, 0x10d40, 0x10d66, 0x10d69, 0x10d86, 0x10d8e,
   0x10d90, 0x10ec2, 0x10ec5, 0x10efc, 0x10efd, 0x11380, 0x1138a, 0x1138b, 0x1138c, 0x1138e,
   0x1138f, 0x11390, 0x113b6, 0x113b7, 0x113c1, 0x113c2, 0x113c3, 0x113c5, 0x113c6, 0x113c7,
   0x113cb, 0x113cc, 0x113d6, 0x113d7, 0x113d9, 0x113e1, 0x113e3, 0x116d0, 0x116e4, 0x11bc0,
   0x11be2, 0x11bf0, 0x11bfa, 0x11f5a, 0x11f5b, 0x13460, 0x143fb, 0x16100, 0x1613a, 0x16d40,
   0x16d7a, 0x18cff, 0x18d00, 0x1cc00, 0x1ccfa, 0x1cd00, 0x1ceb4, 0x1e5d0, 0x1e5fb, 0x1e5ff,
   0x1e600, 0x1f8b2, 0x1f8bc, 0x1f8c0, 0x1f8c2, 0x1fa89, 0x1fa8a, 0x1fa8f, 0x1fa90, 0x1fabe,
   0x1fabf, 0x1fac6, 0x1fac7, 0x1fadc, 0x1fadd, 0x1fadf, 0x1fae0, 0x1fae9, 0x1faea, 0x1fbcb, 0x1fbf0]

def all : List Age :=
  [⟨1, 1, runs1Point1⟩, ⟨2, 0, runs2Point0⟩, ⟨2, 1, runs2Point1⟩, ⟨3, 0, runs3Point0⟩,
   ⟨3, 1, runs3Point1⟩, ⟨3, 2, runs3Point2⟩, ⟨4, 0, runs4Point0⟩, ⟨4, 1, runs4Point1⟩,
   ⟨5, 0, runs5Point0⟩, ⟨5, 1, runs5Point1⟩, ⟨5, 2, runs5Point2⟩, ⟨6, 0, runs6Point0⟩,
   ⟨6, 1, runs6Point1⟩, ⟨6, 2, runs6Point2⟩, ⟨6, 3, runs6Point3⟩, ⟨7, 0, runs7Point0⟩,
   ⟨8, 0, runs8Point0⟩, ⟨9, 0, runs9Point0⟩, ⟨10, 0, runs10Point0⟩, ⟨11, 0, runs11Point0⟩,
   ⟨12, 0, runs12Point0⟩, ⟨12, 1, runs12Point1⟩, ⟨13, 0, runs13Point0⟩, ⟨14, 0, runs14Point0⟩,
   ⟨15, 0, runs15Point0⟩, ⟨15, 1, runs15Point1⟩, ⟨16, 0, runs16Point0⟩]

def notAfter (a b : Age) : Bool := a.major < b.major || (a.major = b.major && a.minor ≤ b.minor)

-- A version has two spellings: "5.1", and "v51".
def isNamed (name : String) (age : Age) : Bool :=
  name = s!"{age.major}.{age.minor}" || name = s!"v{age.major}{age.minor}"

end Age
end FluidSheet
