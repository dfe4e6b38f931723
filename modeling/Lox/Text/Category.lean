namespace Lox.Text

inductive Category where
  | lu | ll | lt | lm | lo
  | mn | mc | me
  | nd | nl | no
  | pc | pd | ps | pe | pi | pf | po
  | sm | sc | sk | so
  | zs | zl | zp
  | cc | cf | cs | co | cn
deriving DecidableEq, Repr

namespace Category

def isLetter : Category → Bool
  | lu | ll | lt | lm | lo => true
  | _ => false

def isNumber : Category → Bool
  | nd | nl | no => true
  | _ => false

/-- Letters and digits, the marks on them, and what joins words; of numbers also those like letters. -/
def isWord : Category → Bool
  | lu | ll | lt | lm | lo | mn | mc | me | nd | nl | pc => true
  | _ => false

/-- Controls, formats, lone surrogates, private and unassigned code points, and separators. -/
def isShapeless : Category → Bool
  | zs | zl | zp | cc | cf | cs | co | cn => true
  | _ => false

end Category

end Lox.Text

namespace Lox.Text.Category

def runsTo0FFF : List (Nat × Category) :=
  [(0x0, .cc), (0x20, .zs), (0x21, .po), (0x24, .sc), (0x25, .po), (0x28, .ps), (0x29, .pe),
  (0x2a, .po), (0x2b, .sm), (0x2c, .po), (0x2d, .pd), (0x2e, .po), (0x30, .nd), (0x3a, .po),
  (0x3c, .sm), (0x3f, .po), (0x41, .lu), (0x5b, .ps), (0x5c, .po), (0x5d, .pe), (0x5e, .sk),
  (0x5f, .pc), (0x60, .sk), (0x61, .ll), (0x7b, .ps), (0x7c, .sm), (0x7d, .pe), (0x7e, .sm),
  (0x7f, .cc), (0xa0, .zs), (0xa1, .po), (0xa2, .sc), (0xa6, .so), (0xa7, .po), (0xa8, .sk),
  (0xa9, .so), (0xaa, .lo), (0xab, .pi), (0xac, .sm), (0xad, .cf), (0xae, .so), (0xaf, .sk),
  (0xb0, .so), (0xb1, .sm), (0xb2, .no), (0xb4, .sk), (0xb5, .ll), (0xb6, .po), (0xb8, .sk),
  (0xb9, .no), (0xba, .lo), (0xbb, .pf), (0xbc, .no), (0xbf, .po), (0xc0, .lu), (0xd7, .sm),
  (0xd8, .lu), (0xdf, .ll), (0xf7, .sm), (0xf8, .ll), (0x100, .lu), (0x101, .ll), (0x102, .lu),
  (0x103, .ll), (0x104, .lu), (0x105, .ll), (0x106, .lu), (0x107, .ll), (0x108, .lu), (0x109, .ll),
  (0x10a, .lu), (0x10b, .ll), (0x10c, .lu), (0x10d, .ll), (0x10e, .lu), (0x10f, .ll), (0x110, .lu),
  (0x111, .ll), (0x112, .lu), (0x113, .ll), (0x114, .lu), (0x115, .ll), (0x116, .lu), (0x117, .ll),
  (0x118, .lu), (0x119, .ll), (0x11a, .lu), (0x11b, .ll), (0x11c, .lu), (0x11d, .ll), (0x11e, .lu),
  (0x11f, .ll), (0x120, .lu), (0x121, .ll), (0x122, .lu), (0x123, .ll), (0x124, .lu), (0x125, .ll),
  (0x126, .lu), (0x127, .ll), (0x128, .lu), (0x129, .ll), (0x12a, .lu), (0x12b, .ll), (0x12c, .lu),
  (0x12d, .ll), (0x12e, .lu), (0x12f, .ll), (0x130, .lu), (0x131, .ll), (0x132, .lu), (0x133, .ll),
  (0x134, .lu), (0x135, .ll), (0x136, .lu), (0x137, .ll), (0x139, .lu), (0x13a, .ll), (0x13b, .lu),
  (0x13c, .ll), (0x13d, .lu), (0x13e, .ll), (0x13f, .lu), (0x140, .ll), (0x141, .lu), (0x142, .ll),
  (0x143, .lu), (0x144, .ll), (0x145, .lu), (0x146, .ll), (0x147, .lu), (0x148, .ll), (0x14a, .lu),
  (0x14b, .ll), (0x14c, .lu), (0x14d, .ll), (0x14e, .lu), (0x14f, .ll), (0x150, .lu), (0x151, .ll),
  (0x152, .lu), (0x153, .ll), (0x154, .lu), (0x155, .ll), (0x156, .lu), (0x157, .ll), (0x158, .lu),
  (0x159, .ll), (0x15a, .lu), (0x15b, .ll), (0x15c, .lu), (0x15d, .ll), (0x15e, .lu), (0x15f, .ll),
  (0x160, .lu), (0x161, .ll), (0x162, .lu), (0x163, .ll), (0x164, .lu), (0x165, .ll), (0x166, .lu),
  (0x167, .ll), (0x168, .lu), (0x169, .ll), (0x16a, .lu), (0x16b, .ll), (0x16c, .lu), (0x16d, .ll),
  (0x16e, .lu), (0x16f, .ll), (0x170, .lu), (0x171, .ll), (0x172, .lu), (0x173, .ll), (0x174, .lu),
  (0x175, .ll), (0x176, .lu), (0x177, .ll), (0x178, .lu), (0x17a, .ll), (0x17b, .lu), (0x17c, .ll),
  (0x17d, .lu), (0x17e, .ll), (0x181, .lu), (0x183, .ll), (0x184, .lu), (0x185, .ll), (0x186, .lu),
  (0x188, .ll), (0x189, .lu), (0x18c, .ll), (0x18e, .lu), (0x192, .ll), (0x193, .lu), (0x195, .ll),
  (0x196, .lu), (0x199, .ll), (0x19c, .lu), (0x19e, .ll), (0x19f, .lu), (0x1a1, .ll), (0x1a2, .lu),
  (0x1a3, .ll), (0x1a4, .lu), (0x1a5, .ll), (0x1a6, .lu), (0x1a8, .ll), (0x1a9, .lu), (0x1aa, .ll),
  (0x1ac, .lu), (0x1ad, .ll), (0x1ae, .lu), (0x1b0, .ll), (0x1b1, .lu), (0x1b4, .ll), (0x1b5, .lu),
  (0x1b6, .ll), (0x1b7, .lu), (0x1b9, .ll), (0x1bb, .lo), (0x1bc, .lu), (0x1bd, .ll), (0x1c0, .lo),
  (0x1c4, .lu), (0x1c5, .lt), (0x1c6, .ll), (0x1c7, .lu), (0x1c8, .lt), (0x1c9, .ll), (0x1ca, .lu),
  (0x1cb, .lt), (0x1cc, .ll), (0x1cd, .lu), (0x1ce, .ll), (0x1cf, .lu), (0x1d0, .ll), (0x1d1, .lu),
  (0x1d2, .ll), (0x1d3, .lu), (0x1d4, .ll), (0x1d5, .lu), (0x1d6, .ll), (0x1d7, .lu), (0x1d8, .ll),
  (0x1d9, .lu), (0x1da, .ll), (0x1db, .lu), (0x1dc, .ll), (0x1de, .lu), (0x1df, .ll), (0x1e0, .lu),
  (0x1e1, .ll), (0x1e2, .lu), (0x1e3, .ll), (0x1e4, .lu), (0x1e5, .ll), (0x1e6, .lu), (0x1e7, .ll),
  (0x1e8, .lu), (0x1e9, .ll), (0x1ea, .lu), (0x1eb, .ll), (0x1ec, .lu), (0x1ed, .ll), (0x1ee, .lu),
  (0x1ef, .ll), (0x1f1, .lu), (0x1f2, .lt), (0x1f3, .ll), (0x1f4, .lu), (0x1f5, .ll), (0x1f6, .lu),
  (0x1f9, .ll), (0x1fa, .lu), (0x1fb, .ll), (0x1fc, .lu), (0x1fd, .ll), (0x1fe, .lu), (0x1ff, .ll),
  (0x200, .lu), (0x201, .ll), (0x202, .lu), (0x203, .ll), (0x204, .lu), (0x205, .ll), (0x206, .lu),
  (0x207, .ll), (0x208, .lu), (0x209, .ll), (0x20a, .lu), (0x20b, .ll), (0x20c, .lu), (0x20d, .ll),
  (0x20e, .lu), (0x20f, .ll), (0x210, .lu), (0x211, .ll), (0x212, .lu), (0x213, .ll), (0x214, .lu),
  (0x215, .ll), (0x216, .lu), (0x217, .ll), (0x218, .lu), (0x219, .ll), (0x21a, .lu), (0x21b, .ll),
  (0x21c, .lu), (0x21d, .ll), (0x21e, .lu), (0x21f, .ll), (0x220, .lu), (0x221, .ll), (0x222, .lu),
  (0x223, .ll), (0x224, .lu), (0x225, .ll), (0x226, .lu), (0x227, .ll), (0x228, .lu), (0x229, .ll),
  (0x22a, .lu), (0x22b, .ll), (0x22c, .lu), (0x22d, .ll), (0x22e, .lu), (0x22f, .ll), (0x230, .lu),
  (0x231, .ll), (0x232, .lu), (0x233, .ll), (0x23a, .lu), (0x23c, .ll), (0x23d, .lu), (0x23f, .ll),
  (0x241, .lu), (0x242, .ll), (0x243, .lu), (0x247, .ll), (0x248, .lu), (0x249, .ll), (0x24a, .lu),
  (0x24b, .ll), (0x24c, .lu), (0x24d, .ll), (0x24e, .lu), (0x24f, .ll), (0x294, .lo), (0x296, .ll),
  (0x2b0, .lm), (0x2c2, .sk), (0x2c6, .lm), (0x2d2, .sk), (0x2e0, .lm), (0x2e5, .sk), (0x2ec, .lm),
  (0x2ed, .sk), (0x2ee, .lm), (0x2ef, .sk), (0x300, .mn), (0x370, .lu), (0x371, .ll), (0x372, .lu),
  (0x373, .ll), (0x374, .lm), (0x375, .sk), (0x376, .lu), (0x377, .ll), (0x378, .cn), (0x37a, .lm),
  (0x37b, .ll), (0x37e, .po), (0x37f, .lu), (0x380, .cn), (0x384, .sk), (0x386, .lu), (0x387, .po),
  (0x388, .lu), (0x38b, .cn), (0x38c, .lu), (0x38d, .cn), (0x38e, .lu), (0x390, .ll), (0x391, .lu),
  (0x3a2, .cn), (0x3a3, .lu), (0x3ac, .ll), (0x3cf, .lu), (0x3d0, .ll), (0x3d2, .lu), (0x3d5, .ll),
  (0x3d8, .lu), (0x3d9, .ll), (0x3da, .lu), (0x3db, .ll), (0x3dc, .lu), (0x3dd, .ll), (0x3de, .lu),
  (0x3df, .ll), (0x3e0, .lu), (0x3e1, .ll), (0x3e2, .lu), (0x3e3, .ll), (0x3e4, .lu), (0x3e5, .ll),
  (0x3e6, .lu), (0x3e7, .ll), (0x3e8, .lu), (0x3e9, .ll), (0x3ea, .lu), (0x3eb, .ll), (0x3ec, .lu),
  (0x3ed, .ll), (0x3ee, .lu), (0x3ef, .ll), (0x3f4, .lu), (0x3f5, .ll), (0x3f6, .sm), (0x3f7, .lu),
  (0x3f8, .ll), (0x3f9, .lu), (0x3fb, .ll), (0x3fd, .lu), (0x430, .ll), (0x460, .lu), (0x461, .ll),
  (0x462, .lu), (0x463, .ll), (0x464, .lu), (0x465, .ll), (0x466, .lu), (0x467, .ll), (0x468, .lu),
  (0x469, .ll), (0x46a, .lu), (0x46b, .ll), (0x46c, .lu), (0x46d, .ll), (0x46e, .lu), (0x46f, .ll),
  (0x470, .lu), (0x471, .ll), (0x472, .lu), (0x473, .ll), (0x474, .lu), (0x475, .ll), (0x476, .lu),
  (0x477, .ll), (0x478, .lu), (0x479, .ll), (0x47a, .lu), (0x47b, .ll), (0x47c, .lu), (0x47d, .ll),
  (0x47e, .lu), (0x47f, .ll), (0x480, .lu), (0x481, .ll), (0x482, .so), (0x483, .mn), (0x488, .me),
  (0x48a, .lu), (0x48b, .ll), (0x48c, .lu), (0x48d, .ll), (0x48e, .lu), (0x48f, .ll), (0x490, .lu),
  (0x491, .ll), (0x492, .lu), (0x493, .ll), (0x494, .lu), (0x495, .ll), (0x496, .lu), (0x497, .ll),
  (0x498, .lu), (0x499, .ll), (0x49a, .lu), (0x49b, .ll), (0x49c, .lu), (0x49d, .ll), (0x49e, .lu),
  (0x49f, .ll), (0x4a0, .lu), (0x4a1, .ll), (0x4a2, .lu), (0x4a3, .ll), (0x4a4, .lu), (0x4a5, .ll),
  (0x4a6, .lu), (0x4a7, .ll), (0x4a8, .lu), (0x4a9, .ll), (0x4aa, .lu), (0x4ab, .ll), (0x4ac, .lu),
  (0x4ad, .ll), (0x4ae, .lu), (0x4af, .ll), (0x4b0, .lu), (0x4b1, .ll), (0x4b2, .lu), (0x4b3, .ll),
  (0x4b4, .lu), (0x4b5, .ll), (0x4b6, .lu), (0x4b7, .ll), (0x4b8, .lu), (0x4b9, .ll), (0x4ba, .lu),
  (0x4bb, .ll), (0x4bc, .lu), (0x4bd, .ll), (0x4be, .lu), (0x4bf, .ll), (0x4c0, .lu), (0x4c2, .ll),
  (0x4c3, .lu), (0x4c4, .ll), (0x4c5, .lu), (0x4c6, .ll), (0x4c7, .lu), (0x4c8, .ll), (0x4c9, .lu),
  (0x4ca, .ll), (0x4cb, .lu), (0x4cc, .ll), (0x4cd, .lu), (0x4ce, .ll), (0x4d0, .lu), (0x4d1, .ll),
  (0x4d2, .lu), (0x4d3, .ll), (0x4d4, .lu), (0x4d5, .ll), (0x4d6, .lu), (0x4d7, .ll), (0x4d8, .lu),
  (0x4d9, .ll), (0x4da, .lu), (0x4db, .ll), (0x4dc, .lu), (0x4dd, .ll), (0x4de, .lu), (0x4df, .ll),
  (0x4e0, .lu), (0x4e1, .ll), (0x4e2, .lu), (0x4e3, .ll), (0x4e4, .lu), (0x4e5, .ll), (0x4e6, .lu),
  (0x4e7, .ll), (0x4e8, .lu), (0x4e9, .ll), (0x4ea, .lu), (0x4eb, .ll), (0x4ec, .lu), (0x4ed, .ll),
  (0x4ee, .lu), (0x4ef, .ll), (0x4f0, .lu), (0x4f1, .ll), (0x4f2, .lu), (0x4f3, .ll), (0x4f4, .lu),
  (0x4f5, .ll), (0x4f6, .lu), (0x4f7, .ll), (0x4f8, .lu), (0x4f9, .ll), (0x4fa, .lu), (0x4fb, .ll),
  (0x4fc, .lu), (0x4fd, .ll), (0x4fe, .lu), (0x4ff, .ll), (0x500, .lu), (0x501, .ll), (0x502, .lu),
  (0x503, .ll), (0x504, .lu), (0x505, .ll), (0x506, .lu), (0x507, .ll), (0x508, .lu), (0x509, .ll),
  (0x50a, .lu), (0x50b, .ll), (0x50c, .lu), (0x50d, .ll), (0x50e, .lu), (0x50f, .ll), (0x510, .lu),
  (0x511, .ll), (0x512, .lu), (0x513, .ll), (0x514, .lu), (0x515, .ll), (0x516, .lu), (0x517, .ll),
  (0x518, .lu), (0x519, .ll), (0x51a, .lu), (0x51b, .ll), (0x51c, .lu), (0x51d, .ll), (0x51e, .lu),
  (0x51f, .ll), (0x520, .lu), (0x521, .ll), (0x522, .lu), (0x523, .ll), (0x524, .lu), (0x525, .ll),
  (0x526, .lu), (0x527, .ll), (0x528, .lu), (0x529, .ll), (0x52a, .lu), (0x52b, .ll), (0x52c, .lu),
  (0x52d, .ll), (0x52e, .lu), (0x52f, .ll), (0x530, .cn), (0x531, .lu), (0x557, .cn), (0x559, .lm),
  (0x55a, .po), (0x560, .ll), (0x589, .po), (0x58a, .pd), (0x58b, .cn), (0x58d, .so), (0x58f, .sc),
  (0x590, .cn), (0x591, .mn), (0x5be, .pd), (0x5bf, .mn), (0x5c0, .po), (0x5c1, .mn), (0x5c3, .po),
  (0x5c4, .mn), (0x5c6, .po), (0x5c7, .mn), (0x5c8, .cn), (0x5d0, .lo), (0x5eb, .cn), (0x5ef, .lo),
  (0x5f3, .po), (0x5f5, .cn), (0x600, .cf), (0x606, .sm), (0x609, .po), (0x60b, .sc), (0x60c, .po),
  (0x60e, .so), (0x610, .mn), (0x61b, .po), (0x61c, .cf), (0x61d, .po), (0x620, .lo), (0x640, .lm),
  (0x641, .lo), (0x64b, .mn), (0x660, .nd), (0x66a, .po), (0x66e, .lo), (0x670, .mn), (0x671, .lo),
  (0x6d4, .po), (0x6d5, .lo), (0x6d6, .mn), (0x6dd, .cf), (0x6de, .so), (0x6df, .mn), (0x6e5, .lm),
  (0x6e7, .mn), (0x6e9, .so), (0x6ea, .mn), (0x6ee, .lo), (0x6f0, .nd), (0x6fa, .lo), (0x6fd, .so),
  (0x6ff, .lo), (0x700, .po), (0x70e, .cn), (0x70f, .cf), (0x710, .lo), (0x711, .mn), (0x712, .lo),
  (0x730, .mn), (0x74b, .cn), (0x74d, .lo), (0x7a6, .mn), (0x7b1, .lo), (0x7b2, .cn), (0x7c0, .nd),
  (0x7ca, .lo), (0x7eb, .mn), (0x7f4, .lm), (0x7f6, .so), (0x7f7, .po), (0x7fa, .lm), (0x7fb, .cn),
  (0x7fd, .mn), (0x7fe, .sc), (0x800, .lo), (0x816, .mn), (0x81a, .lm), (0x81b, .mn), (0x824, .lm),
  (0x825, .mn), (0x828, .lm), (0x829, .mn), (0x82e, .cn), (0x830, .po), (0x83f, .cn), (0x840, .lo),
  (0x859, .mn), (0x85c, .cn), (0x85e, .po), (0x85f, .cn), (0x860, .lo), (0x86b, .cn), (0x870, .lo),
  (0x888, .sk), (0x889, .lo), (0x890, .cf), (0x892, .cn), (0x897, .mn), (0x8a0, .lo), (0x8c9, .lm),
  (0x8ca, .mn), (0x8e2, .cf), (0x8e3, .mn), (0x903, .mc), (0x904, .lo), (0x93a, .mn), (0x93b, .mc),
  (0x93c, .mn), (0x93d, .lo), (0x93e, .mc), (0x941, .mn), (0x949, .mc), (0x94d, .mn), (0x94e, .mc),
  (0x950, .lo), (0x951, .mn), (0x958, .lo), (0x962, .mn), (0x964, .po), (0x966, .nd), (0x970, .po),
  (0x971, .lm), (0x972, .lo), (0x981, .mn), (0x982, .mc), (0x984, .cn), (0x985, .lo), (0x98d, .cn),
  (0x98f, .lo), (0x991, .cn), (0x993, .lo), (0x9a9, .cn), (0x9aa, .lo), (0x9b1, .cn), (0x9b2, .lo),
  (0x9b3, .cn), (0x9b6, .lo), (0x9ba, .cn), (0x9bc, .mn), (0x9bd, .lo), (0x9be, .mc), (0x9c1, .mn),
  (0x9c5, .cn), (0x9c7, .mc), (0x9c9, .cn), (0x9cb, .mc), (0x9cd, .mn), (0x9ce, .lo), (0x9cf, .cn),
  (0x9d7, .mc), (0x9d8, .cn), (0x9dc, .lo), (0x9de, .cn), (0x9df, .lo), (0x9e2, .mn), (0x9e4, .cn),
  (0x9e6, .nd), (0x9f0, .lo), (0x9f2, .sc), (0x9f4, .no), (0x9fa, .so), (0x9fb, .sc), (0x9fc, .lo),
  (0x9fd, .po), (0x9fe, .mn), (0x9ff, .cn), (0xa01, .mn), (0xa03, .mc), (0xa04, .cn), (0xa05, .lo),
  (0xa0b, .cn), (0xa0f, .lo), (0xa11, .cn), (0xa13, .lo), (0xa29, .cn), (0xa2a, .lo), (0xa31, .cn),
  (0xa32, .lo), (0xa34, .cn), (0xa35, .lo), (0xa37, .cn), (0xa38, .lo), (0xa3a, .cn), (0xa3c, .mn),
  (0xa3d, .cn), (0xa3e, .mc), (0xa41, .mn), (0xa43, .cn), (0xa47, .mn), (0xa49, .cn), (0xa4b, .mn),
  (0xa4e, .cn), (0xa51, .mn), (0xa52, .cn), (0xa59, .lo), (0xa5d, .cn), (0xa5e, .lo), (0xa5f, .cn),
  (0xa66, .nd), (0xa70, .mn), (0xa72, .lo), (0xa75, .mn), (0xa76, .po), (0xa77, .cn), (0xa81, .mn),
  (0xa83, .mc), (0xa84, .cn), (0xa85, .lo), (0xa8e, .cn), (0xa8f, .lo), (0xa92, .cn), (0xa93, .lo),
  (0xaa9, .cn), (0xaaa, .lo), (0xab1, .cn), (0xab2, .lo), (0xab4, .cn), (0xab5, .lo), (0xaba, .cn),
  (0xabc, .mn), (0xabd, .lo), (0xabe, .mc), (0xac1, .mn), (0xac6, .cn), (0xac7, .mn), (0xac9, .mc),
  (0xaca, .cn), (0xacb, .mc), (0xacd, .mn), (0xace, .cn), (0xad0, .lo), (0xad1, .cn), (0xae0, .lo),
  (0xae2, .mn), (0xae4, .cn), (0xae6, .nd), (0xaf0, .po), (0xaf1, .sc), (0xaf2, .cn), (0xaf9, .lo),
  (0xafa, .mn), (0xb00, .cn), (0xb01, .mn), (0xb02, .mc), (0xb04, .cn), (0xb05, .lo), (0xb0d, .cn),
  (0xb0f, .lo), (0xb11, .cn), (0xb13, .lo), (0xb29, .cn), (0xb2a, .lo), (0xb31, .cn), (0xb32, .lo),
  (0xb34, .cn), (0xb35, .lo), (0xb3a, .cn), (0xb3c, .mn), (0xb3d, .lo), (0xb3e, .mc), (0xb3f, .mn),
  (0xb40, .mc), (0xb41, .mn), (0xb45, .cn), (0xb47, .mc), (0xb49, .cn), (0xb4b, .mc), (0xb4d, .mn),
  (0xb4e, .cn), (0xb55, .mn), (0xb57, .mc), (0xb58, .cn), (0xb5c, .lo), (0xb5e, .cn), (0xb5f, .lo),
  (0xb62, .mn), (0xb64, .cn), (0xb66, .nd), (0xb70, .so), (0xb71, .lo), (0xb72, .no), (0xb78, .cn),
  (0xb82, .mn), (0xb83, .lo), (0xb84, .cn), (0xb85, .lo), (0xb8b, .cn), (0xb8e, .lo), (0xb91, .cn),
  (0xb92, .lo), (0xb96, .cn), (0xb99, .lo), (0xb9b, .cn), (0xb9c, .lo), (0xb9d, .cn), (0xb9e, .lo),
  (0xba0, .cn), (0xba3, .lo), (0xba5, .cn), (0xba8, .lo), (0xbab, .cn), (0xbae, .lo), (0xbba, .cn),
  (0xbbe, .mc), (0xbc0, .mn), (0xbc1, .mc), (0xbc3, .cn), (0xbc6, .mc), (0xbc9, .cn), (0xbca, .mc),
  (0xbcd, .mn), (0xbce, .cn), (0xbd0, .lo), (0xbd1, .cn), (0xbd7, .mc), (0xbd8, .cn), (0xbe6, .nd),
  (0xbf0, .no), (0xbf3, .so), (0xbf9, .sc), (0xbfa, .so), (0xbfb, .cn), (0xc00, .mn), (0xc01, .mc),
  (0xc04, .mn), (0xc05, .lo), (0xc0d, .cn), (0xc0e, .lo), (0xc11, .cn), (0xc12, .lo), (0xc29, .cn),
  (0xc2a, .lo), (0xc3a, .cn), (0xc3c, .mn), (0xc3d, .lo), (0xc3e, .mn), (0xc41, .mc), (0xc45, .cn),
  (0xc46, .mn), (0xc49, .cn), (0xc4a, .mn), (0xc4e, .cn), (0xc55, .mn), (0xc57, .cn), (0xc58, .lo),
  (0xc5b, .cn), (0xc5c, .lo), (0xc5e, .cn), (0xc60, .lo), (0xc62, .mn), (0xc64, .cn), (0xc66, .nd),
  (0xc70, .cn), (0xc77, .po), (0xc78, .no), (0xc7f, .so), (0xc80, .lo), (0xc81, .mn), (0xc82, .mc),
  (0xc84, .po), (0xc85, .lo), (0xc8d, .cn), (0xc8e, .lo), (0xc91, .cn), (0xc92, .lo), (0xca9, .cn),
  (0xcaa, .lo), (0xcb4, .cn), (0xcb5, .lo), (0xcba, .cn), (0xcbc, .mn), (0xcbd, .lo), (0xcbe, .mc),
  (0xcbf, .mn), (0xcc0, .mc), (0xcc5, .cn), (0xcc6, .mn), (0xcc7, .mc), (0xcc9, .cn), (0xcca, .mc),
  (0xccc, .mn), (0xcce, .cn), (0xcd5, .mc), (0xcd7, .cn), (0xcdc, .lo), (0xcdf, .cn), (0xce0, .lo),
  (0xce2, .mn), (0xce4, .cn), (0xce6, .nd), (0xcf0, .cn), (0xcf1, .lo), (0xcf3, .mc), (0xcf4, .cn),
  (0xd00, .mn), (0xd02, .mc), (0xd04, .lo), (0xd0d, .cn), (0xd0e, .lo), (0xd11, .cn), (0xd12, .lo),
  (0xd3b, .mn), (0xd3d, .lo), (0xd3e, .mc), (0xd41, .mn), (0xd45, .cn), (0xd46, .mc), (0xd49, .cn),
  (0xd4a, .mc), (0xd4d, .mn), (0xd4e, .lo), (0xd4f, .so), (0xd50, .cn), (0xd54, .lo), (0xd57, .mc),
  (0xd58, .no), (0xd5f, .lo), (0xd62, .mn), (0xd64, .cn), (0xd66, .nd), (0xd70, .no), (0xd79, .so),
  (0xd7a, .lo), (0xd80, .cn), (0xd81, .mn), (0xd82, .mc), (0xd84, .cn), (0xd85, .lo), (0xd97, .cn),
  (0xd9a, .lo), (0xdb2, .cn), (0xdb3, .lo), (0xdbc, .cn), (0xdbd, .lo), (0xdbe, .cn), (0xdc0, .lo),
  (0xdc7, .cn), (0xdca, .mn), (0xdcb, .cn), (0xdcf, .mc), (0xdd2, .mn), (0xdd5, .cn), (0xdd6, .mn),
  (0xdd7, .cn), (0xdd8, .mc), (0xde0, .cn), (0xde6, .nd), (0xdf0, .cn), (0xdf2, .mc), (0xdf4, .po),
  (0xdf5, .cn), (0xe01, .lo), (0xe31, .mn), (0xe32, .lo), (0xe34, .mn), (0xe3b, .cn), (0xe3f, .sc),
  (0xe40, .lo), (0xe46, .lm), (0xe47, .mn), (0xe4f, .po), (0xe50, .nd), (0xe5a, .po), (0xe5c, .cn),
  (0xe81, .lo), (0xe83, .cn), (0xe84, .lo), (0xe85, .cn), (0xe86, .lo), (0xe8b, .cn), (0xe8c, .lo),
  (0xea4, .cn), (0xea5, .lo), (0xea6, .cn), (0xea7, .lo), (0xeb1, .mn), (0xeb2, .lo), (0xeb4, .mn),
  (0xebd, .lo), (0xebe, .cn), (0xec0, .lo), (0xec5, .cn), (0xec6, .lm), (0xec7, .cn), (0xec8, .mn),
  (0xecf, .cn), (0xed0, .nd), (0xeda, .cn), (0xedc, .lo), (0xee0, .cn), (0xf00, .lo), (0xf01, .so),
  (0xf04, .po), (0xf13, .so), (0xf14, .po), (0xf15, .so), (0xf18, .mn), (0xf1a, .so), (0xf20, .nd),
  (0xf2a, .no), (0xf34, .so), (0xf35, .mn), (0xf36, .so), (0xf37, .mn), (0xf38, .so), (0xf39, .mn),
  (0xf3a, .ps), (0xf3b, .pe), (0xf3c, .ps), (0xf3d, .pe), (0xf3e, .mc), (0xf40, .lo), (0xf48, .cn),
  (0xf49, .lo), (0xf6d, .cn), (0xf71, .mn), (0xf7f, .mc), (0xf80, .mn), (0xf85, .po), (0xf86, .mn),
  (0xf88, .lo), (0xf8d, .mn), (0xf98, .cn), (0xf99, .mn), (0xfbd, .cn), (0xfbe, .so), (0xfc6, .mn),
  (0xfc7, .so), (0xfcd, .cn), (0xfce, .so), (0xfd0, .po), (0xfd5, .so), (0xfd9, .po), (0xfdb, .cn)]

def runsTo1FFF : List (Nat × Category) :=
  [(0x1000, .lo), (0x102b, .mc), (0x102d, .mn), (0x1031, .mc), (0x1032, .mn), (0x1038, .mc),
  (0x1039, .mn), (0x103b, .mc), (0x103d, .mn), (0x103f, .lo), (0x1040, .nd), (0x104a, .po),
  (0x1050, .lo), (0x1056, .mc), (0x1058, .mn), (0x105a, .lo), (0x105e, .mn), (0x1061, .lo),
  (0x1062, .mc), (0x1065, .lo), (0x1067, .mc), (0x106e, .lo), (0x1071, .mn), (0x1075, .lo),
  (0x1082, .mn), (0x1083, .mc), (0x1085, .mn), (0x1087, .mc), (0x108d, .mn), (0x108e, .lo),
  (0x108f, .mc), (0x1090, .nd), (0x109a, .mc), (0x109d, .mn), (0x109e, .so), (0x10a0, .lu),
  (0x10c6, .cn), (0x10c7, .lu), (0x10c8, .cn), (0x10cd, .lu), (0x10ce, .cn), (0x10d0, .ll),
  (0x10fb, .po), (0x10fc, .lm), (0x10fd, .ll), (0x1100, .lo), (0x1249, .cn), (0x124a, .lo),
  (0x124e, .cn), (0x1250, .lo), (0x1257, .cn), (0x1258, .lo), (0x1259, .cn), (0x125a, .lo),
  (0x125e, .cn), (0x1260, .lo), (0x1289, .cn), (0x128a, .lo), (0x128e, .cn), (0x1290, .lo),
  (0x12b1, .cn), (0x12b2, .lo), (0x12b6, .cn), (0x12b8, .lo), (0x12bf, .cn), (0x12c0, .lo),
  (0x12c1, .cn), (0x12c2, .lo), (0x12c6, .cn), (0x12c8, .lo), (0x12d7, .cn), (0x12d8, .lo),
  (0x1311, .cn), (0x1312, .lo), (0x1316, .cn), (0x1318, .lo), (0x135b, .cn), (0x135d, .mn),
  (0x1360, .po), (0x1369, .no), (0x137d, .cn), (0x1380, .lo), (0x1390, .so), (0x139a, .cn),
  (0x13a0, .lu), (0x13f6, .cn), (0x13f8, .ll), (0x13fe, .cn), (0x1400, .pd), (0x1401, .lo),
  (0x166d, .so), (0x166e, .po), (0x166f, .lo), (0x1680, .zs), (0x1681, .lo), (0x169b, .ps),
  (0x169c, .pe), (0x169d, .cn), (0x16a0, .lo), (0x16eb, .po), (0x16ee, .nl), (0x16f1, .lo),
  (0x16f9, .cn), (0x1700, .lo), (0x1712, .mn), (0x1715, .mc), (0x1716, .cn), (0x171f, .lo),
  (0x1732, .mn), (0x1734, .mc), (0x1735, .po), (0x1737, .cn), (0x1740, .lo), (0x1752, .mn),
  (0x1754, .cn), (0x1760, .lo), (0x176d, .cn), (0x176e, .lo), (0x1771, .cn), (0x1772, .mn),
  (0x1774, .cn), (0x1780, .lo), (0x17b4, .mn), (0x17b6, .mc), (0x17b7, .mn), (0x17be, .mc),
  (0x17c6, .mn), (0x17c7, .mc), (0x17c9, .mn), (0x17d4, .po), (0x17d7, .lm), (0x17d8, .po),
  (0x17db, .sc), (0x17dc, .lo), (0x17dd, .mn), (0x17de, .cn), (0x17e0, .nd), (0x17ea, .cn),
  (0x17f0, .no), (0x17fa, .cn), (0x1800, .po), (0x1806, .pd), (0x1807, .po), (0x180b, .mn),
  (0x180e, .cf), (0x180f, .mn), (0x1810, .nd), (0x181a, .cn), (0x1820, .lo), (0x1843, .lm),
  (0x1844, .lo), (0x1879, .cn), (0x1880, .lo), (0x1885, .mn), (0x1887, .lo), (0x18a9, .mn),
  (0x18aa, .lo), (0x18ab, .cn), (0x18b0, .lo), (0x18f6, .cn), (0x1900, .lo), (0x191f, .cn),
  (0x1920, .mn), (0x1923, .mc), (0x1927, .mn), (0x1929, .mc), (0x192c, .cn), (0x1930, .mc),
  (0x1932, .mn), (0x1933, .mc), (0x1939, .mn), (0x193c, .cn), (0x1940, .so), (0x1941, .cn),
  (0x1944, .po), (0x1946, .nd), (0x1950, .lo), (0x196e, .cn), (0x1970, .lo), (0x1975, .cn),
  (0x1980, .lo), (0x19ac, .cn), (0x19b0, .lo), (0x19ca, .cn), (0x19d0, .nd), (0x19da, .no),
  (0x19db, .cn), (0x19de, .so), (0x1a00, .lo), (0x1a17, .mn), (0x1a19, .mc), (0x1a1b, .mn),
  (0x1a1c, .cn), (0x1a1e, .po), (0x1a20, .lo), (0x1a55, .mc), (0x1a56, .mn), (0x1a57, .mc),
  (0x1a58, .mn), (0x1a5f, .cn), (0x1a60, .mn), (0x1a61, .mc), (0x1a62, .mn), (0x1a63, .mc),
  (0x1a65, .mn), (0x1a6d, .mc), (0x1a73, .mn), (0x1a7d, .cn), (0x1a7f, .mn), (0x1a80, .nd),
  (0x1a8a, .cn), (0x1a90, .nd), (0x1a9a, .cn), (0x1aa0, .po), (0x1aa7, .lm), (0x1aa8, .po),
  (0x1aae, .cn), (0x1ab0, .mn), (0x1abe, .me), (0x1abf, .mn), (0x1ade, .cn), (0x1ae0, .mn),
  (0x1aec, .cn), (0x1b00, .mn), (0x1b04, .mc), (0x1b05, .lo), (0x1b34, .mn), (0x1b35, .mc),
  (0x1b36, .mn), (0x1b3b, .mc), (0x1b3c, .mn), (0x1b3d, .mc), (0x1b42, .mn), (0x1b43, .mc),
  (0x1b45, .lo), (0x1b4d, .cn), (0x1b4e, .po), (0x1b50, .nd), (0x1b5a, .po), (0x1b61, .so),
  (0x1b6b, .mn), (0x1b74, .so), (0x1b7d, .po), (0x1b80, .mn), (0x1b82, .mc), (0x1b83, .lo),
  (0x1ba1, .mc), (0x1ba2, .mn), (0x1ba6, .mc), (0x1ba8, .mn), (0x1baa, .mc), (0x1bab, .mn),
  (0x1bae, .lo), (0x1bb0, .nd), (0x1bba, .lo), (0x1be6, .mn), (0x1be7, .mc), (0x1be8, .mn),
  (0x1bea, .mc), (0x1bed, .mn), (0x1bee, .mc), (0x1bef, .mn), (0x1bf2, .mc), (0x1bf4, .cn),
  (0x1bfc, .po), (0x1c00, .lo), (0x1c24, .mc), (0x1c2c, .mn), (0x1c34, .mc), (0x1c36, .mn),
  (0x1c38, .cn), (0x1c3b, .po), (0x1c40, .nd), (0x1c4a, .cn), (0x1c4d, .lo), (0x1c50, .nd),
  (0x1c5a, .lo), (0x1c78, .lm), (0x1c7e, .po), (0x1c80, .ll), (0x1c89, .lu), (0x1c8a, .ll),
  (0x1c8b, .cn), (0x1c90, .lu), (0x1cbb, .cn), (0x1cbd, .lu), (0x1cc0, .po), (0x1cc8, .cn),
  (0x1cd0, .mn), (0x1cd3, .po), (0x1cd4, .mn), (0x1ce1, .mc), (0x1ce2, .mn), (0x1ce9, .lo),
  (0x1ced, .mn), (0x1cee, .lo), (0x1cf4, .mn), (0x1cf5, .lo), (0x1cf7, .mc), (0x1cf8, .mn),
  (0x1cfa, .lo), (0x1cfb, .cn), (0x1d00, .ll), (0x1d2c, .lm), (0x1d6b, .ll), (0x1d78, .lm),
  (0x1d79, .ll), (0x1d9b, .lm), (0x1dc0, .mn), (0x1e00, .lu), (0x1e01, .ll), (0x1e02, .lu),
  (0x1e03, .ll), (0x1e04, .lu), (0x1e05, .ll), (0x1e06, .lu), (0x1e07, .ll), (0x1e08, .lu),
  (0x1e09, .ll), (0x1e0a, .lu), (0x1e0b, .ll), (0x1e0c, .lu), (0x1e0d, .ll), (0x1e0e, .lu),
  (0x1e0f, .ll), (0x1e10, .lu), (0x1e11, .ll), (0x1e12, .lu), (0x1e13, .ll), (0x1e14, .lu),
  (0x1e15, .ll), (0x1e16, .lu), (0x1e17, .ll), (0x1e18, .lu), (0x1e19, .ll), (0x1e1a, .lu),
  (0x1e1b, .ll), (0x1e1c, .lu), (0x1e1d, .ll), (0x1e1e, .lu), (0x1e1f, .ll), (0x1e20, .lu),
  (0x1e21, .ll), (0x1e22, .lu), (0x1e23, .ll), (0x1e24, .lu), (0x1e25, .ll), (0x1e26, .lu),
  (0x1e27, .ll), (0x1e28, .lu), (0x1e29, .ll), (0x1e2a, .lu), (0x1e2b, .ll), (0x1e2c, .lu),
  (0x1e2d, .ll), (0x1e2e, .lu), (0x1e2f, .ll), (0x1e30, .lu), (0x1e31, .ll), (0x1e32, .lu),
  (0x1e33, .ll), (0x1e34, .lu), (0x1e35, .ll), (0x1e36, .lu), (0x1e37, .ll), (0x1e38, .lu),
  (0x1e39, .ll), (0x1e3a, .lu), (0x1e3b, .ll), (0x1e3c, .lu), (0x1e3d, .ll), (0x1e3e, .lu),
  (0x1e3f, .ll), (0x1e40, .lu), (0x1e41, .ll), (0x1e42, .lu), (0x1e43, .ll), (0x1e44, .lu),
  (0x1e45, .ll), (0x1e46, .lu), (0x1e47, .ll), (0x1e48, .lu), (0x1e49, .ll), (0x1e4a, .lu),
  (0x1e4b, .ll), (0x1e4c, .lu), (0x1e4d, .ll), (0x1e4e, .lu), (0x1e4f, .ll), (0x1e50, .lu),
  (0x1e51, .ll), (0x1e52, .lu), (0x1e53, .ll), (0x1e54, .lu), (0x1e55, .ll), (0x1e56, .lu),
  (0x1e57, .ll), (0x1e58, .lu), (0x1e59, .ll), (0x1e5a, .lu), (0x1e5b, .ll), (0x1e5c, .lu),
  (0x1e5d, .ll), (0x1e5e, .lu), (0x1e5f, .ll), (0x1e60, .lu), (0x1e61, .ll), (0x1e62, .lu),
  (0x1e63, .ll), (0x1e64, .lu), (0x1e65, .ll), (0x1e66, .lu), (0x1e67, .ll), (0x1e68, .lu),
  (0x1e69, .ll), (0x1e6a, .lu), (0x1e6b, .ll), (0x1e6c, .lu), (0x1e6d, .ll), (0x1e6e, .lu),
  (0x1e6f, .ll), (0x1e70, .lu), (0x1e71, .ll), (0x1e72, .lu), (0x1e73, .ll), (0x1e74, .lu),
  (0x1e75, .ll), (0x1e76, .lu), (0x1e77, .ll), (0x1e78, .lu), (0x1e79, .ll), (0x1e7a, .lu),
  (0x1e7b, .ll), (0x1e7c, .lu), (0x1e7d, .ll), (0x1e7e, .lu), (0x1e7f, .ll), (0x1e80, .lu),
  (0x1e81, .ll), (0x1e82, .lu), (0x1e83, .ll), (0x1e84, .lu), (0x1e85, .ll), (0x1e86, .lu),
  (0x1e87, .ll), (0x1e88, .lu), (0x1e89, .ll), (0x1e8a, .lu), (0x1e8b, .ll), (0x1e8c, .lu),
  (0x1e8d, .ll), (0x1e8e, .lu), (0x1e8f, .ll), (0x1e90, .lu), (0x1e91, .ll), (0x1e92, .lu),
  (0x1e93, .ll), (0x1e94, .lu), (0x1e95, .ll), (0x1e9e, .lu), (0x1e9f, .ll), (0x1ea0, .lu),
  (0x1ea1, .ll), (0x1ea2, .lu), (0x1ea3, .ll), (0x1ea4, .lu), (0x1ea5, .ll), (0x1ea6, .lu),
  (0x1ea7, .ll), (0x1ea8, .lu), (0x1ea9, .ll), (0x1eaa, .lu), (0x1eab, .ll), (0x1eac, .lu),
  (0x1ead, .ll), (0x1eae, .lu), (0x1eaf, .ll), (0x1eb0, .lu), (0x1eb1, .ll), (0x1eb2, .lu),
  (0x1eb3, .ll), (0x1eb4, .lu), (0x1eb5, .ll), (0x1eb6, .lu), (0x1eb7, .ll), (0x1eb8, .lu),
  (0x1eb9, .ll), (0x1eba, .lu), (0x1ebb, .ll), (0x1ebc, .lu), (0x1ebd, .ll), (0x1ebe, .lu),
  (0x1ebf, .ll), (0x1ec0, .lu), (0x1ec1, .ll), (0x1ec2, .lu), (0x1ec3, .ll), (0x1ec4, .lu),
  (0x1ec5, .ll), (0x1ec6, .lu), (0x1ec7, .ll), (0x1ec8, .lu), (0x1ec9, .ll), (0x1eca, .lu),
  (0x1ecb, .ll), (0x1ecc, .lu), (0x1ecd, .ll), (0x1ece, .lu), (0x1ecf, .ll), (0x1ed0, .lu),
  (0x1ed1, .ll), (0x1ed2, .lu), (0x1ed3, .ll), (0x1ed4, .lu), (0x1ed5, .ll), (0x1ed6, .lu),
  (0x1ed7, .ll), (0x1ed8, .lu), (0x1ed9, .ll), (0x1eda, .lu), (0x1edb, .ll), (0x1edc, .lu),
  (0x1edd, .ll), (0x1ede, .lu), (0x1edf, .ll), (0x1ee0, .lu), (0x1ee1, .ll), (0x1ee2, .lu),
  (0x1ee3, .ll), (0x1ee4, .lu), (0x1ee5, .ll), (0x1ee6, .lu), (0x1ee7, .ll), (0x1ee8, .lu),
  (0x1ee9, .ll), (0x1eea, .lu), (0x1eeb, .ll), (0x1eec, .lu), (0x1eed, .ll), (0x1eee, .lu),
  (0x1eef, .ll), (0x1ef0, .lu), (0x1ef1, .ll), (0x1ef2, .lu), (0x1ef3, .ll), (0x1ef4, .lu),
  (0x1ef5, .ll), (0x1ef6, .lu), (0x1ef7, .ll), (0x1ef8, .lu), (0x1ef9, .ll), (0x1efa, .lu),
  (0x1efb, .ll), (0x1efc, .lu), (0x1efd, .ll), (0x1efe, .lu), (0x1eff, .ll), (0x1f08, .lu),
  (0x1f10, .ll), (0x1f16, .cn), (0x1f18, .lu), (0x1f1e, .cn), (0x1f20, .ll), (0x1f28, .lu),
  (0x1f30, .ll), (0x1f38, .lu), (0x1f40, .ll), (0x1f46, .cn), (0x1f48, .lu), (0x1f4e, .cn),
  (0x1f50, .ll), (0x1f58, .cn), (0x1f59, .lu), (0x1f5a, .cn), (0x1f5b, .lu), (0x1f5c, .cn),
  (0x1f5d, .lu), (0x1f5e, .cn), (0x1f5f, .lu), (0x1f60, .ll), (0x1f68, .lu), (0x1f70, .ll),
  (0x1f7e, .cn), (0x1f80, .ll), (0x1f88, .lt), (0x1f90, .ll), (0x1f98, .lt), (0x1fa0, .ll),
  (0x1fa8, .lt), (0x1fb0, .ll), (0x1fb5, .cn), (0x1fb6, .ll), (0x1fb8, .lu), (0x1fbc, .lt),
  (0x1fbd, .sk), (0x1fbe, .ll), (0x1fbf, .sk), (0x1fc2, .ll), (0x1fc5, .cn), (0x1fc6, .ll),
  (0x1fc8, .lu), (0x1fcc, .lt), (0x1fcd, .sk), (0x1fd0, .ll), (0x1fd4, .cn), (0x1fd6, .ll),
  (0x1fd8, .lu), (0x1fdc, .cn), (0x1fdd, .sk), (0x1fe0, .ll), (0x1fe8, .lu), (0x1fed, .sk),
  (0x1ff0, .cn), (0x1ff2, .ll), (0x1ff5, .cn), (0x1ff6, .ll), (0x1ff8, .lu), (0x1ffc, .lt),
  (0x1ffd, .sk), (0x1fff, .cn)]

def runsToA63F : List (Nat × Category) :=
  [(0x2000, .zs), (0x200b, .cf), (0x2010, .pd), (0x2016, .po), (0x2018, .pi), (0x2019, .pf),
  (0x201a, .ps), (0x201b, .pi), (0x201d, .pf), (0x201e, .ps), (0x201f, .pi), (0x2020, .po),
  (0x2028, .zl), (0x2029, .zp), (0x202a, .cf), (0x202f, .zs), (0x2030, .po), (0x2039, .pi),
  (0x203a, .pf), (0x203b, .po), (0x203f, .pc), (0x2041, .po), (0x2044, .sm), (0x2045, .ps),
  (0x2046, .pe), (0x2047, .po), (0x2052, .sm), (0x2053, .po), (0x2054, .pc), (0x2055, .po),
  (0x205f, .zs), (0x2060, .cf), (0x2065, .cn), (0x2066, .cf), (0x2070, .no), (0x2071, .lm),
  (0x2072, .cn), (0x2074, .no), (0x207a, .sm), (0x207d, .ps), (0x207e, .pe), (0x207f, .lm),
  (0x2080, .no), (0x208a, .sm), (0x208d, .ps), (0x208e, .pe), (0x208f, .cn), (0x2090, .lm),
  (0x209d, .cn), (0x20a0, .sc), (0x20c2, .cn), (0x20d0, .mn), (0x20dd, .me), (0x20e1, .mn),
  (0x20e2, .me), (0x20e5, .mn), (0x20f1, .cn), (0x2100, .so), (0x2102, .lu), (0x2103, .so),
  (0x2107, .lu), (0x2108, .so), (0x210a, .ll), (0x210b, .lu), (0x210e, .ll), (0x2110, .lu),
  (0x2113, .ll), (0x2114, .so), (0x2115, .lu), (0x2116, .so), (0x2118, .sm), (0x2119, .lu),
  (0x211e, .so), (0x2124, .lu), (0x2125, .so), (0x2126, .lu), (0x2127, .so), (0x2128, .lu),
  (0x2129, .so), (0x212a, .lu), (0x212e, .so), (0x212f, .ll), (0x2130, .lu), (0x2134, .ll),
  (0x2135, .lo), (0x2139, .ll), (0x213a, .so), (0x213c, .ll), (0x213e, .lu), (0x2140, .sm),
  (0x2145, .lu), (0x2146, .ll), (0x214a, .so), (0x214b, .sm), (0x214c, .so), (0x214e, .ll),
  (0x214f, .so), (0x2150, .no), (0x2160, .nl), (0x2183, .lu), (0x2184, .ll), (0x2185, .nl),
  (0x2189, .no), (0x218a, .so), (0x218c, .cn), (0x2190, .sm), (0x2195, .so), (0x219a, .sm),
  (0x219c, .so), (0x21a0, .sm), (0x21a1, .so), (0x21a3, .sm), (0x21a4, .so), (0x21a6, .sm),
  (0x21a7, .so), (0x21ae, .sm), (0x21af, .so), (0x21ce, .sm), (0x21d0, .so), (0x21d2, .sm),
  (0x21d3, .so), (0x21d4, .sm), (0x21d5, .so), (0x21f4, .sm), (0x2300, .so), (0x2308, .ps),
  (0x2309, .pe), (0x230a, .ps), (0x230b, .pe), (0x230c, .so), (0x2320, .sm), (0x2322, .so),
  (0x2329, .ps), (0x232a, .pe), (0x232b, .so), (0x237c, .sm), (0x237d, .so), (0x239b, .sm),
  (0x23b4, .so), (0x23dc, .sm), (0x23e2, .so), (0x242a, .cn), (0x2440, .so), (0x244b, .cn),
  (0x2460, .no), (0x249c, .so), (0x24ea, .no), (0x2500, .so), (0x25b7, .sm), (0x25b8, .so),
  (0x25c1, .sm), (0x25c2, .so), (0x25f8, .sm), (0x2600, .so), (0x266f, .sm), (0x2670, .so),
  (0x2768, .ps), (0x2769, .pe), (0x276a, .ps), (0x276b, .pe), (0x276c, .ps), (0x276d, .pe),
  (0x276e, .ps), (0x276f, .pe), (0x2770, .ps), (0x2771, .pe), (0x2772, .ps), (0x2773, .pe),
  (0x2774, .ps), (0x2775, .pe), (0x2776, .no), (0x2794, .so), (0x27c0, .sm), (0x27c5, .ps),
  (0x27c6, .pe), (0x27c7, .sm), (0x27e6, .ps), (0x27e7, .pe), (0x27e8, .ps), (0x27e9, .pe),
  (0x27ea, .ps), (0x27eb, .pe), (0x27ec, .ps), (0x27ed, .pe), (0x27ee, .ps), (0x27ef, .pe),
  (0x27f0, .sm), (0x2800, .so), (0x2900, .sm), (0x2983, .ps), (0x2984, .pe), (0x2985, .ps),
  (0x2986, .pe), (0x2987, .ps), (0x2988, .pe), (0x2989, .ps), (0x298a, .pe), (0x298b, .ps),
  (0x298c, .pe), (0x298d, .ps), (0x298e, .pe), (0x298f, .ps), (0x2990, .pe), (0x2991, .ps),
  (0x2992, .pe), (0x2993, .ps), (0x2994, .pe), (0x2995, .ps), (0x2996, .pe), (0x2997, .ps),
  (0x2998, .pe), (0x2999, .sm), (0x29d8, .ps), (0x29d9, .pe), (0x29da, .ps), (0x29db, .pe),
  (0x29dc, .sm), (0x29fc, .ps), (0x29fd, .pe), (0x29fe, .sm), (0x2b00, .so), (0x2b30, .sm),
  (0x2b45, .so), (0x2b47, .sm), (0x2b4d, .so), (0x2b74, .cn), (0x2b76, .so), (0x2c00, .lu),
  (0x2c30, .ll), (0x2c60, .lu), (0x2c61, .ll), (0x2c62, .lu), (0x2c65, .ll), (0x2c67, .lu),
  (0x2c68, .ll), (0x2c69, .lu), (0x2c6a, .ll), (0x2c6b, .lu), (0x2c6c, .ll), (0x2c6d, .lu),
  (0x2c71, .ll), (0x2c72, .lu), (0x2c73, .ll), (0x2c75, .lu), (0x2c76, .ll), (0x2c7c, .lm),
  (0x2c7e, .lu), (0x2c81, .ll), (0x2c82, .lu), (0x2c83, .ll), (0x2c84, .lu), (0x2c85, .ll),
  (0x2c86, .lu), (0x2c87, .ll), (0x2c88, .lu), (0x2c89, .ll), (0x2c8a, .lu), (0x2c8b, .ll),
  (0x2c8c, .lu), (0x2c8d, .ll), (0x2c8e, .lu), (0x2c8f, .ll), (0x2c90, .lu), (0x2c91, .ll),
  (0x2c92, .lu), (0x2c93, .ll), (0x2c94, .lu), (0x2c95, .ll), (0x2c96, .lu), (0x2c97, .ll),
  (0x2c98, .lu), (0x2c99, .ll), (0x2c9a, .lu), (0x2c9b, .ll), (0x2c9c, .lu), (0x2c9d, .ll),
  (0x2c9e, .lu), (0x2c9f, .ll), (0x2ca0, .lu), (0x2ca1, .ll), (0x2ca2, .lu), (0x2ca3, .ll),
  (0x2ca4, .lu), (0x2ca5, .ll), (0x2ca6, .lu), (0x2ca7, .ll), (0x2ca8, .lu), (0x2ca9, .ll),
  (0x2caa, .lu), (0x2cab, .ll), (0x2cac, .lu), (0x2cad, .ll), (0x2cae, .lu), (0x2caf, .ll),
  (0x2cb0, .lu), (0x2cb1, .ll), (0x2cb2, .lu), (0x2cb3, .ll), (0x2cb4, .lu), (0x2cb5, .ll),
  (0x2cb6, .lu), (0x2cb7, .ll), (0x2cb8, .lu), (0x2cb9, .ll), (0x2cba, .lu), (0x2cbb, .ll),
  (0x2cbc, .lu), (0x2cbd, .ll), (0x2cbe, .lu), (0x2cbf, .ll), (0x2cc0, .lu), (0x2cc1, .ll),
  (0x2cc2, .lu), (0x2cc3, .ll), (0x2cc4, .lu), (0x2cc5, .ll), (0x2cc6, .lu), (0x2cc7, .ll),
  (0x2cc8, .lu), (0x2cc9, .ll), (0x2cca, .lu), (0x2ccb, .ll), (0x2ccc, .lu), (0x2ccd, .ll),
  (0x2cce, .lu), (0x2ccf, .ll), (0x2cd0, .lu), (0x2cd1, .ll), (0x2cd2, .lu), (0x2cd3, .ll),
  (0x2cd4, .lu), (0x2cd5, .ll), (0x2cd6, .lu), (0x2cd7, .ll), (0x2cd8, .lu), (0x2cd9, .ll),
  (0x2cda, .lu), (0x2cdb, .ll), (0x2cdc, .lu), (0x2cdd, .ll), (0x2cde, .lu), (0x2cdf, .ll),
  (0x2ce0, .lu), (0x2ce1, .ll), (0x2ce2, .lu), (0x2ce3, .ll), (0x2ce5, .so), (0x2ceb, .lu),
  (0x2cec, .ll), (0x2ced, .lu), (0x2cee, .ll), (0x2cef, .mn), (0x2cf2, .lu), (0x2cf3, .ll),
  (0x2cf4, .cn), (0x2cf9, .po), (0x2cfd, .no), (0x2cfe, .po), (0x2d00, .ll), (0x2d26, .cn),
  (0x2d27, .ll), (0x2d28, .cn), (0x2d2d, .ll), (0x2d2e, .cn), (0x2d30, .lo), (0x2d68, .cn),
  (0x2d6f, .lm), (0x2d70, .po), (0x2d71, .cn), (0x2d7f, .mn), (0x2d80, .lo), (0x2d97, .cn),
  (0x2da0, .lo), (0x2da7, .cn), (0x2da8, .lo), (0x2daf, .cn), (0x2db0, .lo), (0x2db7, .cn),
  (0x2db8, .lo), (0x2dbf, .cn), (0x2dc0, .lo), (0x2dc7, .cn), (0x2dc8, .lo), (0x2dcf, .cn),
  (0x2dd0, .lo), (0x2dd7, .cn), (0x2dd8, .lo), (0x2ddf, .cn), (0x2de0, .mn), (0x2e00, .po),
  (0x2e02, .pi), (0x2e03, .pf), (0x2e04, .pi), (0x2e05, .pf), (0x2e06, .po), (0x2e09, .pi),
  (0x2e0a, .pf), (0x2e0b, .po), (0x2e0c, .pi), (0x2e0d, .pf), (0x2e0e, .po), (0x2e17, .pd),
  (0x2e18, .po), (0x2e1a, .pd), (0x2e1b, .po), (0x2e1c, .pi), (0x2e1d, .pf), (0x2e1e, .po),
  (0x2e20, .pi), (0x2e21, .pf), (0x2e22, .ps), (0x2e23, .pe), (0x2e24, .ps), (0x2e25, .pe),
  (0x2e26, .ps), (0x2e27, .pe), (0x2e28, .ps), (0x2e29, .pe), (0x2e2a, .po), (0x2e2f, .lm),
  (0x2e30, .po), (0x2e3a, .pd), (0x2e3c, .po), (0x2e40, .pd), (0x2e41, .po), (0x2e42, .ps),
  (0x2e43, .po), (0x2e50, .so), (0x2e52, .po), (0x2e55, .ps), (0x2e56, .pe), (0x2e57, .ps),
  (0x2e58, .pe), (0x2e59, .ps), (0x2e5a, .pe), (0x2e5b, .ps), (0x2e5c, .pe), (0x2e5d, .pd),
  (0x2e5e, .cn), (0x2e80, .so), (0x2e9a, .cn), (0x2e9b, .so), (0x2ef4, .cn), (0x2f00, .so),
  (0x2fd6, .cn), (0x2ff0, .so), (0x3000, .zs), (0x3001, .po), (0x3004, .so), (0x3005, .lm),
  (0x3006, .lo), (0x3007, .nl), (0x3008, .ps), (0x3009, .pe), (0x300a, .ps), (0x300b, .pe),
  (0x300c, .ps), (0x300d, .pe), (0x300e, .ps), (0x300f, .pe), (0x3010, .ps), (0x3011, .pe),
  (0x3012, .so), (0x3014, .ps), (0x3015, .pe), (0x3016, .ps), (0x3017, .pe), (0x3018, .ps),
  (0x3019, .pe), (0x301a, .ps), (0x301b, .pe), (0x301c, .pd), (0x301d, .ps), (0x301e, .pe),
  (0x3020, .so), (0x3021, .nl), (0x302a, .mn), (0x302e, .mc), (0x3030, .pd), (0x3031, .lm),
  (0x3036, .so), (0x3038, .nl), (0x303b, .lm), (0x303c, .lo), (0x303d, .po), (0x303e, .so),
  (0x3040, .cn), (0x3041, .lo), (0x3097, .cn), (0x3099, .mn), (0x309b, .sk), (0x309d, .lm),
  (0x309f, .lo), (0x30a0, .pd), (0x30a1, .lo), (0x30fb, .po), (0x30fc, .lm), (0x30ff, .lo),
  (0x3100, .cn), (0x3105, .lo), (0x3130, .cn), (0x3131, .lo), (0x318f, .cn), (0x3190, .so),
  (0x3192, .no), (0x3196, .so), (0x31a0, .lo), (0x31c0, .so), (0x31e6, .cn), (0x31ef, .so),
  (0x31f0, .lo), (0x3200, .so), (0x321f, .cn), (0x3220, .no), (0x322a, .so), (0x3248, .no),
  (0x3250, .so), (0x3251, .no), (0x3260, .so), (0x3280, .no), (0x328a, .so), (0x32b1, .no),
  (0x32c0, .so), (0x3400, .lo), (0x4dc0, .so), (0x4e00, .lo), (0xa015, .lm), (0xa016, .lo),
  (0xa48d, .cn), (0xa490, .so), (0xa4c7, .cn), (0xa4d0, .lo), (0xa4f8, .lm), (0xa4fe, .po),
  (0xa500, .lo), (0xa60c, .lm), (0xa60d, .po), (0xa610, .lo), (0xa620, .nd), (0xa62a, .lo),
  (0xa62c, .cn)]

def runsToFFFF : List (Nat × Category) :=
  [(0xa640, .lu), (0xa641, .ll), (0xa642, .lu), (0xa643, .ll), (0xa644, .lu), (0xa645, .ll),
  (0xa646, .lu), (0xa647, .ll), (0xa648, .lu), (0xa649, .ll), (0xa64a, .lu), (0xa64b, .ll),
  (0xa64c, .lu), (0xa64d, .ll), (0xa64e, .lu), (0xa64f, .ll), (0xa650, .lu), (0xa651, .ll),
  (0xa652, .lu), (0xa653, .ll), (0xa654, .lu), (0xa655, .ll), (0xa656, .lu), (0xa657, .ll),
  (0xa658, .lu), (0xa659, .ll), (0xa65a, .lu), (0xa65b, .ll), (0xa65c, .lu), (0xa65d, .ll),
  (0xa65e, .lu), (0xa65f, .ll), (0xa660, .lu), (0xa661, .ll), (0xa662, .lu), (0xa663, .ll),
  (0xa664, .lu), (0xa665, .ll), (0xa666, .lu), (0xa667, .ll), (0xa668, .lu), (0xa669, .ll),
  (0xa66a, .lu), (0xa66b, .ll), (0xa66c, .lu), (0xa66d, .ll), (0xa66e, .lo), (0xa66f, .mn),
  (0xa670, .me), (0xa673, .po), (0xa674, .mn), (0xa67e, .po), (0xa67f, .lm), (0xa680, .lu),
  (0xa681, .ll), (0xa682, .lu), (0xa683, .ll), (0xa684, .lu), (0xa685, .ll), (0xa686, .lu),
  (0xa687, .ll), (0xa688, .lu), (0xa689, .ll), (0xa68a, .lu), (0xa68b, .ll), (0xa68c, .lu),
  (0xa68d, .ll), (0xa68e, .lu), (0xa68f, .ll), (0xa690, .lu), (0xa691, .ll), (0xa692, .lu),
  (0xa693, .ll), (0xa694, .lu), (0xa695, .ll), (0xa696, .lu), (0xa697, .ll), (0xa698, .lu),
  (0xa699, .ll), (0xa69a, .lu), (0xa69b, .ll), (0xa69c, .lm), (0xa69e, .mn), (0xa6a0, .lo),
  (0xa6e6, .nl), (0xa6f0, .mn), (0xa6f2, .po), (0xa6f8, .cn), (0xa700, .sk), (0xa717, .lm),
  (0xa720, .sk), (0xa722, .lu), (0xa723, .ll), (0xa724, .lu), (0xa725, .ll), (0xa726, .lu),
  (0xa727, .ll), (0xa728, .lu), (0xa729, .ll), (0xa72a, .lu), (0xa72b, .ll), (0xa72c, .lu),
  (0xa72d, .ll), (0xa72e, .lu), (0xa72f, .ll), (0xa732, .lu), (0xa733, .ll), (0xa734, .lu),
  (0xa735, .ll), (0xa736, .lu), (0xa737, .ll), (0xa738, .lu), (0xa739, .ll), (0xa73a, .lu),
  (0xa73b, .ll), (0xa73c, .lu), (0xa73d, .ll), (0xa73e, .lu), (0xa73f, .ll), (0xa740, .lu),
  (0xa741, .ll), (0xa742, .lu), (0xa743, .ll), (0xa744, .lu), (0xa745, .ll), (0xa746, .lu),
  (0xa747, .ll), (0xa748, .lu), (0xa749, .ll), (0xa74a, .lu), (0xa74b, .ll), (0xa74c, .lu),
  (0xa74d, .ll), (0xa74e, .lu), (0xa74f, .ll), (0xa750, .lu), (0xa751, .ll), (0xa752, .lu),
  (0xa753, .ll), (0xa754, .lu), (0xa755, .ll), (0xa756, .lu), (0xa757, .ll), (0xa758, .lu),
  (0xa759, .ll), (0xa75a, .lu), (0xa75b, .ll), (0xa75c, .lu), (0xa75d, .ll), (0xa75e, .lu),
  (0xa75f, .ll), (0xa760, .lu), (0xa761, .ll), (0xa762, .lu), (0xa763, .ll), (0xa764, .lu),
  (0xa765, .ll), (0xa766, .lu), (0xa767, .ll), (0xa768, .lu), (0xa769, .ll), (0xa76a, .lu),
  (0xa76b, .ll), (0xa76c, .lu), (0xa76d, .ll), (0xa76e, .lu), (0xa76f, .ll), (0xa770, .lm),
  (0xa771, .ll), (0xa779, .lu), (0xa77a, .ll), (0xa77b, .lu), (0xa77c, .ll), (0xa77d, .lu),
  (0xa77f, .ll), (0xa780, .lu), (0xa781, .ll), (0xa782, .lu), (0xa783, .ll), (0xa784, .lu),
  (0xa785, .ll), (0xa786, .lu), (0xa787, .ll), (0xa788, .lm), (0xa789, .sk), (0xa78b, .lu),
  (0xa78c, .ll), (0xa78d, .lu), (0xa78e, .ll), (0xa78f, .lo), (0xa790, .lu), (0xa791, .ll),
  (0xa792, .lu), (0xa793, .ll), (0xa796, .lu), (0xa797, .ll), (0xa798, .lu), (0xa799, .ll),
  (0xa79a, .lu), (0xa79b, .ll), (0xa79c, .lu), (0xa79d, .ll), (0xa79e, .lu), (0xa79f, .ll),
  (0xa7a0, .lu), (0xa7a1, .ll), (0xa7a2, .lu), (0xa7a3, .ll), (0xa7a4, .lu), (0xa7a5, .ll),
  (0xa7a6, .lu), (0xa7a7, .ll), (0xa7a8, .lu), (0xa7a9, .ll), (0xa7aa, .lu), (0xa7af, .ll),
  (0xa7b0, .lu), (0xa7b5, .ll), (0xa7b6, .lu), (0xa7b7, .ll), (0xa7b8, .lu), (0xa7b9, .ll),
  (0xa7ba, .lu), (0xa7bb, .ll), (0xa7bc, .lu), (0xa7bd, .ll), (0xa7be, .lu), (0xa7bf, .ll),
  (0xa7c0, .lu), (0xa7c1, .ll), (0xa7c2, .lu), (0xa7c3, .ll), (0xa7c4, .lu), (0xa7c8, .ll),
  (0xa7c9, .lu), (0xa7ca, .ll), (0xa7cb, .lu), (0xa7cd, .ll), (0xa7ce, .lu), (0xa7cf, .ll),
  (0xa7d0, .lu), (0xa7d1, .ll), (0xa7d2, .lu), (0xa7d3, .ll), (0xa7d4, .lu), (0xa7d5, .ll),
  (0xa7d6, .lu), (0xa7d7, .ll), (0xa7d8, .lu), (0xa7d9, .ll), (0xa7da, .lu), (0xa7db, .ll),
  (0xa7dc, .lu), (0xa7dd, .cn), (0xa7f1, .lm), (0xa7f5, .lu), (0xa7f6, .ll), (0xa7f7, .lo),
  (0xa7f8, .lm), (0xa7fa, .ll), (0xa7fb, .lo), (0xa802, .mn), (0xa803, .lo), (0xa806, .mn),
  (0xa807, .lo), (0xa80b, .mn), (0xa80c, .lo), (0xa823, .mc), (0xa825, .mn), (0xa827, .mc),
  (0xa828, .so), (0xa82c, .mn), (0xa82d, .cn), (0xa830, .no), (0xa836, .so), (0xa838, .sc),
  (0xa839, .so), (0xa83a, .cn), (0xa840, .lo), (0xa874, .po), (0xa878, .cn), (0xa880, .mc),
  (0xa882, .lo), (0xa8b4, .mc), (0xa8c4, .mn), (0xa8c6, .cn), (0xa8ce, .po), (0xa8d0, .nd),
  (0xa8da, .cn), (0xa8e0, .mn), (0xa8f2, .lo), (0xa8f8, .po), (0xa8fb, .lo), (0xa8fc, .po),
  (0xa8fd, .lo), (0xa8ff, .mn), (0xa900, .nd), (0xa90a, .lo), (0xa926, .mn), (0xa92e, .po),
  (0xa930, .lo), (0xa947, .mn), (0xa952, .mc), (0xa954, .cn), (0xa95f, .po), (0xa960, .lo),
  (0xa97d, .cn), (0xa980, .mn), (0xa983, .mc), (0xa984, .lo), (0xa9b3, .mn), (0xa9b4, .mc),
  (0xa9b6, .mn), (0xa9ba, .mc), (0xa9bc, .mn), (0xa9be, .mc), (0xa9c1, .po), (0xa9ce, .cn),
  (0xa9cf, .lm), (0xa9d0, .nd), (0xa9da, .cn), (0xa9de, .po), (0xa9e0, .lo), (0xa9e5, .mn),
  (0xa9e6, .lm), (0xa9e7, .lo), (0xa9f0, .nd), (0xa9fa, .lo), (0xa9ff, .cn), (0xaa00, .lo),
  (0xaa29, .mn), (0xaa2f, .mc), (0xaa31, .mn), (0xaa33, .mc), (0xaa35, .mn), (0xaa37, .cn),
  (0xaa40, .lo), (0xaa43, .mn), (0xaa44, .lo), (0xaa4c, .mn), (0xaa4d, .mc), (0xaa4e, .cn),
  (0xaa50, .nd), (0xaa5a, .cn), (0xaa5c, .po), (0xaa60, .lo), (0xaa70, .lm), (0xaa71, .lo),
  (0xaa77, .so), (0xaa7a, .lo), (0xaa7b, .mc), (0xaa7c, .mn), (0xaa7d, .mc), (0xaa7e, .lo),
  (0xaab0, .mn), (0xaab1, .lo), (0xaab2, .mn), (0xaab5, .lo), (0xaab7, .mn), (0xaab9, .lo),
  (0xaabe, .mn), (0xaac0, .lo), (0xaac1, .mn), (0xaac2, .lo), (0xaac3, .cn), (0xaadb, .lo),
  (0xaadd, .lm), (0xaade, .po), (0xaae0, .lo), (0xaaeb, .mc), (0xaaec, .mn), (0xaaee, .mc),
  (0xaaf0, .po), (0xaaf2, .lo), (0xaaf3, .lm), (0xaaf5, .mc), (0xaaf6, .mn), (0xaaf7, .cn),
  (0xab01, .lo), (0xab07, .cn), (0xab09, .lo), (0xab0f, .cn), (0xab11, .lo), (0xab17, .cn),
  (0xab20, .lo), (0xab27, .cn), (0xab28, .lo), (0xab2f, .cn), (0xab30, .ll), (0xab5b, .sk),
  (0xab5c, .lm), (0xab60, .ll), (0xab69, .lm), (0xab6a, .sk), (0xab6c, .cn), (0xab70, .ll),
  (0xabc0, .lo), (0xabe3, .mc), (0xabe5, .mn), (0xabe6, .mc), (0xabe8, .mn), (0xabe9, .mc),
  (0xabeb, .po), (0xabec, .mc), (0xabed, .mn), (0xabee, .cn), (0xabf0, .nd), (0xabfa, .cn),
  (0xac00, .lo), (0xd7a4, .cn), (0xd7b0, .lo), (0xd7c7, .cn), (0xd7cb, .lo), (0xd7fc, .cn),
  (0xd800, .cs), (0xe000, .co), (0xf900, .lo), (0xfa6e, .cn), (0xfa70, .lo), (0xfada, .cn),
  (0xfb00, .ll), (0xfb07, .cn), (0xfb13, .ll), (0xfb18, .cn), (0xfb1d, .lo), (0xfb1e, .mn),
  (0xfb1f, .lo), (0xfb29, .sm), (0xfb2a, .lo), (0xfb37, .cn), (0xfb38, .lo), (0xfb3d, .cn),
  (0xfb3e, .lo), (0xfb3f, .cn), (0xfb40, .lo), (0xfb42, .cn), (0xfb43, .lo), (0xfb45, .cn),
  (0xfb46, .lo), (0xfbb2, .sk), (0xfbc3, .so), (0xfbd3, .lo), (0xfd3e, .pe), (0xfd3f, .ps),
  (0xfd40, .so), (0xfd50, .lo), (0xfd90, .so), (0xfd92, .lo), (0xfdc8, .so), (0xfdd0, .cn),
  (0xfdf0, .lo), (0xfdfc, .sc), (0xfdfd, .so), (0xfe00, .mn), (0xfe10, .po), (0xfe17, .ps),
  (0xfe18, .pe), (0xfe19, .po), (0xfe1a, .cn), (0xfe20, .mn), (0xfe30, .po), (0xfe31, .pd),
  (0xfe33, .pc), (0xfe35, .ps), (0xfe36, .pe), (0xfe37, .ps), (0xfe38, .pe), (0xfe39, .ps),
  (0xfe3a, .pe), (0xfe3b, .ps), (0xfe3c, .pe), (0xfe3d, .ps), (0xfe3e, .pe), (0xfe3f, .ps),
  (0xfe40, .pe), (0xfe41, .ps), (0xfe42, .pe), (0xfe43, .ps), (0xfe44, .pe), (0xfe45, .po),
  (0xfe47, .ps), (0xfe48, .pe), (0xfe49, .po), (0xfe4d, .pc), (0xfe50, .po), (0xfe53, .cn),
  (0xfe54, .po), (0xfe58, .pd), (0xfe59, .ps), (0xfe5a, .pe), (0xfe5b, .ps), (0xfe5c, .pe),
  (0xfe5d, .ps), (0xfe5e, .pe), (0xfe5f, .po), (0xfe62, .sm), (0xfe63, .pd), (0xfe64, .sm),
  (0xfe67, .cn), (0xfe68, .po), (0xfe69, .sc), (0xfe6a, .po), (0xfe6c, .cn), (0xfe70, .lo),
  (0xfe75, .cn), (0xfe76, .lo), (0xfefd, .cn), (0xfeff, .cf), (0xff00, .cn), (0xff01, .po),
  (0xff04, .sc), (0xff05, .po), (0xff08, .ps), (0xff09, .pe), (0xff0a, .po), (0xff0b, .sm),
  (0xff0c, .po), (0xff0d, .pd), (0xff0e, .po), (0xff10, .nd), (0xff1a, .po), (0xff1c, .sm),
  (0xff1f, .po), (0xff21, .lu), (0xff3b, .ps), (0xff3c, .po), (0xff3d, .pe), (0xff3e, .sk),
  (0xff3f, .pc), (0xff40, .sk), (0xff41, .ll), (0xff5b, .ps), (0xff5c, .sm), (0xff5d, .pe),
  (0xff5e, .sm), (0xff5f, .ps), (0xff60, .pe), (0xff61, .po), (0xff62, .ps), (0xff63, .pe),
  (0xff64, .po), (0xff66, .lo), (0xff70, .lm), (0xff71, .lo), (0xff9e, .lm), (0xffa0, .lo),
  (0xffbf, .cn), (0xffc2, .lo), (0xffc8, .cn), (0xffca, .lo), (0xffd0, .cn), (0xffd2, .lo),
  (0xffd8, .cn), (0xffda, .lo), (0xffdd, .cn), (0xffe0, .sc), (0xffe2, .sm), (0xffe3, .sk),
  (0xffe4, .so), (0xffe5, .sc), (0xffe7, .cn), (0xffe8, .so), (0xffe9, .sm), (0xffed, .so),
  (0xffef, .cn), (0xfff9, .cf), (0xfffc, .so), (0xfffe, .cn)]

def runsTo1CFFF : List (Nat × Category) :=
  [(0x10000, .lo), (0x1000c, .cn), (0x1000d, .lo), (0x10027, .cn), (0x10028, .lo), (0x1003b, .cn),
  (0x1003c, .lo), (0x1003e, .cn), (0x1003f, .lo), (0x1004e, .cn), (0x10050, .lo), (0x1005e, .cn),
  (0x10080, .lo), (0x100fb, .cn), (0x10100, .po), (0x10103, .cn), (0x10107, .no), (0x10134, .cn),
  (0x10137, .so), (0x10140, .nl), (0x10175, .no), (0x10179, .so), (0x1018a, .no), (0x1018c, .so),
  (0x1018f, .cn), (0x10190, .so), (0x1019d, .cn), (0x101a0, .so), (0x101a1, .cn), (0x101d0, .so),
  (0x101fd, .mn), (0x101fe, .cn), (0x10280, .lo), (0x1029d, .cn), (0x102a0, .lo), (0x102d1, .cn),
  (0x102e0, .mn), (0x102e1, .no), (0x102fc, .cn), (0x10300, .lo), (0x10320, .no), (0x10324, .cn),
  (0x1032d, .lo), (0x10341, .nl), (0x10342, .lo), (0x1034a, .nl), (0x1034b, .cn), (0x10350, .lo),
  (0x10376, .mn), (0x1037b, .cn), (0x10380, .lo), (0x1039e, .cn), (0x1039f, .po), (0x103a0, .lo),
  (0x103c4, .cn), (0x103c8, .lo), (0x103d0, .po), (0x103d1, .nl), (0x103d6, .cn), (0x10400, .lu),
  (0x10428, .ll), (0x10450, .lo), (0x1049e, .cn), (0x104a0, .nd), (0x104aa, .cn), (0x104b0, .lu),
  (0x104d4, .cn), (0x104d8, .ll), (0x104fc, .cn), (0x10500, .lo), (0x10528, .cn), (0x10530, .lo),
  (0x10564, .cn), (0x1056f, .po), (0x10570, .lu), (0x1057b, .cn), (0x1057c, .lu), (0x1058b, .cn),
  (0x1058c, .lu), (0x10593, .cn), (0x10594, .lu), (0x10596, .cn), (0x10597, .ll), (0x105a2, .cn),
  (0x105a3, .ll), (0x105b2, .cn), (0x105b3, .ll), (0x105ba, .cn), (0x105bb, .ll), (0x105bd, .cn),
  (0x105c0, .lo), (0x105f4, .cn), (0x10600, .lo), (0x10737, .cn), (0x10740, .lo), (0x10756, .cn),
  (0x10760, .lo), (0x10768, .cn), (0x10780, .lm), (0x10786, .cn), (0x10787, .lm), (0x107b1, .cn),
  (0x107b2, .lm), (0x107bb, .cn), (0x10800, .lo), (0x10806, .cn), (0x10808, .lo), (0x10809, .cn),
  (0x1080a, .lo), (0x10836, .cn), (0x10837, .lo), (0x10839, .cn), (0x1083c, .lo), (0x1083d, .cn),
  (0x1083f, .lo), (0x10856, .cn), (0x10857, .po), (0x10858, .no), (0x10860, .lo), (0x10877, .so),
  (0x10879, .no), (0x10880, .lo), (0x1089f, .cn), (0x108a7, .no), (0x108b0, .cn), (0x108e0, .lo),
  (0x108f3, .cn), (0x108f4, .lo), (0x108f6, .cn), (0x108fb, .no), (0x10900, .lo), (0x10916, .no),
  (0x1091c, .cn), (0x1091f, .po), (0x10920, .lo), (0x1093a, .cn), (0x1093f, .po), (0x10940, .lo),
  (0x1095a, .cn), (0x10980, .lo), (0x109b8, .cn), (0x109bc, .no), (0x109be, .lo), (0x109c0, .no),
  (0x109d0, .cn), (0x109d2, .no), (0x10a00, .lo), (0x10a01, .mn), (0x10a04, .cn), (0x10a05, .mn),
  (0x10a07, .cn), (0x10a0c, .mn), (0x10a10, .lo), (0x10a14, .cn), (0x10a15, .lo), (0x10a18, .cn),
  (0x10a19, .lo), (0x10a36, .cn), (0x10a38, .mn), (0x10a3b, .cn), (0x10a3f, .mn), (0x10a40, .no),
  (0x10a49, .cn), (0x10a50, .po), (0x10a59, .cn), (0x10a60, .lo), (0x10a7d, .no), (0x10a7f, .po),
  (0x10a80, .lo), (0x10a9d, .no), (0x10aa0, .cn), (0x10ac0, .lo), (0x10ac8, .so), (0x10ac9, .lo),
  (0x10ae5, .mn), (0x10ae7, .cn), (0x10aeb, .no), (0x10af0, .po), (0x10af7, .cn), (0x10b00, .lo),
  (0x10b36, .cn), (0x10b39, .po), (0x10b40, .lo), (0x10b56, .cn), (0x10b58, .no), (0x10b60, .lo),
  (0x10b73, .cn), (0x10b78, .no), (0x10b80, .lo), (0x10b92, .cn), (0x10b99, .po), (0x10b9d, .cn),
  (0x10ba9, .no), (0x10bb0, .cn), (0x10c00, .lo), (0x10c49, .cn), (0x10c80, .lu), (0x10cb3, .cn),
  (0x10cc0, .ll), (0x10cf3, .cn), (0x10cfa, .no), (0x10d00, .lo), (0x10d24, .mn), (0x10d28, .cn),
  (0x10d30, .nd), (0x10d3a, .cn), (0x10d40, .nd), (0x10d4a, .lo), (0x10d4e, .lm), (0x10d4f, .lo),
  (0x10d50, .lu), (0x10d66, .cn), (0x10d69, .mn), (0x10d6e, .pd), (0x10d6f, .lm), (0x10d70, .ll),
  (0x10d86, .cn), (0x10d8e, .sm), (0x10d90, .cn), (0x10e60, .no), (0x10e7f, .cn), (0x10e80, .lo),
  (0x10eaa, .cn), (0x10eab, .mn), (0x10ead, .pd), (0x10eae, .cn), (0x10eb0, .lo), (0x10eb2, .cn),
  (0x10ec2, .lo), (0x10ec5, .lm), (0x10ec6, .lo), (0x10ec8, .cn), (0x10ed0, .po), (0x10ed1, .so),
  (0x10ed9, .cn), (0x10efa, .mn), (0x10f00, .lo), (0x10f1d, .no), (0x10f27, .lo), (0x10f28, .cn),
  (0x10f30, .lo), (0x10f46, .mn), (0x10f51, .no), (0x10f55, .po), (0x10f5a, .cn), (0x10f70, .lo),
  (0x10f82, .mn), (0x10f86, .po), (0x10f8a, .cn), (0x10fb0, .lo), (0x10fc5, .no), (0x10fcc, .cn),
  (0x10fe0, .lo), (0x10ff7, .cn), (0x11000, .mc), (0x11001, .mn), (0x11002, .mc), (0x11003, .lo),
  (0x11038, .mn), (0x11047, .po), (0x1104e, .cn), (0x11052, .no), (0x11066, .nd), (0x11070, .mn),
  (0x11071, .lo), (0x11073, .mn), (0x11075, .lo), (0x11076, .cn), (0x1107f, .mn), (0x11082, .mc),
  (0x11083, .lo), (0x110b0, .mc), (0x110b3, .mn), (0x110b7, .mc), (0x110b9, .mn), (0x110bb, .po),
  (0x110bd, .cf), (0x110be, .po), (0x110c2, .mn), (0x110c3, .cn), (0x110cd, .cf), (0x110ce, .cn),
  (0x110d0, .lo), (0x110e9, .cn), (0x110f0, .nd), (0x110fa, .cn), (0x11100, .mn), (0x11103, .lo),
  (0x11127, .mn), (0x1112c, .mc), (0x1112d, .mn), (0x11135, .cn), (0x11136, .nd), (0x11140, .po),
  (0x11144, .lo), (0x11145, .mc), (0x11147, .lo), (0x11148, .cn), (0x11150, .lo), (0x11173, .mn),
  (0x11174, .po), (0x11176, .lo), (0x11177, .cn), (0x11180, .mn), (0x11182, .mc), (0x11183, .lo),
  (0x111b3, .mc), (0x111b6, .mn), (0x111bf, .mc), (0x111c1, .lo), (0x111c5, .po), (0x111c9, .mn),
  (0x111cd, .po), (0x111ce, .mc), (0x111cf, .mn), (0x111d0, .nd), (0x111da, .lo), (0x111db, .po),
  (0x111dc, .lo), (0x111dd, .po), (0x111e0, .cn), (0x111e1, .no), (0x111f5, .cn), (0x11200, .lo),
  (0x11212, .cn), (0x11213, .lo), (0x1122c, .mc), (0x1122f, .mn), (0x11232, .mc), (0x11234, .mn),
  (0x11235, .mc), (0x11236, .mn), (0x11238, .po), (0x1123e, .mn), (0x1123f, .lo), (0x11241, .mn),
  (0x11242, .cn), (0x11280, .lo), (0x11287, .cn), (0x11288, .lo), (0x11289, .cn), (0x1128a, .lo),
  (0x1128e, .cn), (0x1128f, .lo), (0x1129e, .cn), (0x1129f, .lo), (0x112a9, .po), (0x112aa, .cn),
  (0x112b0, .lo), (0x112df, .mn), (0x112e0, .mc), (0x112e3, .mn), (0x112eb, .cn), (0x112f0, .nd),
  (0x112fa, .cn), (0x11300, .mn), (0x11302, .mc), (0x11304, .cn), (0x11305, .lo), (0x1130d, .cn),
  (0x1130f, .lo), (0x11311, .cn), (0x11313, .lo), (0x11329, .cn), (0x1132a, .lo), (0x11331, .cn),
  (0x11332, .lo), (0x11334, .cn), (0x11335, .lo), (0x1133a, .cn), (0x1133b, .mn), (0x1133d, .lo),
  (0x1133e, .mc), (0x11340, .mn), (0x11341, .mc), (0x11345, .cn), (0x11347, .mc), (0x11349, .cn),
  (0x1134b, .mc), (0x1134e, .cn), (0x11350, .lo), (0x11351, .cn), (0x11357, .mc), (0x11358, .cn),
  (0x1135d, .lo), (0x11362, .mc), (0x11364, .cn), (0x11366, .mn), (0x1136d, .cn), (0x11370, .mn),
  (0x11375, .cn), (0x11380, .lo), (0x1138a, .cn), (0x1138b, .lo), (0x1138c, .cn), (0x1138e, .lo),
  (0x1138f, .cn), (0x11390, .lo), (0x113b6, .cn), (0x113b7, .lo), (0x113b8, .mc), (0x113bb, .mn),
  (0x113c1, .cn), (0x113c2, .mc), (0x113c3, .cn), (0x113c5, .mc), (0x113c6, .cn), (0x113c7, .mc),
  (0x113cb, .cn), (0x113cc, .mc), (0x113ce, .mn), (0x113cf, .mc), (0x113d0, .mn), (0x113d1, .lo),
  (0x113d2, .mn), (0x113d3, .lo), (0x113d4, .po), (0x113d6, .cn), (0x113d7, .po), (0x113d9, .cn),
  (0x113e1, .mn), (0x113e3, .cn), (0x11400, .lo), (0x11435, .mc), (0x11438, .mn), (0x11440, .mc),
  (0x11442, .mn), (0x11445, .mc), (0x11446, .mn), (0x11447, .lo), (0x1144b, .po), (0x11450, .nd),
  (0x1145a, .po), (0x1145c, .cn), (0x1145d, .po), (0x1145e, .mn), (0x1145f, .lo), (0x11462, .cn),
  (0x11480, .lo), (0x114b0, .mc), (0x114b3, .mn), (0x114b9, .mc), (0x114ba, .mn), (0x114bb, .mc),
  (0x114bf, .mn), (0x114c1, .mc), (0x114c2, .mn), (0x114c4, .lo), (0x114c6, .po), (0x114c7, .lo),
  (0x114c8, .cn), (0x114d0, .nd), (0x114da, .cn), (0x11580, .lo), (0x115af, .mc), (0x115b2, .mn),
  (0x115b6, .cn), (0x115b8, .mc), (0x115bc, .mn), (0x115be, .mc), (0x115bf, .mn), (0x115c1, .po),
  (0x115d8, .lo), (0x115dc, .mn), (0x115de, .cn), (0x11600, .lo), (0x11630, .mc), (0x11633, .mn),
  (0x1163b, .mc), (0x1163d, .mn), (0x1163e, .mc), (0x1163f, .mn), (0x11641, .po), (0x11644, .lo),
  (0x11645, .cn), (0x11650, .nd), (0x1165a, .cn), (0x11660, .po), (0x1166d, .cn), (0x11680, .lo),
  (0x116ab, .mn), (0x116ac, .mc), (0x116ad, .mn), (0x116ae, .mc), (0x116b0, .mn), (0x116b6, .mc),
  (0x116b7, .mn), (0x116b8, .lo), (0x116b9, .po), (0x116ba, .cn), (0x116c0, .nd), (0x116ca, .cn),
  (0x116d0, .nd), (0x116e4, .cn), (0x11700, .lo), (0x1171b, .cn), (0x1171d, .mn), (0x1171e, .mc),
  (0x1171f, .mn), (0x11720, .mc), (0x11722, .mn), (0x11726, .mc), (0x11727, .mn), (0x1172c, .cn),
  (0x11730, .nd), (0x1173a, .no), (0x1173c, .po), (0x1173f, .so), (0x11740, .lo), (0x11747, .cn),
  (0x11800, .lo), (0x1182c, .mc), (0x1182f, .mn), (0x11838, .mc), (0x11839, .mn), (0x1183b, .po),
  (0x1183c, .cn), (0x118a0, .lu), (0x118c0, .ll), (0x118e0, .nd), (0x118ea, .no), (0x118f3, .cn),
  (0x118ff, .lo), (0x11907, .cn), (0x11909, .lo), (0x1190a, .cn), (0x1190c, .lo), (0x11914, .cn),
  (0x11915, .lo), (0x11917, .cn), (0x11918, .lo), (0x11930, .mc), (0x11936, .cn), (0x11937, .mc),
  (0x11939, .cn), (0x1193b, .mn), (0x1193d, .mc), (0x1193e, .mn), (0x1193f, .lo), (0x11940, .mc),
  (0x11941, .lo), (0x11942, .mc), (0x11943, .mn), (0x11944, .po), (0x11947, .cn), (0x11950, .nd),
  (0x1195a, .cn), (0x119a0, .lo), (0x119a8, .cn), (0x119aa, .lo), (0x119d1, .mc), (0x119d4, .mn),
  (0x119d8, .cn), (0x119da, .mn), (0x119dc, .mc), (0x119e0, .mn), (0x119e1, .lo), (0x119e2, .po),
  (0x119e3, .lo), (0x119e4, .mc), (0x119e5, .cn), (0x11a00, .lo), (0x11a01, .mn), (0x11a0b, .lo),
  (0x11a33, .mn), (0x11a39, .mc), (0x11a3a, .lo), (0x11a3b, .mn), (0x11a3f, .po), (0x11a47, .mn),
  (0x11a48, .cn), (0x11a50, .lo), (0x11a51, .mn), (0x11a57, .mc), (0x11a59, .mn), (0x11a5c, .lo),
  (0x11a8a, .mn), (0x11a97, .mc), (0x11a98, .mn), (0x11a9a, .po), (0x11a9d, .lo), (0x11a9e, .po),
  (0x11aa3, .cn), (0x11ab0, .lo), (0x11af9, .cn), (0x11b00, .po), (0x11b0a, .cn), (0x11b60, .mn),
  (0x11b61, .mc), (0x11b62, .mn), (0x11b65, .mc), (0x11b66, .mn), (0x11b67, .mc), (0x11b68, .cn),
  (0x11bc0, .lo), (0x11be1, .po), (0x11be2, .cn), (0x11bf0, .nd), (0x11bfa, .cn), (0x11c00, .lo),
  (0x11c09, .cn), (0x11c0a, .lo), (0x11c2f, .mc), (0x11c30, .mn), (0x11c37, .cn), (0x11c38, .mn),
  (0x11c3e, .mc), (0x11c3f, .mn), (0x11c40, .lo), (0x11c41, .po), (0x11c46, .cn), (0x11c50, .nd),
  (0x11c5a, .no), (0x11c6d, .cn), (0x11c70, .po), (0x11c72, .lo), (0x11c90, .cn), (0x11c92, .mn),
  (0x11ca8, .cn), (0x11ca9, .mc), (0x11caa, .mn), (0x11cb1, .mc), (0x11cb2, .mn), (0x11cb4, .mc),
  (0x11cb5, .mn), (0x11cb7, .cn), (0x11d00, .lo), (0x11d07, .cn), (0x11d08, .lo), (0x11d0a, .cn),
  (0x11d0b, .lo), (0x11d31, .mn), (0x11d37, .cn), (0x11d3a, .mn), (0x11d3b, .cn), (0x11d3c, .mn),
  (0x11d3e, .cn), (0x11d3f, .mn), (0x11d46, .lo), (0x11d47, .mn), (0x11d48, .cn), (0x11d50, .nd),
  (0x11d5a, .cn), (0x11d60, .lo), (0x11d66, .cn), (0x11d67, .lo), (0x11d69, .cn), (0x11d6a, .lo),
  (0x11d8a, .mc), (0x11d8f, .cn), (0x11d90, .mn), (0x11d92, .cn), (0x11d93, .mc), (0x11d95, .mn),
  (0x11d96, .mc), (0x11d97, .mn), (0x11d98, .lo), (0x11d99, .cn), (0x11da0, .nd), (0x11daa, .cn),
  (0x11db0, .lo), (0x11dd9, .lm), (0x11dda, .lo), (0x11ddc, .cn), (0x11de0, .nd), (0x11dea, .cn),
  (0x11ee0, .lo), (0x11ef3, .mn), (0x11ef5, .mc), (0x11ef7, .po), (0x11ef9, .cn), (0x11f00, .mn),
  (0x11f02, .lo), (0x11f03, .mc), (0x11f04, .lo), (0x11f11, .cn), (0x11f12, .lo), (0x11f34, .mc),
  (0x11f36, .mn), (0x11f3b, .cn), (0x11f3e, .mc), (0x11f40, .mn), (0x11f41, .mc), (0x11f42, .mn),
  (0x11f43, .po), (0x11f50, .nd), (0x11f5a, .mn), (0x11f5b, .cn), (0x11fb0, .lo), (0x11fb1, .cn),
  (0x11fc0, .no), (0x11fd5, .so), (0x11fdd, .sc), (0x11fe1, .so), (0x11ff2, .cn), (0x11fff, .po),
  (0x12000, .lo), (0x1239a, .cn), (0x12400, .nl), (0x1246f, .cn), (0x12470, .po), (0x12475, .cn),
  (0x12480, .lo), (0x12544, .cn), (0x12f90, .lo), (0x12ff1, .po), (0x12ff3, .cn), (0x13000, .lo),
  (0x13430, .cf), (0x13440, .mn), (0x13441, .lo), (0x13447, .mn), (0x13456, .cn), (0x13460, .lo),
  (0x143fb, .cn), (0x14400, .lo), (0x14647, .cn), (0x16100, .lo), (0x1611e, .mn), (0x1612a, .mc),
  (0x1612d, .mn), (0x16130, .nd), (0x1613a, .cn), (0x16800, .lo), (0x16a39, .cn), (0x16a40, .lo),
  (0x16a5f, .cn), (0x16a60, .nd), (0x16a6a, .cn), (0x16a6e, .po), (0x16a70, .lo), (0x16abf, .cn),
  (0x16ac0, .nd), (0x16aca, .cn), (0x16ad0, .lo), (0x16aee, .cn), (0x16af0, .mn), (0x16af5, .po),
  (0x16af6, .cn), (0x16b00, .lo), (0x16b30, .mn), (0x16b37, .po), (0x16b3c, .so), (0x16b40, .lm),
  (0x16b44, .po), (0x16b45, .so), (0x16b46, .cn), (0x16b50, .nd), (0x16b5a, .cn), (0x16b5b, .no),
  (0x16b62, .cn), (0x16b63, .lo), (0x16b78, .cn), (0x16b7d, .lo), (0x16b90, .cn), (0x16d40, .lm),
  (0x16d43, .lo), (0x16d6b, .lm), (0x16d6d, .po), (0x16d70, .nd), (0x16d7a, .cn), (0x16e40, .lu),
  (0x16e60, .ll), (0x16e80, .no), (0x16e97, .po), (0x16e9b, .cn), (0x16ea0, .lu), (0x16eb9, .cn),
  (0x16ebb, .ll), (0x16ed4, .cn), (0x16f00, .lo), (0x16f4b, .cn), (0x16f4f, .mn), (0x16f50, .lo),
  (0x16f51, .mc), (0x16f88, .cn), (0x16f8f, .mn), (0x16f93, .lm), (0x16fa0, .cn), (0x16fe0, .lm),
  (0x16fe2, .po), (0x16fe3, .lm), (0x16fe4, .mn), (0x16fe5, .cn), (0x16ff0, .mc), (0x16ff2, .lm),
  (0x16ff4, .nl), (0x16ff7, .cn), (0x17000, .lo), (0x18cd6, .cn), (0x18cff, .lo), (0x18d1f, .cn),
  (0x18d80, .lo), (0x18df3, .cn), (0x1aff0, .lm), (0x1aff4, .cn), (0x1aff5, .lm), (0x1affc, .cn),
  (0x1affd, .lm), (0x1afff, .cn), (0x1b000, .lo), (0x1b123, .cn), (0x1b132, .lo), (0x1b133, .cn),
  (0x1b150, .lo), (0x1b153, .cn), (0x1b155, .lo), (0x1b156, .cn), (0x1b164, .lo), (0x1b168, .cn),
  (0x1b170, .lo), (0x1b2fc, .cn), (0x1bc00, .lo), (0x1bc6b, .cn), (0x1bc70, .lo), (0x1bc7d, .cn),
  (0x1bc80, .lo), (0x1bc89, .cn), (0x1bc90, .lo), (0x1bc9a, .cn), (0x1bc9c, .so), (0x1bc9d, .mn),
  (0x1bc9f, .po), (0x1bca0, .cf), (0x1bca4, .cn), (0x1cc00, .so), (0x1ccf0, .nd), (0x1ccfa, .so),
  (0x1ccfd, .cn), (0x1cd00, .so), (0x1ceb4, .cn), (0x1ceba, .so), (0x1ced1, .cn), (0x1cee0, .so),
  (0x1cef0, .sm), (0x1cef1, .cn), (0x1cf00, .mn), (0x1cf2e, .cn), (0x1cf30, .mn), (0x1cf47, .cn),
  (0x1cf50, .so), (0x1cfc4, .cn)]

def runsTo10FFFF : List (Nat × Category) :=
  [(0x1d000, .so), (0x1d0f6, .cn), (0x1d100, .so), (0x1d127, .cn), (0x1d129, .so), (0x1d165, .mc),
  (0x1d167, .mn), (0x1d16a, .so), (0x1d16d, .mc), (0x1d173, .cf), (0x1d17b, .mn), (0x1d183, .so),
  (0x1d185, .mn), (0x1d18c, .so), (0x1d1aa, .mn), (0x1d1ae, .so), (0x1d1eb, .cn), (0x1d200, .so),
  (0x1d242, .mn), (0x1d245, .so), (0x1d246, .cn), (0x1d2c0, .no), (0x1d2d4, .cn), (0x1d2e0, .no),
  (0x1d2f4, .cn), (0x1d300, .so), (0x1d357, .cn), (0x1d360, .no), (0x1d379, .cn), (0x1d400, .lu),
  (0x1d41a, .ll), (0x1d434, .lu), (0x1d44e, .ll), (0x1d455, .cn), (0x1d456, .ll), (0x1d468, .lu),
  (0x1d482, .ll), (0x1d49c, .lu), (0x1d49d, .cn), (0x1d49e, .lu), (0x1d4a0, .cn), (0x1d4a2, .lu),
  (0x1d4a3, .cn), (0x1d4a5, .lu), (0x1d4a7, .cn), (0x1d4a9, .lu), (0x1d4ad, .cn), (0x1d4ae, .lu),
  (0x1d4b6, .ll), (0x1d4ba, .cn), (0x1d4bb, .ll), (0x1d4bc, .cn), (0x1d4bd, .ll), (0x1d4c4, .cn),
  (0x1d4c5, .ll), (0x1d4d0, .lu), (0x1d4ea, .ll), (0x1d504, .lu), (0x1d506, .cn), (0x1d507, .lu),
  (0x1d50b, .cn), (0x1d50d, .lu), (0x1d515, .cn), (0x1d516, .lu), (0x1d51d, .cn), (0x1d51e, .ll),
  (0x1d538, .lu), (0x1d53a, .cn), (0x1d53b, .lu), (0x1d53f, .cn), (0x1d540, .lu), (0x1d545, .cn),
  (0x1d546, .lu), (0x1d547, .cn), (0x1d54a, .lu), (0x1d551, .cn), (0x1d552, .ll), (0x1d56c, .lu),
  (0x1d586, .ll), (0x1d5a0, .lu), (0x1d5ba, .ll), (0x1d5d4, .lu), (0x1d5ee, .ll), (0x1d608, .lu),
  (0x1d622, .ll), (0x1d63c, .lu), (0x1d656, .ll), (0x1d670, .lu), (0x1d68a, .ll), (0x1d6a6, .cn),
  (0x1d6a8, .lu), (0x1d6c1, .sm), (0x1d6c2, .ll), (0x1d6db, .sm), (0x1d6dc, .ll), (0x1d6e2, .lu),
  (0x1d6fb, .sm), (0x1d6fc, .ll), (0x1d715, .sm), (0x1d716, .ll), (0x1d71c, .lu), (0x1d735, .sm),
  (0x1d736, .ll), (0x1d74f, .sm), (0x1d750, .ll), (0x1d756, .lu), (0x1d76f, .sm), (0x1d770, .ll),
  (0x1d789, .sm), (0x1d78a, .ll), (0x1d790, .lu), (0x1d7a9, .sm), (0x1d7aa, .ll), (0x1d7c3, .sm),
  (0x1d7c4, .ll), (0x1d7ca, .lu), (0x1d7cb, .ll), (0x1d7cc, .cn), (0x1d7ce, .nd), (0x1d800, .so),
  (0x1da00, .mn), (0x1da37, .so), (0x1da3b, .mn), (0x1da6d, .so), (0x1da75, .mn), (0x1da76, .so),
  (0x1da84, .mn), (0x1da85, .so), (0x1da87, .po), (0x1da8c, .cn), (0x1da9b, .mn), (0x1daa0, .cn),
  (0x1daa1, .mn), (0x1dab0, .cn), (0x1df00, .ll), (0x1df0a, .lo), (0x1df0b, .ll), (0x1df1f, .cn),
  (0x1df25, .ll), (0x1df2b, .cn), (0x1e000, .mn), (0x1e007, .cn), (0x1e008, .mn), (0x1e019, .cn),
  (0x1e01b, .mn), (0x1e022, .cn), (0x1e023, .mn), (0x1e025, .cn), (0x1e026, .mn), (0x1e02b, .cn),
  (0x1e030, .lm), (0x1e06e, .cn), (0x1e08f, .mn), (0x1e090, .cn), (0x1e100, .lo), (0x1e12d, .cn),
  (0x1e130, .mn), (0x1e137, .lm), (0x1e13e, .cn), (0x1e140, .nd), (0x1e14a, .cn), (0x1e14e, .lo),
  (0x1e14f, .so), (0x1e150, .cn), (0x1e290, .lo), (0x1e2ae, .mn), (0x1e2af, .cn), (0x1e2c0, .lo),
  (0x1e2ec, .mn), (0x1e2f0, .nd), (0x1e2fa, .cn), (0x1e2ff, .sc), (0x1e300, .cn), (0x1e4d0, .lo),
  (0x1e4eb, .lm), (0x1e4ec, .mn), (0x1e4f0, .nd), (0x1e4fa, .cn), (0x1e5d0, .lo), (0x1e5ee, .mn),
  (0x1e5f0, .lo), (0x1e5f1, .nd), (0x1e5fb, .cn), (0x1e5ff, .po), (0x1e600, .cn), (0x1e6c0, .lo),
  (0x1e6df, .cn), (0x1e6e0, .lo), (0x1e6e3, .mn), (0x1e6e4, .lo), (0x1e6e6, .mn), (0x1e6e7, .lo),
  (0x1e6ee, .mn), (0x1e6f0, .lo), (0x1e6f5, .mn), (0x1e6f6, .cn), (0x1e6fe, .lo), (0x1e6ff, .lm),
  (0x1e700, .cn), (0x1e7e0, .lo), (0x1e7e7, .cn), (0x1e7e8, .lo), (0x1e7ec, .cn), (0x1e7ed, .lo),
  (0x1e7ef, .cn), (0x1e7f0, .lo), (0x1e7ff, .cn), (0x1e800, .lo), (0x1e8c5, .cn), (0x1e8c7, .no),
  (0x1e8d0, .mn), (0x1e8d7, .cn), (0x1e900, .lu), (0x1e922, .ll), (0x1e944, .mn), (0x1e94b, .lm),
  (0x1e94c, .cn), (0x1e950, .nd), (0x1e95a, .cn), (0x1e95e, .po), (0x1e960, .cn), (0x1ec71, .no),
  (0x1ecac, .so), (0x1ecad, .no), (0x1ecb0, .sc), (0x1ecb1, .no), (0x1ecb5, .cn), (0x1ed01, .no),
  (0x1ed2e, .so), (0x1ed2f, .no), (0x1ed3e, .cn), (0x1ee00, .lo), (0x1ee04, .cn), (0x1ee05, .lo),
  (0x1ee20, .cn), (0x1ee21, .lo), (0x1ee23, .cn), (0x1ee24, .lo), (0x1ee25, .cn), (0x1ee27, .lo),
  (0x1ee28, .cn), (0x1ee29, .lo), (0x1ee33, .cn), (0x1ee34, .lo), (0x1ee38, .cn), (0x1ee39, .lo),
  (0x1ee3a, .cn), (0x1ee3b, .lo), (0x1ee3c, .cn), (0x1ee42, .lo), (0x1ee43, .cn), (0x1ee47, .lo),
  (0x1ee48, .cn), (0x1ee49, .lo), (0x1ee4a, .cn), (0x1ee4b, .lo), (0x1ee4c, .cn), (0x1ee4d, .lo),
  (0x1ee50, .cn), (0x1ee51, .lo), (0x1ee53, .cn), (0x1ee54, .lo), (0x1ee55, .cn), (0x1ee57, .lo),
  (0x1ee58, .cn), (0x1ee59, .lo), (0x1ee5a, .cn), (0x1ee5b, .lo), (0x1ee5c, .cn), (0x1ee5d, .lo),
  (0x1ee5e, .cn), (0x1ee5f, .lo), (0x1ee60, .cn), (0x1ee61, .lo), (0x1ee63, .cn), (0x1ee64, .lo),
  (0x1ee65, .cn), (0x1ee67, .lo), (0x1ee6b, .cn), (0x1ee6c, .lo), (0x1ee73, .cn), (0x1ee74, .lo),
  (0x1ee78, .cn), (0x1ee79, .lo), (0x1ee7d, .cn), (0x1ee7e, .lo), (0x1ee7f, .cn), (0x1ee80, .lo),
  (0x1ee8a, .cn), (0x1ee8b, .lo), (0x1ee9c, .cn), (0x1eea1, .lo), (0x1eea4, .cn), (0x1eea5, .lo),
  (0x1eeaa, .cn), (0x1eeab, .lo), (0x1eebc, .cn), (0x1eef0, .sm), (0x1eef2, .cn), (0x1f000, .so),
  (0x1f02c, .cn), (0x1f030, .so), (0x1f094, .cn), (0x1f0a0, .so), (0x1f0af, .cn), (0x1f0b1, .so),
  (0x1f0c0, .cn), (0x1f0c1, .so), (0x1f0d0, .cn), (0x1f0d1, .so), (0x1f0f6, .cn), (0x1f100, .no),
  (0x1f10d, .so), (0x1f1ae, .cn), (0x1f1e6, .so), (0x1f203, .cn), (0x1f210, .so), (0x1f23c, .cn),
  (0x1f240, .so), (0x1f249, .cn), (0x1f250, .so), (0x1f252, .cn), (0x1f260, .so), (0x1f266, .cn),
  (0x1f300, .so), (0x1f3fb, .sk), (0x1f400, .so), (0x1f6d9, .cn), (0x1f6dc, .so), (0x1f6ed, .cn),
  (0x1f6f0, .so), (0x1f6fd, .cn), (0x1f700, .so), (0x1f7da, .cn), (0x1f7e0, .so), (0x1f7ec, .cn),
  (0x1f7f0, .so), (0x1f7f1, .cn), (0x1f800, .so), (0x1f80c, .cn), (0x1f810, .so), (0x1f848, .cn),
  (0x1f850, .so), (0x1f85a, .cn), (0x1f860, .so), (0x1f888, .cn), (0x1f890, .so), (0x1f8ae, .cn),
  (0x1f8b0, .so), (0x1f8bc, .cn), (0x1f8c0, .so), (0x1f8c2, .cn), (0x1f8d0, .sm), (0x1f8d9, .cn),
  (0x1f900, .so), (0x1fa58, .cn), (0x1fa60, .so), (0x1fa6e, .cn), (0x1fa70, .so), (0x1fa7d, .cn),
  (0x1fa80, .so), (0x1fa8b, .cn), (0x1fa8e, .so), (0x1fac7, .cn), (0x1fac8, .so), (0x1fac9, .cn),
  (0x1facd, .so), (0x1fadd, .cn), (0x1fadf, .so), (0x1faeb, .cn), (0x1faef, .so), (0x1faf9, .cn),
  (0x1fb00, .so), (0x1fb93, .cn), (0x1fb94, .so), (0x1fbf0, .nd), (0x1fbfa, .so), (0x1fbfb, .cn),
  (0x20000, .lo), (0x2a6e0, .cn), (0x2a700, .lo), (0x2b81e, .cn), (0x2b820, .lo), (0x2ceae, .cn),
  (0x2ceb0, .lo), (0x2ebe1, .cn), (0x2ebf0, .lo), (0x2ee5e, .cn), (0x2f800, .lo), (0x2fa1e, .cn),
  (0x30000, .lo), (0x3134b, .cn), (0x31350, .lo), (0x3347a, .cn), (0xe0001, .cf), (0xe0002, .cn),
  (0xe0020, .cf), (0xe0080, .cn), (0xe0100, .mn), (0xe01f0, .cn), (0xf0000, .co), (0xffffe, .cn),
  (0x100000, .co), (0x10fffe, .cn)]

def runs : List (Nat × Category) :=
  runsTo0FFF ++ runsTo1FFF ++ runsToA63F ++ runsToFFFF ++ runsTo1CFFF ++ runsTo10FFFF

def lookUp (code : Nat) (current : Category) : List (Nat × Category) → Category
  | [] => current
  | (start, category) :: later => if code < start then current else lookUp code category later

def ofChar (c : Char) : Category := lookUp c.toNat .cn runs

end Lox.Text.Category
