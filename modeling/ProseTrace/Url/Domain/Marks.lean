import ProseTrace.Text.CharSet

/-!
# Marks in domain names

Combining marks among the letters of domain names (Unicode 14.0).  Each mark has a class; of marks
of different classes behind one letter, the order does not matter.
-/

namespace ProseTrace.Url.Domain

open Text

def nonspacingMarks : CharSet := ⟨#[
  0x300, 0x371, 0x483, 0x48b, 0x591, 0x5d0, 0x610, 0x620, 0x64b, 0x660, 0x670, 0x671, 0x6d6,
  0x6e5, 0x6e7, 0x6ee, 0x711, 0x712, 0x730, 0x74d, 0x7a6, 0x7b1, 0x7eb, 0x7f4, 0x7fd, 0x800,
  0x816, 0x81a, 0x81b, 0x824, 0x825, 0x828, 0x829, 0x840, 0x859, 0x860, 0x898, 0x8a0, 0x8ca,
  0x903, 0x93a, 0x93b, 0x93c, 0x93d, 0x941, 0x949, 0x94d, 0x94e, 0x951, 0x960, 0x962, 0x966,
  0x981, 0x982, 0x9bc, 0x9bd, 0x9c1, 0x9c7, 0x9cd, 0x9ce, 0x9e2, 0x9e6, 0x9fe, 0xa03, 0xa3c,
  0xa3e, 0xa41, 0xa5c, 0xa70, 0xa72, 0xa75, 0xa83, 0xabc, 0xabd, 0xac1, 0xac9, 0xacd, 0xad0,
  0xae2, 0xae6, 0xafa, 0xb02, 0xb3c, 0xb3d, 0xb3f, 0xb40, 0xb41, 0xb47, 0xb4d, 0xb57, 0xb62,
  0xb66, 0xb82, 0xb83, 0xbc0, 0xbc1, 0xbcd, 0xbd0, 0xc00, 0xc01, 0xc04, 0xc05, 0xc3c, 0xc3d,
  0xc3e, 0xc41, 0xc46, 0xc58, 0xc62, 0xc66, 0xc81, 0xc82, 0xcbc, 0xcbd, 0xcbf, 0xcc0, 0xcc6,
  0xcc7, 0xccc, 0xcd5, 0xce2, 0xce6, 0xd00, 0xd02, 0xd3b, 0xd3d, 0xd41, 0xd46, 0xd4d, 0xd4e,
  0xd62, 0xd66, 0xd81, 0xd82, 0xdca, 0xdcf, 0xdd2, 0xdd8, 0xe31, 0xe32, 0xe34, 0xe40, 0xe47,
  0xe50, 0xeb1, 0xeb2, 0xeb4, 0xebd, 0xec8, 0xed0, 0xf18, 0xf20, 0xf35, 0xf3e, 0xf71, 0xf7f,
  0xf80, 0xf88, 0xf8d, 0x1000, 0x102d, 0x1031, 0x1032, 0x1038, 0x1039, 0x103b, 0x103d, 0x103f,
  0x1058, 0x105a, 0x105e, 0x1061, 0x1071, 0x1075, 0x1082, 0x1083, 0x1085, 0x1087, 0x108d, 0x108e,
  0x109d, 0x10d0, 0x135d, 0x1380, 0x1712, 0x1715, 0x1732, 0x1734, 0x1752, 0x1760, 0x1772, 0x1780,
  0x17b7, 0x17be, 0x17c6, 0x17c7, 0x17c9, 0x17d7, 0x17dd, 0x17e0, 0x1885, 0x1887, 0x18a9, 0x18aa,
  0x1920, 0x1923, 0x1927, 0x1929, 0x1932, 0x1933, 0x1939, 0x1946, 0x1a17, 0x1a19, 0x1a1b, 0x1a20,
  0x1a56, 0x1a57, 0x1a58, 0x1a61, 0x1a62, 0x1a63, 0x1a65, 0x1a6d, 0x1a73, 0x1a80, 0x1ab0, 0x1b04,
  0x1b34, 0x1b35, 0x1b36, 0x1b3b, 0x1b3c, 0x1b3d, 0x1b42, 0x1b43, 0x1b6b, 0x1b82, 0x1ba2, 0x1ba6,
  0x1ba8, 0x1baa, 0x1bab, 0x1bae, 0x1be6, 0x1be7, 0x1be8, 0x1bea, 0x1bed, 0x1bee, 0x1bef, 0x1bf2,
  0x1c2c, 0x1c34, 0x1c36, 0x1c40, 0x1cd0, 0x1ce1, 0x1ce2, 0x1ce9, 0x1ced, 0x1cee, 0x1cf4, 0x1cf5,
  0x1cf8, 0x1cfa, 0x1dc0, 0x1e01, 0x2cef, 0x2cf3, 0x2d7f, 0x2d80, 0x2de0, 0x2e2f, 0x302a, 0x303c,
  0x3099, 0x309d, 0xa66f, 0xa67f, 0xa69e, 0xa6a0, 0xa6f0, 0xa717, 0xa802, 0xa803, 0xa806, 0xa807,
  0xa80b, 0xa80c, 0xa825, 0xa827, 0xa82c, 0xa840, 0xa8c4, 0xa8d0, 0xa8e0, 0xa8f2, 0xa8ff, 0xa900,
  0xa926, 0xa930, 0xa947, 0xa952, 0xa980, 0xa983, 0xa9b3, 0xa9b4, 0xa9b6, 0xa9ba, 0xa9bc, 0xa9be,
  0xa9e5, 0xa9e6, 0xaa29, 0xaa2f, 0xaa31, 0xaa33, 0xaa35, 0xaa40, 0xaa43, 0xaa44, 0xaa4c, 0xaa4d,
  0xaa7c, 0xaa7d, 0xaab0, 0xaab1, 0xaab2, 0xaab5, 0xaab7, 0xaab9, 0xaabe, 0xaac0, 0xaac1, 0xaac2,
  0xaaec, 0xaaee, 0xaaf6, 0xab01, 0xabe5, 0xabe6, 0xabe8, 0xabe9, 0xabed, 0xabf0, 0xfb1e, 0xfe73,
  0x101fd, 0x10280, 0x102e0, 0x10300, 0x10376, 0x10380, 0x10a01, 0x10a10, 0x10a38, 0x10a60,
  0x10ae5, 0x10b00, 0x10d24, 0x10d30, 0x10eab, 0x10eb0, 0x10f46, 0x10f70, 0x10f82, 0x10fb0,
  0x11001, 0x11002, 0x11038, 0x11066, 0x11070, 0x11071, 0x11073, 0x11075, 0x1107f, 0x11082,
  0x110b3, 0x110b7, 0x110b9, 0x110d0, 0x11100, 0x11103, 0x11127, 0x1112c, 0x1112d, 0x11136,
  0x11173, 0x11176, 0x11180, 0x11182, 0x111b6, 0x111bf, 0x111c9, 0x111ce, 0x111cf, 0x111d0,
  0x1122f, 0x11232, 0x11234, 0x11235, 0x11236, 0x11280, 0x112df, 0x112e0, 0x112e3, 0x112f0,
  0x11300, 0x11302, 0x1133b, 0x1133d, 0x11340, 0x11341, 0x11366, 0x11400, 0x11438, 0x11440,
  0x11442, 0x11445, 0x11446, 0x11447, 0x1145e, 0x1145f, 0x114b3, 0x114b9, 0x114ba, 0x114bb,
  0x114bf, 0x114c1, 0x114c2, 0x114c4, 0x115b2, 0x115b8, 0x115bc, 0x115be, 0x115bf, 0x115d8,
  0x115dc, 0x11600, 0x11633, 0x1163b, 0x1163d, 0x1163e, 0x1163f, 0x11644, 0x116ab, 0x116ac,
  0x116ad, 0x116ae, 0x116b0, 0x116b6, 0x116b7, 0x116b8, 0x1171d, 0x11720, 0x11722, 0x11726,
  0x11727, 0x11730, 0x1182f, 0x11838, 0x11839, 0x118c0, 0x1193b, 0x1193d, 0x1193e, 0x1193f,
  0x11943, 0x11950, 0x119d4, 0x119dc, 0x119e0, 0x119e1, 0x11a01, 0x11a0b, 0x11a33, 0x11a39,
  0x11a3b, 0x11a50, 0x11a51, 0x11a57, 0x11a59, 0x11a5c, 0x11a8a, 0x11a97, 0x11a98, 0x11a9d,
  0x11c30, 0x11c3e, 0x11c3f, 0x11c40, 0x11c92, 0x11ca9, 0x11caa, 0x11cb1, 0x11cb2, 0x11cb4,
  0x11cb5, 0x11d00, 0x11d31, 0x11d46, 0x11d47, 0x11d50, 0x11d90, 0x11d93, 0x11d95, 0x11d96,
  0x11d97, 0x11d98, 0x11ef3, 0x11ef5, 0x16af0, 0x16b00, 0x16b30, 0x16b40, 0x16f4f, 0x16f50,
  0x16f8f, 0x16f93, 0x16fe4, 0x16ff0, 0x1bc9d, 0x1df00, 0x1e000, 0x1e100, 0x1e130, 0x1e137,
  0x1e2ae, 0x1e2c0, 0x1e2ec, 0x1e2f0, 0x1e8d0, 0x1e922, 0x1e944, 0x1e94b]⟩

def spacingMarks : CharSet := ⟨#[
  0x903, 0x904, 0x93b, 0x93c, 0x93e, 0x941, 0x949, 0x94d, 0x94e, 0x950, 0x982, 0x985, 0x9be,
  0x9c1, 0x9c7, 0x9cd, 0x9d7, 0x9e0, 0xa03, 0xa05, 0xa3e, 0xa41, 0xa83, 0xa85, 0xabe, 0xac1,
  0xac9, 0xacd, 0xb02, 0xb05, 0xb3e, 0xb3f, 0xb40, 0xb41, 0xb47, 0xb4d, 0xb57, 0xb5f, 0xbbe,
  0xbc0, 0xbc1, 0xbcd, 0xbd7, 0xbe6, 0xc01, 0xc04, 0xc41, 0xc46, 0xc82, 0xc85, 0xcbe, 0xcbf,
  0xcc0, 0xcc6, 0xcc7, 0xccc, 0xcd5, 0xcdd, 0xd02, 0xd04, 0xd3e, 0xd41, 0xd46, 0xd4d, 0xd57,
  0xd5f, 0xd82, 0xd85, 0xdcf, 0xdd2, 0xdd8, 0xde6, 0xdf2, 0xe01, 0xf3e, 0xf40, 0xf7f, 0xf80,
  0x102b, 0x102d, 0x1031, 0x1032, 0x1038, 0x1039, 0x103b, 0x103d, 0x1056, 0x1058, 0x1062, 0x1065,
  0x1067, 0x106e, 0x1083, 0x1085, 0x1087, 0x108d, 0x108f, 0x1090, 0x109a, 0x109d, 0x1715, 0x171f,
  0x1734, 0x1740, 0x17b6, 0x17b7, 0x17be, 0x17c6, 0x17c7, 0x17c9, 0x1923, 0x1927, 0x1929, 0x1932,
  0x1933, 0x1939, 0x1a19, 0x1a1b, 0x1a55, 0x1a56, 0x1a57, 0x1a58, 0x1a61, 0x1a62, 0x1a63, 0x1a65,
  0x1a6d, 0x1a73, 0x1b04, 0x1b05, 0x1b35, 0x1b36, 0x1b3b, 0x1b3c, 0x1b3d, 0x1b42, 0x1b43, 0x1b45,
  0x1b82, 0x1b83, 0x1ba1, 0x1ba2, 0x1ba6, 0x1ba8, 0x1baa, 0x1bab, 0x1be7, 0x1be8, 0x1bea, 0x1bed,
  0x1bee, 0x1bef, 0x1bf2, 0x1c00, 0x1c24, 0x1c2c, 0x1c34, 0x1c36, 0x1ce1, 0x1ce2, 0x1cf7, 0x1cf8,
  0xa823, 0xa825, 0xa827, 0xa82c, 0xa880, 0xa882, 0xa8b4, 0xa8c4, 0xa952, 0xa980, 0xa983, 0xa984,
  0xa9b4, 0xa9b6, 0xa9ba, 0xa9bc, 0xa9be, 0xa9cf, 0xaa2f, 0xaa31, 0xaa33, 0xaa35, 0xaa4d, 0xaa50,
  0xaa7b, 0xaa7c, 0xaa7d, 0xaa7e, 0xaaeb, 0xaaec, 0xaaee, 0xaaf2, 0xaaf5, 0xaaf6, 0xabe3, 0xabe5,
  0xabe6, 0xabe8, 0xabe9, 0xabed, 0x11000, 0x11001, 0x11002, 0x11003, 0x11082, 0x11083, 0x110b0,
  0x110b3, 0x110b7, 0x110b9, 0x1112c, 0x1112d, 0x11145, 0x11147, 0x11182, 0x11183, 0x111b3,
  0x111b6, 0x111bf, 0x111c1, 0x111ce, 0x111cf, 0x1122c, 0x1122f, 0x11232, 0x11234, 0x11235,
  0x11236, 0x112e0, 0x112e3, 0x11302, 0x11305, 0x1133e, 0x11340, 0x11341, 0x11350, 0x11357,
  0x1135d, 0x11362, 0x11366, 0x11435, 0x11438, 0x11440, 0x11442, 0x11445, 0x11446, 0x114b0,
  0x114b3, 0x114b9, 0x114ba, 0x114bb, 0x114bf, 0x114c1, 0x114c2, 0x115af, 0x115b2, 0x115b8,
  0x115bc, 0x115be, 0x115bf, 0x11630, 0x11633, 0x1163b, 0x1163d, 0x1163e, 0x1163f, 0x116ac,
  0x116ad, 0x116ae, 0x116b0, 0x116b6, 0x116b7, 0x11720, 0x11722, 0x11726, 0x11727, 0x1182c,
  0x1182f, 0x11838, 0x11839, 0x11930, 0x1193b, 0x1193d, 0x1193e, 0x11940, 0x11941, 0x11942,
  0x11943, 0x119d1, 0x119d4, 0x119dc, 0x119e0, 0x119e4, 0x11a00, 0x11a39, 0x11a3a, 0x11a57,
  0x11a59, 0x11a97, 0x11a98, 0x11c2f, 0x11c30, 0x11c3e, 0x11c3f, 0x11ca9, 0x11caa, 0x11cb1,
  0x11cb2, 0x11cb4, 0x11cb5, 0x11d8a, 0x11d90, 0x11d93, 0x11d95, 0x11d96, 0x11d97, 0x11ef5,
  0x11fb0, 0x16f51, 0x16f8f, 0x16ff0, 0x17000]⟩

def isMark (c : Char) : Bool := nonspacingMarks.contains c || spacingMarks.contains c

/-- The code points at which the combining class changes. -/
def classEdges : Array Nat := #[
  0x2d, 0x300, 0x315, 0x316, 0x31a, 0x31b, 0x31c, 0x321, 0x323, 0x327, 0x329, 0x334, 0x339,
  0x33d, 0x347, 0x34a, 0x34d, 0x350, 0x353, 0x357, 0x358, 0x359, 0x35b, 0x35c, 0x35d, 0x35f,
  0x360, 0x362, 0x363, 0x371, 0x483, 0x48b, 0x591, 0x592, 0x596, 0x597, 0x59a, 0x59b, 0x59c,
  0x5a2, 0x5a8, 0x5aa, 0x5ab, 0x5ad, 0x5ae, 0x5af, 0x5b0, 0x5b1, 0x5b2, 0x5b3, 0x5b4, 0x5b5,
  0x5b6, 0x5b7, 0x5b8, 0x5b9, 0x5bb, 0x5bc, 0x5bd, 0x5bf, 0x5c1, 0x5c2, 0x5c4, 0x5c5, 0x5c7,
  0x5d0, 0x610, 0x618, 0x619, 0x61a, 0x620, 0x64b, 0x64c, 0x64d, 0x64e, 0x64f, 0x650, 0x651,
  0x652, 0x653, 0x655, 0x657, 0x65c, 0x65d, 0x65f, 0x660, 0x670, 0x671, 0x6d6, 0x6e3, 0x6e4,
  0x6e5, 0x6e7, 0x6ea, 0x6eb, 0x6ed, 0x6ee, 0x711, 0x712, 0x730, 0x731, 0x732, 0x734, 0x735,
  0x737, 0x73a, 0x73b, 0x73d, 0x73e, 0x73f, 0x742, 0x743, 0x744, 0x745, 0x746, 0x747, 0x748,
  0x749, 0x74d, 0x7eb, 0x7f2, 0x7f3, 0x7f4, 0x7fd, 0x800, 0x816, 0x81a, 0x81b, 0x824, 0x825,
  0x828, 0x829, 0x840, 0x859, 0x860, 0x898, 0x899, 0x89c, 0x8a0, 0x8ca, 0x8cf, 0x8d4, 0x8e3,
  0x8e4, 0x8e6, 0x8e7, 0x8e9, 0x8ea, 0x8ed, 0x8f0, 0x8f1, 0x8f2, 0x8f3, 0x8f6, 0x8f7, 0x8f9,
  0x8fb, 0x900, 0x93c, 0x93d, 0x94d, 0x94e, 0x951, 0x952, 0x953, 0x955, 0x9bc, 0x9bd, 0x9cd,
  0x9ce, 0x9fe, 0xa01, 0xa3c, 0xa3e, 0xa4d, 0xa51, 0xabc, 0xabd, 0xacd, 0xad0, 0xb3c, 0xb3d,
  0xb4d, 0xb55, 0xbcd, 0xbd0, 0xc3c, 0xc3d, 0xc4d, 0xc55, 0xc56, 0xc58, 0xcbc, 0xcbd, 0xccd,
  0xcd5, 0xd3b, 0xd3d, 0xd4d, 0xd4e, 0xdca, 0xdcf, 0xe38, 0xe3a, 0xe40, 0xe48, 0xe4c, 0xeb8,
  0xeba, 0xebb, 0xec8, 0xecc, 0xf18, 0xf20, 0xf35, 0xf39, 0xf3e, 0xf71, 0xf72, 0xf74, 0xf7a,
  0xf7e, 0xf80, 0xf82, 0xf84, 0xf86, 0xf88, 0xfc6, 0x1000, 0x1037, 0x1038, 0x1039, 0x103b,
  0x108d, 0x108e, 0x135d, 0x1380, 0x1714, 0x171f, 0x1734, 0x1740, 0x17d2, 0x17d3, 0x17dd, 0x17e0,
  0x18a9, 0x18aa, 0x1939, 0x193a, 0x193b, 0x1946, 0x1a17, 0x1a18, 0x1a19, 0x1a60, 0x1a61, 0x1a75,
  0x1a7f, 0x1a80, 0x1ab0, 0x1ab5, 0x1abb, 0x1abd, 0x1ac1, 0x1ac3, 0x1ac5, 0x1aca, 0x1acb, 0x1b00,
  0x1b34, 0x1b35, 0x1b44, 0x1b45, 0x1b6b, 0x1b6c, 0x1b6d, 0x1b80, 0x1baa, 0x1bac, 0x1be6, 0x1be7,
  0x1bf2, 0x1c00, 0x1c37, 0x1c40, 0x1cd0, 0x1cd4, 0x1cd5, 0x1cda, 0x1cdc, 0x1ce0, 0x1ce1, 0x1ce2,
  0x1ce9, 0x1ced, 0x1cee, 0x1cf4, 0x1cf5, 0x1cf8, 0x1cfa, 0x1dc0, 0x1dc2, 0x1dc3, 0x1dca, 0x1dcb,
  0x1dcd, 0x1dce, 0x1dcf, 0x1dd0, 0x1dd1, 0x1df6, 0x1df7, 0x1df9, 0x1dfa, 0x1dfb, 0x1dfc, 0x1dfd,
  0x1dfe, 0x1dff, 0x1e01, 0x2cef, 0x2cf3, 0x2d7f, 0x2d80, 0x2de0, 0x2e2f, 0x302a, 0x302b, 0x302c,
  0x302d, 0x303c, 0x3099, 0x309d, 0xa66f, 0xa67f, 0xa69e, 0xa6a0, 0xa6f0, 0xa717, 0xa806, 0xa807,
  0xa82c, 0xa840, 0xa8c4, 0xa8c5, 0xa8e0, 0xa8f2, 0xa92b, 0xa930, 0xa953, 0xa980, 0xa9b3, 0xa9b4,
  0xa9c0, 0xa9cf, 0xaab0, 0xaab1, 0xaab2, 0xaab4, 0xaab5, 0xaab7, 0xaab9, 0xaabe, 0xaac0, 0xaac1,
  0xaac2, 0xaaf6, 0xab01, 0xabed, 0xabf0, 0xfb1e, 0xfe20, 0xfe27, 0xfe2e, 0xfe73, 0x101fd,
  0x10280, 0x102e0, 0x10300, 0x10376, 0x10380, 0x10a0d, 0x10a0e, 0x10a0f, 0x10a10, 0x10a38,
  0x10a39, 0x10a3a, 0x10a3f, 0x10a60, 0x10ae5, 0x10ae6, 0x10b00, 0x10d24, 0x10d30, 0x10eab,
  0x10eb0, 0x10f46, 0x10f48, 0x10f4b, 0x10f4c, 0x10f4d, 0x10f70, 0x10f82, 0x10f83, 0x10f84,
  0x10f85, 0x10fb0, 0x11046, 0x11066, 0x11070, 0x11071, 0x1107f, 0x11080, 0x110b9, 0x110ba,
  0x110c2, 0x11100, 0x11103, 0x11133, 0x11136, 0x11173, 0x11176, 0x111c0, 0x111c1, 0x111ca,
  0x111cb, 0x11235, 0x11236, 0x11237, 0x112e9, 0x112ea, 0x112f0, 0x1133b, 0x1133d, 0x1134d,
  0x11350, 0x11366, 0x11400, 0x11442, 0x11443, 0x11446, 0x11447, 0x1145e, 0x1145f, 0x114c2,
  0x114c3, 0x114c4, 0x115bf, 0x115c0, 0x115d8, 0x1163f, 0x11640, 0x116b6, 0x116b7, 0x116b8,
  0x1172b, 0x11730, 0x11839, 0x1183a, 0x118c0, 0x1193d, 0x1193f, 0x11943, 0x11950, 0x119e0,
  0x119e1, 0x11a34, 0x11a35, 0x11a47, 0x11a50, 0x11a99, 0x11a9d, 0x11c3f, 0x11c40, 0x11d42,
  0x11d43, 0x11d44, 0x11d46, 0x11d97, 0x11d98, 0x16af0, 0x16b00, 0x16b30, 0x16b40, 0x16ff0,
  0x17000, 0x1bc9e, 0x1cf00, 0x1e000, 0x1e100, 0x1e130, 0x1e137, 0x1e2ae, 0x1e2c0, 0x1e2ec,
  0x1e2f0, 0x1e8d0, 0x1e922, 0x1e944, 0x1e94a, 0x1e94b]

/-- The combining class from each of these code points on. -/
def classes : Array Nat := #[
  0, 230, 232, 220, 232, 216, 220, 202, 220, 202, 220, 1, 220, 230, 220, 230, 220, 230, 220, 230,
  232, 220, 230, 233, 234, 233, 234, 233, 230, 0, 230, 0, 220, 230, 220, 230, 222, 220, 230, 220,
  230, 220, 230, 222, 228, 230, 10, 11, 12, 13, 14, 15, 16, 17, 18, 19, 20, 21, 22, 23, 24, 25,
  230, 220, 18, 0, 230, 30, 31, 32, 0, 27, 28, 29, 30, 31, 32, 33, 34, 230, 220, 230, 220, 230,
  220, 0, 35, 0, 230, 220, 230, 0, 230, 220, 230, 220, 0, 36, 0, 230, 220, 230, 220, 230, 220,
  230, 220, 230, 220, 230, 220, 230, 220, 230, 220, 230, 220, 230, 0, 230, 220, 230, 0, 220, 0,
  230, 0, 230, 0, 230, 0, 230, 0, 220, 0, 230, 220, 230, 0, 230, 220, 230, 220, 230, 220, 230,
  220, 230, 220, 27, 28, 29, 230, 220, 230, 220, 230, 0, 7, 0, 9, 0, 230, 220, 230, 0, 7, 0, 9,
  0, 230, 0, 7, 0, 9, 0, 7, 0, 9, 0, 7, 0, 9, 0, 9, 0, 7, 0, 9, 84, 91, 0, 7, 0, 9, 0, 9, 0, 9,
  0, 9, 0, 103, 9, 0, 107, 0, 118, 9, 0, 122, 0, 220, 0, 220, 216, 0, 129, 130, 132, 130, 0, 130,
  230, 9, 230, 0, 220, 0, 7, 0, 9, 0, 220, 0, 230, 0, 9, 0, 9, 0, 9, 0, 230, 0, 228, 0, 222, 230,
  220, 0, 230, 220, 0, 9, 0, 230, 220, 0, 230, 220, 230, 220, 230, 220, 230, 220, 230, 0, 7, 0,
  9, 0, 230, 220, 230, 0, 9, 0, 7, 0, 9, 0, 7, 0, 230, 1, 220, 230, 220, 230, 0, 1, 0, 220, 0,
  230, 0, 230, 0, 230, 220, 230, 220, 230, 234, 214, 220, 202, 230, 232, 228, 220, 218, 230, 233,
  220, 230, 220, 0, 230, 0, 9, 0, 230, 0, 218, 228, 232, 222, 0, 8, 0, 230, 0, 230, 0, 230, 0, 9,
  0, 9, 0, 9, 0, 230, 0, 220, 0, 9, 0, 7, 0, 9, 0, 230, 0, 230, 220, 0, 230, 0, 230, 0, 230, 0,
  9, 0, 9, 0, 26, 230, 220, 230, 0, 220, 0, 220, 0, 230, 0, 220, 0, 230, 0, 230, 1, 220, 9, 0,
  230, 220, 0, 230, 0, 230, 0, 220, 230, 220, 230, 220, 0, 230, 220, 230, 220, 0, 9, 0, 9, 0, 9,
  0, 9, 7, 0, 230, 0, 9, 0, 7, 0, 9, 0, 7, 0, 9, 7, 0, 7, 9, 0, 7, 0, 9, 0, 230, 0, 9, 0, 7, 0,
  230, 0, 9, 7, 0, 9, 7, 0, 9, 0, 9, 7, 0, 9, 0, 9, 7, 0, 9, 0, 7, 0, 9, 0, 9, 0, 9, 0, 9, 0, 9,
  0, 7, 0, 9, 0, 9, 0, 1, 0, 230, 0, 6, 0, 1, 0, 230, 0, 230, 0, 230, 0, 230, 0, 220, 0, 230, 7,
  0]

/-- The combining class of a letter; zero for all but marks. -/
def combiningClass (c : Char) : Nat := classes.getD (lowerBound classEdges (c.toNat + 1) - 1) 0

end ProseTrace.Url.Domain
