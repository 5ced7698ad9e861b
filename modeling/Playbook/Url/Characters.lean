/-!
Character data for host names: which characters are marks, how characters run and join, and which
ones are folded into ASCII. The ranges give first and last code points in ascending order.
-/

namespace Playbook.Url

/-- Marks that take no room of their own. -/
def nonspacingRanges : Array (Nat × Nat) :=
  #[(0x300, 0x36f), (0x483, 0x489), (0x591, 0x5bd), (0x5bf, 0x5bf), (0x5c1, 0x5c2),
    (0x5c4, 0x5c5), (0x5c7, 0x5c7), (0x610, 0x61a), (0x64b, 0x65f), (0x670, 0x670),
    (0x6d6, 0x6dc), (0x6df, 0x6e4), (0x6e7, 0x6e8), (0x6ea, 0x6ed), (0x711, 0x711),
    (0x730, 0x74a), (0x7a6, 0x7b0), (0x7eb, 0x7f3), (0x7fd, 0x7fd), (0x816, 0x819),
    (0x81b, 0x823), (0x825, 0x827), (0x829, 0x82d), (0x859, 0x85b), (0x898, 0x89f),
    (0x8ca, 0x8e1), (0x8e3, 0x902), (0x93a, 0x93a), (0x93c, 0x93c), (0x941, 0x948),
    (0x94d, 0x94d), (0x951, 0x957), (0x962, 0x963), (0x981, 0x981), (0x9bc, 0x9bc),
    (0x9c1, 0x9c4), (0x9cd, 0x9cd), (0x9e2, 0x9e3), (0x9fe, 0xa02), (0xa3c, 0xa3c),
    (0xa41, 0xa51), (0xa70, 0xa71), (0xa75, 0xa75), (0xa81, 0xa82), (0xabc, 0xabc),
    (0xac1, 0xac8), (0xacd, 0xacd), (0xae2, 0xae3), (0xafa, 0xb01), (0xb3c, 0xb3c),
    (0xb3f, 0xb3f), (0xb41, 0xb44), (0xb4d, 0xb56), (0xb62, 0xb63), (0xb82, 0xb82),
    (0xbc0, 0xbc0), (0xbcd, 0xbcd), (0xc00, 0xc00), (0xc04, 0xc04), (0xc3c, 0xc3c),
    (0xc3e, 0xc40), (0xc46, 0xc56), (0xc62, 0xc63), (0xc81, 0xc81), (0xcbc, 0xcbc),
    (0xccc, 0xccd), (0xce2, 0xce3), (0xd00, 0xd01), (0xd3b, 0xd3c), (0xd41, 0xd44),
    (0xd4d, 0xd4d), (0xd62, 0xd63), (0xd81, 0xd81), (0xdca, 0xdca), (0xdd2, 0xdd6),
    (0xe31, 0xe31), (0xe34, 0xe3a), (0xe47, 0xe4e), (0xeb1, 0xeb1), (0xeb4, 0xebc),
    (0xec8, 0xece), (0xf18, 0xf19), (0xf35, 0xf35), (0xf37, 0xf37), (0xf39, 0xf39),
    (0xf71, 0xf7e), (0xf80, 0xf84), (0xf86, 0xf87), (0xf8d, 0xfbc), (0xfc6, 0xfc6),
    (0x102d, 0x1030), (0x1032, 0x1037), (0x1039, 0x103a), (0x103d, 0x103e), (0x1058, 0x1059),
    (0x105e, 0x1060), (0x1071, 0x1074), (0x1082, 0x1082), (0x1085, 0x1086), (0x108d, 0x108d),
    (0x109d, 0x109d), (0x135d, 0x135f), (0x1712, 0x1714), (0x1732, 0x1733), (0x1752, 0x1753),
    (0x1772, 0x1773), (0x17b4, 0x17b5), (0x17b7, 0x17bd), (0x17c6, 0x17c6), (0x17c9, 0x17d3),
    (0x17dd, 0x17dd), (0x180b, 0x180d), (0x180f, 0x180f), (0x1885, 0x1886), (0x18a9, 0x18a9),
    (0x1920, 0x1922), (0x1927, 0x1928), (0x1932, 0x1932), (0x1939, 0x193b), (0x1a17, 0x1a18),
    (0x1a1b, 0x1a1b), (0x1a56, 0x1a56), (0x1a58, 0x1a60), (0x1a62, 0x1a62), (0x1a65, 0x1a6c),
    (0x1a73, 0x1a7f), (0x1ab0, 0x1b03), (0x1b34, 0x1b34), (0x1b36, 0x1b3a), (0x1b3c, 0x1b3c),
    (0x1b42, 0x1b42), (0x1b6b, 0x1b73), (0x1b80, 0x1b81), (0x1ba2, 0x1ba5), (0x1ba8, 0x1ba9),
    (0x1bab, 0x1bad), (0x1be6, 0x1be6), (0x1be8, 0x1be9), (0x1bed, 0x1bed), (0x1bef, 0x1bf1),
    (0x1c2c, 0x1c33), (0x1c36, 0x1c37), (0x1cd0, 0x1cd2), (0x1cd4, 0x1ce0), (0x1ce2, 0x1ce8),
    (0x1ced, 0x1ced), (0x1cf4, 0x1cf4), (0x1cf8, 0x1cf9), (0x1dc0, 0x1dff), (0x20d0, 0x20f0),
    (0x2cef, 0x2cf1), (0x2d7f, 0x2d7f), (0x2de0, 0x2dff), (0x302a, 0x302d), (0x3099, 0x309a),
    (0xa66f, 0xa672), (0xa674, 0xa67d), (0xa69e, 0xa69f), (0xa6f0, 0xa6f1), (0xa802, 0xa802),
    (0xa806, 0xa806), (0xa80b, 0xa80b), (0xa825, 0xa826), (0xa82c, 0xa82c), (0xa8c4, 0xa8c5),
    (0xa8e0, 0xa8f1), (0xa8ff, 0xa8ff), (0xa926, 0xa92d), (0xa947, 0xa951), (0xa980, 0xa982),
    (0xa9b3, 0xa9b3), (0xa9b6, 0xa9b9), (0xa9bc, 0xa9bd), (0xa9e5, 0xa9e5), (0xaa29, 0xaa2e),
    (0xaa31, 0xaa32), (0xaa35, 0xaa36), (0xaa43, 0xaa43), (0xaa4c, 0xaa4c), (0xaa7c, 0xaa7c),
    (0xaab0, 0xaab0), (0xaab2, 0xaab4), (0xaab7, 0xaab8), (0xaabe, 0xaabf), (0xaac1, 0xaac1),
    (0xaaec, 0xaaed), (0xaaf6, 0xaaf6), (0xabe5, 0xabe5), (0xabe8, 0xabe8), (0xabed, 0xabed),
    (0xfb1e, 0xfb1e), (0xfe00, 0xfe0f), (0xfe20, 0xfe2f), (0x101fd, 0x101fd), (0x102e0, 0x102e0),
    (0x10376, 0x1037a), (0x10a01, 0x10a0f), (0x10a38, 0x10a3f), (0x10ae5, 0x10ae6),
    (0x10d24, 0x10d27), (0x10eab, 0x10eac), (0x10efd, 0x10eff), (0x10f46, 0x10f50),
    (0x10f82, 0x10f85), (0x11001, 0x11001), (0x11038, 0x11046), (0x11070, 0x11070),
    (0x11073, 0x11074), (0x1107f, 0x11081), (0x110b3, 0x110b6), (0x110b9, 0x110ba),
    (0x110c2, 0x110c2), (0x11100, 0x11102), (0x11127, 0x1112b), (0x1112d, 0x11134),
    (0x11173, 0x11173), (0x11180, 0x11181), (0x111b6, 0x111be), (0x111c9, 0x111cc),
    (0x111cf, 0x111cf), (0x1122f, 0x11231), (0x11234, 0x11234), (0x11236, 0x11237),
    (0x1123e, 0x1123e), (0x11241, 0x11241), (0x112df, 0x112df), (0x112e3, 0x112ea),
    (0x11300, 0x11301), (0x1133b, 0x1133c), (0x11340, 0x11340), (0x11366, 0x11374),
    (0x11438, 0x1143f), (0x11442, 0x11444), (0x11446, 0x11446), (0x1145e, 0x1145e),
    (0x114b3, 0x114b8), (0x114ba, 0x114ba), (0x114bf, 0x114c0), (0x114c2, 0x114c3),
    (0x115b2, 0x115b5), (0x115bc, 0x115bd), (0x115bf, 0x115c0), (0x115dc, 0x115dd),
    (0x11633, 0x1163a), (0x1163d, 0x1163d), (0x1163f, 0x11640), (0x116ab, 0x116ab),
    (0x116ad, 0x116ad), (0x116b0, 0x116b5), (0x116b7, 0x116b7), (0x1171d, 0x1171f),
    (0x11722, 0x11725), (0x11727, 0x1172b), (0x1182f, 0x11837), (0x11839, 0x1183a),
    (0x1193b, 0x1193c), (0x1193e, 0x1193e), (0x11943, 0x11943), (0x119d4, 0x119db),
    (0x119e0, 0x119e0), (0x11a01, 0x11a06), (0x11a09, 0x11a0a), (0x11a33, 0x11a38),
    (0x11a3b, 0x11a3e), (0x11a47, 0x11a47), (0x11a51, 0x11a56), (0x11a59, 0x11a5b),
    (0x11a8a, 0x11a96), (0x11a98, 0x11a99), (0x11c30, 0x11c3d), (0x11c92, 0x11ca7),
    (0x11caa, 0x11cb0), (0x11cb2, 0x11cb3), (0x11cb5, 0x11cb6), (0x11d31, 0x11d45),
    (0x11d47, 0x11d47), (0x11d90, 0x11d91), (0x11d95, 0x11d95), (0x11d97, 0x11d97),
    (0x11ef3, 0x11ef4), (0x11f00, 0x11f01), (0x11f36, 0x11f3a), (0x11f40, 0x11f40),
    (0x11f42, 0x11f42), (0x13440, 0x13440), (0x13447, 0x13455), (0x16af0, 0x16af4),
    (0x16b30, 0x16b36), (0x16f4f, 0x16f4f), (0x16f8f, 0x16f92), (0x16fe4, 0x16fe4),
    (0x1bc9d, 0x1bc9e), (0x1cf00, 0x1cf46), (0x1d167, 0x1d169), (0x1d17b, 0x1d182),
    (0x1d185, 0x1d18b), (0x1d1aa, 0x1d1ad), (0x1d242, 0x1d244), (0x1da00, 0x1da36),
    (0x1da3b, 0x1da6c), (0x1da75, 0x1da75), (0x1da84, 0x1da84), (0x1da9b, 0x1daaf),
    (0x1e000, 0x1e02a), (0x1e08f, 0x1e08f), (0x1e130, 0x1e136), (0x1e2ae, 0x1e2ae),
    (0x1e2ec, 0x1e2ef), (0x1e4ec, 0x1e4ef), (0x1e8d0, 0x1e8d6), (0x1e944, 0x1e94a),
    (0xe0100, 0xe01ef)]

/-- Marks that take room. -/
def spacingMarkRanges : Array (Nat × Nat) :=
  #[(0x903, 0x903), (0x93b, 0x93b), (0x93e, 0x940), (0x949, 0x94c), (0x94e, 0x94f),
    (0x982, 0x983), (0x9be, 0x9c0), (0x9c7, 0x9cc), (0x9d7, 0x9d7), (0xa03, 0xa03),
    (0xa3e, 0xa40), (0xa83, 0xa83), (0xabe, 0xac0), (0xac9, 0xacc), (0xb02, 0xb03),
    (0xb3e, 0xb3e), (0xb40, 0xb40), (0xb47, 0xb4c), (0xb57, 0xb57), (0xbbe, 0xbbf),
    (0xbc1, 0xbcc), (0xbd7, 0xbd7), (0xc01, 0xc03), (0xc41, 0xc44), (0xc82, 0xc83),
    (0xcbe, 0xcbe), (0xcc0, 0xcc4), (0xcc7, 0xccb), (0xcd5, 0xcd6), (0xcf3, 0xcf3),
    (0xd02, 0xd03), (0xd3e, 0xd40), (0xd46, 0xd4c), (0xd57, 0xd57), (0xd82, 0xd83),
    (0xdcf, 0xdd1), (0xdd8, 0xddf), (0xdf2, 0xdf3), (0xf3e, 0xf3f), (0xf7f, 0xf7f),
    (0x102b, 0x102c), (0x1031, 0x1031), (0x1038, 0x1038), (0x103b, 0x103c), (0x1056, 0x1057),
    (0x1062, 0x1064), (0x1067, 0x106d), (0x1083, 0x1084), (0x1087, 0x108c), (0x108f, 0x108f),
    (0x109a, 0x109c), (0x1715, 0x1715), (0x1734, 0x1734), (0x17b6, 0x17b6), (0x17be, 0x17c5),
    (0x17c7, 0x17c8), (0x1923, 0x1926), (0x1929, 0x1931), (0x1933, 0x1938), (0x1a19, 0x1a1a),
    (0x1a55, 0x1a55), (0x1a57, 0x1a57), (0x1a61, 0x1a61), (0x1a63, 0x1a64), (0x1a6d, 0x1a72),
    (0x1b04, 0x1b04), (0x1b35, 0x1b35), (0x1b3b, 0x1b3b), (0x1b3d, 0x1b41), (0x1b43, 0x1b44),
    (0x1b82, 0x1b82), (0x1ba1, 0x1ba1), (0x1ba6, 0x1ba7), (0x1baa, 0x1baa), (0x1be7, 0x1be7),
    (0x1bea, 0x1bec), (0x1bee, 0x1bee), (0x1bf2, 0x1bf3), (0x1c24, 0x1c2b), (0x1c34, 0x1c35),
    (0x1ce1, 0x1ce1), (0x1cf7, 0x1cf7), (0x302e, 0x302f), (0xa823, 0xa824), (0xa827, 0xa827),
    (0xa880, 0xa881), (0xa8b4, 0xa8c3), (0xa952, 0xa953), (0xa983, 0xa983), (0xa9b4, 0xa9b5),
    (0xa9ba, 0xa9bb), (0xa9be, 0xa9c0), (0xaa2f, 0xaa30), (0xaa33, 0xaa34), (0xaa4d, 0xaa4d),
    (0xaa7b, 0xaa7b), (0xaa7d, 0xaa7d), (0xaaeb, 0xaaeb), (0xaaee, 0xaaef), (0xaaf5, 0xaaf5),
    (0xabe3, 0xabe4), (0xabe6, 0xabe7), (0xabe9, 0xabea), (0xabec, 0xabec), (0x11000, 0x11000),
    (0x11002, 0x11002), (0x11082, 0x11082), (0x110b0, 0x110b2), (0x110b7, 0x110b8),
    (0x1112c, 0x1112c), (0x11145, 0x11146), (0x11182, 0x11182), (0x111b3, 0x111b5),
    (0x111bf, 0x111c0), (0x111ce, 0x111ce), (0x1122c, 0x1122e), (0x11232, 0x11233),
    (0x11235, 0x11235), (0x112e0, 0x112e2), (0x11302, 0x11303), (0x1133e, 0x1133f),
    (0x11341, 0x1134d), (0x11357, 0x11357), (0x11362, 0x11363), (0x11435, 0x11437),
    (0x11440, 0x11441), (0x11445, 0x11445), (0x114b0, 0x114b2), (0x114b9, 0x114b9),
    (0x114bb, 0x114be), (0x114c1, 0x114c1), (0x115af, 0x115b1), (0x115b8, 0x115bb),
    (0x115be, 0x115be), (0x11630, 0x11632), (0x1163b, 0x1163c), (0x1163e, 0x1163e),
    (0x116ac, 0x116ac), (0x116ae, 0x116af), (0x116b6, 0x116b6), (0x11720, 0x11721),
    (0x11726, 0x11726), (0x1182c, 0x1182e), (0x11838, 0x11838), (0x11930, 0x11938),
    (0x1193d, 0x1193d), (0x11940, 0x11940), (0x11942, 0x11942), (0x119d1, 0x119d3),
    (0x119dc, 0x119df), (0x119e4, 0x119e4), (0x11a39, 0x11a39), (0x11a57, 0x11a58),
    (0x11a97, 0x11a97), (0x11c2f, 0x11c2f), (0x11c3e, 0x11c3e), (0x11ca9, 0x11ca9),
    (0x11cb1, 0x11cb1), (0x11cb4, 0x11cb4), (0x11d8a, 0x11d8e), (0x11d93, 0x11d94),
    (0x11d96, 0x11d96), (0x11ef5, 0x11ef6), (0x11f03, 0x11f03), (0x11f34, 0x11f35),
    (0x11f3e, 0x11f3f), (0x11f41, 0x11f41), (0x16f51, 0x16f87), (0x16ff0, 0x16ff1),
    (0x1d165, 0x1d166), (0x1d16d, 0x1d172)]

/-- Letters that run from right to left. -/
def rightToLeftRanges : Array (Nat × Nat) :=
  #[(0x5be, 0x5be), (0x5c0, 0x5c0), (0x5c3, 0x5c3), (0x5c6, 0x5c6), (0x5d0, 0x5f4),
    (0x608, 0x608), (0x60b, 0x60b), (0x60d, 0x60d), (0x61b, 0x64a), (0x66d, 0x66f),
    (0x671, 0x6d5), (0x6e5, 0x6e6), (0x6ee, 0x6ef), (0x6fa, 0x710), (0x712, 0x72f),
    (0x74d, 0x7a5), (0x7b1, 0x7ea), (0x7f4, 0x7f5), (0x7fa, 0x7fa), (0x7fe, 0x815),
    (0x81a, 0x81a), (0x824, 0x824), (0x828, 0x828), (0x830, 0x858), (0x85e, 0x88e),
    (0x8a0, 0x8c9), (0x200f, 0x200f), (0xfb1d, 0xfb1d), (0xfb1f, 0xfb28), (0xfb2a, 0xfd3d),
    (0xfd50, 0xfdc7), (0xfdf0, 0xfdfc), (0xfe70, 0xfefc), (0x10800, 0x1091b), (0x10920, 0x10a00),
    (0x10a10, 0x10a35), (0x10a40, 0x10ae4), (0x10aeb, 0x10b35), (0x10b40, 0x10d23),
    (0x10e80, 0x10ea9), (0x10ead, 0x10eb1), (0x10f00, 0x10f45), (0x10f51, 0x10f81),
    (0x10f86, 0x10ff6), (0x1e800, 0x1e8cf), (0x1e900, 0x1e943), (0x1e94b, 0x1eebb)]

/-- Digits that run with right-to-left letters. -/
def arabicNumberRanges : Array (Nat × Nat) :=
  #[(0x600, 0x605), (0x660, 0x669), (0x66b, 0x66c), (0x6dd, 0x6dd), (0x890, 0x891),
    (0x8e2, 0x8e2), (0x10d30, 0x10d39), (0x10e60, 0x10e7e)]

/-- Digits that run from left to right wherever they stand. -/
def numberRanges : Array (Nat × Nat) :=
  #[(0x30, 0x39), (0xb2, 0xb3), (0xb9, 0xb9), (0x6f0, 0x6f9), (0x2070, 0x2070), (0x2074, 0x2079),
    (0x2080, 0x2089), (0x2488, 0x249b), (0xff10, 0xff19), (0x102e1, 0x102fb), (0x1d7ce, 0x1d7ff),
    (0x1f100, 0x1f10a), (0x1fbf0, 0x1fbf9)]

/-- Characters without a direction of their own. -/
def neutralRanges : Array (Nat × Nat) :=
  #[(0x20, 0x2f), (0x3a, 0x40), (0x5b, 0x60), (0x7b, 0xa9), (0xab, 0xb1), (0xb4, 0xb4),
    (0xb6, 0xb8), (0xbb, 0xbf), (0xd7, 0xd7), (0xf7, 0xf7), (0x2b9, 0x2ba), (0x2c2, 0x2cf),
    (0x2d2, 0x2df), (0x2e5, 0x2ed), (0x2ef, 0x2ff), (0x374, 0x375), (0x37e, 0x37e),
    (0x384, 0x385), (0x387, 0x387), (0x3f6, 0x3f6), (0x58a, 0x58f), (0x606, 0x607),
    (0x609, 0x60a), (0x60c, 0x60c), (0x60e, 0x60f), (0x66a, 0x66a), (0x6de, 0x6de),
    (0x6e9, 0x6e9), (0x7f6, 0x7f9), (0x9f2, 0x9f3), (0x9fb, 0x9fb), (0xaf1, 0xaf1),
    (0xbf3, 0xbfa), (0xc78, 0xc7e), (0xe3f, 0xe3f), (0xf3a, 0xf3d), (0x1390, 0x1399),
    (0x1400, 0x1400), (0x1680, 0x1680), (0x169b, 0x169c), (0x17db, 0x17db), (0x17f0, 0x180a),
    (0x180e, 0x180e), (0x1940, 0x1945), (0x19de, 0x19ff), (0x1fbd, 0x1fbd), (0x1fbf, 0x1fc1),
    (0x1fcd, 0x1fcf), (0x1fdd, 0x1fdf), (0x1fed, 0x1fef), (0x1ffd, 0x200d), (0x2010, 0x2028),
    (0x202f, 0x2064), (0x206a, 0x206f), (0x207a, 0x207e), (0x208a, 0x208e), (0x20a0, 0x20c0),
    (0x2100, 0x2101), (0x2103, 0x2106), (0x2108, 0x2109), (0x2114, 0x2114), (0x2116, 0x2118),
    (0x211e, 0x2123), (0x2125, 0x2125), (0x2127, 0x2127), (0x2129, 0x2129), (0x212e, 0x212e),
    (0x213a, 0x213b), (0x2140, 0x2144), (0x214a, 0x214d), (0x2150, 0x215f), (0x2189, 0x2335),
    (0x237b, 0x2394), (0x2396, 0x2487), (0x24ea, 0x26ab), (0x26ad, 0x27ff), (0x2900, 0x2bff),
    (0x2ce5, 0x2cea), (0x2cf9, 0x2cff), (0x2e00, 0x3004), (0x3008, 0x3020), (0x3030, 0x3030),
    (0x3036, 0x3037), (0x303d, 0x303f), (0x309b, 0x309c), (0x30a0, 0x30a0), (0x30fb, 0x30fb),
    (0x31c0, 0x31e3), (0x321d, 0x321e), (0x3250, 0x325f), (0x327c, 0x327e), (0x32b1, 0x32bf),
    (0x32cc, 0x32cf), (0x3377, 0x337a), (0x33de, 0x33df), (0x33ff, 0x33ff), (0x4dc0, 0x4dff),
    (0xa490, 0xa4c6), (0xa60d, 0xa60f), (0xa673, 0xa673), (0xa67e, 0xa67f), (0xa700, 0xa721),
    (0xa788, 0xa788), (0xa828, 0xa82b), (0xa838, 0xa839), (0xa874, 0xa877), (0xab6a, 0xab6b),
    (0xfb29, 0xfb29), (0xfd3e, 0xfd4f), (0xfdcf, 0xfdcf), (0xfdfd, 0xfdff), (0xfe10, 0xfe19),
    (0xfe30, 0xfe6b), (0xfeff, 0xff0f), (0xff1a, 0xff20), (0xff3b, 0xff40), (0xff5b, 0xff65),
    (0xffe0, 0xfffd), (0x10101, 0x10101), (0x10140, 0x1018c), (0x10190, 0x101a0),
    (0x1091f, 0x1091f), (0x10b39, 0x10b3f), (0x11052, 0x11065), (0x11660, 0x1166c),
    (0x11fd5, 0x11ff1), (0x16fe2, 0x16fe2), (0x1bca0, 0x1bca3), (0x1d173, 0x1d17a),
    (0x1d1e9, 0x1d241), (0x1d245, 0x1d245), (0x1d300, 0x1d356), (0x1d6db, 0x1d6db),
    (0x1d715, 0x1d715), (0x1d74f, 0x1d74f), (0x1d789, 0x1d789), (0x1d7c3, 0x1d7c3),
    (0x1e2ff, 0x1e2ff), (0x1eef0, 0x1f0f5), (0x1f10b, 0x1f10f), (0x1f12f, 0x1f12f),
    (0x1f16a, 0x1f16f), (0x1f1ad, 0x1f1ad), (0x1f260, 0x1fbca), (0xe0001, 0xe007f)]

/-- Marks that join the letter before them to the next one. -/
def viramaRanges : Array (Nat × Nat) :=
  #[(0x94d, 0x94d), (0x9cd, 0x9cd), (0xa4d, 0xa4d), (0xacd, 0xacd), (0xb4d, 0xb4d),
    (0xbcd, 0xbcd), (0xc4d, 0xc4d), (0xccd, 0xccd), (0xd3b, 0xd3c), (0xd4d, 0xd4d),
    (0xdca, 0xdca), (0xe3a, 0xe3a), (0xeba, 0xeba), (0xf84, 0xf84), (0x1039, 0x103a),
    (0x1714, 0x1715), (0x1734, 0x1734), (0x17d2, 0x17d2), (0x1a60, 0x1a60), (0x1b44, 0x1b44),
    (0x1baa, 0x1bab), (0x1bf2, 0x1bf3), (0x2d7f, 0x2d7f), (0xa806, 0xa806), (0xa82c, 0xa82c),
    (0xa8c4, 0xa8c4), (0xa953, 0xa953), (0xa9c0, 0xa9c0), (0xaaf6, 0xaaf6), (0xabed, 0xabed),
    (0x10a3f, 0x10a3f), (0x11046, 0x11046), (0x11070, 0x11070), (0x1107f, 0x1107f),
    (0x110b9, 0x110b9), (0x11133, 0x11134), (0x111c0, 0x111c0), (0x11235, 0x11235),
    (0x112ea, 0x112ea), (0x1134d, 0x1134d), (0x11442, 0x11442), (0x114c2, 0x114c2),
    (0x115bf, 0x115bf), (0x1163f, 0x1163f), (0x116b6, 0x116b6), (0x1172b, 0x1172b),
    (0x11839, 0x11839), (0x1193d, 0x1193e), (0x119e0, 0x119e0), (0x11a34, 0x11a34),
    (0x11a47, 0x11a47), (0x11a99, 0x11a99), (0x11c3f, 0x11c3f), (0x11d44, 0x11d45),
    (0x11d97, 0x11d97), (0x11f41, 0x11f42)]

/-- Letters that join on both sides. -/
def dualJoiningRanges : Array (Nat × Nat) :=
  #[(0x620, 0x620), (0x626, 0x626), (0x628, 0x628), (0x62a, 0x62e), (0x633, 0x63f),
    (0x641, 0x647), (0x649, 0x64a), (0x66e, 0x66f), (0x678, 0x687), (0x69a, 0x6bf),
    (0x6c1, 0x6c2), (0x6cc, 0x6cc), (0x6ce, 0x6ce), (0x6d0, 0x6d1), (0x6fa, 0x6fc),
    (0x6ff, 0x6ff), (0x712, 0x714), (0x71a, 0x71d), (0x71f, 0x727), (0x729, 0x729),
    (0x72b, 0x72b), (0x72d, 0x72e), (0x74e, 0x758), (0x75c, 0x76a), (0x76d, 0x770),
    (0x772, 0x772), (0x775, 0x777), (0x77a, 0x77f), (0x7ca, 0x7ea), (0x841, 0x845),
    (0x848, 0x848), (0x84a, 0x853), (0x855, 0x855), (0x860, 0x860), (0x862, 0x865),
    (0x868, 0x868), (0x886, 0x886), (0x889, 0x88d), (0x8a0, 0x8a9), (0x8af, 0x8b0),
    (0x8b3, 0x8b8), (0x8ba, 0x8c8), (0x1807, 0x1807), (0x1820, 0x1878), (0x1887, 0x18a8),
    (0x18aa, 0x18aa), (0xa840, 0xa871), (0x10ac0, 0x10ac4), (0x10ad3, 0x10ad6),
    (0x10ad8, 0x10adc), (0x10ade, 0x10ae0), (0x10aeb, 0x10aee), (0x10b80, 0x10b80),
    (0x10b82, 0x10b82), (0x10b86, 0x10b88), (0x10b8a, 0x10b8b), (0x10b8d, 0x10b8d),
    (0x10b90, 0x10b90), (0x10bad, 0x10bae), (0x10d01, 0x10d21), (0x10d23, 0x10d23),
    (0x10f30, 0x10f32), (0x10f34, 0x10f44), (0x10f51, 0x10f53), (0x10f70, 0x10f73),
    (0x10f76, 0x10f81), (0x10fb0, 0x10fb0), (0x10fb2, 0x10fb3), (0x10fb8, 0x10fb8),
    (0x10fbb, 0x10fbc), (0x10fbe, 0x10fbf), (0x10fc1, 0x10fc1), (0x10fc4, 0x10fc4),
    (0x10fca, 0x10fca), (0x1e900, 0x1e943)]

/-- Letters that join to the letter before them only. -/
def rightJoiningRanges : Array (Nat × Nat) :=
  #[(0x622, 0x625), (0x627, 0x627), (0x629, 0x629), (0x62f, 0x632), (0x648, 0x648),
    (0x671, 0x673), (0x675, 0x677), (0x688, 0x699), (0x6c0, 0x6c0), (0x6c3, 0x6cb),
    (0x6cd, 0x6cd), (0x6cf, 0x6cf), (0x6d2, 0x6d3), (0x6d5, 0x6d5), (0x6ee, 0x6ef),
    (0x710, 0x710), (0x715, 0x719), (0x71e, 0x71e), (0x728, 0x728), (0x72a, 0x72a),
    (0x72c, 0x72c), (0x72f, 0x72f), (0x74d, 0x74d), (0x759, 0x75b), (0x76b, 0x76c),
    (0x771, 0x771), (0x773, 0x774), (0x778, 0x779), (0x840, 0x840), (0x846, 0x847),
    (0x849, 0x849), (0x854, 0x854), (0x856, 0x858), (0x867, 0x867), (0x869, 0x882),
    (0x88e, 0x88e), (0x8aa, 0x8ac), (0x8ae, 0x8ae), (0x8b1, 0x8b2), (0x8b9, 0x8b9),
    (0x10ac5, 0x10ac5), (0x10ac7, 0x10ac7), (0x10ac9, 0x10aca), (0x10ace, 0x10ad2),
    (0x10add, 0x10add), (0x10ae1, 0x10ae1), (0x10ae4, 0x10ae4), (0x10aef, 0x10aef),
    (0x10b81, 0x10b81), (0x10b83, 0x10b85), (0x10b89, 0x10b89), (0x10b8c, 0x10b8c),
    (0x10b8e, 0x10b8f), (0x10b91, 0x10b91), (0x10ba9, 0x10bac), (0x10d22, 0x10d22),
    (0x10f33, 0x10f33), (0x10f54, 0x10f54), (0x10f74, 0x10f75), (0x10fb4, 0x10fb6),
    (0x10fb9, 0x10fba), (0x10fbd, 0x10fbd), (0x10fc2, 0x10fc3), (0x10fc9, 0x10fc9)]

/-- Letters that join to the letter after them only. -/
def leftJoiningRanges : Array (Nat × Nat) :=
  #[(0xa872, 0xa872), (0x10acd, 0x10acd), (0x10ad7, 0x10ad7), (0x10d00, 0x10d00),
    (0x10fcb, 0x10fcb)]

/-- Characters whose folded form holds an ASCII character that no host name may hold. -/
def forbiddenRanges : Array (Nat × Nat) :=
  #[(0xa0, 0xa0), (0xa8, 0xa8), (0xaf, 0xaf), (0xb4, 0xb4), (0xb8, 0xb8), (0x2d8, 0x2dd),
    (0x37a, 0x37a), (0x384, 0x385), (0x1fbd, 0x1fbd), (0x1fbf, 0x1fc1), (0x1fcd, 0x1fcf),
    (0x1fdd, 0x1fdf), (0x1fed, 0x1fee), (0x1ffd, 0x1ffe), (0x2000, 0x200a), (0x2017, 0x2017),
    (0x202f, 0x202f), (0x203e, 0x203e), (0x2047, 0x2049), (0x205f, 0x205f), (0x2100, 0x2101),
    (0x2105, 0x2106), (0x2a74, 0x2a74), (0x3000, 0x3000), (0x309b, 0x309c), (0xfc5e, 0xfc63),
    (0xfdfa, 0xfdfb), (0xfe13, 0xfe13), (0xfe16, 0xfe16), (0xfe47, 0xfe4c), (0xfe55, 0xfe56),
    (0xfe5f, 0xfe5f), (0xfe64, 0xfe65), (0xfe68, 0xfe68), (0xfe6a, 0xfe6b), (0xfe70, 0xfe70),
    (0xfe72, 0xfe72), (0xfe74, 0xfe74), (0xfe76, 0xfe76), (0xfe78, 0xfe78), (0xfe7a, 0xfe7a),
    (0xfe7c, 0xfe7c), (0xfe7e, 0xfe7e), (0xff03, 0xff03), (0xff05, 0xff05), (0xff0f, 0xff0f),
    (0xff1a, 0xff1a), (0xff1c, 0xff1c), (0xff1e, 0xff20), (0xff3b, 0xff3e), (0xff5c, 0xff5c),
    (0xffe3, 0xffe3)]

/-- Ranges that are folded into single ASCII characters, with the image of the first code point. -/
def asciiImages : Array (Nat × Nat × Nat) :=
  #[(0xaa, 0xaa, 0x61), (0xb2, 0xb3, 0x32), (0xb9, 0xb9, 0x31), (0xba, 0xba, 0x6f),
    (0x17f, 0x17f, 0x73), (0x2b0, 0x2b0, 0x68), (0x2b2, 0x2b2, 0x6a), (0x2b3, 0x2b3, 0x72),
    (0x2b7, 0x2b7, 0x77), (0x2b8, 0x2b8, 0x79), (0x2e1, 0x2e1, 0x6c), (0x2e2, 0x2e2, 0x73),
    (0x2e3, 0x2e3, 0x78), (0x37e, 0x37e, 0x3b), (0x1d2c, 0x1d2c, 0x61), (0x1d2e, 0x1d2e, 0x62),
    (0x1d30, 0x1d31, 0x64), (0x1d33, 0x1d3a, 0x67), (0x1d3c, 0x1d3c, 0x6f),
    (0x1d3e, 0x1d3e, 0x70), (0x1d3f, 0x1d3f, 0x72), (0x1d40, 0x1d41, 0x74),
    (0x1d42, 0x1d42, 0x77), (0x1d43, 0x1d43, 0x61), (0x1d47, 0x1d47, 0x62),
    (0x1d48, 0x1d49, 0x64), (0x1d4d, 0x1d4d, 0x67), (0x1d4f, 0x1d4f, 0x6b),
    (0x1d50, 0x1d50, 0x6d), (0x1d52, 0x1d52, 0x6f), (0x1d56, 0x1d56, 0x70),
    (0x1d57, 0x1d58, 0x74), (0x1d5b, 0x1d5b, 0x76), (0x1d62, 0x1d62, 0x69),
    (0x1d63, 0x1d63, 0x72), (0x1d64, 0x1d65, 0x75), (0x1d9c, 0x1d9c, 0x63),
    (0x1da0, 0x1da0, 0x66), (0x1dbb, 0x1dbb, 0x7a), (0x1fef, 0x1fef, 0x60),
    (0x2024, 0x2024, 0x2e), (0x2070, 0x2070, 0x30), (0x2071, 0x2071, 0x69),
    (0x2074, 0x2079, 0x34), (0x207a, 0x207a, 0x2b), (0x207c, 0x207c, 0x3d),
    (0x207d, 0x207e, 0x28), (0x207f, 0x207f, 0x6e), (0x2080, 0x2089, 0x30),
    (0x208a, 0x208a, 0x2b), (0x208c, 0x208c, 0x3d), (0x208d, 0x208e, 0x28),
    (0x2090, 0x2090, 0x61), (0x2091, 0x2091, 0x65), (0x2092, 0x2092, 0x6f),
    (0x2093, 0x2093, 0x78), (0x2095, 0x2095, 0x68), (0x2096, 0x2099, 0x6b),
    (0x209a, 0x209a, 0x70), (0x209b, 0x209c, 0x73), (0x2102, 0x2102, 0x63),
    (0x210a, 0x210b, 0x67), (0x210c, 0x210c, 0x68), (0x210d, 0x210d, 0x68),
    (0x210e, 0x210e, 0x68), (0x2110, 0x2110, 0x69), (0x2111, 0x2111, 0x69),
    (0x2112, 0x2112, 0x6c), (0x2113, 0x2113, 0x6c), (0x2115, 0x2115, 0x6e),
    (0x2119, 0x211b, 0x70), (0x211c, 0x211c, 0x72), (0x211d, 0x211d, 0x72),
    (0x2124, 0x2124, 0x7a), (0x2128, 0x2128, 0x7a), (0x212a, 0x212a, 0x6b),
    (0x212c, 0x212d, 0x62), (0x212f, 0x212f, 0x65), (0x2130, 0x2131, 0x65),
    (0x2133, 0x2133, 0x6d), (0x2134, 0x2134, 0x6f), (0x2139, 0x2139, 0x69),
    (0x2145, 0x2145, 0x64), (0x2146, 0x2147, 0x64), (0x2148, 0x2149, 0x69),
    (0x2160, 0x2160, 0x69), (0x2164, 0x2164, 0x76), (0x2169, 0x2169, 0x78),
    (0x216c, 0x216c, 0x6c), (0x216d, 0x216e, 0x63), (0x216f, 0x216f, 0x6d),
    (0x2170, 0x2170, 0x69), (0x2174, 0x2174, 0x76), (0x2179, 0x2179, 0x78),
    (0x217c, 0x217c, 0x6c), (0x217d, 0x217e, 0x63), (0x217f, 0x217f, 0x6d),
    (0x2460, 0x2468, 0x31), (0x24b6, 0x24cf, 0x61), (0x24d0, 0x24e9, 0x61),
    (0x24ea, 0x24ea, 0x30), (0x2c7c, 0x2c7c, 0x6a), (0x2c7d, 0x2c7d, 0x76),
    (0xa7f2, 0xa7f2, 0x63), (0xa7f3, 0xa7f3, 0x66), (0xa7f4, 0xa7f4, 0x71),
    (0xfb29, 0xfb29, 0x2b), (0xfe10, 0xfe10, 0x2c), (0xfe14, 0xfe14, 0x3b),
    (0xfe15, 0xfe15, 0x21), (0xfe33, 0xfe33, 0x5f), (0xfe34, 0xfe34, 0x5f),
    (0xfe35, 0xfe36, 0x28), (0xfe37, 0xfe37, 0x7b), (0xfe38, 0xfe38, 0x7d),
    (0xfe4d, 0xfe4d, 0x5f), (0xfe4e, 0xfe4e, 0x5f), (0xfe4f, 0xfe4f, 0x5f),
    (0xfe50, 0xfe50, 0x2c), (0xfe52, 0xfe52, 0x2e), (0xfe54, 0xfe54, 0x3b),
    (0xfe57, 0xfe57, 0x21), (0xfe59, 0xfe5a, 0x28), (0xfe5b, 0xfe5b, 0x7b),
    (0xfe5c, 0xfe5c, 0x7d), (0xfe60, 0xfe60, 0x26), (0xfe61, 0xfe62, 0x2a),
    (0xfe63, 0xfe63, 0x2d), (0xfe66, 0xfe66, 0x3d), (0xfe69, 0xfe69, 0x24),
    (0xff01, 0xff02, 0x21), (0xff04, 0xff04, 0x24), (0xff06, 0xff0e, 0x26),
    (0xff10, 0xff19, 0x30), (0xff1b, 0xff1b, 0x3b), (0xff1d, 0xff1d, 0x3d),
    (0xff21, 0xff3a, 0x61), (0xff3f, 0xff5b, 0x5f), (0xff5d, 0xff5e, 0x7d),
    (0x107a5, 0x107a5, 0x71), (0x1d400, 0x1d419, 0x61), (0x1d41a, 0x1d433, 0x61),
    (0x1d434, 0x1d44d, 0x61), (0x1d44e, 0x1d454, 0x61), (0x1d456, 0x1d467, 0x69),
    (0x1d468, 0x1d481, 0x61), (0x1d482, 0x1d49b, 0x61), (0x1d49c, 0x1d49c, 0x61),
    (0x1d49e, 0x1d49f, 0x63), (0x1d4a2, 0x1d4a2, 0x67), (0x1d4a5, 0x1d4a6, 0x6a),
    (0x1d4a9, 0x1d4ac, 0x6e), (0x1d4ae, 0x1d4b5, 0x73), (0x1d4b6, 0x1d4b9, 0x61),
    (0x1d4bb, 0x1d4bb, 0x66), (0x1d4bd, 0x1d4c3, 0x68), (0x1d4c5, 0x1d4cf, 0x70),
    (0x1d4d0, 0x1d4e9, 0x61), (0x1d4ea, 0x1d503, 0x61), (0x1d504, 0x1d505, 0x61),
    (0x1d507, 0x1d50a, 0x64), (0x1d50d, 0x1d514, 0x6a), (0x1d516, 0x1d51c, 0x73),
    (0x1d51e, 0x1d537, 0x61), (0x1d538, 0x1d539, 0x61), (0x1d53b, 0x1d53e, 0x64),
    (0x1d540, 0x1d544, 0x69), (0x1d546, 0x1d546, 0x6f), (0x1d54a, 0x1d550, 0x73),
    (0x1d552, 0x1d56b, 0x61), (0x1d56c, 0x1d585, 0x61), (0x1d586, 0x1d59f, 0x61),
    (0x1d5a0, 0x1d5b9, 0x61), (0x1d5ba, 0x1d5d3, 0x61), (0x1d5d4, 0x1d5ed, 0x61),
    (0x1d5ee, 0x1d607, 0x61), (0x1d608, 0x1d621, 0x61), (0x1d622, 0x1d63b, 0x61),
    (0x1d63c, 0x1d655, 0x61), (0x1d656, 0x1d66f, 0x61), (0x1d670, 0x1d689, 0x61),
    (0x1d68a, 0x1d6a3, 0x61), (0x1d7ce, 0x1d7d7, 0x30), (0x1d7d8, 0x1d7e1, 0x30),
    (0x1d7e2, 0x1d7eb, 0x30), (0x1d7ec, 0x1d7f5, 0x30), (0x1d7f6, 0x1d7ff, 0x30),
    (0x1f12b, 0x1f12b, 0x63), (0x1f12c, 0x1f12c, 0x72), (0x1f130, 0x1f149, 0x61),
    (0x1fbf0, 0x1fbf9, 0x30)]

/-- Characters that are folded into several ASCII characters. -/
def asciiWords : Array (Nat × String) :=
  #[(0x132, "ij"), (0x133, "ij"), (0x1c7, "lj"), (0x1c8, "lj"), (0x1c9, "lj"),
    (0x1ca, "nj"), (0x1cb, "nj"), (0x1cc, "nj"), (0x1f1, "dz"), (0x1f2, "dz"), (0x1f3, "dz"),
    (0x1e9e, "ss"), (0x2025, ".."), (0x2026, "..."), (0x203c, "!!"), (0x20a8, "rs"),
    (0x2116, "no"), (0x2120, "sm"), (0x2121, "tel"), (0x2122, "tm"), (0x213b, "fax"),
    (0x2161, "ii"), (0x2162, "iii"), (0x2163, "iv"), (0x2165, "vi"), (0x2166, "vii"),
    (0x2167, "viii"), (0x2168, "ix"), (0x216a, "xi"), (0x216b, "xii"), (0x2171, "ii"),
    (0x2172, "iii"), (0x2173, "iv"), (0x2175, "vi"), (0x2176, "vii"), (0x2177, "viii"),
    (0x2178, "ix"), (0x217a, "xi"), (0x217b, "xii"), (0x2469, "10"), (0x246a, "11"),
    (0x246b, "12"), (0x246c, "13"), (0x246d, "14"), (0x246e, "15"), (0x246f, "16"),
    (0x2470, "17"), (0x2471, "18"), (0x2472, "19"), (0x2473, "20"), (0x2474, "(1)"),
    (0x2475, "(2)"), (0x2476, "(3)"), (0x2477, "(4)"), (0x2478, "(5)"), (0x2479, "(6)"),
    (0x247a, "(7)"), (0x247b, "(8)"), (0x247c, "(9)"), (0x247d, "(10)"), (0x247e, "(11)"),
    (0x247f, "(12)"), (0x2480, "(13)"), (0x2481, "(14)"), (0x2482, "(15)"), (0x2483, "(16)"),
    (0x2484, "(17)"), (0x2485, "(18)"), (0x2486, "(19)"), (0x2487, "(20)"), (0x2488, "1."),
    (0x2489, "2."), (0x248a, "3."), (0x248b, "4."), (0x248c, "5."), (0x248d, "6."),
    (0x248e, "7."), (0x248f, "8."), (0x2490, "9."), (0x2491, "10."), (0x2492, "11."),
    (0x2493, "12."), (0x2494, "13."), (0x2495, "14."), (0x2496, "15."), (0x2497, "16."),
    (0x2498, "17."), (0x2499, "18."), (0x249a, "19."), (0x249b, "20."), (0x249c, "(a)"),
    (0x249d, "(b)"), (0x249e, "(c)"), (0x249f, "(d)"), (0x24a0, "(e)"), (0x24a1, "(f)"),
    (0x24a2, "(g)"), (0x24a3, "(h)"), (0x24a4, "(i)"), (0x24a5, "(j)"), (0x24a6, "(k)"),
    (0x24a7, "(l)"), (0x24a8, "(m)"), (0x24a9, "(n)"), (0x24aa, "(o)"), (0x24ab, "(p)"),
    (0x24ac, "(q)"), (0x24ad, "(r)"), (0x24ae, "(s)"), (0x24af, "(t)"), (0x24b0, "(u)"),
    (0x24b1, "(v)"), (0x24b2, "(w)"), (0x24b3, "(x)"), (0x24b4, "(y)"), (0x24b5, "(z)"),
    (0x2a75, "=="), (0x2a76, "==="), (0x3250, "pte"), (0x3251, "21"), (0x3252, "22"),
    (0x3253, "23"), (0x3254, "24"), (0x3255, "25"), (0x3256, "26"), (0x3257, "27"),
    (0x3258, "28"), (0x3259, "29"), (0x325a, "30"), (0x325b, "31"), (0x325c, "32"),
    (0x325d, "33"), (0x325e, "34"), (0x325f, "35"), (0x32b1, "36"), (0x32b2, "37"),
    (0x32b3, "38"), (0x32b4, "39"), (0x32b5, "40"), (0x32b6, "41"), (0x32b7, "42"),
    (0x32b8, "43"), (0x32b9, "44"), (0x32ba, "45"), (0x32bb, "46"), (0x32bc, "47"),
    (0x32bd, "48"), (0x32be, "49"), (0x32bf, "50"), (0x32cc, "hg"), (0x32cd, "erg"),
    (0x32ce, "ev"), (0x32cf, "ltd"), (0x3371, "hpa"), (0x3372, "da"), (0x3373, "au"),
    (0x3374, "bar"), (0x3375, "ov"), (0x3376, "pc"), (0x3377, "dm"), (0x3378, "dm2"),
    (0x3379, "dm3"), (0x337a, "iu"), (0x3380, "pa"), (0x3381, "na"), (0x3383, "ma"),
    (0x3384, "ka"), (0x3385, "kb"), (0x3386, "mb"), (0x3387, "gb"), (0x3388, "cal"),
    (0x3389, "kcal"), (0x338a, "pf"), (0x338b, "nf"), (0x338e, "mg"), (0x338f, "kg"),
    (0x3390, "hz"), (0x3391, "khz"), (0x3392, "mhz"), (0x3393, "ghz"), (0x3394, "thz"),
    (0x3396, "ml"), (0x3397, "dl"), (0x3398, "kl"), (0x3399, "fm"), (0x339a, "nm"),
    (0x339c, "mm"), (0x339d, "cm"), (0x339e, "km"), (0x339f, "mm2"), (0x33a0, "cm2"),
    (0x33a1, "m2"), (0x33a2, "km2"), (0x33a3, "mm3"), (0x33a4, "cm3"), (0x33a5, "m3"),
    (0x33a6, "km3"), (0x33a9, "pa"), (0x33aa, "kpa"), (0x33ab, "mpa"), (0x33ac, "gpa"),
    (0x33ad, "rad"), (0x33b0, "ps"), (0x33b1, "ns"), (0x33b3, "ms"), (0x33b4, "pv"),
    (0x33b5, "nv"), (0x33b7, "mv"), (0x33b8, "kv"), (0x33b9, "mv"), (0x33ba, "pw"),
    (0x33bb, "nw"), (0x33bd, "mw"), (0x33be, "kw"), (0x33bf, "mw"), (0x33c2, "a.m."),
    (0x33c3, "bq"), (0x33c4, "cc"), (0x33c5, "cd"), (0x33c7, "co."), (0x33c8, "db"),
    (0x33c9, "gy"), (0x33ca, "ha"), (0x33cb, "hp"), (0x33cc, "in"), (0x33cd, "kk"),
    (0x33ce, "km"), (0x33cf, "kt"), (0x33d0, "lm"), (0x33d1, "ln"), (0x33d2, "log"),
    (0x33d3, "lx"), (0x33d4, "mb"), (0x33d5, "mil"), (0x33d6, "mol"), (0x33d7, "ph"),
    (0x33d8, "p.m."), (0x33d9, "ppm"), (0x33da, "pr"), (0x33db, "sr"), (0x33dc, "sv"),
    (0x33dd, "wb"), (0x33ff, "gal"), (0xfb00, "ff"), (0xfb01, "fi"), (0xfb02, "fl"),
    (0xfb03, "ffi"), (0xfb04, "ffl"), (0xfb05, "st"), (0xfb06, "st"), (0xfe19, "..."),
    (0xfe30, ".."), (0x1f100, "0."), (0x1f101, "0,"), (0x1f102, "1,"), (0x1f103, "2,"),
    (0x1f104, "3,"), (0x1f105, "4,"), (0x1f106, "5,"), (0x1f107, "6,"), (0x1f108, "7,"),
    (0x1f109, "8,"), (0x1f10a, "9,"), (0x1f110, "(a)"), (0x1f111, "(b)"), (0x1f112, "(c)"),
    (0x1f113, "(d)"), (0x1f114, "(e)"), (0x1f115, "(f)"), (0x1f116, "(g)"), (0x1f117, "(h)"),
    (0x1f118, "(i)"), (0x1f119, "(j)"), (0x1f11a, "(k)"), (0x1f11b, "(l)"), (0x1f11c, "(m)"),
    (0x1f11d, "(n)"), (0x1f11e, "(o)"), (0x1f11f, "(p)"), (0x1f120, "(q)"), (0x1f121, "(r)"),
    (0x1f122, "(s)"), (0x1f123, "(t)"), (0x1f124, "(u)"), (0x1f125, "(v)"), (0x1f126, "(w)"),
    (0x1f127, "(x)"), (0x1f128, "(y)"), (0x1f129, "(z)"), (0x1f12d, "cd"), (0x1f12e, "wz"),
    (0x1f14a, "hv"), (0x1f14b, "mv"), (0x1f14c, "sd"), (0x1f14d, "ss"), (0x1f14e, "ppv"),
    (0x1f14f, "wc"), (0x1f16a, "mc"), (0x1f16b, "md"), (0x1f16c, "mr"), (0x1f190, "dj")]

end Playbook.Url
