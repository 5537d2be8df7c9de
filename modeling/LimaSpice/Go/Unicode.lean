/-!
# Go's printable runes

`strconv.IsPrint`, which `strconv.Quote` asks of every rune, and which is the same predicate as
`unicode.IsPrint`: the letters, marks, numbers, punctuation and symbols of Unicode, and the ASCII
space. Go decides Latin-1 directly and, above it, looks the rune up in the tables of
`strconv/isprint.go`: ranges of printable runes, and the unprintable runes inside them. The tables
below are those of Unicode 15.0.0, the version of Go's `unicode` package, in the layout of
`isprint.go`, with the runes above U+FFFF written out in full. Go searches them by bisection;
a search along the sorted lists gives the same answer.
-/

namespace LimaSpice.Go

/-- `isPrint16`: the ranges of printable runes below U+10000. -/
def isPrint16 : List (Nat × Nat) := [
  (0x0020, 0x007e), (0x00a1, 0x0377), (0x037a, 0x037f), (0x0384, 0x0556),
  (0x0559, 0x058a), (0x058d, 0x05c7), (0x05d0, 0x05ea), (0x05ef, 0x05f4),
  (0x0606, 0x070d), (0x0710, 0x074a), (0x074d, 0x07b1), (0x07c0, 0x07fa),
  (0x07fd, 0x082d), (0x0830, 0x085b), (0x085e, 0x086a), (0x0870, 0x088e),
  (0x0898, 0x098c), (0x098f, 0x0990), (0x0993, 0x09b2), (0x09b6, 0x09b9),
  (0x09bc, 0x09c4), (0x09c7, 0x09c8), (0x09cb, 0x09ce), (0x09d7, 0x09d7),
  (0x09dc, 0x09e3), (0x09e6, 0x09fe), (0x0a01, 0x0a0a), (0x0a0f, 0x0a10),
  (0x0a13, 0x0a39), (0x0a3c, 0x0a42), (0x0a47, 0x0a48), (0x0a4b, 0x0a4d),
  (0x0a51, 0x0a51), (0x0a59, 0x0a5e), (0x0a66, 0x0a76), (0x0a81, 0x0ab9),
  (0x0abc, 0x0acd), (0x0ad0, 0x0ad0), (0x0ae0, 0x0ae3), (0x0ae6, 0x0af1),
  (0x0af9, 0x0b0c), (0x0b0f, 0x0b10), (0x0b13, 0x0b39), (0x0b3c, 0x0b44),
  (0x0b47, 0x0b48), (0x0b4b, 0x0b4d), (0x0b55, 0x0b57), (0x0b5c, 0x0b63),
  (0x0b66, 0x0b77), (0x0b82, 0x0b8a), (0x0b8e, 0x0b95), (0x0b99, 0x0b9f),
  (0x0ba3, 0x0ba4), (0x0ba8, 0x0baa), (0x0bae, 0x0bb9), (0x0bbe, 0x0bc2),
  (0x0bc6, 0x0bcd), (0x0bd0, 0x0bd0), (0x0bd7, 0x0bd7), (0x0be6, 0x0bfa),
  (0x0c00, 0x0c39), (0x0c3c, 0x0c4d), (0x0c55, 0x0c5a), (0x0c5d, 0x0c5d),
  (0x0c60, 0x0c63), (0x0c66, 0x0c6f), (0x0c77, 0x0cb9), (0x0cbc, 0x0ccd),
  (0x0cd5, 0x0cd6), (0x0cdd, 0x0ce3), (0x0ce6, 0x0cf3), (0x0d00, 0x0d4f),
  (0x0d54, 0x0d63), (0x0d66, 0x0d96), (0x0d9a, 0x0dbd), (0x0dc0, 0x0dc6),
  (0x0dca, 0x0dca), (0x0dcf, 0x0ddf), (0x0de6, 0x0def), (0x0df2, 0x0df4),
  (0x0e01, 0x0e3a), (0x0e3f, 0x0e5b), (0x0e81, 0x0ebd), (0x0ec0, 0x0ed9),
  (0x0edc, 0x0edf), (0x0f00, 0x0f6c), (0x0f71, 0x0fda), (0x1000, 0x10c7),
  (0x10cd, 0x10cd), (0x10d0, 0x124d), (0x1250, 0x125d), (0x1260, 0x128d),
  (0x1290, 0x12b5), (0x12b8, 0x12c5), (0x12c8, 0x1315), (0x1318, 0x135a),
  (0x135d, 0x137c), (0x1380, 0x1399), (0x13a0, 0x13f5), (0x13f8, 0x13fd),
  (0x1400, 0x169c), (0x16a0, 0x16f8), (0x1700, 0x1715), (0x171f, 0x1736),
  (0x1740, 0x1753), (0x1760, 0x1773), (0x1780, 0x17dd), (0x17e0, 0x17e9),
  (0x17f0, 0x17f9), (0x1800, 0x1819), (0x1820, 0x1878), (0x1880, 0x18aa),
  (0x18b0, 0x18f5), (0x1900, 0x192b), (0x1930, 0x193b), (0x1940, 0x1940),
  (0x1944, 0x196d), (0x1970, 0x1974), (0x1980, 0x19ab), (0x19b0, 0x19c9),
  (0x19d0, 0x19da), (0x19de, 0x1a1b), (0x1a1e, 0x1a7c), (0x1a7f, 0x1a89),
  (0x1a90, 0x1a99), (0x1aa0, 0x1aad), (0x1ab0, 0x1ace), (0x1b00, 0x1b4c),
  (0x1b50, 0x1bf3), (0x1bfc, 0x1c37), (0x1c3b, 0x1c49), (0x1c4d, 0x1c88),
  (0x1c90, 0x1cba), (0x1cbd, 0x1cc7), (0x1cd0, 0x1cfa), (0x1d00, 0x1f15),
  (0x1f18, 0x1f1d), (0x1f20, 0x1f45), (0x1f48, 0x1f4d), (0x1f50, 0x1f7d),
  (0x1f80, 0x1fd3), (0x1fd6, 0x1fef), (0x1ff2, 0x1ffe), (0x2010, 0x2027),
  (0x2030, 0x205e), (0x2070, 0x2071), (0x2074, 0x209c), (0x20a0, 0x20c0),
  (0x20d0, 0x20f0), (0x2100, 0x218b), (0x2190, 0x2426), (0x2440, 0x244a),
  (0x2460, 0x2b73), (0x2b76, 0x2cf3), (0x2cf9, 0x2d27), (0x2d2d, 0x2d2d),
  (0x2d30, 0x2d67), (0x2d6f, 0x2d70), (0x2d7f, 0x2d96), (0x2da0, 0x2e5d),
  (0x2e80, 0x2ef3), (0x2f00, 0x2fd5), (0x2ff0, 0x2ffb), (0x3001, 0x3096),
  (0x3099, 0x30ff), (0x3105, 0x31e3), (0x31f0, 0xa48c), (0xa490, 0xa4c6),
  (0xa4d0, 0xa62b), (0xa640, 0xa6f7), (0xa700, 0xa7ca), (0xa7d0, 0xa7d9),
  (0xa7f2, 0xa82c), (0xa830, 0xa839), (0xa840, 0xa877), (0xa880, 0xa8c5),
  (0xa8ce, 0xa8d9), (0xa8e0, 0xa953), (0xa95f, 0xa97c), (0xa980, 0xa9d9),
  (0xa9de, 0xaa36), (0xaa40, 0xaa4d), (0xaa50, 0xaa59), (0xaa5c, 0xaac2),
  (0xaadb, 0xaaf6), (0xab01, 0xab06), (0xab09, 0xab0e), (0xab11, 0xab16),
  (0xab20, 0xab6b), (0xab70, 0xabed), (0xabf0, 0xabf9), (0xac00, 0xd7a3),
  (0xd7b0, 0xd7c6), (0xd7cb, 0xd7fb), (0xf900, 0xfa6d), (0xfa70, 0xfad9),
  (0xfb00, 0xfb06), (0xfb13, 0xfb17), (0xfb1d, 0xfbc2), (0xfbd3, 0xfd8f),
  (0xfd92, 0xfdc7), (0xfdcf, 0xfdcf), (0xfdf0, 0xfe19), (0xfe20, 0xfe6b),
  (0xfe70, 0xfefc), (0xff01, 0xffbe), (0xffc2, 0xffc7), (0xffca, 0xffcf),
  (0xffd2, 0xffd7), (0xffda, 0xffdc), (0xffe0, 0xffee), (0xfffc, 0xfffd)]

/-- `isNotPrint16`: the unprintable runes inside the ranges of `isPrint16`. -/
def isNotPrint16 : List Nat := [
  0x00ad, 0x038b, 0x038d, 0x03a2, 0x0530, 0x0590, 0x061c, 0x06dd,
  0x083f, 0x085f, 0x08e2, 0x0984, 0x09a9, 0x09b1, 0x09de, 0x0a04,
  0x0a29, 0x0a31, 0x0a34, 0x0a37, 0x0a3d, 0x0a5d, 0x0a84, 0x0a8e,
  0x0a92, 0x0aa9, 0x0ab1, 0x0ab4, 0x0ac6, 0x0aca, 0x0b00, 0x0b04,
  0x0b29, 0x0b31, 0x0b34, 0x0b5e, 0x0b84, 0x0b91, 0x0b9b, 0x0b9d,
  0x0bc9, 0x0c0d, 0x0c11, 0x0c29, 0x0c45, 0x0c49, 0x0c57, 0x0c8d,
  0x0c91, 0x0ca9, 0x0cb4, 0x0cc5, 0x0cc9, 0x0cdf, 0x0cf0, 0x0d0d,
  0x0d11, 0x0d45, 0x0d49, 0x0d80, 0x0d84, 0x0db2, 0x0dbc, 0x0dd5,
  0x0dd7, 0x0e83, 0x0e85, 0x0e8b, 0x0ea4, 0x0ea6, 0x0ec5, 0x0ec7,
  0x0ecf, 0x0f48, 0x0f98, 0x0fbd, 0x0fcd, 0x10c6, 0x1249, 0x1257,
  0x1259, 0x1289, 0x12b1, 0x12bf, 0x12c1, 0x12d7, 0x1311, 0x1680,
  0x176d, 0x1771, 0x180e, 0x191f, 0x1a5f, 0x1b7f, 0x1f58, 0x1f5a,
  0x1f5c, 0x1f5e, 0x1fb5, 0x1fc5, 0x1fdc, 0x1ff5, 0x208f, 0x2b96,
  0x2d26, 0x2da7, 0x2daf, 0x2db7, 0x2dbf, 0x2dc7, 0x2dcf, 0x2dd7,
  0x2ddf, 0x2e9a, 0x3040, 0x3130, 0x318f, 0x321f, 0xa7d2, 0xa7d4,
  0xa9ce, 0xa9ff, 0xab27, 0xab2f, 0xfb37, 0xfb3d, 0xfb3f, 0xfb42,
  0xfb45, 0xfe53, 0xfe67, 0xfe75, 0xffe7]

/-- `isPrint32`: the ranges of printable runes from U+10000. -/
def isPrint32 : List (Nat × Nat) := [
  (0x10000, 0x1004d), (0x10050, 0x1005d), (0x10080, 0x100fa), (0x10100, 0x10102),
  (0x10107, 0x10133), (0x10137, 0x1019c), (0x101a0, 0x101a0), (0x101d0, 0x101fd),
  (0x10280, 0x1029c), (0x102a0, 0x102d0), (0x102e0, 0x102fb), (0x10300, 0x10323),
  (0x1032d, 0x1034a), (0x10350, 0x1037a), (0x10380, 0x103c3), (0x103c8, 0x103d5),
  (0x10400, 0x1049d), (0x104a0, 0x104a9), (0x104b0, 0x104d3), (0x104d8, 0x104fb),
  (0x10500, 0x10527), (0x10530, 0x10563), (0x1056f, 0x105bc), (0x10600, 0x10736),
  (0x10740, 0x10755), (0x10760, 0x10767), (0x10780, 0x107ba), (0x10800, 0x10805),
  (0x10808, 0x10838), (0x1083c, 0x1083c), (0x1083f, 0x1089e), (0x108a7, 0x108af),
  (0x108e0, 0x108f5), (0x108fb, 0x1091b), (0x1091f, 0x10939), (0x1093f, 0x1093f),
  (0x10980, 0x109b7), (0x109bc, 0x109cf), (0x109d2, 0x10a06), (0x10a0c, 0x10a35),
  (0x10a38, 0x10a3a), (0x10a3f, 0x10a48), (0x10a50, 0x10a58), (0x10a60, 0x10a9f),
  (0x10ac0, 0x10ae6), (0x10aeb, 0x10af6), (0x10b00, 0x10b35), (0x10b39, 0x10b55),
  (0x10b58, 0x10b72), (0x10b78, 0x10b91), (0x10b99, 0x10b9c), (0x10ba9, 0x10baf),
  (0x10c00, 0x10c48), (0x10c80, 0x10cb2), (0x10cc0, 0x10cf2), (0x10cfa, 0x10d27),
  (0x10d30, 0x10d39), (0x10e60, 0x10ead), (0x10eb0, 0x10eb1), (0x10efd, 0x10f27),
  (0x10f30, 0x10f59), (0x10f70, 0x10f89), (0x10fb0, 0x10fcb), (0x10fe0, 0x10ff6),
  (0x11000, 0x1104d), (0x11052, 0x11075), (0x1107f, 0x110c2), (0x110d0, 0x110e8),
  (0x110f0, 0x110f9), (0x11100, 0x11147), (0x11150, 0x11176), (0x11180, 0x111f4),
  (0x11200, 0x11241), (0x11280, 0x112a9), (0x112b0, 0x112ea), (0x112f0, 0x112f9),
  (0x11300, 0x1130c), (0x1130f, 0x11310), (0x11313, 0x11344), (0x11347, 0x11348),
  (0x1134b, 0x1134d), (0x11350, 0x11350), (0x11357, 0x11357), (0x1135d, 0x11363),
  (0x11366, 0x1136c), (0x11370, 0x11374), (0x11400, 0x11461), (0x11480, 0x114c7),
  (0x114d0, 0x114d9), (0x11580, 0x115b5), (0x115b8, 0x115dd), (0x11600, 0x11644),
  (0x11650, 0x11659), (0x11660, 0x1166c), (0x11680, 0x116b9), (0x116c0, 0x116c9),
  (0x11700, 0x1171a), (0x1171d, 0x1172b), (0x11730, 0x11746), (0x11800, 0x1183b),
  (0x118a0, 0x118f2), (0x118ff, 0x11906), (0x11909, 0x11909), (0x1190c, 0x11938),
  (0x1193b, 0x11946), (0x11950, 0x11959), (0x119a0, 0x119a7), (0x119aa, 0x119d7),
  (0x119da, 0x119e4), (0x11a00, 0x11a47), (0x11a50, 0x11aa2), (0x11ab0, 0x11af8),
  (0x11b00, 0x11b09), (0x11c00, 0x11c45), (0x11c50, 0x11c6c), (0x11c70, 0x11c8f),
  (0x11c92, 0x11cb6), (0x11d00, 0x11d36), (0x11d3a, 0x11d47), (0x11d50, 0x11d59),
  (0x11d60, 0x11d98), (0x11da0, 0x11da9), (0x11ee0, 0x11ef8), (0x11f00, 0x11f3a),
  (0x11f3e, 0x11f59), (0x11fb0, 0x11fb0), (0x11fc0, 0x11ff1), (0x11fff, 0x12399),
  (0x12400, 0x12474), (0x12480, 0x12543), (0x12f90, 0x12ff2), (0x13000, 0x1342f),
  (0x13440, 0x13455), (0x14400, 0x14646), (0x16800, 0x16a38), (0x16a40, 0x16a69),
  (0x16a6e, 0x16ac9), (0x16ad0, 0x16aed), (0x16af0, 0x16af5), (0x16b00, 0x16b45),
  (0x16b50, 0x16b77), (0x16b7d, 0x16b8f), (0x16e40, 0x16e9a), (0x16f00, 0x16f4a),
  (0x16f4f, 0x16f87), (0x16f8f, 0x16f9f), (0x16fe0, 0x16fe4), (0x16ff0, 0x16ff1),
  (0x17000, 0x187f7), (0x18800, 0x18cd5), (0x18d00, 0x18d08), (0x1aff0, 0x1b122),
  (0x1b132, 0x1b132), (0x1b150, 0x1b152), (0x1b155, 0x1b155), (0x1b164, 0x1b167),
  (0x1b170, 0x1b2fb), (0x1bc00, 0x1bc6a), (0x1bc70, 0x1bc7c), (0x1bc80, 0x1bc88),
  (0x1bc90, 0x1bc99), (0x1bc9c, 0x1bc9f), (0x1cf00, 0x1cf2d), (0x1cf30, 0x1cf46),
  (0x1cf50, 0x1cfc3), (0x1d000, 0x1d0f5), (0x1d100, 0x1d126), (0x1d129, 0x1d172),
  (0x1d17b, 0x1d1ea), (0x1d200, 0x1d245), (0x1d2c0, 0x1d2d3), (0x1d2e0, 0x1d2f3),
  (0x1d300, 0x1d356), (0x1d360, 0x1d378), (0x1d400, 0x1d49f), (0x1d4a2, 0x1d4a2),
  (0x1d4a5, 0x1d4a6), (0x1d4a9, 0x1d50a), (0x1d50d, 0x1d546), (0x1d54a, 0x1d6a5),
  (0x1d6a8, 0x1d7cb), (0x1d7ce, 0x1da8b), (0x1da9b, 0x1daaf), (0x1df00, 0x1df1e),
  (0x1df25, 0x1df2a), (0x1e000, 0x1e018), (0x1e01b, 0x1e02a), (0x1e030, 0x1e06d),
  (0x1e08f, 0x1e08f), (0x1e100, 0x1e12c), (0x1e130, 0x1e13d), (0x1e140, 0x1e149),
  (0x1e14e, 0x1e14f), (0x1e290, 0x1e2ae), (0x1e2c0, 0x1e2f9), (0x1e2ff, 0x1e2ff),
  (0x1e4d0, 0x1e4f9), (0x1e7e0, 0x1e8c4), (0x1e8c7, 0x1e8d6), (0x1e900, 0x1e94b),
  (0x1e950, 0x1e959), (0x1e95e, 0x1e95f), (0x1ec71, 0x1ecb4), (0x1ed01, 0x1ed3d),
  (0x1ee00, 0x1ee24), (0x1ee27, 0x1ee3b), (0x1ee42, 0x1ee42), (0x1ee47, 0x1ee54),
  (0x1ee57, 0x1ee64), (0x1ee67, 0x1ee9b), (0x1eea1, 0x1eebb), (0x1eef0, 0x1eef1),
  (0x1f000, 0x1f02b), (0x1f030, 0x1f093), (0x1f0a0, 0x1f0ae), (0x1f0b1, 0x1f0f5),
  (0x1f100, 0x1f1ad), (0x1f1e6, 0x1f202), (0x1f210, 0x1f23b), (0x1f240, 0x1f248),
  (0x1f250, 0x1f251), (0x1f260, 0x1f265), (0x1f300, 0x1f6d7), (0x1f6dc, 0x1f6ec),
  (0x1f6f0, 0x1f6fc), (0x1f700, 0x1f776), (0x1f77b, 0x1f7d9), (0x1f7e0, 0x1f7eb),
  (0x1f7f0, 0x1f7f0), (0x1f800, 0x1f80b), (0x1f810, 0x1f847), (0x1f850, 0x1f859),
  (0x1f860, 0x1f887), (0x1f890, 0x1f8ad), (0x1f8b0, 0x1f8b1), (0x1f900, 0x1fa53),
  (0x1fa60, 0x1fa6d), (0x1fa70, 0x1fa7c), (0x1fa80, 0x1fa88), (0x1fa90, 0x1fac5),
  (0x1face, 0x1fadb), (0x1fae0, 0x1fae8), (0x1faf0, 0x1faf8), (0x1fb00, 0x1fbca),
  (0x1fbf0, 0x1fbf9), (0x20000, 0x2a6df), (0x2a700, 0x2b739), (0x2b740, 0x2b81d),
  (0x2b820, 0x2cea1), (0x2ceb0, 0x2ebe0), (0x2f800, 0x2fa1d), (0x30000, 0x3134a),
  (0x31350, 0x323af), (0xe0100, 0xe01ef)]

/-- `isNotPrint32`: the unprintable runes inside the ranges of `isPrint32`, all below U+20000. -/
def isNotPrint32 : List Nat := [
  0x1000c, 0x10027, 0x1003b, 0x1003e, 0x1018f, 0x1039e, 0x1057b, 0x1058b,
  0x10593, 0x10596, 0x105a2, 0x105b2, 0x105ba, 0x10786, 0x107b1, 0x10809,
  0x10836, 0x10856, 0x108f3, 0x10a04, 0x10a14, 0x10a18, 0x10e7f, 0x10eaa,
  0x110bd, 0x11135, 0x111e0, 0x11212, 0x11287, 0x11289, 0x1128e, 0x1129e,
  0x11304, 0x11329, 0x11331, 0x11334, 0x1133a, 0x1145c, 0x11914, 0x11917,
  0x11936, 0x11c09, 0x11c37, 0x11ca8, 0x11d07, 0x11d0a, 0x11d3b, 0x11d3e,
  0x11d66, 0x11d69, 0x11d8f, 0x11d92, 0x11f11, 0x1246f, 0x16a5f, 0x16abf,
  0x16b5a, 0x16b62, 0x1aff4, 0x1affc, 0x1afff, 0x1d455, 0x1d49d, 0x1d4ad,
  0x1d4ba, 0x1d4bc, 0x1d4c4, 0x1d506, 0x1d515, 0x1d51d, 0x1d53a, 0x1d53f,
  0x1d545, 0x1d551, 0x1daa0, 0x1e007, 0x1e022, 0x1e025, 0x1e7e7, 0x1e7ec,
  0x1e7ef, 0x1e7ff, 0x1ee04, 0x1ee20, 0x1ee23, 0x1ee28, 0x1ee33, 0x1ee38,
  0x1ee3a, 0x1ee48, 0x1ee4a, 0x1ee4c, 0x1ee50, 0x1ee53, 0x1ee58, 0x1ee5a,
  0x1ee5c, 0x1ee5e, 0x1ee60, 0x1ee63, 0x1ee6b, 0x1ee73, 0x1ee78, 0x1ee7d,
  0x1ee7f, 0x1ee8a, 0x1eea4, 0x1eeaa, 0x1f0c0, 0x1f0d0, 0x1fabe, 0x1fb93]

/-- `strconv.IsPrint`. -/
def isPrint (c : Char) : Bool :=
  let r := c.toNat
  if r ≤ 0xFF then (0x20 ≤ r && r ≤ 0x7E) || (0xA1 ≤ r && r != 0xAD)
  else if r < 0x10000 then
    isPrint16.any (fun p => p.1 ≤ r && r ≤ p.2) && !isNotPrint16.contains r
  else isPrint32.any (fun p => p.1 ≤ r && r ≤ p.2) && (0x20000 ≤ r || !isNotPrint32.contains r)

end LimaSpice.Go
