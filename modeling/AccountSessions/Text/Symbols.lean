import AccountSessions.Text.Span

/-!
# Punctuation and symbols

The characters of Unicode 14.0 whose general category is P* or S*.  A character that
this version does not assign belongs to neither.
-/

namespace AccountSessions.Text

def symbolSpans : List Span :=
  [⟨0x21, 0x2f, 1⟩, ⟨0x3a, 0x40, 1⟩, ⟨0x5b, 0x60, 1⟩, ⟨0x7b, 0x7e, 1⟩, ⟨0xa1, 0xa9, 1⟩,
    ⟨0xab, 0xac, 1⟩, ⟨0xae, 0xb1, 1⟩, ⟨0xb4, 0xb4, 1⟩, ⟨0xb6, 0xb8, 1⟩, ⟨0xbb, 0xbb, 1⟩,
    ⟨0xbf, 0xbf, 1⟩, ⟨0xd7, 0xd7, 1⟩, ⟨0xf7, 0xf7, 1⟩, ⟨0x2c2, 0x2c5, 1⟩, ⟨0x2d2, 0x2df, 1⟩,
    ⟨0x2e5, 0x2eb, 1⟩, ⟨0x2ed, 0x2ed, 1⟩, ⟨0x2ef, 0x2ff, 1⟩, ⟨0x375, 0x375, 1⟩,
    ⟨0x37e, 0x37e, 1⟩, ⟨0x384, 0x385, 1⟩, ⟨0x387, 0x387, 1⟩, ⟨0x3f6, 0x3f6, 1⟩,
    ⟨0x482, 0x482, 1⟩, ⟨0x55a, 0x55f, 1⟩, ⟨0x589, 0x58a, 1⟩, ⟨0x58d, 0x58f, 1⟩,
    ⟨0x5be, 0x5be, 1⟩, ⟨0x5c0, 0x5c0, 1⟩, ⟨0x5c3, 0x5c3, 1⟩, ⟨0x5c6, 0x5c6, 1⟩,
    ⟨0x5f3, 0x5f4, 1⟩, ⟨0x606, 0x60f, 1⟩, ⟨0x61b, 0x61b, 1⟩, ⟨0x61d, 0x61f, 1⟩,
    ⟨0x66a, 0x66d, 1⟩, ⟨0x6d4, 0x6d4, 1⟩, ⟨0x6de, 0x6de, 1⟩, ⟨0x6e9, 0x6e9, 1⟩,
    ⟨0x6fd, 0x6fe, 1⟩, ⟨0x700, 0x70d, 1⟩, ⟨0x7f6, 0x7f9, 1⟩, ⟨0x7fe, 0x7ff, 1⟩,
    ⟨0x830, 0x83e, 1⟩, ⟨0x85e, 0x85e, 1⟩, ⟨0x888, 0x888, 1⟩, ⟨0x964, 0x965, 1⟩,
    ⟨0x970, 0x970, 1⟩, ⟨0x9f2, 0x9f3, 1⟩, ⟨0x9fa, 0x9fb, 1⟩, ⟨0x9fd, 0x9fd, 1⟩,
    ⟨0xa76, 0xa76, 1⟩, ⟨0xaf0, 0xaf1, 1⟩, ⟨0xb70, 0xb70, 1⟩, ⟨0xbf3, 0xbfa, 1⟩,
    ⟨0xc77, 0xc77, 1⟩, ⟨0xc7f, 0xc7f, 1⟩, ⟨0xc84, 0xc84, 1⟩, ⟨0xd4f, 0xd4f, 1⟩,
    ⟨0xd79, 0xd79, 1⟩, ⟨0xdf4, 0xdf4, 1⟩, ⟨0xe3f, 0xe3f, 1⟩, ⟨0xe4f, 0xe4f, 1⟩,
    ⟨0xe5a, 0xe5b, 1⟩, ⟨0xf01, 0xf17, 1⟩, ⟨0xf1a, 0xf1f, 1⟩, ⟨0xf34, 0xf3a, 2⟩,
    ⟨0xf3b, 0xf3d, 1⟩, ⟨0xf85, 0xf85, 1⟩, ⟨0xfbe, 0xfc5, 1⟩, ⟨0xfc7, 0xfcc, 1⟩,
    ⟨0xfce, 0xfda, 1⟩, ⟨0x104a, 0x104f, 1⟩, ⟨0x109e, 0x109f, 1⟩, ⟨0x10fb, 0x10fb, 1⟩,
    ⟨0x1360, 0x1368, 1⟩, ⟨0x1390, 0x1399, 1⟩, ⟨0x1400, 0x1400, 1⟩, ⟨0x166d, 0x166e, 1⟩,
    ⟨0x169b, 0x169c, 1⟩, ⟨0x16eb, 0x16ed, 1⟩, ⟨0x1735, 0x1736, 1⟩, ⟨0x17d4, 0x17d6, 1⟩,
    ⟨0x17d8, 0x17db, 1⟩, ⟨0x1800, 0x180a, 1⟩, ⟨0x1940, 0x1940, 1⟩, ⟨0x1944, 0x1945, 1⟩,
    ⟨0x19de, 0x19ff, 1⟩, ⟨0x1a1e, 0x1a1f, 1⟩, ⟨0x1aa0, 0x1aa6, 1⟩, ⟨0x1aa8, 0x1aad, 1⟩,
    ⟨0x1b5a, 0x1b6a, 1⟩, ⟨0x1b74, 0x1b7e, 1⟩, ⟨0x1bfc, 0x1bff, 1⟩, ⟨0x1c3b, 0x1c3f, 1⟩,
    ⟨0x1c7e, 0x1c7f, 1⟩, ⟨0x1cc0, 0x1cc7, 1⟩, ⟨0x1cd3, 0x1cd3, 1⟩, ⟨0x1fbd, 0x1fbd, 1⟩,
    ⟨0x1fbf, 0x1fc1, 1⟩, ⟨0x1fcd, 0x1fcf, 1⟩, ⟨0x1fdd, 0x1fdf, 1⟩, ⟨0x1fed, 0x1fef, 1⟩,
    ⟨0x1ffd, 0x1ffe, 1⟩, ⟨0x2010, 0x2027, 1⟩, ⟨0x2030, 0x205e, 1⟩, ⟨0x207a, 0x207e, 1⟩,
    ⟨0x208a, 0x208e, 1⟩, ⟨0x20a0, 0x20c0, 1⟩, ⟨0x2100, 0x2101, 1⟩, ⟨0x2103, 0x2106, 1⟩,
    ⟨0x2108, 0x2109, 1⟩, ⟨0x2114, 0x2114, 1⟩, ⟨0x2116, 0x2118, 1⟩, ⟨0x211e, 0x2123, 1⟩,
    ⟨0x2125, 0x2129, 2⟩, ⟨0x212e, 0x212e, 1⟩, ⟨0x213a, 0x213b, 1⟩, ⟨0x2140, 0x2144, 1⟩,
    ⟨0x214a, 0x214d, 1⟩, ⟨0x214f, 0x214f, 1⟩, ⟨0x218a, 0x218b, 1⟩, ⟨0x2190, 0x2426, 1⟩,
    ⟨0x2440, 0x244a, 1⟩, ⟨0x249c, 0x24e9, 1⟩, ⟨0x2500, 0x2775, 1⟩, ⟨0x2794, 0x2b73, 1⟩,
    ⟨0x2b76, 0x2b95, 1⟩, ⟨0x2b97, 0x2bff, 1⟩, ⟨0x2ce5, 0x2cea, 1⟩, ⟨0x2cf9, 0x2cfc, 1⟩,
    ⟨0x2cfe, 0x2cff, 1⟩, ⟨0x2d70, 0x2d70, 1⟩, ⟨0x2e00, 0x2e2e, 1⟩, ⟨0x2e30, 0x2e5d, 1⟩,
    ⟨0x2e80, 0x2e99, 1⟩, ⟨0x2e9b, 0x2ef3, 1⟩, ⟨0x2f00, 0x2fd5, 1⟩, ⟨0x2ff0, 0x2ffb, 1⟩,
    ⟨0x3001, 0x3004, 1⟩, ⟨0x3008, 0x3020, 1⟩, ⟨0x3030, 0x3030, 1⟩, ⟨0x3036, 0x3037, 1⟩,
    ⟨0x303d, 0x303f, 1⟩, ⟨0x309b, 0x309c, 1⟩, ⟨0x30a0, 0x30a0, 1⟩, ⟨0x30fb, 0x30fb, 1⟩,
    ⟨0x3190, 0x3191, 1⟩, ⟨0x3196, 0x319f, 1⟩, ⟨0x31c0, 0x31e3, 1⟩, ⟨0x3200, 0x321e, 1⟩,
    ⟨0x322a, 0x3247, 1⟩, ⟨0x3250, 0x3250, 1⟩, ⟨0x3260, 0x327f, 1⟩, ⟨0x328a, 0x32b0, 1⟩,
    ⟨0x32c0, 0x33ff, 1⟩, ⟨0x4dc0, 0x4dff, 1⟩, ⟨0xa490, 0xa4c6, 1⟩, ⟨0xa4fe, 0xa4ff, 1⟩,
    ⟨0xa60d, 0xa60f, 1⟩, ⟨0xa673, 0xa673, 1⟩, ⟨0xa67e, 0xa67e, 1⟩, ⟨0xa6f2, 0xa6f7, 1⟩,
    ⟨0xa700, 0xa716, 1⟩, ⟨0xa720, 0xa721, 1⟩, ⟨0xa789, 0xa78a, 1⟩, ⟨0xa828, 0xa82b, 1⟩,
    ⟨0xa836, 0xa839, 1⟩, ⟨0xa874, 0xa877, 1⟩, ⟨0xa8ce, 0xa8cf, 1⟩, ⟨0xa8f8, 0xa8fa, 1⟩,
    ⟨0xa8fc, 0xa8fc, 1⟩, ⟨0xa92e, 0xa92f, 1⟩, ⟨0xa95f, 0xa95f, 1⟩, ⟨0xa9c1, 0xa9cd, 1⟩,
    ⟨0xa9de, 0xa9df, 1⟩, ⟨0xaa5c, 0xaa5f, 1⟩, ⟨0xaa77, 0xaa79, 1⟩, ⟨0xaade, 0xaadf, 1⟩,
    ⟨0xaaf0, 0xaaf1, 1⟩, ⟨0xab5b, 0xab5b, 1⟩, ⟨0xab6a, 0xab6b, 1⟩, ⟨0xabeb, 0xabeb, 1⟩,
    ⟨0xfb29, 0xfb29, 1⟩, ⟨0xfbb2, 0xfbc2, 1⟩, ⟨0xfd3e, 0xfd4f, 1⟩, ⟨0xfdcf, 0xfdcf, 1⟩,
    ⟨0xfdfc, 0xfdff, 1⟩, ⟨0xfe10, 0xfe19, 1⟩, ⟨0xfe30, 0xfe52, 1⟩, ⟨0xfe54, 0xfe66, 1⟩,
    ⟨0xfe68, 0xfe6b, 1⟩, ⟨0xff01, 0xff0f, 1⟩, ⟨0xff1a, 0xff20, 1⟩, ⟨0xff3b, 0xff40, 1⟩,
    ⟨0xff5b, 0xff65, 1⟩, ⟨0xffe0, 0xffe6, 1⟩, ⟨0xffe8, 0xffee, 1⟩, ⟨0xfffc, 0xfffd, 1⟩,
    ⟨0x10100, 0x10102, 1⟩, ⟨0x10137, 0x1013f, 1⟩, ⟨0x10179, 0x10189, 1⟩, ⟨0x1018c, 0x1018e, 1⟩,
    ⟨0x10190, 0x1019c, 1⟩, ⟨0x101a0, 0x101a0, 1⟩, ⟨0x101d0, 0x101fc, 1⟩, ⟨0x1039f, 0x1039f, 1⟩,
    ⟨0x103d0, 0x103d0, 1⟩, ⟨0x1056f, 0x1056f, 1⟩, ⟨0x10857, 0x10857, 1⟩, ⟨0x10877, 0x10878, 1⟩,
    ⟨0x1091f, 0x1091f, 1⟩, ⟨0x1093f, 0x1093f, 1⟩, ⟨0x10a50, 0x10a58, 1⟩, ⟨0x10a7f, 0x10a7f, 1⟩,
    ⟨0x10ac8, 0x10ac8, 1⟩, ⟨0x10af0, 0x10af6, 1⟩, ⟨0x10b39, 0x10b3f, 1⟩, ⟨0x10b99, 0x10b9c, 1⟩,
    ⟨0x10ead, 0x10ead, 1⟩, ⟨0x10f55, 0x10f59, 1⟩, ⟨0x10f86, 0x10f89, 1⟩, ⟨0x11047, 0x1104d, 1⟩,
    ⟨0x110bb, 0x110bc, 1⟩, ⟨0x110be, 0x110c1, 1⟩, ⟨0x11140, 0x11143, 1⟩, ⟨0x11174, 0x11175, 1⟩,
    ⟨0x111c5, 0x111c8, 1⟩, ⟨0x111cd, 0x111cd, 1⟩, ⟨0x111db, 0x111db, 1⟩, ⟨0x111dd, 0x111df, 1⟩,
    ⟨0x11238, 0x1123d, 1⟩, ⟨0x112a9, 0x112a9, 1⟩, ⟨0x1144b, 0x1144f, 1⟩, ⟨0x1145a, 0x1145b, 1⟩,
    ⟨0x1145d, 0x1145d, 1⟩, ⟨0x114c6, 0x114c6, 1⟩, ⟨0x115c1, 0x115d7, 1⟩, ⟨0x11641, 0x11643, 1⟩,
    ⟨0x11660, 0x1166c, 1⟩, ⟨0x116b9, 0x116b9, 1⟩, ⟨0x1173c, 0x1173f, 1⟩, ⟨0x1183b, 0x1183b, 1⟩,
    ⟨0x11944, 0x11946, 1⟩, ⟨0x119e2, 0x119e2, 1⟩, ⟨0x11a3f, 0x11a46, 1⟩, ⟨0x11a9a, 0x11a9c, 1⟩,
    ⟨0x11a9e, 0x11aa2, 1⟩, ⟨0x11c41, 0x11c45, 1⟩, ⟨0x11c70, 0x11c71, 1⟩, ⟨0x11ef7, 0x11ef8, 1⟩,
    ⟨0x11fd5, 0x11ff1, 1⟩, ⟨0x11fff, 0x11fff, 1⟩, ⟨0x12470, 0x12474, 1⟩, ⟨0x12ff1, 0x12ff2, 1⟩,
    ⟨0x16a6e, 0x16a6f, 1⟩, ⟨0x16af5, 0x16af5, 1⟩, ⟨0x16b37, 0x16b3f, 1⟩, ⟨0x16b44, 0x16b45, 1⟩,
    ⟨0x16e97, 0x16e9a, 1⟩, ⟨0x16fe2, 0x16fe2, 1⟩, ⟨0x1bc9c, 0x1bc9c, 1⟩, ⟨0x1bc9f, 0x1bc9f, 1⟩,
    ⟨0x1cf50, 0x1cfc3, 1⟩, ⟨0x1d000, 0x1d0f5, 1⟩, ⟨0x1d100, 0x1d126, 1⟩, ⟨0x1d129, 0x1d164, 1⟩,
    ⟨0x1d16a, 0x1d16c, 1⟩, ⟨0x1d183, 0x1d184, 1⟩, ⟨0x1d18c, 0x1d1a9, 1⟩, ⟨0x1d1ae, 0x1d1ea, 1⟩,
    ⟨0x1d200, 0x1d241, 1⟩, ⟨0x1d245, 0x1d245, 1⟩, ⟨0x1d300, 0x1d356, 1⟩, ⟨0x1d6c1, 0x1d6c1, 1⟩,
    ⟨0x1d6db, 0x1d6db, 1⟩, ⟨0x1d6fb, 0x1d6fb, 1⟩, ⟨0x1d715, 0x1d715, 1⟩, ⟨0x1d735, 0x1d735, 1⟩,
    ⟨0x1d74f, 0x1d74f, 1⟩, ⟨0x1d76f, 0x1d76f, 1⟩, ⟨0x1d789, 0x1d789, 1⟩, ⟨0x1d7a9, 0x1d7a9, 1⟩,
    ⟨0x1d7c3, 0x1d7c3, 1⟩, ⟨0x1d800, 0x1d9ff, 1⟩, ⟨0x1da37, 0x1da3a, 1⟩, ⟨0x1da6d, 0x1da74, 1⟩,
    ⟨0x1da76, 0x1da83, 1⟩, ⟨0x1da85, 0x1da8b, 1⟩, ⟨0x1e14f, 0x1e14f, 1⟩, ⟨0x1e2ff, 0x1e2ff, 1⟩,
    ⟨0x1e95e, 0x1e95f, 1⟩, ⟨0x1ecac, 0x1ecac, 1⟩, ⟨0x1ecb0, 0x1ecb0, 1⟩, ⟨0x1ed2e, 0x1ed2e, 1⟩,
    ⟨0x1eef0, 0x1eef1, 1⟩, ⟨0x1f000, 0x1f02b, 1⟩, ⟨0x1f030, 0x1f093, 1⟩, ⟨0x1f0a0, 0x1f0ae, 1⟩,
    ⟨0x1f0b1, 0x1f0bf, 1⟩, ⟨0x1f0c1, 0x1f0cf, 1⟩, ⟨0x1f0d1, 0x1f0f5, 1⟩, ⟨0x1f10d, 0x1f1ad, 1⟩,
    ⟨0x1f1e6, 0x1f202, 1⟩, ⟨0x1f210, 0x1f23b, 1⟩, ⟨0x1f240, 0x1f248, 1⟩, ⟨0x1f250, 0x1f251, 1⟩,
    ⟨0x1f260, 0x1f265, 1⟩, ⟨0x1f300, 0x1f6d7, 1⟩, ⟨0x1f6dd, 0x1f6ec, 1⟩, ⟨0x1f6f0, 0x1f6fc, 1⟩,
    ⟨0x1f700, 0x1f773, 1⟩, ⟨0x1f780, 0x1f7d8, 1⟩, ⟨0x1f7e0, 0x1f7eb, 1⟩, ⟨0x1f7f0, 0x1f7f0, 1⟩,
    ⟨0x1f800, 0x1f80b, 1⟩, ⟨0x1f810, 0x1f847, 1⟩, ⟨0x1f850, 0x1f859, 1⟩, ⟨0x1f860, 0x1f887, 1⟩,
    ⟨0x1f890, 0x1f8ad, 1⟩, ⟨0x1f8b0, 0x1f8b1, 1⟩, ⟨0x1f900, 0x1fa53, 1⟩, ⟨0x1fa60, 0x1fa6d, 1⟩,
    ⟨0x1fa70, 0x1fa74, 1⟩, ⟨0x1fa78, 0x1fa7c, 1⟩, ⟨0x1fa80, 0x1fa86, 1⟩, ⟨0x1fa90, 0x1faac, 1⟩,
    ⟨0x1fab0, 0x1faba, 1⟩, ⟨0x1fac0, 0x1fac5, 1⟩, ⟨0x1fad0, 0x1fad9, 1⟩, ⟨0x1fae0, 0x1fae7, 1⟩,
    ⟨0x1faf0, 0x1faf6, 1⟩, ⟨0x1fb00, 0x1fb92, 1⟩, ⟨0x1fb94, 0x1fbca, 1⟩]

def isSymbol (c : Char) : Bool :=
  Span.covers symbolSpans c.toNat

end AccountSessions.Text
