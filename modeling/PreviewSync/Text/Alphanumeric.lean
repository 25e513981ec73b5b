import PreviewSync.Text.Hidden

/-!
# Letters and digits

The characters with the property Alphabetic or of a general category of numbers. They are what is
left when the hidden characters and the signs are taken away.

## Main Definitions

* `Text.signRanges` — punctuation and symbols outside ASCII
* `Text.isAlphanumeric` — letters and digits
-/

namespace PreviewSync.Text

/-- Ranges of punctuation and symbols outside ASCII, in increasing order. Hidden characters may lie
in between. -/
def signRanges : Array (Nat × Nat) := #[
  (0xa1, 0xa9), (0xab, 0xb1), (0xb4, 0xb4), (0xb6, 0xb8), (0xbb, 0xbb), (0xbf, 0xbf), (0xd7, 0xd7),
  (0xf7, 0xf7), (0x2c2, 0x2c5), (0x2d2, 0x2df), (0x2e5, 0x2eb), (0x2ed, 0x2ed), (0x2ef, 0x2ff),
  (0x375, 0x375), (0x37e, 0x37e), (0x384, 0x385), (0x387, 0x387), (0x3f6, 0x3f6), (0x482, 0x482),
  (0x55a, 0x55f), (0x589, 0x5c6), (0x5f3, 0x61f), (0x66a, 0x66d), (0x6d4, 0x6d4), (0x6de, 0x6de),
  (0x6e9, 0x6e9), (0x6fd, 0x6fe), (0x700, 0x70d), (0x7f6, 0x7f9), (0x7fe, 0x7ff), (0x830, 0x83e),
  (0x85e, 0x85e), (0x888, 0x888), (0x964, 0x965), (0x970, 0x970), (0x9f2, 0x9f3), (0x9fa, 0x9fb),
  (0x9fd, 0x9fd), (0xa76, 0xa76), (0xaf0, 0xaf1), (0xb70, 0xb70), (0xbf3, 0xbfa), (0xc77, 0xc77),
  (0xc7f, 0xc7f), (0xc84, 0xc84), (0xd4f, 0xd4f), (0xd79, 0xd79), (0xdf4, 0xdf4), (0xe3f, 0xe3f),
  (0xe4f, 0xe4f), (0xe5a, 0xe5b), (0xf01, 0xf1f), (0xf34, 0xf3d), (0xf85, 0xf85), (0xfbe, 0xfda),
  (0x104a, 0x104f), (0x109e, 0x109f), (0x10fb, 0x10fb), (0x1360, 0x1368), (0x1390, 0x1399),
  (0x1400, 0x1400), (0x166d, 0x166e), (0x169b, 0x169c), (0x16eb, 0x16ed), (0x1735, 0x1736),
  (0x17d4, 0x17d6), (0x17d8, 0x17db), (0x1800, 0x180a), (0x1940, 0x1945), (0x19de, 0x19ff),
  (0x1a1e, 0x1a1f), (0x1aa0, 0x1aa6), (0x1aa8, 0x1aad), (0x1b4e, 0x1b4f), (0x1b5a, 0x1b7f),
  (0x1bfc, 0x1bff), (0x1c3b, 0x1c3f), (0x1c7e, 0x1c7f), (0x1cc0, 0x1cd3), (0x1fbd, 0x1fbd),
  (0x1fbf, 0x1fc1), (0x1fcd, 0x1fcf), (0x1fdd, 0x1fdf), (0x1fed, 0x1fef), (0x1ffd, 0x205e),
  (0x207a, 0x207e), (0x208a, 0x208e), (0x20a0, 0x2101), (0x2103, 0x2106), (0x2108, 0x2109),
  (0x2114, 0x2114), (0x2116, 0x2118), (0x211e, 0x2123), (0x2125, 0x2125), (0x2127, 0x2127),
  (0x2129, 0x2129), (0x212e, 0x212e), (0x213a, 0x213b), (0x2140, 0x2144), (0x214a, 0x214d),
  (0x214f, 0x214f), (0x218a, 0x244a), (0x249c, 0x24b5), (0x2500, 0x2775), (0x2794, 0x2bff),
  (0x2ce5, 0x2cea), (0x2cf9, 0x2cfc), (0x2cfe, 0x2cff), (0x2d70, 0x2d70), (0x2e00, 0x2e2e),
  (0x2e30, 0x3004), (0x3008, 0x3020), (0x3030, 0x3030), (0x3036, 0x3037), (0x303d, 0x303f),
  (0x309b, 0x309c), (0x30a0, 0x30a0), (0x30fb, 0x30fb), (0x3190, 0x3191), (0x3196, 0x319f),
  (0x31c0, 0x31ef), (0x3200, 0x321e), (0x322a, 0x3247), (0x3250, 0x3250), (0x3260, 0x327f),
  (0x328a, 0x32b0), (0x32c0, 0x33ff), (0x4dc0, 0x4dff), (0xa490, 0xa4c6), (0xa4fe, 0xa4ff),
  (0xa60d, 0xa60f), (0xa673, 0xa67e), (0xa6f2, 0xa716), (0xa720, 0xa721), (0xa789, 0xa78a),
  (0xa828, 0xa82b), (0xa836, 0xa839), (0xa874, 0xa877), (0xa8ce, 0xa8cf), (0xa8f8, 0xa8fa),
  (0xa8fc, 0xa8fc), (0xa92e, 0xa92f), (0xa95f, 0xa95f), (0xa9c1, 0xa9cd), (0xa9de, 0xa9df),
  (0xaa5c, 0xaa5f), (0xaa77, 0xaa79), (0xaade, 0xaadf), (0xaaf0, 0xaaf1), (0xab5b, 0xab5b),
  (0xab6a, 0xab6b), (0xabeb, 0xabeb), (0xfb29, 0xfb29), (0xfbb2, 0xfbd2), (0xfd3e, 0xfd4f),
  (0xfd90, 0xfd91), (0xfdc8, 0xfdcf), (0xfdfc, 0xfe6b), (0xff01, 0xff0f), (0xff1a, 0xff20),
  (0xff3b, 0xff40), (0xff5b, 0xff65), (0xffe0, 0xfffd), (0x10100, 0x10102), (0x10137, 0x1013f),
  (0x10179, 0x10189), (0x1018c, 0x101fc), (0x1039f, 0x1039f), (0x103d0, 0x103d0),
  (0x1056f, 0x1056f), (0x10857, 0x10857), (0x10877, 0x10878), (0x1091f, 0x1091f),
  (0x1093f, 0x1093f), (0x10a50, 0x10a58), (0x10a7f, 0x10a7f), (0x10ac8, 0x10ac8),
  (0x10af0, 0x10af6), (0x10b39, 0x10b3f), (0x10b99, 0x10b9c), (0x10d6e, 0x10d6e),
  (0x10d8e, 0x10d8f), (0x10ead, 0x10ead), (0x10ed0, 0x10ed8), (0x10f55, 0x10f59),
  (0x10f86, 0x10f89), (0x11047, 0x1104d), (0x110bb, 0x110c1), (0x11140, 0x11143),
  (0x11174, 0x11175), (0x111c5, 0x111cd), (0x111db, 0x111db), (0x111dd, 0x111df),
  (0x11238, 0x1123d), (0x112a9, 0x112a9), (0x113d4, 0x113d8), (0x1144b, 0x1144f),
  (0x1145a, 0x1145d), (0x114c6, 0x114c6), (0x115c1, 0x115d7), (0x11641, 0x11643),
  (0x11660, 0x1166c), (0x116b9, 0x116b9), (0x1173c, 0x1173f), (0x1183b, 0x1183b),
  (0x11944, 0x11946), (0x119e2, 0x119e2), (0x11a3f, 0x11a46), (0x11a9a, 0x11a9c),
  (0x11a9e, 0x11aa2), (0x11b00, 0x11b09), (0x11be1, 0x11be1), (0x11c41, 0x11c45),
  (0x11c70, 0x11c71), (0x11ef7, 0x11ef8), (0x11f43, 0x11f4f), (0x11fd5, 0x11fff),
  (0x12470, 0x12474), (0x12ff1, 0x12ff2), (0x16a6e, 0x16a6f), (0x16af5, 0x16af5),
  (0x16b37, 0x16b3f), (0x16b44, 0x16b45), (0x16d6d, 0x16d6f), (0x16e97, 0x16e9a),
  (0x16fe2, 0x16fe2), (0x1bc9c, 0x1ccef), (0x1ccfa, 0x1d245), (0x1d300, 0x1d356),
  (0x1d6c1, 0x1d6c1), (0x1d6db, 0x1d6db), (0x1d6fb, 0x1d6fb), (0x1d715, 0x1d715),
  (0x1d735, 0x1d735), (0x1d74f, 0x1d74f), (0x1d76f, 0x1d76f), (0x1d789, 0x1d789),
  (0x1d7a9, 0x1d7a9), (0x1d7c3, 0x1d7c3), (0x1d800, 0x1da8b), (0x1e14f, 0x1e14f),
  (0x1e2ff, 0x1e2ff), (0x1e5ff, 0x1e5ff), (0x1e6fe, 0x1e6fe), (0x1e95e, 0x1e95f),
  (0x1ecac, 0x1ecac), (0x1ecb0, 0x1ecb0), (0x1ed2e, 0x1ed2e), (0x1eef0, 0x1f0f5),
  (0x1f10d, 0x1f12f), (0x1f14a, 0x1f14f), (0x1f16a, 0x1f16f), (0x1f18a, 0x1fbef),
  (0x1fbfa, 0x1fbfa)]

/-- A letter or digit of any script. -/
def isAlphanumeric (c : Char) : Bool :=
  if c.toNat < 128 then c.isAlphanum
  else !isHidden c && !signRanges.any fun (lo, hi) => lo ≤ c.toNat && c.toNat ≤ hi

end PreviewSync.Text
