/-!
Contract: characters that differ only in case.

Owns: the classes of simple case folding. Most classes are pairs of a capital and a small letter,
and most pairs stand in rows: a row gives its first pair, the step from pair to pair, and the
number of pairs.
-/

namespace FunctionAtlas.Text.CaseFold

/-- Pairs in a row. -/
structure Row where
  first : Nat
  second : Nat
  step : Nat
  count : Nat

/-- All pairs. -/
def rows : List Row :=
  [ ⟨0x41, 0x61, 1, 10⟩, ⟨0x4c, 0x6c, 2, 8⟩, ⟨0x4d, 0x6d, 2, 3⟩, ⟨0x55, 0x75, 2, 3⟩,
    ⟨0xc0, 0xe0, 2, 16⟩, ⟨0xc1, 0xe1, 2, 2⟩, ⟨0xc7, 0xe7, 2, 8⟩, ⟨0xd9, 0xf9, 2, 3⟩,
    ⟨0xdf, 0x1e9e, 1, 1⟩, ⟨0xff, 0x178, 1, 1⟩, ⟨0x100, 0x101, 2, 24⟩, ⟨0x132, 0x133, 2, 3⟩,
    ⟨0x139, 0x13a, 2, 8⟩, ⟨0x14a, 0x14b, 2, 23⟩, ⟨0x179, 0x17a, 2, 3⟩, ⟨0x180, 0x243, 1, 1⟩,
    ⟨0x181, 0x253, 1, 1⟩, ⟨0x182, 0x183, 2, 2⟩, ⟨0x186, 0x254, 1, 1⟩, ⟨0x187, 0x188, 1, 1⟩,
    ⟨0x189, 0x256, 1, 2⟩, ⟨0x18b, 0x18c, 1, 1⟩, ⟨0x18e, 0x1dd, 1, 1⟩, ⟨0x18f, 0x259, 1, 1⟩,
    ⟨0x190, 0x25b, 1, 1⟩, ⟨0x191, 0x192, 1, 1⟩, ⟨0x193, 0x260, 1, 1⟩, ⟨0x194, 0x263, 1, 1⟩,
    ⟨0x195, 0x1f6, 1, 1⟩, ⟨0x196, 0x269, 1, 1⟩, ⟨0x197, 0x268, 1, 1⟩, ⟨0x198, 0x199, 1, 1⟩,
    ⟨0x19a, 0x23d, 1, 1⟩, ⟨0x19b, 0xa7dc, 1, 1⟩, ⟨0x19c, 0x26f, 1, 1⟩, ⟨0x19d, 0x272, 1, 1⟩,
    ⟨0x19e, 0x220, 1, 1⟩, ⟨0x19f, 0x275, 1, 1⟩, ⟨0x1a0, 0x1a1, 2, 3⟩, ⟨0x1a6, 0x280, 1, 1⟩,
    ⟨0x1a7, 0x1a8, 1, 1⟩, ⟨0x1a9, 0x283, 1, 1⟩, ⟨0x1ac, 0x1ad, 1, 1⟩, ⟨0x1ae, 0x288, 1, 1⟩,
    ⟨0x1af, 0x1b0, 1, 1⟩, ⟨0x1b1, 0x28a, 1, 2⟩, ⟨0x1b3, 0x1b4, 2, 2⟩, ⟨0x1b7, 0x292, 1, 1⟩,
    ⟨0x1b8, 0x1b9, 1, 1⟩, ⟨0x1bc, 0x1bd, 1, 1⟩, ⟨0x1bf, 0x1f7, 1, 1⟩, ⟨0x1cd, 0x1ce, 2, 8⟩,
    ⟨0x1de, 0x1df, 2, 9⟩, ⟨0x1f4, 0x1f5, 1, 1⟩, ⟨0x1f8, 0x1f9, 2, 20⟩, ⟨0x222, 0x223, 2, 9⟩,
    ⟨0x23a, 0x2c65, 1, 1⟩, ⟨0x23b, 0x23c, 1, 1⟩, ⟨0x23e, 0x2c66, 1, 1⟩, ⟨0x23f, 0x2c7e, 1, 2⟩,
    ⟨0x241, 0x242, 1, 1⟩, ⟨0x244, 0x289, 1, 1⟩, ⟨0x245, 0x28c, 1, 1⟩, ⟨0x246, 0x247, 2, 5⟩,
    ⟨0x250, 0x2c6f, 1, 1⟩, ⟨0x251, 0x2c6d, 1, 1⟩, ⟨0x252, 0x2c70, 1, 1⟩, ⟨0x25c, 0xa7ab, 1, 1⟩,
    ⟨0x261, 0xa7ac, 1, 1⟩, ⟨0x264, 0xa7cb, 1, 1⟩, ⟨0x265, 0xa78d, 1, 1⟩, ⟨0x266, 0xa7aa, 1, 1⟩,
    ⟨0x26a, 0xa7ae, 1, 1⟩, ⟨0x26b, 0x2c62, 1, 1⟩, ⟨0x26c, 0xa7ad, 1, 1⟩, ⟨0x271, 0x2c6e, 1, 1⟩,
    ⟨0x27d, 0x2c64, 1, 1⟩, ⟨0x282, 0xa7c5, 1, 1⟩, ⟨0x287, 0xa7b1, 1, 1⟩, ⟨0x29d, 0xa7b2, 1, 1⟩,
    ⟨0x29e, 0xa7b0, 1, 1⟩, ⟨0x370, 0x371, 2, 2⟩, ⟨0x376, 0x377, 1, 1⟩, ⟨0x37b, 0x3fd, 1, 3⟩,
    ⟨0x37f, 0x3f3, 1, 1⟩, ⟨0x386, 0x3ac, 1, 1⟩, ⟨0x388, 0x3ad, 1, 3⟩, ⟨0x38c, 0x3cc, 1, 1⟩,
    ⟨0x38e, 0x3cd, 1, 2⟩, ⟨0x390, 0x1fd3, 1, 1⟩, ⟨0x391, 0x3b1, 2, 2⟩, ⟨0x394, 0x3b4, 2, 2⟩,
    ⟨0x397, 0x3b7, 1, 1⟩, ⟨0x39b, 0x3bb, 2, 3⟩, ⟨0x39e, 0x3be, 1, 1⟩, ⟨0x3a4, 0x3c4, 1, 2⟩,
    ⟨0x3a7, 0x3c7, 1, 2⟩, ⟨0x3aa, 0x3ca, 1, 2⟩, ⟨0x3b0, 0x1fe3, 1, 1⟩, ⟨0x3cf, 0x3d7, 1, 1⟩,
    ⟨0x3d8, 0x3d9, 2, 12⟩, ⟨0x3f2, 0x3f9, 1, 1⟩, ⟨0x3f7, 0x3f8, 1, 1⟩, ⟨0x3fa, 0x3fb, 1, 1⟩,
    ⟨0x400, 0x450, 1, 16⟩, ⟨0x410, 0x430, 1, 2⟩, ⟨0x413, 0x433, 2, 7⟩, ⟨0x416, 0x436, 2, 4⟩,
    ⟨0x420, 0x440, 1, 1⟩, ⟨0x423, 0x443, 1, 7⟩, ⟨0x42b, 0x44b, 1, 5⟩, ⟨0x460, 0x461, 1, 1⟩,
    ⟨0x464, 0x465, 2, 15⟩, ⟨0x48a, 0x48b, 2, 27⟩, ⟨0x4c0, 0x4cf, 1, 1⟩, ⟨0x4c1, 0x4c2, 2, 7⟩,
    ⟨0x4d0, 0x4d1, 2, 48⟩, ⟨0x531, 0x561, 1, 38⟩, ⟨0x10a0, 0x2d00, 1, 38⟩,
    ⟨0x10c7, 0x2d27, 1, 1⟩, ⟨0x10cd, 0x2d2d, 1, 1⟩, ⟨0x10d0, 0x1c90, 1, 43⟩,
    ⟨0x10fd, 0x1cbd, 1, 3⟩, ⟨0x13a0, 0xab70, 1, 80⟩, ⟨0x13f0, 0x13f8, 1, 6⟩,
    ⟨0x1c89, 0x1c8a, 1, 1⟩, ⟨0x1d79, 0xa77d, 1, 1⟩, ⟨0x1d7d, 0x2c63, 1, 1⟩,
    ⟨0x1d8e, 0xa7c6, 1, 1⟩, ⟨0x1e00, 0x1e01, 2, 48⟩, ⟨0x1e62, 0x1e63, 2, 26⟩,
    ⟨0x1ea0, 0x1ea1, 2, 48⟩, ⟨0x1f00, 0x1f08, 1, 8⟩, ⟨0x1f10, 0x1f18, 1, 6⟩,
    ⟨0x1f20, 0x1f28, 1, 8⟩, ⟨0x1f30, 0x1f38, 1, 8⟩, ⟨0x1f40, 0x1f48, 1, 6⟩,
    ⟨0x1f51, 0x1f59, 2, 4⟩, ⟨0x1f60, 0x1f68, 1, 8⟩, ⟨0x1f70, 0x1fba, 1, 2⟩,
    ⟨0x1f72, 0x1fc8, 1, 4⟩, ⟨0x1f76, 0x1fda, 1, 2⟩, ⟨0x1f78, 0x1ff8, 1, 2⟩,
    ⟨0x1f7a, 0x1fea, 1, 2⟩, ⟨0x1f7c, 0x1ffa, 1, 2⟩, ⟨0x1f80, 0x1f88, 1, 8⟩,
    ⟨0x1f90, 0x1f98, 1, 8⟩, ⟨0x1fa0, 0x1fa8, 1, 8⟩, ⟨0x1fb0, 0x1fb8, 1, 2⟩,
    ⟨0x1fb3, 0x1fbc, 1, 1⟩, ⟨0x1fc3, 0x1fcc, 1, 1⟩, ⟨0x1fd0, 0x1fd8, 1, 2⟩,
    ⟨0x1fe0, 0x1fe8, 1, 2⟩, ⟨0x1fe5, 0x1fec, 1, 1⟩, ⟨0x1ff3, 0x1ffc, 1, 1⟩,
    ⟨0x2132, 0x214e, 1, 1⟩, ⟨0x2160, 0x2170, 1, 16⟩, ⟨0x2183, 0x2184, 1, 1⟩,
    ⟨0x24b6, 0x24d0, 1, 26⟩, ⟨0x2c00, 0x2c30, 1, 48⟩, ⟨0x2c60, 0x2c61, 1, 1⟩,
    ⟨0x2c67, 0x2c68, 2, 3⟩, ⟨0x2c72, 0x2c73, 1, 1⟩, ⟨0x2c75, 0x2c76, 1, 1⟩,
    ⟨0x2c80, 0x2c81, 2, 50⟩, ⟨0x2ceb, 0x2cec, 2, 2⟩, ⟨0x2cf2, 0x2cf3, 1, 1⟩,
    ⟨0xa640, 0xa641, 2, 5⟩, ⟨0xa64c, 0xa64d, 2, 17⟩, ⟨0xa680, 0xa681, 2, 14⟩,
    ⟨0xa722, 0xa723, 2, 7⟩, ⟨0xa732, 0xa733, 2, 31⟩, ⟨0xa779, 0xa77a, 2, 2⟩,
    ⟨0xa77e, 0xa77f, 2, 5⟩, ⟨0xa78b, 0xa78c, 1, 1⟩, ⟨0xa790, 0xa791, 2, 2⟩,
    ⟨0xa794, 0xa7c4, 1, 1⟩, ⟨0xa796, 0xa797, 2, 10⟩, ⟨0xa7b3, 0xab53, 1, 1⟩,
    ⟨0xa7b4, 0xa7b5, 2, 8⟩, ⟨0xa7c7, 0xa7c8, 2, 2⟩, ⟨0xa7cc, 0xa7cd, 2, 8⟩,
    ⟨0xa7f5, 0xa7f6, 1, 1⟩, ⟨0xfb05, 0xfb06, 1, 1⟩, ⟨0xff21, 0xff41, 1, 26⟩,
    ⟨0x10400, 0x10428, 1, 40⟩, ⟨0x104b0, 0x104d8, 1, 36⟩, ⟨0x10570, 0x10597, 2, 19⟩,
    ⟨0x10571, 0x10598, 2, 5⟩, ⟨0x1057d, 0x105a4, 2, 7⟩, ⟨0x1058d, 0x105b4, 2, 3⟩,
    ⟨0x10595, 0x105bc, 1, 1⟩, ⟨0x10c80, 0x10cc0, 1, 51⟩, ⟨0x10d50, 0x10d70, 1, 22⟩,
    ⟨0x118a0, 0x118c0, 1, 32⟩, ⟨0x16e40, 0x16e60, 1, 32⟩, ⟨0x16ea0, 0x16ebb, 1, 25⟩,
    ⟨0x1e900, 0x1e922, 1, 34⟩ ]

/-- The classes of more than two characters. -/
def largerClasses : List (List Nat) :=
  [ [0x4b, 0x6b, 0x212a], [0x53, 0x73, 0x17f], [0xb5, 0x39c, 0x3bc], [0xc5, 0xe5, 0x212b],
    [0x1c4, 0x1c5, 0x1c6], [0x1c7, 0x1c8, 0x1c9], [0x1ca, 0x1cb, 0x1cc], [0x1f1, 0x1f2, 0x1f3],
    [0x345, 0x399, 0x3b9, 0x1fbe], [0x392, 0x3b2, 0x3d0], [0x395, 0x3b5, 0x3f5],
    [0x398, 0x3b8, 0x3d1, 0x3f4], [0x39a, 0x3ba, 0x3f0], [0x3a0, 0x3c0, 0x3d6],
    [0x3a1, 0x3c1, 0x3f1], [0x3a3, 0x3c2, 0x3c3], [0x3a6, 0x3c6, 0x3d5],
    [0x3a9, 0x3c9, 0x2126], [0x412, 0x432, 0x1c80], [0x414, 0x434, 0x1c81],
    [0x41e, 0x43e, 0x1c82], [0x421, 0x441, 0x1c83], [0x422, 0x442, 0x1c84, 0x1c85],
    [0x42a, 0x44a, 0x1c86], [0x462, 0x463, 0x1c87], [0x1c88, 0xa64a, 0xa64b],
    [0x1e60, 0x1e61, 0x1e9b] ]

/-- The pairs of a row. -/
def Row.pairs (pairs : Row) : List (List Nat) :=
  (List.range pairs.count).map fun index =>
    [pairs.first + index * pairs.step, pairs.second + index * pairs.step]

/-- The classes of characters that differ only in case and have more than one member. -/
def classes : List (List Nat) := rows.flatMap Row.pairs ++ largerClasses

end FunctionAtlas.Text.CaseFold
