import StreamTable.Unicode.RangeMap

/-! The canonical compositions of two characters, the excluded ones left out.
Hangul syllables are composed by arithmetic and are not listed. -/

namespace StreamTable.Unicode

set_option maxRecDepth 100000 in
/-- For each first character the characters that compose with it, and the results. -/
def compositions : RangeMap (List (Nat × Nat)) :=
  .node (.node (.node (.node (.node (.node (.node (.node (.node .leaf 0x3C 0x3C
  [(0x338, 0x226E)] .leaf) 0x3D 0x3D [(0x338, 0x2260)] (.node .leaf 0x3E 0x3E
  [(0x338, 0x226F)] .leaf)) 0x41 0x41 [(0x300, 0xC0), (0x301, 0xC1), (0x302, 0xC2),
  (0x303, 0xC3), (0x304, 0x100), (0x306, 0x102), (0x307, 0x226), (0x308, 0xC4),
  (0x309, 0x1EA2), (0x30A, 0xC5), (0x30C, 0x1CD), (0x30F, 0x200), (0x311, 0x202),
  (0x323, 0x1EA0), (0x325, 0x1E00), (0x328, 0x104)] (.node (.node .leaf 0x42 0x42
  [(0x307, 0x1E02), (0x323, 0x1E04), (0x331, 0x1E06)] .leaf) 0x43 0x43 [(0x301, 0x106),
  (0x302, 0x108), (0x307, 0x10A), (0x30C, 0x10C), (0x327, 0xC7)] .leaf)) 0x44 0x44
  [(0x307, 0x1E0A), (0x30C, 0x10E), (0x323, 0x1E0C), (0x327, 0x1E10), (0x32D, 0x1E12),
  (0x331, 0x1E0E)] (.node (.node (.node .leaf 0x45 0x45 [(0x300, 0xC8), (0x301, 0xC9),
  (0x302, 0xCA), (0x303, 0x1EBC), (0x304, 0x112), (0x306, 0x114), (0x307, 0x116),
  (0x308, 0xCB), (0x309, 0x1EBA), (0x30C, 0x11A), (0x30F, 0x204), (0x311, 0x206),
  (0x323, 0x1EB8), (0x327, 0x228), (0x328, 0x118), (0x32D, 0x1E18), (0x330, 0x1E1A)] .leaf)
  0x46 0x46 [(0x307, 0x1E1E)] .leaf) 0x47 0x47 [(0x301, 0x1F4), (0x302, 0x11C),
  (0x304, 0x1E20), (0x306, 0x11E), (0x307, 0x120), (0x30C, 0x1E6), (0x327, 0x122)] (.node
  (.node .leaf 0x48 0x48 [(0x302, 0x124), (0x307, 0x1E22), (0x308, 0x1E26), (0x30C, 0x21E),
  (0x323, 0x1E24), (0x327, 0x1E28), (0x32E, 0x1E2A)] .leaf) 0x49 0x49 [(0x300, 0xCC),
  (0x301, 0xCD), (0x302, 0xCE), (0x303, 0x128), (0x304, 0x12A), (0x306, 0x12C),
  (0x307, 0x130), (0x308, 0xCF), (0x309, 0x1EC8), (0x30C, 0x1CF), (0x30F, 0x208),
  (0x311, 0x20A), (0x323, 0x1ECA), (0x328, 0x12E), (0x330, 0x1E2C)] .leaf))) 0x4A 0x4A
  [(0x302, 0x134)] (.node (.node (.node (.node .leaf 0x4B 0x4B [(0x301, 0x1E30),
  (0x30C, 0x1E8), (0x323, 0x1E32), (0x327, 0x136), (0x331, 0x1E34)] .leaf) 0x4C 0x4C
  [(0x301, 0x139), (0x30C, 0x13D), (0x323, 0x1E36), (0x327, 0x13B), (0x32D, 0x1E3C),
  (0x331, 0x1E3A)] .leaf) 0x4D 0x4D [(0x301, 0x1E3E), (0x307, 0x1E40), (0x323, 0x1E42)] (.node
  (.node .leaf 0x4E 0x4E [(0x300, 0x1F8), (0x301, 0x143), (0x303, 0xD1), (0x307, 0x1E44),
  (0x30C, 0x147), (0x323, 0x1E46), (0x327, 0x145), (0x32D, 0x1E4A), (0x331, 0x1E48)] .leaf)
  0x4F 0x4F [(0x300, 0xD2), (0x301, 0xD3), (0x302, 0xD4), (0x303, 0xD5), (0x304, 0x14C),
  (0x306, 0x14E), (0x307, 0x22E), (0x308, 0xD6), (0x309, 0x1ECE), (0x30B, 0x150),
  (0x30C, 0x1D1), (0x30F, 0x20C), (0x311, 0x20E), (0x31B, 0x1A0), (0x323, 0x1ECC),
  (0x328, 0x1EA)] .leaf)) 0x50 0x50 [(0x301, 0x1E54), (0x307, 0x1E56)] (.node (.node (.node
  .leaf 0x52 0x52 [(0x301, 0x154), (0x307, 0x1E58), (0x30C, 0x158), (0x30F, 0x210),
  (0x311, 0x212), (0x323, 0x1E5A), (0x327, 0x156), (0x331, 0x1E5E)] .leaf) 0x53 0x53
  [(0x301, 0x15A), (0x302, 0x15C), (0x307, 0x1E60), (0x30C, 0x160), (0x323, 0x1E62),
  (0x326, 0x218), (0x327, 0x15E)] .leaf) 0x54 0x54 [(0x307, 0x1E6A), (0x30C, 0x164),
  (0x323, 0x1E6C), (0x326, 0x21A), (0x327, 0x162), (0x32D, 0x1E70), (0x331, 0x1E6E)] (.node
  (.node .leaf 0x55 0x55 [(0x300, 0xD9), (0x301, 0xDA), (0x302, 0xDB), (0x303, 0x168),
  (0x304, 0x16A), (0x306, 0x16C), (0x308, 0xDC), (0x309, 0x1EE6), (0x30A, 0x16E),
  (0x30B, 0x170), (0x30C, 0x1D3), (0x30F, 0x214), (0x311, 0x216), (0x31B, 0x1AF),
  (0x323, 0x1EE4), (0x324, 0x1E72), (0x328, 0x172), (0x32D, 0x1E76), (0x330, 0x1E74)] .leaf)
  0x56 0x56 [(0x303, 0x1E7C), (0x323, 0x1E7E)] .leaf)))) 0x57 0x57 [(0x300, 0x1E80),
  (0x301, 0x1E82), (0x302, 0x174), (0x307, 0x1E86), (0x308, 0x1E84), (0x323, 0x1E88)] (.node
  (.node (.node (.node (.node .leaf 0x58 0x58 [(0x307, 0x1E8A), (0x308, 0x1E8C)] .leaf) 0x59
  0x59 [(0x300, 0x1EF2), (0x301, 0xDD), (0x302, 0x176), (0x303, 0x1EF8), (0x304, 0x232),
  (0x307, 0x1E8E), (0x308, 0x178), (0x309, 0x1EF6), (0x323, 0x1EF4)] .leaf) 0x5A 0x5A
  [(0x301, 0x179), (0x302, 0x1E90), (0x307, 0x17B), (0x30C, 0x17D), (0x323, 0x1E92),
  (0x331, 0x1E94)] (.node (.node .leaf 0x61 0x61 [(0x300, 0xE0), (0x301, 0xE1), (0x302, 0xE2),
  (0x303, 0xE3), (0x304, 0x101), (0x306, 0x103), (0x307, 0x227), (0x308, 0xE4),
  (0x309, 0x1EA3), (0x30A, 0xE5), (0x30C, 0x1CE), (0x30F, 0x201), (0x311, 0x203),
  (0x323, 0x1EA1), (0x325, 0x1E01), (0x328, 0x105)] .leaf) 0x62 0x62 [(0x307, 0x1E03),
  (0x323, 0x1E05), (0x331, 0x1E07)] .leaf)) 0x63 0x63 [(0x301, 0x107), (0x302, 0x109),
  (0x307, 0x10B), (0x30C, 0x10D), (0x327, 0xE7)] (.node (.node (.node .leaf 0x64 0x64
  [(0x307, 0x1E0B), (0x30C, 0x10F), (0x323, 0x1E0D), (0x327, 0x1E11), (0x32D, 0x1E13),
  (0x331, 0x1E0F)] .leaf) 0x65 0x65 [(0x300, 0xE8), (0x301, 0xE9), (0x302, 0xEA),
  (0x303, 0x1EBD), (0x304, 0x113), (0x306, 0x115), (0x307, 0x117), (0x308, 0xEB),
  (0x309, 0x1EBB), (0x30C, 0x11B), (0x30F, 0x205), (0x311, 0x207), (0x323, 0x1EB9),
  (0x327, 0x229), (0x328, 0x119), (0x32D, 0x1E19), (0x330, 0x1E1B)] .leaf) 0x66 0x66
  [(0x307, 0x1E1F)] (.node (.node .leaf 0x67 0x67 [(0x301, 0x1F5), (0x302, 0x11D),
  (0x304, 0x1E21), (0x306, 0x11F), (0x307, 0x121), (0x30C, 0x1E7), (0x327, 0x123)] .leaf) 0x68
  0x68 [(0x302, 0x125), (0x307, 0x1E23), (0x308, 0x1E27), (0x30C, 0x21F), (0x323, 0x1E25),
  (0x327, 0x1E29), (0x32E, 0x1E2B), (0x331, 0x1E96)] .leaf))) 0x69 0x69 [(0x300, 0xEC),
  (0x301, 0xED), (0x302, 0xEE), (0x303, 0x129), (0x304, 0x12B), (0x306, 0x12D), (0x308, 0xEF),
  (0x309, 0x1EC9), (0x30C, 0x1D0), (0x30F, 0x209), (0x311, 0x20B), (0x323, 0x1ECB),
  (0x328, 0x12F), (0x330, 0x1E2D)] (.node (.node (.node (.node .leaf 0x6A 0x6A
  [(0x302, 0x135), (0x30C, 0x1F0)] .leaf) 0x6B 0x6B [(0x301, 0x1E31), (0x30C, 0x1E9),
  (0x323, 0x1E33), (0x327, 0x137), (0x331, 0x1E35)] .leaf) 0x6C 0x6C [(0x301, 0x13A),
  (0x30C, 0x13E), (0x323, 0x1E37), (0x327, 0x13C), (0x32D, 0x1E3D), (0x331, 0x1E3B)] (.node
  (.node .leaf 0x6D 0x6D [(0x301, 0x1E3F), (0x307, 0x1E41), (0x323, 0x1E43)] .leaf) 0x6E 0x6E
  [(0x300, 0x1F9), (0x301, 0x144), (0x303, 0xF1), (0x307, 0x1E45), (0x30C, 0x148),
  (0x323, 0x1E47), (0x327, 0x146), (0x32D, 0x1E4B), (0x331, 0x1E49)] .leaf)) 0x6F 0x6F
  [(0x300, 0xF2), (0x301, 0xF3), (0x302, 0xF4), (0x303, 0xF5), (0x304, 0x14D), (0x306, 0x14F),
  (0x307, 0x22F), (0x308, 0xF6), (0x309, 0x1ECF), (0x30B, 0x151), (0x30C, 0x1D2),
  (0x30F, 0x20D), (0x311, 0x20F), (0x31B, 0x1A1), (0x323, 0x1ECD), (0x328, 0x1EB)] (.node
  (.node (.node .leaf 0x70 0x70 [(0x301, 0x1E55), (0x307, 0x1E57)] .leaf) 0x72 0x72
  [(0x301, 0x155), (0x307, 0x1E59), (0x30C, 0x159), (0x30F, 0x211), (0x311, 0x213),
  (0x323, 0x1E5B), (0x327, 0x157), (0x331, 0x1E5F)] .leaf) 0x73 0x73 [(0x301, 0x15B),
  (0x302, 0x15D), (0x307, 0x1E61), (0x30C, 0x161), (0x323, 0x1E63), (0x326, 0x219),
  (0x327, 0x15F)] (.node (.node .leaf 0x74 0x74 [(0x307, 0x1E6B), (0x308, 0x1E97),
  (0x30C, 0x165), (0x323, 0x1E6D), (0x326, 0x21B), (0x327, 0x163), (0x32D, 0x1E71),
  (0x331, 0x1E6F)] .leaf) 0x75 0x75 [(0x300, 0xF9), (0x301, 0xFA), (0x302, 0xFB),
  (0x303, 0x169), (0x304, 0x16B), (0x306, 0x16D), (0x308, 0xFC), (0x309, 0x1EE7),
  (0x30A, 0x16F), (0x30B, 0x171), (0x30C, 0x1D4), (0x30F, 0x215), (0x311, 0x217),
  (0x31B, 0x1B0), (0x323, 0x1EE5), (0x324, 0x1E73), (0x328, 0x173), (0x32D, 0x1E77),
  (0x330, 0x1E75)] .leaf))))) 0x76 0x76 [(0x303, 0x1E7D), (0x323, 0x1E7F)] (.node (.node
  (.node (.node (.node (.node .leaf 0x77 0x77 [(0x300, 0x1E81), (0x301, 0x1E83),
  (0x302, 0x175), (0x307, 0x1E87), (0x308, 0x1E85), (0x30A, 0x1E98), (0x323, 0x1E89)] .leaf)
  0x78 0x78 [(0x307, 0x1E8B), (0x308, 0x1E8D)] (.node .leaf 0x79 0x79 [(0x300, 0x1EF3),
  (0x301, 0xFD), (0x302, 0x177), (0x303, 0x1EF9), (0x304, 0x233), (0x307, 0x1E8F),
  (0x308, 0xFF), (0x309, 0x1EF7), (0x30A, 0x1E99), (0x323, 0x1EF5)] .leaf)) 0x7A 0x7A
  [(0x301, 0x17A), (0x302, 0x1E91), (0x307, 0x17C), (0x30C, 0x17E), (0x323, 0x1E93),
  (0x331, 0x1E95)] (.node (.node .leaf 0xA8 0xA8 [(0x300, 0x1FED), (0x301, 0x385),
  (0x342, 0x1FC1)] .leaf) 0xC2 0xC2 [(0x300, 0x1EA6), (0x301, 0x1EA4), (0x303, 0x1EAA),
  (0x309, 0x1EA8)] .leaf)) 0xC4 0xC4 [(0x304, 0x1DE)] (.node (.node (.node .leaf 0xC5 0xC5
  [(0x301, 0x1FA)] .leaf) 0xC6 0xC6 [(0x301, 0x1FC), (0x304, 0x1E2)] .leaf) 0xC7 0xC7
  [(0x301, 0x1E08)] (.node (.node .leaf 0xCA 0xCA [(0x300, 0x1EC0), (0x301, 0x1EBE),
  (0x303, 0x1EC4), (0x309, 0x1EC2)] .leaf) 0xCF 0xCF [(0x301, 0x1E2E)] .leaf))) 0xD4 0xD4
  [(0x300, 0x1ED2), (0x301, 0x1ED0), (0x303, 0x1ED6), (0x309, 0x1ED4)] (.node (.node (.node
  (.node .leaf 0xD5 0xD5 [(0x301, 0x1E4C), (0x304, 0x22C), (0x308, 0x1E4E)] .leaf) 0xD6 0xD6
  [(0x304, 0x22A)] .leaf) 0xD8 0xD8 [(0x301, 0x1FE)] (.node (.node .leaf 0xDC 0xDC
  [(0x300, 0x1DB), (0x301, 0x1D7), (0x304, 0x1D5), (0x30C, 0x1D9)] .leaf) 0xE2 0xE2
  [(0x300, 0x1EA7), (0x301, 0x1EA5), (0x303, 0x1EAB), (0x309, 0x1EA9)] .leaf)) 0xE4 0xE4
  [(0x304, 0x1DF)] (.node (.node (.node .leaf 0xE5 0xE5 [(0x301, 0x1FB)] .leaf) 0xE6 0xE6
  [(0x301, 0x1FD), (0x304, 0x1E3)] .leaf) 0xE7 0xE7 [(0x301, 0x1E09)] (.node (.node .leaf 0xEA
  0xEA [(0x300, 0x1EC1), (0x301, 0x1EBF), (0x303, 0x1EC5), (0x309, 0x1EC3)] .leaf) 0xEF 0xEF
  [(0x301, 0x1E2F)] .leaf)))) 0xF4 0xF4 [(0x300, 0x1ED3), (0x301, 0x1ED1), (0x303, 0x1ED7),
  (0x309, 0x1ED5)] (.node (.node (.node (.node (.node .leaf 0xF5 0xF5 [(0x301, 0x1E4D),
  (0x304, 0x22D), (0x308, 0x1E4F)] .leaf) 0xF6 0xF6 [(0x304, 0x22B)] .leaf) 0xF8 0xF8
  [(0x301, 0x1FF)] (.node (.node .leaf 0xFC 0xFC [(0x300, 0x1DC), (0x301, 0x1D8),
  (0x304, 0x1D6), (0x30C, 0x1DA)] .leaf) 0x102 0x102 [(0x300, 0x1EB0), (0x301, 0x1EAE),
  (0x303, 0x1EB4), (0x309, 0x1EB2)] .leaf)) 0x103 0x103 [(0x300, 0x1EB1), (0x301, 0x1EAF),
  (0x303, 0x1EB5), (0x309, 0x1EB3)] (.node (.node (.node .leaf 0x112 0x112 [(0x300, 0x1E14),
  (0x301, 0x1E16)] .leaf) 0x113 0x113 [(0x300, 0x1E15), (0x301, 0x1E17)] .leaf) 0x14C 0x14C
  [(0x300, 0x1E50), (0x301, 0x1E52)] (.node (.node .leaf 0x14D 0x14D [(0x300, 0x1E51),
  (0x301, 0x1E53)] .leaf) 0x15A 0x15A [(0x307, 0x1E64)] .leaf))) 0x15B 0x15B [(0x307, 0x1E65)]
  (.node (.node (.node (.node .leaf 0x160 0x160 [(0x307, 0x1E66)] .leaf) 0x161 0x161
  [(0x307, 0x1E67)] .leaf) 0x168 0x168 [(0x301, 0x1E78)] (.node (.node .leaf 0x169 0x169
  [(0x301, 0x1E79)] .leaf) 0x16A 0x16A [(0x308, 0x1E7A)] .leaf)) 0x16B 0x16B [(0x308, 0x1E7B)]
  (.node (.node (.node .leaf 0x17F 0x17F [(0x307, 0x1E9B)] .leaf) 0x1A0 0x1A0
  [(0x300, 0x1EDC), (0x301, 0x1EDA), (0x303, 0x1EE0), (0x309, 0x1EDE), (0x323, 0x1EE2)] .leaf)
  0x1A1 0x1A1 [(0x300, 0x1EDD), (0x301, 0x1EDB), (0x303, 0x1EE1), (0x309, 0x1EDF),
  (0x323, 0x1EE3)] (.node (.node .leaf 0x1AF 0x1AF [(0x300, 0x1EEA), (0x301, 0x1EE8),
  (0x303, 0x1EEE), (0x309, 0x1EEC), (0x323, 0x1EF0)] .leaf) 0x1B0 0x1B0 [(0x300, 0x1EEB),
  (0x301, 0x1EE9), (0x303, 0x1EEF), (0x309, 0x1EED), (0x323, 0x1EF1)] .leaf)))))) 0x1B7 0x1B7
  [(0x30C, 0x1EE)] (.node (.node (.node (.node (.node (.node (.node .leaf 0x1EA 0x1EA
  [(0x304, 0x1EC)] .leaf) 0x1EB 0x1EB [(0x304, 0x1ED)] (.node .leaf 0x226 0x226
  [(0x304, 0x1E0)] .leaf)) 0x227 0x227 [(0x304, 0x1E1)] (.node (.node .leaf 0x228 0x228
  [(0x306, 0x1E1C)] .leaf) 0x229 0x229 [(0x306, 0x1E1D)] .leaf)) 0x22E 0x22E [(0x304, 0x230)]
  (.node (.node (.node .leaf 0x22F 0x22F [(0x304, 0x231)] .leaf) 0x292 0x292 [(0x30C, 0x1EF)]
  .leaf) 0x391 0x391 [(0x300, 0x1FBA), (0x301, 0x386), (0x304, 0x1FB9), (0x306, 0x1FB8),
  (0x313, 0x1F08), (0x314, 0x1F09), (0x345, 0x1FBC)] (.node (.node .leaf 0x395 0x395
  [(0x300, 0x1FC8), (0x301, 0x388), (0x313, 0x1F18), (0x314, 0x1F19)] .leaf) 0x397 0x397
  [(0x300, 0x1FCA), (0x301, 0x389), (0x313, 0x1F28), (0x314, 0x1F29), (0x345, 0x1FCC)] .leaf)))
  0x399 0x399 [(0x300, 0x1FDA), (0x301, 0x38A), (0x304, 0x1FD9), (0x306, 0x1FD8),
  (0x308, 0x3AA), (0x313, 0x1F38), (0x314, 0x1F39)] (.node (.node (.node (.node .leaf 0x39F
  0x39F [(0x300, 0x1FF8), (0x301, 0x38C), (0x313, 0x1F48), (0x314, 0x1F49)] .leaf) 0x3A1 0x3A1
  [(0x314, 0x1FEC)] .leaf) 0x3A5 0x3A5 [(0x300, 0x1FEA), (0x301, 0x38E), (0x304, 0x1FE9),
  (0x306, 0x1FE8), (0x308, 0x3AB), (0x314, 0x1F59)] (.node (.node .leaf 0x3A9 0x3A9
  [(0x300, 0x1FFA), (0x301, 0x38F), (0x313, 0x1F68), (0x314, 0x1F69), (0x345, 0x1FFC)] .leaf)
  0x3AC 0x3AC [(0x345, 0x1FB4)] .leaf)) 0x3AE 0x3AE [(0x345, 0x1FC4)] (.node (.node (.node
  .leaf 0x3B1 0x3B1 [(0x300, 0x1F70), (0x301, 0x3AC), (0x304, 0x1FB1), (0x306, 0x1FB0),
  (0x313, 0x1F00), (0x314, 0x1F01), (0x342, 0x1FB6), (0x345, 0x1FB3)] .leaf) 0x3B5 0x3B5
  [(0x300, 0x1F72), (0x301, 0x3AD), (0x313, 0x1F10), (0x314, 0x1F11)] .leaf) 0x3B7 0x3B7
  [(0x300, 0x1F74), (0x301, 0x3AE), (0x313, 0x1F20), (0x314, 0x1F21), (0x342, 0x1FC6),
  (0x345, 0x1FC3)] (.node (.node .leaf 0x3B9 0x3B9 [(0x300, 0x1F76), (0x301, 0x3AF),
  (0x304, 0x1FD1), (0x306, 0x1FD0), (0x308, 0x3CA), (0x313, 0x1F30), (0x314, 0x1F31),
  (0x342, 0x1FD6)] .leaf) 0x3BF 0x3BF [(0x300, 0x1F78), (0x301, 0x3CC), (0x313, 0x1F40),
  (0x314, 0x1F41)] .leaf)))) 0x3C1 0x3C1 [(0x313, 0x1FE4), (0x314, 0x1FE5)] (.node (.node
  (.node (.node (.node .leaf 0x3C5 0x3C5 [(0x300, 0x1F7A), (0x301, 0x3CD), (0x304, 0x1FE1),
  (0x306, 0x1FE0), (0x308, 0x3CB), (0x313, 0x1F50), (0x314, 0x1F51), (0x342, 0x1FE6)] .leaf)
  0x3C9 0x3C9 [(0x300, 0x1F7C), (0x301, 0x3CE), (0x313, 0x1F60), (0x314, 0x1F61),
  (0x342, 0x1FF6), (0x345, 0x1FF3)] .leaf) 0x3CA 0x3CA [(0x300, 0x1FD2), (0x301, 0x390),
  (0x342, 0x1FD7)] (.node (.node .leaf 0x3CB 0x3CB [(0x300, 0x1FE2), (0x301, 0x3B0),
  (0x342, 0x1FE7)] .leaf) 0x3CE 0x3CE [(0x345, 0x1FF4)] .leaf)) 0x3D2 0x3D2 [(0x301, 0x3D3),
  (0x308, 0x3D4)] (.node (.node (.node .leaf 0x406 0x406 [(0x308, 0x407)] .leaf) 0x410 0x410
  [(0x306, 0x4D0), (0x308, 0x4D2)] .leaf) 0x413 0x413 [(0x301, 0x403)] (.node (.node .leaf
  0x415 0x415 [(0x300, 0x400), (0x306, 0x4D6), (0x308, 0x401)] .leaf) 0x416 0x416
  [(0x306, 0x4C1), (0x308, 0x4DC)] .leaf))) 0x417 0x417 [(0x308, 0x4DE)] (.node (.node (.node
  (.node .leaf 0x418 0x418 [(0x300, 0x40D), (0x304, 0x4E2), (0x306, 0x419), (0x308, 0x4E4)]
  .leaf) 0x41A 0x41A [(0x301, 0x40C)] .leaf) 0x41E 0x41E [(0x308, 0x4E6)] (.node (.node .leaf
  0x423 0x423 [(0x304, 0x4EE), (0x306, 0x40E), (0x308, 0x4F0), (0x30B, 0x4F2)] .leaf) 0x427
  0x427 [(0x308, 0x4F4)] .leaf)) 0x42B 0x42B [(0x308, 0x4F8)] (.node (.node (.node .leaf 0x42D
  0x42D [(0x308, 0x4EC)] .leaf) 0x430 0x430 [(0x306, 0x4D1), (0x308, 0x4D3)] .leaf) 0x433
  0x433 [(0x301, 0x453)] (.node (.node .leaf 0x435 0x435 [(0x300, 0x450), (0x306, 0x4D7),
  (0x308, 0x451)] .leaf) 0x436 0x436 [(0x306, 0x4C2), (0x308, 0x4DD)] .leaf))))) 0x437 0x437
  [(0x308, 0x4DF)] (.node (.node (.node (.node (.node (.node .leaf 0x438 0x438
  [(0x300, 0x45D), (0x304, 0x4E3), (0x306, 0x439), (0x308, 0x4E5)] .leaf) 0x43A 0x43A
  [(0x301, 0x45C)] (.node .leaf 0x43E 0x43E [(0x308, 0x4E7)] .leaf)) 0x443 0x443
  [(0x304, 0x4EF), (0x306, 0x45E), (0x308, 0x4F1), (0x30B, 0x4F3)] (.node (.node .leaf 0x447
  0x447 [(0x308, 0x4F5)] .leaf) 0x44B 0x44B [(0x308, 0x4F9)] .leaf)) 0x44D 0x44D
  [(0x308, 0x4ED)] (.node (.node (.node .leaf 0x456 0x456 [(0x308, 0x457)] .leaf) 0x474 0x474
  [(0x30F, 0x476)] .leaf) 0x475 0x475 [(0x30F, 0x477)] (.node (.node .leaf 0x4D8 0x4D8
  [(0x308, 0x4DA)] .leaf) 0x4D9 0x4D9 [(0x308, 0x4DB)] .leaf))) 0x4E8 0x4E8 [(0x308, 0x4EA)]
  (.node (.node (.node (.node .leaf 0x4E9 0x4E9 [(0x308, 0x4EB)] .leaf) 0x627 0x627
  [(0x653, 0x622), (0x654, 0x623), (0x655, 0x625)] .leaf) 0x648 0x648 [(0x654, 0x624)] (.node
  (.node .leaf 0x64A 0x64A [(0x654, 0x626)] .leaf) 0x6C1 0x6C1 [(0x654, 0x6C2)] .leaf)) 0x6D2
  0x6D2 [(0x654, 0x6D3)] (.node (.node (.node .leaf 0x6D5 0x6D5 [(0x654, 0x6C0)] .leaf) 0x928
  0x928 [(0x93C, 0x929)] .leaf) 0x930 0x930 [(0x93C, 0x931)] (.node (.node .leaf 0x933 0x933
  [(0x93C, 0x934)] .leaf) 0x9C7 0x9C7 [(0x9BE, 0x9CB), (0x9D7, 0x9CC)] .leaf)))) 0xB47 0xB47
  [(0xB3E, 0xB4B), (0xB56, 0xB48), (0xB57, 0xB4C)] (.node (.node (.node (.node (.node .leaf
  0xB92 0xB92 [(0xBD7, 0xB94)] .leaf) 0xBC6 0xBC6 [(0xBBE, 0xBCA), (0xBD7, 0xBCC)] .leaf)
  0xBC7 0xBC7 [(0xBBE, 0xBCB)] (.node (.node .leaf 0xC46 0xC46 [(0xC56, 0xC48)] .leaf) 0xCBF
  0xCBF [(0xCD5, 0xCC0)] .leaf)) 0xCC6 0xCC6 [(0xCC2, 0xCCA), (0xCD5, 0xCC7), (0xCD6, 0xCC8)]
  (.node (.node (.node .leaf 0xCCA 0xCCA [(0xCD5, 0xCCB)] .leaf) 0xD46 0xD46 [(0xD3E, 0xD4A),
  (0xD57, 0xD4C)] .leaf) 0xD47 0xD47 [(0xD3E, 0xD4B)] (.node (.node .leaf 0xDD9 0xDD9
  [(0xDCA, 0xDDA), (0xDCF, 0xDDC), (0xDDF, 0xDDE)] .leaf) 0xDDC 0xDDC [(0xDCA, 0xDDD)] .leaf)))
  0x1025 0x1025 [(0x102E, 0x1026)] (.node (.node (.node (.node .leaf 0x1B05 0x1B05
  [(0x1B35, 0x1B06)] .leaf) 0x1B07 0x1B07 [(0x1B35, 0x1B08)] .leaf) 0x1B09 0x1B09
  [(0x1B35, 0x1B0A)] (.node (.node .leaf 0x1B0B 0x1B0B [(0x1B35, 0x1B0C)] .leaf) 0x1B0D 0x1B0D
  [(0x1B35, 0x1B0E)] .leaf)) 0x1B11 0x1B11 [(0x1B35, 0x1B12)] (.node (.node (.node .leaf
  0x1B3A 0x1B3A [(0x1B35, 0x1B3B)] .leaf) 0x1B3C 0x1B3C [(0x1B35, 0x1B3D)] .leaf) 0x1B3E
  0x1B3E [(0x1B35, 0x1B40)] (.node (.node .leaf 0x1B3F 0x1B3F [(0x1B35, 0x1B41)] .leaf) 0x1B42
  0x1B42 [(0x1B35, 0x1B43)] .leaf))))))) 0x1E36 0x1E36 [(0x304, 0x1E38)] (.node (.node (.node
  (.node (.node (.node (.node (.node .leaf 0x1E37 0x1E37 [(0x304, 0x1E39)] .leaf) 0x1E5A
  0x1E5A [(0x304, 0x1E5C)] (.node .leaf 0x1E5B 0x1E5B [(0x304, 0x1E5D)] .leaf)) 0x1E62 0x1E62
  [(0x307, 0x1E68)] (.node (.node .leaf 0x1E63 0x1E63 [(0x307, 0x1E69)] .leaf) 0x1EA0 0x1EA0
  [(0x302, 0x1EAC), (0x306, 0x1EB6)] .leaf)) 0x1EA1 0x1EA1 [(0x302, 0x1EAD), (0x306, 0x1EB7)]
  (.node (.node (.node .leaf 0x1EB8 0x1EB8 [(0x302, 0x1EC6)] .leaf) 0x1EB9 0x1EB9
  [(0x302, 0x1EC7)] .leaf) 0x1ECC 0x1ECC [(0x302, 0x1ED8)] (.node (.node .leaf 0x1ECD 0x1ECD
  [(0x302, 0x1ED9)] .leaf) 0x1F00 0x1F00 [(0x300, 0x1F02), (0x301, 0x1F04), (0x342, 0x1F06),
  (0x345, 0x1F80)] .leaf))) 0x1F01 0x1F01 [(0x300, 0x1F03), (0x301, 0x1F05), (0x342, 0x1F07),
  (0x345, 0x1F81)] (.node (.node (.node (.node .leaf 0x1F02 0x1F02 [(0x345, 0x1F82)] .leaf)
  0x1F03 0x1F03 [(0x345, 0x1F83)] .leaf) 0x1F04 0x1F04 [(0x345, 0x1F84)] (.node (.node .leaf
  0x1F05 0x1F05 [(0x345, 0x1F85)] .leaf) 0x1F06 0x1F06 [(0x345, 0x1F86)] .leaf)) 0x1F07 0x1F07
  [(0x345, 0x1F87)] (.node (.node (.node .leaf 0x1F08 0x1F08 [(0x300, 0x1F0A),
  (0x301, 0x1F0C), (0x342, 0x1F0E), (0x345, 0x1F88)] .leaf) 0x1F09 0x1F09 [(0x300, 0x1F0B),
  (0x301, 0x1F0D), (0x342, 0x1F0F), (0x345, 0x1F89)] .leaf) 0x1F0A 0x1F0A [(0x345, 0x1F8A)]
  (.node (.node .leaf 0x1F0B 0x1F0B [(0x345, 0x1F8B)] .leaf) 0x1F0C 0x1F0C [(0x345, 0x1F8C)]
  .leaf)))) 0x1F0D 0x1F0D [(0x345, 0x1F8D)] (.node (.node (.node (.node (.node .leaf 0x1F0E
  0x1F0E [(0x345, 0x1F8E)] .leaf) 0x1F0F 0x1F0F [(0x345, 0x1F8F)] .leaf) 0x1F10 0x1F10
  [(0x300, 0x1F12), (0x301, 0x1F14)] (.node (.node .leaf 0x1F11 0x1F11 [(0x300, 0x1F13),
  (0x301, 0x1F15)] .leaf) 0x1F18 0x1F18 [(0x300, 0x1F1A), (0x301, 0x1F1C)] .leaf)) 0x1F19
  0x1F19 [(0x300, 0x1F1B), (0x301, 0x1F1D)] (.node (.node (.node .leaf 0x1F20 0x1F20
  [(0x300, 0x1F22), (0x301, 0x1F24), (0x342, 0x1F26), (0x345, 0x1F90)] .leaf) 0x1F21 0x1F21
  [(0x300, 0x1F23), (0x301, 0x1F25), (0x342, 0x1F27), (0x345, 0x1F91)] .leaf) 0x1F22 0x1F22
  [(0x345, 0x1F92)] (.node (.node .leaf 0x1F23 0x1F23 [(0x345, 0x1F93)] .leaf) 0x1F24 0x1F24
  [(0x345, 0x1F94)] .leaf))) 0x1F25 0x1F25 [(0x345, 0x1F95)] (.node (.node (.node (.node .leaf
  0x1F26 0x1F26 [(0x345, 0x1F96)] .leaf) 0x1F27 0x1F27 [(0x345, 0x1F97)] .leaf) 0x1F28 0x1F28
  [(0x300, 0x1F2A), (0x301, 0x1F2C), (0x342, 0x1F2E), (0x345, 0x1F98)] (.node (.node .leaf
  0x1F29 0x1F29 [(0x300, 0x1F2B), (0x301, 0x1F2D), (0x342, 0x1F2F), (0x345, 0x1F99)] .leaf)
  0x1F2A 0x1F2A [(0x345, 0x1F9A)] .leaf)) 0x1F2B 0x1F2B [(0x345, 0x1F9B)] (.node (.node (.node
  .leaf 0x1F2C 0x1F2C [(0x345, 0x1F9C)] .leaf) 0x1F2D 0x1F2D [(0x345, 0x1F9D)] .leaf) 0x1F2E
  0x1F2E [(0x345, 0x1F9E)] (.node (.node .leaf 0x1F2F 0x1F2F [(0x345, 0x1F9F)] .leaf) 0x1F30
  0x1F30 [(0x300, 0x1F32), (0x301, 0x1F34), (0x342, 0x1F36)] .leaf))))) 0x1F31 0x1F31
  [(0x300, 0x1F33), (0x301, 0x1F35), (0x342, 0x1F37)] (.node (.node (.node (.node (.node
  (.node .leaf 0x1F38 0x1F38 [(0x300, 0x1F3A), (0x301, 0x1F3C), (0x342, 0x1F3E)] .leaf) 0x1F39
  0x1F39 [(0x300, 0x1F3B), (0x301, 0x1F3D), (0x342, 0x1F3F)] (.node .leaf 0x1F40 0x1F40
  [(0x300, 0x1F42), (0x301, 0x1F44)] .leaf)) 0x1F41 0x1F41 [(0x300, 0x1F43), (0x301, 0x1F45)]
  (.node (.node .leaf 0x1F48 0x1F48 [(0x300, 0x1F4A), (0x301, 0x1F4C)] .leaf) 0x1F49 0x1F49
  [(0x300, 0x1F4B), (0x301, 0x1F4D)] .leaf)) 0x1F50 0x1F50 [(0x300, 0x1F52), (0x301, 0x1F54),
  (0x342, 0x1F56)] (.node (.node (.node .leaf 0x1F51 0x1F51 [(0x300, 0x1F53), (0x301, 0x1F55),
  (0x342, 0x1F57)] .leaf) 0x1F59 0x1F59 [(0x300, 0x1F5B), (0x301, 0x1F5D), (0x342, 0x1F5F)]
  .leaf) 0x1F60 0x1F60 [(0x300, 0x1F62), (0x301, 0x1F64), (0x342, 0x1F66), (0x345, 0x1FA0)]
  (.node (.node .leaf 0x1F61 0x1F61 [(0x300, 0x1F63), (0x301, 0x1F65), (0x342, 0x1F67),
  (0x345, 0x1FA1)] .leaf) 0x1F62 0x1F62 [(0x345, 0x1FA2)] .leaf))) 0x1F63 0x1F63
  [(0x345, 0x1FA3)] (.node (.node (.node (.node .leaf 0x1F64 0x1F64 [(0x345, 0x1FA4)] .leaf)
  0x1F65 0x1F65 [(0x345, 0x1FA5)] .leaf) 0x1F66 0x1F66 [(0x345, 0x1FA6)] (.node (.node .leaf
  0x1F67 0x1F67 [(0x345, 0x1FA7)] .leaf) 0x1F68 0x1F68 [(0x300, 0x1F6A), (0x301, 0x1F6C),
  (0x342, 0x1F6E), (0x345, 0x1FA8)] .leaf)) 0x1F69 0x1F69 [(0x300, 0x1F6B), (0x301, 0x1F6D),
  (0x342, 0x1F6F), (0x345, 0x1FA9)] (.node (.node (.node .leaf 0x1F6A 0x1F6A [(0x345, 0x1FAA)]
  .leaf) 0x1F6B 0x1F6B [(0x345, 0x1FAB)] .leaf) 0x1F6C 0x1F6C [(0x345, 0x1FAC)] (.node (.node
  .leaf 0x1F6D 0x1F6D [(0x345, 0x1FAD)] .leaf) 0x1F6E 0x1F6E [(0x345, 0x1FAE)] .leaf))))
  0x1F6F 0x1F6F [(0x345, 0x1FAF)] (.node (.node (.node (.node (.node .leaf 0x1F70 0x1F70
  [(0x345, 0x1FB2)] .leaf) 0x1F74 0x1F74 [(0x345, 0x1FC2)] .leaf) 0x1F7C 0x1F7C
  [(0x345, 0x1FF2)] (.node (.node .leaf 0x1FB6 0x1FB6 [(0x345, 0x1FB7)] .leaf) 0x1FBF 0x1FBF
  [(0x300, 0x1FCD), (0x301, 0x1FCE), (0x342, 0x1FCF)] .leaf)) 0x1FC6 0x1FC6 [(0x345, 0x1FC7)]
  (.node (.node (.node .leaf 0x1FF6 0x1FF6 [(0x345, 0x1FF7)] .leaf) 0x1FFE 0x1FFE
  [(0x300, 0x1FDD), (0x301, 0x1FDE), (0x342, 0x1FDF)] .leaf) 0x2190 0x2190 [(0x338, 0x219A)]
  (.node (.node .leaf 0x2192 0x2192 [(0x338, 0x219B)] .leaf) 0x2194 0x2194 [(0x338, 0x21AE)]
  .leaf))) 0x21D0 0x21D0 [(0x338, 0x21CD)] (.node (.node (.node (.node .leaf 0x21D2 0x21D2
  [(0x338, 0x21CF)] .leaf) 0x21D4 0x21D4 [(0x338, 0x21CE)] .leaf) 0x2203 0x2203
  [(0x338, 0x2204)] (.node (.node .leaf 0x2208 0x2208 [(0x338, 0x2209)] .leaf) 0x220B 0x220B
  [(0x338, 0x220C)] .leaf)) 0x2223 0x2223 [(0x338, 0x2224)] (.node (.node (.node .leaf 0x2225
  0x2225 [(0x338, 0x2226)] .leaf) 0x223C 0x223C [(0x338, 0x2241)] .leaf) 0x2243 0x2243
  [(0x338, 0x2244)] (.node (.node .leaf 0x2245 0x2245 [(0x338, 0x2247)] .leaf) 0x2248 0x2248
  [(0x338, 0x2249)] .leaf)))))) 0x224D 0x224D [(0x338, 0x226D)] (.node (.node (.node (.node
  (.node (.node (.node .leaf 0x2261 0x2261 [(0x338, 0x2262)] .leaf) 0x2264 0x2264
  [(0x338, 0x2270)] (.node .leaf 0x2265 0x2265 [(0x338, 0x2271)] .leaf)) 0x2272 0x2272
  [(0x338, 0x2274)] (.node (.node .leaf 0x2273 0x2273 [(0x338, 0x2275)] .leaf) 0x2276 0x2276
  [(0x338, 0x2278)] .leaf)) 0x2277 0x2277 [(0x338, 0x2279)] (.node (.node (.node .leaf 0x227A
  0x227A [(0x338, 0x2280)] .leaf) 0x227B 0x227B [(0x338, 0x2281)] .leaf) 0x227C 0x227C
  [(0x338, 0x22E0)] (.node (.node .leaf 0x227D 0x227D [(0x338, 0x22E1)] .leaf) 0x2282 0x2282
  [(0x338, 0x2284)] .leaf))) 0x2283 0x2283 [(0x338, 0x2285)] (.node (.node (.node (.node .leaf
  0x2286 0x2286 [(0x338, 0x2288)] .leaf) 0x2287 0x2287 [(0x338, 0x2289)] .leaf) 0x2291 0x2291
  [(0x338, 0x22E2)] (.node (.node .leaf 0x2292 0x2292 [(0x338, 0x22E3)] .leaf) 0x22A2 0x22A2
  [(0x338, 0x22AC)] .leaf)) 0x22A8 0x22A8 [(0x338, 0x22AD)] (.node (.node (.node .leaf 0x22A9
  0x22A9 [(0x338, 0x22AE)] .leaf) 0x22AB 0x22AB [(0x338, 0x22AF)] .leaf) 0x22B2 0x22B2
  [(0x338, 0x22EA)] (.node (.node .leaf 0x22B3 0x22B3 [(0x338, 0x22EB)] .leaf) 0x22B4 0x22B4
  [(0x338, 0x22EC)] .leaf)))) 0x22B5 0x22B5 [(0x338, 0x22ED)] (.node (.node (.node (.node
  (.node .leaf 0x3046 0x3046 [(0x3099, 0x3094)] .leaf) 0x304B 0x304B [(0x3099, 0x304C)] .leaf)
  0x304D 0x304D [(0x3099, 0x304E)] (.node (.node .leaf 0x304F 0x304F [(0x3099, 0x3050)] .leaf)
  0x3051 0x3051 [(0x3099, 0x3052)] .leaf)) 0x3053 0x3053 [(0x3099, 0x3054)] (.node (.node
  (.node .leaf 0x3055 0x3055 [(0x3099, 0x3056)] .leaf) 0x3057 0x3057 [(0x3099, 0x3058)] .leaf)
  0x3059 0x3059 [(0x3099, 0x305A)] (.node (.node .leaf 0x305B 0x305B [(0x3099, 0x305C)] .leaf)
  0x305D 0x305D [(0x3099, 0x305E)] .leaf))) 0x305F 0x305F [(0x3099, 0x3060)] (.node (.node
  (.node (.node .leaf 0x3061 0x3061 [(0x3099, 0x3062)] .leaf) 0x3064 0x3064 [(0x3099, 0x3065)]
  .leaf) 0x3066 0x3066 [(0x3099, 0x3067)] (.node (.node .leaf 0x3068 0x3068 [(0x3099, 0x3069)]
  .leaf) 0x306F 0x306F [(0x3099, 0x3070), (0x309A, 0x3071)] .leaf)) 0x3072 0x3072
  [(0x3099, 0x3073), (0x309A, 0x3074)] (.node (.node (.node .leaf 0x3075 0x3075
  [(0x3099, 0x3076), (0x309A, 0x3077)] .leaf) 0x3078 0x3078 [(0x3099, 0x3079),
  (0x309A, 0x307A)] .leaf) 0x307B 0x307B [(0x3099, 0x307C), (0x309A, 0x307D)] (.node (.node
  .leaf 0x309D 0x309D [(0x3099, 0x309E)] .leaf) 0x30A6 0x30A6 [(0x3099, 0x30F4)] .leaf)))))
  0x30AB 0x30AB [(0x3099, 0x30AC)] (.node (.node (.node (.node (.node (.node .leaf 0x30AD
  0x30AD [(0x3099, 0x30AE)] .leaf) 0x30AF 0x30AF [(0x3099, 0x30B0)] (.node .leaf 0x30B1 0x30B1
  [(0x3099, 0x30B2)] .leaf)) 0x30B3 0x30B3 [(0x3099, 0x30B4)] (.node (.node .leaf 0x30B5
  0x30B5 [(0x3099, 0x30B6)] .leaf) 0x30B7 0x30B7 [(0x3099, 0x30B8)] .leaf)) 0x30B9 0x30B9
  [(0x3099, 0x30BA)] (.node (.node (.node .leaf 0x30BB 0x30BB [(0x3099, 0x30BC)] .leaf) 0x30BD
  0x30BD [(0x3099, 0x30BE)] .leaf) 0x30BF 0x30BF [(0x3099, 0x30C0)] (.node (.node .leaf 0x30C1
  0x30C1 [(0x3099, 0x30C2)] .leaf) 0x30C4 0x30C4 [(0x3099, 0x30C5)] .leaf))) 0x30C6 0x30C6
  [(0x3099, 0x30C7)] (.node (.node (.node (.node .leaf 0x30C8 0x30C8 [(0x3099, 0x30C9)] .leaf)
  0x30CF 0x30CF [(0x3099, 0x30D0), (0x309A, 0x30D1)] .leaf) 0x30D2 0x30D2 [(0x3099, 0x30D3),
  (0x309A, 0x30D4)] (.node (.node .leaf 0x30D5 0x30D5 [(0x3099, 0x30D6), (0x309A, 0x30D7)]
  .leaf) 0x30D8 0x30D8 [(0x3099, 0x30D9), (0x309A, 0x30DA)] .leaf)) 0x30DB 0x30DB
  [(0x3099, 0x30DC), (0x309A, 0x30DD)] (.node (.node (.node .leaf 0x30EF 0x30EF
  [(0x3099, 0x30F7)] .leaf) 0x30F0 0x30F0 [(0x3099, 0x30F8)] .leaf) 0x30F1 0x30F1
  [(0x3099, 0x30F9)] (.node (.node .leaf 0x30F2 0x30F2 [(0x3099, 0x30FA)] .leaf) 0x30FD 0x30FD
  [(0x3099, 0x30FE)] .leaf)))) 0x105D2 0x105D2 [(0x307, 0x105C9)] (.node (.node (.node (.node
  (.node .leaf 0x105DA 0x105DA [(0x307, 0x105E4)] .leaf) 0x11099 0x11099 [(0x110BA, 0x1109A)]
  .leaf) 0x1109B 0x1109B [(0x110BA, 0x1109C)] (.node (.node .leaf 0x110A5 0x110A5
  [(0x110BA, 0x110AB)] .leaf) 0x11131 0x11131 [(0x11127, 0x1112E)] .leaf)) 0x11132 0x11132
  [(0x11127, 0x1112F)] (.node (.node (.node .leaf 0x11347 0x11347 [(0x1133E, 0x1134B),
  (0x11357, 0x1134C)] .leaf) 0x11382 0x11382 [(0x113C9, 0x11383)] .leaf) 0x11384 0x11384
  [(0x113BB, 0x11385)] (.node (.node .leaf 0x1138B 0x1138B [(0x113C2, 0x1138E)] .leaf) 0x11390
  0x11390 [(0x113C9, 0x11391)] .leaf))) 0x113C2 0x113C2 [(0x113B8, 0x113C7),
  (0x113C2, 0x113C5), (0x113C9, 0x113C8)] (.node (.node (.node (.node .leaf 0x114B9 0x114B9
  [(0x114B0, 0x114BC), (0x114BA, 0x114BB), (0x114BD, 0x114BE)] .leaf) 0x115B8 0x115B8
  [(0x115AF, 0x115BA)] .leaf) 0x115B9 0x115B9 [(0x115AF, 0x115BB)] (.node (.node .leaf 0x11935
  0x11935 [(0x11930, 0x11938)] .leaf) 0x1611E 0x1611E [(0x1611E, 0x16121), (0x1611F, 0x16123),
  (0x16120, 0x16125), (0x16129, 0x16122)] .leaf)) 0x16121 0x16121 [(0x1611F, 0x16126),
  (0x16120, 0x16128)] (.node (.node (.node .leaf 0x16122 0x16122 [(0x1611F, 0x16127)] .leaf)
  0x16129 0x16129 [(0x1611F, 0x16124)] .leaf) 0x16D63 0x16D63 [(0x16D67, 0x16D69)] (.node
  (.node .leaf 0x16D67 0x16D67 [(0x16D67, 0x16D68)] .leaf) 0x16D69 0x16D69
  [(0x16D67, 0x16D6A)] .leaf)))))))

end StreamTable.Unicode
