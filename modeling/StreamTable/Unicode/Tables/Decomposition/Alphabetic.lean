import StreamTable.Unicode.Image

/-! The full compatibility decompositions of the alphabets below U+1D00. -/

namespace StreamTable.Unicode

set_option maxRecDepth 100000 in
def alphabeticDecompositions : RangeMap Image :=
  .node (.node (.node (.node (.node (.node (.node (.node (.node .leaf 0xA0 0xA0 (.sequence
  [0x20]) .leaf) 0xA8 0xA8 (.sequence [0x20, 0x308]) (.node .leaf 0xAA 0xAA (.sequence [0x61])
  .leaf)) 0xAF 0xAF (.sequence [0x20, 0x304]) (.node (.node .leaf 0xB2 0xB3 (.consecutive 0x32)
  .leaf) 0xB4 0xB4 (.sequence [0x20, 0x301]) (.node .leaf 0xB5 0xB5 (.sequence [0x3BC]) .leaf)))
  0xB8 0xB8 (.sequence [0x20, 0x327]) (.node (.node (.node .leaf 0xB9 0xB9 (.sequence [0x31])
  .leaf) 0xBA 0xBA (.sequence [0x6F]) (.node .leaf 0xBC 0xBC (.sequence [0x31, 0x2044, 0x34])
  .leaf)) 0xBD 0xBD (.sequence [0x31, 0x2044, 0x32]) (.node (.node .leaf 0xBE 0xBE (.sequence
  [0x33, 0x2044, 0x34]) .leaf) 0xC0 0xC0 (.sequence [0x41, 0x300]) (.node .leaf 0xC1 0xC1
  (.sequence [0x41, 0x301]) .leaf)))) 0xC2 0xC2 (.sequence [0x41, 0x302]) (.node (.node (.node
  (.node .leaf 0xC3 0xC3 (.sequence [0x41, 0x303]) .leaf) 0xC4 0xC4 (.sequence [0x41, 0x308])
  (.node .leaf 0xC5 0xC5 (.sequence [0x41, 0x30A]) .leaf)) 0xC7 0xC7 (.sequence [0x43, 0x327])
  (.node (.node .leaf 0xC8 0xC8 (.sequence [0x45, 0x300]) .leaf) 0xC9 0xC9 (.sequence
  [0x45, 0x301]) (.node .leaf 0xCA 0xCA (.sequence [0x45, 0x302]) .leaf))) 0xCB 0xCB
  (.sequence [0x45, 0x308]) (.node (.node (.node .leaf 0xCC 0xCC (.sequence [0x49, 0x300])
  .leaf) 0xCD 0xCD (.sequence [0x49, 0x301]) (.node .leaf 0xCE 0xCE (.sequence [0x49, 0x302])
  .leaf)) 0xCF 0xCF (.sequence [0x49, 0x308]) (.node (.node .leaf 0xD1 0xD1 (.sequence
  [0x4E, 0x303]) .leaf) 0xD2 0xD2 (.sequence [0x4F, 0x300]) .leaf)))) 0xD3 0xD3 (.sequence
  [0x4F, 0x301]) (.node (.node (.node (.node (.node .leaf 0xD4 0xD4 (.sequence [0x4F, 0x302])
  .leaf) 0xD5 0xD5 (.sequence [0x4F, 0x303]) (.node .leaf 0xD6 0xD6 (.sequence [0x4F, 0x308])
  .leaf)) 0xD9 0xD9 (.sequence [0x55, 0x300]) (.node (.node .leaf 0xDA 0xDA (.sequence
  [0x55, 0x301]) .leaf) 0xDB 0xDB (.sequence [0x55, 0x302]) (.node .leaf 0xDC 0xDC (.sequence
  [0x55, 0x308]) .leaf))) 0xDD 0xDD (.sequence [0x59, 0x301]) (.node (.node (.node .leaf 0xE0
  0xE0 (.sequence [0x61, 0x300]) .leaf) 0xE1 0xE1 (.sequence [0x61, 0x301]) (.node .leaf 0xE2
  0xE2 (.sequence [0x61, 0x302]) .leaf)) 0xE3 0xE3 (.sequence [0x61, 0x303]) (.node (.node
  .leaf 0xE4 0xE4 (.sequence [0x61, 0x308]) .leaf) 0xE5 0xE5 (.sequence [0x61, 0x30A]) (.node
  .leaf 0xE7 0xE7 (.sequence [0x63, 0x327]) .leaf)))) 0xE8 0xE8 (.sequence [0x65, 0x300])
  (.node (.node (.node (.node .leaf 0xE9 0xE9 (.sequence [0x65, 0x301]) .leaf) 0xEA 0xEA
  (.sequence [0x65, 0x302]) (.node .leaf 0xEB 0xEB (.sequence [0x65, 0x308]) .leaf)) 0xEC 0xEC
  (.sequence [0x69, 0x300]) (.node (.node .leaf 0xED 0xED (.sequence [0x69, 0x301]) .leaf)
  0xEE 0xEE (.sequence [0x69, 0x302]) (.node .leaf 0xEF 0xEF (.sequence [0x69, 0x308]) .leaf)))
  0xF1 0xF1 (.sequence [0x6E, 0x303]) (.node (.node (.node .leaf 0xF2 0xF2 (.sequence
  [0x6F, 0x300]) .leaf) 0xF3 0xF3 (.sequence [0x6F, 0x301]) (.node .leaf 0xF4 0xF4 (.sequence
  [0x6F, 0x302]) .leaf)) 0xF5 0xF5 (.sequence [0x6F, 0x303]) (.node (.node .leaf 0xF6 0xF6
  (.sequence [0x6F, 0x308]) .leaf) 0xF9 0xF9 (.sequence [0x75, 0x300]) .leaf))))) 0xFA 0xFA
  (.sequence [0x75, 0x301]) (.node (.node (.node (.node (.node (.node .leaf 0xFB 0xFB
  (.sequence [0x75, 0x302]) .leaf) 0xFC 0xFC (.sequence [0x75, 0x308]) (.node .leaf 0xFD 0xFD
  (.sequence [0x79, 0x301]) .leaf)) 0xFF 0xFF (.sequence [0x79, 0x308]) (.node (.node .leaf
  0x100 0x100 (.sequence [0x41, 0x304]) .leaf) 0x101 0x101 (.sequence [0x61, 0x304]) (.node
  .leaf 0x102 0x102 (.sequence [0x41, 0x306]) .leaf))) 0x103 0x103 (.sequence [0x61, 0x306])
  (.node (.node (.node .leaf 0x104 0x104 (.sequence [0x41, 0x328]) .leaf) 0x105 0x105
  (.sequence [0x61, 0x328]) (.node .leaf 0x106 0x106 (.sequence [0x43, 0x301]) .leaf)) 0x107
  0x107 (.sequence [0x63, 0x301]) (.node (.node .leaf 0x108 0x108 (.sequence [0x43, 0x302])
  .leaf) 0x109 0x109 (.sequence [0x63, 0x302]) (.node .leaf 0x10A 0x10A (.sequence
  [0x43, 0x307]) .leaf)))) 0x10B 0x10B (.sequence [0x63, 0x307]) (.node (.node (.node (.node
  .leaf 0x10C 0x10C (.sequence [0x43, 0x30C]) .leaf) 0x10D 0x10D (.sequence [0x63, 0x30C])
  (.node .leaf 0x10E 0x10E (.sequence [0x44, 0x30C]) .leaf)) 0x10F 0x10F (.sequence
  [0x64, 0x30C]) (.node (.node .leaf 0x112 0x112 (.sequence [0x45, 0x304]) .leaf) 0x113 0x113
  (.sequence [0x65, 0x304]) (.node .leaf 0x114 0x114 (.sequence [0x45, 0x306]) .leaf))) 0x115
  0x115 (.sequence [0x65, 0x306]) (.node (.node (.node .leaf 0x116 0x116 (.sequence
  [0x45, 0x307]) .leaf) 0x117 0x117 (.sequence [0x65, 0x307]) (.node .leaf 0x118 0x118
  (.sequence [0x45, 0x328]) .leaf)) 0x119 0x119 (.sequence [0x65, 0x328]) (.node (.node .leaf
  0x11A 0x11A (.sequence [0x45, 0x30C]) .leaf) 0x11B 0x11B (.sequence [0x65, 0x30C]) .leaf))))
  0x11C 0x11C (.sequence [0x47, 0x302]) (.node (.node (.node (.node (.node .leaf 0x11D 0x11D
  (.sequence [0x67, 0x302]) .leaf) 0x11E 0x11E (.sequence [0x47, 0x306]) (.node .leaf 0x11F
  0x11F (.sequence [0x67, 0x306]) .leaf)) 0x120 0x120 (.sequence [0x47, 0x307]) (.node (.node
  .leaf 0x121 0x121 (.sequence [0x67, 0x307]) .leaf) 0x122 0x122 (.sequence [0x47, 0x327])
  (.node .leaf 0x123 0x123 (.sequence [0x67, 0x327]) .leaf))) 0x124 0x124 (.sequence
  [0x48, 0x302]) (.node (.node (.node .leaf 0x125 0x125 (.sequence [0x68, 0x302]) .leaf) 0x128
  0x128 (.sequence [0x49, 0x303]) (.node .leaf 0x129 0x129 (.sequence [0x69, 0x303]) .leaf))
  0x12A 0x12A (.sequence [0x49, 0x304]) (.node (.node .leaf 0x12B 0x12B (.sequence
  [0x69, 0x304]) .leaf) 0x12C 0x12C (.sequence [0x49, 0x306]) .leaf))) 0x12D 0x12D (.sequence
  [0x69, 0x306]) (.node (.node (.node (.node .leaf 0x12E 0x12E (.sequence [0x49, 0x328]) .leaf)
  0x12F 0x12F (.sequence [0x69, 0x328]) (.node .leaf 0x130 0x130 (.sequence [0x49, 0x307])
  .leaf)) 0x132 0x132 (.sequence [0x49, 0x4A]) (.node (.node .leaf 0x133 0x133 (.sequence
  [0x69, 0x6A]) .leaf) 0x134 0x134 (.sequence [0x4A, 0x302]) (.node .leaf 0x135 0x135
  (.sequence [0x6A, 0x302]) .leaf))) 0x136 0x136 (.sequence [0x4B, 0x327]) (.node (.node
  (.node .leaf 0x137 0x137 (.sequence [0x6B, 0x327]) .leaf) 0x139 0x139 (.sequence
  [0x4C, 0x301]) (.node .leaf 0x13A 0x13A (.sequence [0x6C, 0x301]) .leaf)) 0x13B 0x13B
  (.sequence [0x4C, 0x327]) (.node (.node .leaf 0x13C 0x13C (.sequence [0x6C, 0x327]) .leaf)
  0x13D 0x13D (.sequence [0x4C, 0x30C]) .leaf)))))) 0x13E 0x13E (.sequence [0x6C, 0x30C])
  (.node (.node (.node (.node (.node (.node (.node .leaf 0x13F 0x13F (.sequence [0x4C, 0xB7])
  .leaf) 0x140 0x140 (.sequence [0x6C, 0xB7]) (.node .leaf 0x143 0x143 (.sequence
  [0x4E, 0x301]) .leaf)) 0x144 0x144 (.sequence [0x6E, 0x301]) (.node (.node .leaf 0x145 0x145
  (.sequence [0x4E, 0x327]) .leaf) 0x146 0x146 (.sequence [0x6E, 0x327]) (.node .leaf 0x147
  0x147 (.sequence [0x4E, 0x30C]) .leaf))) 0x148 0x148 (.sequence [0x6E, 0x30C]) (.node (.node
  (.node .leaf 0x149 0x149 (.sequence [0x2BC, 0x6E]) .leaf) 0x14C 0x14C (.sequence
  [0x4F, 0x304]) (.node .leaf 0x14D 0x14D (.sequence [0x6F, 0x304]) .leaf)) 0x14E 0x14E
  (.sequence [0x4F, 0x306]) (.node (.node .leaf 0x14F 0x14F (.sequence [0x6F, 0x306]) .leaf)
  0x150 0x150 (.sequence [0x4F, 0x30B]) (.node .leaf 0x151 0x151 (.sequence [0x6F, 0x30B])
  .leaf)))) 0x154 0x154 (.sequence [0x52, 0x301]) (.node (.node (.node (.node .leaf 0x155
  0x155 (.sequence [0x72, 0x301]) .leaf) 0x156 0x156 (.sequence [0x52, 0x327]) (.node .leaf
  0x157 0x157 (.sequence [0x72, 0x327]) .leaf)) 0x158 0x158 (.sequence [0x52, 0x30C]) (.node
  (.node .leaf 0x159 0x159 (.sequence [0x72, 0x30C]) .leaf) 0x15A 0x15A (.sequence
  [0x53, 0x301]) (.node .leaf 0x15B 0x15B (.sequence [0x73, 0x301]) .leaf))) 0x15C 0x15C
  (.sequence [0x53, 0x302]) (.node (.node (.node .leaf 0x15D 0x15D (.sequence [0x73, 0x302])
  .leaf) 0x15E 0x15E (.sequence [0x53, 0x327]) (.node .leaf 0x15F 0x15F (.sequence
  [0x73, 0x327]) .leaf)) 0x160 0x160 (.sequence [0x53, 0x30C]) (.node (.node .leaf 0x161 0x161
  (.sequence [0x73, 0x30C]) .leaf) 0x162 0x162 (.sequence [0x54, 0x327]) .leaf)))) 0x163 0x163
  (.sequence [0x74, 0x327]) (.node (.node (.node (.node (.node .leaf 0x164 0x164 (.sequence
  [0x54, 0x30C]) .leaf) 0x165 0x165 (.sequence [0x74, 0x30C]) (.node .leaf 0x168 0x168
  (.sequence [0x55, 0x303]) .leaf)) 0x169 0x169 (.sequence [0x75, 0x303]) (.node (.node .leaf
  0x16A 0x16A (.sequence [0x55, 0x304]) .leaf) 0x16B 0x16B (.sequence [0x75, 0x304]) (.node
  .leaf 0x16C 0x16C (.sequence [0x55, 0x306]) .leaf))) 0x16D 0x16D (.sequence [0x75, 0x306])
  (.node (.node (.node .leaf 0x16E 0x16E (.sequence [0x55, 0x30A]) .leaf) 0x16F 0x16F
  (.sequence [0x75, 0x30A]) (.node .leaf 0x170 0x170 (.sequence [0x55, 0x30B]) .leaf)) 0x171
  0x171 (.sequence [0x75, 0x30B]) (.node (.node .leaf 0x172 0x172 (.sequence [0x55, 0x328])
  .leaf) 0x173 0x173 (.sequence [0x75, 0x328]) (.node .leaf 0x174 0x174 (.sequence
  [0x57, 0x302]) .leaf)))) 0x175 0x175 (.sequence [0x77, 0x302]) (.node (.node (.node (.node
  .leaf 0x176 0x176 (.sequence [0x59, 0x302]) .leaf) 0x177 0x177 (.sequence [0x79, 0x302])
  (.node .leaf 0x178 0x178 (.sequence [0x59, 0x308]) .leaf)) 0x179 0x179 (.sequence
  [0x5A, 0x301]) (.node (.node .leaf 0x17A 0x17A (.sequence [0x7A, 0x301]) .leaf) 0x17B 0x17B
  (.sequence [0x5A, 0x307]) (.node .leaf 0x17C 0x17C (.sequence [0x7A, 0x307]) .leaf))) 0x17D
  0x17D (.sequence [0x5A, 0x30C]) (.node (.node (.node .leaf 0x17E 0x17E (.sequence
  [0x7A, 0x30C]) .leaf) 0x17F 0x17F (.sequence [0x73]) (.node .leaf 0x1A0 0x1A0 (.sequence
  [0x4F, 0x31B]) .leaf)) 0x1A1 0x1A1 (.sequence [0x6F, 0x31B]) (.node (.node .leaf 0x1AF 0x1AF
  (.sequence [0x55, 0x31B]) .leaf) 0x1B0 0x1B0 (.sequence [0x75, 0x31B]) .leaf))))) 0x1C4
  0x1C4 (.sequence [0x44, 0x5A, 0x30C]) (.node (.node (.node (.node (.node (.node .leaf 0x1C5
  0x1C5 (.sequence [0x44, 0x7A, 0x30C]) .leaf) 0x1C6 0x1C6 (.sequence [0x64, 0x7A, 0x30C])
  (.node .leaf 0x1C7 0x1C7 (.sequence [0x4C, 0x4A]) .leaf)) 0x1C8 0x1C8 (.sequence
  [0x4C, 0x6A]) (.node (.node .leaf 0x1C9 0x1C9 (.sequence [0x6C, 0x6A]) .leaf) 0x1CA 0x1CA
  (.sequence [0x4E, 0x4A]) (.node .leaf 0x1CB 0x1CB (.sequence [0x4E, 0x6A]) .leaf))) 0x1CC
  0x1CC (.sequence [0x6E, 0x6A]) (.node (.node (.node .leaf 0x1CD 0x1CD (.sequence
  [0x41, 0x30C]) .leaf) 0x1CE 0x1CE (.sequence [0x61, 0x30C]) (.node .leaf 0x1CF 0x1CF
  (.sequence [0x49, 0x30C]) .leaf)) 0x1D0 0x1D0 (.sequence [0x69, 0x30C]) (.node (.node .leaf
  0x1D1 0x1D1 (.sequence [0x4F, 0x30C]) .leaf) 0x1D2 0x1D2 (.sequence [0x6F, 0x30C]) (.node
  .leaf 0x1D3 0x1D3 (.sequence [0x55, 0x30C]) .leaf)))) 0x1D4 0x1D4 (.sequence [0x75, 0x30C])
  (.node (.node (.node (.node .leaf 0x1D5 0x1D5 (.sequence [0x55, 0x308, 0x304]) .leaf) 0x1D6
  0x1D6 (.sequence [0x75, 0x308, 0x304]) (.node .leaf 0x1D7 0x1D7 (.sequence
  [0x55, 0x308, 0x301]) .leaf)) 0x1D8 0x1D8 (.sequence [0x75, 0x308, 0x301]) (.node (.node
  .leaf 0x1D9 0x1D9 (.sequence [0x55, 0x308, 0x30C]) .leaf) 0x1DA 0x1DA (.sequence
  [0x75, 0x308, 0x30C]) (.node .leaf 0x1DB 0x1DB (.sequence [0x55, 0x308, 0x300]) .leaf)))
  0x1DC 0x1DC (.sequence [0x75, 0x308, 0x300]) (.node (.node (.node .leaf 0x1DE 0x1DE
  (.sequence [0x41, 0x308, 0x304]) .leaf) 0x1DF 0x1DF (.sequence [0x61, 0x308, 0x304]) (.node
  .leaf 0x1E0 0x1E0 (.sequence [0x41, 0x307, 0x304]) .leaf)) 0x1E1 0x1E1 (.sequence
  [0x61, 0x307, 0x304]) (.node (.node .leaf 0x1E2 0x1E2 (.sequence [0xC6, 0x304]) .leaf) 0x1E3
  0x1E3 (.sequence [0xE6, 0x304]) .leaf)))) 0x1E6 0x1E6 (.sequence [0x47, 0x30C]) (.node
  (.node (.node (.node (.node .leaf 0x1E7 0x1E7 (.sequence [0x67, 0x30C]) .leaf) 0x1E8 0x1E8
  (.sequence [0x4B, 0x30C]) (.node .leaf 0x1E9 0x1E9 (.sequence [0x6B, 0x30C]) .leaf)) 0x1EA
  0x1EA (.sequence [0x4F, 0x328]) (.node (.node .leaf 0x1EB 0x1EB (.sequence [0x6F, 0x328])
  .leaf) 0x1EC 0x1EC (.sequence [0x4F, 0x328, 0x304]) (.node .leaf 0x1ED 0x1ED (.sequence
  [0x6F, 0x328, 0x304]) .leaf))) 0x1EE 0x1EE (.sequence [0x1B7, 0x30C]) (.node (.node (.node
  .leaf 0x1EF 0x1EF (.sequence [0x292, 0x30C]) .leaf) 0x1F0 0x1F0 (.sequence [0x6A, 0x30C])
  (.node .leaf 0x1F1 0x1F1 (.sequence [0x44, 0x5A]) .leaf)) 0x1F2 0x1F2 (.sequence
  [0x44, 0x7A]) (.node (.node .leaf 0x1F3 0x1F3 (.sequence [0x64, 0x7A]) .leaf) 0x1F4 0x1F4
  (.sequence [0x47, 0x301]) .leaf))) 0x1F5 0x1F5 (.sequence [0x67, 0x301]) (.node (.node
  (.node (.node .leaf 0x1F8 0x1F8 (.sequence [0x4E, 0x300]) .leaf) 0x1F9 0x1F9 (.sequence
  [0x6E, 0x300]) (.node .leaf 0x1FA 0x1FA (.sequence [0x41, 0x30A, 0x301]) .leaf)) 0x1FB 0x1FB
  (.sequence [0x61, 0x30A, 0x301]) (.node (.node .leaf 0x1FC 0x1FC (.sequence [0xC6, 0x301])
  .leaf) 0x1FD 0x1FD (.sequence [0xE6, 0x301]) (.node .leaf 0x1FE 0x1FE (.sequence
  [0xD8, 0x301]) .leaf))) 0x1FF 0x1FF (.sequence [0xF8, 0x301]) (.node (.node (.node .leaf
  0x200 0x200 (.sequence [0x41, 0x30F]) .leaf) 0x201 0x201 (.sequence [0x61, 0x30F]) (.node
  .leaf 0x202 0x202 (.sequence [0x41, 0x311]) .leaf)) 0x203 0x203 (.sequence [0x61, 0x311])
  (.node (.node .leaf 0x204 0x204 (.sequence [0x45, 0x30F]) .leaf) 0x205 0x205 (.sequence
  [0x65, 0x30F]) .leaf))))))) 0x206 0x206 (.sequence [0x45, 0x311]) (.node (.node (.node
  (.node (.node (.node (.node (.node .leaf 0x207 0x207 (.sequence [0x65, 0x311]) .leaf) 0x208
  0x208 (.sequence [0x49, 0x30F]) (.node .leaf 0x209 0x209 (.sequence [0x69, 0x30F]) .leaf))
  0x20A 0x20A (.sequence [0x49, 0x311]) (.node (.node .leaf 0x20B 0x20B (.sequence
  [0x69, 0x311]) .leaf) 0x20C 0x20C (.sequence [0x4F, 0x30F]) (.node .leaf 0x20D 0x20D
  (.sequence [0x6F, 0x30F]) .leaf))) 0x20E 0x20E (.sequence [0x4F, 0x311]) (.node (.node
  (.node .leaf 0x20F 0x20F (.sequence [0x6F, 0x311]) .leaf) 0x210 0x210 (.sequence
  [0x52, 0x30F]) (.node .leaf 0x211 0x211 (.sequence [0x72, 0x30F]) .leaf)) 0x212 0x212
  (.sequence [0x52, 0x311]) (.node (.node .leaf 0x213 0x213 (.sequence [0x72, 0x311]) .leaf)
  0x214 0x214 (.sequence [0x55, 0x30F]) (.node .leaf 0x215 0x215 (.sequence [0x75, 0x30F])
  .leaf)))) 0x216 0x216 (.sequence [0x55, 0x311]) (.node (.node (.node (.node .leaf 0x217
  0x217 (.sequence [0x75, 0x311]) .leaf) 0x218 0x218 (.sequence [0x53, 0x326]) (.node .leaf
  0x219 0x219 (.sequence [0x73, 0x326]) .leaf)) 0x21A 0x21A (.sequence [0x54, 0x326]) (.node
  (.node .leaf 0x21B 0x21B (.sequence [0x74, 0x326]) .leaf) 0x21E 0x21E (.sequence
  [0x48, 0x30C]) (.node .leaf 0x21F 0x21F (.sequence [0x68, 0x30C]) .leaf))) 0x226 0x226
  (.sequence [0x41, 0x307]) (.node (.node (.node .leaf 0x227 0x227 (.sequence [0x61, 0x307])
  .leaf) 0x228 0x228 (.sequence [0x45, 0x327]) (.node .leaf 0x229 0x229 (.sequence
  [0x65, 0x327]) .leaf)) 0x22A 0x22A (.sequence [0x4F, 0x308, 0x304]) (.node (.node .leaf
  0x22B 0x22B (.sequence [0x6F, 0x308, 0x304]) .leaf) 0x22C 0x22C (.sequence
  [0x4F, 0x303, 0x304]) .leaf)))) 0x22D 0x22D (.sequence [0x6F, 0x303, 0x304]) (.node (.node
  (.node (.node (.node .leaf 0x22E 0x22E (.sequence [0x4F, 0x307]) .leaf) 0x22F 0x22F
  (.sequence [0x6F, 0x307]) (.node .leaf 0x230 0x230 (.sequence [0x4F, 0x307, 0x304]) .leaf))
  0x231 0x231 (.sequence [0x6F, 0x307, 0x304]) (.node (.node .leaf 0x232 0x232 (.sequence
  [0x59, 0x304]) .leaf) 0x233 0x233 (.sequence [0x79, 0x304]) (.node .leaf 0x2B0 0x2B0
  (.sequence [0x68]) .leaf))) 0x2B1 0x2B1 (.sequence [0x266]) (.node (.node (.node .leaf 0x2B2
  0x2B2 (.sequence [0x6A]) .leaf) 0x2B3 0x2B3 (.sequence [0x72]) (.node .leaf 0x2B4 0x2B4
  (.sequence [0x279]) .leaf)) 0x2B5 0x2B5 (.sequence [0x27B]) (.node (.node .leaf 0x2B6 0x2B6
  (.sequence [0x281]) .leaf) 0x2B7 0x2B7 (.sequence [0x77]) (.node .leaf 0x2B8 0x2B8
  (.sequence [0x79]) .leaf)))) 0x2D8 0x2D8 (.sequence [0x20, 0x306]) (.node (.node (.node
  (.node .leaf 0x2D9 0x2D9 (.sequence [0x20, 0x307]) .leaf) 0x2DA 0x2DA (.sequence
  [0x20, 0x30A]) (.node .leaf 0x2DB 0x2DB (.sequence [0x20, 0x328]) .leaf)) 0x2DC 0x2DC
  (.sequence [0x20, 0x303]) (.node (.node .leaf 0x2DD 0x2DD (.sequence [0x20, 0x30B]) .leaf)
  0x2E0 0x2E0 (.sequence [0x263]) (.node .leaf 0x2E1 0x2E1 (.sequence [0x6C]) .leaf))) 0x2E2
  0x2E2 (.sequence [0x73]) (.node (.node (.node .leaf 0x2E3 0x2E3 (.sequence [0x78]) .leaf)
  0x2E4 0x2E4 (.sequence [0x295]) (.node .leaf 0x340 0x341 (.consecutive 0x300) .leaf)) 0x343
  0x343 (.sequence [0x313]) (.node (.node .leaf 0x344 0x344 (.sequence [0x308, 0x301]) .leaf)
  0x374 0x374 (.sequence [0x2B9]) .leaf))))) 0x37A 0x37A (.sequence [0x20, 0x345]) (.node
  (.node (.node (.node (.node (.node .leaf 0x37E 0x37E (.sequence [0x3B]) .leaf) 0x384 0x384
  (.sequence [0x20, 0x301]) (.node .leaf 0x385 0x385 (.sequence [0x20, 0x308, 0x301]) .leaf))
  0x386 0x386 (.sequence [0x391, 0x301]) (.node (.node .leaf 0x387 0x387 (.sequence [0xB7])
  .leaf) 0x388 0x388 (.sequence [0x395, 0x301]) (.node .leaf 0x389 0x389 (.sequence
  [0x397, 0x301]) .leaf))) 0x38A 0x38A (.sequence [0x399, 0x301]) (.node (.node (.node .leaf
  0x38C 0x38C (.sequence [0x39F, 0x301]) .leaf) 0x38E 0x38E (.sequence [0x3A5, 0x301]) (.node
  .leaf 0x38F 0x38F (.sequence [0x3A9, 0x301]) .leaf)) 0x390 0x390 (.sequence
  [0x3B9, 0x308, 0x301]) (.node (.node .leaf 0x3AA 0x3AA (.sequence [0x399, 0x308]) .leaf)
  0x3AB 0x3AB (.sequence [0x3A5, 0x308]) (.node .leaf 0x3AC 0x3AC (.sequence [0x3B1, 0x301])
  .leaf)))) 0x3AD 0x3AD (.sequence [0x3B5, 0x301]) (.node (.node (.node (.node .leaf 0x3AE
  0x3AE (.sequence [0x3B7, 0x301]) .leaf) 0x3AF 0x3AF (.sequence [0x3B9, 0x301]) (.node .leaf
  0x3B0 0x3B0 (.sequence [0x3C5, 0x308, 0x301]) .leaf)) 0x3CA 0x3CA (.sequence [0x3B9, 0x308])
  (.node (.node .leaf 0x3CB 0x3CB (.sequence [0x3C5, 0x308]) .leaf) 0x3CC 0x3CC (.sequence
  [0x3BF, 0x301]) (.node .leaf 0x3CD 0x3CD (.sequence [0x3C5, 0x301]) .leaf))) 0x3CE 0x3CE
  (.sequence [0x3C9, 0x301]) (.node (.node (.node .leaf 0x3D0 0x3D0 (.sequence [0x3B2]) .leaf)
  0x3D1 0x3D1 (.sequence [0x3B8]) (.node .leaf 0x3D2 0x3D2 (.sequence [0x3A5]) .leaf)) 0x3D3
  0x3D3 (.sequence [0x3A5, 0x301]) (.node (.node .leaf 0x3D4 0x3D4 (.sequence [0x3A5, 0x308])
  .leaf) 0x3D5 0x3D5 (.sequence [0x3C6]) .leaf)))) 0x3D6 0x3D6 (.sequence [0x3C0]) (.node
  (.node (.node (.node (.node .leaf 0x3F0 0x3F0 (.sequence [0x3BA]) .leaf) 0x3F1 0x3F2
  (.consecutive 0x3C1) (.node .leaf 0x3F4 0x3F4 (.sequence [0x398]) .leaf)) 0x3F5 0x3F5
  (.sequence [0x3B5]) (.node (.node .leaf 0x3F9 0x3F9 (.sequence [0x3A3]) .leaf) 0x400 0x400
  (.sequence [0x415, 0x300]) (.node .leaf 0x401 0x401 (.sequence [0x415, 0x308]) .leaf)))
  0x403 0x403 (.sequence [0x413, 0x301]) (.node (.node (.node .leaf 0x407 0x407 (.sequence
  [0x406, 0x308]) .leaf) 0x40C 0x40C (.sequence [0x41A, 0x301]) (.node .leaf 0x40D 0x40D
  (.sequence [0x418, 0x300]) .leaf)) 0x40E 0x40E (.sequence [0x423, 0x306]) (.node (.node
  .leaf 0x419 0x419 (.sequence [0x418, 0x306]) .leaf) 0x439 0x439 (.sequence [0x438, 0x306])
  .leaf))) 0x450 0x450 (.sequence [0x435, 0x300]) (.node (.node (.node (.node .leaf 0x451
  0x451 (.sequence [0x435, 0x308]) .leaf) 0x453 0x453 (.sequence [0x433, 0x301]) (.node .leaf
  0x457 0x457 (.sequence [0x456, 0x308]) .leaf)) 0x45C 0x45C (.sequence [0x43A, 0x301]) (.node
  (.node .leaf 0x45D 0x45D (.sequence [0x438, 0x300]) .leaf) 0x45E 0x45E (.sequence
  [0x443, 0x306]) (.node .leaf 0x476 0x476 (.sequence [0x474, 0x30F]) .leaf))) 0x477 0x477
  (.sequence [0x475, 0x30F]) (.node (.node (.node .leaf 0x4C1 0x4C1 (.sequence [0x416, 0x306])
  .leaf) 0x4C2 0x4C2 (.sequence [0x436, 0x306]) (.node .leaf 0x4D0 0x4D0 (.sequence
  [0x410, 0x306]) .leaf)) 0x4D1 0x4D1 (.sequence [0x430, 0x306]) (.node (.node .leaf 0x4D2
  0x4D2 (.sequence [0x410, 0x308]) .leaf) 0x4D3 0x4D3 (.sequence [0x430, 0x308]) .leaf))))))
  0x4D6 0x4D6 (.sequence [0x415, 0x306]) (.node (.node (.node (.node (.node (.node (.node
  .leaf 0x4D7 0x4D7 (.sequence [0x435, 0x306]) .leaf) 0x4DA 0x4DA (.sequence [0x4D8, 0x308])
  (.node .leaf 0x4DB 0x4DB (.sequence [0x4D9, 0x308]) .leaf)) 0x4DC 0x4DC (.sequence
  [0x416, 0x308]) (.node (.node .leaf 0x4DD 0x4DD (.sequence [0x436, 0x308]) .leaf) 0x4DE
  0x4DE (.sequence [0x417, 0x308]) (.node .leaf 0x4DF 0x4DF (.sequence [0x437, 0x308]) .leaf)))
  0x4E2 0x4E2 (.sequence [0x418, 0x304]) (.node (.node (.node .leaf 0x4E3 0x4E3 (.sequence
  [0x438, 0x304]) .leaf) 0x4E4 0x4E4 (.sequence [0x418, 0x308]) (.node .leaf 0x4E5 0x4E5
  (.sequence [0x438, 0x308]) .leaf)) 0x4E6 0x4E6 (.sequence [0x41E, 0x308]) (.node (.node
  .leaf 0x4E7 0x4E7 (.sequence [0x43E, 0x308]) .leaf) 0x4EA 0x4EA (.sequence [0x4E8, 0x308])
  (.node .leaf 0x4EB 0x4EB (.sequence [0x4E9, 0x308]) .leaf)))) 0x4EC 0x4EC (.sequence
  [0x42D, 0x308]) (.node (.node (.node (.node .leaf 0x4ED 0x4ED (.sequence [0x44D, 0x308])
  .leaf) 0x4EE 0x4EE (.sequence [0x423, 0x304]) (.node .leaf 0x4EF 0x4EF (.sequence
  [0x443, 0x304]) .leaf)) 0x4F0 0x4F0 (.sequence [0x423, 0x308]) (.node (.node .leaf 0x4F1
  0x4F1 (.sequence [0x443, 0x308]) .leaf) 0x4F2 0x4F2 (.sequence [0x423, 0x30B]) (.node .leaf
  0x4F3 0x4F3 (.sequence [0x443, 0x30B]) .leaf))) 0x4F4 0x4F4 (.sequence [0x427, 0x308])
  (.node (.node (.node .leaf 0x4F5 0x4F5 (.sequence [0x447, 0x308]) .leaf) 0x4F8 0x4F8
  (.sequence [0x42B, 0x308]) (.node .leaf 0x4F9 0x4F9 (.sequence [0x44B, 0x308]) .leaf)) 0x587
  0x587 (.sequence [0x565, 0x582]) (.node (.node .leaf 0x622 0x622 (.sequence [0x627, 0x653])
  .leaf) 0x623 0x623 (.sequence [0x627, 0x654]) .leaf)))) 0x624 0x624 (.sequence
  [0x648, 0x654]) (.node (.node (.node (.node (.node .leaf 0x625 0x625 (.sequence
  [0x627, 0x655]) .leaf) 0x626 0x626 (.sequence [0x64A, 0x654]) (.node .leaf 0x675 0x675
  (.sequence [0x627, 0x674]) .leaf)) 0x676 0x676 (.sequence [0x648, 0x674]) (.node (.node
  .leaf 0x677 0x677 (.sequence [0x6C7, 0x674]) .leaf) 0x678 0x678 (.sequence [0x64A, 0x674])
  (.node .leaf 0x6C0 0x6C0 (.sequence [0x6D5, 0x654]) .leaf))) 0x6C2 0x6C2 (.sequence
  [0x6C1, 0x654]) (.node (.node (.node .leaf 0x6D3 0x6D3 (.sequence [0x6D2, 0x654]) .leaf)
  0x929 0x929 (.sequence [0x928, 0x93C]) (.node .leaf 0x931 0x931 (.sequence [0x930, 0x93C])
  .leaf)) 0x934 0x934 (.sequence [0x933, 0x93C]) (.node (.node .leaf 0x958 0x958 (.sequence
  [0x915, 0x93C]) .leaf) 0x959 0x959 (.sequence [0x916, 0x93C]) .leaf))) 0x95A 0x95A
  (.sequence [0x917, 0x93C]) (.node (.node (.node (.node .leaf 0x95B 0x95B (.sequence
  [0x91C, 0x93C]) .leaf) 0x95C 0x95C (.sequence [0x921, 0x93C]) (.node .leaf 0x95D 0x95D
  (.sequence [0x922, 0x93C]) .leaf)) 0x95E 0x95E (.sequence [0x92B, 0x93C]) (.node (.node
  .leaf 0x95F 0x95F (.sequence [0x92F, 0x93C]) .leaf) 0x9CB 0x9CB (.sequence [0x9C7, 0x9BE])
  (.node .leaf 0x9CC 0x9CC (.sequence [0x9C7, 0x9D7]) .leaf))) 0x9DC 0x9DC (.sequence
  [0x9A1, 0x9BC]) (.node (.node (.node .leaf 0x9DD 0x9DD (.sequence [0x9A2, 0x9BC]) .leaf)
  0x9DF 0x9DF (.sequence [0x9AF, 0x9BC]) (.node .leaf 0xA33 0xA33 (.sequence [0xA32, 0xA3C])
  .leaf)) 0xA36 0xA36 (.sequence [0xA38, 0xA3C]) (.node (.node .leaf 0xA59 0xA59 (.sequence
  [0xA16, 0xA3C]) .leaf) 0xA5A 0xA5A (.sequence [0xA17, 0xA3C]) .leaf))))) 0xA5B 0xA5B
  (.sequence [0xA1C, 0xA3C]) (.node (.node (.node (.node (.node (.node .leaf 0xA5E 0xA5E
  (.sequence [0xA2B, 0xA3C]) .leaf) 0xB48 0xB48 (.sequence [0xB47, 0xB56]) (.node .leaf 0xB4B
  0xB4B (.sequence [0xB47, 0xB3E]) .leaf)) 0xB4C 0xB4C (.sequence [0xB47, 0xB57]) (.node
  (.node .leaf 0xB5C 0xB5C (.sequence [0xB21, 0xB3C]) .leaf) 0xB5D 0xB5D (.sequence
  [0xB22, 0xB3C]) (.node .leaf 0xB94 0xB94 (.sequence [0xB92, 0xBD7]) .leaf))) 0xBCA 0xBCA
  (.sequence [0xBC6, 0xBBE]) (.node (.node (.node .leaf 0xBCB 0xBCB (.sequence [0xBC7, 0xBBE])
  .leaf) 0xBCC 0xBCC (.sequence [0xBC6, 0xBD7]) (.node .leaf 0xC48 0xC48 (.sequence
  [0xC46, 0xC56]) .leaf)) 0xCC0 0xCC0 (.sequence [0xCBF, 0xCD5]) (.node (.node .leaf 0xCC7
  0xCC7 (.sequence [0xCC6, 0xCD5]) .leaf) 0xCC8 0xCC8 (.sequence [0xCC6, 0xCD6]) (.node .leaf
  0xCCA 0xCCA (.sequence [0xCC6, 0xCC2]) .leaf)))) 0xCCB 0xCCB (.sequence
  [0xCC6, 0xCC2, 0xCD5]) (.node (.node (.node (.node .leaf 0xD4A 0xD4A (.sequence
  [0xD46, 0xD3E]) .leaf) 0xD4B 0xD4B (.sequence [0xD47, 0xD3E]) (.node .leaf 0xD4C 0xD4C
  (.sequence [0xD46, 0xD57]) .leaf)) 0xDDA 0xDDA (.sequence [0xDD9, 0xDCA]) (.node (.node
  .leaf 0xDDC 0xDDC (.sequence [0xDD9, 0xDCF]) .leaf) 0xDDD 0xDDD (.sequence
  [0xDD9, 0xDCF, 0xDCA]) (.node .leaf 0xDDE 0xDDE (.sequence [0xDD9, 0xDDF]) .leaf))) 0xE33
  0xE33 (.sequence [0xE4D, 0xE32]) (.node (.node (.node .leaf 0xEB3 0xEB3 (.sequence
  [0xECD, 0xEB2]) .leaf) 0xEDC 0xEDC (.sequence [0xEAB, 0xE99]) (.node .leaf 0xEDD 0xEDD
  (.sequence [0xEAB, 0xEA1]) .leaf)) 0xF0C 0xF0C (.sequence [0xF0B]) (.node (.node .leaf 0xF43
  0xF43 (.sequence [0xF42, 0xFB7]) .leaf) 0xF4D 0xF4D (.sequence [0xF4C, 0xFB7]) .leaf))))
  0xF52 0xF52 (.sequence [0xF51, 0xFB7]) (.node (.node (.node (.node (.node .leaf 0xF57 0xF57
  (.sequence [0xF56, 0xFB7]) .leaf) 0xF5C 0xF5C (.sequence [0xF5B, 0xFB7]) (.node .leaf 0xF69
  0xF69 (.sequence [0xF40, 0xFB5]) .leaf)) 0xF73 0xF73 (.sequence [0xF71, 0xF72]) (.node
  (.node .leaf 0xF75 0xF75 (.sequence [0xF71, 0xF74]) .leaf) 0xF76 0xF76 (.sequence
  [0xFB2, 0xF80]) (.node .leaf 0xF77 0xF77 (.sequence [0xFB2, 0xF71, 0xF80]) .leaf))) 0xF78
  0xF78 (.sequence [0xFB3, 0xF80]) (.node (.node (.node .leaf 0xF79 0xF79 (.sequence
  [0xFB3, 0xF71, 0xF80]) .leaf) 0xF81 0xF81 (.sequence [0xF71, 0xF80]) (.node .leaf 0xF93
  0xF93 (.sequence [0xF92, 0xFB7]) .leaf)) 0xF9D 0xF9D (.sequence [0xF9C, 0xFB7]) (.node
  (.node .leaf 0xFA2 0xFA2 (.sequence [0xFA1, 0xFB7]) .leaf) 0xFA7 0xFA7 (.sequence
  [0xFA6, 0xFB7]) .leaf))) 0xFAC 0xFAC (.sequence [0xFAB, 0xFB7]) (.node (.node (.node (.node
  .leaf 0xFB9 0xFB9 (.sequence [0xF90, 0xFB5]) .leaf) 0x1026 0x1026 (.sequence
  [0x1025, 0x102E]) (.node .leaf 0x10FC 0x10FC (.sequence [0x10DC]) .leaf)) 0x1B06 0x1B06
  (.sequence [0x1B05, 0x1B35]) (.node (.node .leaf 0x1B08 0x1B08 (.sequence [0x1B07, 0x1B35])
  .leaf) 0x1B0A 0x1B0A (.sequence [0x1B09, 0x1B35]) (.node .leaf 0x1B0C 0x1B0C (.sequence
  [0x1B0B, 0x1B35]) .leaf))) 0x1B0E 0x1B0E (.sequence [0x1B0D, 0x1B35]) (.node (.node (.node
  .leaf 0x1B12 0x1B12 (.sequence [0x1B11, 0x1B35]) .leaf) 0x1B3B 0x1B3B (.sequence
  [0x1B3A, 0x1B35]) (.node .leaf 0x1B3D 0x1B3D (.sequence [0x1B3C, 0x1B35]) .leaf)) 0x1B40
  0x1B40 (.sequence [0x1B3E, 0x1B35]) (.node (.node .leaf 0x1B41 0x1B41 (.sequence
  [0x1B3F, 0x1B35]) .leaf) 0x1B43 0x1B43 (.sequence [0x1B42, 0x1B35]) .leaf)))))))

end StreamTable.Unicode
