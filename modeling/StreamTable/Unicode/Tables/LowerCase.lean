import StreamTable.Unicode.Image

/-! The unconditional lower-case mappings. -/

namespace StreamTable.Unicode

set_option maxRecDepth 100000 in
/-- The lower case of each code point that is changed by it. -/
def lowerCases : RangeMap Image :=
  .node (.node (.node (.node (.node (.node (.node (.node .leaf 0x41 0x5A (.consecutive 0x61)
  .leaf) 0xC0 0xD6 (.consecutive 0xE0) .leaf) 0xD8 0xDE (.consecutive 0xF8) (.node (.node
  .leaf 0x100 0x12E .alternating .leaf) 0x130 0x130 (.sequence [0x69, 0x307]) .leaf)) 0x132
  0x136 .alternating (.node (.node (.node .leaf 0x139 0x147 .alternating .leaf) 0x14A 0x176
  .alternating .leaf) 0x178 0x178 (.sequence [0xFF]) (.node (.node .leaf 0x179 0x17D
  .alternating .leaf) 0x181 0x181 (.sequence [0x253]) .leaf))) 0x182 0x184 .alternating (.node
  (.node (.node (.node .leaf 0x186 0x186 (.sequence [0x254]) .leaf) 0x187 0x187 (.sequence
  [0x188]) .leaf) 0x189 0x18A (.consecutive 0x256) (.node (.node .leaf 0x18B 0x18B (.sequence
  [0x18C]) .leaf) 0x18E 0x18E (.sequence [0x1DD]) .leaf)) 0x18F 0x18F (.sequence [0x259])
  (.node (.node (.node .leaf 0x190 0x190 (.sequence [0x25B]) .leaf) 0x191 0x191 (.sequence
  [0x192]) .leaf) 0x193 0x193 (.sequence [0x260]) (.node (.node .leaf 0x194 0x194 (.sequence
  [0x263]) .leaf) 0x196 0x196 (.sequence [0x269]) .leaf)))) 0x197 0x197 (.sequence [0x268])
  (.node (.node (.node (.node (.node .leaf 0x198 0x198 (.sequence [0x199]) .leaf) 0x19C 0x19C
  (.sequence [0x26F]) .leaf) 0x19D 0x19D (.sequence [0x272]) (.node (.node .leaf 0x19F 0x19F
  (.sequence [0x275]) .leaf) 0x1A0 0x1A4 .alternating .leaf)) 0x1A6 0x1A6 (.sequence [0x280])
  (.node (.node (.node .leaf 0x1A7 0x1A7 (.sequence [0x1A8]) .leaf) 0x1A9 0x1A9 (.sequence
  [0x283]) .leaf) 0x1AC 0x1AC (.sequence [0x1AD]) (.node (.node .leaf 0x1AE 0x1AE (.sequence
  [0x288]) .leaf) 0x1AF 0x1AF (.sequence [0x1B0]) .leaf))) 0x1B1 0x1B2 (.consecutive 0x28A)
  (.node (.node (.node (.node .leaf 0x1B3 0x1B5 .alternating .leaf) 0x1B7 0x1B7 (.sequence
  [0x292]) .leaf) 0x1B8 0x1B8 (.sequence [0x1B9]) (.node (.node .leaf 0x1BC 0x1BC (.sequence
  [0x1BD]) .leaf) 0x1C4 0x1C4 (.sequence [0x1C6]) .leaf)) 0x1C5 0x1C5 (.sequence [0x1C6])
  (.node (.node (.node .leaf 0x1C7 0x1C7 (.sequence [0x1C9]) .leaf) 0x1C8 0x1C8 (.sequence
  [0x1C9]) .leaf) 0x1CA 0x1CA (.sequence [0x1CC]) (.node (.node .leaf 0x1CB 0x1DB .alternating
  .leaf) 0x1DE 0x1EE .alternating .leaf))))) 0x1F1 0x1F1 (.sequence [0x1F3]) (.node (.node
  (.node (.node (.node (.node .leaf 0x1F2 0x1F4 .alternating .leaf) 0x1F6 0x1F6 (.sequence
  [0x195]) .leaf) 0x1F7 0x1F7 (.sequence [0x1BF]) (.node (.node .leaf 0x1F8 0x21E .alternating
  .leaf) 0x220 0x220 (.sequence [0x19E]) .leaf)) 0x222 0x232 .alternating (.node (.node (.node
  .leaf 0x23A 0x23A (.sequence [0x2C65]) .leaf) 0x23B 0x23B (.sequence [0x23C]) .leaf) 0x23D
  0x23D (.sequence [0x19A]) (.node (.node .leaf 0x23E 0x23E (.sequence [0x2C66]) .leaf) 0x241
  0x241 (.sequence [0x242]) .leaf))) 0x243 0x243 (.sequence [0x180]) (.node (.node (.node
  (.node .leaf 0x244 0x244 (.sequence [0x289]) .leaf) 0x245 0x245 (.sequence [0x28C]) .leaf)
  0x246 0x24E .alternating (.node (.node .leaf 0x370 0x372 .alternating .leaf) 0x376 0x376
  (.sequence [0x377]) .leaf)) 0x37F 0x37F (.sequence [0x3F3]) (.node (.node (.node .leaf 0x386
  0x386 (.sequence [0x3AC]) .leaf) 0x388 0x38A (.consecutive 0x3AD) .leaf) 0x38C 0x38C
  (.sequence [0x3CC]) (.node (.node .leaf 0x38E 0x38F (.consecutive 0x3CD) .leaf) 0x391 0x3A1
  (.consecutive 0x3B1) .leaf)))) 0x3A3 0x3AB (.consecutive 0x3C3) (.node (.node (.node (.node
  (.node .leaf 0x3CF 0x3CF (.sequence [0x3D7]) .leaf) 0x3D8 0x3EE .alternating .leaf) 0x3F4
  0x3F4 (.sequence [0x3B8]) (.node (.node .leaf 0x3F7 0x3F7 (.sequence [0x3F8]) .leaf) 0x3F9
  0x3F9 (.sequence [0x3F2]) .leaf)) 0x3FA 0x3FA (.sequence [0x3FB]) (.node (.node (.node .leaf
  0x3FD 0x3FF (.consecutive 0x37B) .leaf) 0x400 0x40F (.consecutive 0x450) .leaf) 0x410 0x42F
  (.consecutive 0x430) (.node (.node .leaf 0x460 0x480 .alternating .leaf) 0x48A 0x4BE
  .alternating .leaf))) 0x4C0 0x4C0 (.sequence [0x4CF]) (.node (.node (.node (.node .leaf
  0x4C1 0x4CD .alternating .leaf) 0x4D0 0x52E .alternating .leaf) 0x531 0x556 (.consecutive
  0x561) (.node (.node .leaf 0x10A0 0x10C5 (.consecutive 0x2D00) .leaf) 0x10C7 0x10C7
  (.sequence [0x2D27]) .leaf)) 0x10CD 0x10CD (.sequence [0x2D2D]) (.node (.node (.node .leaf
  0x13A0 0x13EF (.consecutive 0xAB70) .leaf) 0x13F0 0x13F5 (.consecutive 0x13F8) .leaf) 0x1C89
  0x1C89 (.sequence [0x1C8A]) (.node .leaf 0x1C90 0x1CBA (.consecutive 0x10D0) .leaf))))))
  0x1CBD 0x1CBF (.consecutive 0x10FD) (.node (.node (.node (.node (.node (.node (.node .leaf
  0x1E00 0x1E94 .alternating .leaf) 0x1E9E 0x1E9E (.sequence [0xDF]) .leaf) 0x1EA0 0x1EFE
  .alternating (.node (.node .leaf 0x1F08 0x1F0F (.consecutive 0x1F00) .leaf) 0x1F18 0x1F1D
  (.consecutive 0x1F10) .leaf)) 0x1F28 0x1F2F (.consecutive 0x1F20) (.node (.node (.node .leaf
  0x1F38 0x1F3F (.consecutive 0x1F30) .leaf) 0x1F48 0x1F4D (.consecutive 0x1F40) .leaf) 0x1F59
  0x1F59 (.sequence [0x1F51]) (.node (.node .leaf 0x1F5B 0x1F5B (.sequence [0x1F53]) .leaf)
  0x1F5D 0x1F5D (.sequence [0x1F55]) .leaf))) 0x1F5F 0x1F5F (.sequence [0x1F57]) (.node (.node
  (.node (.node .leaf 0x1F68 0x1F6F (.consecutive 0x1F60) .leaf) 0x1F88 0x1F8F (.consecutive
  0x1F80) .leaf) 0x1F98 0x1F9F (.consecutive 0x1F90) (.node (.node .leaf 0x1FA8 0x1FAF
  (.consecutive 0x1FA0) .leaf) 0x1FB8 0x1FB9 (.consecutive 0x1FB0) .leaf)) 0x1FBA 0x1FBB
  (.consecutive 0x1F70) (.node (.node (.node .leaf 0x1FBC 0x1FBC (.sequence [0x1FB3]) .leaf)
  0x1FC8 0x1FCB (.consecutive 0x1F72) .leaf) 0x1FCC 0x1FCC (.sequence [0x1FC3]) (.node (.node
  .leaf 0x1FD8 0x1FD9 (.consecutive 0x1FD0) .leaf) 0x1FDA 0x1FDB (.consecutive 0x1F76) .leaf))))
  0x1FE8 0x1FE9 (.consecutive 0x1FE0) (.node (.node (.node (.node (.node .leaf 0x1FEA 0x1FEB
  (.consecutive 0x1F7A) .leaf) 0x1FEC 0x1FEC (.sequence [0x1FE5]) .leaf) 0x1FF8 0x1FF9
  (.consecutive 0x1F78) (.node (.node .leaf 0x1FFA 0x1FFB (.consecutive 0x1F7C) .leaf) 0x1FFC
  0x1FFC (.sequence [0x1FF3]) .leaf)) 0x2126 0x2126 (.sequence [0x3C9]) (.node (.node (.node
  .leaf 0x212A 0x212A (.sequence [0x6B]) .leaf) 0x212B 0x212B (.sequence [0xE5]) .leaf) 0x2132
  0x2132 (.sequence [0x214E]) (.node (.node .leaf 0x2160 0x216F (.consecutive 0x2170) .leaf)
  0x2183 0x2183 (.sequence [0x2184]) .leaf))) 0x24B6 0x24CF (.consecutive 0x24D0) (.node
  (.node (.node (.node .leaf 0x2C00 0x2C2F (.consecutive 0x2C30) .leaf) 0x2C60 0x2C60
  (.sequence [0x2C61]) .leaf) 0x2C62 0x2C62 (.sequence [0x26B]) (.node (.node .leaf 0x2C63
  0x2C63 (.sequence [0x1D7D]) .leaf) 0x2C64 0x2C64 (.sequence [0x27D]) .leaf)) 0x2C67 0x2C6B
  .alternating (.node (.node (.node .leaf 0x2C6D 0x2C6D (.sequence [0x251]) .leaf) 0x2C6E
  0x2C6E (.sequence [0x271]) .leaf) 0x2C6F 0x2C6F (.sequence [0x250]) (.node (.node .leaf
  0x2C70 0x2C70 (.sequence [0x252]) .leaf) 0x2C72 0x2C72 (.sequence [0x2C73]) .leaf)))))
  0x2C75 0x2C75 (.sequence [0x2C76]) (.node (.node (.node (.node (.node (.node .leaf 0x2C7E
  0x2C7F (.consecutive 0x23F) .leaf) 0x2C80 0x2CE2 .alternating .leaf) 0x2CEB 0x2CED
  .alternating (.node (.node .leaf 0x2CF2 0x2CF2 (.sequence [0x2CF3]) .leaf) 0xA640 0xA66C
  .alternating .leaf)) 0xA680 0xA69A .alternating (.node (.node (.node .leaf 0xA722 0xA72E
  .alternating .leaf) 0xA732 0xA76E .alternating .leaf) 0xA779 0xA77B .alternating (.node
  (.node .leaf 0xA77D 0xA77D (.sequence [0x1D79]) .leaf) 0xA77E 0xA786 .alternating .leaf)))
  0xA78B 0xA78B (.sequence [0xA78C]) (.node (.node (.node (.node .leaf 0xA78D 0xA78D
  (.sequence [0x265]) .leaf) 0xA790 0xA792 .alternating .leaf) 0xA796 0xA7A8 .alternating
  (.node (.node .leaf 0xA7AA 0xA7AA (.sequence [0x266]) .leaf) 0xA7AB 0xA7AB (.sequence
  [0x25C]) .leaf)) 0xA7AC 0xA7AC (.sequence [0x261]) (.node (.node (.node .leaf 0xA7AD 0xA7AD
  (.sequence [0x26C]) .leaf) 0xA7AE 0xA7AE (.sequence [0x26A]) .leaf) 0xA7B0 0xA7B0 (.sequence
  [0x29E]) (.node (.node .leaf 0xA7B1 0xA7B1 (.sequence [0x287]) .leaf) 0xA7B2 0xA7B2
  (.sequence [0x29D]) .leaf)))) 0xA7B3 0xA7B3 (.sequence [0xAB53]) (.node (.node (.node (.node
  (.node .leaf 0xA7B4 0xA7C2 .alternating .leaf) 0xA7C4 0xA7C4 (.sequence [0xA794]) .leaf)
  0xA7C5 0xA7C5 (.sequence [0x282]) (.node (.node .leaf 0xA7C6 0xA7C6 (.sequence [0x1D8E])
  .leaf) 0xA7C7 0xA7C9 .alternating .leaf)) 0xA7CB 0xA7CB (.sequence [0x264]) (.node (.node
  (.node .leaf 0xA7CC 0xA7DA .alternating .leaf) 0xA7DC 0xA7DC (.sequence [0x19B]) .leaf)
  0xA7F5 0xA7F5 (.sequence [0xA7F6]) (.node (.node .leaf 0xFF21 0xFF3A (.consecutive 0xFF41)
  .leaf) 0x10400 0x10427 (.consecutive 0x10428) .leaf))) 0x104B0 0x104D3 (.consecutive 0x104D8)
  (.node (.node (.node (.node .leaf 0x10570 0x1057A (.consecutive 0x10597) .leaf) 0x1057C
  0x1058A (.consecutive 0x105A3) .leaf) 0x1058C 0x10592 (.consecutive 0x105B3) (.node (.node
  .leaf 0x10594 0x10595 (.consecutive 0x105BB) .leaf) 0x10C80 0x10CB2 (.consecutive 0x10CC0)
  .leaf)) 0x10D50 0x10D65 (.consecutive 0x10D70) (.node (.node (.node .leaf 0x118A0 0x118BF
  (.consecutive 0x118C0) .leaf) 0x16E40 0x16E5F (.consecutive 0x16E60) .leaf) 0x16EA0 0x16EB8
  (.consecutive 0x16EBB) (.node .leaf 0x1E900 0x1E921 (.consecutive 0x1E922) .leaf))))))

end StreamTable.Unicode
