import StreamTable.Unicode.Image

/-! The full compatibility decompositions of the phonetic, extended Latin and Greek blocks, U+1D00 to U+1FFF. -/

namespace StreamTable.Unicode

set_option maxRecDepth 100000 in
def extendedDecompositions : RangeMap Image :=
  .node (.node (.node (.node (.node (.node (.node (.node (.node (.node .leaf 0x1D2C 0x1D2C
  (.sequence [0x41]) .leaf) 0x1D2D 0x1D2D (.sequence [0xC6]) .leaf) 0x1D2E 0x1D2E (.sequence
  [0x42]) (.node .leaf 0x1D30 0x1D31 (.consecutive 0x44) .leaf)) 0x1D32 0x1D32 (.sequence
  [0x18E]) (.node (.node .leaf 0x1D33 0x1D3A (.consecutive 0x47) .leaf) 0x1D3C 0x1D3C
  (.sequence [0x4F]) (.node .leaf 0x1D3D 0x1D3D (.sequence [0x222]) .leaf))) 0x1D3E 0x1D3E
  (.sequence [0x50]) (.node (.node (.node (.node .leaf 0x1D3F 0x1D3F (.sequence [0x52]) .leaf)
  0x1D40 0x1D41 (.consecutive 0x54) .leaf) 0x1D42 0x1D42 (.sequence [0x57]) (.node .leaf
  0x1D43 0x1D43 (.sequence [0x61]) .leaf)) 0x1D44 0x1D45 (.consecutive 0x250) (.node (.node
  .leaf 0x1D46 0x1D46 (.sequence [0x1D02]) .leaf) 0x1D47 0x1D47 (.sequence [0x62]) (.node
  .leaf 0x1D48 0x1D49 (.consecutive 0x64) .leaf)))) 0x1D4A 0x1D4A (.sequence [0x259]) (.node
  (.node (.node (.node (.node .leaf 0x1D4B 0x1D4C (.consecutive 0x25B) .leaf) 0x1D4D 0x1D4D
  (.sequence [0x67]) .leaf) 0x1D4F 0x1D4F (.sequence [0x6B]) (.node .leaf 0x1D50 0x1D50
  (.sequence [0x6D]) .leaf)) 0x1D51 0x1D51 (.sequence [0x14B]) (.node (.node .leaf 0x1D52
  0x1D52 (.sequence [0x6F]) .leaf) 0x1D53 0x1D53 (.sequence [0x254]) (.node .leaf 0x1D54
  0x1D55 (.consecutive 0x1D16) .leaf))) 0x1D56 0x1D56 (.sequence [0x70]) (.node (.node (.node
  .leaf 0x1D57 0x1D58 (.consecutive 0x74) .leaf) 0x1D59 0x1D59 (.sequence [0x1D1D]) (.node
  .leaf 0x1D5A 0x1D5A (.sequence [0x26F]) .leaf)) 0x1D5B 0x1D5B (.sequence [0x76]) (.node
  (.node .leaf 0x1D5C 0x1D5C (.sequence [0x1D25]) .leaf) 0x1D5D 0x1D5F (.consecutive 0x3B2)
  (.node .leaf 0x1D60 0x1D61 (.consecutive 0x3C6) .leaf))))) 0x1D62 0x1D62 (.sequence [0x69])
  (.node (.node (.node (.node (.node (.node .leaf 0x1D63 0x1D63 (.sequence [0x72]) .leaf)
  0x1D64 0x1D65 (.consecutive 0x75) .leaf) 0x1D66 0x1D67 (.consecutive 0x3B2) (.node .leaf
  0x1D68 0x1D68 (.sequence [0x3C1]) .leaf)) 0x1D69 0x1D6A (.consecutive 0x3C6) (.node (.node
  .leaf 0x1D78 0x1D78 (.sequence [0x43D]) .leaf) 0x1D9B 0x1D9B (.sequence [0x252]) (.node
  .leaf 0x1D9C 0x1D9C (.sequence [0x63]) .leaf))) 0x1D9D 0x1D9D (.sequence [0x255]) (.node
  (.node (.node .leaf 0x1D9E 0x1D9E (.sequence [0xF0]) .leaf) 0x1D9F 0x1D9F (.sequence [0x25C])
  (.node .leaf 0x1DA0 0x1DA0 (.sequence [0x66]) .leaf)) 0x1DA1 0x1DA1 (.sequence [0x25F])
  (.node (.node .leaf 0x1DA2 0x1DA2 (.sequence [0x261]) .leaf) 0x1DA3 0x1DA3 (.sequence
  [0x265]) (.node .leaf 0x1DA4 0x1DA6 (.consecutive 0x268) .leaf)))) 0x1DA7 0x1DA7 (.sequence
  [0x1D7B]) (.node (.node (.node (.node (.node .leaf 0x1DA8 0x1DA8 (.sequence [0x29D]) .leaf)
  0x1DA9 0x1DA9 (.sequence [0x26D]) .leaf) 0x1DAA 0x1DAA (.sequence [0x1D85]) (.node .leaf
  0x1DAB 0x1DAB (.sequence [0x29F]) .leaf)) 0x1DAC 0x1DAC (.sequence [0x271]) (.node (.node
  .leaf 0x1DAD 0x1DAD (.sequence [0x270]) .leaf) 0x1DAE 0x1DB1 (.consecutive 0x272) (.node
  .leaf 0x1DB2 0x1DB2 (.sequence [0x278]) .leaf))) 0x1DB3 0x1DB4 (.consecutive 0x282) (.node
  (.node (.node .leaf 0x1DB5 0x1DB5 (.sequence [0x1AB]) .leaf) 0x1DB6 0x1DB7 (.consecutive
  0x289) (.node .leaf 0x1DB8 0x1DB8 (.sequence [0x1D1C]) .leaf)) 0x1DB9 0x1DBA (.consecutive
  0x28B) (.node (.node .leaf 0x1DBB 0x1DBB (.sequence [0x7A]) .leaf) 0x1DBC 0x1DBE
  (.consecutive 0x290) (.node .leaf 0x1DBF 0x1DBF (.sequence [0x3B8]) .leaf)))))) 0x1E00
  0x1E00 (.sequence [0x41, 0x325]) (.node (.node (.node (.node (.node (.node (.node .leaf
  0x1E01 0x1E01 (.sequence [0x61, 0x325]) .leaf) 0x1E02 0x1E02 (.sequence [0x42, 0x307]) .leaf)
  0x1E03 0x1E03 (.sequence [0x62, 0x307]) (.node .leaf 0x1E04 0x1E04 (.sequence [0x42, 0x323])
  .leaf)) 0x1E05 0x1E05 (.sequence [0x62, 0x323]) (.node (.node .leaf 0x1E06 0x1E06 (.sequence
  [0x42, 0x331]) .leaf) 0x1E07 0x1E07 (.sequence [0x62, 0x331]) (.node .leaf 0x1E08 0x1E08
  (.sequence [0x43, 0x327, 0x301]) .leaf))) 0x1E09 0x1E09 (.sequence [0x63, 0x327, 0x301])
  (.node (.node (.node .leaf 0x1E0A 0x1E0A (.sequence [0x44, 0x307]) .leaf) 0x1E0B 0x1E0B
  (.sequence [0x64, 0x307]) (.node .leaf 0x1E0C 0x1E0C (.sequence [0x44, 0x323]) .leaf))
  0x1E0D 0x1E0D (.sequence [0x64, 0x323]) (.node (.node .leaf 0x1E0E 0x1E0E (.sequence
  [0x44, 0x331]) .leaf) 0x1E0F 0x1E0F (.sequence [0x64, 0x331]) (.node .leaf 0x1E10 0x1E10
  (.sequence [0x44, 0x327]) .leaf)))) 0x1E11 0x1E11 (.sequence [0x64, 0x327]) (.node (.node
  (.node (.node (.node .leaf 0x1E12 0x1E12 (.sequence [0x44, 0x32D]) .leaf) 0x1E13 0x1E13
  (.sequence [0x64, 0x32D]) .leaf) 0x1E14 0x1E14 (.sequence [0x45, 0x304, 0x300]) (.node .leaf
  0x1E15 0x1E15 (.sequence [0x65, 0x304, 0x300]) .leaf)) 0x1E16 0x1E16 (.sequence
  [0x45, 0x304, 0x301]) (.node (.node .leaf 0x1E17 0x1E17 (.sequence [0x65, 0x304, 0x301])
  .leaf) 0x1E18 0x1E18 (.sequence [0x45, 0x32D]) (.node .leaf 0x1E19 0x1E19 (.sequence
  [0x65, 0x32D]) .leaf))) 0x1E1A 0x1E1A (.sequence [0x45, 0x330]) (.node (.node (.node .leaf
  0x1E1B 0x1E1B (.sequence [0x65, 0x330]) .leaf) 0x1E1C 0x1E1C (.sequence [0x45, 0x327, 0x306])
  (.node .leaf 0x1E1D 0x1E1D (.sequence [0x65, 0x327, 0x306]) .leaf)) 0x1E1E 0x1E1E (.sequence
  [0x46, 0x307]) (.node (.node .leaf 0x1E1F 0x1E1F (.sequence [0x66, 0x307]) .leaf) 0x1E20
  0x1E20 (.sequence [0x47, 0x304]) (.node .leaf 0x1E21 0x1E21 (.sequence [0x67, 0x304]) .leaf)))))
  0x1E22 0x1E22 (.sequence [0x48, 0x307]) (.node (.node (.node (.node (.node (.node .leaf
  0x1E23 0x1E23 (.sequence [0x68, 0x307]) .leaf) 0x1E24 0x1E24 (.sequence [0x48, 0x323]) .leaf)
  0x1E25 0x1E25 (.sequence [0x68, 0x323]) (.node .leaf 0x1E26 0x1E26 (.sequence [0x48, 0x308])
  .leaf)) 0x1E27 0x1E27 (.sequence [0x68, 0x308]) (.node (.node .leaf 0x1E28 0x1E28 (.sequence
  [0x48, 0x327]) .leaf) 0x1E29 0x1E29 (.sequence [0x68, 0x327]) (.node .leaf 0x1E2A 0x1E2A
  (.sequence [0x48, 0x32E]) .leaf))) 0x1E2B 0x1E2B (.sequence [0x68, 0x32E]) (.node (.node
  (.node .leaf 0x1E2C 0x1E2C (.sequence [0x49, 0x330]) .leaf) 0x1E2D 0x1E2D (.sequence
  [0x69, 0x330]) (.node .leaf 0x1E2E 0x1E2E (.sequence [0x49, 0x308, 0x301]) .leaf)) 0x1E2F
  0x1E2F (.sequence [0x69, 0x308, 0x301]) (.node (.node .leaf 0x1E30 0x1E30 (.sequence
  [0x4B, 0x301]) .leaf) 0x1E31 0x1E31 (.sequence [0x6B, 0x301]) (.node .leaf 0x1E32 0x1E32
  (.sequence [0x4B, 0x323]) .leaf)))) 0x1E33 0x1E33 (.sequence [0x6B, 0x323]) (.node (.node
  (.node (.node (.node .leaf 0x1E34 0x1E34 (.sequence [0x4B, 0x331]) .leaf) 0x1E35 0x1E35
  (.sequence [0x6B, 0x331]) .leaf) 0x1E36 0x1E36 (.sequence [0x4C, 0x323]) (.node .leaf 0x1E37
  0x1E37 (.sequence [0x6C, 0x323]) .leaf)) 0x1E38 0x1E38 (.sequence [0x4C, 0x323, 0x304])
  (.node (.node .leaf 0x1E39 0x1E39 (.sequence [0x6C, 0x323, 0x304]) .leaf) 0x1E3A 0x1E3A
  (.sequence [0x4C, 0x331]) (.node .leaf 0x1E3B 0x1E3B (.sequence [0x6C, 0x331]) .leaf)))
  0x1E3C 0x1E3C (.sequence [0x4C, 0x32D]) (.node (.node (.node .leaf 0x1E3D 0x1E3D (.sequence
  [0x6C, 0x32D]) .leaf) 0x1E3E 0x1E3E (.sequence [0x4D, 0x301]) (.node .leaf 0x1E3F 0x1E3F
  (.sequence [0x6D, 0x301]) .leaf)) 0x1E40 0x1E40 (.sequence [0x4D, 0x307]) (.node (.node
  .leaf 0x1E41 0x1E41 (.sequence [0x6D, 0x307]) .leaf) 0x1E42 0x1E42 (.sequence [0x4D, 0x323])
  (.node .leaf 0x1E43 0x1E43 (.sequence [0x6D, 0x323]) .leaf))))))) 0x1E44 0x1E44 (.sequence
  [0x4E, 0x307]) (.node (.node (.node (.node (.node (.node (.node (.node .leaf 0x1E45 0x1E45
  (.sequence [0x6E, 0x307]) .leaf) 0x1E46 0x1E46 (.sequence [0x4E, 0x323]) .leaf) 0x1E47
  0x1E47 (.sequence [0x6E, 0x323]) (.node .leaf 0x1E48 0x1E48 (.sequence [0x4E, 0x331]) .leaf))
  0x1E49 0x1E49 (.sequence [0x6E, 0x331]) (.node (.node .leaf 0x1E4A 0x1E4A (.sequence
  [0x4E, 0x32D]) .leaf) 0x1E4B 0x1E4B (.sequence [0x6E, 0x32D]) (.node .leaf 0x1E4C 0x1E4C
  (.sequence [0x4F, 0x303, 0x301]) .leaf))) 0x1E4D 0x1E4D (.sequence [0x6F, 0x303, 0x301])
  (.node (.node (.node (.node .leaf 0x1E4E 0x1E4E (.sequence [0x4F, 0x303, 0x308]) .leaf)
  0x1E4F 0x1E4F (.sequence [0x6F, 0x303, 0x308]) .leaf) 0x1E50 0x1E50 (.sequence
  [0x4F, 0x304, 0x300]) (.node .leaf 0x1E51 0x1E51 (.sequence [0x6F, 0x304, 0x300]) .leaf))
  0x1E52 0x1E52 (.sequence [0x4F, 0x304, 0x301]) (.node (.node .leaf 0x1E53 0x1E53 (.sequence
  [0x6F, 0x304, 0x301]) .leaf) 0x1E54 0x1E54 (.sequence [0x50, 0x301]) (.node .leaf 0x1E55
  0x1E55 (.sequence [0x70, 0x301]) .leaf)))) 0x1E56 0x1E56 (.sequence [0x50, 0x307]) (.node
  (.node (.node (.node (.node .leaf 0x1E57 0x1E57 (.sequence [0x70, 0x307]) .leaf) 0x1E58
  0x1E58 (.sequence [0x52, 0x307]) .leaf) 0x1E59 0x1E59 (.sequence [0x72, 0x307]) (.node .leaf
  0x1E5A 0x1E5A (.sequence [0x52, 0x323]) .leaf)) 0x1E5B 0x1E5B (.sequence [0x72, 0x323])
  (.node (.node .leaf 0x1E5C 0x1E5C (.sequence [0x52, 0x323, 0x304]) .leaf) 0x1E5D 0x1E5D
  (.sequence [0x72, 0x323, 0x304]) (.node .leaf 0x1E5E 0x1E5E (.sequence [0x52, 0x331]) .leaf)))
  0x1E5F 0x1E5F (.sequence [0x72, 0x331]) (.node (.node (.node .leaf 0x1E60 0x1E60 (.sequence
  [0x53, 0x307]) .leaf) 0x1E61 0x1E61 (.sequence [0x73, 0x307]) (.node .leaf 0x1E62 0x1E62
  (.sequence [0x53, 0x323]) .leaf)) 0x1E63 0x1E63 (.sequence [0x73, 0x323]) (.node (.node
  .leaf 0x1E64 0x1E64 (.sequence [0x53, 0x301, 0x307]) .leaf) 0x1E65 0x1E65 (.sequence
  [0x73, 0x301, 0x307]) (.node .leaf 0x1E66 0x1E66 (.sequence [0x53, 0x30C, 0x307]) .leaf)))))
  0x1E67 0x1E67 (.sequence [0x73, 0x30C, 0x307]) (.node (.node (.node (.node (.node (.node
  .leaf 0x1E68 0x1E68 (.sequence [0x53, 0x323, 0x307]) .leaf) 0x1E69 0x1E69 (.sequence
  [0x73, 0x323, 0x307]) .leaf) 0x1E6A 0x1E6A (.sequence [0x54, 0x307]) (.node .leaf 0x1E6B
  0x1E6B (.sequence [0x74, 0x307]) .leaf)) 0x1E6C 0x1E6C (.sequence [0x54, 0x323]) (.node
  (.node .leaf 0x1E6D 0x1E6D (.sequence [0x74, 0x323]) .leaf) 0x1E6E 0x1E6E (.sequence
  [0x54, 0x331]) (.node .leaf 0x1E6F 0x1E6F (.sequence [0x74, 0x331]) .leaf))) 0x1E70 0x1E70
  (.sequence [0x54, 0x32D]) (.node (.node (.node .leaf 0x1E71 0x1E71 (.sequence [0x74, 0x32D])
  .leaf) 0x1E72 0x1E72 (.sequence [0x55, 0x324]) (.node .leaf 0x1E73 0x1E73 (.sequence
  [0x75, 0x324]) .leaf)) 0x1E74 0x1E74 (.sequence [0x55, 0x330]) (.node (.node .leaf 0x1E75
  0x1E75 (.sequence [0x75, 0x330]) .leaf) 0x1E76 0x1E76 (.sequence [0x55, 0x32D]) (.node .leaf
  0x1E77 0x1E77 (.sequence [0x75, 0x32D]) .leaf)))) 0x1E78 0x1E78 (.sequence
  [0x55, 0x303, 0x301]) (.node (.node (.node (.node (.node .leaf 0x1E79 0x1E79 (.sequence
  [0x75, 0x303, 0x301]) .leaf) 0x1E7A 0x1E7A (.sequence [0x55, 0x304, 0x308]) .leaf) 0x1E7B
  0x1E7B (.sequence [0x75, 0x304, 0x308]) (.node .leaf 0x1E7C 0x1E7C (.sequence [0x56, 0x303])
  .leaf)) 0x1E7D 0x1E7D (.sequence [0x76, 0x303]) (.node (.node .leaf 0x1E7E 0x1E7E (.sequence
  [0x56, 0x323]) .leaf) 0x1E7F 0x1E7F (.sequence [0x76, 0x323]) (.node .leaf 0x1E80 0x1E80
  (.sequence [0x57, 0x300]) .leaf))) 0x1E81 0x1E81 (.sequence [0x77, 0x300]) (.node (.node
  (.node .leaf 0x1E82 0x1E82 (.sequence [0x57, 0x301]) .leaf) 0x1E83 0x1E83 (.sequence
  [0x77, 0x301]) (.node .leaf 0x1E84 0x1E84 (.sequence [0x57, 0x308]) .leaf)) 0x1E85 0x1E85
  (.sequence [0x77, 0x308]) (.node (.node .leaf 0x1E86 0x1E86 (.sequence [0x57, 0x307]) .leaf)
  0x1E87 0x1E87 (.sequence [0x77, 0x307]) (.node .leaf 0x1E88 0x1E88 (.sequence [0x57, 0x323])
  .leaf)))))) 0x1E89 0x1E89 (.sequence [0x77, 0x323]) (.node (.node (.node (.node (.node
  (.node (.node .leaf 0x1E8A 0x1E8A (.sequence [0x58, 0x307]) .leaf) 0x1E8B 0x1E8B (.sequence
  [0x78, 0x307]) .leaf) 0x1E8C 0x1E8C (.sequence [0x58, 0x308]) (.node .leaf 0x1E8D 0x1E8D
  (.sequence [0x78, 0x308]) .leaf)) 0x1E8E 0x1E8E (.sequence [0x59, 0x307]) (.node (.node
  .leaf 0x1E8F 0x1E8F (.sequence [0x79, 0x307]) .leaf) 0x1E90 0x1E90 (.sequence [0x5A, 0x302])
  (.node .leaf 0x1E91 0x1E91 (.sequence [0x7A, 0x302]) .leaf))) 0x1E92 0x1E92 (.sequence
  [0x5A, 0x323]) (.node (.node (.node .leaf 0x1E93 0x1E93 (.sequence [0x7A, 0x323]) .leaf)
  0x1E94 0x1E94 (.sequence [0x5A, 0x331]) (.node .leaf 0x1E95 0x1E95 (.sequence [0x7A, 0x331])
  .leaf)) 0x1E96 0x1E96 (.sequence [0x68, 0x331]) (.node (.node .leaf 0x1E97 0x1E97 (.sequence
  [0x74, 0x308]) .leaf) 0x1E98 0x1E98 (.sequence [0x77, 0x30A]) (.node .leaf 0x1E99 0x1E99
  (.sequence [0x79, 0x30A]) .leaf)))) 0x1E9A 0x1E9A (.sequence [0x61, 0x2BE]) (.node (.node
  (.node (.node (.node .leaf 0x1E9B 0x1E9B (.sequence [0x73, 0x307]) .leaf) 0x1EA0 0x1EA0
  (.sequence [0x41, 0x323]) .leaf) 0x1EA1 0x1EA1 (.sequence [0x61, 0x323]) (.node .leaf 0x1EA2
  0x1EA2 (.sequence [0x41, 0x309]) .leaf)) 0x1EA3 0x1EA3 (.sequence [0x61, 0x309]) (.node
  (.node .leaf 0x1EA4 0x1EA4 (.sequence [0x41, 0x302, 0x301]) .leaf) 0x1EA5 0x1EA5 (.sequence
  [0x61, 0x302, 0x301]) (.node .leaf 0x1EA6 0x1EA6 (.sequence [0x41, 0x302, 0x300]) .leaf)))
  0x1EA7 0x1EA7 (.sequence [0x61, 0x302, 0x300]) (.node (.node (.node .leaf 0x1EA8 0x1EA8
  (.sequence [0x41, 0x302, 0x309]) .leaf) 0x1EA9 0x1EA9 (.sequence [0x61, 0x302, 0x309])
  (.node .leaf 0x1EAA 0x1EAA (.sequence [0x41, 0x302, 0x303]) .leaf)) 0x1EAB 0x1EAB (.sequence
  [0x61, 0x302, 0x303]) (.node (.node .leaf 0x1EAC 0x1EAC (.sequence [0x41, 0x323, 0x302])
  .leaf) 0x1EAD 0x1EAD (.sequence [0x61, 0x323, 0x302]) (.node .leaf 0x1EAE 0x1EAE (.sequence
  [0x41, 0x306, 0x301]) .leaf))))) 0x1EAF 0x1EAF (.sequence [0x61, 0x306, 0x301]) (.node
  (.node (.node (.node (.node (.node .leaf 0x1EB0 0x1EB0 (.sequence [0x41, 0x306, 0x300])
  .leaf) 0x1EB1 0x1EB1 (.sequence [0x61, 0x306, 0x300]) .leaf) 0x1EB2 0x1EB2 (.sequence
  [0x41, 0x306, 0x309]) (.node .leaf 0x1EB3 0x1EB3 (.sequence [0x61, 0x306, 0x309]) .leaf))
  0x1EB4 0x1EB4 (.sequence [0x41, 0x306, 0x303]) (.node (.node .leaf 0x1EB5 0x1EB5 (.sequence
  [0x61, 0x306, 0x303]) .leaf) 0x1EB6 0x1EB6 (.sequence [0x41, 0x323, 0x306]) (.node .leaf
  0x1EB7 0x1EB7 (.sequence [0x61, 0x323, 0x306]) .leaf))) 0x1EB8 0x1EB8 (.sequence
  [0x45, 0x323]) (.node (.node (.node .leaf 0x1EB9 0x1EB9 (.sequence [0x65, 0x323]) .leaf)
  0x1EBA 0x1EBA (.sequence [0x45, 0x309]) (.node .leaf 0x1EBB 0x1EBB (.sequence [0x65, 0x309])
  .leaf)) 0x1EBC 0x1EBC (.sequence [0x45, 0x303]) (.node (.node .leaf 0x1EBD 0x1EBD (.sequence
  [0x65, 0x303]) .leaf) 0x1EBE 0x1EBE (.sequence [0x45, 0x302, 0x301]) (.node .leaf 0x1EBF
  0x1EBF (.sequence [0x65, 0x302, 0x301]) .leaf)))) 0x1EC0 0x1EC0 (.sequence
  [0x45, 0x302, 0x300]) (.node (.node (.node (.node (.node .leaf 0x1EC1 0x1EC1 (.sequence
  [0x65, 0x302, 0x300]) .leaf) 0x1EC2 0x1EC2 (.sequence [0x45, 0x302, 0x309]) .leaf) 0x1EC3
  0x1EC3 (.sequence [0x65, 0x302, 0x309]) (.node .leaf 0x1EC4 0x1EC4 (.sequence
  [0x45, 0x302, 0x303]) .leaf)) 0x1EC5 0x1EC5 (.sequence [0x65, 0x302, 0x303]) (.node (.node
  .leaf 0x1EC6 0x1EC6 (.sequence [0x45, 0x323, 0x302]) .leaf) 0x1EC7 0x1EC7 (.sequence
  [0x65, 0x323, 0x302]) (.node .leaf 0x1EC8 0x1EC8 (.sequence [0x49, 0x309]) .leaf))) 0x1EC9
  0x1EC9 (.sequence [0x69, 0x309]) (.node (.node (.node .leaf 0x1ECA 0x1ECA (.sequence
  [0x49, 0x323]) .leaf) 0x1ECB 0x1ECB (.sequence [0x69, 0x323]) (.node .leaf 0x1ECC 0x1ECC
  (.sequence [0x4F, 0x323]) .leaf)) 0x1ECD 0x1ECD (.sequence [0x6F, 0x323]) (.node (.node
  .leaf 0x1ECE 0x1ECE (.sequence [0x4F, 0x309]) .leaf) 0x1ECF 0x1ECF (.sequence [0x6F, 0x309])
  (.node .leaf 0x1ED0 0x1ED0 (.sequence [0x4F, 0x302, 0x301]) .leaf)))))))) 0x1ED1 0x1ED1
  (.sequence [0x6F, 0x302, 0x301]) (.node (.node (.node (.node (.node (.node (.node (.node
  (.node .leaf 0x1ED2 0x1ED2 (.sequence [0x4F, 0x302, 0x300]) .leaf) 0x1ED3 0x1ED3 (.sequence
  [0x6F, 0x302, 0x300]) .leaf) 0x1ED4 0x1ED4 (.sequence [0x4F, 0x302, 0x309]) (.node .leaf
  0x1ED5 0x1ED5 (.sequence [0x6F, 0x302, 0x309]) .leaf)) 0x1ED6 0x1ED6 (.sequence
  [0x4F, 0x302, 0x303]) (.node (.node .leaf 0x1ED7 0x1ED7 (.sequence [0x6F, 0x302, 0x303])
  .leaf) 0x1ED8 0x1ED8 (.sequence [0x4F, 0x323, 0x302]) (.node .leaf 0x1ED9 0x1ED9 (.sequence
  [0x6F, 0x323, 0x302]) .leaf))) 0x1EDA 0x1EDA (.sequence [0x4F, 0x31B, 0x301]) (.node (.node
  (.node (.node .leaf 0x1EDB 0x1EDB (.sequence [0x6F, 0x31B, 0x301]) .leaf) 0x1EDC 0x1EDC
  (.sequence [0x4F, 0x31B, 0x300]) .leaf) 0x1EDD 0x1EDD (.sequence [0x6F, 0x31B, 0x300])
  (.node .leaf 0x1EDE 0x1EDE (.sequence [0x4F, 0x31B, 0x309]) .leaf)) 0x1EDF 0x1EDF (.sequence
  [0x6F, 0x31B, 0x309]) (.node (.node .leaf 0x1EE0 0x1EE0 (.sequence [0x4F, 0x31B, 0x303])
  .leaf) 0x1EE1 0x1EE1 (.sequence [0x6F, 0x31B, 0x303]) (.node .leaf 0x1EE2 0x1EE2 (.sequence
  [0x4F, 0x31B, 0x323]) .leaf)))) 0x1EE3 0x1EE3 (.sequence [0x6F, 0x31B, 0x323]) (.node (.node
  (.node (.node (.node .leaf 0x1EE4 0x1EE4 (.sequence [0x55, 0x323]) .leaf) 0x1EE5 0x1EE5
  (.sequence [0x75, 0x323]) .leaf) 0x1EE6 0x1EE6 (.sequence [0x55, 0x309]) (.node .leaf 0x1EE7
  0x1EE7 (.sequence [0x75, 0x309]) .leaf)) 0x1EE8 0x1EE8 (.sequence [0x55, 0x31B, 0x301])
  (.node (.node .leaf 0x1EE9 0x1EE9 (.sequence [0x75, 0x31B, 0x301]) .leaf) 0x1EEA 0x1EEA
  (.sequence [0x55, 0x31B, 0x300]) (.node .leaf 0x1EEB 0x1EEB (.sequence [0x75, 0x31B, 0x300])
  .leaf))) 0x1EEC 0x1EEC (.sequence [0x55, 0x31B, 0x309]) (.node (.node (.node .leaf 0x1EED
  0x1EED (.sequence [0x75, 0x31B, 0x309]) .leaf) 0x1EEE 0x1EEE (.sequence [0x55, 0x31B, 0x303])
  (.node .leaf 0x1EEF 0x1EEF (.sequence [0x75, 0x31B, 0x303]) .leaf)) 0x1EF0 0x1EF0 (.sequence
  [0x55, 0x31B, 0x323]) (.node (.node .leaf 0x1EF1 0x1EF1 (.sequence [0x75, 0x31B, 0x323])
  .leaf) 0x1EF2 0x1EF2 (.sequence [0x59, 0x300]) (.node .leaf 0x1EF3 0x1EF3 (.sequence
  [0x79, 0x300]) .leaf))))) 0x1EF4 0x1EF4 (.sequence [0x59, 0x323]) (.node (.node (.node
  (.node (.node (.node .leaf 0x1EF5 0x1EF5 (.sequence [0x79, 0x323]) .leaf) 0x1EF6 0x1EF6
  (.sequence [0x59, 0x309]) .leaf) 0x1EF7 0x1EF7 (.sequence [0x79, 0x309]) (.node .leaf 0x1EF8
  0x1EF8 (.sequence [0x59, 0x303]) .leaf)) 0x1EF9 0x1EF9 (.sequence [0x79, 0x303]) (.node
  (.node .leaf 0x1F00 0x1F00 (.sequence [0x3B1, 0x313]) .leaf) 0x1F01 0x1F01 (.sequence
  [0x3B1, 0x314]) (.node .leaf 0x1F02 0x1F02 (.sequence [0x3B1, 0x313, 0x300]) .leaf))) 0x1F03
  0x1F03 (.sequence [0x3B1, 0x314, 0x300]) (.node (.node (.node .leaf 0x1F04 0x1F04 (.sequence
  [0x3B1, 0x313, 0x301]) .leaf) 0x1F05 0x1F05 (.sequence [0x3B1, 0x314, 0x301]) (.node .leaf
  0x1F06 0x1F06 (.sequence [0x3B1, 0x313, 0x342]) .leaf)) 0x1F07 0x1F07 (.sequence
  [0x3B1, 0x314, 0x342]) (.node (.node .leaf 0x1F08 0x1F08 (.sequence [0x391, 0x313]) .leaf)
  0x1F09 0x1F09 (.sequence [0x391, 0x314]) (.node .leaf 0x1F0A 0x1F0A (.sequence
  [0x391, 0x313, 0x300]) .leaf)))) 0x1F0B 0x1F0B (.sequence [0x391, 0x314, 0x300]) (.node
  (.node (.node (.node (.node .leaf 0x1F0C 0x1F0C (.sequence [0x391, 0x313, 0x301]) .leaf)
  0x1F0D 0x1F0D (.sequence [0x391, 0x314, 0x301]) .leaf) 0x1F0E 0x1F0E (.sequence
  [0x391, 0x313, 0x342]) (.node .leaf 0x1F0F 0x1F0F (.sequence [0x391, 0x314, 0x342]) .leaf))
  0x1F10 0x1F10 (.sequence [0x3B5, 0x313]) (.node (.node .leaf 0x1F11 0x1F11 (.sequence
  [0x3B5, 0x314]) .leaf) 0x1F12 0x1F12 (.sequence [0x3B5, 0x313, 0x300]) (.node .leaf 0x1F13
  0x1F13 (.sequence [0x3B5, 0x314, 0x300]) .leaf))) 0x1F14 0x1F14 (.sequence
  [0x3B5, 0x313, 0x301]) (.node (.node (.node .leaf 0x1F15 0x1F15 (.sequence
  [0x3B5, 0x314, 0x301]) .leaf) 0x1F18 0x1F18 (.sequence [0x395, 0x313]) (.node .leaf 0x1F19
  0x1F19 (.sequence [0x395, 0x314]) .leaf)) 0x1F1A 0x1F1A (.sequence [0x395, 0x313, 0x300])
  (.node (.node .leaf 0x1F1B 0x1F1B (.sequence [0x395, 0x314, 0x300]) .leaf) 0x1F1C 0x1F1C
  (.sequence [0x395, 0x313, 0x301]) (.node .leaf 0x1F1D 0x1F1D (.sequence
  [0x395, 0x314, 0x301]) .leaf)))))) 0x1F20 0x1F20 (.sequence [0x3B7, 0x313]) (.node (.node
  (.node (.node (.node (.node (.node .leaf 0x1F21 0x1F21 (.sequence [0x3B7, 0x314]) .leaf)
  0x1F22 0x1F22 (.sequence [0x3B7, 0x313, 0x300]) .leaf) 0x1F23 0x1F23 (.sequence
  [0x3B7, 0x314, 0x300]) (.node .leaf 0x1F24 0x1F24 (.sequence [0x3B7, 0x313, 0x301]) .leaf))
  0x1F25 0x1F25 (.sequence [0x3B7, 0x314, 0x301]) (.node (.node .leaf 0x1F26 0x1F26 (.sequence
  [0x3B7, 0x313, 0x342]) .leaf) 0x1F27 0x1F27 (.sequence [0x3B7, 0x314, 0x342]) (.node .leaf
  0x1F28 0x1F28 (.sequence [0x397, 0x313]) .leaf))) 0x1F29 0x1F29 (.sequence [0x397, 0x314])
  (.node (.node (.node .leaf 0x1F2A 0x1F2A (.sequence [0x397, 0x313, 0x300]) .leaf) 0x1F2B
  0x1F2B (.sequence [0x397, 0x314, 0x300]) (.node .leaf 0x1F2C 0x1F2C (.sequence
  [0x397, 0x313, 0x301]) .leaf)) 0x1F2D 0x1F2D (.sequence [0x397, 0x314, 0x301]) (.node (.node
  .leaf 0x1F2E 0x1F2E (.sequence [0x397, 0x313, 0x342]) .leaf) 0x1F2F 0x1F2F (.sequence
  [0x397, 0x314, 0x342]) (.node .leaf 0x1F30 0x1F30 (.sequence [0x3B9, 0x313]) .leaf))))
  0x1F31 0x1F31 (.sequence [0x3B9, 0x314]) (.node (.node (.node (.node (.node .leaf 0x1F32
  0x1F32 (.sequence [0x3B9, 0x313, 0x300]) .leaf) 0x1F33 0x1F33 (.sequence
  [0x3B9, 0x314, 0x300]) .leaf) 0x1F34 0x1F34 (.sequence [0x3B9, 0x313, 0x301]) (.node .leaf
  0x1F35 0x1F35 (.sequence [0x3B9, 0x314, 0x301]) .leaf)) 0x1F36 0x1F36 (.sequence
  [0x3B9, 0x313, 0x342]) (.node (.node .leaf 0x1F37 0x1F37 (.sequence [0x3B9, 0x314, 0x342])
  .leaf) 0x1F38 0x1F38 (.sequence [0x399, 0x313]) (.node .leaf 0x1F39 0x1F39 (.sequence
  [0x399, 0x314]) .leaf))) 0x1F3A 0x1F3A (.sequence [0x399, 0x313, 0x300]) (.node (.node
  (.node .leaf 0x1F3B 0x1F3B (.sequence [0x399, 0x314, 0x300]) .leaf) 0x1F3C 0x1F3C (.sequence
  [0x399, 0x313, 0x301]) (.node .leaf 0x1F3D 0x1F3D (.sequence [0x399, 0x314, 0x301]) .leaf))
  0x1F3E 0x1F3E (.sequence [0x399, 0x313, 0x342]) (.node (.node .leaf 0x1F3F 0x1F3F (.sequence
  [0x399, 0x314, 0x342]) .leaf) 0x1F40 0x1F40 (.sequence [0x3BF, 0x313]) (.node .leaf 0x1F41
  0x1F41 (.sequence [0x3BF, 0x314]) .leaf))))) 0x1F42 0x1F42 (.sequence [0x3BF, 0x313, 0x300])
  (.node (.node (.node (.node (.node (.node .leaf 0x1F43 0x1F43 (.sequence
  [0x3BF, 0x314, 0x300]) .leaf) 0x1F44 0x1F44 (.sequence [0x3BF, 0x313, 0x301]) .leaf) 0x1F45
  0x1F45 (.sequence [0x3BF, 0x314, 0x301]) (.node .leaf 0x1F48 0x1F48 (.sequence
  [0x39F, 0x313]) .leaf)) 0x1F49 0x1F49 (.sequence [0x39F, 0x314]) (.node (.node .leaf 0x1F4A
  0x1F4A (.sequence [0x39F, 0x313, 0x300]) .leaf) 0x1F4B 0x1F4B (.sequence
  [0x39F, 0x314, 0x300]) (.node .leaf 0x1F4C 0x1F4C (.sequence [0x39F, 0x313, 0x301]) .leaf)))
  0x1F4D 0x1F4D (.sequence [0x39F, 0x314, 0x301]) (.node (.node (.node .leaf 0x1F50 0x1F50
  (.sequence [0x3C5, 0x313]) .leaf) 0x1F51 0x1F51 (.sequence [0x3C5, 0x314]) (.node .leaf
  0x1F52 0x1F52 (.sequence [0x3C5, 0x313, 0x300]) .leaf)) 0x1F53 0x1F53 (.sequence
  [0x3C5, 0x314, 0x300]) (.node (.node .leaf 0x1F54 0x1F54 (.sequence [0x3C5, 0x313, 0x301])
  .leaf) 0x1F55 0x1F55 (.sequence [0x3C5, 0x314, 0x301]) (.node .leaf 0x1F56 0x1F56 (.sequence
  [0x3C5, 0x313, 0x342]) .leaf)))) 0x1F57 0x1F57 (.sequence [0x3C5, 0x314, 0x342]) (.node
  (.node (.node (.node (.node .leaf 0x1F59 0x1F59 (.sequence [0x3A5, 0x314]) .leaf) 0x1F5B
  0x1F5B (.sequence [0x3A5, 0x314, 0x300]) .leaf) 0x1F5D 0x1F5D (.sequence
  [0x3A5, 0x314, 0x301]) (.node .leaf 0x1F5F 0x1F5F (.sequence [0x3A5, 0x314, 0x342]) .leaf))
  0x1F60 0x1F60 (.sequence [0x3C9, 0x313]) (.node (.node .leaf 0x1F61 0x1F61 (.sequence
  [0x3C9, 0x314]) .leaf) 0x1F62 0x1F62 (.sequence [0x3C9, 0x313, 0x300]) (.node .leaf 0x1F63
  0x1F63 (.sequence [0x3C9, 0x314, 0x300]) .leaf))) 0x1F64 0x1F64 (.sequence
  [0x3C9, 0x313, 0x301]) (.node (.node (.node .leaf 0x1F65 0x1F65 (.sequence
  [0x3C9, 0x314, 0x301]) .leaf) 0x1F66 0x1F66 (.sequence [0x3C9, 0x313, 0x342]) (.node .leaf
  0x1F67 0x1F67 (.sequence [0x3C9, 0x314, 0x342]) .leaf)) 0x1F68 0x1F68 (.sequence
  [0x3A9, 0x313]) (.node (.node .leaf 0x1F69 0x1F69 (.sequence [0x3A9, 0x314]) .leaf) 0x1F6A
  0x1F6A (.sequence [0x3A9, 0x313, 0x300]) (.node .leaf 0x1F6B 0x1F6B (.sequence
  [0x3A9, 0x314, 0x300]) .leaf))))))) 0x1F6C 0x1F6C (.sequence [0x3A9, 0x313, 0x301]) (.node
  (.node (.node (.node (.node (.node (.node (.node .leaf 0x1F6D 0x1F6D (.sequence
  [0x3A9, 0x314, 0x301]) .leaf) 0x1F6E 0x1F6E (.sequence [0x3A9, 0x313, 0x342]) .leaf) 0x1F6F
  0x1F6F (.sequence [0x3A9, 0x314, 0x342]) (.node .leaf 0x1F70 0x1F70 (.sequence
  [0x3B1, 0x300]) .leaf)) 0x1F71 0x1F71 (.sequence [0x3B1, 0x301]) (.node (.node .leaf 0x1F72
  0x1F72 (.sequence [0x3B5, 0x300]) .leaf) 0x1F73 0x1F73 (.sequence [0x3B5, 0x301]) (.node
  .leaf 0x1F74 0x1F74 (.sequence [0x3B7, 0x300]) .leaf))) 0x1F75 0x1F75 (.sequence
  [0x3B7, 0x301]) (.node (.node (.node (.node .leaf 0x1F76 0x1F76 (.sequence [0x3B9, 0x300])
  .leaf) 0x1F77 0x1F77 (.sequence [0x3B9, 0x301]) .leaf) 0x1F78 0x1F78 (.sequence
  [0x3BF, 0x300]) (.node .leaf 0x1F79 0x1F79 (.sequence [0x3BF, 0x301]) .leaf)) 0x1F7A 0x1F7A
  (.sequence [0x3C5, 0x300]) (.node (.node .leaf 0x1F7B 0x1F7B (.sequence [0x3C5, 0x301])
  .leaf) 0x1F7C 0x1F7C (.sequence [0x3C9, 0x300]) (.node .leaf 0x1F7D 0x1F7D (.sequence
  [0x3C9, 0x301]) .leaf)))) 0x1F80 0x1F80 (.sequence [0x3B1, 0x313, 0x345]) (.node (.node
  (.node (.node (.node .leaf 0x1F81 0x1F81 (.sequence [0x3B1, 0x314, 0x345]) .leaf) 0x1F82
  0x1F82 (.sequence [0x3B1, 0x313, 0x300, 0x345]) .leaf) 0x1F83 0x1F83 (.sequence
  [0x3B1, 0x314, 0x300, 0x345]) (.node .leaf 0x1F84 0x1F84 (.sequence
  [0x3B1, 0x313, 0x301, 0x345]) .leaf)) 0x1F85 0x1F85 (.sequence [0x3B1, 0x314, 0x301, 0x345])
  (.node (.node .leaf 0x1F86 0x1F86 (.sequence [0x3B1, 0x313, 0x342, 0x345]) .leaf) 0x1F87
  0x1F87 (.sequence [0x3B1, 0x314, 0x342, 0x345]) (.node .leaf 0x1F88 0x1F88 (.sequence
  [0x391, 0x313, 0x345]) .leaf))) 0x1F89 0x1F89 (.sequence [0x391, 0x314, 0x345]) (.node
  (.node (.node .leaf 0x1F8A 0x1F8A (.sequence [0x391, 0x313, 0x300, 0x345]) .leaf) 0x1F8B
  0x1F8B (.sequence [0x391, 0x314, 0x300, 0x345]) (.node .leaf 0x1F8C 0x1F8C (.sequence
  [0x391, 0x313, 0x301, 0x345]) .leaf)) 0x1F8D 0x1F8D (.sequence [0x391, 0x314, 0x301, 0x345])
  (.node (.node .leaf 0x1F8E 0x1F8E (.sequence [0x391, 0x313, 0x342, 0x345]) .leaf) 0x1F8F
  0x1F8F (.sequence [0x391, 0x314, 0x342, 0x345]) (.node .leaf 0x1F90 0x1F90 (.sequence
  [0x3B7, 0x313, 0x345]) .leaf))))) 0x1F91 0x1F91 (.sequence [0x3B7, 0x314, 0x345]) (.node
  (.node (.node (.node (.node (.node .leaf 0x1F92 0x1F92 (.sequence
  [0x3B7, 0x313, 0x300, 0x345]) .leaf) 0x1F93 0x1F93 (.sequence [0x3B7, 0x314, 0x300, 0x345])
  .leaf) 0x1F94 0x1F94 (.sequence [0x3B7, 0x313, 0x301, 0x345]) (.node .leaf 0x1F95 0x1F95
  (.sequence [0x3B7, 0x314, 0x301, 0x345]) .leaf)) 0x1F96 0x1F96 (.sequence
  [0x3B7, 0x313, 0x342, 0x345]) (.node (.node .leaf 0x1F97 0x1F97 (.sequence
  [0x3B7, 0x314, 0x342, 0x345]) .leaf) 0x1F98 0x1F98 (.sequence [0x397, 0x313, 0x345]) (.node
  .leaf 0x1F99 0x1F99 (.sequence [0x397, 0x314, 0x345]) .leaf))) 0x1F9A 0x1F9A (.sequence
  [0x397, 0x313, 0x300, 0x345]) (.node (.node (.node .leaf 0x1F9B 0x1F9B (.sequence
  [0x397, 0x314, 0x300, 0x345]) .leaf) 0x1F9C 0x1F9C (.sequence [0x397, 0x313, 0x301, 0x345])
  (.node .leaf 0x1F9D 0x1F9D (.sequence [0x397, 0x314, 0x301, 0x345]) .leaf)) 0x1F9E 0x1F9E
  (.sequence [0x397, 0x313, 0x342, 0x345]) (.node (.node .leaf 0x1F9F 0x1F9F (.sequence
  [0x397, 0x314, 0x342, 0x345]) .leaf) 0x1FA0 0x1FA0 (.sequence [0x3C9, 0x313, 0x345]) (.node
  .leaf 0x1FA1 0x1FA1 (.sequence [0x3C9, 0x314, 0x345]) .leaf)))) 0x1FA2 0x1FA2 (.sequence
  [0x3C9, 0x313, 0x300, 0x345]) (.node (.node (.node (.node (.node .leaf 0x1FA3 0x1FA3
  (.sequence [0x3C9, 0x314, 0x300, 0x345]) .leaf) 0x1FA4 0x1FA4 (.sequence
  [0x3C9, 0x313, 0x301, 0x345]) .leaf) 0x1FA5 0x1FA5 (.sequence [0x3C9, 0x314, 0x301, 0x345])
  (.node .leaf 0x1FA6 0x1FA6 (.sequence [0x3C9, 0x313, 0x342, 0x345]) .leaf)) 0x1FA7 0x1FA7
  (.sequence [0x3C9, 0x314, 0x342, 0x345]) (.node (.node .leaf 0x1FA8 0x1FA8 (.sequence
  [0x3A9, 0x313, 0x345]) .leaf) 0x1FA9 0x1FA9 (.sequence [0x3A9, 0x314, 0x345]) (.node .leaf
  0x1FAA 0x1FAA (.sequence [0x3A9, 0x313, 0x300, 0x345]) .leaf))) 0x1FAB 0x1FAB (.sequence
  [0x3A9, 0x314, 0x300, 0x345]) (.node (.node (.node .leaf 0x1FAC 0x1FAC (.sequence
  [0x3A9, 0x313, 0x301, 0x345]) .leaf) 0x1FAD 0x1FAD (.sequence [0x3A9, 0x314, 0x301, 0x345])
  (.node .leaf 0x1FAE 0x1FAE (.sequence [0x3A9, 0x313, 0x342, 0x345]) .leaf)) 0x1FAF 0x1FAF
  (.sequence [0x3A9, 0x314, 0x342, 0x345]) (.node (.node .leaf 0x1FB0 0x1FB0 (.sequence
  [0x3B1, 0x306]) .leaf) 0x1FB1 0x1FB1 (.sequence [0x3B1, 0x304]) (.node .leaf 0x1FB2 0x1FB2
  (.sequence [0x3B1, 0x300, 0x345]) .leaf)))))) 0x1FB3 0x1FB3 (.sequence [0x3B1, 0x345])
  (.node (.node (.node (.node (.node (.node (.node .leaf 0x1FB4 0x1FB4 (.sequence
  [0x3B1, 0x301, 0x345]) .leaf) 0x1FB6 0x1FB6 (.sequence [0x3B1, 0x342]) .leaf) 0x1FB7 0x1FB7
  (.sequence [0x3B1, 0x342, 0x345]) (.node .leaf 0x1FB8 0x1FB8 (.sequence [0x391, 0x306])
  .leaf)) 0x1FB9 0x1FB9 (.sequence [0x391, 0x304]) (.node (.node .leaf 0x1FBA 0x1FBA
  (.sequence [0x391, 0x300]) .leaf) 0x1FBB 0x1FBB (.sequence [0x391, 0x301]) (.node .leaf
  0x1FBC 0x1FBC (.sequence [0x391, 0x345]) .leaf))) 0x1FBD 0x1FBD (.sequence [0x20, 0x313])
  (.node (.node (.node .leaf 0x1FBE 0x1FBE (.sequence [0x3B9]) .leaf) 0x1FBF 0x1FBF (.sequence
  [0x20, 0x313]) (.node .leaf 0x1FC0 0x1FC0 (.sequence [0x20, 0x342]) .leaf)) 0x1FC1 0x1FC1
  (.sequence [0x20, 0x308, 0x342]) (.node (.node .leaf 0x1FC2 0x1FC2 (.sequence
  [0x3B7, 0x300, 0x345]) .leaf) 0x1FC3 0x1FC3 (.sequence [0x3B7, 0x345]) (.node .leaf 0x1FC4
  0x1FC4 (.sequence [0x3B7, 0x301, 0x345]) .leaf)))) 0x1FC6 0x1FC6 (.sequence [0x3B7, 0x342])
  (.node (.node (.node (.node (.node .leaf 0x1FC7 0x1FC7 (.sequence [0x3B7, 0x342, 0x345])
  .leaf) 0x1FC8 0x1FC8 (.sequence [0x395, 0x300]) .leaf) 0x1FC9 0x1FC9 (.sequence
  [0x395, 0x301]) (.node .leaf 0x1FCA 0x1FCA (.sequence [0x397, 0x300]) .leaf)) 0x1FCB 0x1FCB
  (.sequence [0x397, 0x301]) (.node (.node .leaf 0x1FCC 0x1FCC (.sequence [0x397, 0x345])
  .leaf) 0x1FCD 0x1FCD (.sequence [0x20, 0x313, 0x300]) (.node .leaf 0x1FCE 0x1FCE (.sequence
  [0x20, 0x313, 0x301]) .leaf))) 0x1FCF 0x1FCF (.sequence [0x20, 0x313, 0x342]) (.node (.node
  (.node .leaf 0x1FD0 0x1FD0 (.sequence [0x3B9, 0x306]) .leaf) 0x1FD1 0x1FD1 (.sequence
  [0x3B9, 0x304]) (.node .leaf 0x1FD2 0x1FD2 (.sequence [0x3B9, 0x308, 0x300]) .leaf)) 0x1FD3
  0x1FD3 (.sequence [0x3B9, 0x308, 0x301]) (.node (.node .leaf 0x1FD6 0x1FD6 (.sequence
  [0x3B9, 0x342]) .leaf) 0x1FD7 0x1FD7 (.sequence [0x3B9, 0x308, 0x342]) (.node .leaf 0x1FD8
  0x1FD8 (.sequence [0x399, 0x306]) .leaf))))) 0x1FD9 0x1FD9 (.sequence [0x399, 0x304]) (.node
  (.node (.node (.node (.node (.node .leaf 0x1FDA 0x1FDA (.sequence [0x399, 0x300]) .leaf)
  0x1FDB 0x1FDB (.sequence [0x399, 0x301]) .leaf) 0x1FDD 0x1FDD (.sequence
  [0x20, 0x314, 0x300]) (.node .leaf 0x1FDE 0x1FDE (.sequence [0x20, 0x314, 0x301]) .leaf))
  0x1FDF 0x1FDF (.sequence [0x20, 0x314, 0x342]) (.node (.node .leaf 0x1FE0 0x1FE0 (.sequence
  [0x3C5, 0x306]) .leaf) 0x1FE1 0x1FE1 (.sequence [0x3C5, 0x304]) (.node .leaf 0x1FE2 0x1FE2
  (.sequence [0x3C5, 0x308, 0x300]) .leaf))) 0x1FE3 0x1FE3 (.sequence [0x3C5, 0x308, 0x301])
  (.node (.node (.node .leaf 0x1FE4 0x1FE4 (.sequence [0x3C1, 0x313]) .leaf) 0x1FE5 0x1FE5
  (.sequence [0x3C1, 0x314]) (.node .leaf 0x1FE6 0x1FE6 (.sequence [0x3C5, 0x342]) .leaf))
  0x1FE7 0x1FE7 (.sequence [0x3C5, 0x308, 0x342]) (.node (.node .leaf 0x1FE8 0x1FE8 (.sequence
  [0x3A5, 0x306]) .leaf) 0x1FE9 0x1FE9 (.sequence [0x3A5, 0x304]) (.node .leaf 0x1FEA 0x1FEA
  (.sequence [0x3A5, 0x300]) .leaf)))) 0x1FEB 0x1FEB (.sequence [0x3A5, 0x301]) (.node (.node
  (.node (.node (.node .leaf 0x1FEC 0x1FEC (.sequence [0x3A1, 0x314]) .leaf) 0x1FED 0x1FED
  (.sequence [0x20, 0x308, 0x300]) .leaf) 0x1FEE 0x1FEE (.sequence [0x20, 0x308, 0x301])
  (.node .leaf 0x1FEF 0x1FEF (.sequence [0x60]) .leaf)) 0x1FF2 0x1FF2 (.sequence
  [0x3C9, 0x300, 0x345]) (.node (.node .leaf 0x1FF3 0x1FF3 (.sequence [0x3C9, 0x345]) .leaf)
  0x1FF4 0x1FF4 (.sequence [0x3C9, 0x301, 0x345]) (.node .leaf 0x1FF6 0x1FF6 (.sequence
  [0x3C9, 0x342]) .leaf))) 0x1FF7 0x1FF7 (.sequence [0x3C9, 0x342, 0x345]) (.node (.node
  (.node .leaf 0x1FF8 0x1FF8 (.sequence [0x39F, 0x300]) .leaf) 0x1FF9 0x1FF9 (.sequence
  [0x39F, 0x301]) (.node .leaf 0x1FFA 0x1FFA (.sequence [0x3A9, 0x300]) .leaf)) 0x1FFB 0x1FFB
  (.sequence [0x3A9, 0x301]) (.node (.node .leaf 0x1FFC 0x1FFC (.sequence [0x3A9, 0x345])
  .leaf) 0x1FFD 0x1FFD (.sequence [0x20, 0x301]) (.node .leaf 0x1FFE 0x1FFE (.sequence
  [0x20, 0x314]) .leaf))))))))

end StreamTable.Unicode
