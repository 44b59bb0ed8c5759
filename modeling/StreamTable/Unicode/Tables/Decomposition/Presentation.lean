import StreamTable.Unicode.Image

/-! The full compatibility decompositions of the presentation and width forms, U+FB00 to U+FFFF. -/

namespace StreamTable.Unicode

set_option maxRecDepth 100000 in
def presentationDecompositions : RangeMap Image :=
  .node (.node (.node (.node (.node (.node (.node (.node (.node (.node .leaf 0xFB00 0xFB00
  (.sequence [0x66, 0x66]) .leaf) 0xFB01 0xFB01 (.sequence [0x66, 0x69]) (.node .leaf 0xFB02
  0xFB02 (.sequence [0x66, 0x6C]) .leaf)) 0xFB03 0xFB03 (.sequence [0x66, 0x66, 0x69]) (.node
  (.node .leaf 0xFB04 0xFB04 (.sequence [0x66, 0x66, 0x6C]) .leaf) 0xFB05 0xFB05 (.sequence
  [0x73, 0x74]) .leaf)) 0xFB06 0xFB06 (.sequence [0x73, 0x74]) (.node (.node (.node .leaf
  0xFB13 0xFB13 (.sequence [0x574, 0x576]) .leaf) 0xFB14 0xFB14 (.sequence [0x574, 0x565])
  (.node .leaf 0xFB15 0xFB15 (.sequence [0x574, 0x56B]) .leaf)) 0xFB16 0xFB16 (.sequence
  [0x57E, 0x576]) (.node (.node .leaf 0xFB17 0xFB17 (.sequence [0x574, 0x56D]) .leaf) 0xFB1D
  0xFB1D (.sequence [0x5D9, 0x5B4]) .leaf))) 0xFB1F 0xFB1F (.sequence [0x5F2, 0x5B7]) (.node
  (.node (.node (.node .leaf 0xFB20 0xFB20 (.sequence [0x5E2]) .leaf) 0xFB21 0xFB21 (.sequence
  [0x5D0]) (.node .leaf 0xFB22 0xFB23 (.consecutive 0x5D3) .leaf)) 0xFB24 0xFB26 (.consecutive
  0x5DB) (.node (.node .leaf 0xFB27 0xFB27 (.sequence [0x5E8]) .leaf) 0xFB28 0xFB28 (.sequence
  [0x5EA]) .leaf)) 0xFB29 0xFB29 (.sequence [0x2B]) (.node (.node (.node .leaf 0xFB2A 0xFB2A
  (.sequence [0x5E9, 0x5C1]) .leaf) 0xFB2B 0xFB2B (.sequence [0x5E9, 0x5C2]) (.node .leaf
  0xFB2C 0xFB2C (.sequence [0x5E9, 0x5BC, 0x5C1]) .leaf)) 0xFB2D 0xFB2D (.sequence
  [0x5E9, 0x5BC, 0x5C2]) (.node (.node .leaf 0xFB2E 0xFB2E (.sequence [0x5D0, 0x5B7]) .leaf)
  0xFB2F 0xFB2F (.sequence [0x5D0, 0x5B8]) .leaf)))) 0xFB30 0xFB30 (.sequence [0x5D0, 0x5BC])
  (.node (.node (.node (.node (.node .leaf 0xFB31 0xFB31 (.sequence [0x5D1, 0x5BC]) .leaf)
  0xFB32 0xFB32 (.sequence [0x5D2, 0x5BC]) (.node .leaf 0xFB33 0xFB33 (.sequence
  [0x5D3, 0x5BC]) .leaf)) 0xFB34 0xFB34 (.sequence [0x5D4, 0x5BC]) (.node (.node .leaf 0xFB35
  0xFB35 (.sequence [0x5D5, 0x5BC]) .leaf) 0xFB36 0xFB36 (.sequence [0x5D6, 0x5BC]) .leaf))
  0xFB38 0xFB38 (.sequence [0x5D8, 0x5BC]) (.node (.node (.node .leaf 0xFB39 0xFB39 (.sequence
  [0x5D9, 0x5BC]) .leaf) 0xFB3A 0xFB3A (.sequence [0x5DA, 0x5BC]) (.node .leaf 0xFB3B 0xFB3B
  (.sequence [0x5DB, 0x5BC]) .leaf)) 0xFB3C 0xFB3C (.sequence [0x5DC, 0x5BC]) (.node (.node
  .leaf 0xFB3E 0xFB3E (.sequence [0x5DE, 0x5BC]) .leaf) 0xFB40 0xFB40 (.sequence
  [0x5E0, 0x5BC]) .leaf))) 0xFB41 0xFB41 (.sequence [0x5E1, 0x5BC]) (.node (.node (.node
  (.node .leaf 0xFB43 0xFB43 (.sequence [0x5E3, 0x5BC]) .leaf) 0xFB44 0xFB44 (.sequence
  [0x5E4, 0x5BC]) (.node .leaf 0xFB46 0xFB46 (.sequence [0x5E6, 0x5BC]) .leaf)) 0xFB47 0xFB47
  (.sequence [0x5E7, 0x5BC]) (.node (.node .leaf 0xFB48 0xFB48 (.sequence [0x5E8, 0x5BC])
  .leaf) 0xFB49 0xFB49 (.sequence [0x5E9, 0x5BC]) .leaf)) 0xFB4A 0xFB4A (.sequence
  [0x5EA, 0x5BC]) (.node (.node (.node .leaf 0xFB4B 0xFB4B (.sequence [0x5D5, 0x5B9]) .leaf)
  0xFB4C 0xFB4C (.sequence [0x5D1, 0x5BF]) .leaf) 0xFB4D 0xFB4D (.sequence [0x5DB, 0x5BF])
  (.node (.node .leaf 0xFB4E 0xFB4E (.sequence [0x5E4, 0x5BF]) .leaf) 0xFB4F 0xFB4F (.sequence
  [0x5D0, 0x5DC]) .leaf))))) 0xFB50 0xFB50 (.sequence [0x671]) (.node (.node (.node (.node
  (.node (.node .leaf 0xFB51 0xFB51 (.sequence [0x671]) .leaf) 0xFB52 0xFB52 (.sequence
  [0x67B]) (.node .leaf 0xFB53 0xFB53 (.sequence [0x67B]) .leaf)) 0xFB54 0xFB54 (.sequence
  [0x67B]) (.node (.node .leaf 0xFB55 0xFB55 (.sequence [0x67B]) .leaf) 0xFB56 0xFB56
  (.sequence [0x67E]) .leaf)) 0xFB57 0xFB57 (.sequence [0x67E]) (.node (.node (.node .leaf
  0xFB58 0xFB58 (.sequence [0x67E]) .leaf) 0xFB59 0xFB59 (.sequence [0x67E]) (.node .leaf
  0xFB5A 0xFB5A (.sequence [0x680]) .leaf)) 0xFB5B 0xFB5B (.sequence [0x680]) (.node (.node
  .leaf 0xFB5C 0xFB5C (.sequence [0x680]) .leaf) 0xFB5D 0xFB5D (.sequence [0x680]) .leaf)))
  0xFB5E 0xFB5E (.sequence [0x67A]) (.node (.node (.node (.node .leaf 0xFB5F 0xFB5F (.sequence
  [0x67A]) .leaf) 0xFB60 0xFB60 (.sequence [0x67A]) (.node .leaf 0xFB61 0xFB61 (.sequence
  [0x67A]) .leaf)) 0xFB62 0xFB62 (.sequence [0x67F]) (.node (.node .leaf 0xFB63 0xFB63
  (.sequence [0x67F]) .leaf) 0xFB64 0xFB64 (.sequence [0x67F]) .leaf)) 0xFB65 0xFB65
  (.sequence [0x67F]) (.node (.node (.node .leaf 0xFB66 0xFB66 (.sequence [0x679]) .leaf)
  0xFB67 0xFB67 (.sequence [0x679]) (.node .leaf 0xFB68 0xFB68 (.sequence [0x679]) .leaf))
  0xFB69 0xFB69 (.sequence [0x679]) (.node (.node .leaf 0xFB6A 0xFB6A (.sequence [0x6A4])
  .leaf) 0xFB6B 0xFB6B (.sequence [0x6A4]) .leaf)))) 0xFB6C 0xFB6C (.sequence [0x6A4]) (.node
  (.node (.node (.node (.node .leaf 0xFB6D 0xFB6D (.sequence [0x6A4]) .leaf) 0xFB6E 0xFB6E
  (.sequence [0x6A6]) (.node .leaf 0xFB6F 0xFB6F (.sequence [0x6A6]) .leaf)) 0xFB70 0xFB70
  (.sequence [0x6A6]) (.node (.node .leaf 0xFB71 0xFB71 (.sequence [0x6A6]) .leaf) 0xFB72
  0xFB72 (.sequence [0x684]) .leaf)) 0xFB73 0xFB73 (.sequence [0x684]) (.node (.node (.node
  .leaf 0xFB74 0xFB74 (.sequence [0x684]) .leaf) 0xFB75 0xFB75 (.sequence [0x684]) (.node
  .leaf 0xFB76 0xFB76 (.sequence [0x683]) .leaf)) 0xFB77 0xFB77 (.sequence [0x683]) (.node
  (.node .leaf 0xFB78 0xFB78 (.sequence [0x683]) .leaf) 0xFB79 0xFB79 (.sequence [0x683])
  .leaf))) 0xFB7A 0xFB7A (.sequence [0x686]) (.node (.node (.node (.node .leaf 0xFB7B 0xFB7B
  (.sequence [0x686]) .leaf) 0xFB7C 0xFB7C (.sequence [0x686]) (.node .leaf 0xFB7D 0xFB7E
  (.consecutive 0x686) .leaf)) 0xFB7F 0xFB7F (.sequence [0x687]) (.node (.node .leaf 0xFB80
  0xFB80 (.sequence [0x687]) .leaf) 0xFB81 0xFB81 (.sequence [0x687]) .leaf)) 0xFB82 0xFB82
  (.sequence [0x68D]) (.node (.node (.node .leaf 0xFB83 0xFB83 (.sequence [0x68D]) .leaf)
  0xFB84 0xFB84 (.sequence [0x68C]) .leaf) 0xFB85 0xFB85 (.sequence [0x68C]) (.node (.node
  .leaf 0xFB86 0xFB86 (.sequence [0x68E]) .leaf) 0xFB87 0xFB87 (.sequence [0x68E]) .leaf))))))
  0xFB88 0xFB88 (.sequence [0x688]) (.node (.node (.node (.node (.node (.node (.node .leaf
  0xFB89 0xFB89 (.sequence [0x688]) .leaf) 0xFB8A 0xFB8A (.sequence [0x698]) (.node .leaf
  0xFB8B 0xFB8B (.sequence [0x698]) .leaf)) 0xFB8C 0xFB8C (.sequence [0x691]) (.node (.node
  .leaf 0xFB8D 0xFB8D (.sequence [0x691]) .leaf) 0xFB8E 0xFB8E (.sequence [0x6A9]) .leaf))
  0xFB8F 0xFB8F (.sequence [0x6A9]) (.node (.node (.node .leaf 0xFB90 0xFB90 (.sequence
  [0x6A9]) .leaf) 0xFB91 0xFB91 (.sequence [0x6A9]) (.node .leaf 0xFB92 0xFB92 (.sequence
  [0x6AF]) .leaf)) 0xFB93 0xFB93 (.sequence [0x6AF]) (.node (.node .leaf 0xFB94 0xFB94
  (.sequence [0x6AF]) .leaf) 0xFB95 0xFB95 (.sequence [0x6AF]) .leaf))) 0xFB96 0xFB96
  (.sequence [0x6B3]) (.node (.node (.node (.node .leaf 0xFB97 0xFB97 (.sequence [0x6B3])
  .leaf) 0xFB98 0xFB98 (.sequence [0x6B3]) (.node .leaf 0xFB99 0xFB99 (.sequence [0x6B3])
  .leaf)) 0xFB9A 0xFB9A (.sequence [0x6B1]) (.node (.node .leaf 0xFB9B 0xFB9B (.sequence
  [0x6B1]) .leaf) 0xFB9C 0xFB9C (.sequence [0x6B1]) .leaf)) 0xFB9D 0xFB9D (.sequence [0x6B1])
  (.node (.node (.node .leaf 0xFB9E 0xFB9E (.sequence [0x6BA]) .leaf) 0xFB9F 0xFBA0
  (.consecutive 0x6BA) (.node .leaf 0xFBA1 0xFBA1 (.sequence [0x6BB]) .leaf)) 0xFBA2 0xFBA2
  (.sequence [0x6BB]) (.node (.node .leaf 0xFBA3 0xFBA3 (.sequence [0x6BB]) .leaf) 0xFBA4
  0xFBA4 (.sequence [0x6D5, 0x654]) .leaf)))) 0xFBA5 0xFBA5 (.sequence [0x6D5, 0x654]) (.node
  (.node (.node (.node (.node .leaf 0xFBA6 0xFBA6 (.sequence [0x6C1]) .leaf) 0xFBA7 0xFBA7
  (.sequence [0x6C1]) (.node .leaf 0xFBA8 0xFBA8 (.sequence [0x6C1]) .leaf)) 0xFBA9 0xFBA9
  (.sequence [0x6C1]) (.node (.node .leaf 0xFBAA 0xFBAA (.sequence [0x6BE]) .leaf) 0xFBAB
  0xFBAB (.sequence [0x6BE]) .leaf)) 0xFBAC 0xFBAC (.sequence [0x6BE]) (.node (.node (.node
  .leaf 0xFBAD 0xFBAD (.sequence [0x6BE]) .leaf) 0xFBAE 0xFBAE (.sequence [0x6D2]) (.node
  .leaf 0xFBAF 0xFBAF (.sequence [0x6D2]) .leaf)) 0xFBB0 0xFBB0 (.sequence [0x6D2, 0x654])
  (.node (.node .leaf 0xFBB1 0xFBB1 (.sequence [0x6D2, 0x654]) .leaf) 0xFBD3 0xFBD3 (.sequence
  [0x6AD]) .leaf))) 0xFBD4 0xFBD4 (.sequence [0x6AD]) (.node (.node (.node (.node .leaf 0xFBD5
  0xFBD5 (.sequence [0x6AD]) .leaf) 0xFBD6 0xFBD6 (.sequence [0x6AD]) (.node .leaf 0xFBD7
  0xFBD7 (.sequence [0x6C7]) .leaf)) 0xFBD8 0xFBD8 (.sequence [0x6C7]) (.node (.node .leaf
  0xFBD9 0xFBD9 (.sequence [0x6C6]) .leaf) 0xFBDA 0xFBDA (.sequence [0x6C6]) .leaf)) 0xFBDB
  0xFBDB (.sequence [0x6C8]) (.node (.node (.node .leaf 0xFBDC 0xFBDC (.sequence [0x6C8])
  .leaf) 0xFBDD 0xFBDD (.sequence [0x6C7, 0x674]) .leaf) 0xFBDE 0xFBDE (.sequence [0x6CB])
  (.node (.node .leaf 0xFBDF 0xFBDF (.sequence [0x6CB]) .leaf) 0xFBE0 0xFBE0 (.sequence
  [0x6C5]) .leaf))))) 0xFBE1 0xFBE1 (.sequence [0x6C5]) (.node (.node (.node (.node (.node
  (.node .leaf 0xFBE2 0xFBE2 (.sequence [0x6C9]) .leaf) 0xFBE3 0xFBE3 (.sequence [0x6C9])
  (.node .leaf 0xFBE4 0xFBE4 (.sequence [0x6D0]) .leaf)) 0xFBE5 0xFBE5 (.sequence [0x6D0])
  (.node (.node .leaf 0xFBE6 0xFBE6 (.sequence [0x6D0]) .leaf) 0xFBE7 0xFBE7 (.sequence
  [0x6D0]) .leaf)) 0xFBE8 0xFBE8 (.sequence [0x649]) (.node (.node (.node .leaf 0xFBE9 0xFBE9
  (.sequence [0x649]) .leaf) 0xFBEA 0xFBEA (.sequence [0x64A, 0x654, 0x627]) (.node .leaf
  0xFBEB 0xFBEB (.sequence [0x64A, 0x654, 0x627]) .leaf)) 0xFBEC 0xFBEC (.sequence
  [0x64A, 0x654, 0x6D5]) (.node (.node .leaf 0xFBED 0xFBED (.sequence [0x64A, 0x654, 0x6D5])
  .leaf) 0xFBEE 0xFBEE (.sequence [0x64A, 0x654, 0x648]) .leaf))) 0xFBEF 0xFBEF (.sequence
  [0x64A, 0x654, 0x648]) (.node (.node (.node (.node .leaf 0xFBF0 0xFBF0 (.sequence
  [0x64A, 0x654, 0x6C7]) .leaf) 0xFBF1 0xFBF1 (.sequence [0x64A, 0x654, 0x6C7]) (.node .leaf
  0xFBF2 0xFBF2 (.sequence [0x64A, 0x654, 0x6C6]) .leaf)) 0xFBF3 0xFBF3 (.sequence
  [0x64A, 0x654, 0x6C6]) (.node (.node .leaf 0xFBF4 0xFBF4 (.sequence [0x64A, 0x654, 0x6C8])
  .leaf) 0xFBF5 0xFBF5 (.sequence [0x64A, 0x654, 0x6C8]) .leaf)) 0xFBF6 0xFBF6 (.sequence
  [0x64A, 0x654, 0x6D0]) (.node (.node (.node .leaf 0xFBF7 0xFBF7 (.sequence
  [0x64A, 0x654, 0x6D0]) .leaf) 0xFBF8 0xFBF8 (.sequence [0x64A, 0x654, 0x6D0]) (.node .leaf
  0xFBF9 0xFBF9 (.sequence [0x64A, 0x654, 0x649]) .leaf)) 0xFBFA 0xFBFA (.sequence
  [0x64A, 0x654, 0x649]) (.node (.node .leaf 0xFBFB 0xFBFB (.sequence [0x64A, 0x654, 0x649])
  .leaf) 0xFBFC 0xFBFC (.sequence [0x6CC]) .leaf)))) 0xFBFD 0xFBFD (.sequence [0x6CC]) (.node
  (.node (.node (.node (.node .leaf 0xFBFE 0xFBFE (.sequence [0x6CC]) .leaf) 0xFBFF 0xFBFF
  (.sequence [0x6CC]) (.node .leaf 0xFC00 0xFC00 (.sequence [0x64A, 0x654, 0x62C]) .leaf))
  0xFC01 0xFC01 (.sequence [0x64A, 0x654, 0x62D]) (.node (.node .leaf 0xFC02 0xFC02 (.sequence
  [0x64A, 0x654, 0x645]) .leaf) 0xFC03 0xFC03 (.sequence [0x64A, 0x654, 0x649]) .leaf)) 0xFC04
  0xFC04 (.sequence [0x64A, 0x654, 0x64A]) (.node (.node (.node .leaf 0xFC05 0xFC05 (.sequence
  [0x628, 0x62C]) .leaf) 0xFC06 0xFC06 (.sequence [0x628, 0x62D]) (.node .leaf 0xFC07 0xFC07
  (.sequence [0x628, 0x62E]) .leaf)) 0xFC08 0xFC08 (.sequence [0x628, 0x645]) (.node (.node
  .leaf 0xFC09 0xFC09 (.sequence [0x628, 0x649]) .leaf) 0xFC0A 0xFC0A (.sequence
  [0x628, 0x64A]) .leaf))) 0xFC0B 0xFC0B (.sequence [0x62A, 0x62C]) (.node (.node (.node
  (.node .leaf 0xFC0C 0xFC0C (.sequence [0x62A, 0x62D]) .leaf) 0xFC0D 0xFC0D (.sequence
  [0x62A, 0x62E]) (.node .leaf 0xFC0E 0xFC0E (.sequence [0x62A, 0x645]) .leaf)) 0xFC0F 0xFC0F
  (.sequence [0x62A, 0x649]) (.node (.node .leaf 0xFC10 0xFC10 (.sequence [0x62A, 0x64A])
  .leaf) 0xFC11 0xFC11 (.sequence [0x62B, 0x62C]) .leaf)) 0xFC12 0xFC12 (.sequence
  [0x62B, 0x645]) (.node (.node (.node .leaf 0xFC13 0xFC13 (.sequence [0x62B, 0x649]) .leaf)
  0xFC14 0xFC14 (.sequence [0x62B, 0x64A]) .leaf) 0xFC15 0xFC15 (.sequence [0x62C, 0x62D])
  (.node (.node .leaf 0xFC16 0xFC16 (.sequence [0x62C, 0x645]) .leaf) 0xFC17 0xFC17 (.sequence
  [0x62D, 0x62C]) .leaf))))))) 0xFC18 0xFC18 (.sequence [0x62D, 0x645]) (.node (.node (.node
  (.node (.node (.node (.node (.node .leaf 0xFC19 0xFC19 (.sequence [0x62E, 0x62C]) .leaf)
  0xFC1A 0xFC1A (.sequence [0x62E, 0x62D]) (.node .leaf 0xFC1B 0xFC1B (.sequence
  [0x62E, 0x645]) .leaf)) 0xFC1C 0xFC1C (.sequence [0x633, 0x62C]) (.node (.node .leaf 0xFC1D
  0xFC1D (.sequence [0x633, 0x62D]) .leaf) 0xFC1E 0xFC1E (.sequence [0x633, 0x62E]) .leaf))
  0xFC1F 0xFC1F (.sequence [0x633, 0x645]) (.node (.node (.node .leaf 0xFC20 0xFC20 (.sequence
  [0x635, 0x62D]) .leaf) 0xFC21 0xFC21 (.sequence [0x635, 0x645]) (.node .leaf 0xFC22 0xFC22
  (.sequence [0x636, 0x62C]) .leaf)) 0xFC23 0xFC23 (.sequence [0x636, 0x62D]) (.node (.node
  .leaf 0xFC24 0xFC24 (.sequence [0x636, 0x62E]) .leaf) 0xFC25 0xFC25 (.sequence
  [0x636, 0x645]) .leaf))) 0xFC26 0xFC26 (.sequence [0x637, 0x62D]) (.node (.node (.node
  (.node .leaf 0xFC27 0xFC27 (.sequence [0x637, 0x645]) .leaf) 0xFC28 0xFC28 (.sequence
  [0x638, 0x645]) (.node .leaf 0xFC29 0xFC29 (.sequence [0x639, 0x62C]) .leaf)) 0xFC2A 0xFC2A
  (.sequence [0x639, 0x645]) (.node (.node .leaf 0xFC2B 0xFC2B (.sequence [0x63A, 0x62C])
  .leaf) 0xFC2C 0xFC2C (.sequence [0x63A, 0x645]) .leaf)) 0xFC2D 0xFC2D (.sequence
  [0x641, 0x62C]) (.node (.node (.node .leaf 0xFC2E 0xFC2E (.sequence [0x641, 0x62D]) .leaf)
  0xFC2F 0xFC2F (.sequence [0x641, 0x62E]) (.node .leaf 0xFC30 0xFC30 (.sequence
  [0x641, 0x645]) .leaf)) 0xFC31 0xFC31 (.sequence [0x641, 0x649]) (.node (.node .leaf 0xFC32
  0xFC32 (.sequence [0x641, 0x64A]) .leaf) 0xFC33 0xFC33 (.sequence [0x642, 0x62D]) .leaf))))
  0xFC34 0xFC34 (.sequence [0x642, 0x645]) (.node (.node (.node (.node (.node .leaf 0xFC35
  0xFC35 (.sequence [0x642, 0x649]) .leaf) 0xFC36 0xFC36 (.sequence [0x642, 0x64A]) (.node
  .leaf 0xFC37 0xFC37 (.sequence [0x643, 0x627]) .leaf)) 0xFC38 0xFC38 (.sequence
  [0x643, 0x62C]) (.node (.node .leaf 0xFC39 0xFC39 (.sequence [0x643, 0x62D]) .leaf) 0xFC3A
  0xFC3A (.sequence [0x643, 0x62E]) .leaf)) 0xFC3B 0xFC3B (.sequence [0x643, 0x644]) (.node
  (.node (.node .leaf 0xFC3C 0xFC3C (.sequence [0x643, 0x645]) .leaf) 0xFC3D 0xFC3D (.sequence
  [0x643, 0x649]) (.node .leaf 0xFC3E 0xFC3E (.sequence [0x643, 0x64A]) .leaf)) 0xFC3F 0xFC3F
  (.sequence [0x644, 0x62C]) (.node (.node .leaf 0xFC40 0xFC40 (.sequence [0x644, 0x62D])
  .leaf) 0xFC41 0xFC41 (.sequence [0x644, 0x62E]) .leaf))) 0xFC42 0xFC42 (.sequence
  [0x644, 0x645]) (.node (.node (.node (.node .leaf 0xFC43 0xFC43 (.sequence [0x644, 0x649])
  .leaf) 0xFC44 0xFC44 (.sequence [0x644, 0x64A]) (.node .leaf 0xFC45 0xFC45 (.sequence
  [0x645, 0x62C]) .leaf)) 0xFC46 0xFC46 (.sequence [0x645, 0x62D]) (.node (.node .leaf 0xFC47
  0xFC47 (.sequence [0x645, 0x62E]) .leaf) 0xFC48 0xFC48 (.sequence [0x645, 0x645]) .leaf))
  0xFC49 0xFC49 (.sequence [0x645, 0x649]) (.node (.node (.node .leaf 0xFC4A 0xFC4A (.sequence
  [0x645, 0x64A]) .leaf) 0xFC4B 0xFC4B (.sequence [0x646, 0x62C]) .leaf) 0xFC4C 0xFC4C
  (.sequence [0x646, 0x62D]) (.node (.node .leaf 0xFC4D 0xFC4D (.sequence [0x646, 0x62E])
  .leaf) 0xFC4E 0xFC4E (.sequence [0x646, 0x645]) .leaf))))) 0xFC4F 0xFC4F (.sequence
  [0x646, 0x649]) (.node (.node (.node (.node (.node (.node .leaf 0xFC50 0xFC50 (.sequence
  [0x646, 0x64A]) .leaf) 0xFC51 0xFC51 (.sequence [0x647, 0x62C]) (.node .leaf 0xFC52 0xFC52
  (.sequence [0x647, 0x645]) .leaf)) 0xFC53 0xFC53 (.sequence [0x647, 0x649]) (.node (.node
  .leaf 0xFC54 0xFC54 (.sequence [0x647, 0x64A]) .leaf) 0xFC55 0xFC55 (.sequence
  [0x64A, 0x62C]) .leaf)) 0xFC56 0xFC56 (.sequence [0x64A, 0x62D]) (.node (.node (.node .leaf
  0xFC57 0xFC57 (.sequence [0x64A, 0x62E]) .leaf) 0xFC58 0xFC58 (.sequence [0x64A, 0x645])
  (.node .leaf 0xFC59 0xFC59 (.sequence [0x64A, 0x649]) .leaf)) 0xFC5A 0xFC5A (.sequence
  [0x64A, 0x64A]) (.node (.node .leaf 0xFC5B 0xFC5B (.sequence [0x630, 0x670]) .leaf) 0xFC5C
  0xFC5C (.sequence [0x631, 0x670]) .leaf))) 0xFC5D 0xFC5D (.sequence [0x649, 0x670]) (.node
  (.node (.node (.node .leaf 0xFC5E 0xFC5E (.sequence [0x20, 0x64C, 0x651]) .leaf) 0xFC5F
  0xFC5F (.sequence [0x20, 0x64D, 0x651]) (.node .leaf 0xFC60 0xFC60 (.sequence
  [0x20, 0x64E, 0x651]) .leaf)) 0xFC61 0xFC61 (.sequence [0x20, 0x64F, 0x651]) (.node (.node
  .leaf 0xFC62 0xFC62 (.sequence [0x20, 0x650, 0x651]) .leaf) 0xFC63 0xFC63 (.sequence
  [0x20, 0x651, 0x670]) .leaf)) 0xFC64 0xFC64 (.sequence [0x64A, 0x654, 0x631]) (.node (.node
  (.node .leaf 0xFC65 0xFC65 (.sequence [0x64A, 0x654, 0x632]) .leaf) 0xFC66 0xFC66 (.sequence
  [0x64A, 0x654, 0x645]) (.node .leaf 0xFC67 0xFC67 (.sequence [0x64A, 0x654, 0x646]) .leaf))
  0xFC68 0xFC68 (.sequence [0x64A, 0x654, 0x649]) (.node (.node .leaf 0xFC69 0xFC69 (.sequence
  [0x64A, 0x654, 0x64A]) .leaf) 0xFC6A 0xFC6A (.sequence [0x628, 0x631]) .leaf)))) 0xFC6B
  0xFC6B (.sequence [0x628, 0x632]) (.node (.node (.node (.node (.node .leaf 0xFC6C 0xFC6C
  (.sequence [0x628, 0x645]) .leaf) 0xFC6D 0xFC6D (.sequence [0x628, 0x646]) (.node .leaf
  0xFC6E 0xFC6E (.sequence [0x628, 0x649]) .leaf)) 0xFC6F 0xFC6F (.sequence [0x628, 0x64A])
  (.node (.node .leaf 0xFC70 0xFC70 (.sequence [0x62A, 0x631]) .leaf) 0xFC71 0xFC71 (.sequence
  [0x62A, 0x632]) .leaf)) 0xFC72 0xFC72 (.sequence [0x62A, 0x645]) (.node (.node (.node .leaf
  0xFC73 0xFC73 (.sequence [0x62A, 0x646]) .leaf) 0xFC74 0xFC74 (.sequence [0x62A, 0x649])
  (.node .leaf 0xFC75 0xFC75 (.sequence [0x62A, 0x64A]) .leaf)) 0xFC76 0xFC76 (.sequence
  [0x62B, 0x631]) (.node (.node .leaf 0xFC77 0xFC77 (.sequence [0x62B, 0x632]) .leaf) 0xFC78
  0xFC78 (.sequence [0x62B, 0x645]) .leaf))) 0xFC79 0xFC79 (.sequence [0x62B, 0x646]) (.node
  (.node (.node (.node .leaf 0xFC7A 0xFC7A (.sequence [0x62B, 0x649]) .leaf) 0xFC7B 0xFC7B
  (.sequence [0x62B, 0x64A]) (.node .leaf 0xFC7C 0xFC7C (.sequence [0x641, 0x649]) .leaf))
  0xFC7D 0xFC7D (.sequence [0x641, 0x64A]) (.node (.node .leaf 0xFC7E 0xFC7E (.sequence
  [0x642, 0x649]) .leaf) 0xFC7F 0xFC7F (.sequence [0x642, 0x64A]) .leaf)) 0xFC80 0xFC80
  (.sequence [0x643, 0x627]) (.node (.node (.node .leaf 0xFC81 0xFC81 (.sequence
  [0x643, 0x644]) .leaf) 0xFC82 0xFC82 (.sequence [0x643, 0x645]) .leaf) 0xFC83 0xFC83
  (.sequence [0x643, 0x649]) (.node (.node .leaf 0xFC84 0xFC84 (.sequence [0x643, 0x64A])
  .leaf) 0xFC85 0xFC85 (.sequence [0x644, 0x645]) .leaf)))))) 0xFC86 0xFC86 (.sequence
  [0x644, 0x649]) (.node (.node (.node (.node (.node (.node (.node .leaf 0xFC87 0xFC87
  (.sequence [0x644, 0x64A]) .leaf) 0xFC88 0xFC88 (.sequence [0x645, 0x627]) (.node .leaf
  0xFC89 0xFC89 (.sequence [0x645, 0x645]) .leaf)) 0xFC8A 0xFC8A (.sequence [0x646, 0x631])
  (.node (.node .leaf 0xFC8B 0xFC8B (.sequence [0x646, 0x632]) .leaf) 0xFC8C 0xFC8C (.sequence
  [0x646, 0x645]) .leaf)) 0xFC8D 0xFC8D (.sequence [0x646, 0x646]) (.node (.node (.node .leaf
  0xFC8E 0xFC8E (.sequence [0x646, 0x649]) .leaf) 0xFC8F 0xFC8F (.sequence [0x646, 0x64A])
  (.node .leaf 0xFC90 0xFC90 (.sequence [0x649, 0x670]) .leaf)) 0xFC91 0xFC91 (.sequence
  [0x64A, 0x631]) (.node (.node .leaf 0xFC92 0xFC92 (.sequence [0x64A, 0x632]) .leaf) 0xFC93
  0xFC93 (.sequence [0x64A, 0x645]) .leaf))) 0xFC94 0xFC94 (.sequence [0x64A, 0x646]) (.node
  (.node (.node (.node .leaf 0xFC95 0xFC95 (.sequence [0x64A, 0x649]) .leaf) 0xFC96 0xFC96
  (.sequence [0x64A, 0x64A]) (.node .leaf 0xFC97 0xFC97 (.sequence [0x64A, 0x654, 0x62C])
  .leaf)) 0xFC98 0xFC98 (.sequence [0x64A, 0x654, 0x62D]) (.node (.node .leaf 0xFC99 0xFC99
  (.sequence [0x64A, 0x654, 0x62E]) .leaf) 0xFC9A 0xFC9A (.sequence [0x64A, 0x654, 0x645])
  .leaf)) 0xFC9B 0xFC9B (.sequence [0x64A, 0x654, 0x647]) (.node (.node (.node .leaf 0xFC9C
  0xFC9C (.sequence [0x628, 0x62C]) .leaf) 0xFC9D 0xFC9D (.sequence [0x628, 0x62D]) (.node
  .leaf 0xFC9E 0xFC9E (.sequence [0x628, 0x62E]) .leaf)) 0xFC9F 0xFC9F (.sequence
  [0x628, 0x645]) (.node (.node .leaf 0xFCA0 0xFCA0 (.sequence [0x628, 0x647]) .leaf) 0xFCA1
  0xFCA1 (.sequence [0x62A, 0x62C]) .leaf)))) 0xFCA2 0xFCA2 (.sequence [0x62A, 0x62D]) (.node
  (.node (.node (.node (.node .leaf 0xFCA3 0xFCA3 (.sequence [0x62A, 0x62E]) .leaf) 0xFCA4
  0xFCA4 (.sequence [0x62A, 0x645]) (.node .leaf 0xFCA5 0xFCA5 (.sequence [0x62A, 0x647])
  .leaf)) 0xFCA6 0xFCA6 (.sequence [0x62B, 0x645]) (.node (.node .leaf 0xFCA7 0xFCA7
  (.sequence [0x62C, 0x62D]) .leaf) 0xFCA8 0xFCA8 (.sequence [0x62C, 0x645]) .leaf)) 0xFCA9
  0xFCA9 (.sequence [0x62D, 0x62C]) (.node (.node (.node .leaf 0xFCAA 0xFCAA (.sequence
  [0x62D, 0x645]) .leaf) 0xFCAB 0xFCAB (.sequence [0x62E, 0x62C]) (.node .leaf 0xFCAC 0xFCAC
  (.sequence [0x62E, 0x645]) .leaf)) 0xFCAD 0xFCAD (.sequence [0x633, 0x62C]) (.node (.node
  .leaf 0xFCAE 0xFCAE (.sequence [0x633, 0x62D]) .leaf) 0xFCAF 0xFCAF (.sequence
  [0x633, 0x62E]) .leaf))) 0xFCB0 0xFCB0 (.sequence [0x633, 0x645]) (.node (.node (.node
  (.node .leaf 0xFCB1 0xFCB1 (.sequence [0x635, 0x62D]) .leaf) 0xFCB2 0xFCB2 (.sequence
  [0x635, 0x62E]) (.node .leaf 0xFCB3 0xFCB3 (.sequence [0x635, 0x645]) .leaf)) 0xFCB4 0xFCB4
  (.sequence [0x636, 0x62C]) (.node (.node .leaf 0xFCB5 0xFCB5 (.sequence [0x636, 0x62D])
  .leaf) 0xFCB6 0xFCB6 (.sequence [0x636, 0x62E]) .leaf)) 0xFCB7 0xFCB7 (.sequence
  [0x636, 0x645]) (.node (.node (.node .leaf 0xFCB8 0xFCB8 (.sequence [0x637, 0x62D]) .leaf)
  0xFCB9 0xFCB9 (.sequence [0x638, 0x645]) .leaf) 0xFCBA 0xFCBA (.sequence [0x639, 0x62C])
  (.node (.node .leaf 0xFCBB 0xFCBB (.sequence [0x639, 0x645]) .leaf) 0xFCBC 0xFCBC (.sequence
  [0x63A, 0x62C]) .leaf))))) 0xFCBD 0xFCBD (.sequence [0x63A, 0x645]) (.node (.node (.node
  (.node (.node (.node .leaf 0xFCBE 0xFCBE (.sequence [0x641, 0x62C]) .leaf) 0xFCBF 0xFCBF
  (.sequence [0x641, 0x62D]) (.node .leaf 0xFCC0 0xFCC0 (.sequence [0x641, 0x62E]) .leaf))
  0xFCC1 0xFCC1 (.sequence [0x641, 0x645]) (.node (.node .leaf 0xFCC2 0xFCC2 (.sequence
  [0x642, 0x62D]) .leaf) 0xFCC3 0xFCC3 (.sequence [0x642, 0x645]) .leaf)) 0xFCC4 0xFCC4
  (.sequence [0x643, 0x62C]) (.node (.node (.node .leaf 0xFCC5 0xFCC5 (.sequence
  [0x643, 0x62D]) .leaf) 0xFCC6 0xFCC6 (.sequence [0x643, 0x62E]) (.node .leaf 0xFCC7 0xFCC7
  (.sequence [0x643, 0x644]) .leaf)) 0xFCC8 0xFCC8 (.sequence [0x643, 0x645]) (.node (.node
  .leaf 0xFCC9 0xFCC9 (.sequence [0x644, 0x62C]) .leaf) 0xFCCA 0xFCCA (.sequence
  [0x644, 0x62D]) .leaf))) 0xFCCB 0xFCCB (.sequence [0x644, 0x62E]) (.node (.node (.node
  (.node .leaf 0xFCCC 0xFCCC (.sequence [0x644, 0x645]) .leaf) 0xFCCD 0xFCCD (.sequence
  [0x644, 0x647]) (.node .leaf 0xFCCE 0xFCCE (.sequence [0x645, 0x62C]) .leaf)) 0xFCCF 0xFCCF
  (.sequence [0x645, 0x62D]) (.node (.node .leaf 0xFCD0 0xFCD0 (.sequence [0x645, 0x62E])
  .leaf) 0xFCD1 0xFCD1 (.sequence [0x645, 0x645]) .leaf)) 0xFCD2 0xFCD2 (.sequence
  [0x646, 0x62C]) (.node (.node (.node .leaf 0xFCD3 0xFCD3 (.sequence [0x646, 0x62D]) .leaf)
  0xFCD4 0xFCD4 (.sequence [0x646, 0x62E]) (.node .leaf 0xFCD5 0xFCD5 (.sequence
  [0x646, 0x645]) .leaf)) 0xFCD6 0xFCD6 (.sequence [0x646, 0x647]) (.node (.node .leaf 0xFCD7
  0xFCD7 (.sequence [0x647, 0x62C]) .leaf) 0xFCD8 0xFCD8 (.sequence [0x647, 0x645]) .leaf))))
  0xFCD9 0xFCD9 (.sequence [0x647, 0x670]) (.node (.node (.node (.node (.node .leaf 0xFCDA
  0xFCDA (.sequence [0x64A, 0x62C]) .leaf) 0xFCDB 0xFCDB (.sequence [0x64A, 0x62D]) (.node
  .leaf 0xFCDC 0xFCDC (.sequence [0x64A, 0x62E]) .leaf)) 0xFCDD 0xFCDD (.sequence
  [0x64A, 0x645]) (.node (.node .leaf 0xFCDE 0xFCDE (.sequence [0x64A, 0x647]) .leaf) 0xFCDF
  0xFCDF (.sequence [0x64A, 0x654, 0x645]) .leaf)) 0xFCE0 0xFCE0 (.sequence
  [0x64A, 0x654, 0x647]) (.node (.node (.node .leaf 0xFCE1 0xFCE1 (.sequence [0x628, 0x645])
  .leaf) 0xFCE2 0xFCE2 (.sequence [0x628, 0x647]) (.node .leaf 0xFCE3 0xFCE3 (.sequence
  [0x62A, 0x645]) .leaf)) 0xFCE4 0xFCE4 (.sequence [0x62A, 0x647]) (.node (.node .leaf 0xFCE5
  0xFCE5 (.sequence [0x62B, 0x645]) .leaf) 0xFCE6 0xFCE6 (.sequence [0x62B, 0x647]) .leaf)))
  0xFCE7 0xFCE7 (.sequence [0x633, 0x645]) (.node (.node (.node (.node .leaf 0xFCE8 0xFCE8
  (.sequence [0x633, 0x647]) .leaf) 0xFCE9 0xFCE9 (.sequence [0x634, 0x645]) (.node .leaf
  0xFCEA 0xFCEA (.sequence [0x634, 0x647]) .leaf)) 0xFCEB 0xFCEB (.sequence [0x643, 0x644])
  (.node (.node .leaf 0xFCEC 0xFCEC (.sequence [0x643, 0x645]) .leaf) 0xFCED 0xFCED (.sequence
  [0x644, 0x645]) .leaf)) 0xFCEE 0xFCEE (.sequence [0x646, 0x645]) (.node (.node (.node .leaf
  0xFCEF 0xFCEF (.sequence [0x646, 0x647]) .leaf) 0xFCF0 0xFCF0 (.sequence [0x64A, 0x645])
  .leaf) 0xFCF1 0xFCF1 (.sequence [0x64A, 0x647]) (.node (.node .leaf 0xFCF2 0xFCF2 (.sequence
  [0x640, 0x64E, 0x651]) .leaf) 0xFCF3 0xFCF3 (.sequence [0x640, 0x64F, 0x651]) .leaf))))))))
  0xFCF4 0xFCF4 (.sequence [0x640, 0x650, 0x651]) (.node (.node (.node (.node (.node (.node
  (.node (.node (.node .leaf 0xFCF5 0xFCF5 (.sequence [0x637, 0x649]) .leaf) 0xFCF6 0xFCF6
  (.sequence [0x637, 0x64A]) (.node .leaf 0xFCF7 0xFCF7 (.sequence [0x639, 0x649]) .leaf))
  0xFCF8 0xFCF8 (.sequence [0x639, 0x64A]) (.node (.node .leaf 0xFCF9 0xFCF9 (.sequence
  [0x63A, 0x649]) .leaf) 0xFCFA 0xFCFA (.sequence [0x63A, 0x64A]) .leaf)) 0xFCFB 0xFCFB
  (.sequence [0x633, 0x649]) (.node (.node (.node .leaf 0xFCFC 0xFCFC (.sequence
  [0x633, 0x64A]) .leaf) 0xFCFD 0xFCFD (.sequence [0x634, 0x649]) (.node .leaf 0xFCFE 0xFCFE
  (.sequence [0x634, 0x64A]) .leaf)) 0xFCFF 0xFCFF (.sequence [0x62D, 0x649]) (.node (.node
  .leaf 0xFD00 0xFD00 (.sequence [0x62D, 0x64A]) .leaf) 0xFD01 0xFD01 (.sequence
  [0x62C, 0x649]) .leaf))) 0xFD02 0xFD02 (.sequence [0x62C, 0x64A]) (.node (.node (.node
  (.node .leaf 0xFD03 0xFD03 (.sequence [0x62E, 0x649]) .leaf) 0xFD04 0xFD04 (.sequence
  [0x62E, 0x64A]) (.node .leaf 0xFD05 0xFD05 (.sequence [0x635, 0x649]) .leaf)) 0xFD06 0xFD06
  (.sequence [0x635, 0x64A]) (.node (.node .leaf 0xFD07 0xFD07 (.sequence [0x636, 0x649])
  .leaf) 0xFD08 0xFD08 (.sequence [0x636, 0x64A]) .leaf)) 0xFD09 0xFD09 (.sequence
  [0x634, 0x62C]) (.node (.node (.node .leaf 0xFD0A 0xFD0A (.sequence [0x634, 0x62D]) .leaf)
  0xFD0B 0xFD0B (.sequence [0x634, 0x62E]) (.node .leaf 0xFD0C 0xFD0C (.sequence
  [0x634, 0x645]) .leaf)) 0xFD0D 0xFD0D (.sequence [0x634, 0x631]) (.node (.node .leaf 0xFD0E
  0xFD0E (.sequence [0x633, 0x631]) .leaf) 0xFD0F 0xFD0F (.sequence [0x635, 0x631]) .leaf))))
  0xFD10 0xFD10 (.sequence [0x636, 0x631]) (.node (.node (.node (.node (.node .leaf 0xFD11
  0xFD11 (.sequence [0x637, 0x649]) .leaf) 0xFD12 0xFD12 (.sequence [0x637, 0x64A]) (.node
  .leaf 0xFD13 0xFD13 (.sequence [0x639, 0x649]) .leaf)) 0xFD14 0xFD14 (.sequence
  [0x639, 0x64A]) (.node (.node .leaf 0xFD15 0xFD15 (.sequence [0x63A, 0x649]) .leaf) 0xFD16
  0xFD16 (.sequence [0x63A, 0x64A]) .leaf)) 0xFD17 0xFD17 (.sequence [0x633, 0x649]) (.node
  (.node (.node .leaf 0xFD18 0xFD18 (.sequence [0x633, 0x64A]) .leaf) 0xFD19 0xFD19 (.sequence
  [0x634, 0x649]) (.node .leaf 0xFD1A 0xFD1A (.sequence [0x634, 0x64A]) .leaf)) 0xFD1B 0xFD1B
  (.sequence [0x62D, 0x649]) (.node (.node .leaf 0xFD1C 0xFD1C (.sequence [0x62D, 0x64A])
  .leaf) 0xFD1D 0xFD1D (.sequence [0x62C, 0x649]) .leaf))) 0xFD1E 0xFD1E (.sequence
  [0x62C, 0x64A]) (.node (.node (.node (.node .leaf 0xFD1F 0xFD1F (.sequence [0x62E, 0x649])
  .leaf) 0xFD20 0xFD20 (.sequence [0x62E, 0x64A]) (.node .leaf 0xFD21 0xFD21 (.sequence
  [0x635, 0x649]) .leaf)) 0xFD22 0xFD22 (.sequence [0x635, 0x64A]) (.node (.node .leaf 0xFD23
  0xFD23 (.sequence [0x636, 0x649]) .leaf) 0xFD24 0xFD24 (.sequence [0x636, 0x64A]) .leaf))
  0xFD25 0xFD25 (.sequence [0x634, 0x62C]) (.node (.node (.node .leaf 0xFD26 0xFD26 (.sequence
  [0x634, 0x62D]) .leaf) 0xFD27 0xFD27 (.sequence [0x634, 0x62E]) .leaf) 0xFD28 0xFD28
  (.sequence [0x634, 0x645]) (.node (.node .leaf 0xFD29 0xFD29 (.sequence [0x634, 0x631])
  .leaf) 0xFD2A 0xFD2A (.sequence [0x633, 0x631]) .leaf))))) 0xFD2B 0xFD2B (.sequence
  [0x635, 0x631]) (.node (.node (.node (.node (.node (.node .leaf 0xFD2C 0xFD2C (.sequence
  [0x636, 0x631]) .leaf) 0xFD2D 0xFD2D (.sequence [0x634, 0x62C]) (.node .leaf 0xFD2E 0xFD2E
  (.sequence [0x634, 0x62D]) .leaf)) 0xFD2F 0xFD2F (.sequence [0x634, 0x62E]) (.node (.node
  .leaf 0xFD30 0xFD30 (.sequence [0x634, 0x645]) .leaf) 0xFD31 0xFD31 (.sequence
  [0x633, 0x647]) .leaf)) 0xFD32 0xFD32 (.sequence [0x634, 0x647]) (.node (.node (.node .leaf
  0xFD33 0xFD33 (.sequence [0x637, 0x645]) .leaf) 0xFD34 0xFD34 (.sequence [0x633, 0x62C])
  (.node .leaf 0xFD35 0xFD35 (.sequence [0x633, 0x62D]) .leaf)) 0xFD36 0xFD36 (.sequence
  [0x633, 0x62E]) (.node (.node .leaf 0xFD37 0xFD37 (.sequence [0x634, 0x62C]) .leaf) 0xFD38
  0xFD38 (.sequence [0x634, 0x62D]) .leaf))) 0xFD39 0xFD39 (.sequence [0x634, 0x62E]) (.node
  (.node (.node (.node .leaf 0xFD3A 0xFD3A (.sequence [0x637, 0x645]) .leaf) 0xFD3B 0xFD3B
  (.sequence [0x638, 0x645]) (.node .leaf 0xFD3C 0xFD3C (.sequence [0x627, 0x64B]) .leaf))
  0xFD3D 0xFD3D (.sequence [0x627, 0x64B]) (.node (.node .leaf 0xFD50 0xFD50 (.sequence
  [0x62A, 0x62C, 0x645]) .leaf) 0xFD51 0xFD51 (.sequence [0x62A, 0x62D, 0x62C]) .leaf)) 0xFD52
  0xFD52 (.sequence [0x62A, 0x62D, 0x62C]) (.node (.node (.node .leaf 0xFD53 0xFD53 (.sequence
  [0x62A, 0x62D, 0x645]) .leaf) 0xFD54 0xFD54 (.sequence [0x62A, 0x62E, 0x645]) (.node .leaf
  0xFD55 0xFD55 (.sequence [0x62A, 0x645, 0x62C]) .leaf)) 0xFD56 0xFD56 (.sequence
  [0x62A, 0x645, 0x62D]) (.node (.node .leaf 0xFD57 0xFD57 (.sequence [0x62A, 0x645, 0x62E])
  .leaf) 0xFD58 0xFD58 (.sequence [0x62C, 0x645, 0x62D]) .leaf)))) 0xFD59 0xFD59 (.sequence
  [0x62C, 0x645, 0x62D]) (.node (.node (.node (.node (.node .leaf 0xFD5A 0xFD5A (.sequence
  [0x62D, 0x645, 0x64A]) .leaf) 0xFD5B 0xFD5B (.sequence [0x62D, 0x645, 0x649]) (.node .leaf
  0xFD5C 0xFD5C (.sequence [0x633, 0x62D, 0x62C]) .leaf)) 0xFD5D 0xFD5D (.sequence
  [0x633, 0x62C, 0x62D]) (.node (.node .leaf 0xFD5E 0xFD5E (.sequence [0x633, 0x62C, 0x649])
  .leaf) 0xFD5F 0xFD5F (.sequence [0x633, 0x645, 0x62D]) .leaf)) 0xFD60 0xFD60 (.sequence
  [0x633, 0x645, 0x62D]) (.node (.node (.node .leaf 0xFD61 0xFD61 (.sequence
  [0x633, 0x645, 0x62C]) .leaf) 0xFD62 0xFD62 (.sequence [0x633, 0x645, 0x645]) (.node .leaf
  0xFD63 0xFD63 (.sequence [0x633, 0x645, 0x645]) .leaf)) 0xFD64 0xFD64 (.sequence
  [0x635, 0x62D, 0x62D]) (.node (.node .leaf 0xFD65 0xFD65 (.sequence [0x635, 0x62D, 0x62D])
  .leaf) 0xFD66 0xFD66 (.sequence [0x635, 0x645, 0x645]) .leaf))) 0xFD67 0xFD67 (.sequence
  [0x634, 0x62D, 0x645]) (.node (.node (.node (.node .leaf 0xFD68 0xFD68 (.sequence
  [0x634, 0x62D, 0x645]) .leaf) 0xFD69 0xFD69 (.sequence [0x634, 0x62C, 0x64A]) (.node .leaf
  0xFD6A 0xFD6A (.sequence [0x634, 0x645, 0x62E]) .leaf)) 0xFD6B 0xFD6B (.sequence
  [0x634, 0x645, 0x62E]) (.node (.node .leaf 0xFD6C 0xFD6C (.sequence [0x634, 0x645, 0x645])
  .leaf) 0xFD6D 0xFD6D (.sequence [0x634, 0x645, 0x645]) .leaf)) 0xFD6E 0xFD6E (.sequence
  [0x636, 0x62D, 0x649]) (.node (.node (.node .leaf 0xFD6F 0xFD6F (.sequence
  [0x636, 0x62E, 0x645]) .leaf) 0xFD70 0xFD70 (.sequence [0x636, 0x62E, 0x645]) .leaf) 0xFD71
  0xFD71 (.sequence [0x637, 0x645, 0x62D]) (.node (.node .leaf 0xFD72 0xFD72 (.sequence
  [0x637, 0x645, 0x62D]) .leaf) 0xFD73 0xFD73 (.sequence [0x637, 0x645, 0x645]) .leaf))))))
  0xFD74 0xFD74 (.sequence [0x637, 0x645, 0x64A]) (.node (.node (.node (.node (.node (.node
  (.node .leaf 0xFD75 0xFD75 (.sequence [0x639, 0x62C, 0x645]) .leaf) 0xFD76 0xFD76 (.sequence
  [0x639, 0x645, 0x645]) (.node .leaf 0xFD77 0xFD77 (.sequence [0x639, 0x645, 0x645]) .leaf))
  0xFD78 0xFD78 (.sequence [0x639, 0x645, 0x649]) (.node (.node .leaf 0xFD79 0xFD79 (.sequence
  [0x63A, 0x645, 0x645]) .leaf) 0xFD7A 0xFD7A (.sequence [0x63A, 0x645, 0x64A]) .leaf)) 0xFD7B
  0xFD7B (.sequence [0x63A, 0x645, 0x649]) (.node (.node (.node .leaf 0xFD7C 0xFD7C (.sequence
  [0x641, 0x62E, 0x645]) .leaf) 0xFD7D 0xFD7D (.sequence [0x641, 0x62E, 0x645]) (.node .leaf
  0xFD7E 0xFD7E (.sequence [0x642, 0x645, 0x62D]) .leaf)) 0xFD7F 0xFD7F (.sequence
  [0x642, 0x645, 0x645]) (.node (.node .leaf 0xFD80 0xFD80 (.sequence [0x644, 0x62D, 0x645])
  .leaf) 0xFD81 0xFD81 (.sequence [0x644, 0x62D, 0x64A]) .leaf))) 0xFD82 0xFD82 (.sequence
  [0x644, 0x62D, 0x649]) (.node (.node (.node (.node .leaf 0xFD83 0xFD83 (.sequence
  [0x644, 0x62C, 0x62C]) .leaf) 0xFD84 0xFD84 (.sequence [0x644, 0x62C, 0x62C]) (.node .leaf
  0xFD85 0xFD85 (.sequence [0x644, 0x62E, 0x645]) .leaf)) 0xFD86 0xFD86 (.sequence
  [0x644, 0x62E, 0x645]) (.node (.node .leaf 0xFD87 0xFD87 (.sequence [0x644, 0x645, 0x62D])
  .leaf) 0xFD88 0xFD88 (.sequence [0x644, 0x645, 0x62D]) .leaf)) 0xFD89 0xFD89 (.sequence
  [0x645, 0x62D, 0x62C]) (.node (.node (.node .leaf 0xFD8A 0xFD8A (.sequence
  [0x645, 0x62D, 0x645]) .leaf) 0xFD8B 0xFD8B (.sequence [0x645, 0x62D, 0x64A]) (.node .leaf
  0xFD8C 0xFD8C (.sequence [0x645, 0x62C, 0x62D]) .leaf)) 0xFD8D 0xFD8D (.sequence
  [0x645, 0x62C, 0x645]) (.node (.node .leaf 0xFD8E 0xFD8E (.sequence [0x645, 0x62E, 0x62C])
  .leaf) 0xFD8F 0xFD8F (.sequence [0x645, 0x62E, 0x645]) .leaf)))) 0xFD92 0xFD92 (.sequence
  [0x645, 0x62C, 0x62E]) (.node (.node (.node (.node (.node .leaf 0xFD93 0xFD93 (.sequence
  [0x647, 0x645, 0x62C]) .leaf) 0xFD94 0xFD94 (.sequence [0x647, 0x645, 0x645]) (.node .leaf
  0xFD95 0xFD95 (.sequence [0x646, 0x62D, 0x645]) .leaf)) 0xFD96 0xFD96 (.sequence
  [0x646, 0x62D, 0x649]) (.node (.node .leaf 0xFD97 0xFD97 (.sequence [0x646, 0x62C, 0x645])
  .leaf) 0xFD98 0xFD98 (.sequence [0x646, 0x62C, 0x645]) .leaf)) 0xFD99 0xFD99 (.sequence
  [0x646, 0x62C, 0x649]) (.node (.node (.node .leaf 0xFD9A 0xFD9A (.sequence
  [0x646, 0x645, 0x64A]) .leaf) 0xFD9B 0xFD9B (.sequence [0x646, 0x645, 0x649]) (.node .leaf
  0xFD9C 0xFD9C (.sequence [0x64A, 0x645, 0x645]) .leaf)) 0xFD9D 0xFD9D (.sequence
  [0x64A, 0x645, 0x645]) (.node (.node .leaf 0xFD9E 0xFD9E (.sequence [0x628, 0x62E, 0x64A])
  .leaf) 0xFD9F 0xFD9F (.sequence [0x62A, 0x62C, 0x64A]) .leaf))) 0xFDA0 0xFDA0 (.sequence
  [0x62A, 0x62C, 0x649]) (.node (.node (.node (.node .leaf 0xFDA1 0xFDA1 (.sequence
  [0x62A, 0x62E, 0x64A]) .leaf) 0xFDA2 0xFDA2 (.sequence [0x62A, 0x62E, 0x649]) (.node .leaf
  0xFDA3 0xFDA3 (.sequence [0x62A, 0x645, 0x64A]) .leaf)) 0xFDA4 0xFDA4 (.sequence
  [0x62A, 0x645, 0x649]) (.node (.node .leaf 0xFDA5 0xFDA5 (.sequence [0x62C, 0x645, 0x64A])
  .leaf) 0xFDA6 0xFDA6 (.sequence [0x62C, 0x62D, 0x649]) .leaf)) 0xFDA7 0xFDA7 (.sequence
  [0x62C, 0x645, 0x649]) (.node (.node (.node .leaf 0xFDA8 0xFDA8 (.sequence
  [0x633, 0x62E, 0x649]) .leaf) 0xFDA9 0xFDA9 (.sequence [0x635, 0x62D, 0x64A]) .leaf) 0xFDAA
  0xFDAA (.sequence [0x634, 0x62D, 0x64A]) (.node (.node .leaf 0xFDAB 0xFDAB (.sequence
  [0x636, 0x62D, 0x64A]) .leaf) 0xFDAC 0xFDAC (.sequence [0x644, 0x62C, 0x64A]) .leaf)))))
  0xFDAD 0xFDAD (.sequence [0x644, 0x645, 0x64A]) (.node (.node (.node (.node (.node (.node
  .leaf 0xFDAE 0xFDAE (.sequence [0x64A, 0x62D, 0x64A]) .leaf) 0xFDAF 0xFDAF (.sequence
  [0x64A, 0x62C, 0x64A]) (.node .leaf 0xFDB0 0xFDB0 (.sequence [0x64A, 0x645, 0x64A]) .leaf))
  0xFDB1 0xFDB1 (.sequence [0x645, 0x645, 0x64A]) (.node (.node .leaf 0xFDB2 0xFDB2 (.sequence
  [0x642, 0x645, 0x64A]) .leaf) 0xFDB3 0xFDB3 (.sequence [0x646, 0x62D, 0x64A]) .leaf)) 0xFDB4
  0xFDB4 (.sequence [0x642, 0x645, 0x62D]) (.node (.node (.node .leaf 0xFDB5 0xFDB5 (.sequence
  [0x644, 0x62D, 0x645]) .leaf) 0xFDB6 0xFDB6 (.sequence [0x639, 0x645, 0x64A]) (.node .leaf
  0xFDB7 0xFDB7 (.sequence [0x643, 0x645, 0x64A]) .leaf)) 0xFDB8 0xFDB8 (.sequence
  [0x646, 0x62C, 0x62D]) (.node (.node .leaf 0xFDB9 0xFDB9 (.sequence [0x645, 0x62E, 0x64A])
  .leaf) 0xFDBA 0xFDBA (.sequence [0x644, 0x62C, 0x645]) .leaf))) 0xFDBB 0xFDBB (.sequence
  [0x643, 0x645, 0x645]) (.node (.node (.node (.node .leaf 0xFDBC 0xFDBC (.sequence
  [0x644, 0x62C, 0x645]) .leaf) 0xFDBD 0xFDBD (.sequence [0x646, 0x62C, 0x62D]) (.node .leaf
  0xFDBE 0xFDBE (.sequence [0x62C, 0x62D, 0x64A]) .leaf)) 0xFDBF 0xFDBF (.sequence
  [0x62D, 0x62C, 0x64A]) (.node (.node .leaf 0xFDC0 0xFDC0 (.sequence [0x645, 0x62C, 0x64A])
  .leaf) 0xFDC1 0xFDC1 (.sequence [0x641, 0x645, 0x64A]) .leaf)) 0xFDC2 0xFDC2 (.sequence
  [0x628, 0x62D, 0x64A]) (.node (.node (.node .leaf 0xFDC3 0xFDC3 (.sequence
  [0x643, 0x645, 0x645]) .leaf) 0xFDC4 0xFDC4 (.sequence [0x639, 0x62C, 0x645]) (.node .leaf
  0xFDC5 0xFDC5 (.sequence [0x635, 0x645, 0x645]) .leaf)) 0xFDC6 0xFDC6 (.sequence
  [0x633, 0x62E, 0x64A]) (.node (.node .leaf 0xFDC7 0xFDC7 (.sequence [0x646, 0x62C, 0x64A])
  .leaf) 0xFDF0 0xFDF0 (.sequence [0x635, 0x644, 0x6D2]) .leaf)))) 0xFDF1 0xFDF1 (.sequence
  [0x642, 0x644, 0x6D2]) (.node (.node (.node (.node (.node .leaf 0xFDF2 0xFDF2 (.sequence
  [0x627, 0x644, 0x644, 0x647]) .leaf) 0xFDF3 0xFDF3 (.sequence [0x627, 0x643, 0x628, 0x631])
  (.node .leaf 0xFDF4 0xFDF4 (.sequence [0x645, 0x62D, 0x645, 0x62F]) .leaf)) 0xFDF5 0xFDF5
  (.sequence [0x635, 0x644, 0x639, 0x645]) (.node (.node .leaf 0xFDF6 0xFDF6 (.sequence
  [0x631, 0x633, 0x648, 0x644]) .leaf) 0xFDF7 0xFDF7 (.sequence [0x639, 0x644, 0x64A, 0x647])
  .leaf)) 0xFDF8 0xFDF8 (.sequence [0x648, 0x633, 0x644, 0x645]) (.node (.node (.node .leaf
  0xFDF9 0xFDF9 (.sequence [0x635, 0x644, 0x649]) .leaf) 0xFDFA 0xFDFA (.sequence
  [0x635, 0x644, 0x649, 0x20, 0x627, 0x644, 0x644, 0x647, 0x20, 0x639, 0x644, 0x64A, 0x647, 0x20, 0x648, 0x633, 0x644, 0x645])
  (.node .leaf 0xFDFB 0xFDFB (.sequence
  [0x62C, 0x644, 0x20, 0x62C, 0x644, 0x627, 0x644, 0x647]) .leaf)) 0xFDFC 0xFDFC (.sequence
  [0x631, 0x6CC, 0x627, 0x644]) (.node (.node .leaf 0xFE10 0xFE10 (.sequence [0x2C]) .leaf)
  0xFE11 0xFE12 (.consecutive 0x3001) .leaf))) 0xFE13 0xFE14 (.consecutive 0x3A) (.node (.node
  (.node (.node .leaf 0xFE15 0xFE15 (.sequence [0x21]) .leaf) 0xFE16 0xFE16 (.sequence [0x3F])
  (.node .leaf 0xFE17 0xFE18 (.consecutive 0x3016) .leaf)) 0xFE19 0xFE19 (.sequence
  [0x2E, 0x2E, 0x2E]) (.node (.node .leaf 0xFE30 0xFE30 (.sequence [0x2E, 0x2E]) .leaf) 0xFE31
  0xFE31 (.sequence [0x2014]) .leaf)) 0xFE32 0xFE32 (.sequence [0x2013]) (.node (.node (.node
  .leaf 0xFE33 0xFE33 (.sequence [0x5F]) .leaf) 0xFE34 0xFE34 (.sequence [0x5F]) .leaf) 0xFE35
  0xFE36 (.consecutive 0x28) (.node (.node .leaf 0xFE37 0xFE37 (.sequence [0x7B]) .leaf)
  0xFE38 0xFE38 (.sequence [0x7D]) .leaf))))))) 0xFE39 0xFE3A (.consecutive 0x3014) (.node
  (.node (.node (.node (.node (.node (.node (.node .leaf 0xFE3B 0xFE3C (.consecutive 0x3010)
  .leaf) 0xFE3D 0xFE3E (.consecutive 0x300A) (.node .leaf 0xFE3F 0xFE40 (.consecutive 0x3008)
  .leaf)) 0xFE41 0xFE44 (.consecutive 0x300C) (.node (.node .leaf 0xFE47 0xFE47 (.sequence
  [0x5B]) .leaf) 0xFE48 0xFE48 (.sequence [0x5D]) .leaf)) 0xFE49 0xFE49 (.sequence
  [0x20, 0x305]) (.node (.node (.node .leaf 0xFE4A 0xFE4A (.sequence [0x20, 0x305]) .leaf)
  0xFE4B 0xFE4B (.sequence [0x20, 0x305]) (.node .leaf 0xFE4C 0xFE4C (.sequence [0x20, 0x305])
  .leaf)) 0xFE4D 0xFE4D (.sequence [0x5F]) (.node (.node .leaf 0xFE4E 0xFE4E (.sequence [0x5F])
  .leaf) 0xFE4F 0xFE4F (.sequence [0x5F]) .leaf))) 0xFE50 0xFE50 (.sequence [0x2C]) (.node
  (.node (.node (.node .leaf 0xFE51 0xFE51 (.sequence [0x3001]) .leaf) 0xFE52 0xFE52
  (.sequence [0x2E]) (.node .leaf 0xFE54 0xFE54 (.sequence [0x3B]) .leaf)) 0xFE55 0xFE55
  (.sequence [0x3A]) (.node (.node .leaf 0xFE56 0xFE56 (.sequence [0x3F]) .leaf) 0xFE57 0xFE57
  (.sequence [0x21]) .leaf)) 0xFE58 0xFE58 (.sequence [0x2014]) (.node (.node (.node .leaf
  0xFE59 0xFE5A (.consecutive 0x28) .leaf) 0xFE5B 0xFE5B (.sequence [0x7B]) (.node .leaf
  0xFE5C 0xFE5C (.sequence [0x7D]) .leaf)) 0xFE5D 0xFE5E (.consecutive 0x3014) (.node (.node
  .leaf 0xFE5F 0xFE5F (.sequence [0x23]) .leaf) 0xFE60 0xFE60 (.sequence [0x26]) .leaf))))
  0xFE61 0xFE62 (.consecutive 0x2A) (.node (.node (.node (.node (.node .leaf 0xFE63 0xFE63
  (.sequence [0x2D]) .leaf) 0xFE64 0xFE64 (.sequence [0x3C]) (.node .leaf 0xFE65 0xFE65
  (.sequence [0x3E]) .leaf)) 0xFE66 0xFE66 (.sequence [0x3D]) (.node (.node .leaf 0xFE68
  0xFE68 (.sequence [0x5C]) .leaf) 0xFE69 0xFE6A (.consecutive 0x24) .leaf)) 0xFE6B 0xFE6B
  (.sequence [0x40]) (.node (.node (.node .leaf 0xFE70 0xFE70 (.sequence [0x20, 0x64B]) .leaf)
  0xFE71 0xFE71 (.sequence [0x640, 0x64B]) (.node .leaf 0xFE72 0xFE72 (.sequence [0x20, 0x64C])
  .leaf)) 0xFE74 0xFE74 (.sequence [0x20, 0x64D]) (.node (.node .leaf 0xFE76 0xFE76 (.sequence
  [0x20, 0x64E]) .leaf) 0xFE77 0xFE77 (.sequence [0x640, 0x64E]) .leaf))) 0xFE78 0xFE78
  (.sequence [0x20, 0x64F]) (.node (.node (.node (.node .leaf 0xFE79 0xFE79 (.sequence
  [0x640, 0x64F]) .leaf) 0xFE7A 0xFE7A (.sequence [0x20, 0x650]) (.node .leaf 0xFE7B 0xFE7B
  (.sequence [0x640, 0x650]) .leaf)) 0xFE7C 0xFE7C (.sequence [0x20, 0x651]) (.node (.node
  .leaf 0xFE7D 0xFE7D (.sequence [0x640, 0x651]) .leaf) 0xFE7E 0xFE7E (.sequence [0x20, 0x652])
  .leaf)) 0xFE7F 0xFE7F (.sequence [0x640, 0x652]) (.node (.node (.node .leaf 0xFE80 0xFE80
  (.sequence [0x621]) .leaf) 0xFE81 0xFE81 (.sequence [0x627, 0x653]) .leaf) 0xFE82 0xFE82
  (.sequence [0x627, 0x653]) (.node (.node .leaf 0xFE83 0xFE83 (.sequence [0x627, 0x654])
  .leaf) 0xFE84 0xFE84 (.sequence [0x627, 0x654]) .leaf))))) 0xFE85 0xFE85 (.sequence
  [0x648, 0x654]) (.node (.node (.node (.node (.node (.node .leaf 0xFE86 0xFE86 (.sequence
  [0x648, 0x654]) .leaf) 0xFE87 0xFE87 (.sequence [0x627, 0x655]) (.node .leaf 0xFE88 0xFE88
  (.sequence [0x627, 0x655]) .leaf)) 0xFE89 0xFE89 (.sequence [0x64A, 0x654]) (.node (.node
  .leaf 0xFE8A 0xFE8A (.sequence [0x64A, 0x654]) .leaf) 0xFE8B 0xFE8B (.sequence
  [0x64A, 0x654]) .leaf)) 0xFE8C 0xFE8C (.sequence [0x64A, 0x654]) (.node (.node (.node .leaf
  0xFE8D 0xFE8D (.sequence [0x627]) .leaf) 0xFE8E 0xFE8F (.consecutive 0x627) (.node .leaf
  0xFE90 0xFE90 (.sequence [0x628]) .leaf)) 0xFE91 0xFE91 (.sequence [0x628]) (.node (.node
  .leaf 0xFE92 0xFE93 (.consecutive 0x628) .leaf) 0xFE94 0xFE95 (.consecutive 0x629) .leaf)))
  0xFE96 0xFE96 (.sequence [0x62A]) (.node (.node (.node (.node .leaf 0xFE97 0xFE97 (.sequence
  [0x62A]) .leaf) 0xFE98 0xFE99 (.consecutive 0x62A) (.node .leaf 0xFE9A 0xFE9A (.sequence
  [0x62B]) .leaf)) 0xFE9B 0xFE9B (.sequence [0x62B]) (.node (.node .leaf 0xFE9C 0xFE9D
  (.consecutive 0x62B) .leaf) 0xFE9E 0xFE9E (.sequence [0x62C]) .leaf)) 0xFE9F 0xFE9F
  (.sequence [0x62C]) (.node (.node (.node .leaf 0xFEA0 0xFEA1 (.consecutive 0x62C) .leaf)
  0xFEA2 0xFEA2 (.sequence [0x62D]) (.node .leaf 0xFEA3 0xFEA3 (.sequence [0x62D]) .leaf))
  0xFEA4 0xFEA5 (.consecutive 0x62D) (.node (.node .leaf 0xFEA6 0xFEA6 (.sequence [0x62E])
  .leaf) 0xFEA7 0xFEA7 (.sequence [0x62E]) .leaf)))) 0xFEA8 0xFEA9 (.consecutive 0x62E) (.node
  (.node (.node (.node (.node .leaf 0xFEAA 0xFEAB (.consecutive 0x62F) .leaf) 0xFEAC 0xFEAD
  (.consecutive 0x630) (.node .leaf 0xFEAE 0xFEAF (.consecutive 0x631) .leaf)) 0xFEB0 0xFEB1
  (.consecutive 0x632) (.node (.node .leaf 0xFEB2 0xFEB2 (.sequence [0x633]) .leaf) 0xFEB3
  0xFEB3 (.sequence [0x633]) .leaf)) 0xFEB4 0xFEB5 (.consecutive 0x633) (.node (.node (.node
  .leaf 0xFEB6 0xFEB6 (.sequence [0x634]) .leaf) 0xFEB7 0xFEB7 (.sequence [0x634]) (.node
  .leaf 0xFEB8 0xFEB9 (.consecutive 0x634) .leaf)) 0xFEBA 0xFEBA (.sequence [0x635]) (.node
  (.node .leaf 0xFEBB 0xFEBB (.sequence [0x635]) .leaf) 0xFEBC 0xFEBD (.consecutive 0x635)
  .leaf))) 0xFEBE 0xFEBE (.sequence [0x636]) (.node (.node (.node (.node .leaf 0xFEBF 0xFEBF
  (.sequence [0x636]) .leaf) 0xFEC0 0xFEC1 (.consecutive 0x636) (.node .leaf 0xFEC2 0xFEC2
  (.sequence [0x637]) .leaf)) 0xFEC3 0xFEC3 (.sequence [0x637]) (.node (.node .leaf 0xFEC4
  0xFEC5 (.consecutive 0x637) .leaf) 0xFEC6 0xFEC6 (.sequence [0x638]) .leaf)) 0xFEC7 0xFEC7
  (.sequence [0x638]) (.node (.node (.node .leaf 0xFEC8 0xFEC9 (.consecutive 0x638) .leaf)
  0xFECA 0xFECA (.sequence [0x639]) .leaf) 0xFECB 0xFECB (.sequence [0x639]) (.node (.node
  .leaf 0xFECC 0xFECD (.consecutive 0x639) .leaf) 0xFECE 0xFECE (.sequence [0x63A]) .leaf))))))
  0xFECF 0xFECF (.sequence [0x63A]) (.node (.node (.node (.node (.node (.node (.node .leaf
  0xFED0 0xFED0 (.sequence [0x63A]) .leaf) 0xFED1 0xFED1 (.sequence [0x641]) (.node .leaf
  0xFED2 0xFED2 (.sequence [0x641]) .leaf)) 0xFED3 0xFED3 (.sequence [0x641]) (.node (.node
  .leaf 0xFED4 0xFED5 (.consecutive 0x641) .leaf) 0xFED6 0xFED6 (.sequence [0x642]) .leaf))
  0xFED7 0xFED7 (.sequence [0x642]) (.node (.node (.node .leaf 0xFED8 0xFED9 (.consecutive
  0x642) .leaf) 0xFEDA 0xFEDA (.sequence [0x643]) (.node .leaf 0xFEDB 0xFEDB (.sequence
  [0x643]) .leaf)) 0xFEDC 0xFEDD (.consecutive 0x643) (.node (.node .leaf 0xFEDE 0xFEDE
  (.sequence [0x644]) .leaf) 0xFEDF 0xFEDF (.sequence [0x644]) .leaf))) 0xFEE0 0xFEE1
  (.consecutive 0x644) (.node (.node (.node (.node .leaf 0xFEE2 0xFEE2 (.sequence [0x645])
  .leaf) 0xFEE3 0xFEE3 (.sequence [0x645]) (.node .leaf 0xFEE4 0xFEE5 (.consecutive 0x645)
  .leaf)) 0xFEE6 0xFEE6 (.sequence [0x646]) (.node (.node .leaf 0xFEE7 0xFEE7 (.sequence
  [0x646]) .leaf) 0xFEE8 0xFEE9 (.consecutive 0x646) .leaf)) 0xFEEA 0xFEEA (.sequence [0x647])
  (.node (.node (.node .leaf 0xFEEB 0xFEEB (.sequence [0x647]) .leaf) 0xFEEC 0xFEED
  (.consecutive 0x647) (.node .leaf 0xFEEE 0xFEEF (.consecutive 0x648) .leaf)) 0xFEF0 0xFEF1
  (.consecutive 0x649) (.node (.node .leaf 0xFEF2 0xFEF2 (.sequence [0x64A]) .leaf) 0xFEF3
  0xFEF3 (.sequence [0x64A]) .leaf)))) 0xFEF4 0xFEF4 (.sequence [0x64A]) (.node (.node (.node
  (.node (.node .leaf 0xFEF5 0xFEF5 (.sequence [0x644, 0x627, 0x653]) .leaf) 0xFEF6 0xFEF6
  (.sequence [0x644, 0x627, 0x653]) (.node .leaf 0xFEF7 0xFEF7 (.sequence
  [0x644, 0x627, 0x654]) .leaf)) 0xFEF8 0xFEF8 (.sequence [0x644, 0x627, 0x654]) (.node (.node
  .leaf 0xFEF9 0xFEF9 (.sequence [0x644, 0x627, 0x655]) .leaf) 0xFEFA 0xFEFA (.sequence
  [0x644, 0x627, 0x655]) .leaf)) 0xFEFB 0xFEFB (.sequence [0x644, 0x627]) (.node (.node (.node
  .leaf 0xFEFC 0xFEFC (.sequence [0x644, 0x627]) .leaf) 0xFF01 0xFF5E (.consecutive 0x21)
  (.node .leaf 0xFF5F 0xFF60 (.consecutive 0x2985) .leaf)) 0xFF61 0xFF61 (.sequence [0x3002])
  (.node (.node .leaf 0xFF62 0xFF63 (.consecutive 0x300C) .leaf) 0xFF64 0xFF64 (.sequence
  [0x3001]) .leaf))) 0xFF65 0xFF65 (.sequence [0x30FB]) (.node (.node (.node (.node .leaf
  0xFF66 0xFF66 (.sequence [0x30F2]) .leaf) 0xFF67 0xFF67 (.sequence [0x30A1]) (.node .leaf
  0xFF68 0xFF68 (.sequence [0x30A3]) .leaf)) 0xFF69 0xFF69 (.sequence [0x30A5]) (.node (.node
  .leaf 0xFF6A 0xFF6A (.sequence [0x30A7]) .leaf) 0xFF6B 0xFF6B (.sequence [0x30A9]) .leaf))
  0xFF6C 0xFF6C (.sequence [0x30E3]) (.node (.node (.node .leaf 0xFF6D 0xFF6D (.sequence
  [0x30E5]) .leaf) 0xFF6E 0xFF6E (.sequence [0x30E7]) .leaf) 0xFF6F 0xFF6F (.sequence [0x30C3])
  (.node (.node .leaf 0xFF70 0xFF70 (.sequence [0x30FC]) .leaf) 0xFF71 0xFF71 (.sequence
  [0x30A2]) .leaf))))) 0xFF72 0xFF72 (.sequence [0x30A4]) (.node (.node (.node (.node (.node
  (.node .leaf 0xFF73 0xFF73 (.sequence [0x30A6]) .leaf) 0xFF74 0xFF74 (.sequence [0x30A8])
  (.node .leaf 0xFF75 0xFF76 (.consecutive 0x30AA) .leaf)) 0xFF77 0xFF77 (.sequence [0x30AD])
  (.node (.node .leaf 0xFF78 0xFF78 (.sequence [0x30AF]) .leaf) 0xFF79 0xFF79 (.sequence
  [0x30B1]) .leaf)) 0xFF7A 0xFF7A (.sequence [0x30B3]) (.node (.node (.node .leaf 0xFF7B
  0xFF7B (.sequence [0x30B5]) .leaf) 0xFF7C 0xFF7C (.sequence [0x30B7]) (.node .leaf 0xFF7D
  0xFF7D (.sequence [0x30B9]) .leaf)) 0xFF7E 0xFF7E (.sequence [0x30BB]) (.node (.node .leaf
  0xFF7F 0xFF7F (.sequence [0x30BD]) .leaf) 0xFF80 0xFF80 (.sequence [0x30BF]) .leaf))) 0xFF81
  0xFF81 (.sequence [0x30C1]) (.node (.node (.node (.node .leaf 0xFF82 0xFF82 (.sequence
  [0x30C4]) .leaf) 0xFF83 0xFF83 (.sequence [0x30C6]) (.node .leaf 0xFF84 0xFF84 (.sequence
  [0x30C8]) .leaf)) 0xFF85 0xFF8A (.consecutive 0x30CA) (.node (.node .leaf 0xFF8B 0xFF8B
  (.sequence [0x30D2]) .leaf) 0xFF8C 0xFF8C (.sequence [0x30D5]) .leaf)) 0xFF8D 0xFF8D
  (.sequence [0x30D8]) (.node (.node (.node .leaf 0xFF8E 0xFF8E (.sequence [0x30DB]) .leaf)
  0xFF8F 0xFF93 (.consecutive 0x30DE) (.node .leaf 0xFF94 0xFF94 (.sequence [0x30E4]) .leaf))
  0xFF95 0xFF95 (.sequence [0x30E6]) (.node (.node .leaf 0xFF96 0xFF9B (.consecutive 0x30E8)
  .leaf) 0xFF9C 0xFF9C (.sequence [0x30EF]) .leaf)))) 0xFF9D 0xFF9D (.sequence [0x30F3])
  (.node (.node (.node (.node (.node .leaf 0xFF9E 0xFF9F (.consecutive 0x3099) .leaf) 0xFFA0
  0xFFA0 (.sequence [0x1160]) (.node .leaf 0xFFA1 0xFFA2 (.consecutive 0x1100) .leaf)) 0xFFA3
  0xFFA3 (.sequence [0x11AA]) (.node (.node .leaf 0xFFA4 0xFFA4 (.sequence [0x1102]) .leaf)
  0xFFA5 0xFFA6 (.consecutive 0x11AC) .leaf)) 0xFFA7 0xFFA9 (.consecutive 0x1103) (.node
  (.node (.node .leaf 0xFFAA 0xFFAF (.consecutive 0x11B0) .leaf) 0xFFB0 0xFFB0 (.sequence
  [0x111A]) (.node .leaf 0xFFB1 0xFFB3 (.consecutive 0x1106) .leaf)) 0xFFB4 0xFFB4 (.sequence
  [0x1121]) (.node (.node .leaf 0xFFB5 0xFFBE (.consecutive 0x1109) .leaf) 0xFFC2 0xFFC7
  (.consecutive 0x1161) .leaf))) 0xFFCA 0xFFCF (.consecutive 0x1167) (.node (.node (.node
  (.node .leaf 0xFFD2 0xFFD7 (.consecutive 0x116D) .leaf) 0xFFDA 0xFFDC (.consecutive 0x1173)
  (.node .leaf 0xFFE0 0xFFE1 (.consecutive 0xA2) .leaf)) 0xFFE2 0xFFE2 (.sequence [0xAC])
  (.node (.node .leaf 0xFFE3 0xFFE3 (.sequence [0x20, 0x304]) .leaf) 0xFFE4 0xFFE4 (.sequence
  [0xA6]) .leaf)) 0xFFE5 0xFFE5 (.sequence [0xA5]) (.node (.node (.node .leaf 0xFFE6 0xFFE6
  (.sequence [0x20A9]) .leaf) 0xFFE8 0xFFE8 (.sequence [0x2502]) .leaf) 0xFFE9 0xFFEC
  (.consecutive 0x2190) (.node (.node .leaf 0xFFED 0xFFED (.sequence [0x25A0]) .leaf) 0xFFEE
  0xFFEE (.sequence [0x25CB]) .leaf))))))))

end StreamTable.Unicode
