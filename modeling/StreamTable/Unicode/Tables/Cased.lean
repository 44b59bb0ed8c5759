import StreamTable.Unicode.RangeMap

/-! The two properties that decide how a final sigma is written. -/

namespace StreamTable.Unicode

set_option maxRecDepth 100000 in
/-- Code points with the Cased property. -/
def casedLetters : RangeSet :=
  .node (.node (.node (.node (.node (.node (.node (.node .leaf 0x41 0x5A () .leaf) 0x61 0x7A
  () .leaf) 0xAA 0xAA () (.node .leaf 0xB5 0xB5 () .leaf)) 0xBA 0xBA () (.node (.node (.node
  .leaf 0xC0 0xD6 () .leaf) 0xD8 0xF6 () .leaf) 0xF8 0x1BA () (.node .leaf 0x1BC 0x1BF ()
  .leaf))) 0x1C4 0x293 () (.node (.node (.node (.node .leaf 0x296 0x2B8 () .leaf) 0x2C0 0x2C1
  () .leaf) 0x2E0 0x2E4 () (.node .leaf 0x345 0x345 () .leaf)) 0x370 0x373 () (.node (.node
  (.node .leaf 0x376 0x377 () .leaf) 0x37A 0x37D () .leaf) 0x37F 0x37F () (.node .leaf 0x386
  0x386 () .leaf)))) 0x388 0x38A () (.node (.node (.node (.node (.node .leaf 0x38C 0x38C ()
  .leaf) 0x38E 0x3A1 () .leaf) 0x3A3 0x3F5 () (.node .leaf 0x3F7 0x481 () .leaf)) 0x48A 0x52F
  () (.node (.node (.node .leaf 0x531 0x556 () .leaf) 0x560 0x588 () .leaf) 0x10A0 0x10C5 ()
  (.node .leaf 0x10C7 0x10C7 () .leaf))) 0x10CD 0x10CD () (.node (.node (.node (.node .leaf
  0x10D0 0x10FA () .leaf) 0x10FC 0x10FF () .leaf) 0x13A0 0x13F5 () (.node .leaf 0x13F8 0x13FD
  () .leaf)) 0x1C80 0x1C8A () (.node (.node (.node .leaf 0x1C90 0x1CBA () .leaf) 0x1CBD 0x1CBF
  () .leaf) 0x1D00 0x1DBF () (.node .leaf 0x1E00 0x1F15 () .leaf))))) 0x1F18 0x1F1D () (.node
  (.node (.node (.node (.node (.node .leaf 0x1F20 0x1F45 () .leaf) 0x1F48 0x1F4D () .leaf)
  0x1F50 0x1F57 () (.node .leaf 0x1F59 0x1F59 () .leaf)) 0x1F5B 0x1F5B () (.node (.node (.node
  .leaf 0x1F5D 0x1F5D () .leaf) 0x1F5F 0x1F7D () .leaf) 0x1F80 0x1FB4 () (.node .leaf 0x1FB6
  0x1FBC () .leaf))) 0x1FBE 0x1FBE () (.node (.node (.node (.node .leaf 0x1FC2 0x1FC4 () .leaf)
  0x1FC6 0x1FCC () .leaf) 0x1FD0 0x1FD3 () (.node .leaf 0x1FD6 0x1FDB () .leaf)) 0x1FE0 0x1FEC
  () (.node (.node (.node .leaf 0x1FF2 0x1FF4 () .leaf) 0x1FF6 0x1FFC () .leaf) 0x2071 0x2071
  () (.node .leaf 0x207F 0x207F () .leaf)))) 0x2090 0x209C () (.node (.node (.node (.node
  (.node .leaf 0x2102 0x2102 () .leaf) 0x2107 0x2107 () .leaf) 0x210A 0x2113 () (.node .leaf
  0x2115 0x2115 () .leaf)) 0x2119 0x211D () (.node (.node (.node .leaf 0x2124 0x2124 () .leaf)
  0x2126 0x2126 () .leaf) 0x2128 0x2128 () (.node .leaf 0x212A 0x212D () .leaf))) 0x212F
  0x2134 () (.node (.node (.node (.node .leaf 0x2139 0x2139 () .leaf) 0x213C 0x213F () .leaf)
  0x2145 0x2149 () (.node .leaf 0x214E 0x214E () .leaf)) 0x2160 0x217F () (.node (.node (.node
  .leaf 0x2183 0x2184 () .leaf) 0x24B6 0x24E9 () .leaf) 0x2C00 0x2CE4 () (.node .leaf 0x2CEB
  0x2CEE () .leaf)))))) 0x2CF2 0x2CF3 () (.node (.node (.node (.node (.node (.node (.node
  .leaf 0x2D00 0x2D25 () .leaf) 0x2D27 0x2D27 () .leaf) 0x2D2D 0x2D2D () (.node .leaf 0xA640
  0xA66D () .leaf)) 0xA680 0xA69D () (.node (.node (.node .leaf 0xA722 0xA787 () .leaf) 0xA78B
  0xA78E () .leaf) 0xA790 0xA7DC () (.node .leaf 0xA7F1 0xA7F6 () .leaf))) 0xA7F8 0xA7FA ()
  (.node (.node (.node (.node .leaf 0xAB30 0xAB5A () .leaf) 0xAB5C 0xAB69 () .leaf) 0xAB70
  0xABBF () (.node .leaf 0xFB00 0xFB06 () .leaf)) 0xFB13 0xFB17 () (.node (.node (.node .leaf
  0xFF21 0xFF3A () .leaf) 0xFF41 0xFF5A () .leaf) 0x10400 0x1044F () (.node .leaf 0x104B0
  0x104D3 () .leaf)))) 0x104D8 0x104FB () (.node (.node (.node (.node (.node .leaf 0x10570
  0x1057A () .leaf) 0x1057C 0x1058A () .leaf) 0x1058C 0x10592 () (.node .leaf 0x10594 0x10595
  () .leaf)) 0x10597 0x105A1 () (.node (.node (.node .leaf 0x105A3 0x105B1 () .leaf) 0x105B3
  0x105B9 () .leaf) 0x105BB 0x105BC () (.node .leaf 0x10780 0x10780 () .leaf))) 0x10783
  0x10785 () (.node (.node (.node (.node .leaf 0x10787 0x107B0 () .leaf) 0x107B2 0x107BA ()
  .leaf) 0x10C80 0x10CB2 () (.node .leaf 0x10CC0 0x10CF2 () .leaf)) 0x10D50 0x10D65 () (.node
  (.node (.node .leaf 0x10D70 0x10D85 () .leaf) 0x118A0 0x118DF () .leaf) 0x16E40 0x16E7F ()
  (.node .leaf 0x16EA0 0x16EB8 () .leaf))))) 0x16EBB 0x16ED3 () (.node (.node (.node (.node
  (.node (.node .leaf 0x1D400 0x1D454 () .leaf) 0x1D456 0x1D49C () .leaf) 0x1D49E 0x1D49F ()
  (.node .leaf 0x1D4A2 0x1D4A2 () .leaf)) 0x1D4A5 0x1D4A6 () (.node (.node (.node .leaf
  0x1D4A9 0x1D4AC () .leaf) 0x1D4AE 0x1D4B9 () .leaf) 0x1D4BB 0x1D4BB () (.node .leaf 0x1D4BD
  0x1D4C3 () .leaf))) 0x1D4C5 0x1D505 () (.node (.node (.node (.node .leaf 0x1D507 0x1D50A ()
  .leaf) 0x1D50D 0x1D514 () .leaf) 0x1D516 0x1D51C () (.node .leaf 0x1D51E 0x1D539 () .leaf))
  0x1D53B 0x1D53E () (.node (.node (.node .leaf 0x1D540 0x1D544 () .leaf) 0x1D546 0x1D546 ()
  .leaf) 0x1D54A 0x1D550 () (.node .leaf 0x1D552 0x1D6A5 () .leaf)))) 0x1D6A8 0x1D6C0 ()
  (.node (.node (.node (.node (.node .leaf 0x1D6C2 0x1D6DA () .leaf) 0x1D6DC 0x1D6FA () .leaf)
  0x1D6FC 0x1D714 () (.node .leaf 0x1D716 0x1D734 () .leaf)) 0x1D736 0x1D74E () (.node (.node
  (.node .leaf 0x1D750 0x1D76E () .leaf) 0x1D770 0x1D788 () .leaf) 0x1D78A 0x1D7A8 () (.node
  .leaf 0x1D7AA 0x1D7C2 () .leaf))) 0x1D7C4 0x1D7CB () (.node (.node (.node (.node .leaf
  0x1DF00 0x1DF09 () .leaf) 0x1DF0B 0x1DF1E () .leaf) 0x1DF25 0x1DF2A () (.node .leaf 0x1E030
  0x1E06D () .leaf)) 0x1E900 0x1E943 () (.node (.node .leaf 0x1F130 0x1F149 () .leaf) 0x1F150
  0x1F169 () (.node .leaf 0x1F170 0x1F189 () .leaf))))))

set_option maxRecDepth 100000 in
/-- Code points with the Case_Ignorable property. -/
def caseIgnorables : RangeSet :=
  .node (.node (.node (.node (.node (.node (.node (.node (.node .leaf 0x27 0x27 () .leaf) 0x2E
  0x2E () (.node .leaf 0x3A 0x3A () .leaf)) 0x5E 0x5E () (.node (.node .leaf 0x60 0x60 ()
  .leaf) 0xA8 0xA8 () (.node .leaf 0xAD 0xAD () .leaf))) 0xAF 0xAF () (.node (.node (.node
  .leaf 0xB4 0xB4 () .leaf) 0xB7 0xB8 () (.node .leaf 0x2B0 0x36F () .leaf)) 0x374 0x375 ()
  (.node (.node .leaf 0x37A 0x37A () .leaf) 0x384 0x385 () .leaf))) 0x387 0x387 () (.node
  (.node (.node (.node .leaf 0x483 0x489 () .leaf) 0x559 0x559 () (.node .leaf 0x55F 0x55F ()
  .leaf)) 0x591 0x5BD () (.node (.node .leaf 0x5BF 0x5BF () .leaf) 0x5C1 0x5C2 () (.node .leaf
  0x5C4 0x5C5 () .leaf))) 0x5C7 0x5C7 () (.node (.node (.node .leaf 0x5F4 0x5F4 () .leaf)
  0x600 0x605 () (.node .leaf 0x610 0x61A () .leaf)) 0x61C 0x61C () (.node (.node .leaf 0x640
  0x640 () .leaf) 0x64B 0x65F () .leaf)))) 0x670 0x670 () (.node (.node (.node (.node (.node
  .leaf 0x6D6 0x6DD () .leaf) 0x6DF 0x6E8 () (.node .leaf 0x6EA 0x6ED () .leaf)) 0x70F 0x70F
  () (.node (.node .leaf 0x711 0x711 () .leaf) 0x730 0x74A () (.node .leaf 0x7A6 0x7B0 ()
  .leaf))) 0x7EB 0x7F5 () (.node (.node (.node .leaf 0x7FA 0x7FA () .leaf) 0x7FD 0x7FD ()
  (.node .leaf 0x816 0x82D () .leaf)) 0x859 0x85B () (.node (.node .leaf 0x888 0x888 () .leaf)
  0x890 0x891 () .leaf))) 0x897 0x89F () (.node (.node (.node (.node .leaf 0x8C9 0x902 ()
  .leaf) 0x93A 0x93A () (.node .leaf 0x93C 0x93C () .leaf)) 0x941 0x948 () (.node (.node .leaf
  0x94D 0x94D () .leaf) 0x951 0x957 () .leaf)) 0x962 0x963 () (.node (.node (.node .leaf 0x971
  0x971 () .leaf) 0x981 0x981 () (.node .leaf 0x9BC 0x9BC () .leaf)) 0x9C1 0x9C4 () (.node
  (.node .leaf 0x9CD 0x9CD () .leaf) 0x9E2 0x9E3 () .leaf))))) 0x9FE 0x9FE () (.node (.node
  (.node (.node (.node (.node .leaf 0xA01 0xA02 () .leaf) 0xA3C 0xA3C () (.node .leaf 0xA41
  0xA42 () .leaf)) 0xA47 0xA48 () (.node (.node .leaf 0xA4B 0xA4D () .leaf) 0xA51 0xA51 ()
  (.node .leaf 0xA70 0xA71 () .leaf))) 0xA75 0xA75 () (.node (.node (.node .leaf 0xA81 0xA82
  () .leaf) 0xABC 0xABC () (.node .leaf 0xAC1 0xAC5 () .leaf)) 0xAC7 0xAC8 () (.node (.node
  .leaf 0xACD 0xACD () .leaf) 0xAE2 0xAE3 () .leaf))) 0xAFA 0xAFF () (.node (.node (.node
  (.node .leaf 0xB01 0xB01 () .leaf) 0xB3C 0xB3C () (.node .leaf 0xB3F 0xB3F () .leaf)) 0xB41
  0xB44 () (.node (.node .leaf 0xB4D 0xB4D () .leaf) 0xB55 0xB56 () .leaf)) 0xB62 0xB63 ()
  (.node (.node (.node .leaf 0xB82 0xB82 () .leaf) 0xBC0 0xBC0 () (.node .leaf 0xBCD 0xBCD ()
  .leaf)) 0xC00 0xC00 () (.node (.node .leaf 0xC04 0xC04 () .leaf) 0xC3C 0xC3C () .leaf))))
  0xC3E 0xC40 () (.node (.node (.node (.node (.node .leaf 0xC46 0xC48 () .leaf) 0xC4A 0xC4D ()
  (.node .leaf 0xC55 0xC56 () .leaf)) 0xC62 0xC63 () (.node (.node .leaf 0xC81 0xC81 () .leaf)
  0xCBC 0xCBC () (.node .leaf 0xCBF 0xCBF () .leaf))) 0xCC6 0xCC6 () (.node (.node (.node
  .leaf 0xCCC 0xCCD () .leaf) 0xCE2 0xCE3 () (.node .leaf 0xD00 0xD01 () .leaf)) 0xD3B 0xD3C
  () (.node (.node .leaf 0xD41 0xD44 () .leaf) 0xD4D 0xD4D () .leaf))) 0xD62 0xD63 () (.node
  (.node (.node (.node .leaf 0xD81 0xD81 () .leaf) 0xDCA 0xDCA () (.node .leaf 0xDD2 0xDD4 ()
  .leaf)) 0xDD6 0xDD6 () (.node (.node .leaf 0xE31 0xE31 () .leaf) 0xE34 0xE3A () .leaf))
  0xE46 0xE4E () (.node (.node (.node .leaf 0xEB1 0xEB1 () .leaf) 0xEB4 0xEBC () (.node .leaf
  0xEC6 0xEC6 () .leaf)) 0xEC8 0xECE () (.node (.node .leaf 0xF18 0xF19 () .leaf) 0xF35 0xF35
  () .leaf)))))) 0xF37 0xF37 () (.node (.node (.node (.node (.node (.node (.node .leaf 0xF39
  0xF39 () .leaf) 0xF71 0xF7E () (.node .leaf 0xF80 0xF84 () .leaf)) 0xF86 0xF87 () (.node
  (.node .leaf 0xF8D 0xF97 () .leaf) 0xF99 0xFBC () (.node .leaf 0xFC6 0xFC6 () .leaf)))
  0x102D 0x1030 () (.node (.node (.node .leaf 0x1032 0x1037 () .leaf) 0x1039 0x103A () (.node
  .leaf 0x103D 0x103E () .leaf)) 0x1058 0x1059 () (.node (.node .leaf 0x105E 0x1060 () .leaf)
  0x1071 0x1074 () .leaf))) 0x1082 0x1082 () (.node (.node (.node (.node .leaf 0x1085 0x1086
  () .leaf) 0x108D 0x108D () (.node .leaf 0x109D 0x109D () .leaf)) 0x10FC 0x10FC () (.node
  (.node .leaf 0x135D 0x135F () .leaf) 0x1712 0x1714 () .leaf)) 0x1732 0x1733 () (.node (.node
  (.node .leaf 0x1752 0x1753 () .leaf) 0x1772 0x1773 () (.node .leaf 0x17B4 0x17B5 () .leaf))
  0x17B7 0x17BD () (.node (.node .leaf 0x17C6 0x17C6 () .leaf) 0x17C9 0x17D3 () .leaf))))
  0x17D7 0x17D7 () (.node (.node (.node (.node (.node .leaf 0x17DD 0x17DD () .leaf) 0x180B
  0x180F () (.node .leaf 0x1843 0x1843 () .leaf)) 0x1885 0x1886 () (.node (.node .leaf 0x18A9
  0x18A9 () .leaf) 0x1920 0x1922 () (.node .leaf 0x1927 0x1928 () .leaf))) 0x1932 0x1932 ()
  (.node (.node (.node .leaf 0x1939 0x193B () .leaf) 0x1A17 0x1A18 () (.node .leaf 0x1A1B
  0x1A1B () .leaf)) 0x1A56 0x1A56 () (.node (.node .leaf 0x1A58 0x1A5E () .leaf) 0x1A60 0x1A60
  () .leaf))) 0x1A62 0x1A62 () (.node (.node (.node (.node .leaf 0x1A65 0x1A6C () .leaf)
  0x1A73 0x1A7C () (.node .leaf 0x1A7F 0x1A7F () .leaf)) 0x1AA7 0x1AA7 () (.node (.node .leaf
  0x1AB0 0x1ADD () .leaf) 0x1AE0 0x1AEB () .leaf)) 0x1B00 0x1B03 () (.node (.node (.node .leaf
  0x1B34 0x1B34 () .leaf) 0x1B36 0x1B3A () (.node .leaf 0x1B3C 0x1B3C () .leaf)) 0x1B42 0x1B42
  () (.node (.node .leaf 0x1B6B 0x1B73 () .leaf) 0x1B80 0x1B81 () .leaf))))) 0x1BA2 0x1BA5 ()
  (.node (.node (.node (.node (.node (.node .leaf 0x1BA8 0x1BA9 () .leaf) 0x1BAB 0x1BAD ()
  (.node .leaf 0x1BE6 0x1BE6 () .leaf)) 0x1BE8 0x1BE9 () (.node (.node .leaf 0x1BED 0x1BED ()
  .leaf) 0x1BEF 0x1BF1 () (.node .leaf 0x1C2C 0x1C33 () .leaf))) 0x1C36 0x1C37 () (.node
  (.node (.node .leaf 0x1C78 0x1C7D () .leaf) 0x1CD0 0x1CD2 () (.node .leaf 0x1CD4 0x1CE0 ()
  .leaf)) 0x1CE2 0x1CE8 () (.node (.node .leaf 0x1CED 0x1CED () .leaf) 0x1CF4 0x1CF4 () .leaf)))
  0x1CF8 0x1CF9 () (.node (.node (.node (.node .leaf 0x1D2C 0x1D6A () .leaf) 0x1D78 0x1D78 ()
  (.node .leaf 0x1D9B 0x1DFF () .leaf)) 0x1FBD 0x1FBD () (.node (.node .leaf 0x1FBF 0x1FC1 ()
  .leaf) 0x1FCD 0x1FCF () .leaf)) 0x1FDD 0x1FDF () (.node (.node (.node .leaf 0x1FED 0x1FEF ()
  .leaf) 0x1FFD 0x1FFE () (.node .leaf 0x200B 0x200F () .leaf)) 0x2018 0x2019 () (.node (.node
  .leaf 0x2024 0x2024 () .leaf) 0x2027 0x2027 () .leaf)))) 0x202A 0x202E () (.node (.node
  (.node (.node (.node .leaf 0x2060 0x2064 () .leaf) 0x2066 0x206F () (.node .leaf 0x2071
  0x2071 () .leaf)) 0x207F 0x207F () (.node (.node .leaf 0x2090 0x209C () .leaf) 0x20D0 0x20F0
  () (.node .leaf 0x2C7C 0x2C7D () .leaf))) 0x2CEF 0x2CF1 () (.node (.node (.node .leaf 0x2D6F
  0x2D6F () .leaf) 0x2D7F 0x2D7F () (.node .leaf 0x2DE0 0x2DFF () .leaf)) 0x2E2F 0x2E2F ()
  (.node (.node .leaf 0x3005 0x3005 () .leaf) 0x302A 0x302D () .leaf))) 0x3031 0x3035 ()
  (.node (.node (.node (.node .leaf 0x303B 0x303B () .leaf) 0x3099 0x309E () (.node .leaf
  0x30FC 0x30FE () .leaf)) 0xA015 0xA015 () (.node (.node .leaf 0xA4F8 0xA4FD () .leaf) 0xA60C
  0xA60C () .leaf)) 0xA66F 0xA672 () (.node (.node (.node .leaf 0xA674 0xA67D () .leaf) 0xA67F
  0xA67F () (.node .leaf 0xA69C 0xA69F () .leaf)) 0xA6F0 0xA6F1 () (.node (.node .leaf 0xA700
  0xA721 () .leaf) 0xA770 0xA770 () .leaf))))))) 0xA788 0xA78A () (.node (.node (.node (.node
  (.node (.node (.node (.node .leaf 0xA7F1 0xA7F4 () .leaf) 0xA7F8 0xA7F9 () (.node .leaf
  0xA802 0xA802 () .leaf)) 0xA806 0xA806 () (.node (.node .leaf 0xA80B 0xA80B () .leaf) 0xA825
  0xA826 () (.node .leaf 0xA82C 0xA82C () .leaf))) 0xA8C4 0xA8C5 () (.node (.node (.node .leaf
  0xA8E0 0xA8F1 () .leaf) 0xA8FF 0xA8FF () (.node .leaf 0xA926 0xA92D () .leaf)) 0xA947 0xA951
  () (.node (.node .leaf 0xA980 0xA982 () .leaf) 0xA9B3 0xA9B3 () .leaf))) 0xA9B6 0xA9B9 ()
  (.node (.node (.node (.node .leaf 0xA9BC 0xA9BD () .leaf) 0xA9CF 0xA9CF () (.node .leaf
  0xA9E5 0xA9E6 () .leaf)) 0xAA29 0xAA2E () (.node (.node .leaf 0xAA31 0xAA32 () .leaf) 0xAA35
  0xAA36 () .leaf)) 0xAA43 0xAA43 () (.node (.node (.node .leaf 0xAA4C 0xAA4C () .leaf) 0xAA70
  0xAA70 () (.node .leaf 0xAA7C 0xAA7C () .leaf)) 0xAAB0 0xAAB0 () (.node (.node .leaf 0xAAB2
  0xAAB4 () .leaf) 0xAAB7 0xAAB8 () .leaf)))) 0xAABE 0xAABF () (.node (.node (.node (.node
  (.node .leaf 0xAAC1 0xAAC1 () .leaf) 0xAADD 0xAADD () (.node .leaf 0xAAEC 0xAAED () .leaf))
  0xAAF3 0xAAF4 () (.node (.node .leaf 0xAAF6 0xAAF6 () .leaf) 0xAB5B 0xAB5F () (.node .leaf
  0xAB69 0xAB6B () .leaf))) 0xABE5 0xABE5 () (.node (.node (.node .leaf 0xABE8 0xABE8 () .leaf)
  0xABED 0xABED () (.node .leaf 0xFB1E 0xFB1E () .leaf)) 0xFBB2 0xFBC2 () (.node (.node .leaf
  0xFE00 0xFE0F () .leaf) 0xFE13 0xFE13 () .leaf))) 0xFE20 0xFE2F () (.node (.node (.node
  (.node .leaf 0xFE52 0xFE52 () .leaf) 0xFE55 0xFE55 () (.node .leaf 0xFEFF 0xFEFF () .leaf))
  0xFF07 0xFF07 () (.node (.node .leaf 0xFF0E 0xFF0E () .leaf) 0xFF1A 0xFF1A () .leaf)) 0xFF3E
  0xFF3E () (.node (.node (.node .leaf 0xFF40 0xFF40 () .leaf) 0xFF70 0xFF70 () (.node .leaf
  0xFF9E 0xFF9F () .leaf)) 0xFFE3 0xFFE3 () (.node (.node .leaf 0xFFF9 0xFFFB () .leaf)
  0x101FD 0x101FD () .leaf))))) 0x102E0 0x102E0 () (.node (.node (.node (.node (.node (.node
  .leaf 0x10376 0x1037A () .leaf) 0x10780 0x10785 () (.node .leaf 0x10787 0x107B0 () .leaf))
  0x107B2 0x107BA () (.node (.node .leaf 0x10A01 0x10A03 () .leaf) 0x10A05 0x10A06 () (.node
  .leaf 0x10A0C 0x10A0F () .leaf))) 0x10A38 0x10A3A () (.node (.node (.node .leaf 0x10A3F
  0x10A3F () .leaf) 0x10AE5 0x10AE6 () (.node .leaf 0x10D24 0x10D27 () .leaf)) 0x10D4E 0x10D4E
  () (.node (.node .leaf 0x10D69 0x10D6D () .leaf) 0x10D6F 0x10D6F () .leaf))) 0x10EAB 0x10EAC
  () (.node (.node (.node (.node .leaf 0x10EC5 0x10EC5 () .leaf) 0x10EFA 0x10EFF () (.node
  .leaf 0x10F46 0x10F50 () .leaf)) 0x10F82 0x10F85 () (.node (.node .leaf 0x11001 0x11001 ()
  .leaf) 0x11038 0x11046 () .leaf)) 0x11070 0x11070 () (.node (.node (.node .leaf 0x11073
  0x11074 () .leaf) 0x1107F 0x11081 () (.node .leaf 0x110B3 0x110B6 () .leaf)) 0x110B9 0x110BA
  () (.node (.node .leaf 0x110BD 0x110BD () .leaf) 0x110C2 0x110C2 () .leaf)))) 0x110CD
  0x110CD () (.node (.node (.node (.node (.node .leaf 0x11100 0x11102 () .leaf) 0x11127
  0x1112B () (.node .leaf 0x1112D 0x11134 () .leaf)) 0x11173 0x11173 () (.node (.node .leaf
  0x11180 0x11181 () .leaf) 0x111B6 0x111BE () (.node .leaf 0x111C9 0x111CC () .leaf)))
  0x111CF 0x111CF () (.node (.node (.node .leaf 0x1122F 0x11231 () .leaf) 0x11234 0x11234 ()
  (.node .leaf 0x11236 0x11237 () .leaf)) 0x1123E 0x1123E () (.node (.node .leaf 0x11241
  0x11241 () .leaf) 0x112DF 0x112DF () .leaf))) 0x112E3 0x112EA () (.node (.node (.node (.node
  .leaf 0x11300 0x11301 () .leaf) 0x1133B 0x1133C () (.node .leaf 0x11340 0x11340 () .leaf))
  0x11366 0x1136C () (.node (.node .leaf 0x11370 0x11374 () .leaf) 0x113BB 0x113C0 () .leaf))
  0x113CE 0x113CE () (.node (.node (.node .leaf 0x113D0 0x113D0 () .leaf) 0x113D2 0x113D2 ()
  (.node .leaf 0x113E1 0x113E2 () .leaf)) 0x11438 0x1143F () (.node (.node .leaf 0x11442
  0x11444 () .leaf) 0x11446 0x11446 () .leaf)))))) 0x1145E 0x1145E () (.node (.node (.node
  (.node (.node (.node (.node .leaf 0x114B3 0x114B8 () .leaf) 0x114BA 0x114BA () (.node .leaf
  0x114BF 0x114C0 () .leaf)) 0x114C2 0x114C3 () (.node (.node .leaf 0x115B2 0x115B5 () .leaf)
  0x115BC 0x115BD () (.node .leaf 0x115BF 0x115C0 () .leaf))) 0x115DC 0x115DD () (.node (.node
  (.node .leaf 0x11633 0x1163A () .leaf) 0x1163D 0x1163D () (.node .leaf 0x1163F 0x11640 ()
  .leaf)) 0x116AB 0x116AB () (.node (.node .leaf 0x116AD 0x116AD () .leaf) 0x116B0 0x116B5 ()
  .leaf))) 0x116B7 0x116B7 () (.node (.node (.node (.node .leaf 0x1171D 0x1171D () .leaf)
  0x1171F 0x1171F () (.node .leaf 0x11722 0x11725 () .leaf)) 0x11727 0x1172B () (.node (.node
  .leaf 0x1182F 0x11837 () .leaf) 0x11839 0x1183A () .leaf)) 0x1193B 0x1193C () (.node (.node
  (.node .leaf 0x1193E 0x1193E () .leaf) 0x11943 0x11943 () (.node .leaf 0x119D4 0x119D7 ()
  .leaf)) 0x119DA 0x119DB () (.node (.node .leaf 0x119E0 0x119E0 () .leaf) 0x11A01 0x11A0A ()
  .leaf)))) 0x11A33 0x11A38 () (.node (.node (.node (.node (.node .leaf 0x11A3B 0x11A3E ()
  .leaf) 0x11A47 0x11A47 () (.node .leaf 0x11A51 0x11A56 () .leaf)) 0x11A59 0x11A5B () (.node
  (.node .leaf 0x11A8A 0x11A96 () .leaf) 0x11A98 0x11A99 () (.node .leaf 0x11B60 0x11B60 ()
  .leaf))) 0x11B62 0x11B64 () (.node (.node (.node .leaf 0x11B66 0x11B66 () .leaf) 0x11C30
  0x11C36 () (.node .leaf 0x11C38 0x11C3D () .leaf)) 0x11C3F 0x11C3F () (.node (.node .leaf
  0x11C92 0x11CA7 () .leaf) 0x11CAA 0x11CB0 () .leaf))) 0x11CB2 0x11CB3 () (.node (.node
  (.node (.node .leaf 0x11CB5 0x11CB6 () .leaf) 0x11D31 0x11D36 () (.node .leaf 0x11D3A
  0x11D3A () .leaf)) 0x11D3C 0x11D3D () (.node (.node .leaf 0x11D3F 0x11D45 () .leaf) 0x11D47
  0x11D47 () .leaf)) 0x11D90 0x11D91 () (.node (.node (.node .leaf 0x11D95 0x11D95 () .leaf)
  0x11D97 0x11D97 () (.node .leaf 0x11DD9 0x11DD9 () .leaf)) 0x11EF3 0x11EF4 () (.node (.node
  .leaf 0x11F00 0x11F01 () .leaf) 0x11F36 0x11F3A () .leaf))))) 0x11F40 0x11F40 () (.node
  (.node (.node (.node (.node (.node .leaf 0x11F42 0x11F42 () .leaf) 0x11F5A 0x11F5A () (.node
  .leaf 0x13430 0x13440 () .leaf)) 0x13447 0x13455 () (.node (.node .leaf 0x1611E 0x16129 ()
  .leaf) 0x1612D 0x1612F () (.node .leaf 0x16AF0 0x16AF4 () .leaf))) 0x16B30 0x16B36 () (.node
  (.node (.node .leaf 0x16B40 0x16B43 () .leaf) 0x16D40 0x16D42 () (.node .leaf 0x16D6B
  0x16D6C () .leaf)) 0x16F4F 0x16F4F () (.node (.node .leaf 0x16F8F 0x16F9F () .leaf) 0x16FE0
  0x16FE1 () .leaf))) 0x16FE3 0x16FE4 () (.node (.node (.node (.node .leaf 0x16FF2 0x16FF3 ()
  .leaf) 0x1AFF0 0x1AFF3 () (.node .leaf 0x1AFF5 0x1AFFB () .leaf)) 0x1AFFD 0x1AFFE () (.node
  (.node .leaf 0x1BC9D 0x1BC9E () .leaf) 0x1BCA0 0x1BCA3 () .leaf)) 0x1CF00 0x1CF2D () (.node
  (.node (.node .leaf 0x1CF30 0x1CF46 () .leaf) 0x1D167 0x1D169 () (.node .leaf 0x1D173
  0x1D182 () .leaf)) 0x1D185 0x1D18B () (.node (.node .leaf 0x1D1AA 0x1D1AD () .leaf) 0x1D242
  0x1D244 () .leaf)))) 0x1DA00 0x1DA36 () (.node (.node (.node (.node (.node .leaf 0x1DA3B
  0x1DA6C () .leaf) 0x1DA75 0x1DA75 () (.node .leaf 0x1DA84 0x1DA84 () .leaf)) 0x1DA9B 0x1DA9F
  () (.node (.node .leaf 0x1DAA1 0x1DAAF () .leaf) 0x1E000 0x1E006 () (.node .leaf 0x1E008
  0x1E018 () .leaf))) 0x1E01B 0x1E021 () (.node (.node (.node .leaf 0x1E023 0x1E024 () .leaf)
  0x1E026 0x1E02A () (.node .leaf 0x1E030 0x1E06D () .leaf)) 0x1E08F 0x1E08F () (.node (.node
  .leaf 0x1E130 0x1E13D () .leaf) 0x1E2AE 0x1E2AE () .leaf))) 0x1E2EC 0x1E2EF () (.node (.node
  (.node (.node .leaf 0x1E4EB 0x1E4EF () .leaf) 0x1E5EE 0x1E5EF () (.node .leaf 0x1E6E3
  0x1E6E3 () .leaf)) 0x1E6E6 0x1E6E6 () (.node (.node .leaf 0x1E6EE 0x1E6EF () .leaf) 0x1E6F5
  0x1E6F5 () .leaf)) 0x1E6FF 0x1E6FF () (.node (.node (.node .leaf 0x1E8D0 0x1E8D6 () .leaf)
  0x1E944 0x1E94B () (.node .leaf 0x1F3FB 0x1F3FF () .leaf)) 0xE0001 0xE0001 () (.node (.node
  .leaf 0xE0020 0xE007F () .leaf) 0xE0100 0xE01EF () .leaf)))))))

end StreamTable.Unicode
