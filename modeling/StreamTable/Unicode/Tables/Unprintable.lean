import StreamTable.Unicode.RangeMap

/-! What a quoted text shows by its code point: controls, format characters, separators,
private and unassigned code points, and characters that extend the grapheme before them. -/

namespace StreamTable.Unicode

set_option maxRecDepth 100000 in
/-- Code points of a category C* or Z*, the plain space excepted. -/
def unprintables : RangeSet :=
  .node (.node (.node (.node (.node (.node (.node (.node (.node (.node .leaf 0x0 0x1F () .leaf)
  0x7F 0xA0 () .leaf) 0xAD 0xAD () (.node (.node .leaf 0x378 0x379 () .leaf) 0x380 0x383 ()
  .leaf)) 0x38B 0x38B () (.node (.node (.node .leaf 0x38D 0x38D () .leaf) 0x3A2 0x3A2 () .leaf)
  0x530 0x530 () (.node (.node .leaf 0x557 0x558 () .leaf) 0x58B 0x58C () .leaf))) 0x590 0x590
  () (.node (.node (.node (.node .leaf 0x5C8 0x5CF () .leaf) 0x5EB 0x5EE () .leaf) 0x5F5 0x605
  () (.node (.node .leaf 0x61C 0x61C () .leaf) 0x6DD 0x6DD () .leaf)) 0x70E 0x70F () (.node
  (.node (.node .leaf 0x74B 0x74C () .leaf) 0x7B2 0x7BF () .leaf) 0x7FB 0x7FC () (.node (.node
  .leaf 0x82E 0x82F () .leaf) 0x83F 0x83F () .leaf)))) 0x85C 0x85D () (.node (.node (.node
  (.node (.node .leaf 0x85F 0x85F () .leaf) 0x86B 0x86F () .leaf) 0x890 0x896 () (.node (.node
  .leaf 0x8E2 0x8E2 () .leaf) 0x984 0x984 () .leaf)) 0x98D 0x98E () (.node (.node (.node .leaf
  0x991 0x992 () .leaf) 0x9A9 0x9A9 () .leaf) 0x9B1 0x9B1 () (.node (.node .leaf 0x9B3 0x9B5
  () .leaf) 0x9BA 0x9BB () .leaf))) 0x9C5 0x9C6 () (.node (.node (.node (.node .leaf 0x9C9
  0x9CA () .leaf) 0x9CF 0x9D6 () .leaf) 0x9D8 0x9DB () (.node (.node .leaf 0x9DE 0x9DE ()
  .leaf) 0x9E4 0x9E5 () .leaf)) 0x9FF 0xA00 () (.node (.node (.node .leaf 0xA04 0xA04 () .leaf)
  0xA0B 0xA0E () .leaf) 0xA11 0xA12 () (.node .leaf 0xA29 0xA29 () .leaf))))) 0xA31 0xA31 ()
  (.node (.node (.node (.node (.node (.node .leaf 0xA34 0xA34 () .leaf) 0xA37 0xA37 () .leaf)
  0xA3A 0xA3B () (.node (.node .leaf 0xA3D 0xA3D () .leaf) 0xA43 0xA46 () .leaf)) 0xA49 0xA4A
  () (.node (.node (.node .leaf 0xA4E 0xA50 () .leaf) 0xA52 0xA58 () .leaf) 0xA5D 0xA5D ()
  (.node (.node .leaf 0xA5F 0xA65 () .leaf) 0xA77 0xA80 () .leaf))) 0xA84 0xA84 () (.node
  (.node (.node (.node .leaf 0xA8E 0xA8E () .leaf) 0xA92 0xA92 () .leaf) 0xAA9 0xAA9 () (.node
  (.node .leaf 0xAB1 0xAB1 () .leaf) 0xAB4 0xAB4 () .leaf)) 0xABA 0xABB () (.node (.node
  (.node .leaf 0xAC6 0xAC6 () .leaf) 0xACA 0xACA () .leaf) 0xACE 0xACF () (.node .leaf 0xAD1
  0xADF () .leaf)))) 0xAE4 0xAE5 () (.node (.node (.node (.node (.node .leaf 0xAF2 0xAF8 ()
  .leaf) 0xB00 0xB00 () .leaf) 0xB04 0xB04 () (.node (.node .leaf 0xB0D 0xB0E () .leaf) 0xB11
  0xB12 () .leaf)) 0xB29 0xB29 () (.node (.node (.node .leaf 0xB31 0xB31 () .leaf) 0xB34 0xB34
  () .leaf) 0xB3A 0xB3B () (.node (.node .leaf 0xB45 0xB46 () .leaf) 0xB49 0xB4A () .leaf)))
  0xB4E 0xB54 () (.node (.node (.node (.node .leaf 0xB58 0xB5B () .leaf) 0xB5E 0xB5E () .leaf)
  0xB64 0xB65 () (.node (.node .leaf 0xB78 0xB81 () .leaf) 0xB84 0xB84 () .leaf)) 0xB8B 0xB8D
  () (.node (.node (.node .leaf 0xB91 0xB91 () .leaf) 0xB96 0xB98 () .leaf) 0xB9B 0xB9B ()
  (.node .leaf 0xB9D 0xB9D () .leaf)))))) 0xBA0 0xBA2 () (.node (.node (.node (.node (.node
  (.node (.node .leaf 0xBA5 0xBA7 () .leaf) 0xBAB 0xBAD () .leaf) 0xBBA 0xBBD () (.node (.node
  .leaf 0xBC3 0xBC5 () .leaf) 0xBC9 0xBC9 () .leaf)) 0xBCE 0xBCF () (.node (.node (.node .leaf
  0xBD1 0xBD6 () .leaf) 0xBD8 0xBE5 () .leaf) 0xBFB 0xBFF () (.node (.node .leaf 0xC0D 0xC0D
  () .leaf) 0xC11 0xC11 () .leaf))) 0xC29 0xC29 () (.node (.node (.node (.node .leaf 0xC3A
  0xC3B () .leaf) 0xC45 0xC45 () .leaf) 0xC49 0xC49 () (.node (.node .leaf 0xC4E 0xC54 ()
  .leaf) 0xC57 0xC57 () .leaf)) 0xC5B 0xC5B () (.node (.node (.node .leaf 0xC5E 0xC5F () .leaf)
  0xC64 0xC65 () .leaf) 0xC70 0xC76 () (.node (.node .leaf 0xC8D 0xC8D () .leaf) 0xC91 0xC91
  () .leaf)))) 0xCA9 0xCA9 () (.node (.node (.node (.node (.node .leaf 0xCB4 0xCB4 () .leaf)
  0xCBA 0xCBB () .leaf) 0xCC5 0xCC5 () (.node (.node .leaf 0xCC9 0xCC9 () .leaf) 0xCCE 0xCD4
  () .leaf)) 0xCD7 0xCDB () (.node (.node (.node .leaf 0xCDF 0xCDF () .leaf) 0xCE4 0xCE5 ()
  .leaf) 0xCF0 0xCF0 () (.node (.node .leaf 0xCF4 0xCFF () .leaf) 0xD0D 0xD0D () .leaf)))
  0xD11 0xD11 () (.node (.node (.node (.node .leaf 0xD45 0xD45 () .leaf) 0xD49 0xD49 () .leaf)
  0xD50 0xD53 () (.node (.node .leaf 0xD64 0xD65 () .leaf) 0xD80 0xD80 () .leaf)) 0xD84 0xD84
  () (.node (.node (.node .leaf 0xD97 0xD99 () .leaf) 0xDB2 0xDB2 () .leaf) 0xDBC 0xDBC ()
  (.node .leaf 0xDBE 0xDBF () .leaf))))) 0xDC7 0xDC9 () (.node (.node (.node (.node (.node
  (.node .leaf 0xDCB 0xDCE () .leaf) 0xDD5 0xDD5 () .leaf) 0xDD7 0xDD7 () (.node (.node .leaf
  0xDE0 0xDE5 () .leaf) 0xDF0 0xDF1 () .leaf)) 0xDF5 0xE00 () (.node (.node (.node .leaf 0xE3B
  0xE3E () .leaf) 0xE5C 0xE80 () .leaf) 0xE83 0xE83 () (.node (.node .leaf 0xE85 0xE85 ()
  .leaf) 0xE8B 0xE8B () .leaf))) 0xEA4 0xEA4 () (.node (.node (.node (.node .leaf 0xEA6 0xEA6
  () .leaf) 0xEBE 0xEBF () .leaf) 0xEC5 0xEC5 () (.node (.node .leaf 0xEC7 0xEC7 () .leaf)
  0xECF 0xECF () .leaf)) 0xEDA 0xEDB () (.node (.node (.node .leaf 0xEE0 0xEFF () .leaf) 0xF48
  0xF48 () .leaf) 0xF6D 0xF70 () (.node .leaf 0xF98 0xF98 () .leaf)))) 0xFBD 0xFBD () (.node
  (.node (.node (.node (.node .leaf 0xFCD 0xFCD () .leaf) 0xFDB 0xFFF () .leaf) 0x10C6 0x10C6
  () (.node (.node .leaf 0x10C8 0x10CC () .leaf) 0x10CE 0x10CF () .leaf)) 0x1249 0x1249 ()
  (.node (.node (.node .leaf 0x124E 0x124F () .leaf) 0x1257 0x1257 () .leaf) 0x1259 0x1259 ()
  (.node (.node .leaf 0x125E 0x125F () .leaf) 0x1289 0x1289 () .leaf))) 0x128E 0x128F ()
  (.node (.node (.node (.node .leaf 0x12B1 0x12B1 () .leaf) 0x12B6 0x12B7 () .leaf) 0x12BF
  0x12BF () (.node (.node .leaf 0x12C1 0x12C1 () .leaf) 0x12C6 0x12C7 () .leaf)) 0x12D7 0x12D7
  () (.node (.node (.node .leaf 0x1311 0x1311 () .leaf) 0x1316 0x1317 () .leaf) 0x135B 0x135C
  () (.node .leaf 0x137D 0x137F () .leaf))))))) 0x139A 0x139F () (.node (.node (.node (.node
  (.node (.node (.node (.node .leaf 0x13F6 0x13F7 () .leaf) 0x13FE 0x13FF () .leaf) 0x1680
  0x1680 () (.node (.node .leaf 0x169D 0x169F () .leaf) 0x16F9 0x16FF () .leaf)) 0x1716 0x171E
  () (.node (.node (.node .leaf 0x1737 0x173F () .leaf) 0x1754 0x175F () .leaf) 0x176D 0x176D
  () (.node (.node .leaf 0x1771 0x1771 () .leaf) 0x1774 0x177F () .leaf))) 0x17DE 0x17DF ()
  (.node (.node (.node (.node .leaf 0x17EA 0x17EF () .leaf) 0x17FA 0x17FF () .leaf) 0x180E
  0x180E () (.node (.node .leaf 0x181A 0x181F () .leaf) 0x1879 0x187F () .leaf)) 0x18AB 0x18AF
  () (.node (.node (.node .leaf 0x18F6 0x18FF () .leaf) 0x191F 0x191F () .leaf) 0x192C 0x192F
  () (.node (.node .leaf 0x193C 0x193F () .leaf) 0x1941 0x1943 () .leaf)))) 0x196E 0x196F ()
  (.node (.node (.node (.node (.node .leaf 0x1975 0x197F () .leaf) 0x19AC 0x19AF () .leaf)
  0x19CA 0x19CF () (.node (.node .leaf 0x19DB 0x19DD () .leaf) 0x1A1C 0x1A1D () .leaf)) 0x1A5F
  0x1A5F () (.node (.node (.node .leaf 0x1A7D 0x1A7E () .leaf) 0x1A8A 0x1A8F () .leaf) 0x1A9A
  0x1A9F () (.node (.node .leaf 0x1AAE 0x1AAF () .leaf) 0x1ADE 0x1ADF () .leaf))) 0x1AEC
  0x1AFF () (.node (.node (.node (.node .leaf 0x1B4D 0x1B4D () .leaf) 0x1BF4 0x1BFB () .leaf)
  0x1C38 0x1C3A () (.node (.node .leaf 0x1C4A 0x1C4C () .leaf) 0x1C8B 0x1C8F () .leaf)) 0x1CBB
  0x1CBC () (.node (.node (.node .leaf 0x1CC8 0x1CCF () .leaf) 0x1CFB 0x1CFF () .leaf) 0x1F16
  0x1F17 () (.node .leaf 0x1F1E 0x1F1F () .leaf))))) 0x1F46 0x1F47 () (.node (.node (.node
  (.node (.node (.node .leaf 0x1F4E 0x1F4F () .leaf) 0x1F58 0x1F58 () .leaf) 0x1F5A 0x1F5A ()
  (.node (.node .leaf 0x1F5C 0x1F5C () .leaf) 0x1F5E 0x1F5E () .leaf)) 0x1F7E 0x1F7F () (.node
  (.node (.node .leaf 0x1FB5 0x1FB5 () .leaf) 0x1FC5 0x1FC5 () .leaf) 0x1FD4 0x1FD5 () (.node
  (.node .leaf 0x1FDC 0x1FDC () .leaf) 0x1FF0 0x1FF1 () .leaf))) 0x1FF5 0x1FF5 () (.node
  (.node (.node (.node .leaf 0x1FFF 0x200F () .leaf) 0x2028 0x202F () .leaf) 0x205F 0x206F ()
  (.node (.node .leaf 0x2072 0x2073 () .leaf) 0x208F 0x208F () .leaf)) 0x209D 0x209F () (.node
  (.node (.node .leaf 0x20C2 0x20CF () .leaf) 0x20F1 0x20FF () .leaf) 0x218C 0x218F () (.node
  .leaf 0x242A 0x243F () .leaf)))) 0x244B 0x245F () (.node (.node (.node (.node (.node .leaf
  0x2B74 0x2B75 () .leaf) 0x2CF4 0x2CF8 () .leaf) 0x2D26 0x2D26 () (.node (.node .leaf 0x2D28
  0x2D2C () .leaf) 0x2D2E 0x2D2F () .leaf)) 0x2D68 0x2D6E () (.node (.node (.node .leaf 0x2D71
  0x2D7E () .leaf) 0x2D97 0x2D9F () .leaf) 0x2DA7 0x2DA7 () (.node (.node .leaf 0x2DAF 0x2DAF
  () .leaf) 0x2DB7 0x2DB7 () .leaf))) 0x2DBF 0x2DBF () (.node (.node (.node (.node .leaf
  0x2DC7 0x2DC7 () .leaf) 0x2DCF 0x2DCF () .leaf) 0x2DD7 0x2DD7 () (.node (.node .leaf 0x2DDF
  0x2DDF () .leaf) 0x2E5E 0x2E7F () .leaf)) 0x2E9A 0x2E9A () (.node (.node (.node .leaf 0x2EF4
  0x2EFF () .leaf) 0x2FD6 0x2FEF () .leaf) 0x3000 0x3000 () (.node .leaf 0x3040 0x3040 ()
  .leaf)))))) 0x3097 0x3098 () (.node (.node (.node (.node (.node (.node (.node .leaf 0x3100
  0x3104 () .leaf) 0x3130 0x3130 () .leaf) 0x318F 0x318F () (.node (.node .leaf 0x31E6 0x31EE
  () .leaf) 0x321F 0x321F () .leaf)) 0xA48D 0xA48F () (.node (.node (.node .leaf 0xA4C7 0xA4CF
  () .leaf) 0xA62C 0xA63F () .leaf) 0xA6F8 0xA6FF () (.node (.node .leaf 0xA7DD 0xA7F0 ()
  .leaf) 0xA82D 0xA82F () .leaf))) 0xA83A 0xA83F () (.node (.node (.node (.node .leaf 0xA878
  0xA87F () .leaf) 0xA8C6 0xA8CD () .leaf) 0xA8DA 0xA8DF () (.node (.node .leaf 0xA954 0xA95E
  () .leaf) 0xA97D 0xA97F () .leaf)) 0xA9CE 0xA9CE () (.node (.node (.node .leaf 0xA9DA 0xA9DD
  () .leaf) 0xA9FF 0xA9FF () .leaf) 0xAA37 0xAA3F () (.node (.node .leaf 0xAA4E 0xAA4F ()
  .leaf) 0xAA5A 0xAA5B () .leaf)))) 0xAAC3 0xAADA () (.node (.node (.node (.node (.node .leaf
  0xAAF7 0xAB00 () .leaf) 0xAB07 0xAB08 () .leaf) 0xAB0F 0xAB10 () (.node (.node .leaf 0xAB17
  0xAB1F () .leaf) 0xAB27 0xAB27 () .leaf)) 0xAB2F 0xAB2F () (.node (.node (.node .leaf 0xAB6C
  0xAB6F () .leaf) 0xABEE 0xABEF () .leaf) 0xABFA 0xABFF () (.node (.node .leaf 0xD7A4 0xD7AF
  () .leaf) 0xD7C7 0xD7CA () .leaf))) 0xD7FC 0xF8FF () (.node (.node (.node (.node .leaf
  0xFA6E 0xFA6F () .leaf) 0xFADA 0xFAFF () .leaf) 0xFB07 0xFB12 () (.node (.node .leaf 0xFB18
  0xFB1C () .leaf) 0xFB37 0xFB37 () .leaf)) 0xFB3D 0xFB3D () (.node (.node (.node .leaf 0xFB3F
  0xFB3F () .leaf) 0xFB42 0xFB42 () .leaf) 0xFB45 0xFB45 () (.node .leaf 0xFDD0 0xFDEF ()
  .leaf))))) 0xFE1A 0xFE1F () (.node (.node (.node (.node (.node (.node .leaf 0xFE53 0xFE53 ()
  .leaf) 0xFE67 0xFE67 () .leaf) 0xFE6C 0xFE6F () (.node (.node .leaf 0xFE75 0xFE75 () .leaf)
  0xFEFD 0xFF00 () .leaf)) 0xFFBF 0xFFC1 () (.node (.node (.node .leaf 0xFFC8 0xFFC9 () .leaf)
  0xFFD0 0xFFD1 () .leaf) 0xFFD8 0xFFD9 () (.node (.node .leaf 0xFFDD 0xFFDF () .leaf) 0xFFE7
  0xFFE7 () .leaf))) 0xFFEF 0xFFFB () (.node (.node (.node (.node .leaf 0xFFFE 0xFFFF () .leaf)
  0x1000C 0x1000C () .leaf) 0x10027 0x10027 () (.node (.node .leaf 0x1003B 0x1003B () .leaf)
  0x1003E 0x1003E () .leaf)) 0x1004E 0x1004F () (.node (.node (.node .leaf 0x1005E 0x1007F ()
  .leaf) 0x100FB 0x100FF () .leaf) 0x10103 0x10106 () (.node .leaf 0x10134 0x10136 () .leaf))))
  0x1018F 0x1018F () (.node (.node (.node (.node (.node .leaf 0x1019D 0x1019F () .leaf)
  0x101A1 0x101CF () .leaf) 0x101FE 0x1027F () (.node (.node .leaf 0x1029D 0x1029F () .leaf)
  0x102D1 0x102DF () .leaf)) 0x102FC 0x102FF () (.node (.node (.node .leaf 0x10324 0x1032C ()
  .leaf) 0x1034B 0x1034F () .leaf) 0x1037B 0x1037F () (.node (.node .leaf 0x1039E 0x1039E ()
  .leaf) 0x103C4 0x103C7 () .leaf))) 0x103D6 0x103FF () (.node (.node (.node (.node .leaf
  0x1049E 0x1049F () .leaf) 0x104AA 0x104AF () .leaf) 0x104D4 0x104D7 () (.node (.node .leaf
  0x104FC 0x104FF () .leaf) 0x10528 0x1052F () .leaf)) 0x10564 0x1056E () (.node (.node (.node
  .leaf 0x1057B 0x1057B () .leaf) 0x1058B 0x1058B () .leaf) 0x10593 0x10593 () (.node .leaf
  0x10596 0x10596 () .leaf)))))))) 0x105A2 0x105A2 () (.node (.node (.node (.node (.node
  (.node (.node (.node (.node .leaf 0x105B2 0x105B2 () .leaf) 0x105BA 0x105BA () .leaf)
  0x105BD 0x105BF () (.node (.node .leaf 0x105F4 0x105FF () .leaf) 0x10737 0x1073F () .leaf))
  0x10756 0x1075F () (.node (.node (.node .leaf 0x10768 0x1077F () .leaf) 0x10786 0x10786 ()
  .leaf) 0x107B1 0x107B1 () (.node (.node .leaf 0x107BB 0x107FF () .leaf) 0x10806 0x10807 ()
  .leaf))) 0x10809 0x10809 () (.node (.node (.node (.node .leaf 0x10836 0x10836 () .leaf)
  0x10839 0x1083B () .leaf) 0x1083D 0x1083E () (.node (.node .leaf 0x10856 0x10856 () .leaf)
  0x1089F 0x108A6 () .leaf)) 0x108B0 0x108DF () (.node (.node (.node .leaf 0x108F3 0x108F3 ()
  .leaf) 0x108F6 0x108FA () .leaf) 0x1091C 0x1091E () (.node (.node .leaf 0x1093A 0x1093E ()
  .leaf) 0x1095A 0x1097F () .leaf)))) 0x109B8 0x109BB () (.node (.node (.node (.node (.node
  .leaf 0x109D0 0x109D1 () .leaf) 0x10A04 0x10A04 () .leaf) 0x10A07 0x10A0B () (.node (.node
  .leaf 0x10A14 0x10A14 () .leaf) 0x10A18 0x10A18 () .leaf)) 0x10A36 0x10A37 () (.node (.node
  (.node .leaf 0x10A3B 0x10A3E () .leaf) 0x10A49 0x10A4F () .leaf) 0x10A59 0x10A5F () (.node
  (.node .leaf 0x10AA0 0x10ABF () .leaf) 0x10AE7 0x10AEA () .leaf))) 0x10AF7 0x10AFF () (.node
  (.node (.node (.node .leaf 0x10B36 0x10B38 () .leaf) 0x10B56 0x10B57 () .leaf) 0x10B73
  0x10B77 () (.node (.node .leaf 0x10B92 0x10B98 () .leaf) 0x10B9D 0x10BA8 () .leaf)) 0x10BB0
  0x10BFF () (.node (.node (.node .leaf 0x10C49 0x10C7F () .leaf) 0x10CB3 0x10CBF () .leaf)
  0x10CF3 0x10CF9 () (.node .leaf 0x10D28 0x10D2F () .leaf))))) 0x10D3A 0x10D3F () (.node
  (.node (.node (.node (.node (.node .leaf 0x10D66 0x10D68 () .leaf) 0x10D86 0x10D8D () .leaf)
  0x10D90 0x10E5F () (.node (.node .leaf 0x10E7F 0x10E7F () .leaf) 0x10EAA 0x10EAA () .leaf))
  0x10EAE 0x10EAF () (.node (.node (.node .leaf 0x10EB2 0x10EC1 () .leaf) 0x10EC8 0x10ECF ()
  .leaf) 0x10ED9 0x10EF9 () (.node (.node .leaf 0x10F28 0x10F2F () .leaf) 0x10F5A 0x10F6F ()
  .leaf))) 0x10F8A 0x10FAF () (.node (.node (.node (.node .leaf 0x10FCC 0x10FDF () .leaf)
  0x10FF7 0x10FFF () .leaf) 0x1104E 0x11051 () (.node (.node .leaf 0x11076 0x1107E () .leaf)
  0x110BD 0x110BD () .leaf)) 0x110C3 0x110CF () (.node (.node (.node .leaf 0x110E9 0x110EF ()
  .leaf) 0x110FA 0x110FF () .leaf) 0x11135 0x11135 () (.node .leaf 0x11148 0x1114F () .leaf))))
  0x11177 0x1117F () (.node (.node (.node (.node (.node .leaf 0x111E0 0x111E0 () .leaf)
  0x111F5 0x111FF () .leaf) 0x11212 0x11212 () (.node (.node .leaf 0x11242 0x1127F () .leaf)
  0x11287 0x11287 () .leaf)) 0x11289 0x11289 () (.node (.node (.node .leaf 0x1128E 0x1128E ()
  .leaf) 0x1129E 0x1129E () .leaf) 0x112AA 0x112AF () (.node (.node .leaf 0x112EB 0x112EF ()
  .leaf) 0x112FA 0x112FF () .leaf))) 0x11304 0x11304 () (.node (.node (.node (.node .leaf
  0x1130D 0x1130E () .leaf) 0x11311 0x11312 () .leaf) 0x11329 0x11329 () (.node (.node .leaf
  0x11331 0x11331 () .leaf) 0x11334 0x11334 () .leaf)) 0x1133A 0x1133A () (.node (.node (.node
  .leaf 0x11345 0x11346 () .leaf) 0x11349 0x1134A () .leaf) 0x1134E 0x1134F () (.node .leaf
  0x11351 0x11356 () .leaf)))))) 0x11358 0x1135C () (.node (.node (.node (.node (.node (.node
  (.node .leaf 0x11364 0x11365 () .leaf) 0x1136D 0x1136F () .leaf) 0x11375 0x1137F () (.node
  (.node .leaf 0x1138A 0x1138A () .leaf) 0x1138C 0x1138D () .leaf)) 0x1138F 0x1138F () (.node
  (.node (.node .leaf 0x113B6 0x113B6 () .leaf) 0x113C1 0x113C1 () .leaf) 0x113C3 0x113C4 ()
  (.node (.node .leaf 0x113C6 0x113C6 () .leaf) 0x113CB 0x113CB () .leaf))) 0x113D6 0x113D6 ()
  (.node (.node (.node (.node .leaf 0x113D9 0x113E0 () .leaf) 0x113E3 0x113FF () .leaf)
  0x1145C 0x1145C () (.node (.node .leaf 0x11462 0x1147F () .leaf) 0x114C8 0x114CF () .leaf))
  0x114DA 0x1157F () (.node (.node (.node .leaf 0x115B6 0x115B7 () .leaf) 0x115DE 0x115FF ()
  .leaf) 0x11645 0x1164F () (.node (.node .leaf 0x1165A 0x1165F () .leaf) 0x1166D 0x1167F ()
  .leaf)))) 0x116BA 0x116BF () (.node (.node (.node (.node (.node .leaf 0x116CA 0x116CF ()
  .leaf) 0x116E4 0x116FF () .leaf) 0x1171B 0x1171C () (.node (.node .leaf 0x1172C 0x1172F ()
  .leaf) 0x11747 0x117FF () .leaf)) 0x1183C 0x1189F () (.node (.node (.node .leaf 0x118F3
  0x118FE () .leaf) 0x11907 0x11908 () .leaf) 0x1190A 0x1190B () (.node (.node .leaf 0x11914
  0x11914 () .leaf) 0x11917 0x11917 () .leaf))) 0x11936 0x11936 () (.node (.node (.node (.node
  .leaf 0x11939 0x1193A () .leaf) 0x11947 0x1194F () .leaf) 0x1195A 0x1199F () (.node (.node
  .leaf 0x119A8 0x119A9 () .leaf) 0x119D8 0x119D9 () .leaf)) 0x119E5 0x119FF () (.node (.node
  (.node .leaf 0x11A48 0x11A4F () .leaf) 0x11AA3 0x11AAF () .leaf) 0x11AF9 0x11AFF () (.node
  .leaf 0x11B0A 0x11B5F () .leaf))))) 0x11B68 0x11BBF () (.node (.node (.node (.node (.node
  (.node .leaf 0x11BE2 0x11BEF () .leaf) 0x11BFA 0x11BFF () .leaf) 0x11C09 0x11C09 () (.node
  (.node .leaf 0x11C37 0x11C37 () .leaf) 0x11C46 0x11C4F () .leaf)) 0x11C6D 0x11C6F () (.node
  (.node (.node .leaf 0x11C90 0x11C91 () .leaf) 0x11CA8 0x11CA8 () .leaf) 0x11CB7 0x11CFF ()
  (.node (.node .leaf 0x11D07 0x11D07 () .leaf) 0x11D0A 0x11D0A () .leaf))) 0x11D37 0x11D39 ()
  (.node (.node (.node (.node .leaf 0x11D3B 0x11D3B () .leaf) 0x11D3E 0x11D3E () .leaf)
  0x11D48 0x11D4F () (.node (.node .leaf 0x11D5A 0x11D5F () .leaf) 0x11D66 0x11D66 () .leaf))
  0x11D69 0x11D69 () (.node (.node (.node .leaf 0x11D8F 0x11D8F () .leaf) 0x11D92 0x11D92 ()
  .leaf) 0x11D99 0x11D9F () (.node .leaf 0x11DAA 0x11DAF () .leaf)))) 0x11DDC 0x11DDF ()
  (.node (.node (.node (.node (.node .leaf 0x11DEA 0x11EDF () .leaf) 0x11EF9 0x11EFF () .leaf)
  0x11F11 0x11F11 () (.node (.node .leaf 0x11F3B 0x11F3D () .leaf) 0x11F5B 0x11FAF () .leaf))
  0x11FB1 0x11FBF () (.node (.node (.node .leaf 0x11FF2 0x11FFE () .leaf) 0x1239A 0x123FF ()
  .leaf) 0x1246F 0x1246F () (.node (.node .leaf 0x12475 0x1247F () .leaf) 0x12544 0x12F8F ()
  .leaf))) 0x12FF3 0x12FFF () (.node (.node (.node (.node .leaf 0x13430 0x1343F () .leaf)
  0x13456 0x1345F () .leaf) 0x143FB 0x143FF () (.node (.node .leaf 0x14647 0x160FF () .leaf)
  0x1613A 0x167FF () .leaf)) 0x16A39 0x16A3F () (.node (.node (.node .leaf 0x16A5F 0x16A5F ()
  .leaf) 0x16A6A 0x16A6D () .leaf) 0x16ABF 0x16ABF () (.node .leaf 0x16ACA 0x16ACF () .leaf)))))))
  0x16AEE 0x16AEF () (.node (.node (.node (.node (.node (.node (.node (.node .leaf 0x16AF6
  0x16AFF () .leaf) 0x16B46 0x16B4F () .leaf) 0x16B5A 0x16B5A () (.node (.node .leaf 0x16B62
  0x16B62 () .leaf) 0x16B78 0x16B7C () .leaf)) 0x16B90 0x16D3F () (.node (.node (.node .leaf
  0x16D7A 0x16E3F () .leaf) 0x16E9B 0x16E9F () .leaf) 0x16EB9 0x16EBA () (.node (.node .leaf
  0x16ED4 0x16EFF () .leaf) 0x16F4B 0x16F4E () .leaf))) 0x16F88 0x16F8E () (.node (.node
  (.node (.node .leaf 0x16FA0 0x16FDF () .leaf) 0x16FE5 0x16FEF () .leaf) 0x16FF7 0x16FFF ()
  (.node (.node .leaf 0x18CD6 0x18CFE () .leaf) 0x18D1F 0x18D7F () .leaf)) 0x18DF3 0x1AFEF ()
  (.node (.node (.node .leaf 0x1AFF4 0x1AFF4 () .leaf) 0x1AFFC 0x1AFFC () .leaf) 0x1AFFF
  0x1AFFF () (.node (.node .leaf 0x1B123 0x1B131 () .leaf) 0x1B133 0x1B14F () .leaf))))
  0x1B153 0x1B154 () (.node (.node (.node (.node (.node .leaf 0x1B156 0x1B163 () .leaf)
  0x1B168 0x1B16F () .leaf) 0x1B2FC 0x1BBFF () (.node (.node .leaf 0x1BC6B 0x1BC6F () .leaf)
  0x1BC7D 0x1BC7F () .leaf)) 0x1BC89 0x1BC8F () (.node (.node (.node .leaf 0x1BC9A 0x1BC9B ()
  .leaf) 0x1BCA0 0x1CBFF () .leaf) 0x1CCFD 0x1CCFF () (.node (.node .leaf 0x1CEB4 0x1CEB9 ()
  .leaf) 0x1CED1 0x1CEDF () .leaf))) 0x1CEF1 0x1CEFF () (.node (.node (.node (.node .leaf
  0x1CF2E 0x1CF2F () .leaf) 0x1CF47 0x1CF4F () .leaf) 0x1CFC4 0x1CFFF () (.node (.node .leaf
  0x1D0F6 0x1D0FF () .leaf) 0x1D127 0x1D128 () .leaf)) 0x1D173 0x1D17A () (.node (.node (.node
  .leaf 0x1D1EB 0x1D1FF () .leaf) 0x1D246 0x1D2BF () .leaf) 0x1D2D4 0x1D2DF () (.node .leaf
  0x1D2F4 0x1D2FF () .leaf))))) 0x1D357 0x1D35F () (.node (.node (.node (.node (.node (.node
  .leaf 0x1D379 0x1D3FF () .leaf) 0x1D455 0x1D455 () .leaf) 0x1D49D 0x1D49D () (.node (.node
  .leaf 0x1D4A0 0x1D4A1 () .leaf) 0x1D4A3 0x1D4A4 () .leaf)) 0x1D4A7 0x1D4A8 () (.node (.node
  (.node .leaf 0x1D4AD 0x1D4AD () .leaf) 0x1D4BA 0x1D4BA () .leaf) 0x1D4BC 0x1D4BC () (.node
  (.node .leaf 0x1D4C4 0x1D4C4 () .leaf) 0x1D506 0x1D506 () .leaf))) 0x1D50B 0x1D50C () (.node
  (.node (.node (.node .leaf 0x1D515 0x1D515 () .leaf) 0x1D51D 0x1D51D () .leaf) 0x1D53A
  0x1D53A () (.node (.node .leaf 0x1D53F 0x1D53F () .leaf) 0x1D545 0x1D545 () .leaf)) 0x1D547
  0x1D549 () (.node (.node (.node .leaf 0x1D551 0x1D551 () .leaf) 0x1D6A6 0x1D6A7 () .leaf)
  0x1D7CC 0x1D7CD () (.node .leaf 0x1DA8C 0x1DA9A () .leaf)))) 0x1DAA0 0x1DAA0 () (.node
  (.node (.node (.node (.node .leaf 0x1DAB0 0x1DEFF () .leaf) 0x1DF1F 0x1DF24 () .leaf)
  0x1DF2B 0x1DFFF () (.node (.node .leaf 0x1E007 0x1E007 () .leaf) 0x1E019 0x1E01A () .leaf))
  0x1E022 0x1E022 () (.node (.node (.node .leaf 0x1E025 0x1E025 () .leaf) 0x1E02B 0x1E02F ()
  .leaf) 0x1E06E 0x1E08E () (.node (.node .leaf 0x1E090 0x1E0FF () .leaf) 0x1E12D 0x1E12F ()
  .leaf))) 0x1E13E 0x1E13F () (.node (.node (.node (.node .leaf 0x1E14A 0x1E14D () .leaf)
  0x1E150 0x1E28F () .leaf) 0x1E2AF 0x1E2BF () (.node (.node .leaf 0x1E2FA 0x1E2FE () .leaf)
  0x1E300 0x1E4CF () .leaf)) 0x1E4FA 0x1E5CF () (.node (.node (.node .leaf 0x1E5FB 0x1E5FE ()
  .leaf) 0x1E600 0x1E6BF () .leaf) 0x1E6DF 0x1E6DF () (.node .leaf 0x1E6F6 0x1E6FD () .leaf))))))
  0x1E700 0x1E7DF () (.node (.node (.node (.node (.node (.node (.node .leaf 0x1E7E7 0x1E7E7 ()
  .leaf) 0x1E7EC 0x1E7EC () .leaf) 0x1E7EF 0x1E7EF () (.node (.node .leaf 0x1E7FF 0x1E7FF ()
  .leaf) 0x1E8C5 0x1E8C6 () .leaf)) 0x1E8D7 0x1E8FF () (.node (.node (.node .leaf 0x1E94C
  0x1E94F () .leaf) 0x1E95A 0x1E95D () .leaf) 0x1E960 0x1EC70 () (.node (.node .leaf 0x1ECB5
  0x1ED00 () .leaf) 0x1ED3E 0x1EDFF () .leaf))) 0x1EE04 0x1EE04 () (.node (.node (.node (.node
  .leaf 0x1EE20 0x1EE20 () .leaf) 0x1EE23 0x1EE23 () .leaf) 0x1EE25 0x1EE26 () (.node (.node
  .leaf 0x1EE28 0x1EE28 () .leaf) 0x1EE33 0x1EE33 () .leaf)) 0x1EE38 0x1EE38 () (.node (.node
  (.node .leaf 0x1EE3A 0x1EE3A () .leaf) 0x1EE3C 0x1EE41 () .leaf) 0x1EE43 0x1EE46 () (.node
  .leaf 0x1EE48 0x1EE48 () .leaf)))) 0x1EE4A 0x1EE4A () (.node (.node (.node (.node (.node
  .leaf 0x1EE4C 0x1EE4C () .leaf) 0x1EE50 0x1EE50 () .leaf) 0x1EE53 0x1EE53 () (.node (.node
  .leaf 0x1EE55 0x1EE56 () .leaf) 0x1EE58 0x1EE58 () .leaf)) 0x1EE5A 0x1EE5A () (.node (.node
  (.node .leaf 0x1EE5C 0x1EE5C () .leaf) 0x1EE5E 0x1EE5E () .leaf) 0x1EE60 0x1EE60 () (.node
  (.node .leaf 0x1EE63 0x1EE63 () .leaf) 0x1EE65 0x1EE66 () .leaf))) 0x1EE6B 0x1EE6B () (.node
  (.node (.node (.node .leaf 0x1EE73 0x1EE73 () .leaf) 0x1EE78 0x1EE78 () .leaf) 0x1EE7D
  0x1EE7D () (.node (.node .leaf 0x1EE7F 0x1EE7F () .leaf) 0x1EE8A 0x1EE8A () .leaf)) 0x1EE9C
  0x1EEA0 () (.node (.node (.node .leaf 0x1EEA4 0x1EEA4 () .leaf) 0x1EEAA 0x1EEAA () .leaf)
  0x1EEBC 0x1EEEF () (.node .leaf 0x1EEF2 0x1EFFF () .leaf))))) 0x1F02C 0x1F02F () (.node
  (.node (.node (.node (.node (.node .leaf 0x1F094 0x1F09F () .leaf) 0x1F0AF 0x1F0B0 () .leaf)
  0x1F0C0 0x1F0C0 () (.node (.node .leaf 0x1F0D0 0x1F0D0 () .leaf) 0x1F0F6 0x1F0FF () .leaf))
  0x1F1AE 0x1F1E5 () (.node (.node (.node .leaf 0x1F203 0x1F20F () .leaf) 0x1F23C 0x1F23F ()
  .leaf) 0x1F249 0x1F24F () (.node (.node .leaf 0x1F252 0x1F25F () .leaf) 0x1F266 0x1F2FF ()
  .leaf))) 0x1F6D9 0x1F6DB () (.node (.node (.node (.node .leaf 0x1F6ED 0x1F6EF () .leaf)
  0x1F6FD 0x1F6FF () .leaf) 0x1F7DA 0x1F7DF () (.node (.node .leaf 0x1F7EC 0x1F7EF () .leaf)
  0x1F7F1 0x1F7FF () .leaf)) 0x1F80C 0x1F80F () (.node (.node (.node .leaf 0x1F848 0x1F84F ()
  .leaf) 0x1F85A 0x1F85F () .leaf) 0x1F888 0x1F88F () (.node .leaf 0x1F8AE 0x1F8AF () .leaf))))
  0x1F8BC 0x1F8BF () (.node (.node (.node (.node (.node .leaf 0x1F8C2 0x1F8CF () .leaf)
  0x1F8D9 0x1F8FF () .leaf) 0x1FA58 0x1FA5F () (.node (.node .leaf 0x1FA6E 0x1FA6F () .leaf)
  0x1FA7D 0x1FA7F () .leaf)) 0x1FA8B 0x1FA8D () (.node (.node (.node .leaf 0x1FAC7 0x1FAC7 ()
  .leaf) 0x1FAC9 0x1FACC () .leaf) 0x1FADD 0x1FADE () (.node (.node .leaf 0x1FAEB 0x1FAEE ()
  .leaf) 0x1FAF9 0x1FAFF () .leaf))) 0x1FB93 0x1FB93 () (.node (.node (.node (.node .leaf
  0x1FBFB 0x1FFFF () .leaf) 0x2A6E0 0x2A6FF () .leaf) 0x2B81E 0x2B81F () (.node (.node .leaf
  0x2CEAE 0x2CEAF () .leaf) 0x2EBE1 0x2EBEF () .leaf)) 0x2EE5E 0x2F7FF () (.node (.node (.node
  .leaf 0x2FA1E 0x2FFFF () .leaf) 0x3134B 0x3134F () .leaf) 0x3347A 0xE00FF () (.node .leaf
  0xE01F0 0x10FFFF () .leaf))))))))

set_option maxRecDepth 100000 in
/-- Code points with the Grapheme_Extend property. -/
def graphemeExtenders : RangeSet :=
  .node (.node (.node (.node (.node (.node (.node (.node (.node .leaf 0x300 0x36F () .leaf)
  0x483 0x489 () .leaf) 0x591 0x5BD () (.node (.node .leaf 0x5BF 0x5BF () .leaf) 0x5C1 0x5C2
  () .leaf)) 0x5C4 0x5C5 () (.node (.node (.node .leaf 0x5C7 0x5C7 () .leaf) 0x610 0x61A ()
  .leaf) 0x64B 0x65F () (.node (.node .leaf 0x670 0x670 () .leaf) 0x6D6 0x6DC () .leaf)))
  0x6DF 0x6E4 () (.node (.node (.node (.node .leaf 0x6E7 0x6E8 () .leaf) 0x6EA 0x6ED () .leaf)
  0x711 0x711 () (.node (.node .leaf 0x730 0x74A () .leaf) 0x7A6 0x7B0 () .leaf)) 0x7EB 0x7F3
  () (.node (.node (.node .leaf 0x7FD 0x7FD () .leaf) 0x816 0x819 () .leaf) 0x81B 0x823 ()
  (.node (.node .leaf 0x825 0x827 () .leaf) 0x829 0x82D () .leaf)))) 0x859 0x85B () (.node
  (.node (.node (.node (.node .leaf 0x897 0x89F () .leaf) 0x8CA 0x8E1 () .leaf) 0x8E3 0x902 ()
  (.node (.node .leaf 0x93A 0x93A () .leaf) 0x93C 0x93C () .leaf)) 0x941 0x948 () (.node
  (.node (.node .leaf 0x94D 0x94D () .leaf) 0x951 0x957 () .leaf) 0x962 0x963 () (.node (.node
  .leaf 0x981 0x981 () .leaf) 0x9BC 0x9BC () .leaf))) 0x9BE 0x9BE () (.node (.node (.node
  (.node .leaf 0x9C1 0x9C4 () .leaf) 0x9CD 0x9CD () .leaf) 0x9D7 0x9D7 () (.node (.node .leaf
  0x9E2 0x9E3 () .leaf) 0x9FE 0x9FE () .leaf)) 0xA01 0xA02 () (.node (.node (.node .leaf 0xA3C
  0xA3C () .leaf) 0xA41 0xA42 () .leaf) 0xA47 0xA48 () (.node (.node .leaf 0xA4B 0xA4D ()
  .leaf) 0xA51 0xA51 () .leaf))))) 0xA70 0xA71 () (.node (.node (.node (.node (.node (.node
  .leaf 0xA75 0xA75 () .leaf) 0xA81 0xA82 () .leaf) 0xABC 0xABC () (.node (.node .leaf 0xAC1
  0xAC5 () .leaf) 0xAC7 0xAC8 () .leaf)) 0xACD 0xACD () (.node (.node (.node .leaf 0xAE2 0xAE3
  () .leaf) 0xAFA 0xAFF () .leaf) 0xB01 0xB01 () (.node (.node .leaf 0xB3C 0xB3C () .leaf)
  0xB3E 0xB3F () .leaf))) 0xB41 0xB44 () (.node (.node (.node (.node .leaf 0xB4D 0xB4D ()
  .leaf) 0xB55 0xB57 () .leaf) 0xB62 0xB63 () (.node (.node .leaf 0xB82 0xB82 () .leaf) 0xBBE
  0xBBE () .leaf)) 0xBC0 0xBC0 () (.node (.node (.node .leaf 0xBCD 0xBCD () .leaf) 0xBD7 0xBD7
  () .leaf) 0xC00 0xC00 () (.node (.node .leaf 0xC04 0xC04 () .leaf) 0xC3C 0xC3C () .leaf))))
  0xC3E 0xC40 () (.node (.node (.node (.node (.node .leaf 0xC46 0xC48 () .leaf) 0xC4A 0xC4D ()
  .leaf) 0xC55 0xC56 () (.node (.node .leaf 0xC62 0xC63 () .leaf) 0xC81 0xC81 () .leaf)) 0xCBC
  0xCBC () (.node (.node (.node .leaf 0xCBF 0xCC0 () .leaf) 0xCC2 0xCC2 () .leaf) 0xCC6 0xCC8
  () (.node (.node .leaf 0xCCA 0xCCD () .leaf) 0xCD5 0xCD6 () .leaf))) 0xCE2 0xCE3 () (.node
  (.node (.node (.node .leaf 0xD00 0xD01 () .leaf) 0xD3B 0xD3C () .leaf) 0xD3E 0xD3E () (.node
  (.node .leaf 0xD41 0xD44 () .leaf) 0xD4D 0xD4D () .leaf)) 0xD57 0xD57 () (.node (.node
  (.node .leaf 0xD62 0xD63 () .leaf) 0xD81 0xD81 () .leaf) 0xDCA 0xDCA () (.node (.node .leaf
  0xDCF 0xDCF () .leaf) 0xDD2 0xDD4 () .leaf)))))) 0xDD6 0xDD6 () (.node (.node (.node (.node
  (.node (.node (.node .leaf 0xDDF 0xDDF () .leaf) 0xE31 0xE31 () .leaf) 0xE34 0xE3A () (.node
  (.node .leaf 0xE47 0xE4E () .leaf) 0xEB1 0xEB1 () .leaf)) 0xEB4 0xEBC () (.node (.node
  (.node .leaf 0xEC8 0xECE () .leaf) 0xF18 0xF19 () .leaf) 0xF35 0xF35 () (.node (.node .leaf
  0xF37 0xF37 () .leaf) 0xF39 0xF39 () .leaf))) 0xF71 0xF7E () (.node (.node (.node (.node
  .leaf 0xF80 0xF84 () .leaf) 0xF86 0xF87 () .leaf) 0xF8D 0xF97 () (.node (.node .leaf 0xF99
  0xFBC () .leaf) 0xFC6 0xFC6 () .leaf)) 0x102D 0x1030 () (.node (.node (.node .leaf 0x1032
  0x1037 () .leaf) 0x1039 0x103A () .leaf) 0x103D 0x103E () (.node (.node .leaf 0x1058 0x1059
  () .leaf) 0x105E 0x1060 () .leaf)))) 0x1071 0x1074 () (.node (.node (.node (.node (.node
  .leaf 0x1082 0x1082 () .leaf) 0x1085 0x1086 () .leaf) 0x108D 0x108D () (.node (.node .leaf
  0x109D 0x109D () .leaf) 0x135D 0x135F () .leaf)) 0x1712 0x1715 () (.node (.node (.node .leaf
  0x1732 0x1734 () .leaf) 0x1752 0x1753 () .leaf) 0x1772 0x1773 () (.node (.node .leaf 0x17B4
  0x17B5 () .leaf) 0x17B7 0x17BD () .leaf))) 0x17C6 0x17C6 () (.node (.node (.node (.node
  .leaf 0x17C9 0x17D3 () .leaf) 0x17DD 0x17DD () .leaf) 0x180B 0x180D () (.node (.node .leaf
  0x180F 0x180F () .leaf) 0x1885 0x1886 () .leaf)) 0x18A9 0x18A9 () (.node (.node (.node .leaf
  0x1920 0x1922 () .leaf) 0x1927 0x1928 () .leaf) 0x1932 0x1932 () (.node (.node .leaf 0x1939
  0x193B () .leaf) 0x1A17 0x1A18 () .leaf))))) 0x1A1B 0x1A1B () (.node (.node (.node (.node
  (.node (.node .leaf 0x1A56 0x1A56 () .leaf) 0x1A58 0x1A5E () .leaf) 0x1A60 0x1A60 () (.node
  (.node .leaf 0x1A62 0x1A62 () .leaf) 0x1A65 0x1A6C () .leaf)) 0x1A73 0x1A7C () (.node (.node
  (.node .leaf 0x1A7F 0x1A7F () .leaf) 0x1AB0 0x1ADD () .leaf) 0x1AE0 0x1AEB () (.node (.node
  .leaf 0x1B00 0x1B03 () .leaf) 0x1B34 0x1B3D () .leaf))) 0x1B42 0x1B44 () (.node (.node
  (.node (.node .leaf 0x1B6B 0x1B73 () .leaf) 0x1B80 0x1B81 () .leaf) 0x1BA2 0x1BA5 () (.node
  (.node .leaf 0x1BA8 0x1BAD () .leaf) 0x1BE6 0x1BE6 () .leaf)) 0x1BE8 0x1BE9 () (.node (.node
  (.node .leaf 0x1BED 0x1BED () .leaf) 0x1BEF 0x1BF3 () .leaf) 0x1C2C 0x1C33 () (.node (.node
  .leaf 0x1C36 0x1C37 () .leaf) 0x1CD0 0x1CD2 () .leaf)))) 0x1CD4 0x1CE0 () (.node (.node
  (.node (.node (.node .leaf 0x1CE2 0x1CE8 () .leaf) 0x1CED 0x1CED () .leaf) 0x1CF4 0x1CF4 ()
  (.node (.node .leaf 0x1CF8 0x1CF9 () .leaf) 0x1DC0 0x1DFF () .leaf)) 0x200C 0x200C () (.node
  (.node (.node .leaf 0x20D0 0x20F0 () .leaf) 0x2CEF 0x2CF1 () .leaf) 0x2D7F 0x2D7F () (.node
  (.node .leaf 0x2DE0 0x2DFF () .leaf) 0x302A 0x302F () .leaf))) 0x3099 0x309A () (.node
  (.node (.node (.node .leaf 0xA66F 0xA672 () .leaf) 0xA674 0xA67D () .leaf) 0xA69E 0xA69F ()
  (.node (.node .leaf 0xA6F0 0xA6F1 () .leaf) 0xA802 0xA802 () .leaf)) 0xA806 0xA806 () (.node
  (.node (.node .leaf 0xA80B 0xA80B () .leaf) 0xA825 0xA826 () .leaf) 0xA82C 0xA82C () (.node
  (.node .leaf 0xA8C4 0xA8C5 () .leaf) 0xA8E0 0xA8F1 () .leaf))))))) 0xA8FF 0xA8FF () (.node
  (.node (.node (.node (.node (.node (.node (.node .leaf 0xA926 0xA92D () .leaf) 0xA947 0xA951
  () .leaf) 0xA953 0xA953 () (.node (.node .leaf 0xA980 0xA982 () .leaf) 0xA9B3 0xA9B3 ()
  .leaf)) 0xA9B6 0xA9B9 () (.node (.node (.node .leaf 0xA9BC 0xA9BD () .leaf) 0xA9C0 0xA9C0 ()
  .leaf) 0xA9E5 0xA9E5 () (.node (.node .leaf 0xAA29 0xAA2E () .leaf) 0xAA31 0xAA32 () .leaf)))
  0xAA35 0xAA36 () (.node (.node (.node (.node .leaf 0xAA43 0xAA43 () .leaf) 0xAA4C 0xAA4C ()
  .leaf) 0xAA7C 0xAA7C () (.node (.node .leaf 0xAAB0 0xAAB0 () .leaf) 0xAAB2 0xAAB4 () .leaf))
  0xAAB7 0xAAB8 () (.node (.node (.node .leaf 0xAABE 0xAABF () .leaf) 0xAAC1 0xAAC1 () .leaf)
  0xAAEC 0xAAED () (.node (.node .leaf 0xAAF6 0xAAF6 () .leaf) 0xABE5 0xABE5 () .leaf))))
  0xABE8 0xABE8 () (.node (.node (.node (.node (.node .leaf 0xABED 0xABED () .leaf) 0xFB1E
  0xFB1E () .leaf) 0xFE00 0xFE0F () (.node (.node .leaf 0xFE20 0xFE2F () .leaf) 0xFF9E 0xFF9F
  () .leaf)) 0x101FD 0x101FD () (.node (.node (.node .leaf 0x102E0 0x102E0 () .leaf) 0x10376
  0x1037A () .leaf) 0x10A01 0x10A03 () (.node (.node .leaf 0x10A05 0x10A06 () .leaf) 0x10A0C
  0x10A0F () .leaf))) 0x10A38 0x10A3A () (.node (.node (.node (.node .leaf 0x10A3F 0x10A3F ()
  .leaf) 0x10AE5 0x10AE6 () .leaf) 0x10D24 0x10D27 () (.node (.node .leaf 0x10D69 0x10D6D ()
  .leaf) 0x10EAB 0x10EAC () .leaf)) 0x10EFA 0x10EFF () (.node (.node (.node .leaf 0x10F46
  0x10F50 () .leaf) 0x10F82 0x10F85 () .leaf) 0x11001 0x11001 () (.node (.node .leaf 0x11038
  0x11046 () .leaf) 0x11070 0x11070 () .leaf))))) 0x11073 0x11074 () (.node (.node (.node
  (.node (.node (.node .leaf 0x1107F 0x11081 () .leaf) 0x110B3 0x110B6 () .leaf) 0x110B9
  0x110BA () (.node (.node .leaf 0x110C2 0x110C2 () .leaf) 0x11100 0x11102 () .leaf)) 0x11127
  0x1112B () (.node (.node (.node .leaf 0x1112D 0x11134 () .leaf) 0x11173 0x11173 () .leaf)
  0x11180 0x11181 () (.node (.node .leaf 0x111B6 0x111BE () .leaf) 0x111C0 0x111C0 () .leaf)))
  0x111C9 0x111CC () (.node (.node (.node (.node .leaf 0x111CF 0x111CF () .leaf) 0x1122F
  0x11231 () .leaf) 0x11234 0x11237 () (.node (.node .leaf 0x1123E 0x1123E () .leaf) 0x11241
  0x11241 () .leaf)) 0x112DF 0x112DF () (.node (.node (.node .leaf 0x112E3 0x112EA () .leaf)
  0x11300 0x11301 () .leaf) 0x1133B 0x1133C () (.node (.node .leaf 0x1133E 0x1133E () .leaf)
  0x11340 0x11340 () .leaf)))) 0x1134D 0x1134D () (.node (.node (.node (.node (.node .leaf
  0x11357 0x11357 () .leaf) 0x11366 0x1136C () .leaf) 0x11370 0x11374 () (.node (.node .leaf
  0x113B8 0x113B8 () .leaf) 0x113BB 0x113C0 () .leaf)) 0x113C2 0x113C2 () (.node (.node (.node
  .leaf 0x113C5 0x113C5 () .leaf) 0x113C7 0x113C9 () .leaf) 0x113CE 0x113D0 () (.node (.node
  .leaf 0x113D2 0x113D2 () .leaf) 0x113E1 0x113E2 () .leaf))) 0x11438 0x1143F () (.node (.node
  (.node (.node .leaf 0x11442 0x11444 () .leaf) 0x11446 0x11446 () .leaf) 0x1145E 0x1145E ()
  (.node (.node .leaf 0x114B0 0x114B0 () .leaf) 0x114B3 0x114B8 () .leaf)) 0x114BA 0x114BA ()
  (.node (.node (.node .leaf 0x114BD 0x114BD () .leaf) 0x114BF 0x114C0 () .leaf) 0x114C2
  0x114C3 () (.node (.node .leaf 0x115AF 0x115AF () .leaf) 0x115B2 0x115B5 () .leaf))))))
  0x115BC 0x115BD () (.node (.node (.node (.node (.node (.node (.node .leaf 0x115BF 0x115C0 ()
  .leaf) 0x115DC 0x115DD () .leaf) 0x11633 0x1163A () (.node (.node .leaf 0x1163D 0x1163D ()
  .leaf) 0x1163F 0x11640 () .leaf)) 0x116AB 0x116AB () (.node (.node (.node .leaf 0x116AD
  0x116AD () .leaf) 0x116B0 0x116B7 () .leaf) 0x1171D 0x1171D () (.node (.node .leaf 0x1171F
  0x1171F () .leaf) 0x11722 0x11725 () .leaf))) 0x11727 0x1172B () (.node (.node (.node (.node
  .leaf 0x1182F 0x11837 () .leaf) 0x11839 0x1183A () .leaf) 0x11930 0x11930 () (.node (.node
  .leaf 0x1193B 0x1193E () .leaf) 0x11943 0x11943 () .leaf)) 0x119D4 0x119D7 () (.node (.node
  (.node .leaf 0x119DA 0x119DB () .leaf) 0x119E0 0x119E0 () .leaf) 0x11A01 0x11A0A () (.node
  (.node .leaf 0x11A33 0x11A38 () .leaf) 0x11A3B 0x11A3E () .leaf)))) 0x11A47 0x11A47 ()
  (.node (.node (.node (.node (.node .leaf 0x11A51 0x11A56 () .leaf) 0x11A59 0x11A5B () .leaf)
  0x11A8A 0x11A96 () (.node (.node .leaf 0x11A98 0x11A99 () .leaf) 0x11B60 0x11B60 () .leaf))
  0x11B62 0x11B64 () (.node (.node (.node .leaf 0x11B66 0x11B66 () .leaf) 0x11C30 0x11C36 ()
  .leaf) 0x11C38 0x11C3D () (.node (.node .leaf 0x11C3F 0x11C3F () .leaf) 0x11C92 0x11CA7 ()
  .leaf))) 0x11CAA 0x11CB0 () (.node (.node (.node (.node .leaf 0x11CB2 0x11CB3 () .leaf)
  0x11CB5 0x11CB6 () .leaf) 0x11D31 0x11D36 () (.node (.node .leaf 0x11D3A 0x11D3A () .leaf)
  0x11D3C 0x11D3D () .leaf)) 0x11D3F 0x11D45 () (.node (.node (.node .leaf 0x11D47 0x11D47 ()
  .leaf) 0x11D90 0x11D91 () .leaf) 0x11D95 0x11D95 () (.node (.node .leaf 0x11D97 0x11D97 ()
  .leaf) 0x11EF3 0x11EF4 () .leaf))))) 0x11F00 0x11F01 () (.node (.node (.node (.node (.node
  (.node .leaf 0x11F36 0x11F3A () .leaf) 0x11F40 0x11F42 () .leaf) 0x11F5A 0x11F5A () (.node
  (.node .leaf 0x13440 0x13440 () .leaf) 0x13447 0x13455 () .leaf)) 0x1611E 0x16129 () (.node
  (.node (.node .leaf 0x1612D 0x1612F () .leaf) 0x16AF0 0x16AF4 () .leaf) 0x16B30 0x16B36 ()
  (.node (.node .leaf 0x16F4F 0x16F4F () .leaf) 0x16F8F 0x16F92 () .leaf))) 0x16FE4 0x16FE4 ()
  (.node (.node (.node (.node .leaf 0x16FF0 0x16FF1 () .leaf) 0x1BC9D 0x1BC9E () .leaf)
  0x1CF00 0x1CF2D () (.node (.node .leaf 0x1CF30 0x1CF46 () .leaf) 0x1D165 0x1D169 () .leaf))
  0x1D16D 0x1D172 () (.node (.node (.node .leaf 0x1D17B 0x1D182 () .leaf) 0x1D185 0x1D18B ()
  .leaf) 0x1D1AA 0x1D1AD () (.node (.node .leaf 0x1D242 0x1D244 () .leaf) 0x1DA00 0x1DA36 ()
  .leaf)))) 0x1DA3B 0x1DA6C () (.node (.node (.node (.node (.node .leaf 0x1DA75 0x1DA75 ()
  .leaf) 0x1DA84 0x1DA84 () .leaf) 0x1DA9B 0x1DA9F () (.node (.node .leaf 0x1DAA1 0x1DAAF ()
  .leaf) 0x1E000 0x1E006 () .leaf)) 0x1E008 0x1E018 () (.node (.node (.node .leaf 0x1E01B
  0x1E021 () .leaf) 0x1E023 0x1E024 () .leaf) 0x1E026 0x1E02A () (.node (.node .leaf 0x1E08F
  0x1E08F () .leaf) 0x1E130 0x1E136 () .leaf))) 0x1E2AE 0x1E2AE () (.node (.node (.node (.node
  .leaf 0x1E2EC 0x1E2EF () .leaf) 0x1E4EC 0x1E4EF () .leaf) 0x1E5EE 0x1E5EF () (.node (.node
  .leaf 0x1E6E3 0x1E6E3 () .leaf) 0x1E6E6 0x1E6E6 () .leaf)) 0x1E6EE 0x1E6EF () (.node (.node
  (.node .leaf 0x1E6F5 0x1E6F5 () .leaf) 0x1E8D0 0x1E8D6 () .leaf) 0x1E944 0x1E94A () (.node
  (.node .leaf 0xE0020 0xE007F () .leaf) 0xE0100 0xE01EF () .leaf)))))))

end StreamTable.Unicode
