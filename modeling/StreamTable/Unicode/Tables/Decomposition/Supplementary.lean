import StreamTable.Unicode.Image

/-! The full compatibility decompositions of the supplementary planes below U+2F800. -/

namespace StreamTable.Unicode

set_option maxRecDepth 100000 in
def supplementaryDecompositions : RangeMap Image :=
  .node (.node (.node (.node (.node (.node (.node (.node (.node .leaf 0x105C9 0x105C9
  (.sequence [0x105D2, 0x307]) .leaf) 0x105E4 0x105E4 (.sequence [0x105DA, 0x307]) (.node
  .leaf 0x10781 0x10782 (.consecutive 0x2D0) .leaf)) 0x10783 0x10783 (.sequence [0xE6]) (.node
  (.node .leaf 0x10784 0x10784 (.sequence [0x299]) .leaf) 0x10785 0x10785 (.sequence [0x253])
  (.node .leaf 0x10787 0x10787 (.sequence [0x2A3]) .leaf))) 0x10788 0x10788 (.sequence
  [0xAB66]) (.node (.node (.node .leaf 0x10789 0x10789 (.sequence [0x2A5]) .leaf) 0x1078A
  0x1078A (.sequence [0x2A4]) (.node .leaf 0x1078B 0x1078C (.consecutive 0x256) .leaf))
  0x1078D 0x1078D (.sequence [0x1D91]) (.node (.node .leaf 0x1078E 0x1078E (.sequence [0x258])
  .leaf) 0x1078F 0x1078F (.sequence [0x25E]) .leaf))) 0x10790 0x10790 (.sequence [0x2A9])
  (.node (.node (.node (.node .leaf 0x10791 0x10791 (.sequence [0x264]) .leaf) 0x10792 0x10792
  (.sequence [0x262]) (.node .leaf 0x10793 0x10793 (.sequence [0x260]) .leaf)) 0x10794 0x10794
  (.sequence [0x29B]) (.node (.node .leaf 0x10795 0x10795 (.sequence [0x127]) .leaf) 0x10796
  0x10796 (.sequence [0x29C]) (.node .leaf 0x10797 0x10797 (.sequence [0x267]) .leaf)))
  0x10798 0x10798 (.sequence [0x284]) (.node (.node (.node .leaf 0x10799 0x1079A (.consecutive
  0x2AA) .leaf) 0x1079B 0x1079B (.sequence [0x26C]) (.node .leaf 0x1079C 0x1079C (.sequence
  [0x1DF04]) .leaf)) 0x1079D 0x1079D (.sequence [0xA78E]) (.node (.node .leaf 0x1079E 0x1079E
  (.sequence [0x26E]) .leaf) 0x1079F 0x1079F (.sequence [0x1DF05]) .leaf)))) 0x107A0 0x107A0
  (.sequence [0x28E]) (.node (.node (.node (.node (.node .leaf 0x107A1 0x107A1 (.sequence
  [0x1DF06]) .leaf) 0x107A2 0x107A2 (.sequence [0xF8]) (.node .leaf 0x107A3 0x107A4
  (.consecutive 0x276) .leaf)) 0x107A5 0x107A5 (.sequence [0x71]) (.node (.node .leaf 0x107A6
  0x107A6 (.sequence [0x27A]) .leaf) 0x107A7 0x107A7 (.sequence [0x1DF08]) (.node .leaf
  0x107A8 0x107A9 (.consecutive 0x27D) .leaf))) 0x107AA 0x107AA (.sequence [0x280]) (.node
  (.node (.node .leaf 0x107AB 0x107AB (.sequence [0x2A8]) .leaf) 0x107AC 0x107AC (.sequence
  [0x2A6]) (.node .leaf 0x107AD 0x107AD (.sequence [0xAB67]) .leaf)) 0x107AE 0x107AE
  (.sequence [0x2A7]) (.node (.node .leaf 0x107AF 0x107AF (.sequence [0x288]) .leaf) 0x107B0
  0x107B0 (.sequence [0x2C71]) .leaf))) 0x107B2 0x107B2 (.sequence [0x28F]) (.node (.node
  (.node (.node .leaf 0x107B3 0x107B4 (.consecutive 0x2A1) .leaf) 0x107B5 0x107B5 (.sequence
  [0x298]) (.node .leaf 0x107B6 0x107B8 (.consecutive 0x1C0) .leaf)) 0x107B9 0x107B9
  (.sequence [0x1DF0A]) (.node (.node .leaf 0x107BA 0x107BA (.sequence [0x1DF1E]) .leaf)
  0x1109A 0x1109A (.sequence [0x11099, 0x110BA]) .leaf)) 0x1109C 0x1109C (.sequence
  [0x1109B, 0x110BA]) (.node (.node (.node .leaf 0x110AB 0x110AB (.sequence [0x110A5, 0x110BA])
  .leaf) 0x1112E 0x1112E (.sequence [0x11131, 0x11127]) (.node .leaf 0x1112F 0x1112F
  (.sequence [0x11132, 0x11127]) .leaf)) 0x1134B 0x1134B (.sequence [0x11347, 0x1133E]) (.node
  (.node .leaf 0x1134C 0x1134C (.sequence [0x11347, 0x11357]) .leaf) 0x11383 0x11383
  (.sequence [0x11382, 0x113C9]) .leaf))))) 0x11385 0x11385 (.sequence [0x11384, 0x113BB])
  (.node (.node (.node (.node (.node (.node .leaf 0x1138E 0x1138E (.sequence
  [0x1138B, 0x113C2]) .leaf) 0x11391 0x11391 (.sequence [0x11390, 0x113C9]) (.node .leaf
  0x113C5 0x113C5 (.sequence [0x113C2, 0x113C2]) .leaf)) 0x113C7 0x113C7 (.sequence
  [0x113C2, 0x113B8]) (.node (.node .leaf 0x113C8 0x113C8 (.sequence [0x113C2, 0x113C9]) .leaf)
  0x114BB 0x114BB (.sequence [0x114B9, 0x114BA]) (.node .leaf 0x114BC 0x114BC (.sequence
  [0x114B9, 0x114B0]) .leaf))) 0x114BE 0x114BE (.sequence [0x114B9, 0x114BD]) (.node (.node
  (.node .leaf 0x115BA 0x115BA (.sequence [0x115B8, 0x115AF]) .leaf) 0x115BB 0x115BB
  (.sequence [0x115B9, 0x115AF]) (.node .leaf 0x11938 0x11938 (.sequence [0x11935, 0x11930])
  .leaf)) 0x16121 0x16121 (.sequence [0x1611E, 0x1611E]) (.node (.node .leaf 0x16122 0x16122
  (.sequence [0x1611E, 0x16129]) .leaf) 0x16123 0x16123 (.sequence [0x1611E, 0x1611F]) .leaf)))
  0x16124 0x16124 (.sequence [0x16129, 0x1611F]) (.node (.node (.node (.node .leaf 0x16125
  0x16125 (.sequence [0x1611E, 0x16120]) .leaf) 0x16126 0x16126 (.sequence
  [0x1611E, 0x1611E, 0x1611F]) (.node .leaf 0x16127 0x16127 (.sequence
  [0x1611E, 0x16129, 0x1611F]) .leaf)) 0x16128 0x16128 (.sequence [0x1611E, 0x1611E, 0x16120])
  (.node (.node .leaf 0x16D68 0x16D68 (.sequence [0x16D67, 0x16D67]) .leaf) 0x16D69 0x16D69
  (.sequence [0x16D63, 0x16D67]) .leaf)) 0x16D6A 0x16D6A (.sequence
  [0x16D63, 0x16D67, 0x16D67]) (.node (.node (.node .leaf 0x1CCD6 0x1CCEF (.consecutive 0x41)
  .leaf) 0x1CCF0 0x1CCF9 (.consecutive 0x30) (.node .leaf 0x1D15E 0x1D15E (.sequence
  [0x1D157, 0x1D165]) .leaf)) 0x1D15F 0x1D15F (.sequence [0x1D158, 0x1D165]) (.node (.node
  .leaf 0x1D160 0x1D160 (.sequence [0x1D158, 0x1D165, 0x1D16E]) .leaf) 0x1D161 0x1D161
  (.sequence [0x1D158, 0x1D165, 0x1D16F]) .leaf)))) 0x1D162 0x1D162 (.sequence
  [0x1D158, 0x1D165, 0x1D170]) (.node (.node (.node (.node (.node .leaf 0x1D163 0x1D163
  (.sequence [0x1D158, 0x1D165, 0x1D171]) .leaf) 0x1D164 0x1D164 (.sequence
  [0x1D158, 0x1D165, 0x1D172]) (.node .leaf 0x1D1BB 0x1D1BB (.sequence [0x1D1B9, 0x1D165])
  .leaf)) 0x1D1BC 0x1D1BC (.sequence [0x1D1BA, 0x1D165]) (.node (.node .leaf 0x1D1BD 0x1D1BD
  (.sequence [0x1D1B9, 0x1D165, 0x1D16E]) .leaf) 0x1D1BE 0x1D1BE (.sequence
  [0x1D1BA, 0x1D165, 0x1D16E]) (.node .leaf 0x1D1BF 0x1D1BF (.sequence
  [0x1D1B9, 0x1D165, 0x1D16F]) .leaf))) 0x1D1C0 0x1D1C0 (.sequence [0x1D1BA, 0x1D165, 0x1D16F])
  (.node (.node (.node .leaf 0x1D400 0x1D419 (.consecutive 0x41) .leaf) 0x1D41A 0x1D433
  (.consecutive 0x61) (.node .leaf 0x1D434 0x1D44D (.consecutive 0x41) .leaf)) 0x1D44E 0x1D454
  (.consecutive 0x61) (.node (.node .leaf 0x1D456 0x1D467 (.consecutive 0x69) .leaf) 0x1D468
  0x1D481 (.consecutive 0x41) .leaf))) 0x1D482 0x1D49B (.consecutive 0x61) (.node (.node
  (.node (.node .leaf 0x1D49C 0x1D49C (.sequence [0x41]) .leaf) 0x1D49E 0x1D49F (.consecutive
  0x43) (.node .leaf 0x1D4A2 0x1D4A2 (.sequence [0x47]) .leaf)) 0x1D4A5 0x1D4A6 (.consecutive
  0x4A) (.node (.node .leaf 0x1D4A9 0x1D4AC (.consecutive 0x4E) .leaf) 0x1D4AE 0x1D4B5
  (.consecutive 0x53) .leaf)) 0x1D4B6 0x1D4B9 (.consecutive 0x61) (.node (.node (.node .leaf
  0x1D4BB 0x1D4BB (.sequence [0x66]) .leaf) 0x1D4BD 0x1D4C3 (.consecutive 0x68) (.node .leaf
  0x1D4C5 0x1D4CF (.consecutive 0x70) .leaf)) 0x1D4D0 0x1D4E9 (.consecutive 0x41) (.node
  (.node .leaf 0x1D4EA 0x1D503 (.consecutive 0x61) .leaf) 0x1D504 0x1D505 (.consecutive 0x41)
  .leaf)))))) 0x1D507 0x1D50A (.consecutive 0x44) (.node (.node (.node (.node (.node (.node
  (.node .leaf 0x1D50D 0x1D514 (.consecutive 0x4A) .leaf) 0x1D516 0x1D51C (.consecutive 0x53)
  (.node .leaf 0x1D51E 0x1D537 (.consecutive 0x61) .leaf)) 0x1D538 0x1D539 (.consecutive 0x41)
  (.node (.node .leaf 0x1D53B 0x1D53E (.consecutive 0x44) .leaf) 0x1D540 0x1D544 (.consecutive
  0x49) (.node .leaf 0x1D546 0x1D546 (.sequence [0x4F]) .leaf))) 0x1D54A 0x1D550 (.consecutive
  0x53) (.node (.node (.node .leaf 0x1D552 0x1D56B (.consecutive 0x61) .leaf) 0x1D56C 0x1D585
  (.consecutive 0x41) (.node .leaf 0x1D586 0x1D59F (.consecutive 0x61) .leaf)) 0x1D5A0 0x1D5B9
  (.consecutive 0x41) (.node (.node .leaf 0x1D5BA 0x1D5D3 (.consecutive 0x61) .leaf) 0x1D5D4
  0x1D5ED (.consecutive 0x41) .leaf))) 0x1D5EE 0x1D607 (.consecutive 0x61) (.node (.node
  (.node (.node .leaf 0x1D608 0x1D621 (.consecutive 0x41) .leaf) 0x1D622 0x1D63B (.consecutive
  0x61) (.node .leaf 0x1D63C 0x1D655 (.consecutive 0x41) .leaf)) 0x1D656 0x1D66F (.consecutive
  0x61) (.node (.node .leaf 0x1D670 0x1D689 (.consecutive 0x41) .leaf) 0x1D68A 0x1D6A3
  (.consecutive 0x61) .leaf)) 0x1D6A4 0x1D6A4 (.sequence [0x131]) (.node (.node (.node .leaf
  0x1D6A5 0x1D6A5 (.sequence [0x237]) .leaf) 0x1D6A8 0x1D6B8 (.consecutive 0x391) (.node .leaf
  0x1D6B9 0x1D6B9 (.sequence [0x398]) .leaf)) 0x1D6BA 0x1D6C0 (.consecutive 0x3A3) (.node
  (.node .leaf 0x1D6C1 0x1D6C1 (.sequence [0x2207]) .leaf) 0x1D6C2 0x1D6DA (.consecutive 0x3B1)
  .leaf)))) 0x1D6DB 0x1D6DB (.sequence [0x2202]) (.node (.node (.node (.node (.node .leaf
  0x1D6DC 0x1D6DC (.sequence [0x3B5]) .leaf) 0x1D6DD 0x1D6DD (.sequence [0x3B8]) (.node .leaf
  0x1D6DE 0x1D6DE (.sequence [0x3BA]) .leaf)) 0x1D6DF 0x1D6DF (.sequence [0x3C6]) (.node
  (.node .leaf 0x1D6E0 0x1D6E0 (.sequence [0x3C1]) .leaf) 0x1D6E1 0x1D6E1 (.sequence [0x3C0])
  (.node .leaf 0x1D6E2 0x1D6F2 (.consecutive 0x391) .leaf))) 0x1D6F3 0x1D6F3 (.sequence
  [0x398]) (.node (.node (.node .leaf 0x1D6F4 0x1D6FA (.consecutive 0x3A3) .leaf) 0x1D6FB
  0x1D6FB (.sequence [0x2207]) (.node .leaf 0x1D6FC 0x1D714 (.consecutive 0x3B1) .leaf))
  0x1D715 0x1D715 (.sequence [0x2202]) (.node (.node .leaf 0x1D716 0x1D716 (.sequence [0x3B5])
  .leaf) 0x1D717 0x1D717 (.sequence [0x3B8]) .leaf))) 0x1D718 0x1D718 (.sequence [0x3BA])
  (.node (.node (.node (.node .leaf 0x1D719 0x1D719 (.sequence [0x3C6]) .leaf) 0x1D71A 0x1D71A
  (.sequence [0x3C1]) (.node .leaf 0x1D71B 0x1D71B (.sequence [0x3C0]) .leaf)) 0x1D71C 0x1D72C
  (.consecutive 0x391) (.node (.node .leaf 0x1D72D 0x1D72D (.sequence [0x398]) .leaf) 0x1D72E
  0x1D734 (.consecutive 0x3A3) .leaf)) 0x1D735 0x1D735 (.sequence [0x2207]) (.node (.node
  (.node .leaf 0x1D736 0x1D74E (.consecutive 0x3B1) .leaf) 0x1D74F 0x1D74F (.sequence [0x2202])
  (.node .leaf 0x1D750 0x1D750 (.sequence [0x3B5]) .leaf)) 0x1D751 0x1D751 (.sequence [0x3B8])
  (.node (.node .leaf 0x1D752 0x1D752 (.sequence [0x3BA]) .leaf) 0x1D753 0x1D753 (.sequence
  [0x3C6]) .leaf))))) 0x1D754 0x1D754 (.sequence [0x3C1]) (.node (.node (.node (.node (.node
  (.node .leaf 0x1D755 0x1D755 (.sequence [0x3C0]) .leaf) 0x1D756 0x1D766 (.consecutive 0x391)
  (.node .leaf 0x1D767 0x1D767 (.sequence [0x398]) .leaf)) 0x1D768 0x1D76E (.consecutive 0x3A3)
  (.node (.node .leaf 0x1D76F 0x1D76F (.sequence [0x2207]) .leaf) 0x1D770 0x1D788
  (.consecutive 0x3B1) (.node .leaf 0x1D789 0x1D789 (.sequence [0x2202]) .leaf))) 0x1D78A
  0x1D78A (.sequence [0x3B5]) (.node (.node (.node .leaf 0x1D78B 0x1D78B (.sequence [0x3B8])
  .leaf) 0x1D78C 0x1D78C (.sequence [0x3BA]) (.node .leaf 0x1D78D 0x1D78D (.sequence [0x3C6])
  .leaf)) 0x1D78E 0x1D78E (.sequence [0x3C1]) (.node (.node .leaf 0x1D78F 0x1D78F (.sequence
  [0x3C0]) .leaf) 0x1D790 0x1D7A0 (.consecutive 0x391) .leaf))) 0x1D7A1 0x1D7A1 (.sequence
  [0x398]) (.node (.node (.node (.node .leaf 0x1D7A2 0x1D7A8 (.consecutive 0x3A3) .leaf)
  0x1D7A9 0x1D7A9 (.sequence [0x2207]) (.node .leaf 0x1D7AA 0x1D7C2 (.consecutive 0x3B1) .leaf))
  0x1D7C3 0x1D7C3 (.sequence [0x2202]) (.node (.node .leaf 0x1D7C4 0x1D7C4 (.sequence [0x3B5])
  .leaf) 0x1D7C5 0x1D7C5 (.sequence [0x3B8]) .leaf)) 0x1D7C6 0x1D7C6 (.sequence [0x3BA])
  (.node (.node (.node .leaf 0x1D7C7 0x1D7C7 (.sequence [0x3C6]) .leaf) 0x1D7C8 0x1D7C8
  (.sequence [0x3C1]) (.node .leaf 0x1D7C9 0x1D7C9 (.sequence [0x3C0]) .leaf)) 0x1D7CA 0x1D7CB
  (.consecutive 0x3DC) (.node (.node .leaf 0x1D7CE 0x1D7D7 (.consecutive 0x30) .leaf) 0x1D7D8
  0x1D7E1 (.consecutive 0x30) .leaf)))) 0x1D7E2 0x1D7EB (.consecutive 0x30) (.node (.node
  (.node (.node (.node .leaf 0x1D7EC 0x1D7F5 (.consecutive 0x30) .leaf) 0x1D7F6 0x1D7FF
  (.consecutive 0x30) (.node .leaf 0x1E030 0x1E038 (.consecutive 0x430) .leaf)) 0x1E039
  0x1E03B (.consecutive 0x43A) (.node (.node .leaf 0x1E03C 0x1E046 (.consecutive 0x43E) .leaf)
  0x1E047 0x1E047 (.sequence [0x44B]) (.node .leaf 0x1E048 0x1E049 (.consecutive 0x44D) .leaf)))
  0x1E04A 0x1E04A (.sequence [0xA689]) (.node (.node (.node .leaf 0x1E04B 0x1E04B (.sequence
  [0x4D9]) .leaf) 0x1E04C 0x1E04C (.sequence [0x456]) (.node .leaf 0x1E04D 0x1E04D (.sequence
  [0x458]) .leaf)) 0x1E04E 0x1E04E (.sequence [0x4E9]) (.node (.node .leaf 0x1E04F 0x1E04F
  (.sequence [0x4AF]) .leaf) 0x1E050 0x1E050 (.sequence [0x4CF]) .leaf))) 0x1E051 0x1E059
  (.consecutive 0x430) (.node (.node (.node (.node .leaf 0x1E05A 0x1E05B (.consecutive 0x43A)
  .leaf) 0x1E05C 0x1E05D (.consecutive 0x43E) (.node .leaf 0x1E05E 0x1E05E (.sequence [0x441])
  .leaf)) 0x1E05F 0x1E064 (.consecutive 0x443) (.node (.node .leaf 0x1E065 0x1E066
  (.consecutive 0x44A) .leaf) 0x1E067 0x1E067 (.sequence [0x491]) .leaf)) 0x1E068 0x1E068
  (.sequence [0x456]) (.node (.node (.node .leaf 0x1E069 0x1E069 (.sequence [0x455]) .leaf)
  0x1E06A 0x1E06A (.sequence [0x45F]) (.node .leaf 0x1E06B 0x1E06B (.sequence [0x4AB]) .leaf))
  0x1E06C 0x1E06C (.sequence [0xA651]) (.node (.node .leaf 0x1E06D 0x1E06D (.sequence [0x4B1])
  .leaf) 0x1EE00 0x1EE01 (.consecutive 0x627) .leaf))))))) 0x1EE02 0x1EE02 (.sequence [0x62C])
  (.node (.node (.node (.node (.node (.node (.node (.node .leaf 0x1EE03 0x1EE03 (.sequence
  [0x62F]) .leaf) 0x1EE05 0x1EE05 (.sequence [0x648]) (.node .leaf 0x1EE06 0x1EE06 (.sequence
  [0x632]) .leaf)) 0x1EE07 0x1EE07 (.sequence [0x62D]) (.node (.node .leaf 0x1EE08 0x1EE08
  (.sequence [0x637]) .leaf) 0x1EE09 0x1EE09 (.sequence [0x64A]) (.node .leaf 0x1EE0A 0x1EE0D
  (.consecutive 0x643) .leaf))) 0x1EE0E 0x1EE0E (.sequence [0x633]) (.node (.node (.node .leaf
  0x1EE0F 0x1EE0F (.sequence [0x639]) .leaf) 0x1EE10 0x1EE10 (.sequence [0x641]) (.node .leaf
  0x1EE11 0x1EE11 (.sequence [0x635]) .leaf)) 0x1EE12 0x1EE12 (.sequence [0x642]) (.node
  (.node .leaf 0x1EE13 0x1EE13 (.sequence [0x631]) .leaf) 0x1EE14 0x1EE14 (.sequence [0x634])
  .leaf))) 0x1EE15 0x1EE16 (.consecutive 0x62A) (.node (.node (.node (.node .leaf 0x1EE17
  0x1EE17 (.sequence [0x62E]) .leaf) 0x1EE18 0x1EE18 (.sequence [0x630]) (.node .leaf 0x1EE19
  0x1EE19 (.sequence [0x636]) .leaf)) 0x1EE1A 0x1EE1A (.sequence [0x638]) (.node (.node .leaf
  0x1EE1B 0x1EE1B (.sequence [0x63A]) .leaf) 0x1EE1C 0x1EE1C (.sequence [0x66E]) (.node .leaf
  0x1EE1D 0x1EE1D (.sequence [0x6BA]) .leaf))) 0x1EE1E 0x1EE1E (.sequence [0x6A1]) (.node
  (.node (.node .leaf 0x1EE1F 0x1EE1F (.sequence [0x66F]) .leaf) 0x1EE21 0x1EE21 (.sequence
  [0x628]) (.node .leaf 0x1EE22 0x1EE22 (.sequence [0x62C]) .leaf)) 0x1EE24 0x1EE24 (.sequence
  [0x647]) (.node (.node .leaf 0x1EE27 0x1EE27 (.sequence [0x62D]) .leaf) 0x1EE29 0x1EE29
  (.sequence [0x64A]) .leaf)))) 0x1EE2A 0x1EE2D (.consecutive 0x643) (.node (.node (.node
  (.node (.node .leaf 0x1EE2E 0x1EE2E (.sequence [0x633]) .leaf) 0x1EE2F 0x1EE2F (.sequence
  [0x639]) (.node .leaf 0x1EE30 0x1EE30 (.sequence [0x641]) .leaf)) 0x1EE31 0x1EE31 (.sequence
  [0x635]) (.node (.node .leaf 0x1EE32 0x1EE32 (.sequence [0x642]) .leaf) 0x1EE34 0x1EE34
  (.sequence [0x634]) (.node .leaf 0x1EE35 0x1EE36 (.consecutive 0x62A) .leaf))) 0x1EE37
  0x1EE37 (.sequence [0x62E]) (.node (.node (.node .leaf 0x1EE39 0x1EE39 (.sequence [0x636])
  .leaf) 0x1EE3B 0x1EE3B (.sequence [0x63A]) (.node .leaf 0x1EE42 0x1EE42 (.sequence [0x62C])
  .leaf)) 0x1EE47 0x1EE47 (.sequence [0x62D]) (.node (.node .leaf 0x1EE49 0x1EE49 (.sequence
  [0x64A]) .leaf) 0x1EE4B 0x1EE4B (.sequence [0x644]) .leaf))) 0x1EE4D 0x1EE4D (.sequence
  [0x646]) (.node (.node (.node (.node .leaf 0x1EE4E 0x1EE4E (.sequence [0x633]) .leaf)
  0x1EE4F 0x1EE4F (.sequence [0x639]) (.node .leaf 0x1EE51 0x1EE51 (.sequence [0x635]) .leaf))
  0x1EE52 0x1EE52 (.sequence [0x642]) (.node (.node .leaf 0x1EE54 0x1EE54 (.sequence [0x634])
  .leaf) 0x1EE57 0x1EE57 (.sequence [0x62E]) .leaf)) 0x1EE59 0x1EE59 (.sequence [0x636])
  (.node (.node (.node .leaf 0x1EE5B 0x1EE5B (.sequence [0x63A]) .leaf) 0x1EE5D 0x1EE5D
  (.sequence [0x6BA]) (.node .leaf 0x1EE5F 0x1EE5F (.sequence [0x66F]) .leaf)) 0x1EE61 0x1EE61
  (.sequence [0x628]) (.node (.node .leaf 0x1EE62 0x1EE62 (.sequence [0x62C]) .leaf) 0x1EE64
  0x1EE64 (.sequence [0x647]) .leaf))))) 0x1EE67 0x1EE67 (.sequence [0x62D]) (.node (.node
  (.node (.node (.node (.node .leaf 0x1EE68 0x1EE68 (.sequence [0x637]) .leaf) 0x1EE69 0x1EE69
  (.sequence [0x64A]) (.node .leaf 0x1EE6A 0x1EE6A (.sequence [0x643]) .leaf)) 0x1EE6C 0x1EE6D
  (.consecutive 0x645) (.node (.node .leaf 0x1EE6E 0x1EE6E (.sequence [0x633]) .leaf) 0x1EE6F
  0x1EE6F (.sequence [0x639]) (.node .leaf 0x1EE70 0x1EE70 (.sequence [0x641]) .leaf)))
  0x1EE71 0x1EE71 (.sequence [0x635]) (.node (.node (.node .leaf 0x1EE72 0x1EE72 (.sequence
  [0x642]) .leaf) 0x1EE74 0x1EE74 (.sequence [0x634]) (.node .leaf 0x1EE75 0x1EE76
  (.consecutive 0x62A) .leaf)) 0x1EE77 0x1EE77 (.sequence [0x62E]) (.node (.node .leaf 0x1EE79
  0x1EE79 (.sequence [0x636]) .leaf) 0x1EE7A 0x1EE7A (.sequence [0x638]) .leaf))) 0x1EE7B
  0x1EE7B (.sequence [0x63A]) (.node (.node (.node (.node .leaf 0x1EE7C 0x1EE7C (.sequence
  [0x66E]) .leaf) 0x1EE7E 0x1EE7E (.sequence [0x6A1]) (.node .leaf 0x1EE80 0x1EE81
  (.consecutive 0x627) .leaf)) 0x1EE82 0x1EE82 (.sequence [0x62C]) (.node (.node .leaf 0x1EE83
  0x1EE83 (.sequence [0x62F]) .leaf) 0x1EE84 0x1EE85 (.consecutive 0x647) .leaf)) 0x1EE86
  0x1EE86 (.sequence [0x632]) (.node (.node (.node .leaf 0x1EE87 0x1EE87 (.sequence [0x62D])
  .leaf) 0x1EE88 0x1EE88 (.sequence [0x637]) (.node .leaf 0x1EE89 0x1EE89 (.sequence [0x64A])
  .leaf)) 0x1EE8B 0x1EE8D (.consecutive 0x644) (.node (.node .leaf 0x1EE8E 0x1EE8E (.sequence
  [0x633]) .leaf) 0x1EE8F 0x1EE8F (.sequence [0x639]) .leaf)))) 0x1EE90 0x1EE90 (.sequence
  [0x641]) (.node (.node (.node (.node (.node .leaf 0x1EE91 0x1EE91 (.sequence [0x635]) .leaf)
  0x1EE92 0x1EE92 (.sequence [0x642]) (.node .leaf 0x1EE93 0x1EE93 (.sequence [0x631]) .leaf))
  0x1EE94 0x1EE94 (.sequence [0x634]) (.node (.node .leaf 0x1EE95 0x1EE96 (.consecutive 0x62A)
  .leaf) 0x1EE97 0x1EE97 (.sequence [0x62E]) (.node .leaf 0x1EE98 0x1EE98 (.sequence [0x630])
  .leaf))) 0x1EE99 0x1EE99 (.sequence [0x636]) (.node (.node (.node .leaf 0x1EE9A 0x1EE9A
  (.sequence [0x638]) .leaf) 0x1EE9B 0x1EE9B (.sequence [0x63A]) (.node .leaf 0x1EEA1 0x1EEA1
  (.sequence [0x628]) .leaf)) 0x1EEA2 0x1EEA2 (.sequence [0x62C]) (.node (.node .leaf 0x1EEA3
  0x1EEA3 (.sequence [0x62F]) .leaf) 0x1EEA5 0x1EEA5 (.sequence [0x648]) .leaf))) 0x1EEA6
  0x1EEA6 (.sequence [0x632]) (.node (.node (.node (.node .leaf 0x1EEA7 0x1EEA7 (.sequence
  [0x62D]) .leaf) 0x1EEA8 0x1EEA8 (.sequence [0x637]) (.node .leaf 0x1EEA9 0x1EEA9 (.sequence
  [0x64A]) .leaf)) 0x1EEAB 0x1EEAD (.consecutive 0x644) (.node (.node .leaf 0x1EEAE 0x1EEAE
  (.sequence [0x633]) .leaf) 0x1EEAF 0x1EEAF (.sequence [0x639]) .leaf)) 0x1EEB0 0x1EEB0
  (.sequence [0x641]) (.node (.node (.node .leaf 0x1EEB1 0x1EEB1 (.sequence [0x635]) .leaf)
  0x1EEB2 0x1EEB2 (.sequence [0x642]) (.node .leaf 0x1EEB3 0x1EEB3 (.sequence [0x631]) .leaf))
  0x1EEB4 0x1EEB4 (.sequence [0x634]) (.node (.node .leaf 0x1EEB5 0x1EEB6 (.consecutive 0x62A)
  .leaf) 0x1EEB7 0x1EEB7 (.sequence [0x62E]) .leaf)))))) 0x1EEB8 0x1EEB8 (.sequence [0x630])
  (.node (.node (.node (.node (.node (.node (.node .leaf 0x1EEB9 0x1EEB9 (.sequence [0x636])
  .leaf) 0x1EEBA 0x1EEBA (.sequence [0x638]) (.node .leaf 0x1EEBB 0x1EEBB (.sequence [0x63A])
  .leaf)) 0x1F100 0x1F100 (.sequence [0x30, 0x2E]) (.node (.node .leaf 0x1F101 0x1F101
  (.sequence [0x30, 0x2C]) .leaf) 0x1F102 0x1F102 (.sequence [0x31, 0x2C]) (.node .leaf
  0x1F103 0x1F103 (.sequence [0x32, 0x2C]) .leaf))) 0x1F104 0x1F104 (.sequence [0x33, 0x2C])
  (.node (.node (.node .leaf 0x1F105 0x1F105 (.sequence [0x34, 0x2C]) .leaf) 0x1F106 0x1F106
  (.sequence [0x35, 0x2C]) (.node .leaf 0x1F107 0x1F107 (.sequence [0x36, 0x2C]) .leaf))
  0x1F108 0x1F108 (.sequence [0x37, 0x2C]) (.node (.node .leaf 0x1F109 0x1F109 (.sequence
  [0x38, 0x2C]) .leaf) 0x1F10A 0x1F10A (.sequence [0x39, 0x2C]) .leaf))) 0x1F110 0x1F110
  (.sequence [0x28, 0x41, 0x29]) (.node (.node (.node (.node .leaf 0x1F111 0x1F111 (.sequence
  [0x28, 0x42, 0x29]) .leaf) 0x1F112 0x1F112 (.sequence [0x28, 0x43, 0x29]) (.node .leaf
  0x1F113 0x1F113 (.sequence [0x28, 0x44, 0x29]) .leaf)) 0x1F114 0x1F114 (.sequence
  [0x28, 0x45, 0x29]) (.node (.node .leaf 0x1F115 0x1F115 (.sequence [0x28, 0x46, 0x29]) .leaf)
  0x1F116 0x1F116 (.sequence [0x28, 0x47, 0x29]) .leaf)) 0x1F117 0x1F117 (.sequence
  [0x28, 0x48, 0x29]) (.node (.node (.node .leaf 0x1F118 0x1F118 (.sequence [0x28, 0x49, 0x29])
  .leaf) 0x1F119 0x1F119 (.sequence [0x28, 0x4A, 0x29]) (.node .leaf 0x1F11A 0x1F11A
  (.sequence [0x28, 0x4B, 0x29]) .leaf)) 0x1F11B 0x1F11B (.sequence [0x28, 0x4C, 0x29]) (.node
  (.node .leaf 0x1F11C 0x1F11C (.sequence [0x28, 0x4D, 0x29]) .leaf) 0x1F11D 0x1F11D
  (.sequence [0x28, 0x4E, 0x29]) .leaf)))) 0x1F11E 0x1F11E (.sequence [0x28, 0x4F, 0x29])
  (.node (.node (.node (.node (.node .leaf 0x1F11F 0x1F11F (.sequence [0x28, 0x50, 0x29])
  .leaf) 0x1F120 0x1F120 (.sequence [0x28, 0x51, 0x29]) (.node .leaf 0x1F121 0x1F121
  (.sequence [0x28, 0x52, 0x29]) .leaf)) 0x1F122 0x1F122 (.sequence [0x28, 0x53, 0x29]) (.node
  (.node .leaf 0x1F123 0x1F123 (.sequence [0x28, 0x54, 0x29]) .leaf) 0x1F124 0x1F124
  (.sequence [0x28, 0x55, 0x29]) (.node .leaf 0x1F125 0x1F125 (.sequence [0x28, 0x56, 0x29])
  .leaf))) 0x1F126 0x1F126 (.sequence [0x28, 0x57, 0x29]) (.node (.node (.node .leaf 0x1F127
  0x1F127 (.sequence [0x28, 0x58, 0x29]) .leaf) 0x1F128 0x1F128 (.sequence [0x28, 0x59, 0x29])
  (.node .leaf 0x1F129 0x1F129 (.sequence [0x28, 0x5A, 0x29]) .leaf)) 0x1F12A 0x1F12A
  (.sequence [0x3014, 0x53, 0x3015]) (.node (.node .leaf 0x1F12B 0x1F12B (.sequence [0x43])
  .leaf) 0x1F12C 0x1F12C (.sequence [0x52]) .leaf))) 0x1F12D 0x1F12D (.sequence [0x43, 0x44])
  (.node (.node (.node (.node .leaf 0x1F12E 0x1F12E (.sequence [0x57, 0x5A]) .leaf) 0x1F130
  0x1F149 (.consecutive 0x41) (.node .leaf 0x1F14A 0x1F14A (.sequence [0x48, 0x56]) .leaf))
  0x1F14B 0x1F14B (.sequence [0x4D, 0x56]) (.node (.node .leaf 0x1F14C 0x1F14C (.sequence
  [0x53, 0x44]) .leaf) 0x1F14D 0x1F14D (.sequence [0x53, 0x53]) .leaf)) 0x1F14E 0x1F14E
  (.sequence [0x50, 0x50, 0x56]) (.node (.node (.node .leaf 0x1F14F 0x1F14F (.sequence
  [0x57, 0x43]) .leaf) 0x1F16A 0x1F16A (.sequence [0x4D, 0x43]) (.node .leaf 0x1F16B 0x1F16B
  (.sequence [0x4D, 0x44]) .leaf)) 0x1F16C 0x1F16C (.sequence [0x4D, 0x52]) (.node (.node
  .leaf 0x1F190 0x1F190 (.sequence [0x44, 0x4A]) .leaf) 0x1F200 0x1F200 (.sequence
  [0x307B, 0x304B]) .leaf))))) 0x1F201 0x1F201 (.sequence [0x30B3, 0x30B3]) (.node (.node
  (.node (.node (.node (.node .leaf 0x1F202 0x1F202 (.sequence [0x30B5]) .leaf) 0x1F210
  0x1F210 (.sequence [0x624B]) (.node .leaf 0x1F211 0x1F211 (.sequence [0x5B57]) .leaf))
  0x1F212 0x1F212 (.sequence [0x53CC]) (.node (.node .leaf 0x1F213 0x1F213 (.sequence
  [0x30C6, 0x3099]) .leaf) 0x1F214 0x1F214 (.sequence [0x4E8C]) (.node .leaf 0x1F215 0x1F215
  (.sequence [0x591A]) .leaf))) 0x1F216 0x1F216 (.sequence [0x89E3]) (.node (.node (.node
  .leaf 0x1F217 0x1F217 (.sequence [0x5929]) .leaf) 0x1F218 0x1F218 (.sequence [0x4EA4])
  (.node .leaf 0x1F219 0x1F219 (.sequence [0x6620]) .leaf)) 0x1F21A 0x1F21A (.sequence
  [0x7121]) (.node (.node .leaf 0x1F21B 0x1F21B (.sequence [0x6599]) .leaf) 0x1F21C 0x1F21C
  (.sequence [0x524D]) .leaf))) 0x1F21D 0x1F21D (.sequence [0x5F8C]) (.node (.node (.node
  (.node .leaf 0x1F21E 0x1F21E (.sequence [0x518D]) .leaf) 0x1F21F 0x1F21F (.sequence [0x65B0])
  (.node .leaf 0x1F220 0x1F220 (.sequence [0x521D]) .leaf)) 0x1F221 0x1F221 (.sequence
  [0x7D42]) (.node (.node .leaf 0x1F222 0x1F222 (.sequence [0x751F]) .leaf) 0x1F223 0x1F223
  (.sequence [0x8CA9]) .leaf)) 0x1F224 0x1F224 (.sequence [0x58F0]) (.node (.node (.node .leaf
  0x1F225 0x1F225 (.sequence [0x5439]) .leaf) 0x1F226 0x1F226 (.sequence [0x6F14]) (.node
  .leaf 0x1F227 0x1F227 (.sequence [0x6295]) .leaf)) 0x1F228 0x1F228 (.sequence [0x6355])
  (.node (.node .leaf 0x1F229 0x1F229 (.sequence [0x4E00]) .leaf) 0x1F22A 0x1F22A (.sequence
  [0x4E09]) .leaf)))) 0x1F22B 0x1F22B (.sequence [0x904A]) (.node (.node (.node (.node (.node
  .leaf 0x1F22C 0x1F22C (.sequence [0x5DE6]) .leaf) 0x1F22D 0x1F22D (.sequence [0x4E2D])
  (.node .leaf 0x1F22E 0x1F22E (.sequence [0x53F3]) .leaf)) 0x1F22F 0x1F22F (.sequence
  [0x6307]) (.node (.node .leaf 0x1F230 0x1F230 (.sequence [0x8D70]) .leaf) 0x1F231 0x1F231
  (.sequence [0x6253]) (.node .leaf 0x1F232 0x1F232 (.sequence [0x7981]) .leaf))) 0x1F233
  0x1F233 (.sequence [0x7A7A]) (.node (.node (.node .leaf 0x1F234 0x1F234 (.sequence [0x5408])
  .leaf) 0x1F235 0x1F235 (.sequence [0x6E80]) (.node .leaf 0x1F236 0x1F236 (.sequence [0x6709])
  .leaf)) 0x1F237 0x1F237 (.sequence [0x6708]) (.node (.node .leaf 0x1F238 0x1F238 (.sequence
  [0x7533]) .leaf) 0x1F239 0x1F239 (.sequence [0x5272]) .leaf))) 0x1F23A 0x1F23A (.sequence
  [0x55B6]) (.node (.node (.node (.node .leaf 0x1F23B 0x1F23B (.sequence [0x914D]) .leaf)
  0x1F240 0x1F240 (.sequence [0x3014, 0x672C, 0x3015]) (.node .leaf 0x1F241 0x1F241 (.sequence
  [0x3014, 0x4E09, 0x3015]) .leaf)) 0x1F242 0x1F242 (.sequence [0x3014, 0x4E8C, 0x3015])
  (.node (.node .leaf 0x1F243 0x1F243 (.sequence [0x3014, 0x5B89, 0x3015]) .leaf) 0x1F244
  0x1F244 (.sequence [0x3014, 0x70B9, 0x3015]) .leaf)) 0x1F245 0x1F245 (.sequence
  [0x3014, 0x6253, 0x3015]) (.node (.node (.node .leaf 0x1F246 0x1F246 (.sequence
  [0x3014, 0x76D7, 0x3015]) .leaf) 0x1F247 0x1F247 (.sequence [0x3014, 0x52DD, 0x3015]) (.node
  .leaf 0x1F248 0x1F248 (.sequence [0x3014, 0x6557, 0x3015]) .leaf)) 0x1F250 0x1F250
  (.sequence [0x5F97]) (.node (.node .leaf 0x1F251 0x1F251 (.sequence [0x53EF]) .leaf) 0x1FBF0
  0x1FBF9 (.consecutive 0x30) .leaf)))))))

end StreamTable.Unicode
