import StreamTable.Unicode.Image

/-! The full compatibility decompositions of the symbol and punctuation blocks, U+2000 to U+30FF. -/

namespace StreamTable.Unicode

set_option maxRecDepth 100000 in
def symbolDecompositions : RangeMap Image :=
  .node (.node (.node (.node (.node (.node (.node (.node (.node (.node .leaf 0x2000 0x2000
  (.sequence [0x20]) .leaf) 0x2001 0x2001 (.sequence [0x20]) .leaf) 0x2002 0x2002 (.sequence
  [0x20]) (.node .leaf 0x2003 0x2003 (.sequence [0x20]) .leaf)) 0x2004 0x2004 (.sequence
  [0x20]) (.node (.node .leaf 0x2005 0x2005 (.sequence [0x20]) .leaf) 0x2006 0x2006 (.sequence
  [0x20]) (.node .leaf 0x2007 0x2007 (.sequence [0x20]) .leaf))) 0x2008 0x2008 (.sequence
  [0x20]) (.node (.node (.node (.node .leaf 0x2009 0x2009 (.sequence [0x20]) .leaf) 0x200A
  0x200A (.sequence [0x20]) .leaf) 0x2011 0x2011 (.sequence [0x2010]) (.node .leaf 0x2017
  0x2017 (.sequence [0x20, 0x333]) .leaf)) 0x2024 0x2024 (.sequence [0x2E]) (.node (.node
  .leaf 0x2025 0x2025 (.sequence [0x2E, 0x2E]) .leaf) 0x2026 0x2026 (.sequence
  [0x2E, 0x2E, 0x2E]) (.node .leaf 0x202F 0x202F (.sequence [0x20]) .leaf)))) 0x2033 0x2033
  (.sequence [0x2032, 0x2032]) (.node (.node (.node (.node (.node .leaf 0x2034 0x2034
  (.sequence [0x2032, 0x2032, 0x2032]) .leaf) 0x2036 0x2036 (.sequence [0x2035, 0x2035]) .leaf)
  0x2037 0x2037 (.sequence [0x2035, 0x2035, 0x2035]) (.node .leaf 0x203C 0x203C (.sequence
  [0x21, 0x21]) .leaf)) 0x203E 0x203E (.sequence [0x20, 0x305]) (.node (.node .leaf 0x2047
  0x2047 (.sequence [0x3F, 0x3F]) .leaf) 0x2048 0x2048 (.sequence [0x3F, 0x21]) (.node .leaf
  0x2049 0x2049 (.sequence [0x21, 0x3F]) .leaf))) 0x2057 0x2057 (.sequence
  [0x2032, 0x2032, 0x2032, 0x2032]) (.node (.node (.node (.node .leaf 0x205F 0x205F (.sequence
  [0x20]) .leaf) 0x2070 0x2070 (.sequence [0x30]) .leaf) 0x2071 0x2071 (.sequence [0x69])
  (.node .leaf 0x2074 0x2079 (.consecutive 0x34) .leaf)) 0x207A 0x207A (.sequence [0x2B])
  (.node (.node .leaf 0x207B 0x207B (.sequence [0x2212]) .leaf) 0x207C 0x207C (.sequence
  [0x3D]) (.node .leaf 0x207D 0x207E (.consecutive 0x28) .leaf))))) 0x207F 0x207F (.sequence
  [0x6E]) (.node (.node (.node (.node (.node (.node .leaf 0x2080 0x2089 (.consecutive 0x30)
  .leaf) 0x208A 0x208A (.sequence [0x2B]) .leaf) 0x208B 0x208B (.sequence [0x2212]) (.node
  .leaf 0x208C 0x208C (.sequence [0x3D]) .leaf)) 0x208D 0x208E (.consecutive 0x28) (.node
  (.node .leaf 0x2090 0x2090 (.sequence [0x61]) .leaf) 0x2091 0x2091 (.sequence [0x65]) (.node
  .leaf 0x2092 0x2092 (.sequence [0x6F]) .leaf))) 0x2093 0x2093 (.sequence [0x78]) (.node
  (.node (.node (.node .leaf 0x2094 0x2094 (.sequence [0x259]) .leaf) 0x2095 0x2095 (.sequence
  [0x68]) .leaf) 0x2096 0x2099 (.consecutive 0x6B) (.node .leaf 0x209A 0x209A (.sequence
  [0x70]) .leaf)) 0x209B 0x209C (.consecutive 0x73) (.node (.node .leaf 0x20A8 0x20A8
  (.sequence [0x52, 0x73]) .leaf) 0x2100 0x2100 (.sequence [0x61, 0x2F, 0x63]) (.node .leaf
  0x2101 0x2101 (.sequence [0x61, 0x2F, 0x73]) .leaf)))) 0x2102 0x2102 (.sequence [0x43])
  (.node (.node (.node (.node (.node .leaf 0x2103 0x2103 (.sequence [0xB0, 0x43]) .leaf)
  0x2105 0x2105 (.sequence [0x63, 0x2F, 0x6F]) .leaf) 0x2106 0x2106 (.sequence
  [0x63, 0x2F, 0x75]) (.node .leaf 0x2107 0x2107 (.sequence [0x190]) .leaf)) 0x2109 0x2109
  (.sequence [0xB0, 0x46]) (.node (.node .leaf 0x210A 0x210A (.sequence [0x67]) .leaf) 0x210B
  0x210B (.sequence [0x48]) (.node .leaf 0x210C 0x210C (.sequence [0x48]) .leaf))) 0x210D
  0x210D (.sequence [0x48]) (.node (.node (.node .leaf 0x210E 0x210E (.sequence [0x68]) .leaf)
  0x210F 0x210F (.sequence [0x127]) (.node .leaf 0x2110 0x2110 (.sequence [0x49]) .leaf))
  0x2111 0x2111 (.sequence [0x49]) (.node (.node .leaf 0x2112 0x2112 (.sequence [0x4C]) .leaf)
  0x2113 0x2113 (.sequence [0x6C]) (.node .leaf 0x2115 0x2115 (.sequence [0x4E]) .leaf))))))
  0x2116 0x2116 (.sequence [0x4E, 0x6F]) (.node (.node (.node (.node (.node (.node (.node
  .leaf 0x2119 0x211B (.consecutive 0x50) .leaf) 0x211C 0x211C (.sequence [0x52]) .leaf)
  0x211D 0x211D (.sequence [0x52]) (.node .leaf 0x2120 0x2120 (.sequence [0x53, 0x4D]) .leaf))
  0x2121 0x2121 (.sequence [0x54, 0x45, 0x4C]) (.node (.node .leaf 0x2122 0x2122 (.sequence
  [0x54, 0x4D]) .leaf) 0x2124 0x2124 (.sequence [0x5A]) (.node .leaf 0x2126 0x2126 (.sequence
  [0x3A9]) .leaf))) 0x2128 0x2128 (.sequence [0x5A]) (.node (.node (.node (.node .leaf 0x212A
  0x212A (.sequence [0x4B]) .leaf) 0x212B 0x212B (.sequence [0x41, 0x30A]) .leaf) 0x212C
  0x212D (.consecutive 0x42) (.node .leaf 0x212F 0x212F (.sequence [0x65]) .leaf)) 0x2130
  0x2131 (.consecutive 0x45) (.node (.node .leaf 0x2133 0x2133 (.sequence [0x4D]) .leaf)
  0x2134 0x2134 (.sequence [0x6F]) (.node .leaf 0x2135 0x2138 (.consecutive 0x5D0) .leaf))))
  0x2139 0x2139 (.sequence [0x69]) (.node (.node (.node (.node (.node .leaf 0x213B 0x213B
  (.sequence [0x46, 0x41, 0x58]) .leaf) 0x213C 0x213C (.sequence [0x3C0]) .leaf) 0x213D 0x213D
  (.sequence [0x3B3]) (.node .leaf 0x213E 0x213E (.sequence [0x393]) .leaf)) 0x213F 0x213F
  (.sequence [0x3A0]) (.node (.node .leaf 0x2140 0x2140 (.sequence [0x2211]) .leaf) 0x2145
  0x2145 (.sequence [0x44]) (.node .leaf 0x2146 0x2147 (.consecutive 0x64) .leaf))) 0x2148
  0x2149 (.consecutive 0x69) (.node (.node (.node (.node .leaf 0x2150 0x2150 (.sequence
  [0x31, 0x2044, 0x37]) .leaf) 0x2151 0x2151 (.sequence [0x31, 0x2044, 0x39]) .leaf) 0x2152
  0x2152 (.sequence [0x31, 0x2044, 0x31, 0x30]) (.node .leaf 0x2153 0x2153 (.sequence
  [0x31, 0x2044, 0x33]) .leaf)) 0x2154 0x2154 (.sequence [0x32, 0x2044, 0x33]) (.node (.node
  .leaf 0x2155 0x2155 (.sequence [0x31, 0x2044, 0x35]) .leaf) 0x2156 0x2156 (.sequence
  [0x32, 0x2044, 0x35]) (.node .leaf 0x2157 0x2157 (.sequence [0x33, 0x2044, 0x35]) .leaf)))))
  0x2158 0x2158 (.sequence [0x34, 0x2044, 0x35]) (.node (.node (.node (.node (.node (.node
  .leaf 0x2159 0x2159 (.sequence [0x31, 0x2044, 0x36]) .leaf) 0x215A 0x215A (.sequence
  [0x35, 0x2044, 0x36]) .leaf) 0x215B 0x215B (.sequence [0x31, 0x2044, 0x38]) (.node .leaf
  0x215C 0x215C (.sequence [0x33, 0x2044, 0x38]) .leaf)) 0x215D 0x215D (.sequence
  [0x35, 0x2044, 0x38]) (.node (.node .leaf 0x215E 0x215E (.sequence [0x37, 0x2044, 0x38])
  .leaf) 0x215F 0x215F (.sequence [0x31, 0x2044]) (.node .leaf 0x2160 0x2160 (.sequence [0x49])
  .leaf))) 0x2161 0x2161 (.sequence [0x49, 0x49]) (.node (.node (.node (.node .leaf 0x2162
  0x2162 (.sequence [0x49, 0x49, 0x49]) .leaf) 0x2163 0x2163 (.sequence [0x49, 0x56]) .leaf)
  0x2164 0x2164 (.sequence [0x56]) (.node .leaf 0x2165 0x2165 (.sequence [0x56, 0x49]) .leaf))
  0x2166 0x2166 (.sequence [0x56, 0x49, 0x49]) (.node (.node .leaf 0x2167 0x2167 (.sequence
  [0x56, 0x49, 0x49, 0x49]) .leaf) 0x2168 0x2168 (.sequence [0x49, 0x58]) (.node .leaf 0x2169
  0x2169 (.sequence [0x58]) .leaf)))) 0x216A 0x216A (.sequence [0x58, 0x49]) (.node (.node
  (.node (.node (.node .leaf 0x216B 0x216B (.sequence [0x58, 0x49, 0x49]) .leaf) 0x216C 0x216C
  (.sequence [0x4C]) .leaf) 0x216D 0x216E (.consecutive 0x43) (.node .leaf 0x216F 0x216F
  (.sequence [0x4D]) .leaf)) 0x2170 0x2170 (.sequence [0x69]) (.node (.node .leaf 0x2171
  0x2171 (.sequence [0x69, 0x69]) .leaf) 0x2172 0x2172 (.sequence [0x69, 0x69, 0x69]) (.node
  .leaf 0x2173 0x2173 (.sequence [0x69, 0x76]) .leaf))) 0x2174 0x2174 (.sequence [0x76])
  (.node (.node (.node .leaf 0x2175 0x2175 (.sequence [0x76, 0x69]) .leaf) 0x2176 0x2176
  (.sequence [0x76, 0x69, 0x69]) (.node .leaf 0x2177 0x2177 (.sequence
  [0x76, 0x69, 0x69, 0x69]) .leaf)) 0x2178 0x2178 (.sequence [0x69, 0x78]) (.node (.node .leaf
  0x2179 0x2179 (.sequence [0x78]) .leaf) 0x217A 0x217A (.sequence [0x78, 0x69]) (.node .leaf
  0x217B 0x217B (.sequence [0x78, 0x69, 0x69]) .leaf))))))) 0x217C 0x217C (.sequence [0x6C])
  (.node (.node (.node (.node (.node (.node (.node (.node .leaf 0x217D 0x217E (.consecutive
  0x63) .leaf) 0x217F 0x217F (.sequence [0x6D]) .leaf) 0x2189 0x2189 (.sequence
  [0x30, 0x2044, 0x33]) (.node .leaf 0x219A 0x219A (.sequence [0x2190, 0x338]) .leaf)) 0x219B
  0x219B (.sequence [0x2192, 0x338]) (.node (.node .leaf 0x21AE 0x21AE (.sequence
  [0x2194, 0x338]) .leaf) 0x21CD 0x21CD (.sequence [0x21D0, 0x338]) (.node .leaf 0x21CE 0x21CE
  (.sequence [0x21D4, 0x338]) .leaf))) 0x21CF 0x21CF (.sequence [0x21D2, 0x338]) (.node (.node
  (.node (.node .leaf 0x2204 0x2204 (.sequence [0x2203, 0x338]) .leaf) 0x2209 0x2209
  (.sequence [0x2208, 0x338]) .leaf) 0x220C 0x220C (.sequence [0x220B, 0x338]) (.node .leaf
  0x2224 0x2224 (.sequence [0x2223, 0x338]) .leaf)) 0x2226 0x2226 (.sequence [0x2225, 0x338])
  (.node (.node .leaf 0x222C 0x222C (.sequence [0x222B, 0x222B]) .leaf) 0x222D 0x222D
  (.sequence [0x222B, 0x222B, 0x222B]) (.node .leaf 0x222F 0x222F (.sequence [0x222E, 0x222E])
  .leaf)))) 0x2230 0x2230 (.sequence [0x222E, 0x222E, 0x222E]) (.node (.node (.node (.node
  (.node .leaf 0x2241 0x2241 (.sequence [0x223C, 0x338]) .leaf) 0x2244 0x2244 (.sequence
  [0x2243, 0x338]) .leaf) 0x2247 0x2247 (.sequence [0x2245, 0x338]) (.node .leaf 0x2249 0x2249
  (.sequence [0x2248, 0x338]) .leaf)) 0x2260 0x2260 (.sequence [0x3D, 0x338]) (.node (.node
  .leaf 0x2262 0x2262 (.sequence [0x2261, 0x338]) .leaf) 0x226D 0x226D (.sequence
  [0x224D, 0x338]) (.node .leaf 0x226E 0x226E (.sequence [0x3C, 0x338]) .leaf))) 0x226F 0x226F
  (.sequence [0x3E, 0x338]) (.node (.node (.node (.node .leaf 0x2270 0x2270 (.sequence
  [0x2264, 0x338]) .leaf) 0x2271 0x2271 (.sequence [0x2265, 0x338]) .leaf) 0x2274 0x2274
  (.sequence [0x2272, 0x338]) (.node .leaf 0x2275 0x2275 (.sequence [0x2273, 0x338]) .leaf))
  0x2278 0x2278 (.sequence [0x2276, 0x338]) (.node (.node .leaf 0x2279 0x2279 (.sequence
  [0x2277, 0x338]) .leaf) 0x2280 0x2280 (.sequence [0x227A, 0x338]) (.node .leaf 0x2281 0x2281
  (.sequence [0x227B, 0x338]) .leaf))))) 0x2284 0x2284 (.sequence [0x2282, 0x338]) (.node
  (.node (.node (.node (.node (.node .leaf 0x2285 0x2285 (.sequence [0x2283, 0x338]) .leaf)
  0x2288 0x2288 (.sequence [0x2286, 0x338]) .leaf) 0x2289 0x2289 (.sequence [0x2287, 0x338])
  (.node .leaf 0x22AC 0x22AC (.sequence [0x22A2, 0x338]) .leaf)) 0x22AD 0x22AD (.sequence
  [0x22A8, 0x338]) (.node (.node .leaf 0x22AE 0x22AE (.sequence [0x22A9, 0x338]) .leaf) 0x22AF
  0x22AF (.sequence [0x22AB, 0x338]) (.node .leaf 0x22E0 0x22E0 (.sequence [0x227C, 0x338])
  .leaf))) 0x22E1 0x22E1 (.sequence [0x227D, 0x338]) (.node (.node (.node (.node .leaf 0x22E2
  0x22E2 (.sequence [0x2291, 0x338]) .leaf) 0x22E3 0x22E3 (.sequence [0x2292, 0x338]) .leaf)
  0x22EA 0x22EA (.sequence [0x22B2, 0x338]) (.node .leaf 0x22EB 0x22EB (.sequence
  [0x22B3, 0x338]) .leaf)) 0x22EC 0x22EC (.sequence [0x22B4, 0x338]) (.node (.node .leaf
  0x22ED 0x22ED (.sequence [0x22B5, 0x338]) .leaf) 0x2329 0x232A (.consecutive 0x3008) (.node
  .leaf 0x2460 0x2468 (.consecutive 0x31) .leaf)))) 0x2469 0x2469 (.sequence [0x31, 0x30])
  (.node (.node (.node (.node (.node .leaf 0x246A 0x246A (.sequence [0x31, 0x31]) .leaf)
  0x246B 0x246B (.sequence [0x31, 0x32]) .leaf) 0x246C 0x246C (.sequence [0x31, 0x33]) (.node
  .leaf 0x246D 0x246D (.sequence [0x31, 0x34]) .leaf)) 0x246E 0x246E (.sequence [0x31, 0x35])
  (.node (.node .leaf 0x246F 0x246F (.sequence [0x31, 0x36]) .leaf) 0x2470 0x2470 (.sequence
  [0x31, 0x37]) (.node .leaf 0x2471 0x2471 (.sequence [0x31, 0x38]) .leaf))) 0x2472 0x2472
  (.sequence [0x31, 0x39]) (.node (.node (.node .leaf 0x2473 0x2473 (.sequence [0x32, 0x30])
  .leaf) 0x2474 0x2474 (.sequence [0x28, 0x31, 0x29]) (.node .leaf 0x2475 0x2475 (.sequence
  [0x28, 0x32, 0x29]) .leaf)) 0x2476 0x2476 (.sequence [0x28, 0x33, 0x29]) (.node (.node .leaf
  0x2477 0x2477 (.sequence [0x28, 0x34, 0x29]) .leaf) 0x2478 0x2478 (.sequence
  [0x28, 0x35, 0x29]) (.node .leaf 0x2479 0x2479 (.sequence [0x28, 0x36, 0x29]) .leaf))))))
  0x247A 0x247A (.sequence [0x28, 0x37, 0x29]) (.node (.node (.node (.node (.node (.node
  (.node .leaf 0x247B 0x247B (.sequence [0x28, 0x38, 0x29]) .leaf) 0x247C 0x247C (.sequence
  [0x28, 0x39, 0x29]) .leaf) 0x247D 0x247D (.sequence [0x28, 0x31, 0x30, 0x29]) (.node .leaf
  0x247E 0x247E (.sequence [0x28, 0x31, 0x31, 0x29]) .leaf)) 0x247F 0x247F (.sequence
  [0x28, 0x31, 0x32, 0x29]) (.node (.node .leaf 0x2480 0x2480 (.sequence
  [0x28, 0x31, 0x33, 0x29]) .leaf) 0x2481 0x2481 (.sequence [0x28, 0x31, 0x34, 0x29]) (.node
  .leaf 0x2482 0x2482 (.sequence [0x28, 0x31, 0x35, 0x29]) .leaf))) 0x2483 0x2483 (.sequence
  [0x28, 0x31, 0x36, 0x29]) (.node (.node (.node (.node .leaf 0x2484 0x2484 (.sequence
  [0x28, 0x31, 0x37, 0x29]) .leaf) 0x2485 0x2485 (.sequence [0x28, 0x31, 0x38, 0x29]) .leaf)
  0x2486 0x2486 (.sequence [0x28, 0x31, 0x39, 0x29]) (.node .leaf 0x2487 0x2487 (.sequence
  [0x28, 0x32, 0x30, 0x29]) .leaf)) 0x2488 0x2488 (.sequence [0x31, 0x2E]) (.node (.node .leaf
  0x2489 0x2489 (.sequence [0x32, 0x2E]) .leaf) 0x248A 0x248A (.sequence [0x33, 0x2E]) (.node
  .leaf 0x248B 0x248B (.sequence [0x34, 0x2E]) .leaf)))) 0x248C 0x248C (.sequence [0x35, 0x2E])
  (.node (.node (.node (.node (.node .leaf 0x248D 0x248D (.sequence [0x36, 0x2E]) .leaf)
  0x248E 0x248E (.sequence [0x37, 0x2E]) .leaf) 0x248F 0x248F (.sequence [0x38, 0x2E]) (.node
  .leaf 0x2490 0x2490 (.sequence [0x39, 0x2E]) .leaf)) 0x2491 0x2491 (.sequence
  [0x31, 0x30, 0x2E]) (.node (.node .leaf 0x2492 0x2492 (.sequence [0x31, 0x31, 0x2E]) .leaf)
  0x2493 0x2493 (.sequence [0x31, 0x32, 0x2E]) (.node .leaf 0x2494 0x2494 (.sequence
  [0x31, 0x33, 0x2E]) .leaf))) 0x2495 0x2495 (.sequence [0x31, 0x34, 0x2E]) (.node (.node
  (.node .leaf 0x2496 0x2496 (.sequence [0x31, 0x35, 0x2E]) .leaf) 0x2497 0x2497 (.sequence
  [0x31, 0x36, 0x2E]) (.node .leaf 0x2498 0x2498 (.sequence [0x31, 0x37, 0x2E]) .leaf)) 0x2499
  0x2499 (.sequence [0x31, 0x38, 0x2E]) (.node (.node .leaf 0x249A 0x249A (.sequence
  [0x31, 0x39, 0x2E]) .leaf) 0x249B 0x249B (.sequence [0x32, 0x30, 0x2E]) (.node .leaf 0x249C
  0x249C (.sequence [0x28, 0x61, 0x29]) .leaf))))) 0x249D 0x249D (.sequence [0x28, 0x62, 0x29])
  (.node (.node (.node (.node (.node (.node .leaf 0x249E 0x249E (.sequence [0x28, 0x63, 0x29])
  .leaf) 0x249F 0x249F (.sequence [0x28, 0x64, 0x29]) .leaf) 0x24A0 0x24A0 (.sequence
  [0x28, 0x65, 0x29]) (.node .leaf 0x24A1 0x24A1 (.sequence [0x28, 0x66, 0x29]) .leaf)) 0x24A2
  0x24A2 (.sequence [0x28, 0x67, 0x29]) (.node (.node .leaf 0x24A3 0x24A3 (.sequence
  [0x28, 0x68, 0x29]) .leaf) 0x24A4 0x24A4 (.sequence [0x28, 0x69, 0x29]) (.node .leaf 0x24A5
  0x24A5 (.sequence [0x28, 0x6A, 0x29]) .leaf))) 0x24A6 0x24A6 (.sequence [0x28, 0x6B, 0x29])
  (.node (.node (.node (.node .leaf 0x24A7 0x24A7 (.sequence [0x28, 0x6C, 0x29]) .leaf) 0x24A8
  0x24A8 (.sequence [0x28, 0x6D, 0x29]) .leaf) 0x24A9 0x24A9 (.sequence [0x28, 0x6E, 0x29])
  (.node .leaf 0x24AA 0x24AA (.sequence [0x28, 0x6F, 0x29]) .leaf)) 0x24AB 0x24AB (.sequence
  [0x28, 0x70, 0x29]) (.node (.node .leaf 0x24AC 0x24AC (.sequence [0x28, 0x71, 0x29]) .leaf)
  0x24AD 0x24AD (.sequence [0x28, 0x72, 0x29]) (.node .leaf 0x24AE 0x24AE (.sequence
  [0x28, 0x73, 0x29]) .leaf)))) 0x24AF 0x24AF (.sequence [0x28, 0x74, 0x29]) (.node (.node
  (.node (.node (.node .leaf 0x24B0 0x24B0 (.sequence [0x28, 0x75, 0x29]) .leaf) 0x24B1 0x24B1
  (.sequence [0x28, 0x76, 0x29]) .leaf) 0x24B2 0x24B2 (.sequence [0x28, 0x77, 0x29]) (.node
  .leaf 0x24B3 0x24B3 (.sequence [0x28, 0x78, 0x29]) .leaf)) 0x24B4 0x24B4 (.sequence
  [0x28, 0x79, 0x29]) (.node (.node .leaf 0x24B5 0x24B5 (.sequence [0x28, 0x7A, 0x29]) .leaf)
  0x24B6 0x24CF (.consecutive 0x41) (.node .leaf 0x24D0 0x24E9 (.consecutive 0x61) .leaf)))
  0x24EA 0x24EA (.sequence [0x30]) (.node (.node (.node .leaf 0x2A0C 0x2A0C (.sequence
  [0x222B, 0x222B, 0x222B, 0x222B]) .leaf) 0x2A74 0x2A74 (.sequence [0x3A, 0x3A, 0x3D]) (.node
  .leaf 0x2A75 0x2A75 (.sequence [0x3D, 0x3D]) .leaf)) 0x2A76 0x2A76 (.sequence
  [0x3D, 0x3D, 0x3D]) (.node (.node .leaf 0x2ADC 0x2ADC (.sequence [0x2ADD, 0x338]) .leaf)
  0x2C7C 0x2C7C (.sequence [0x6A]) (.node .leaf 0x2C7D 0x2C7D (.sequence [0x56]) .leaf))))))))
  0x2D6F 0x2D6F (.sequence [0x2D61]) (.node (.node (.node (.node (.node (.node (.node (.node
  (.node .leaf 0x2E9F 0x2E9F (.sequence [0x6BCD]) .leaf) 0x2EF3 0x2EF3 (.sequence [0x9F9F])
  .leaf) 0x2F00 0x2F00 (.sequence [0x4E00]) (.node .leaf 0x2F01 0x2F01 (.sequence [0x4E28])
  .leaf)) 0x2F02 0x2F02 (.sequence [0x4E36]) (.node (.node .leaf 0x2F03 0x2F03 (.sequence
  [0x4E3F]) .leaf) 0x2F04 0x2F04 (.sequence [0x4E59]) (.node .leaf 0x2F05 0x2F05 (.sequence
  [0x4E85]) .leaf))) 0x2F06 0x2F06 (.sequence [0x4E8C]) (.node (.node (.node (.node .leaf
  0x2F07 0x2F07 (.sequence [0x4EA0]) .leaf) 0x2F08 0x2F08 (.sequence [0x4EBA]) .leaf) 0x2F09
  0x2F09 (.sequence [0x513F]) (.node .leaf 0x2F0A 0x2F0A (.sequence [0x5165]) .leaf)) 0x2F0B
  0x2F0B (.sequence [0x516B]) (.node (.node .leaf 0x2F0C 0x2F0C (.sequence [0x5182]) .leaf)
  0x2F0D 0x2F0D (.sequence [0x5196]) (.node .leaf 0x2F0E 0x2F0E (.sequence [0x51AB]) .leaf))))
  0x2F0F 0x2F0F (.sequence [0x51E0]) (.node (.node (.node (.node (.node .leaf 0x2F10 0x2F10
  (.sequence [0x51F5]) .leaf) 0x2F11 0x2F11 (.sequence [0x5200]) .leaf) 0x2F12 0x2F12
  (.sequence [0x529B]) (.node .leaf 0x2F13 0x2F13 (.sequence [0x52F9]) .leaf)) 0x2F14 0x2F14
  (.sequence [0x5315]) (.node (.node .leaf 0x2F15 0x2F15 (.sequence [0x531A]) .leaf) 0x2F16
  0x2F16 (.sequence [0x5338]) (.node .leaf 0x2F17 0x2F17 (.sequence [0x5341]) .leaf))) 0x2F18
  0x2F18 (.sequence [0x535C]) (.node (.node (.node (.node .leaf 0x2F19 0x2F19 (.sequence
  [0x5369]) .leaf) 0x2F1A 0x2F1A (.sequence [0x5382]) .leaf) 0x2F1B 0x2F1B (.sequence [0x53B6])
  (.node .leaf 0x2F1C 0x2F1C (.sequence [0x53C8]) .leaf)) 0x2F1D 0x2F1D (.sequence [0x53E3])
  (.node (.node .leaf 0x2F1E 0x2F1E (.sequence [0x56D7]) .leaf) 0x2F1F 0x2F1F (.sequence
  [0x571F]) (.node .leaf 0x2F20 0x2F20 (.sequence [0x58EB]) .leaf))))) 0x2F21 0x2F21
  (.sequence [0x5902]) (.node (.node (.node (.node (.node (.node .leaf 0x2F22 0x2F22
  (.sequence [0x590A]) .leaf) 0x2F23 0x2F23 (.sequence [0x5915]) .leaf) 0x2F24 0x2F24
  (.sequence [0x5927]) (.node .leaf 0x2F25 0x2F25 (.sequence [0x5973]) .leaf)) 0x2F26 0x2F26
  (.sequence [0x5B50]) (.node (.node .leaf 0x2F27 0x2F27 (.sequence [0x5B80]) .leaf) 0x2F28
  0x2F28 (.sequence [0x5BF8]) (.node .leaf 0x2F29 0x2F29 (.sequence [0x5C0F]) .leaf))) 0x2F2A
  0x2F2A (.sequence [0x5C22]) (.node (.node (.node (.node .leaf 0x2F2B 0x2F2B (.sequence
  [0x5C38]) .leaf) 0x2F2C 0x2F2C (.sequence [0x5C6E]) .leaf) 0x2F2D 0x2F2D (.sequence [0x5C71])
  (.node .leaf 0x2F2E 0x2F2E (.sequence [0x5DDB]) .leaf)) 0x2F2F 0x2F2F (.sequence [0x5DE5])
  (.node (.node .leaf 0x2F30 0x2F30 (.sequence [0x5DF1]) .leaf) 0x2F31 0x2F31 (.sequence
  [0x5DFE]) (.node .leaf 0x2F32 0x2F32 (.sequence [0x5E72]) .leaf)))) 0x2F33 0x2F33 (.sequence
  [0x5E7A]) (.node (.node (.node (.node (.node .leaf 0x2F34 0x2F34 (.sequence [0x5E7F]) .leaf)
  0x2F35 0x2F35 (.sequence [0x5EF4]) .leaf) 0x2F36 0x2F36 (.sequence [0x5EFE]) (.node .leaf
  0x2F37 0x2F37 (.sequence [0x5F0B]) .leaf)) 0x2F38 0x2F38 (.sequence [0x5F13]) (.node (.node
  .leaf 0x2F39 0x2F39 (.sequence [0x5F50]) .leaf) 0x2F3A 0x2F3A (.sequence [0x5F61]) (.node
  .leaf 0x2F3B 0x2F3B (.sequence [0x5F73]) .leaf))) 0x2F3C 0x2F3C (.sequence [0x5FC3]) (.node
  (.node (.node .leaf 0x2F3D 0x2F3D (.sequence [0x6208]) .leaf) 0x2F3E 0x2F3E (.sequence
  [0x6236]) (.node .leaf 0x2F3F 0x2F3F (.sequence [0x624B]) .leaf)) 0x2F40 0x2F40 (.sequence
  [0x652F]) (.node (.node .leaf 0x2F41 0x2F41 (.sequence [0x6534]) .leaf) 0x2F42 0x2F42
  (.sequence [0x6587]) (.node .leaf 0x2F43 0x2F43 (.sequence [0x6597]) .leaf)))))) 0x2F44
  0x2F44 (.sequence [0x65A4]) (.node (.node (.node (.node (.node (.node (.node .leaf 0x2F45
  0x2F45 (.sequence [0x65B9]) .leaf) 0x2F46 0x2F46 (.sequence [0x65E0]) .leaf) 0x2F47 0x2F47
  (.sequence [0x65E5]) (.node .leaf 0x2F48 0x2F48 (.sequence [0x66F0]) .leaf)) 0x2F49 0x2F49
  (.sequence [0x6708]) (.node (.node .leaf 0x2F4A 0x2F4A (.sequence [0x6728]) .leaf) 0x2F4B
  0x2F4B (.sequence [0x6B20]) (.node .leaf 0x2F4C 0x2F4C (.sequence [0x6B62]) .leaf))) 0x2F4D
  0x2F4D (.sequence [0x6B79]) (.node (.node (.node (.node .leaf 0x2F4E 0x2F4E (.sequence
  [0x6BB3]) .leaf) 0x2F4F 0x2F4F (.sequence [0x6BCB]) .leaf) 0x2F50 0x2F50 (.sequence [0x6BD4])
  (.node .leaf 0x2F51 0x2F51 (.sequence [0x6BDB]) .leaf)) 0x2F52 0x2F52 (.sequence [0x6C0F])
  (.node (.node .leaf 0x2F53 0x2F53 (.sequence [0x6C14]) .leaf) 0x2F54 0x2F54 (.sequence
  [0x6C34]) (.node .leaf 0x2F55 0x2F55 (.sequence [0x706B]) .leaf)))) 0x2F56 0x2F56 (.sequence
  [0x722A]) (.node (.node (.node (.node (.node .leaf 0x2F57 0x2F57 (.sequence [0x7236]) .leaf)
  0x2F58 0x2F58 (.sequence [0x723B]) .leaf) 0x2F59 0x2F59 (.sequence [0x723F]) (.node .leaf
  0x2F5A 0x2F5A (.sequence [0x7247]) .leaf)) 0x2F5B 0x2F5B (.sequence [0x7259]) (.node (.node
  .leaf 0x2F5C 0x2F5C (.sequence [0x725B]) .leaf) 0x2F5D 0x2F5D (.sequence [0x72AC]) (.node
  .leaf 0x2F5E 0x2F5E (.sequence [0x7384]) .leaf))) 0x2F5F 0x2F5F (.sequence [0x7389]) (.node
  (.node (.node (.node .leaf 0x2F60 0x2F60 (.sequence [0x74DC]) .leaf) 0x2F61 0x2F61
  (.sequence [0x74E6]) .leaf) 0x2F62 0x2F62 (.sequence [0x7518]) (.node .leaf 0x2F63 0x2F63
  (.sequence [0x751F]) .leaf)) 0x2F64 0x2F64 (.sequence [0x7528]) (.node (.node .leaf 0x2F65
  0x2F65 (.sequence [0x7530]) .leaf) 0x2F66 0x2F66 (.sequence [0x758B]) (.node .leaf 0x2F67
  0x2F67 (.sequence [0x7592]) .leaf))))) 0x2F68 0x2F68 (.sequence [0x7676]) (.node (.node
  (.node (.node (.node (.node .leaf 0x2F69 0x2F69 (.sequence [0x767D]) .leaf) 0x2F6A 0x2F6A
  (.sequence [0x76AE]) .leaf) 0x2F6B 0x2F6B (.sequence [0x76BF]) (.node .leaf 0x2F6C 0x2F6C
  (.sequence [0x76EE]) .leaf)) 0x2F6D 0x2F6D (.sequence [0x77DB]) (.node (.node .leaf 0x2F6E
  0x2F6E (.sequence [0x77E2]) .leaf) 0x2F6F 0x2F6F (.sequence [0x77F3]) (.node .leaf 0x2F70
  0x2F70 (.sequence [0x793A]) .leaf))) 0x2F71 0x2F71 (.sequence [0x79B8]) (.node (.node (.node
  (.node .leaf 0x2F72 0x2F72 (.sequence [0x79BE]) .leaf) 0x2F73 0x2F73 (.sequence [0x7A74])
  .leaf) 0x2F74 0x2F74 (.sequence [0x7ACB]) (.node .leaf 0x2F75 0x2F75 (.sequence [0x7AF9])
  .leaf)) 0x2F76 0x2F76 (.sequence [0x7C73]) (.node (.node .leaf 0x2F77 0x2F77 (.sequence
  [0x7CF8]) .leaf) 0x2F78 0x2F78 (.sequence [0x7F36]) (.node .leaf 0x2F79 0x2F79 (.sequence
  [0x7F51]) .leaf)))) 0x2F7A 0x2F7A (.sequence [0x7F8A]) (.node (.node (.node (.node (.node
  .leaf 0x2F7B 0x2F7B (.sequence [0x7FBD]) .leaf) 0x2F7C 0x2F7C (.sequence [0x8001]) .leaf)
  0x2F7D 0x2F7D (.sequence [0x800C]) (.node .leaf 0x2F7E 0x2F7E (.sequence [0x8012]) .leaf))
  0x2F7F 0x2F7F (.sequence [0x8033]) (.node (.node .leaf 0x2F80 0x2F80 (.sequence [0x807F])
  .leaf) 0x2F81 0x2F81 (.sequence [0x8089]) (.node .leaf 0x2F82 0x2F82 (.sequence [0x81E3])
  .leaf))) 0x2F83 0x2F83 (.sequence [0x81EA]) (.node (.node (.node .leaf 0x2F84 0x2F84
  (.sequence [0x81F3]) .leaf) 0x2F85 0x2F85 (.sequence [0x81FC]) (.node .leaf 0x2F86 0x2F86
  (.sequence [0x820C]) .leaf)) 0x2F87 0x2F87 (.sequence [0x821B]) (.node (.node .leaf 0x2F88
  0x2F88 (.sequence [0x821F]) .leaf) 0x2F89 0x2F89 (.sequence [0x826E]) (.node .leaf 0x2F8A
  0x2F8A (.sequence [0x8272]) .leaf))))))) 0x2F8B 0x2F8B (.sequence [0x8278]) (.node (.node
  (.node (.node (.node (.node (.node (.node .leaf 0x2F8C 0x2F8C (.sequence [0x864D]) .leaf)
  0x2F8D 0x2F8D (.sequence [0x866B]) .leaf) 0x2F8E 0x2F8E (.sequence [0x8840]) (.node .leaf
  0x2F8F 0x2F8F (.sequence [0x884C]) .leaf)) 0x2F90 0x2F90 (.sequence [0x8863]) (.node (.node
  .leaf 0x2F91 0x2F91 (.sequence [0x897E]) .leaf) 0x2F92 0x2F92 (.sequence [0x898B]) (.node
  .leaf 0x2F93 0x2F93 (.sequence [0x89D2]) .leaf))) 0x2F94 0x2F94 (.sequence [0x8A00]) (.node
  (.node (.node (.node .leaf 0x2F95 0x2F95 (.sequence [0x8C37]) .leaf) 0x2F96 0x2F96
  (.sequence [0x8C46]) .leaf) 0x2F97 0x2F97 (.sequence [0x8C55]) (.node .leaf 0x2F98 0x2F98
  (.sequence [0x8C78]) .leaf)) 0x2F99 0x2F99 (.sequence [0x8C9D]) (.node (.node .leaf 0x2F9A
  0x2F9A (.sequence [0x8D64]) .leaf) 0x2F9B 0x2F9B (.sequence [0x8D70]) (.node .leaf 0x2F9C
  0x2F9C (.sequence [0x8DB3]) .leaf)))) 0x2F9D 0x2F9D (.sequence [0x8EAB]) (.node (.node
  (.node (.node (.node .leaf 0x2F9E 0x2F9E (.sequence [0x8ECA]) .leaf) 0x2F9F 0x2F9F
  (.sequence [0x8F9B]) .leaf) 0x2FA0 0x2FA0 (.sequence [0x8FB0]) (.node .leaf 0x2FA1 0x2FA1
  (.sequence [0x8FB5]) .leaf)) 0x2FA2 0x2FA2 (.sequence [0x9091]) (.node (.node .leaf 0x2FA3
  0x2FA3 (.sequence [0x9149]) .leaf) 0x2FA4 0x2FA4 (.sequence [0x91C6]) (.node .leaf 0x2FA5
  0x2FA5 (.sequence [0x91CC]) .leaf))) 0x2FA6 0x2FA6 (.sequence [0x91D1]) (.node (.node (.node
  (.node .leaf 0x2FA7 0x2FA7 (.sequence [0x9577]) .leaf) 0x2FA8 0x2FA8 (.sequence [0x9580])
  .leaf) 0x2FA9 0x2FA9 (.sequence [0x961C]) (.node .leaf 0x2FAA 0x2FAA (.sequence [0x96B6])
  .leaf)) 0x2FAB 0x2FAB (.sequence [0x96B9]) (.node (.node .leaf 0x2FAC 0x2FAC (.sequence
  [0x96E8]) .leaf) 0x2FAD 0x2FAD (.sequence [0x9751]) (.node .leaf 0x2FAE 0x2FAE (.sequence
  [0x975E]) .leaf))))) 0x2FAF 0x2FAF (.sequence [0x9762]) (.node (.node (.node (.node (.node
  (.node .leaf 0x2FB0 0x2FB0 (.sequence [0x9769]) .leaf) 0x2FB1 0x2FB1 (.sequence [0x97CB])
  .leaf) 0x2FB2 0x2FB2 (.sequence [0x97ED]) (.node .leaf 0x2FB3 0x2FB3 (.sequence [0x97F3])
  .leaf)) 0x2FB4 0x2FB4 (.sequence [0x9801]) (.node (.node .leaf 0x2FB5 0x2FB5 (.sequence
  [0x98A8]) .leaf) 0x2FB6 0x2FB6 (.sequence [0x98DB]) (.node .leaf 0x2FB7 0x2FB7 (.sequence
  [0x98DF]) .leaf))) 0x2FB8 0x2FB8 (.sequence [0x9996]) (.node (.node (.node (.node .leaf
  0x2FB9 0x2FB9 (.sequence [0x9999]) .leaf) 0x2FBA 0x2FBA (.sequence [0x99AC]) .leaf) 0x2FBB
  0x2FBB (.sequence [0x9AA8]) (.node .leaf 0x2FBC 0x2FBC (.sequence [0x9AD8]) .leaf)) 0x2FBD
  0x2FBD (.sequence [0x9ADF]) (.node (.node .leaf 0x2FBE 0x2FBE (.sequence [0x9B25]) .leaf)
  0x2FBF 0x2FBF (.sequence [0x9B2F]) (.node .leaf 0x2FC0 0x2FC0 (.sequence [0x9B32]) .leaf))))
  0x2FC1 0x2FC1 (.sequence [0x9B3C]) (.node (.node (.node (.node (.node .leaf 0x2FC2 0x2FC2
  (.sequence [0x9B5A]) .leaf) 0x2FC3 0x2FC3 (.sequence [0x9CE5]) .leaf) 0x2FC4 0x2FC4
  (.sequence [0x9E75]) (.node .leaf 0x2FC5 0x2FC5 (.sequence [0x9E7F]) .leaf)) 0x2FC6 0x2FC6
  (.sequence [0x9EA5]) (.node (.node .leaf 0x2FC7 0x2FC7 (.sequence [0x9EBB]) .leaf) 0x2FC8
  0x2FC8 (.sequence [0x9EC3]) (.node .leaf 0x2FC9 0x2FC9 (.sequence [0x9ECD]) .leaf))) 0x2FCA
  0x2FCA (.sequence [0x9ED1]) (.node (.node (.node .leaf 0x2FCB 0x2FCB (.sequence [0x9EF9])
  .leaf) 0x2FCC 0x2FCC (.sequence [0x9EFD]) (.node .leaf 0x2FCD 0x2FCD (.sequence [0x9F0E])
  .leaf)) 0x2FCE 0x2FCE (.sequence [0x9F13]) (.node (.node .leaf 0x2FCF 0x2FCF (.sequence
  [0x9F20]) .leaf) 0x2FD0 0x2FD0 (.sequence [0x9F3B]) (.node .leaf 0x2FD1 0x2FD1 (.sequence
  [0x9F4A]) .leaf)))))) 0x2FD2 0x2FD2 (.sequence [0x9F52]) (.node (.node (.node (.node (.node
  (.node (.node .leaf 0x2FD3 0x2FD3 (.sequence [0x9F8D]) .leaf) 0x2FD4 0x2FD4 (.sequence
  [0x9F9C]) .leaf) 0x2FD5 0x2FD5 (.sequence [0x9FA0]) (.node .leaf 0x3000 0x3000 (.sequence
  [0x20]) .leaf)) 0x3036 0x3036 (.sequence [0x3012]) (.node (.node .leaf 0x3038 0x3038
  (.sequence [0x5341]) .leaf) 0x3039 0x303A (.consecutive 0x5344) (.node .leaf 0x304C 0x304C
  (.sequence [0x304B, 0x3099]) .leaf))) 0x304E 0x304E (.sequence [0x304D, 0x3099]) (.node
  (.node (.node (.node .leaf 0x3050 0x3050 (.sequence [0x304F, 0x3099]) .leaf) 0x3052 0x3052
  (.sequence [0x3051, 0x3099]) .leaf) 0x3054 0x3054 (.sequence [0x3053, 0x3099]) (.node .leaf
  0x3056 0x3056 (.sequence [0x3055, 0x3099]) .leaf)) 0x3058 0x3058 (.sequence [0x3057, 0x3099])
  (.node (.node .leaf 0x305A 0x305A (.sequence [0x3059, 0x3099]) .leaf) 0x305C 0x305C
  (.sequence [0x305B, 0x3099]) (.node .leaf 0x305E 0x305E (.sequence [0x305D, 0x3099]) .leaf))))
  0x3060 0x3060 (.sequence [0x305F, 0x3099]) (.node (.node (.node (.node (.node .leaf 0x3062
  0x3062 (.sequence [0x3061, 0x3099]) .leaf) 0x3065 0x3065 (.sequence [0x3064, 0x3099]) .leaf)
  0x3067 0x3067 (.sequence [0x3066, 0x3099]) (.node .leaf 0x3069 0x3069 (.sequence
  [0x3068, 0x3099]) .leaf)) 0x3070 0x3070 (.sequence [0x306F, 0x3099]) (.node (.node .leaf
  0x3071 0x3071 (.sequence [0x306F, 0x309A]) .leaf) 0x3073 0x3073 (.sequence [0x3072, 0x3099])
  (.node .leaf 0x3074 0x3074 (.sequence [0x3072, 0x309A]) .leaf))) 0x3076 0x3076 (.sequence
  [0x3075, 0x3099]) (.node (.node (.node .leaf 0x3077 0x3077 (.sequence [0x3075, 0x309A])
  .leaf) 0x3079 0x3079 (.sequence [0x3078, 0x3099]) (.node .leaf 0x307A 0x307A (.sequence
  [0x3078, 0x309A]) .leaf)) 0x307C 0x307C (.sequence [0x307B, 0x3099]) (.node (.node .leaf
  0x307D 0x307D (.sequence [0x307B, 0x309A]) .leaf) 0x3094 0x3094 (.sequence [0x3046, 0x3099])
  (.node .leaf 0x309B 0x309B (.sequence [0x20, 0x3099]) .leaf))))) 0x309C 0x309C (.sequence
  [0x20, 0x309A]) (.node (.node (.node (.node (.node (.node .leaf 0x309E 0x309E (.sequence
  [0x309D, 0x3099]) .leaf) 0x309F 0x309F (.sequence [0x3088, 0x308A]) .leaf) 0x30AC 0x30AC
  (.sequence [0x30AB, 0x3099]) (.node .leaf 0x30AE 0x30AE (.sequence [0x30AD, 0x3099]) .leaf))
  0x30B0 0x30B0 (.sequence [0x30AF, 0x3099]) (.node (.node .leaf 0x30B2 0x30B2 (.sequence
  [0x30B1, 0x3099]) .leaf) 0x30B4 0x30B4 (.sequence [0x30B3, 0x3099]) (.node .leaf 0x30B6
  0x30B6 (.sequence [0x30B5, 0x3099]) .leaf))) 0x30B8 0x30B8 (.sequence [0x30B7, 0x3099])
  (.node (.node (.node (.node .leaf 0x30BA 0x30BA (.sequence [0x30B9, 0x3099]) .leaf) 0x30BC
  0x30BC (.sequence [0x30BB, 0x3099]) .leaf) 0x30BE 0x30BE (.sequence [0x30BD, 0x3099]) (.node
  .leaf 0x30C0 0x30C0 (.sequence [0x30BF, 0x3099]) .leaf)) 0x30C2 0x30C2 (.sequence
  [0x30C1, 0x3099]) (.node (.node .leaf 0x30C5 0x30C5 (.sequence [0x30C4, 0x3099]) .leaf)
  0x30C7 0x30C7 (.sequence [0x30C6, 0x3099]) (.node .leaf 0x30C9 0x30C9 (.sequence
  [0x30C8, 0x3099]) .leaf)))) 0x30D0 0x30D0 (.sequence [0x30CF, 0x3099]) (.node (.node (.node
  (.node (.node .leaf 0x30D1 0x30D1 (.sequence [0x30CF, 0x309A]) .leaf) 0x30D3 0x30D3
  (.sequence [0x30D2, 0x3099]) .leaf) 0x30D4 0x30D4 (.sequence [0x30D2, 0x309A]) (.node .leaf
  0x30D6 0x30D6 (.sequence [0x30D5, 0x3099]) .leaf)) 0x30D7 0x30D7 (.sequence [0x30D5, 0x309A])
  (.node (.node .leaf 0x30D9 0x30D9 (.sequence [0x30D8, 0x3099]) .leaf) 0x30DA 0x30DA
  (.sequence [0x30D8, 0x309A]) (.node .leaf 0x30DC 0x30DC (.sequence [0x30DB, 0x3099]) .leaf)))
  0x30DD 0x30DD (.sequence [0x30DB, 0x309A]) (.node (.node (.node .leaf 0x30F4 0x30F4
  (.sequence [0x30A6, 0x3099]) .leaf) 0x30F7 0x30F7 (.sequence [0x30EF, 0x3099]) (.node .leaf
  0x30F8 0x30F8 (.sequence [0x30F0, 0x3099]) .leaf)) 0x30F9 0x30F9 (.sequence [0x30F1, 0x3099])
  (.node (.node .leaf 0x30FA 0x30FA (.sequence [0x30F2, 0x3099]) .leaf) 0x30FE 0x30FE
  (.sequence [0x30FD, 0x3099]) (.node .leaf 0x30FF 0x30FF (.sequence [0x30B3, 0x30C8]) .leaf))))))))

end StreamTable.Unicode
