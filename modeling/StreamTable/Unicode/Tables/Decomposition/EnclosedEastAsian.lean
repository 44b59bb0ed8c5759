import StreamTable.Unicode.Image

/-! The full compatibility decompositions of the East Asian letters, enclosed forms and units, U+3100 to U+F8FF. -/

namespace StreamTable.Unicode

set_option maxRecDepth 100000 in
def enclosedDecompositions : RangeMap Image :=
  .node (.node (.node (.node (.node (.node (.node (.node (.node (.node .leaf 0x3131 0x3132
  (.consecutive 0x1100) .leaf) 0x3133 0x3133 (.sequence [0x11AA]) .leaf) 0x3134 0x3134
  (.sequence [0x1102]) (.node .leaf 0x3135 0x3136 (.consecutive 0x11AC) .leaf)) 0x3137 0x3139
  (.consecutive 0x1103) (.node (.node .leaf 0x313A 0x313F (.consecutive 0x11B0) .leaf) 0x3140
  0x3140 (.sequence [0x111A]) (.node .leaf 0x3141 0x3143 (.consecutive 0x1106) .leaf))) 0x3144
  0x3144 (.sequence [0x1121]) (.node (.node (.node (.node .leaf 0x3145 0x314E (.consecutive
  0x1109) .leaf) 0x314F 0x3163 (.consecutive 0x1161) .leaf) 0x3164 0x3164 (.sequence [0x1160])
  (.node .leaf 0x3165 0x3166 (.consecutive 0x1114) .leaf)) 0x3167 0x3168 (.consecutive 0x11C7)
  (.node (.node .leaf 0x3169 0x3169 (.sequence [0x11CC]) .leaf) 0x316A 0x316A (.sequence
  [0x11CE]) (.node .leaf 0x316B 0x316B (.sequence [0x11D3]) .leaf)))) 0x316C 0x316C (.sequence
  [0x11D7]) (.node (.node (.node (.node (.node .leaf 0x316D 0x316D (.sequence [0x11D9]) .leaf)
  0x316E 0x316E (.sequence [0x111C]) .leaf) 0x316F 0x316F (.sequence [0x11DD]) (.node .leaf
  0x3170 0x3170 (.sequence [0x11DF]) .leaf)) 0x3171 0x3172 (.consecutive 0x111D) (.node (.node
  .leaf 0x3173 0x3173 (.sequence [0x1120]) .leaf) 0x3174 0x3175 (.consecutive 0x1122) (.node
  .leaf 0x3176 0x3176 (.sequence [0x1127]) .leaf))) 0x3177 0x3177 (.sequence [0x1129]) (.node
  (.node (.node .leaf 0x3178 0x317C (.consecutive 0x112B) .leaf) 0x317D 0x317D (.sequence
  [0x1132]) (.node .leaf 0x317E 0x317E (.sequence [0x1136]) .leaf)) 0x317F 0x317F (.sequence
  [0x1140]) (.node (.node .leaf 0x3180 0x3180 (.sequence [0x1147]) .leaf) 0x3181 0x3181
  (.sequence [0x114C]) (.node .leaf 0x3182 0x3183 (.consecutive 0x11F1) .leaf))))) 0x3184
  0x3186 (.consecutive 0x1157) (.node (.node (.node (.node (.node (.node .leaf 0x3187 0x3188
  (.consecutive 0x1184) .leaf) 0x3189 0x3189 (.sequence [0x1188]) .leaf) 0x318A 0x318B
  (.consecutive 0x1191) (.node .leaf 0x318C 0x318C (.sequence [0x1194]) .leaf)) 0x318D 0x318D
  (.sequence [0x119E]) (.node (.node .leaf 0x318E 0x318E (.sequence [0x11A1]) .leaf) 0x3192
  0x3192 (.sequence [0x4E00]) (.node .leaf 0x3193 0x3193 (.sequence [0x4E8C]) .leaf))) 0x3194
  0x3194 (.sequence [0x4E09]) (.node (.node (.node .leaf 0x3195 0x3195 (.sequence [0x56DB])
  .leaf) 0x3196 0x3196 (.sequence [0x4E0A]) (.node .leaf 0x3197 0x3197 (.sequence [0x4E2D])
  .leaf)) 0x3198 0x3198 (.sequence [0x4E0B]) (.node (.node .leaf 0x3199 0x3199 (.sequence
  [0x7532]) .leaf) 0x319A 0x319A (.sequence [0x4E59]) (.node .leaf 0x319B 0x319B (.sequence
  [0x4E19]) .leaf)))) 0x319C 0x319C (.sequence [0x4E01]) (.node (.node (.node (.node (.node
  .leaf 0x319D 0x319D (.sequence [0x5929]) .leaf) 0x319E 0x319E (.sequence [0x5730]) .leaf)
  0x319F 0x319F (.sequence [0x4EBA]) (.node .leaf 0x3200 0x3200 (.sequence
  [0x28, 0x1100, 0x29]) .leaf)) 0x3201 0x3201 (.sequence [0x28, 0x1102, 0x29]) (.node (.node
  .leaf 0x3202 0x3202 (.sequence [0x28, 0x1103, 0x29]) .leaf) 0x3203 0x3203 (.sequence
  [0x28, 0x1105, 0x29]) (.node .leaf 0x3204 0x3204 (.sequence [0x28, 0x1106, 0x29]) .leaf)))
  0x3205 0x3205 (.sequence [0x28, 0x1107, 0x29]) (.node (.node (.node .leaf 0x3206 0x3206
  (.sequence [0x28, 0x1109, 0x29]) .leaf) 0x3207 0x3207 (.sequence [0x28, 0x110B, 0x29])
  (.node .leaf 0x3208 0x3208 (.sequence [0x28, 0x110C, 0x29]) .leaf)) 0x3209 0x3209 (.sequence
  [0x28, 0x110E, 0x29]) (.node (.node .leaf 0x320A 0x320A (.sequence [0x28, 0x110F, 0x29])
  .leaf) 0x320B 0x320B (.sequence [0x28, 0x1110, 0x29]) (.node .leaf 0x320C 0x320C (.sequence
  [0x28, 0x1111, 0x29]) .leaf)))))) 0x320D 0x320D (.sequence [0x28, 0x1112, 0x29]) (.node
  (.node (.node (.node (.node (.node (.node .leaf 0x320E 0x320E (.sequence
  [0x28, 0x1100, 0x1161, 0x29]) .leaf) 0x320F 0x320F (.sequence [0x28, 0x1102, 0x1161, 0x29])
  .leaf) 0x3210 0x3210 (.sequence [0x28, 0x1103, 0x1161, 0x29]) (.node .leaf 0x3211 0x3211
  (.sequence [0x28, 0x1105, 0x1161, 0x29]) .leaf)) 0x3212 0x3212 (.sequence
  [0x28, 0x1106, 0x1161, 0x29]) (.node (.node .leaf 0x3213 0x3213 (.sequence
  [0x28, 0x1107, 0x1161, 0x29]) .leaf) 0x3214 0x3214 (.sequence [0x28, 0x1109, 0x1161, 0x29])
  (.node .leaf 0x3215 0x3215 (.sequence [0x28, 0x110B, 0x1161, 0x29]) .leaf))) 0x3216 0x3216
  (.sequence [0x28, 0x110C, 0x1161, 0x29]) (.node (.node (.node .leaf 0x3217 0x3217 (.sequence
  [0x28, 0x110E, 0x1161, 0x29]) .leaf) 0x3218 0x3218 (.sequence [0x28, 0x110F, 0x1161, 0x29])
  (.node .leaf 0x3219 0x3219 (.sequence [0x28, 0x1110, 0x1161, 0x29]) .leaf)) 0x321A 0x321A
  (.sequence [0x28, 0x1111, 0x1161, 0x29]) (.node (.node .leaf 0x321B 0x321B (.sequence
  [0x28, 0x1112, 0x1161, 0x29]) .leaf) 0x321C 0x321C (.sequence [0x28, 0x110C, 0x116E, 0x29])
  (.node .leaf 0x321D 0x321D (.sequence [0x28, 0x110B, 0x1169, 0x110C, 0x1165, 0x11AB, 0x29])
  .leaf)))) 0x321E 0x321E (.sequence [0x28, 0x110B, 0x1169, 0x1112, 0x116E, 0x29]) (.node
  (.node (.node (.node (.node .leaf 0x3220 0x3220 (.sequence [0x28, 0x4E00, 0x29]) .leaf)
  0x3221 0x3221 (.sequence [0x28, 0x4E8C, 0x29]) .leaf) 0x3222 0x3222 (.sequence
  [0x28, 0x4E09, 0x29]) (.node .leaf 0x3223 0x3223 (.sequence [0x28, 0x56DB, 0x29]) .leaf))
  0x3224 0x3224 (.sequence [0x28, 0x4E94, 0x29]) (.node (.node .leaf 0x3225 0x3225 (.sequence
  [0x28, 0x516D, 0x29]) .leaf) 0x3226 0x3226 (.sequence [0x28, 0x4E03, 0x29]) (.node .leaf
  0x3227 0x3227 (.sequence [0x28, 0x516B, 0x29]) .leaf))) 0x3228 0x3228 (.sequence
  [0x28, 0x4E5D, 0x29]) (.node (.node (.node .leaf 0x3229 0x3229 (.sequence
  [0x28, 0x5341, 0x29]) .leaf) 0x322A 0x322A (.sequence [0x28, 0x6708, 0x29]) (.node .leaf
  0x322B 0x322B (.sequence [0x28, 0x706B, 0x29]) .leaf)) 0x322C 0x322C (.sequence
  [0x28, 0x6C34, 0x29]) (.node (.node .leaf 0x322D 0x322D (.sequence [0x28, 0x6728, 0x29])
  .leaf) 0x322E 0x322E (.sequence [0x28, 0x91D1, 0x29]) (.node .leaf 0x322F 0x322F (.sequence
  [0x28, 0x571F, 0x29]) .leaf))))) 0x3230 0x3230 (.sequence [0x28, 0x65E5, 0x29]) (.node
  (.node (.node (.node (.node (.node .leaf 0x3231 0x3231 (.sequence [0x28, 0x682A, 0x29])
  .leaf) 0x3232 0x3232 (.sequence [0x28, 0x6709, 0x29]) .leaf) 0x3233 0x3233 (.sequence
  [0x28, 0x793E, 0x29]) (.node .leaf 0x3234 0x3234 (.sequence [0x28, 0x540D, 0x29]) .leaf))
  0x3235 0x3235 (.sequence [0x28, 0x7279, 0x29]) (.node (.node .leaf 0x3236 0x3236 (.sequence
  [0x28, 0x8CA1, 0x29]) .leaf) 0x3237 0x3237 (.sequence [0x28, 0x795D, 0x29]) (.node .leaf
  0x3238 0x3238 (.sequence [0x28, 0x52B4, 0x29]) .leaf))) 0x3239 0x3239 (.sequence
  [0x28, 0x4EE3, 0x29]) (.node (.node (.node .leaf 0x323A 0x323A (.sequence
  [0x28, 0x547C, 0x29]) .leaf) 0x323B 0x323B (.sequence [0x28, 0x5B66, 0x29]) (.node .leaf
  0x323C 0x323C (.sequence [0x28, 0x76E3, 0x29]) .leaf)) 0x323D 0x323D (.sequence
  [0x28, 0x4F01, 0x29]) (.node (.node .leaf 0x323E 0x323E (.sequence [0x28, 0x8CC7, 0x29])
  .leaf) 0x323F 0x323F (.sequence [0x28, 0x5354, 0x29]) (.node .leaf 0x3240 0x3240 (.sequence
  [0x28, 0x796D, 0x29]) .leaf)))) 0x3241 0x3241 (.sequence [0x28, 0x4F11, 0x29]) (.node (.node
  (.node (.node (.node .leaf 0x3242 0x3242 (.sequence [0x28, 0x81EA, 0x29]) .leaf) 0x3243
  0x3243 (.sequence [0x28, 0x81F3, 0x29]) .leaf) 0x3244 0x3244 (.sequence [0x554F]) (.node
  .leaf 0x3245 0x3245 (.sequence [0x5E7C]) .leaf)) 0x3246 0x3246 (.sequence [0x6587]) (.node
  (.node .leaf 0x3247 0x3247 (.sequence [0x7B8F]) .leaf) 0x3250 0x3250 (.sequence
  [0x50, 0x54, 0x45]) (.node .leaf 0x3251 0x3251 (.sequence [0x32, 0x31]) .leaf))) 0x3252
  0x3252 (.sequence [0x32, 0x32]) (.node (.node (.node .leaf 0x3253 0x3253 (.sequence
  [0x32, 0x33]) .leaf) 0x3254 0x3254 (.sequence [0x32, 0x34]) (.node .leaf 0x3255 0x3255
  (.sequence [0x32, 0x35]) .leaf)) 0x3256 0x3256 (.sequence [0x32, 0x36]) (.node (.node .leaf
  0x3257 0x3257 (.sequence [0x32, 0x37]) .leaf) 0x3258 0x3258 (.sequence [0x32, 0x38]) (.node
  .leaf 0x3259 0x3259 (.sequence [0x32, 0x39]) .leaf))))))) 0x325A 0x325A (.sequence
  [0x33, 0x30]) (.node (.node (.node (.node (.node (.node (.node (.node .leaf 0x325B 0x325B
  (.sequence [0x33, 0x31]) .leaf) 0x325C 0x325C (.sequence [0x33, 0x32]) .leaf) 0x325D 0x325D
  (.sequence [0x33, 0x33]) (.node .leaf 0x325E 0x325E (.sequence [0x33, 0x34]) .leaf)) 0x325F
  0x325F (.sequence [0x33, 0x35]) (.node (.node .leaf 0x3260 0x3260 (.sequence [0x1100]) .leaf)
  0x3261 0x3262 (.consecutive 0x1102) (.node .leaf 0x3263 0x3265 (.consecutive 0x1105) .leaf)))
  0x3266 0x3266 (.sequence [0x1109]) (.node (.node (.node .leaf 0x3267 0x3268 (.consecutive
  0x110B) .leaf) 0x3269 0x326D (.consecutive 0x110E) (.node .leaf 0x326E 0x326E (.sequence
  [0x1100, 0x1161]) .leaf)) 0x326F 0x326F (.sequence [0x1102, 0x1161]) (.node (.node .leaf
  0x3270 0x3270 (.sequence [0x1103, 0x1161]) .leaf) 0x3271 0x3271 (.sequence [0x1105, 0x1161])
  (.node .leaf 0x3272 0x3272 (.sequence [0x1106, 0x1161]) .leaf)))) 0x3273 0x3273 (.sequence
  [0x1107, 0x1161]) (.node (.node (.node (.node (.node .leaf 0x3274 0x3274 (.sequence
  [0x1109, 0x1161]) .leaf) 0x3275 0x3275 (.sequence [0x110B, 0x1161]) .leaf) 0x3276 0x3276
  (.sequence [0x110C, 0x1161]) (.node .leaf 0x3277 0x3277 (.sequence [0x110E, 0x1161]) .leaf))
  0x3278 0x3278 (.sequence [0x110F, 0x1161]) (.node (.node .leaf 0x3279 0x3279 (.sequence
  [0x1110, 0x1161]) .leaf) 0x327A 0x327A (.sequence [0x1111, 0x1161]) (.node .leaf 0x327B
  0x327B (.sequence [0x1112, 0x1161]) .leaf))) 0x327C 0x327C (.sequence
  [0x110E, 0x1161, 0x11B7, 0x1100, 0x1169]) (.node (.node (.node .leaf 0x327D 0x327D
  (.sequence [0x110C, 0x116E, 0x110B, 0x1174]) .leaf) 0x327E 0x327E (.sequence
  [0x110B, 0x116E]) (.node .leaf 0x3280 0x3280 (.sequence [0x4E00]) .leaf)) 0x3281 0x3281
  (.sequence [0x4E8C]) (.node (.node .leaf 0x3282 0x3282 (.sequence [0x4E09]) .leaf) 0x3283
  0x3283 (.sequence [0x56DB]) (.node .leaf 0x3284 0x3284 (.sequence [0x4E94]) .leaf)))))
  0x3285 0x3285 (.sequence [0x516D]) (.node (.node (.node (.node (.node (.node .leaf 0x3286
  0x3286 (.sequence [0x4E03]) .leaf) 0x3287 0x3287 (.sequence [0x516B]) .leaf) 0x3288 0x3288
  (.sequence [0x4E5D]) (.node .leaf 0x3289 0x3289 (.sequence [0x5341]) .leaf)) 0x328A 0x328A
  (.sequence [0x6708]) (.node (.node .leaf 0x328B 0x328B (.sequence [0x706B]) .leaf) 0x328C
  0x328C (.sequence [0x6C34]) (.node .leaf 0x328D 0x328D (.sequence [0x6728]) .leaf))) 0x328E
  0x328E (.sequence [0x91D1]) (.node (.node (.node .leaf 0x328F 0x328F (.sequence [0x571F])
  .leaf) 0x3290 0x3290 (.sequence [0x65E5]) (.node .leaf 0x3291 0x3291 (.sequence [0x682A])
  .leaf)) 0x3292 0x3292 (.sequence [0x6709]) (.node (.node .leaf 0x3293 0x3293 (.sequence
  [0x793E]) .leaf) 0x3294 0x3294 (.sequence [0x540D]) (.node .leaf 0x3295 0x3295 (.sequence
  [0x7279]) .leaf)))) 0x3296 0x3296 (.sequence [0x8CA1]) (.node (.node (.node (.node (.node
  .leaf 0x3297 0x3297 (.sequence [0x795D]) .leaf) 0x3298 0x3298 (.sequence [0x52B4]) .leaf)
  0x3299 0x3299 (.sequence [0x79D8]) (.node .leaf 0x329A 0x329A (.sequence [0x7537]) .leaf))
  0x329B 0x329B (.sequence [0x5973]) (.node (.node .leaf 0x329C 0x329C (.sequence [0x9069])
  .leaf) 0x329D 0x329D (.sequence [0x512A]) (.node .leaf 0x329E 0x329E (.sequence [0x5370])
  .leaf))) 0x329F 0x329F (.sequence [0x6CE8]) (.node (.node (.node .leaf 0x32A0 0x32A0
  (.sequence [0x9805]) .leaf) 0x32A1 0x32A1 (.sequence [0x4F11]) (.node .leaf 0x32A2 0x32A2
  (.sequence [0x5199]) .leaf)) 0x32A3 0x32A3 (.sequence [0x6B63]) (.node (.node .leaf 0x32A4
  0x32A4 (.sequence [0x4E0A]) .leaf) 0x32A5 0x32A5 (.sequence [0x4E2D]) (.node .leaf 0x32A6
  0x32A6 (.sequence [0x4E0B]) .leaf)))))) 0x32A7 0x32A7 (.sequence [0x5DE6]) (.node (.node
  (.node (.node (.node (.node (.node .leaf 0x32A8 0x32A8 (.sequence [0x53F3]) .leaf) 0x32A9
  0x32A9 (.sequence [0x533B]) .leaf) 0x32AA 0x32AA (.sequence [0x5B97]) (.node .leaf 0x32AB
  0x32AB (.sequence [0x5B66]) .leaf)) 0x32AC 0x32AC (.sequence [0x76E3]) (.node (.node .leaf
  0x32AD 0x32AD (.sequence [0x4F01]) .leaf) 0x32AE 0x32AE (.sequence [0x8CC7]) (.node .leaf
  0x32AF 0x32AF (.sequence [0x5354]) .leaf))) 0x32B0 0x32B0 (.sequence [0x591C]) (.node (.node
  (.node .leaf 0x32B1 0x32B1 (.sequence [0x33, 0x36]) .leaf) 0x32B2 0x32B2 (.sequence
  [0x33, 0x37]) (.node .leaf 0x32B3 0x32B3 (.sequence [0x33, 0x38]) .leaf)) 0x32B4 0x32B4
  (.sequence [0x33, 0x39]) (.node (.node .leaf 0x32B5 0x32B5 (.sequence [0x34, 0x30]) .leaf)
  0x32B6 0x32B6 (.sequence [0x34, 0x31]) (.node .leaf 0x32B7 0x32B7 (.sequence [0x34, 0x32])
  .leaf)))) 0x32B8 0x32B8 (.sequence [0x34, 0x33]) (.node (.node (.node (.node (.node .leaf
  0x32B9 0x32B9 (.sequence [0x34, 0x34]) .leaf) 0x32BA 0x32BA (.sequence [0x34, 0x35]) .leaf)
  0x32BB 0x32BB (.sequence [0x34, 0x36]) (.node .leaf 0x32BC 0x32BC (.sequence [0x34, 0x37])
  .leaf)) 0x32BD 0x32BD (.sequence [0x34, 0x38]) (.node (.node .leaf 0x32BE 0x32BE (.sequence
  [0x34, 0x39]) .leaf) 0x32BF 0x32BF (.sequence [0x35, 0x30]) (.node .leaf 0x32C0 0x32C0
  (.sequence [0x31, 0x6708]) .leaf))) 0x32C1 0x32C1 (.sequence [0x32, 0x6708]) (.node (.node
  (.node .leaf 0x32C2 0x32C2 (.sequence [0x33, 0x6708]) .leaf) 0x32C3 0x32C3 (.sequence
  [0x34, 0x6708]) (.node .leaf 0x32C4 0x32C4 (.sequence [0x35, 0x6708]) .leaf)) 0x32C5 0x32C5
  (.sequence [0x36, 0x6708]) (.node (.node .leaf 0x32C6 0x32C6 (.sequence [0x37, 0x6708])
  .leaf) 0x32C7 0x32C7 (.sequence [0x38, 0x6708]) (.node .leaf 0x32C8 0x32C8 (.sequence
  [0x39, 0x6708]) .leaf))))) 0x32C9 0x32C9 (.sequence [0x31, 0x30, 0x6708]) (.node (.node
  (.node (.node (.node (.node .leaf 0x32CA 0x32CA (.sequence [0x31, 0x31, 0x6708]) .leaf)
  0x32CB 0x32CB (.sequence [0x31, 0x32, 0x6708]) .leaf) 0x32CC 0x32CC (.sequence [0x48, 0x67])
  (.node .leaf 0x32CD 0x32CD (.sequence [0x65, 0x72, 0x67]) .leaf)) 0x32CE 0x32CE (.sequence
  [0x65, 0x56]) (.node (.node .leaf 0x32CF 0x32CF (.sequence [0x4C, 0x54, 0x44]) .leaf) 0x32D0
  0x32D0 (.sequence [0x30A2]) (.node .leaf 0x32D1 0x32D1 (.sequence [0x30A4]) .leaf))) 0x32D2
  0x32D2 (.sequence [0x30A6]) (.node (.node (.node .leaf 0x32D3 0x32D3 (.sequence [0x30A8])
  .leaf) 0x32D4 0x32D5 (.consecutive 0x30AA) (.node .leaf 0x32D6 0x32D6 (.sequence [0x30AD])
  .leaf)) 0x32D7 0x32D7 (.sequence [0x30AF]) (.node (.node .leaf 0x32D8 0x32D8 (.sequence
  [0x30B1]) .leaf) 0x32D9 0x32D9 (.sequence [0x30B3]) (.node .leaf 0x32DA 0x32DA (.sequence
  [0x30B5]) .leaf)))) 0x32DB 0x32DB (.sequence [0x30B7]) (.node (.node (.node (.node (.node
  .leaf 0x32DC 0x32DC (.sequence [0x30B9]) .leaf) 0x32DD 0x32DD (.sequence [0x30BB]) .leaf)
  0x32DE 0x32DE (.sequence [0x30BD]) (.node .leaf 0x32DF 0x32DF (.sequence [0x30BF]) .leaf))
  0x32E0 0x32E0 (.sequence [0x30C1]) (.node (.node .leaf 0x32E1 0x32E1 (.sequence [0x30C4])
  .leaf) 0x32E2 0x32E2 (.sequence [0x30C6]) (.node .leaf 0x32E3 0x32E3 (.sequence [0x30C8])
  .leaf))) 0x32E4 0x32E9 (.consecutive 0x30CA) (.node (.node (.node .leaf 0x32EA 0x32EA
  (.sequence [0x30D2]) .leaf) 0x32EB 0x32EB (.sequence [0x30D5]) (.node .leaf 0x32EC 0x32EC
  (.sequence [0x30D8]) .leaf)) 0x32ED 0x32ED (.sequence [0x30DB]) (.node (.node .leaf 0x32EE
  0x32F2 (.consecutive 0x30DE) .leaf) 0x32F3 0x32F3 (.sequence [0x30E4]) (.node .leaf 0x32F4
  0x32F4 (.sequence [0x30E6]) .leaf)))))))) 0x32F5 0x32FA (.consecutive 0x30E8) (.node (.node
  (.node (.node (.node (.node (.node (.node (.node .leaf 0x32FB 0x32FE (.consecutive 0x30EF)
  .leaf) 0x32FF 0x32FF (.sequence [0x4EE4, 0x548C]) .leaf) 0x3300 0x3300 (.sequence
  [0x30A2, 0x30CF, 0x309A, 0x30FC, 0x30C8]) (.node .leaf 0x3301 0x3301 (.sequence
  [0x30A2, 0x30EB, 0x30D5, 0x30A1]) .leaf)) 0x3302 0x3302 (.sequence
  [0x30A2, 0x30F3, 0x30D8, 0x309A, 0x30A2]) (.node (.node .leaf 0x3303 0x3303 (.sequence
  [0x30A2, 0x30FC, 0x30EB]) .leaf) 0x3304 0x3304 (.sequence
  [0x30A4, 0x30CB, 0x30F3, 0x30AF, 0x3099]) (.node .leaf 0x3305 0x3305 (.sequence
  [0x30A4, 0x30F3, 0x30C1]) .leaf))) 0x3306 0x3306 (.sequence [0x30A6, 0x30A9, 0x30F3]) (.node
  (.node (.node (.node .leaf 0x3307 0x3307 (.sequence
  [0x30A8, 0x30B9, 0x30AF, 0x30FC, 0x30C8, 0x3099]) .leaf) 0x3308 0x3308 (.sequence
  [0x30A8, 0x30FC, 0x30AB, 0x30FC]) .leaf) 0x3309 0x3309 (.sequence [0x30AA, 0x30F3, 0x30B9])
  (.node .leaf 0x330A 0x330A (.sequence [0x30AA, 0x30FC, 0x30E0]) .leaf)) 0x330B 0x330B
  (.sequence [0x30AB, 0x30A4, 0x30EA]) (.node (.node .leaf 0x330C 0x330C (.sequence
  [0x30AB, 0x30E9, 0x30C3, 0x30C8]) .leaf) 0x330D 0x330D (.sequence
  [0x30AB, 0x30ED, 0x30EA, 0x30FC]) (.node .leaf 0x330E 0x330E (.sequence
  [0x30AB, 0x3099, 0x30ED, 0x30F3]) .leaf)))) 0x330F 0x330F (.sequence
  [0x30AB, 0x3099, 0x30F3, 0x30DE]) (.node (.node (.node (.node (.node .leaf 0x3310 0x3310
  (.sequence [0x30AD, 0x3099, 0x30AB, 0x3099]) .leaf) 0x3311 0x3311 (.sequence
  [0x30AD, 0x3099, 0x30CB, 0x30FC]) .leaf) 0x3312 0x3312 (.sequence
  [0x30AD, 0x30E5, 0x30EA, 0x30FC]) (.node .leaf 0x3313 0x3313 (.sequence
  [0x30AD, 0x3099, 0x30EB, 0x30BF, 0x3099, 0x30FC]) .leaf)) 0x3314 0x3314 (.sequence
  [0x30AD, 0x30ED]) (.node (.node .leaf 0x3315 0x3315 (.sequence
  [0x30AD, 0x30ED, 0x30AF, 0x3099, 0x30E9, 0x30E0]) .leaf) 0x3316 0x3316 (.sequence
  [0x30AD, 0x30ED, 0x30E1, 0x30FC, 0x30C8, 0x30EB]) (.node .leaf 0x3317 0x3317 (.sequence
  [0x30AD, 0x30ED, 0x30EF, 0x30C3, 0x30C8]) .leaf))) 0x3318 0x3318 (.sequence
  [0x30AF, 0x3099, 0x30E9, 0x30E0]) (.node (.node (.node .leaf 0x3319 0x3319 (.sequence
  [0x30AF, 0x3099, 0x30E9, 0x30E0, 0x30C8, 0x30F3]) .leaf) 0x331A 0x331A (.sequence
  [0x30AF, 0x30EB, 0x30BB, 0x3099, 0x30A4, 0x30ED]) (.node .leaf 0x331B 0x331B (.sequence
  [0x30AF, 0x30ED, 0x30FC, 0x30CD]) .leaf)) 0x331C 0x331C (.sequence [0x30B1, 0x30FC, 0x30B9])
  (.node (.node .leaf 0x331D 0x331D (.sequence [0x30B3, 0x30EB, 0x30CA]) .leaf) 0x331E 0x331E
  (.sequence [0x30B3, 0x30FC, 0x30DB, 0x309A]) (.node .leaf 0x331F 0x331F (.sequence
  [0x30B5, 0x30A4, 0x30AF, 0x30EB]) .leaf))))) 0x3320 0x3320 (.sequence
  [0x30B5, 0x30F3, 0x30C1, 0x30FC, 0x30E0]) (.node (.node (.node (.node (.node (.node .leaf
  0x3321 0x3321 (.sequence [0x30B7, 0x30EA, 0x30F3, 0x30AF, 0x3099]) .leaf) 0x3322 0x3322
  (.sequence [0x30BB, 0x30F3, 0x30C1]) .leaf) 0x3323 0x3323 (.sequence
  [0x30BB, 0x30F3, 0x30C8]) (.node .leaf 0x3324 0x3324 (.sequence
  [0x30BF, 0x3099, 0x30FC, 0x30B9]) .leaf)) 0x3325 0x3325 (.sequence [0x30C6, 0x3099, 0x30B7])
  (.node (.node .leaf 0x3326 0x3326 (.sequence [0x30C8, 0x3099, 0x30EB]) .leaf) 0x3327 0x3327
  (.sequence [0x30C8, 0x30F3]) (.node .leaf 0x3328 0x3328 (.sequence [0x30CA, 0x30CE]) .leaf)))
  0x3329 0x3329 (.sequence [0x30CE, 0x30C3, 0x30C8]) (.node (.node (.node .leaf 0x332A 0x332A
  (.sequence [0x30CF, 0x30A4, 0x30C4]) .leaf) 0x332B 0x332B (.sequence
  [0x30CF, 0x309A, 0x30FC, 0x30BB, 0x30F3, 0x30C8]) (.node .leaf 0x332C 0x332C (.sequence
  [0x30CF, 0x309A, 0x30FC, 0x30C4]) .leaf)) 0x332D 0x332D (.sequence
  [0x30CF, 0x3099, 0x30FC, 0x30EC, 0x30EB]) (.node (.node .leaf 0x332E 0x332E (.sequence
  [0x30D2, 0x309A, 0x30A2, 0x30B9, 0x30C8, 0x30EB]) .leaf) 0x332F 0x332F (.sequence
  [0x30D2, 0x309A, 0x30AF, 0x30EB]) (.node .leaf 0x3330 0x3330 (.sequence
  [0x30D2, 0x309A, 0x30B3]) .leaf)))) 0x3331 0x3331 (.sequence [0x30D2, 0x3099, 0x30EB])
  (.node (.node (.node (.node (.node .leaf 0x3332 0x3332 (.sequence
  [0x30D5, 0x30A1, 0x30E9, 0x30C3, 0x30C8, 0x3099]) .leaf) 0x3333 0x3333 (.sequence
  [0x30D5, 0x30A3, 0x30FC, 0x30C8]) .leaf) 0x3334 0x3334 (.sequence
  [0x30D5, 0x3099, 0x30C3, 0x30B7, 0x30A7, 0x30EB]) (.node .leaf 0x3335 0x3335 (.sequence
  [0x30D5, 0x30E9, 0x30F3]) .leaf)) 0x3336 0x3336 (.sequence
  [0x30D8, 0x30AF, 0x30BF, 0x30FC, 0x30EB]) (.node (.node .leaf 0x3337 0x3337 (.sequence
  [0x30D8, 0x309A, 0x30BD]) .leaf) 0x3338 0x3338 (.sequence [0x30D8, 0x309A, 0x30CB, 0x30D2])
  (.node .leaf 0x3339 0x3339 (.sequence [0x30D8, 0x30EB, 0x30C4]) .leaf))) 0x333A 0x333A
  (.sequence [0x30D8, 0x309A, 0x30F3, 0x30B9]) (.node (.node (.node .leaf 0x333B 0x333B
  (.sequence [0x30D8, 0x309A, 0x30FC, 0x30B7, 0x3099]) .leaf) 0x333C 0x333C (.sequence
  [0x30D8, 0x3099, 0x30FC, 0x30BF]) (.node .leaf 0x333D 0x333D (.sequence
  [0x30DB, 0x309A, 0x30A4, 0x30F3, 0x30C8]) .leaf)) 0x333E 0x333E (.sequence
  [0x30DB, 0x3099, 0x30EB, 0x30C8]) (.node (.node .leaf 0x333F 0x333F (.sequence
  [0x30DB, 0x30F3]) .leaf) 0x3340 0x3340 (.sequence [0x30DB, 0x309A, 0x30F3, 0x30C8, 0x3099])
  (.node .leaf 0x3341 0x3341 (.sequence [0x30DB, 0x30FC, 0x30EB]) .leaf)))))) 0x3342 0x3342
  (.sequence [0x30DB, 0x30FC, 0x30F3]) (.node (.node (.node (.node (.node (.node (.node .leaf
  0x3343 0x3343 (.sequence [0x30DE, 0x30A4, 0x30AF, 0x30ED]) .leaf) 0x3344 0x3344 (.sequence
  [0x30DE, 0x30A4, 0x30EB]) .leaf) 0x3345 0x3345 (.sequence [0x30DE, 0x30C3, 0x30CF]) (.node
  .leaf 0x3346 0x3346 (.sequence [0x30DE, 0x30EB, 0x30AF]) .leaf)) 0x3347 0x3347 (.sequence
  [0x30DE, 0x30F3, 0x30B7, 0x30E7, 0x30F3]) (.node (.node .leaf 0x3348 0x3348 (.sequence
  [0x30DF, 0x30AF, 0x30ED, 0x30F3]) .leaf) 0x3349 0x3349 (.sequence [0x30DF, 0x30EA]) (.node
  .leaf 0x334A 0x334A (.sequence [0x30DF, 0x30EA, 0x30CF, 0x3099, 0x30FC, 0x30EB]) .leaf)))
  0x334B 0x334B (.sequence [0x30E1, 0x30AB, 0x3099]) (.node (.node (.node .leaf 0x334C 0x334C
  (.sequence [0x30E1, 0x30AB, 0x3099, 0x30C8, 0x30F3]) .leaf) 0x334D 0x334D (.sequence
  [0x30E1, 0x30FC, 0x30C8, 0x30EB]) (.node .leaf 0x334E 0x334E (.sequence
  [0x30E4, 0x30FC, 0x30C8, 0x3099]) .leaf)) 0x334F 0x334F (.sequence [0x30E4, 0x30FC, 0x30EB])
  (.node (.node .leaf 0x3350 0x3350 (.sequence [0x30E6, 0x30A2, 0x30F3]) .leaf) 0x3351 0x3351
  (.sequence [0x30EA, 0x30C3, 0x30C8, 0x30EB]) (.node .leaf 0x3352 0x3352 (.sequence
  [0x30EA, 0x30E9]) .leaf)))) 0x3353 0x3353 (.sequence [0x30EB, 0x30D2, 0x309A, 0x30FC])
  (.node (.node (.node (.node (.node .leaf 0x3354 0x3354 (.sequence
  [0x30EB, 0x30FC, 0x30D5, 0x3099, 0x30EB]) .leaf) 0x3355 0x3355 (.sequence [0x30EC, 0x30E0])
  .leaf) 0x3356 0x3356 (.sequence [0x30EC, 0x30F3, 0x30C8, 0x30B1, 0x3099, 0x30F3]) (.node
  .leaf 0x3357 0x3357 (.sequence [0x30EF, 0x30C3, 0x30C8]) .leaf)) 0x3358 0x3358 (.sequence
  [0x30, 0x70B9]) (.node (.node .leaf 0x3359 0x3359 (.sequence [0x31, 0x70B9]) .leaf) 0x335A
  0x335A (.sequence [0x32, 0x70B9]) (.node .leaf 0x335B 0x335B (.sequence [0x33, 0x70B9])
  .leaf))) 0x335C 0x335C (.sequence [0x34, 0x70B9]) (.node (.node (.node .leaf 0x335D 0x335D
  (.sequence [0x35, 0x70B9]) .leaf) 0x335E 0x335E (.sequence [0x36, 0x70B9]) (.node .leaf
  0x335F 0x335F (.sequence [0x37, 0x70B9]) .leaf)) 0x3360 0x3360 (.sequence [0x38, 0x70B9])
  (.node (.node .leaf 0x3361 0x3361 (.sequence [0x39, 0x70B9]) .leaf) 0x3362 0x3362 (.sequence
  [0x31, 0x30, 0x70B9]) (.node .leaf 0x3363 0x3363 (.sequence [0x31, 0x31, 0x70B9]) .leaf)))))
  0x3364 0x3364 (.sequence [0x31, 0x32, 0x70B9]) (.node (.node (.node (.node (.node (.node
  .leaf 0x3365 0x3365 (.sequence [0x31, 0x33, 0x70B9]) .leaf) 0x3366 0x3366 (.sequence
  [0x31, 0x34, 0x70B9]) .leaf) 0x3367 0x3367 (.sequence [0x31, 0x35, 0x70B9]) (.node .leaf
  0x3368 0x3368 (.sequence [0x31, 0x36, 0x70B9]) .leaf)) 0x3369 0x3369 (.sequence
  [0x31, 0x37, 0x70B9]) (.node (.node .leaf 0x336A 0x336A (.sequence [0x31, 0x38, 0x70B9])
  .leaf) 0x336B 0x336B (.sequence [0x31, 0x39, 0x70B9]) (.node .leaf 0x336C 0x336C (.sequence
  [0x32, 0x30, 0x70B9]) .leaf))) 0x336D 0x336D (.sequence [0x32, 0x31, 0x70B9]) (.node (.node
  (.node .leaf 0x336E 0x336E (.sequence [0x32, 0x32, 0x70B9]) .leaf) 0x336F 0x336F (.sequence
  [0x32, 0x33, 0x70B9]) (.node .leaf 0x3370 0x3370 (.sequence [0x32, 0x34, 0x70B9]) .leaf))
  0x3371 0x3371 (.sequence [0x68, 0x50, 0x61]) (.node (.node .leaf 0x3372 0x3372 (.sequence
  [0x64, 0x61]) .leaf) 0x3373 0x3373 (.sequence [0x41, 0x55]) (.node .leaf 0x3374 0x3374
  (.sequence [0x62, 0x61, 0x72]) .leaf)))) 0x3375 0x3375 (.sequence [0x6F, 0x56]) (.node
  (.node (.node (.node (.node .leaf 0x3376 0x3376 (.sequence [0x70, 0x63]) .leaf) 0x3377
  0x3377 (.sequence [0x64, 0x6D]) .leaf) 0x3378 0x3378 (.sequence [0x64, 0x6D, 0x32]) (.node
  .leaf 0x3379 0x3379 (.sequence [0x64, 0x6D, 0x33]) .leaf)) 0x337A 0x337A (.sequence
  [0x49, 0x55]) (.node (.node .leaf 0x337B 0x337B (.sequence [0x5E73, 0x6210]) .leaf) 0x337C
  0x337C (.sequence [0x662D, 0x548C]) (.node .leaf 0x337D 0x337D (.sequence [0x5927, 0x6B63])
  .leaf))) 0x337E 0x337E (.sequence [0x660E, 0x6CBB]) (.node (.node (.node .leaf 0x337F 0x337F
  (.sequence [0x682A, 0x5F0F, 0x4F1A, 0x793E]) .leaf) 0x3380 0x3380 (.sequence [0x70, 0x41])
  (.node .leaf 0x3381 0x3381 (.sequence [0x6E, 0x41]) .leaf)) 0x3382 0x3382 (.sequence
  [0x3BC, 0x41]) (.node (.node .leaf 0x3383 0x3383 (.sequence [0x6D, 0x41]) .leaf) 0x3384
  0x3384 (.sequence [0x6B, 0x41]) (.node .leaf 0x3385 0x3385 (.sequence [0x4B, 0x42]) .leaf)))))))
  0x3386 0x3386 (.sequence [0x4D, 0x42]) (.node (.node (.node (.node (.node (.node (.node
  (.node .leaf 0x3387 0x3387 (.sequence [0x47, 0x42]) .leaf) 0x3388 0x3388 (.sequence
  [0x63, 0x61, 0x6C]) .leaf) 0x3389 0x3389 (.sequence [0x6B, 0x63, 0x61, 0x6C]) (.node .leaf
  0x338A 0x338A (.sequence [0x70, 0x46]) .leaf)) 0x338B 0x338B (.sequence [0x6E, 0x46]) (.node
  (.node .leaf 0x338C 0x338C (.sequence [0x3BC, 0x46]) .leaf) 0x338D 0x338D (.sequence
  [0x3BC, 0x67]) (.node .leaf 0x338E 0x338E (.sequence [0x6D, 0x67]) .leaf))) 0x338F 0x338F
  (.sequence [0x6B, 0x67]) (.node (.node (.node .leaf 0x3390 0x3390 (.sequence [0x48, 0x7A])
  .leaf) 0x3391 0x3391 (.sequence [0x6B, 0x48, 0x7A]) (.node .leaf 0x3392 0x3392 (.sequence
  [0x4D, 0x48, 0x7A]) .leaf)) 0x3393 0x3393 (.sequence [0x47, 0x48, 0x7A]) (.node (.node .leaf
  0x3394 0x3394 (.sequence [0x54, 0x48, 0x7A]) .leaf) 0x3395 0x3395 (.sequence [0x3BC, 0x6C])
  (.node .leaf 0x3396 0x3396 (.sequence [0x6D, 0x6C]) .leaf)))) 0x3397 0x3397 (.sequence
  [0x64, 0x6C]) (.node (.node (.node (.node (.node .leaf 0x3398 0x3398 (.sequence [0x6B, 0x6C])
  .leaf) 0x3399 0x3399 (.sequence [0x66, 0x6D]) .leaf) 0x339A 0x339A (.sequence [0x6E, 0x6D])
  (.node .leaf 0x339B 0x339B (.sequence [0x3BC, 0x6D]) .leaf)) 0x339C 0x339C (.sequence
  [0x6D, 0x6D]) (.node (.node .leaf 0x339D 0x339D (.sequence [0x63, 0x6D]) .leaf) 0x339E
  0x339E (.sequence [0x6B, 0x6D]) (.node .leaf 0x339F 0x339F (.sequence [0x6D, 0x6D, 0x32])
  .leaf))) 0x33A0 0x33A0 (.sequence [0x63, 0x6D, 0x32]) (.node (.node (.node .leaf 0x33A1
  0x33A1 (.sequence [0x6D, 0x32]) .leaf) 0x33A2 0x33A2 (.sequence [0x6B, 0x6D, 0x32]) (.node
  .leaf 0x33A3 0x33A3 (.sequence [0x6D, 0x6D, 0x33]) .leaf)) 0x33A4 0x33A4 (.sequence
  [0x63, 0x6D, 0x33]) (.node (.node .leaf 0x33A5 0x33A5 (.sequence [0x6D, 0x33]) .leaf) 0x33A6
  0x33A6 (.sequence [0x6B, 0x6D, 0x33]) (.node .leaf 0x33A7 0x33A7 (.sequence
  [0x6D, 0x2215, 0x73]) .leaf))))) 0x33A8 0x33A8 (.sequence [0x6D, 0x2215, 0x73, 0x32]) (.node
  (.node (.node (.node (.node (.node .leaf 0x33A9 0x33A9 (.sequence [0x50, 0x61]) .leaf)
  0x33AA 0x33AA (.sequence [0x6B, 0x50, 0x61]) .leaf) 0x33AB 0x33AB (.sequence
  [0x4D, 0x50, 0x61]) (.node .leaf 0x33AC 0x33AC (.sequence [0x47, 0x50, 0x61]) .leaf)) 0x33AD
  0x33AD (.sequence [0x72, 0x61, 0x64]) (.node (.node .leaf 0x33AE 0x33AE (.sequence
  [0x72, 0x61, 0x64, 0x2215, 0x73]) .leaf) 0x33AF 0x33AF (.sequence
  [0x72, 0x61, 0x64, 0x2215, 0x73, 0x32]) (.node .leaf 0x33B0 0x33B0 (.sequence [0x70, 0x73])
  .leaf))) 0x33B1 0x33B1 (.sequence [0x6E, 0x73]) (.node (.node (.node .leaf 0x33B2 0x33B2
  (.sequence [0x3BC, 0x73]) .leaf) 0x33B3 0x33B3 (.sequence [0x6D, 0x73]) (.node .leaf 0x33B4
  0x33B4 (.sequence [0x70, 0x56]) .leaf)) 0x33B5 0x33B5 (.sequence [0x6E, 0x56]) (.node (.node
  .leaf 0x33B6 0x33B6 (.sequence [0x3BC, 0x56]) .leaf) 0x33B7 0x33B7 (.sequence [0x6D, 0x56])
  (.node .leaf 0x33B8 0x33B8 (.sequence [0x6B, 0x56]) .leaf)))) 0x33B9 0x33B9 (.sequence
  [0x4D, 0x56]) (.node (.node (.node (.node (.node .leaf 0x33BA 0x33BA (.sequence [0x70, 0x57])
  .leaf) 0x33BB 0x33BB (.sequence [0x6E, 0x57]) .leaf) 0x33BC 0x33BC (.sequence [0x3BC, 0x57])
  (.node .leaf 0x33BD 0x33BD (.sequence [0x6D, 0x57]) .leaf)) 0x33BE 0x33BE (.sequence
  [0x6B, 0x57]) (.node (.node .leaf 0x33BF 0x33BF (.sequence [0x4D, 0x57]) .leaf) 0x33C0
  0x33C0 (.sequence [0x6B, 0x3A9]) (.node .leaf 0x33C1 0x33C1 (.sequence [0x4D, 0x3A9]) .leaf)))
  0x33C2 0x33C2 (.sequence [0x61, 0x2E, 0x6D, 0x2E]) (.node (.node (.node .leaf 0x33C3 0x33C3
  (.sequence [0x42, 0x71]) .leaf) 0x33C4 0x33C4 (.sequence [0x63, 0x63]) (.node .leaf 0x33C5
  0x33C5 (.sequence [0x63, 0x64]) .leaf)) 0x33C6 0x33C6 (.sequence [0x43, 0x2215, 0x6B, 0x67])
  (.node (.node .leaf 0x33C7 0x33C7 (.sequence [0x43, 0x6F, 0x2E]) .leaf) 0x33C8 0x33C8
  (.sequence [0x64, 0x42]) (.node .leaf 0x33C9 0x33C9 (.sequence [0x47, 0x79]) .leaf))))))
  0x33CA 0x33CA (.sequence [0x68, 0x61]) (.node (.node (.node (.node (.node (.node (.node
  .leaf 0x33CB 0x33CB (.sequence [0x48, 0x50]) .leaf) 0x33CC 0x33CC (.sequence [0x69, 0x6E])
  .leaf) 0x33CD 0x33CD (.sequence [0x4B, 0x4B]) (.node .leaf 0x33CE 0x33CE (.sequence
  [0x4B, 0x4D]) .leaf)) 0x33CF 0x33CF (.sequence [0x6B, 0x74]) (.node (.node .leaf 0x33D0
  0x33D0 (.sequence [0x6C, 0x6D]) .leaf) 0x33D1 0x33D1 (.sequence [0x6C, 0x6E]) (.node .leaf
  0x33D2 0x33D2 (.sequence [0x6C, 0x6F, 0x67]) .leaf))) 0x33D3 0x33D3 (.sequence [0x6C, 0x78])
  (.node (.node (.node .leaf 0x33D4 0x33D4 (.sequence [0x6D, 0x62]) .leaf) 0x33D5 0x33D5
  (.sequence [0x6D, 0x69, 0x6C]) (.node .leaf 0x33D6 0x33D6 (.sequence [0x6D, 0x6F, 0x6C])
  .leaf)) 0x33D7 0x33D7 (.sequence [0x50, 0x48]) (.node (.node .leaf 0x33D8 0x33D8 (.sequence
  [0x70, 0x2E, 0x6D, 0x2E]) .leaf) 0x33D9 0x33D9 (.sequence [0x50, 0x50, 0x4D]) (.node .leaf
  0x33DA 0x33DA (.sequence [0x50, 0x52]) .leaf)))) 0x33DB 0x33DB (.sequence [0x73, 0x72])
  (.node (.node (.node (.node (.node .leaf 0x33DC 0x33DC (.sequence [0x53, 0x76]) .leaf)
  0x33DD 0x33DD (.sequence [0x57, 0x62]) .leaf) 0x33DE 0x33DE (.sequence [0x56, 0x2215, 0x6D])
  (.node .leaf 0x33DF 0x33DF (.sequence [0x41, 0x2215, 0x6D]) .leaf)) 0x33E0 0x33E0 (.sequence
  [0x31, 0x65E5]) (.node (.node .leaf 0x33E1 0x33E1 (.sequence [0x32, 0x65E5]) .leaf) 0x33E2
  0x33E2 (.sequence [0x33, 0x65E5]) (.node .leaf 0x33E3 0x33E3 (.sequence [0x34, 0x65E5])
  .leaf))) 0x33E4 0x33E4 (.sequence [0x35, 0x65E5]) (.node (.node (.node .leaf 0x33E5 0x33E5
  (.sequence [0x36, 0x65E5]) .leaf) 0x33E6 0x33E6 (.sequence [0x37, 0x65E5]) (.node .leaf
  0x33E7 0x33E7 (.sequence [0x38, 0x65E5]) .leaf)) 0x33E8 0x33E8 (.sequence [0x39, 0x65E5])
  (.node (.node .leaf 0x33E9 0x33E9 (.sequence [0x31, 0x30, 0x65E5]) .leaf) 0x33EA 0x33EA
  (.sequence [0x31, 0x31, 0x65E5]) (.node .leaf 0x33EB 0x33EB (.sequence [0x31, 0x32, 0x65E5])
  .leaf))))) 0x33EC 0x33EC (.sequence [0x31, 0x33, 0x65E5]) (.node (.node (.node (.node (.node
  (.node .leaf 0x33ED 0x33ED (.sequence [0x31, 0x34, 0x65E5]) .leaf) 0x33EE 0x33EE (.sequence
  [0x31, 0x35, 0x65E5]) .leaf) 0x33EF 0x33EF (.sequence [0x31, 0x36, 0x65E5]) (.node .leaf
  0x33F0 0x33F0 (.sequence [0x31, 0x37, 0x65E5]) .leaf)) 0x33F1 0x33F1 (.sequence
  [0x31, 0x38, 0x65E5]) (.node (.node .leaf 0x33F2 0x33F2 (.sequence [0x31, 0x39, 0x65E5])
  .leaf) 0x33F3 0x33F3 (.sequence [0x32, 0x30, 0x65E5]) (.node .leaf 0x33F4 0x33F4 (.sequence
  [0x32, 0x31, 0x65E5]) .leaf))) 0x33F5 0x33F5 (.sequence [0x32, 0x32, 0x65E5]) (.node (.node
  (.node .leaf 0x33F6 0x33F6 (.sequence [0x32, 0x33, 0x65E5]) .leaf) 0x33F7 0x33F7 (.sequence
  [0x32, 0x34, 0x65E5]) (.node .leaf 0x33F8 0x33F8 (.sequence [0x32, 0x35, 0x65E5]) .leaf))
  0x33F9 0x33F9 (.sequence [0x32, 0x36, 0x65E5]) (.node (.node .leaf 0x33FA 0x33FA (.sequence
  [0x32, 0x37, 0x65E5]) .leaf) 0x33FB 0x33FB (.sequence [0x32, 0x38, 0x65E5]) (.node .leaf
  0x33FC 0x33FC (.sequence [0x32, 0x39, 0x65E5]) .leaf)))) 0x33FD 0x33FD (.sequence
  [0x33, 0x30, 0x65E5]) (.node (.node (.node (.node (.node .leaf 0x33FE 0x33FE (.sequence
  [0x33, 0x31, 0x65E5]) .leaf) 0x33FF 0x33FF (.sequence [0x67, 0x61, 0x6C]) .leaf) 0xA69C
  0xA69C (.sequence [0x44A]) (.node .leaf 0xA69D 0xA69D (.sequence [0x44C]) .leaf)) 0xA770
  0xA770 (.sequence [0xA76F]) (.node (.node .leaf 0xA7F1 0xA7F1 (.sequence [0x53]) .leaf)
  0xA7F2 0xA7F2 (.sequence [0x43]) (.node .leaf 0xA7F3 0xA7F3 (.sequence [0x46]) .leaf)))
  0xA7F4 0xA7F4 (.sequence [0x51]) (.node (.node (.node .leaf 0xA7F8 0xA7F8 (.sequence [0x126])
  .leaf) 0xA7F9 0xA7F9 (.sequence [0x153]) (.node .leaf 0xAB5C 0xAB5C (.sequence [0xA727])
  .leaf)) 0xAB5D 0xAB5D (.sequence [0xAB37]) (.node (.node .leaf 0xAB5E 0xAB5E (.sequence
  [0x26B]) .leaf) 0xAB5F 0xAB5F (.sequence [0xAB52]) (.node .leaf 0xAB69 0xAB69 (.sequence
  [0x28D]) .leaf))))))))

end StreamTable.Unicode
