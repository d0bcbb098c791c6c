import NetSteward.Text.Composed
/-!
# Prepared texts

Before host names are compared they are prepared: letters are made small,
forms that only look different are folded, and what must not stand in a
name is refused. A prepared text is one that this leaves as it is. It is
composed, holds no character that would be changed or refused, and is
written either to the left from its first to its last character or
without any letter that is.
-/

namespace NetSteward

namespace Prepared

/-- The runs of code points that are changed or refused: the first and
the last, and the step from one to the next. -/
def changedRuns : List (Nat × Nat × Nat) := [
  (128, 160, 1), (168, 170, 2), (173, 175, 2), (178, 181, 1), (184, 186, 1), (188, 190, 1),
  (192, 214, 1), (216, 223, 1), (256, 306, 2), (307, 308, 1), (310, 310, 1), (313, 319, 2),
  (320, 321, 1), (323, 329, 2), (330, 376, 2), (377, 385, 2), (386, 390, 2), (391, 393, 2),
  (394, 395, 1), (398, 401, 1), (403, 404, 1), (406, 408, 1), (412, 413, 1), (415, 416, 1),
  (418, 422, 2), (423, 425, 2), (428, 430, 2), (431, 433, 2), (434, 435, 1), (437, 439, 2),
  (440, 440, 1), (444, 444, 1), (452, 461, 1), (463, 475, 2), (478, 496, 2), (497, 500, 1),
  (502, 504, 1), (506, 562, 2), (570, 571, 1), (573, 574, 1), (577, 579, 2), (580, 582, 1),
  (584, 590, 2), (688, 696, 1), (728, 733, 1), (736, 740, 1), (832, 833, 1), (835, 837, 1),
  (847, 847, 1), (880, 886, 2), (890, 890, 1), (894, 895, 1), (900, 906, 1), (908, 910, 2),
  (911, 929, 1), (931, 939, 1), (944, 944, 1), (962, 962, 1), (975, 982, 1), (984, 1008, 2),
  (1009, 1010, 1), (1012, 1013, 1), (1015, 1017, 2), (1018, 1018, 1), (1021, 1071, 1),
  (1120, 1152, 2), (1162, 1216, 2), (1217, 1229, 2), (1232, 1326, 2), (1329, 1366, 1),
  (1415, 1415, 1), (1653, 1656, 1), (1757, 1757, 1), (1807, 1807, 1), (2392, 2399, 1),
  (2524, 2525, 1), (2527, 2527, 1), (2611, 2611, 1), (2614, 2614, 1), (2649, 2651, 1),
  (2654, 2654, 1), (2908, 2909, 1), (3635, 3635, 1), (3763, 3763, 1), (3804, 3805, 1),
  (3852, 3852, 1), (3907, 3907, 1), (3917, 3917, 1), (3922, 3922, 1), (3927, 3927, 1),
  (3932, 3932, 1), (3945, 3945, 1), (3955, 3957, 2), (3958, 3961, 1), (3969, 3969, 1),
  (3987, 3987, 1), (3997, 3997, 1), (4002, 4002, 1), (4007, 4007, 1), (4012, 4012, 1),
  (4025, 4025, 1), (4256, 4293, 1), (4295, 4295, 1), (4301, 4301, 1), (5024, 5109, 1),
  (5760, 5760, 1), (6150, 6150, 1), (6155, 6158, 1), (7312, 7354, 1), (7357, 7359, 1),
  (7680, 7830, 2), (7831, 7835, 1), (7838, 7934, 2), (7944, 7951, 1), (7960, 7965, 1),
  (7976, 7983, 1), (7992, 7999, 1), (8008, 8013, 1), (8016, 8022, 2), (8025, 8031, 2),
  (8040, 8047, 1), (8049, 8061, 2), (8064, 8111, 1), (8114, 8116, 1), (8118, 8132, 1),
  (8134, 8143, 1), (8146, 8147, 1), (8150, 8155, 1), (8157, 8159, 1), (8162, 8164, 1),
  (8166, 8175, 1), (8178, 8180, 1), (8182, 8190, 1), (8192, 8207, 1), (8209, 8209, 1),
  (8215, 8215, 1), (8228, 8230, 1), (8232, 8239, 1), (8243, 8244, 1), (8246, 8247, 1),
  (8252, 8254, 2), (8263, 8265, 1), (8279, 8279, 1), (8287, 8291, 1), (8298, 8305, 1),
  (8308, 8334, 1), (8360, 8360, 1), (8448, 8451, 1), (8453, 8455, 1), (8457, 8467, 1),
  (8469, 8470, 1), (8473, 8477, 1), (8480, 8482, 1), (8484, 8490, 2), (8491, 8493, 1),
  (8495, 8505, 1), (8509, 8512, 1), (8517, 8521, 1), (8531, 8575, 1), (8579, 8579, 1),
  (8748, 8749, 1), (8751, 8752, 1), (9001, 9002, 1), (9312, 9450, 1), (10764, 10764, 1),
  (10868, 10870, 1), (10972, 10972, 1), (11264, 11311, 1), (11360, 11362, 2), (11363, 11364, 1),
  (11367, 11373, 2), (11374, 11376, 1), (11378, 11378, 1), (11381, 11381, 1), (11390, 11392, 1),
  (11394, 11490, 2), (11499, 11501, 2), (11506, 11506, 1), (11935, 11935, 1), (12019, 12019, 1),
  (12032, 12245, 1), (12272, 12283, 1), (12288, 12288, 1), (12342, 12344, 2), (12345, 12346, 1),
  (12443, 12444, 1), (12447, 12447, 1), (12543, 12543, 1), (12593, 12686, 1), (12690, 12703, 1),
  (12800, 12828, 1), (12832, 12867, 1), (12881, 12923, 1), (12928, 13003, 1), (13008, 13054, 1),
  (13056, 13174, 1), (13179, 13277, 1), (13280, 13310, 1), (42560, 42604, 2), (42624, 42650, 2),
  (42786, 42798, 2), (42802, 42862, 2), (42873, 42877, 2), (42878, 42886, 2), (42891, 42893, 2),
  (42896, 42898, 2), (42902, 42922, 2), (42923, 42926, 1), (42928, 42932, 1), (42934, 42948, 2),
  (42949, 42951, 1), (42953, 42953, 1), (42960, 42960, 1), (42966, 42968, 2), (42997, 42997, 1),
  (55296, 64013, 1), (64016, 64018, 2), (64021, 64030, 1), (64032, 64034, 2), (64037, 64038, 1),
  (64042, 64045, 1), (64048, 64106, 1), (64256, 64262, 1), (64275, 64279, 1), (64285, 64287, 2),
  (64288, 64310, 1), (64312, 64316, 1), (64318, 64320, 2), (64321, 64323, 2), (64324, 64326, 2),
  (64327, 64433, 1), (64467, 64829, 1), (64848, 64911, 1), (64914, 64967, 1), (64976, 65020, 1),
  (65024, 65039, 1), (65072, 65092, 1), (65097, 65106, 1), (65108, 65126, 1), (65128, 65131, 1),
  (65136, 65138, 1), (65140, 65142, 2), (65143, 65276, 1), (65279, 65281, 2), (65282, 65470, 1),
  (65474, 65479, 1), (65482, 65487, 1), (65490, 65495, 1), (65498, 65500, 1), (65504, 65510, 1),
  (65512, 65518, 1), (65529, 65535, 1), (66560, 66599, 1), (66736, 66771, 1), (66928, 66938, 1),
  (66940, 66954, 1), (66956, 66962, 1), (66964, 66965, 1), (68736, 68786, 1), (71840, 71871, 1),
  (93760, 93791, 1), (119134, 119140, 1), (119155, 119162, 1), (119227, 119232, 1),
  (119808, 119892, 1), (119894, 119964, 1), (119966, 119967, 1), (119970, 119970, 1),
  (119973, 119974, 1), (119977, 119980, 1), (119982, 119993, 1), (119995, 119997, 2),
  (119998, 120000, 1), (120002, 120003, 1), (120005, 120069, 1), (120071, 120074, 1),
  (120077, 120084, 1), (120086, 120092, 1), (120094, 120121, 1), (120123, 120126, 1),
  (120128, 120132, 1), (120134, 120134, 1), (120138, 120144, 1), (120146, 120483, 1),
  (120488, 120777, 1), (120782, 120831, 1), (125184, 125217, 1), (131070, 131071, 1),
  (194560, 195101, 1), (196606, 196607, 1), (262142, 262143, 1), (327678, 327679, 1),
  (393214, 393215, 1), (458750, 458751, 1), (524286, 524287, 1), (589822, 589823, 1),
  (655358, 655359, 1), (720894, 720895, 1), (786430, 786431, 1), (851966, 851967, 1),
  (917502, 917503, 1), (917505, 917505, 1), (917536, 917631, 1), (983038, 1114111, 1)]

/-- The ranges of letters that are written to the left. -/
def leftwardRanges : List (Nat × Nat) := [
  (1470, 1470), (1472, 1472), (1475, 1475), (1488, 1514), (1520, 1524), (1563, 1563), (1567, 1567),
  (1569, 1594), (1600, 1610), (1645, 1647), (1649, 1749), (1765, 1766), (1786, 1790), (1792, 1805),
  (1808, 1808), (1810, 1836), (1920, 1957), (1969, 1969), (65139, 65139)]

/-- The ranges of letters that are written to the right. -/
def rightwardRanges : List (Nat × Nat) := [
  (224, 246), (248, 543), (547, 563), (592, 685), (699, 705), (720, 721), (750, 750), (940, 1011),
  (1072, 1154), (1163, 1230), (1233, 1269), (1273, 1273), (1281, 1295), (1369, 1375), (1377, 1414),
  (1417, 1417), (2307, 2307), (2309, 2361), (2365, 2368), (2377, 2380), (2384, 2384), (2400, 2401),
  (2404, 2416), (2434, 2435), (2437, 2444), (2447, 2448), (2451, 2472), (2474, 2480), (2482, 2482),
  (2486, 2489), (2494, 2496), (2503, 2504), (2507, 2508), (2519, 2519), (2528, 2529), (2534, 2545),
  (2548, 2554), (2565, 2570), (2575, 2576), (2579, 2600), (2602, 2608), (2610, 2610), (2613, 2613),
  (2616, 2617), (2622, 2624), (2652, 2652), (2662, 2671), (2674, 2676), (2691, 2691), (2693, 2699),
  (2701, 2701), (2703, 2705), (2707, 2728), (2730, 2736), (2738, 2739), (2741, 2745), (2749, 2752),
  (2761, 2761), (2763, 2764), (2768, 2768), (2784, 2784), (2790, 2799), (2818, 2819), (2821, 2828),
  (2831, 2832), (2835, 2856), (2858, 2864), (2866, 2867), (2870, 2873), (2877, 2878), (2880, 2880),
  (2887, 2888), (2891, 2892), (2903, 2903), (2911, 2913), (2918, 2928), (2947, 2947), (2949, 2954),
  (2958, 2960), (2962, 2965), (2969, 2970), (2972, 2972), (2974, 2975), (2979, 2980), (2984, 2986),
  (2990, 2997), (2999, 3001), (3006, 3007), (3009, 3010), (3014, 3016), (3018, 3020), (3031, 3031),
  (3047, 3058), (3073, 3075), (3077, 3084), (3086, 3088), (3090, 3112), (3114, 3123), (3125, 3129),
  (3137, 3140), (3168, 3169), (3174, 3183), (3202, 3203), (3205, 3212), (3214, 3216), (3218, 3240),
  (3242, 3251), (3253, 3257), (3262, 3262), (3264, 3268), (3271, 3272), (3274, 3275), (3285, 3286),
  (3294, 3294), (3296, 3297), (3302, 3311), (3330, 3331), (3333, 3340), (3342, 3344), (3346, 3368),
  (3370, 3385), (3390, 3392), (3398, 3400), (3402, 3404), (3415, 3415), (3424, 3425), (3430, 3439),
  (3458, 3459), (3461, 3478), (3482, 3505), (3507, 3515), (3517, 3517), (3520, 3526), (3535, 3537),
  (3544, 3551), (3570, 3572), (3585, 3632), (3634, 3634), (3648, 3654), (3663, 3675), (3713, 3714),
  (3716, 3716), (3719, 3720), (3722, 3722), (3725, 3725), (3732, 3735), (3737, 3743), (3745, 3747),
  (3749, 3749), (3751, 3751), (3754, 3755), (3757, 3760), (3762, 3762), (3773, 3773), (3776, 3780),
  (3782, 3782), (3792, 3801), (3840, 3863), (3866, 3892), (3894, 3894), (3896, 3896), (3902, 3911),
  (3913, 3946), (3967, 3967), (3973, 3973), (3976, 3979), (4030, 4037), (4039, 4044), (4047, 4047),
  (4096, 4129), (4131, 4135), (4137, 4138), (4140, 4140), (4145, 4145), (4152, 4152), (4160, 4183),
  (4304, 4344), (4347, 4347), (4352, 4441), (4447, 4514), (4520, 4601), (4608, 4614), (4616, 4678),
  (4680, 4680), (4682, 4685), (4688, 4694), (4696, 4696), (4698, 4701), (4704, 4742), (4744, 4744),
  (4746, 4749), (4752, 4782), (4784, 4784), (4786, 4789), (4792, 4798), (4800, 4800), (4802, 4805),
  (4808, 4814), (4816, 4822), (4824, 4846), (4848, 4878), (4880, 4880), (4882, 4885), (4888, 4894),
  (4896, 4934), (4936, 4954), (4961, 4988), (5121, 5750), (5761, 5786), (5792, 5872), (5888, 5900),
  (5902, 5905), (5920, 5937), (5941, 5942), (5952, 5969), (5984, 5996), (5998, 6000), (6016, 6070),
  (6078, 6085), (6087, 6088), (6100, 6106), (6108, 6108), (6112, 6121), (6160, 6169), (6176, 6263),
  (6272, 6312), (7681, 7829), (7841, 7929), (7936, 7957), (7968, 8005), (8017, 8023), (8032, 8060),
  (8112, 8113), (8144, 8145), (8160, 8165), (8576, 8578), (9014, 9082), (9109, 9109),
  (12293, 12295), (12321, 12329), (12337, 12341), (12347, 12348), (12353, 12438), (12445, 12446),
  (12449, 12538), (12540, 12542), (12549, 12588), (12688, 12727), (12784, 12799), (12927, 12927),
  (13312, 19893), (19968, 40869), (40960, 42124), (44032, 55203), (64014, 64041), (66304, 66334),
  (66336, 66339), (66352, 66378), (66600, 66637), (118784, 119029), (119040, 119078),
  (119082, 119142), (119146, 119154), (119171, 119172), (119180, 119209), (119214, 119261),
  (131072, 173782)]

/-- Whether preparing leaves a code point as it is. -/
def isUnchanged (n : Nat) : Bool :=
  !(65 ≤ n && n ≤ 90) && !changedRuns.any fun (first, last, step) =>
    first ≤ n && n ≤ last && (n - first) % step = 0

/-- Whether a code point is in one of some ranges. -/
def isWithin (ranges : List (Nat × Nat)) (n : Nat) : Bool :=
  ranges.any fun (first, last) => first ≤ n && n ≤ last

/-- Whether a letter is written to the right. -/
def isRightward (n : Nat) : Bool :=
  if n < 128 then (Char.ofNat n).isAlpha else isWithin rightwardRanges n

/-- Whether the directions of code points go together. -/
def isOneWay (ns : List Nat) : Bool :=
  !ns.any (isWithin leftwardRanges) ||
    (!ns.any isRightward && (ns.head?.any (isWithin leftwardRanges)) &&
      (ns.getLast?.any (isWithin leftwardRanges)))

end Prepared

/-- **Whether a text is prepared.** -/
def isPrepared (ns : List Nat) : Bool :=
  ns.all Prepared.isUnchanged && Text.isComposed ns && Prepared.isOneWay ns

end NetSteward
