import NetSteward.Text.Composed
/-!
# Characters that depend on their place

Some characters may stand in a label only in certain company: the joiners
after the sign that takes away a vowel or between letters that join, a
point between two l, signs of Greek and Hebrew numbers beside letters of
these scripts, the middle point of Japanese, and Arabic digits of one
kind only.
-/

namespace NetSteward

namespace Url

namespace Domain

/-- The ranges of letters that join the letter after them. -/
def joiningForwardRanges : List (Nat × Nat) := [
  (1568, 1568), (1574, 1574), (1576, 1576), (1578, 1582), (1587, 1607), (1609, 1610), (1646, 1647),
  (1657, 1671), (1690, 1727), (1729, 1730), (1740, 1740), (1742, 1742), (1744, 1745), (1786, 1788),
  (1791, 1791), (1810, 1812), (1818, 1821), (1823, 1831), (1833, 1833), (1835, 1835), (1837, 1838),
  (1870, 1880), (1884, 1898), (1901, 1904), (1906, 1906), (1909, 1911), (1914, 1919), (1994, 2026),
  (2113, 2117), (2120, 2120), (2122, 2131), (2133, 2133), (2144, 2144), (2146, 2149), (2152, 2152),
  (2182, 2182), (2185, 2189), (2191, 2191), (2208, 2217), (2223, 2224), (2227, 2232), (2234, 2248),
  (6176, 6264), (6279, 6312), (6314, 6314), (43072, 43122), (68288, 68292), (68301, 68301),
  (68307, 68316), (68318, 68320), (68480, 68480), (68482, 68482), (68486, 68488), (68490, 68491),
  (68493, 68493), (68496, 68496), (68864, 68897), (68899, 68899), (69315, 69316), (69318, 69319),
  (69424, 69426), (69428, 69444), (69488, 69491), (69494, 69505), (69552, 69552), (69554, 69555),
  (69560, 69560), (69563, 69564), (69566, 69567), (69569, 69569), (69572, 69572), (125218, 125251)]

/-- The ranges of letters that join the letter before them. -/
def joiningBackRanges : List (Nat × Nat) := [
  (1568, 1568), (1570, 1610), (1646, 1647), (1649, 1651), (1657, 1749), (1774, 1775), (1786, 1788),
  (1791, 1808), (1810, 1839), (1869, 1919), (1994, 2026), (2112, 2136), (2144, 2144), (2146, 2149),
  (2151, 2178), (2182, 2182), (2185, 2191), (2208, 2220), (2222, 2248), (6176, 6264), (6279, 6312),
  (6314, 6314), (43072, 43121), (68288, 68293), (68295, 68298), (68302, 68310), (68312, 68321),
  (68324, 68324), (68480, 68497), (68865, 68899), (69314, 69316), (69318, 69319), (69424, 69444),
  (69488, 69505), (69552, 69552), (69554, 69558), (69560, 69567), (69569, 69572), (125218, 125251)]

/-- The ranges of what joining passes over. -/
def passedRanges : List (Nat × Nat) := [
  (768, 879), (1155, 1159), (1425, 1479), (1552, 1562), (1611, 1631), (1648, 1648), (1750, 1764),
  (1767, 1773), (1809, 1809), (1840, 1866), (1958, 1968), (2027, 2035), (2045, 2045), (2070, 2073),
  (2075, 2083), (2085, 2087), (2089, 2093), (2137, 2139), (2199, 2207), (2250, 2306), (2362, 2362),
  (2364, 2364), (2369, 2376), (2381, 2381), (2385, 2391), (2402, 2403), (2433, 2433), (2492, 2492),
  (2497, 2500), (2509, 2509), (2530, 2531), (2558, 2562), (2620, 2620), (2625, 2641), (2672, 2673),
  (2677, 2690), (2748, 2748), (2753, 2760), (2765, 2765), (2786, 2787), (2810, 2817), (2876, 2876),
  (2879, 2879), (2881, 2884), (2893, 2902), (2914, 2915), (2946, 2946), (3008, 3008), (3021, 3021),
  (3072, 3072), (3076, 3076), (3132, 3132), (3134, 3136), (3142, 3158), (3170, 3171), (3201, 3201),
  (3260, 3260), (3263, 3263), (3270, 3270), (3276, 3277), (3298, 3299), (3328, 3329), (3387, 3388),
  (3393, 3396), (3405, 3405), (3426, 3427), (3457, 3457), (3530, 3530), (3538, 3542), (3633, 3633),
  (3636, 3642), (3655, 3662), (3761, 3761), (3764, 3772), (3784, 3790), (3864, 3865), (3893, 3897),
  (3953, 3966), (3968, 3975), (3981, 4038), (4141, 4144), (4146, 4151), (4153, 4154), (4157, 4158),
  (4184, 4185), (4190, 4192), (4209, 4212), (4226, 4226), (4229, 4230), (4237, 4237), (4253, 4253),
  (4957, 4959), (5906, 5908), (5938, 5939), (5970, 5971), (6002, 6003), (6071, 6077), (6086, 6086),
  (6089, 6099), (6109, 6109), (6277, 6278), (6313, 6313), (6432, 6434), (6439, 6440), (6450, 6450),
  (6457, 6459), (6679, 6680), (6683, 6683), (6742, 6742), (6744, 6752), (6754, 6754), (6757, 6764),
  (6771, 6783), (6832, 6915), (6964, 6964), (6966, 6970), (6972, 6972), (6978, 6978), (7019, 7041),
  (7074, 7077), (7080, 7081), (7083, 7085), (7142, 7142), (7144, 7145), (7149, 7149), (7151, 7153),
  (7212, 7219), (7222, 7223), (7376, 7392), (7394, 7400), (7405, 7405), (7412, 7412), (7416, 7417),
  (7616, 7679), (11503, 11505), (11647, 11647), (11744, 11775), (12330, 12333), (12441, 12442),
  (42607, 42621), (42654, 42655), (42736, 42737), (43010, 43010), (43014, 43014), (43019, 43019),
  (43045, 43046), (43052, 43052), (43204, 43205), (43232, 43249), (43263, 43263), (43302, 43309),
  (43335, 43345), (43392, 43394), (43443, 43443), (43446, 43449), (43452, 43453), (43493, 43493),
  (43561, 43566), (43569, 43570), (43573, 43574), (43587, 43587), (43596, 43596), (43644, 43644),
  (43696, 43696), (43698, 43700), (43703, 43704), (43710, 43711), (43713, 43713), (43756, 43757),
  (43766, 43766), (44005, 44005), (44008, 44008), (44013, 44013), (64286, 65071), (66045, 66045),
  (66272, 66272), (66422, 66426), (68097, 68111), (68152, 68159), (68325, 68326), (68900, 68903),
  (68969, 68973), (69291, 69292), (69370, 69375), (69446, 69456), (69506, 69509), (69633, 69633),
  (69688, 69702), (69744, 69744), (69747, 69748), (69759, 69761), (69811, 69814), (69817, 69826),
  (69888, 69890), (69927, 69931), (69933, 69940), (70003, 70003), (70016, 70017), (70070, 70078),
  (70089, 70092), (70095, 70095), (70191, 70193), (70196, 70196), (70198, 70206), (70209, 70209),
  (70367, 70367), (70371, 70378), (70400, 70401), (70459, 70460), (70464, 70464), (70502, 70516),
  (70587, 70592), (70606, 70606), (70608, 70608), (70610, 70610), (70625, 70626), (70712, 70719),
  (70722, 70724), (70726, 70726), (70750, 70750), (70835, 70840), (70842, 70842), (70847, 70848),
  (70850, 70851), (71090, 71093), (71100, 71101), (71103, 71104), (71132, 71133), (71219, 71226),
  (71229, 71229), (71231, 71232), (71339, 71339), (71341, 71341), (71344, 71349), (71351, 71351),
  (71453, 71453), (71455, 71455), (71458, 71461), (71463, 71467), (71727, 71735), (71737, 71738),
  (71995, 71996), (71998, 71998), (72003, 72003), (72148, 72155), (72160, 72160), (72193, 72202),
  (72243, 72248), (72251, 72263), (72273, 72278), (72281, 72283), (72330, 72342), (72344, 72345),
  (72544, 72544), (72546, 72548), (72550, 72550), (72752, 72765), (72767, 72767), (72850, 72871),
  (72874, 72880), (72882, 72883), (72885, 72886), (73009, 73029), (73031, 73031), (73104, 73105),
  (73109, 73109), (73111, 73111), (73459, 73460), (73472, 73473), (73526, 73530), (73536, 73536),
  (73538, 73538), (73562, 73562), (78912, 78912), (78919, 78933), (90398, 90409), (90413, 90415),
  (92912, 92916), (92976, 92982), (94031, 94031), (94095, 94098), (94180, 94180), (113821, 121519),
  (122880, 123023), (123184, 123190), (123566, 123566), (123628, 123631), (124140, 124143),
  (124398, 124399), (124643, 124643), (124646, 124646), (124654, 124655), (124661, 124661),
  (125136, 125142), (125252, 125259)]

/-- The ranges of Greek. -/
def greekRanges : List (Nat × Nat) := [
  (881, 993), (1011, 1020), (7462, 7466), (7936, 8182), (43877, 43877)]

/-- The ranges of Hebrew. -/
def hebrewRanges : List (Nat × Nat) := [
  (1425, 1524), (64286, 64286)]

/-- The ranges of the scripts of Japanese. -/
def japaneseRanges : List (Nat × Nat) := [
  (12293, 12293), (12295, 12295), (12353, 12438), (12445, 12538), (12541, 12542), (12784, 40959),
  (64014, 64041), (94179, 94179), (94192, 94195), (110576, 110951), (131072, 210041)]

/-- The ranges of marks, with which no label starts. -/
def markRanges : List (Nat × Nat) := [
  (768, 879), (1155, 1159), (1425, 1479), (1552, 1562), (1611, 1631), (1648, 1648), (1750, 1764),
  (1767, 1773), (1809, 1809), (1840, 1866), (1958, 1968), (2027, 2035), (2045, 2045), (2070, 2073),
  (2075, 2083), (2085, 2087), (2089, 2093), (2137, 2139), (2200, 2207), (2250, 2307), (2362, 2364),
  (2366, 2383), (2385, 2391), (2402, 2403), (2433, 2435), (2492, 2492), (2494, 2509), (2519, 2519),
  (2530, 2531), (2558, 2563), (2620, 2641), (2672, 2673), (2677, 2691), (2748, 2748), (2750, 2765),
  (2786, 2787), (2810, 2819), (2876, 2876), (2878, 2903), (2914, 2915), (2946, 2946), (3006, 3021),
  (3031, 3031), (3072, 3076), (3132, 3132), (3134, 3158), (3170, 3171), (3201, 3203), (3260, 3260),
  (3262, 3286), (3298, 3299), (3315, 3331), (3387, 3388), (3390, 3405), (3415, 3415), (3426, 3427),
  (3457, 3459), (3530, 3551), (3570, 3571), (3633, 3633), (3636, 3642), (3655, 3662), (3761, 3761),
  (3764, 3772), (3784, 3790), (3864, 3865), (3893, 3903), (3953, 3975), (3981, 4038), (4139, 4158),
  (4182, 4185), (4190, 4192), (4194, 4196), (4199, 4205), (4209, 4212), (4226, 4237), (4239, 4239),
  (4250, 4253), (4957, 4959), (5906, 5909), (5938, 5940), (5970, 5971), (6002, 6003), (6070, 6099),
  (6109, 6109), (6277, 6278), (6313, 6313), (6432, 6459), (6679, 6683), (6741, 6783), (6832, 6862),
  (6912, 6916), (6964, 6980), (7019, 7042), (7073, 7085), (7142, 7155), (7204, 7223), (7376, 7400),
  (7405, 7405), (7412, 7412), (7415, 7417), (7616, 7679), (11503, 11505), (11647, 11647),
  (11744, 11775), (12330, 12333), (12441, 12442), (42607, 42621), (42654, 42655), (42736, 42737),
  (43010, 43010), (43014, 43014), (43019, 43019), (43043, 43052), (43136, 43137), (43188, 43205),
  (43232, 43249), (43263, 43263), (43302, 43309), (43335, 43395), (43443, 43456), (43493, 43493),
  (43561, 43574), (43587, 43587), (43596, 43597), (43643, 43645), (43696, 43696), (43698, 43700),
  (43703, 43704), (43710, 43711), (43713, 43713), (43755, 43759), (43765, 43766), (44003, 44013),
  (64286, 65071), (66045, 66045), (66272, 66272), (66422, 66426), (68097, 68111), (68152, 68159),
  (68325, 68326), (68900, 68903), (69291, 69292), (69373, 69375), (69446, 69456), (69506, 69509),
  (69632, 69634), (69688, 69702), (69744, 69744), (69747, 69748), (69759, 69762), (69808, 69826),
  (69888, 69890), (69927, 69940), (69957, 69958), (70003, 70003), (70016, 70018), (70067, 70080),
  (70089, 70095), (70188, 70206), (70209, 70209), (70367, 70378), (70400, 70403), (70459, 70460),
  (70462, 70477), (70487, 70487), (70498, 70516), (70709, 70726), (70750, 70750), (70832, 70851),
  (71087, 71104), (71132, 71133), (71216, 71232), (71339, 71351), (71453, 71467), (71724, 71738),
  (71984, 71998), (72000, 72000), (72002, 72003), (72145, 72160), (72164, 72164), (72193, 72202),
  (72243, 72249), (72251, 72263), (72273, 72283), (72330, 72345), (72751, 72767), (72850, 72886),
  (73009, 73029), (73031, 73031), (73098, 73111), (73459, 73473), (73475, 73475), (73524, 73538),
  (78912, 78912), (78919, 78933), (92912, 92916), (92976, 92982), (94031, 94031), (94033, 94098),
  (94180, 94193), (113821, 121519), (122880, 123023), (123184, 123190), (123566, 123566),
  (123628, 123631), (124140, 124143), (125136, 125142), (125252, 125258)]

/-- Whether a code point is in one of some ranges. -/
def isWithin (ranges : List (Nat × Nat)) (n : Nat) : Bool :=
  ranges.any fun (first, last) => first ≤ n && n ≤ last

/-- The class of the sign that takes away a vowel. -/
def vowelKillerClass : Nat := 9

/-- Whether the last of the code points before a place, given in reverse,
takes away a vowel. -/
def isAfterVowelKiller (before : List Nat) : Bool :=
  match before with
  | n :: _ => Text.Composed.classOf n == vowelKillerClass
  | [] => false

/-- Whether the nearest letter to a place is in one of some ranges. -/
def hasNearest (ranges : List (Nat × Nat)) (ns : List Nat) : Bool :=
  match ns.dropWhile (isWithin passedRanges) with
  | n :: _ => isWithin ranges n
  | [] => false

/-- Whether a digit of the Arabic script is of the one kind. -/
def isArabicDigit (n : Nat) : Bool := 0x660 ≤ n && n ≤ 0x669

/-- Whether a digit of the Arabic script is of the other kind. -/
def isExtendedDigit (n : Nat) : Bool := 0x6F0 ≤ n && n ≤ 0x6F9

/-- Whether a code point may stand between those before it, given in
reverse, and those after it. -/
def fitsPlace (before : List Nat) (n : Nat) (after : List Nat) : Bool :=
  if n = 0x200C then
    isAfterVowelKiller before ||
      (hasNearest joiningForwardRanges before && hasNearest joiningBackRanges after)
  else if n = 0x200D then isAfterVowelKiller before
  else if n = 0xB7 then before.head? == some 0x6C && after.head? == some 0x6C
  else if n = 0x375 then (after.take 1).any (isWithin greekRanges)
  else if n = 0x5F3 ∨ n = 0x5F4 then (before.take 1).any (isWithin hebrewRanges)
  else if n = 0x30FB then (before ++ after).any (isWithin japaneseRanges)
  else if isArabicDigit n then !(before ++ after).any isExtendedDigit
  else if isExtendedDigit n then !(before ++ after).any isArabicDigit
  else false

end Domain

end Url

end NetSteward
