import ScopeQuery.Unicode.CharSet

/-!
# Scripts

The scripts that characters belong to, each by the reduced spellings of its name
and the boundaries of its characters. Some characters are shared by several
scripts; with the extensions, a script has those of them that it uses, and the two
scripts of common and inherited characters have none.
-/

namespace ScopeQuery.Unicode

/-- A script: its spellings, reduced to lowercase letters, and its characters. -/
structure Script where
  /-- The reduced spellings of the name. -/
  spellings : List String
  /-- The boundaries of the set of its characters. -/
  bounds : List Nat

/-- The scripts with names from A to C. -/
def scriptsAToC : List Script := [
  ⟨["adlm", "adlam"], [125184, 125260, 125264, 125274, 125278, 125280]⟩,
  ⟨["ahom"], [71424, 71451, 71453, 71468, 71472, 71495]⟩,
  ⟨["hluw", "anatolianhieroglyphs"], [82944, 83527]⟩,
  ⟨["arab", "arabic"], [1536, 1541, 1542, 1548, 1549, 1563, 1564, 1567, 1568, 1600, 1601, 1611,
    1622, 1648, 1649, 1757, 1758, 1792, 1872, 1920, 2160, 2191, 2192, 2194, 2199, 2274, 2275,
    2304, 64336, 64451, 64467, 64830, 64832, 64912, 64914, 64968, 64975, 64976, 65008, 65024,
    65136, 65141, 65142, 65277, 69216, 69247, 69314, 69317, 69372, 69376, 126464, 126468,
    126469, 126496, 126497, 126499, 126500, 126501, 126503, 126504, 126505, 126515, 126516,
    126520, 126521, 126522, 126523, 126524, 126530, 126531, 126535, 126536, 126537, 126538,
    126539, 126540, 126541, 126544, 126545, 126547, 126548, 126549, 126551, 126552, 126553,
    126554, 126555, 126556, 126557, 126558, 126559, 126560, 126561, 126563, 126564, 126565,
    126567, 126571, 126572, 126579, 126580, 126584, 126585, 126589, 126590, 126591, 126592,
    126602, 126603, 126620, 126625, 126628, 126629, 126634, 126635, 126652, 126704, 126706]⟩,
  ⟨["armn", "armenian"], [1329, 1367, 1369, 1419, 1421, 1424, 64275, 64280]⟩,
  ⟨["avst", "avestan"], [68352, 68406, 68409, 68416]⟩,
  ⟨["bali", "balinese"], [6912, 6989, 6990, 7040]⟩,
  ⟨["bamu", "bamum"], [42656, 42744, 92160, 92729]⟩,
  ⟨["bass", "bassavah"], [92880, 92910, 92912, 92918]⟩,
  ⟨["batk", "batak"], [7104, 7156, 7164, 7168]⟩,
  ⟨["beng", "bengali"], [2432, 2436, 2437, 2445, 2447, 2449, 2451, 2473, 2474, 2481, 2482, 2483,
    2486, 2490, 2492, 2501, 2503, 2505, 2507, 2511, 2519, 2520, 2524, 2526, 2527, 2532, 2534,
    2559]⟩,
  ⟨["bhks", "bhaiksuki"], [72704, 72713, 72714, 72759, 72760, 72774, 72784, 72813]⟩,
  ⟨["bopo", "bopomofo"], [746, 748, 12549, 12592, 12704, 12736]⟩,
  ⟨["brah", "brahmi"], [69632, 69710, 69714, 69750, 69759, 69760]⟩,
  ⟨["brai", "braille"], [10240, 10496]⟩,
  ⟨["bugi", "buginese"], [6656, 6684, 6686, 6688]⟩,
  ⟨["buhd", "buhid"], [5952, 5972]⟩,
  ⟨["cans", "canadianaboriginal"], [5120, 5760, 6320, 6390, 72368, 72384]⟩,
  ⟨["cari", "carian"], [66208, 66257]⟩,
  ⟨["aghb", "caucasianalbanian"], [66864, 66916, 66927, 66928]⟩,
  ⟨["cakm", "chakma"], [69888, 69941, 69942, 69960]⟩,
  ⟨["cham"], [43520, 43575, 43584, 43598, 43600, 43610, 43612, 43616]⟩,
  ⟨["cher", "cherokee"], [5024, 5110, 5112, 5118, 43888, 43968]⟩,
  ⟨["chrs", "chorasmian"], [69552, 69580]⟩,
  ⟨["zyyy", "common"], [0, 65, 91, 97, 123, 170, 171, 186, 187, 192, 215, 216, 247, 248, 697,
    736, 741, 746, 748, 768, 884, 885, 894, 895, 901, 902, 903, 904, 1541, 1542, 1548, 1549,
    1563, 1564, 1567, 1568, 1600, 1601, 1757, 1758, 2274, 2275, 2404, 2406, 3647, 3648, 4053,
    4057, 4347, 4348, 5867, 5870, 5941, 5943, 6146, 6148, 6149, 6150, 7379, 7380, 7393, 7394,
    7401, 7405, 7406, 7412, 7413, 7416, 7418, 7419, 8192, 8204, 8206, 8293, 8294, 8305, 8308,
    8319, 8320, 8335, 8352, 8385, 8448, 8486, 8487, 8490, 8492, 8498, 8499, 8526, 8527, 8544,
    8585, 8588, 8592, 9258, 9280, 9291, 9312, 10240, 10496, 11124, 11126, 11158, 11159, 11264,
    11776, 11870, 12272, 12293, 12294, 12295, 12296, 12321, 12336, 12344, 12348, 12352, 12443,
    12445, 12448, 12449, 12539, 12541, 12688, 12704, 12736, 12774, 12783, 12784, 12832, 12896,
    12927, 13008, 13055, 13056, 13144, 13312, 19904, 19968, 42752, 42786, 42888, 42891, 43056,
    43066, 43310, 43311, 43471, 43472, 43867, 43868, 43882, 43884, 64830, 64832, 65040, 65050,
    65072, 65107, 65108, 65127, 65128, 65132, 65279, 65280, 65281, 65313, 65339, 65345, 65371,
    65382, 65392, 65393, 65438, 65440, 65504, 65511, 65512, 65519, 65529, 65534, 65792, 65795,
    65799, 65844, 65847, 65856, 65936, 65949, 66000, 66045, 66273, 66300, 113824, 113828,
    117760, 118010, 118016, 118452, 118608, 118724, 118784, 119030, 119040, 119079, 119081,
    119143, 119146, 119163, 119171, 119173, 119180, 119210, 119214, 119275, 119488, 119508,
    119520, 119540, 119552, 119639, 119648, 119673, 119808, 119893, 119894, 119965, 119966,
    119968, 119970, 119971, 119973, 119975, 119977, 119981, 119982, 119994, 119995, 119996,
    119997, 120004, 120005, 120070, 120071, 120075, 120077, 120085, 120086, 120093, 120094,
    120122, 120123, 120127, 120128, 120133, 120134, 120135, 120138, 120145, 120146, 120486,
    120488, 120780, 120782, 120832, 126065, 126133, 126209, 126270, 126976, 127020, 127024,
    127124, 127136, 127151, 127153, 127168, 127169, 127184, 127185, 127222, 127232, 127406,
    127462, 127488, 127489, 127491, 127504, 127548, 127552, 127561, 127568, 127570, 127584,
    127590, 127744, 128728, 128732, 128749, 128752, 128765, 128768, 128887, 128891, 128986,
    128992, 129004, 129008, 129009, 129024, 129036, 129040, 129096, 129104, 129114, 129120,
    129160, 129168, 129198, 129200, 129212, 129216, 129218, 129280, 129620, 129632, 129646,
    129648, 129661, 129664, 129674, 129679, 129735, 129742, 129757, 129759, 129770, 129776,
    129785, 129792, 129939, 129940, 130042, 917505, 917506, 917536, 917632]⟩,
  ⟨["copt", "qaac", "coptic"], [994, 1008, 11392, 11508, 11513, 11520]⟩,
  ⟨["xsux", "cuneiform"], [73728, 74650, 74752, 74863, 74864, 74869, 74880, 75076]⟩,
  ⟨["cprt", "cypriot"], [67584, 67590, 67592, 67593, 67594, 67638, 67639, 67641, 67644, 67645,
    67647, 67648]⟩,
  ⟨["cpmn", "cyprominoan"], [77712, 77811]⟩,
  ⟨["cyrl", "cyrillic"], [1024, 1157, 1159, 1328, 7296, 7307, 7467, 7468, 7544, 7545, 11744,
    11776, 42560, 42656, 65070, 65072, 122928, 122990, 123023, 123024]⟩]

/-- The scripts with names from D to I. -/
def scriptsDToI : List Script := [
  ⟨["dsrt", "deseret"], [66560, 66640]⟩,
  ⟨["deva", "devanagari"], [2304, 2385, 2389, 2404, 2406, 2432, 43232, 43264, 72448, 72458]⟩,
  ⟨["diak", "divesakuru"], [71936, 71943, 71945, 71946, 71948, 71956, 71957, 71959, 71960,
    71990, 71991, 71993, 71995, 72007, 72016, 72026]⟩,
  ⟨["dogr", "dogra"], [71680, 71740]⟩,
  ⟨["dupl", "duployan"], [113664, 113771, 113776, 113789, 113792, 113801, 113808, 113818,
    113820, 113824]⟩,
  ⟨["egyp", "egyptianhieroglyphs"], [77824, 78934, 78944, 82939]⟩,
  ⟨["elba", "elbasan"], [66816, 66856]⟩,
  ⟨["elym", "elymaic"], [69600, 69623]⟩,
  ⟨["ethi", "ethiopic"], [4608, 4681, 4682, 4686, 4688, 4695, 4696, 4697, 4698, 4702, 4704,
    4745, 4746, 4750, 4752, 4785, 4786, 4790, 4792, 4799, 4800, 4801, 4802, 4806, 4808, 4823,
    4824, 4881, 4882, 4886, 4888, 4955, 4957, 4989, 4992, 5018, 11648, 11671, 11680, 11687,
    11688, 11695, 11696, 11703, 11704, 11711, 11712, 11719, 11720, 11727, 11728, 11735, 11736,
    11743, 43777, 43783, 43785, 43791, 43793, 43799, 43808, 43815, 43816, 43823, 124896, 124903,
    124904, 124908, 124909, 124911, 124912, 124927]⟩,
  ⟨["gara", "garay"], [68928, 68966, 68969, 68998, 69006, 69008]⟩,
  ⟨["geor", "georgian"], [4256, 4294, 4295, 4296, 4301, 4302, 4304, 4347, 4348, 4352, 7312,
    7355, 7357, 7360, 11520, 11558, 11559, 11560, 11565, 11566]⟩,
  ⟨["glag", "glagolitic"], [11264, 11360, 122880, 122887, 122888, 122905, 122907, 122914,
    122915, 122917, 122918, 122923]⟩,
  ⟨["goth", "gothic"], [66352, 66379]⟩,
  ⟨["gran", "grantha"], [70400, 70404, 70405, 70413, 70415, 70417, 70419, 70441, 70442, 70449,
    70450, 70452, 70453, 70458, 70460, 70469, 70471, 70473, 70475, 70478, 70480, 70481, 70487,
    70488, 70493, 70500, 70502, 70509, 70512, 70517]⟩,
  ⟨["grek", "greek"], [880, 884, 885, 888, 890, 894, 895, 896, 900, 901, 902, 903, 904, 907,
    908, 909, 910, 930, 931, 994, 1008, 1024, 7462, 7467, 7517, 7522, 7526, 7531, 7615, 7616,
    7936, 7958, 7960, 7966, 7968, 8006, 8008, 8014, 8016, 8024, 8025, 8026, 8027, 8028, 8029,
    8030, 8031, 8062, 8064, 8117, 8118, 8133, 8134, 8148, 8150, 8156, 8157, 8176, 8178, 8181,
    8182, 8191, 8486, 8487, 43877, 43878, 65856, 65935, 65952, 65953, 119296, 119366]⟩,
  ⟨["gujr", "gujarati"], [2689, 2692, 2693, 2702, 2703, 2706, 2707, 2729, 2730, 2737, 2738,
    2740, 2741, 2746, 2748, 2758, 2759, 2762, 2763, 2766, 2768, 2769, 2784, 2788, 2790, 2802,
    2809, 2816]⟩,
  ⟨["gong", "gunjalagondi"], [73056, 73062, 73063, 73065, 73066, 73103, 73104, 73106, 73107,
    73113, 73120, 73130]⟩,
  ⟨["guru", "gurmukhi"], [2561, 2564, 2565, 2571, 2575, 2577, 2579, 2601, 2602, 2609, 2610,
    2612, 2613, 2615, 2616, 2618, 2620, 2621, 2622, 2627, 2631, 2633, 2635, 2638, 2641, 2642,
    2649, 2653, 2654, 2655, 2662, 2679]⟩,
  ⟨["gukh", "gurungkhema"], [90368, 90426]⟩,
  ⟨["hani", "han"], [11904, 11930, 11931, 12020, 12032, 12246, 12293, 12294, 12295, 12296,
    12321, 12330, 12344, 12348, 13312, 19904, 19968, 40960, 63744, 64110, 64112, 64218, 94178,
    94180, 94192, 94194, 131072, 173792, 173824, 177978, 177984, 178206, 178208, 183970, 183984,
    191457, 191472, 192094, 194560, 195102, 196608, 201547, 201552, 205744]⟩,
  ⟨["hang", "hangul"], [4352, 4608, 12334, 12336, 12593, 12687, 12800, 12831, 12896, 12927,
    43360, 43389, 44032, 55204, 55216, 55239, 55243, 55292, 65440, 65471, 65474, 65480, 65482,
    65488, 65490, 65496, 65498, 65501]⟩,
  ⟨["rohg", "hanifirohingya"], [68864, 68904, 68912, 68922]⟩,
  ⟨["hano", "hanunoo"], [5920, 5941]⟩,
  ⟨["hatr", "hatran"], [67808, 67827, 67828, 67830, 67835, 67840]⟩,
  ⟨["hebr", "hebrew"], [1425, 1480, 1488, 1515, 1519, 1525, 64285, 64311, 64312, 64317, 64318,
    64319, 64320, 64322, 64323, 64325, 64326, 64336]⟩,
  ⟨["hira", "hiragana"], [12353, 12439, 12445, 12448, 110593, 110880, 110898, 110899, 110928,
    110931, 127488, 127489]⟩,
  ⟨["armi", "imperialaramaic"], [67648, 67670, 67671, 67680]⟩,
  ⟨["qaai", "zinh", "inherited"], [768, 880, 1157, 1159, 1611, 1622, 1648, 1649, 2385, 2389,
    6832, 6863, 7376, 7379, 7380, 7393, 7394, 7401, 7405, 7406, 7412, 7413, 7416, 7418, 7616,
    7680, 8204, 8206, 8400, 8433, 12330, 12334, 12441, 12443, 65024, 65040, 65056, 65070, 66045,
    66046, 66272, 66273, 70459, 70460, 118528, 118574, 118576, 118599, 119143, 119146, 119163,
    119171, 119173, 119180, 119210, 119214, 917760, 918000]⟩,
  ⟨["phli", "inscriptionalpahlavi"], [68448, 68467, 68472, 68480]⟩,
  ⟨["prti", "inscriptionalparthian"], [68416, 68438, 68440, 68448]⟩]

/-- The scripts with names from J to M. -/
def scriptsJToM : List Script := [
  ⟨["java", "javanese"], [43392, 43470, 43472, 43482, 43486, 43488]⟩,
  ⟨["kthi", "kaithi"], [69760, 69827, 69837, 69838]⟩,
  ⟨["knda", "kannada"], [3200, 3213, 3214, 3217, 3218, 3241, 3242, 3252, 3253, 3258, 3260, 3269,
    3270, 3273, 3274, 3278, 3285, 3287, 3293, 3295, 3296, 3300, 3302, 3312, 3313, 3316]⟩,
  ⟨["kana", "katakana"], [12449, 12539, 12541, 12544, 12784, 12800, 13008, 13055, 13056, 13144,
    65382, 65392, 65393, 65438, 110576, 110580, 110581, 110588, 110589, 110591, 110592, 110593,
    110880, 110883, 110933, 110934, 110948, 110952]⟩,
  ⟨["kawi"], [73472, 73489, 73490, 73531, 73534, 73563]⟩,
  ⟨["kali", "kayahli"], [43264, 43310, 43311, 43312]⟩,
  ⟨["khar", "kharoshthi"], [68096, 68100, 68101, 68103, 68108, 68116, 68117, 68120, 68121,
    68150, 68152, 68155, 68159, 68169, 68176, 68185]⟩,
  ⟨["kits", "khitansmallscript"], [94180, 94181, 101120, 101590, 101631, 101632]⟩,
  ⟨["khmr", "khmer"], [6016, 6110, 6112, 6122, 6128, 6138, 6624, 6656]⟩,
  ⟨["khoj", "khojki"], [70144, 70162, 70163, 70210]⟩,
  ⟨["sind", "khudawadi"], [70320, 70379, 70384, 70394]⟩,
  ⟨["krai", "kiratrai"], [93504, 93562]⟩,
  ⟨["laoo", "lao"], [3713, 3715, 3716, 3717, 3718, 3723, 3724, 3748, 3749, 3750, 3751, 3774,
    3776, 3781, 3782, 3783, 3784, 3791, 3792, 3802, 3804, 3808]⟩,
  ⟨["latn", "latin"], [65, 91, 97, 123, 170, 171, 186, 187, 192, 215, 216, 247, 248, 697, 736,
    741, 7424, 7462, 7468, 7517, 7522, 7526, 7531, 7544, 7545, 7615, 7680, 7936, 8305, 8306,
    8319, 8320, 8336, 8349, 8490, 8492, 8498, 8499, 8526, 8527, 8544, 8585, 11360, 11392, 42786,
    42888, 42891, 42958, 42960, 42962, 42963, 42964, 42965, 42973, 42994, 43008, 43824, 43867,
    43868, 43877, 43878, 43882, 64256, 64263, 65313, 65339, 65345, 65371, 67456, 67462, 67463,
    67505, 67506, 67515, 122624, 122655, 122661, 122667]⟩,
  ⟨["lepc", "lepcha"], [7168, 7224, 7227, 7242, 7245, 7248]⟩,
  ⟨["limb", "limbu"], [6400, 6431, 6432, 6444, 6448, 6460, 6464, 6465, 6468, 6480]⟩,
  ⟨["lina", "lineara"], [67072, 67383, 67392, 67414, 67424, 67432]⟩,
  ⟨["linb", "linearb"], [65536, 65548, 65549, 65575, 65576, 65595, 65596, 65598, 65599, 65614,
    65616, 65630, 65664, 65787]⟩,
  ⟨["lisu"], [42192, 42240, 73648, 73649]⟩,
  ⟨["lyci", "lycian"], [66176, 66205]⟩,
  ⟨["lydi", "lydian"], [67872, 67898, 67903, 67904]⟩,
  ⟨["mahj", "mahajani"], [69968, 70007]⟩,
  ⟨["maka", "makasar"], [73440, 73465]⟩,
  ⟨["mlym", "malayalam"], [3328, 3341, 3342, 3345, 3346, 3397, 3398, 3401, 3402, 3408, 3412,
    3428, 3430, 3456]⟩,
  ⟨["mand", "mandaic"], [2112, 2140, 2142, 2143]⟩,
  ⟨["mani", "manichaean"], [68288, 68327, 68331, 68343]⟩,
  ⟨["marc", "marchen"], [72816, 72848, 72850, 72872, 72873, 72887]⟩,
  ⟨["gonm", "masaramgondi"], [72960, 72967, 72968, 72970, 72971, 73015, 73018, 73019, 73020,
    73022, 73023, 73032, 73040, 73050]⟩,
  ⟨["medf", "medefaidrin"], [93760, 93851]⟩,
  ⟨["mtei", "meeteimayek"], [43744, 43767, 43968, 44014, 44016, 44026]⟩,
  ⟨["mend", "mendekikakui"], [124928, 125125, 125127, 125143]⟩,
  ⟨["merc", "meroiticcursive"], [68000, 68024, 68028, 68048, 68050, 68096]⟩,
  ⟨["mero", "meroitichieroglyphs"], [67968, 68000]⟩,
  ⟨["plrd", "miao"], [93952, 94027, 94031, 94088, 94095, 94112]⟩,
  ⟨["modi"], [71168, 71237, 71248, 71258]⟩,
  ⟨["mong", "mongolian"], [6144, 6146, 6148, 6149, 6150, 6170, 6176, 6265, 6272, 6315, 71264,
    71277]⟩,
  ⟨["mroo", "mro"], [92736, 92767, 92768, 92778, 92782, 92784]⟩,
  ⟨["mult", "multani"], [70272, 70279, 70280, 70281, 70282, 70286, 70287, 70302, 70303, 70314]⟩,
  ⟨["mymr", "myanmar"], [4096, 4256, 43488, 43519, 43616, 43648, 71376, 71396]⟩]

/-- The scripts with names from N to R. -/
def scriptsNToR : List Script := [
  ⟨["nbat", "nabataean"], [67712, 67743, 67751, 67760]⟩,
  ⟨["nagm", "nagmundari"], [124112, 124154]⟩,
  ⟨["nand", "nandinagari"], [72096, 72104, 72106, 72152, 72154, 72165]⟩,
  ⟨["talu", "newtailue"], [6528, 6572, 6576, 6602, 6608, 6619, 6622, 6624]⟩,
  ⟨["newa"], [70656, 70748, 70749, 70754]⟩,
  ⟨["nkoo", "nko"], [1984, 2043, 2045, 2048]⟩,
  ⟨["nshu", "nushu"], [94177, 94178, 110960, 111356]⟩,
  ⟨["hmnp", "nyiakengpuachuehmong"], [123136, 123181, 123184, 123198, 123200, 123210, 123214,
    123216]⟩,
  ⟨["ogam", "ogham"], [5760, 5789]⟩,
  ⟨["olck", "olchiki"], [7248, 7296]⟩,
  ⟨["onao", "olonal"], [124368, 124411, 124415, 124416]⟩,
  ⟨["hung", "oldhungarian"], [68736, 68787, 68800, 68851, 68858, 68864]⟩,
  ⟨["ital", "olditalic"], [66304, 66340, 66349, 66352]⟩,
  ⟨["narb", "oldnortharabian"], [68224, 68256]⟩,
  ⟨["perm", "oldpermic"], [66384, 66427]⟩,
  ⟨["xpeo", "oldpersian"], [66464, 66500, 66504, 66518]⟩,
  ⟨["sogo", "oldsogdian"], [69376, 69416]⟩,
  ⟨["sarb", "oldsoutharabian"], [68192, 68224]⟩,
  ⟨["orkh", "oldturkic"], [68608, 68681]⟩,
  ⟨["ougr", "olduyghur"], [69488, 69514]⟩,
  ⟨["orya", "oriya"], [2817, 2820, 2821, 2829, 2831, 2833, 2835, 2857, 2858, 2865, 2866, 2868,
    2869, 2874, 2876, 2885, 2887, 2889, 2891, 2894, 2901, 2904, 2908, 2910, 2911, 2916, 2918,
    2936]⟩,
  ⟨["osge", "osage"], [66736, 66772, 66776, 66812]⟩,
  ⟨["osma", "osmanya"], [66688, 66718, 66720, 66730]⟩,
  ⟨["hmng", "pahawhhmong"], [92928, 92998, 93008, 93018, 93019, 93026, 93027, 93048, 93053,
    93072]⟩,
  ⟨["palm", "palmyrene"], [67680, 67712]⟩,
  ⟨["pauc", "paucinhau"], [72384, 72441]⟩,
  ⟨["phag", "phagspa"], [43072, 43128]⟩,
  ⟨["phnx", "phoenician"], [67840, 67868, 67871, 67872]⟩,
  ⟨["phlp", "psalterpahlavi"], [68480, 68498, 68505, 68509, 68521, 68528]⟩,
  ⟨["rjng", "rejang"], [43312, 43348, 43359, 43360]⟩,
  ⟨["runr", "runic"], [5792, 5867, 5870, 5881]⟩]

/-- The scripts with names from S to Z. -/
def scriptsSToZ : List Script := [
  ⟨["samr", "samaritan"], [2048, 2094, 2096, 2111]⟩,
  ⟨["saur", "saurashtra"], [43136, 43206, 43214, 43226]⟩,
  ⟨["shrd", "sharada"], [70016, 70112]⟩,
  ⟨["shaw", "shavian"], [66640, 66688]⟩,
  ⟨["sidd", "siddham"], [71040, 71094, 71096, 71134]⟩,
  ⟨["sgnw", "signwriting"], [120832, 121484, 121499, 121504, 121505, 121520]⟩,
  ⟨["sinh", "sinhala"], [3457, 3460, 3461, 3479, 3482, 3506, 3507, 3516, 3517, 3518, 3520, 3527,
    3530, 3531, 3535, 3541, 3542, 3543, 3544, 3552, 3558, 3568, 3570, 3573, 70113, 70133]⟩,
  ⟨["sogd", "sogdian"], [69424, 69466]⟩,
  ⟨["sora", "sorasompeng"], [69840, 69865, 69872, 69882]⟩,
  ⟨["soyo", "soyombo"], [72272, 72355]⟩,
  ⟨["sund", "sundanese"], [7040, 7104, 7360, 7368]⟩,
  ⟨["sunu", "sunuwar"], [72640, 72674, 72688, 72698]⟩,
  ⟨["sylo", "sylotinagri"], [43008, 43053]⟩,
  ⟨["syrc", "syriac"], [1792, 1806, 1807, 1867, 1869, 1872, 2144, 2155]⟩,
  ⟨["tglg", "tagalog"], [5888, 5910, 5919, 5920]⟩,
  ⟨["tagb", "tagbanwa"], [5984, 5997, 5998, 6001, 6002, 6004]⟩,
  ⟨["tale", "taile"], [6480, 6510, 6512, 6517]⟩,
  ⟨["lana", "taitham"], [6688, 6751, 6752, 6781, 6783, 6794, 6800, 6810, 6816, 6830]⟩,
  ⟨["tavt", "taiviet"], [43648, 43715, 43739, 43744]⟩,
  ⟨["takr", "takri"], [71296, 71354, 71360, 71370]⟩,
  ⟨["taml", "tamil"], [2946, 2948, 2949, 2955, 2958, 2961, 2962, 2966, 2969, 2971, 2972, 2973,
    2974, 2976, 2979, 2981, 2984, 2987, 2990, 3002, 3006, 3011, 3014, 3017, 3018, 3022, 3024,
    3025, 3031, 3032, 3046, 3067, 73664, 73714, 73727, 73728]⟩,
  ⟨["tnsa", "tangsa"], [92784, 92863, 92864, 92874]⟩,
  ⟨["tang", "tangut"], [94176, 94177, 94208, 100344, 100352, 101120, 101632, 101641]⟩,
  ⟨["telu", "telugu"], [3072, 3085, 3086, 3089, 3090, 3113, 3114, 3130, 3132, 3141, 3142, 3145,
    3146, 3150, 3157, 3159, 3160, 3163, 3165, 3166, 3168, 3172, 3174, 3184, 3191, 3200]⟩,
  ⟨["thaa", "thaana"], [1920, 1970]⟩,
  ⟨["thai"], [3585, 3643, 3648, 3676]⟩,
  ⟨["tibt", "tibetan"], [3840, 3912, 3913, 3949, 3953, 3992, 3993, 4029, 4030, 4045, 4046, 4053,
    4057, 4059]⟩,
  ⟨["tfng", "tifinagh"], [11568, 11624, 11631, 11633, 11647, 11648]⟩,
  ⟨["tirh", "tirhuta"], [70784, 70856, 70864, 70874]⟩,
  ⟨["todr", "todhri"], [67008, 67060]⟩,
  ⟨["toto"], [123536, 123567]⟩,
  ⟨["tutg", "tulutigalari"], [70528, 70538, 70539, 70540, 70542, 70543, 70544, 70582, 70583,
    70593, 70594, 70595, 70597, 70598, 70599, 70603, 70604, 70614, 70615, 70617, 70625, 70627]⟩,
  ⟨["ugar", "ugaritic"], [66432, 66462, 66463, 66464]⟩,
  ⟨["vaii", "vai"], [42240, 42540]⟩,
  ⟨["vith", "vithkuqi"], [66928, 66939, 66940, 66955, 66956, 66963, 66964, 66966, 66967, 66978,
    66979, 66994, 66995, 67002, 67003, 67005]⟩,
  ⟨["wcho", "wancho"], [123584, 123642, 123647, 123648]⟩,
  ⟨["wara", "warangciti"], [71840, 71923, 71935, 71936]⟩,
  ⟨["yezi", "yezidi"], [69248, 69290, 69291, 69294, 69296, 69298]⟩,
  ⟨["yiii", "yi"], [40960, 42125, 42128, 42183]⟩,
  ⟨["zanb", "zanabazarsquare"], [72192, 72264]⟩]

/-- All scripts. -/
def scripts : List Script := scriptsAToC ++ scriptsDToI ++ scriptsJToM ++ scriptsNToR ++ scriptsSToZ

/-- The characters that scripts share, each script by its shortest spelling. -/
def sharedChars : List (String × List Nat) := [
  ("adlm", [1567, 1568, 1600, 1601, 8271, 8272, 11841, 11842]),
  ("arab", [1548, 1549, 1563, 1564, 1567, 1568, 1600, 1601, 1611, 1622, 1648, 1649, 8271, 8272,
    11841, 11842, 64830, 64832, 66272, 66300]),
  ("armn", [776, 777]),
  ("avst", [183, 184, 11824, 11826]),
  ("beng", [700, 701, 2385, 2387, 2404, 2406, 7376, 7377, 7378, 7379, 7381, 7383, 7384, 7385,
    7393, 7394, 7402, 7403, 7405, 7406, 7410, 7411, 7413, 7416, 43249, 43250]),
  ("bopo", [711, 712, 713, 716, 729, 730, 12289, 12292, 12296, 12306, 12307, 12320, 12330,
    12334, 12336, 12337, 12343, 12344, 12539, 12540, 65093, 65095, 65377, 65382]),
  ("bugi", [43471, 43472]),
  ("buhd", [5941, 5943]),
  ("cari", [183, 184, 8282, 8283, 8285, 8286, 11825, 11826]),
  ("aghb", [772, 773, 817, 818, 862, 863]),
  ("cakm", [2534, 2544, 4160, 4170]),
  ("cher", [768, 771, 772, 773, 779, 781, 803, 805, 816, 818]),
  ("copt", [183, 184, 768, 769, 772, 774, 775, 776, 884, 886, 11799, 11800, 66272, 66300]),
  ("cprt", [65792, 65795, 65799, 65844, 65847, 65856]),
  ("cpmn", [65792, 65794]),
  ("cyrl", [700, 701, 768, 771, 772, 773, 774, 775, 776, 777, 779, 780, 785, 786, 1157, 1159,
    7672, 7673, 11843, 11844]),
  ("deva", [700, 701, 2385, 2387, 2404, 2406, 7376, 7415, 7416, 7418, 8432, 8433, 43056, 43066]),
  ("dogr", [2404, 2416, 43056, 43066]),
  ("dupl", [183, 184, 775, 777, 778, 779, 803, 805, 11836, 11837, 113824, 113828]),
  ("elba", [183, 184, 773, 774]),
  ("ethi", [782, 783]),
  ("gara", [1548, 1549, 1563, 1564, 1567, 1568]),
  ("geor", [183, 184, 1417, 1418, 4347, 4348, 8282, 8283, 11825, 11826]),
  ("glag", [183, 184, 771, 772, 773, 774, 1156, 1157, 1159, 1160, 1417, 1418, 4347, 4348, 8282,
    8283, 11843, 11844, 42607, 42608]),
  ("goth", [183, 184, 772, 774, 776, 777, 817, 818]),
  ("gran", [2385, 2387, 2404, 2406, 3046, 3060, 7376, 7377, 7378, 7380, 7410, 7413, 7416, 7418,
    8432, 8433, 70459, 70460, 73680, 73682, 73683, 73684]),
  ("grek", [183, 184, 768, 770, 772, 773, 774, 775, 776, 777, 787, 788, 834, 835, 837, 838, 884,
    885, 7616, 7618, 8285, 8286]),
  ("gujr", [2385, 2387, 2404, 2406, 43056, 43066]),
  ("gong", [183, 184, 2404, 2406]),
  ("guru", [2385, 2387, 2404, 2406, 43056, 43066]),
  ("gukh", [2405, 2406]),
  ("hani", [183, 184, 12272, 12288, 12289, 12292, 12294, 12295, 12296, 12306, 12307, 12320,
    12330, 12334, 12336, 12337, 12343, 12344, 12348, 12352, 12539, 12540, 12688, 12704, 12736,
    12774, 12783, 12784, 12832, 12872, 12928, 12977, 12992, 13004, 13055, 13056, 13144, 13169,
    13179, 13184, 13280, 13311, 42752, 42760, 65093, 65095, 65377, 65382, 119648, 119666,
    127568, 127570]),
  ("hang", [12289, 12292, 12296, 12306, 12307, 12320, 12336, 12337, 12343, 12344, 12539, 12540,
    65093, 65095, 65377, 65382]),
  ("rohg", [1548, 1549, 1563, 1564, 1567, 1568, 1600, 1601, 1748, 1749]),
  ("hano", [5941, 5943]),
  ("hebr", [775, 777]),
  ("hira", [12289, 12292, 12296, 12306, 12307, 12320, 12336, 12342, 12343, 12344, 12348, 12350,
    12441, 12445, 12448, 12449, 12539, 12541, 65093, 65095, 65377, 65382, 65392, 65393, 65438,
    65440]),
  ("java", [43471, 43472]),
  ("kthi", [2406, 2416, 11825, 11826, 43056, 43066]),
  ("knda", [2385, 2387, 2404, 2406, 7376, 7377, 7378, 7380, 7386, 7387, 7410, 7411, 7412, 7413,
    43056, 43062]),
  ("kana", [773, 774, 803, 804, 12289, 12292, 12296, 12306, 12307, 12320, 12336, 12342, 12343,
    12344, 12348, 12350, 12441, 12445, 12448, 12449, 12539, 12541, 65093, 65095, 65377, 65382,
    65392, 65393, 65438, 65440]),
  ("kali", [43310, 43311]),
  ("khoj", [2790, 2800, 43056, 43066]),
  ("sind", [2404, 2406, 43056, 43066]),
  ("latn", [183, 184, 700, 701, 711, 712, 713, 716, 717, 718, 727, 728, 729, 730, 768, 783, 784,
    786, 787, 788, 800, 801, 803, 806, 813, 815, 816, 818, 856, 857, 862, 863, 867, 880, 1157,
    1159, 2385, 2387, 4347, 4348, 7672, 7673, 8239, 8240, 8432, 8433, 11799, 11800, 42752,
    42760, 43310, 43311]),
  ("limb", [2405, 2406]),
  ("lina", [65799, 65844]),
  ("linb", [65792, 65795, 65799, 65844, 65847, 65856]),
  ("lisu", [700, 701, 717, 718, 12298, 12300]),
  ("lyci", [8282, 8283]),
  ("lydi", [183, 184, 11825, 11826]),
  ("mahj", [183, 184, 2404, 2416, 43056, 43066]),
  ("mlym", [2385, 2387, 2404, 2406, 7386, 7387, 7410, 7411, 43056, 43059]),
  ("mand", [1600, 1601]),
  ("mani", [1600, 1601]),
  ("gonm", [2404, 2406]),
  ("mero", [8285, 8286]),
  ("modi", [43056, 43066]),
  ("mong", [6146, 6148, 6149, 6150, 8239, 8240, 12289, 12291, 12296, 12300]),
  ("mult", [2662, 2672]),
  ("mymr", [43310, 43311]),
  ("nand", [2404, 2406, 3302, 3312, 7401, 7402, 7410, 7411, 7418, 7419, 43056, 43062]),
  ("nkoo", [1548, 1549, 1563, 1564, 1567, 1568, 64830, 64832]),
  ("onao", [2404, 2406]),
  ("hung", [8282, 8283, 8285, 8286, 11825, 11826, 11841, 11842]),
  ("perm", [183, 184, 768, 769, 774, 777, 787, 788, 1155, 1156]),
  ("orkh", [8282, 8283, 11824, 11825]),
  ("ougr", [1600, 1601, 68338, 68339]),
  ("orya", [2385, 2387, 2404, 2406, 7386, 7387, 7410, 7411]),
  ("osge", [769, 770, 772, 773, 779, 780, 856, 857]),
  ("phag", [6146, 6148, 6149, 6150, 8239, 8240, 12290, 12291]),
  ("phlp", [1600, 1601]),
  ("runr", [5867, 5870]),
  ("samr", [11825, 11826]),
  ("shrd", [2385, 2386, 7383, 7384, 7385, 7386, 7388, 7390, 7392, 7393, 43056, 43062, 43064,
    43065]),
  ("shaw", [183, 184]),
  ("sinh", [2404, 2406, 7410, 7411]),
  ("sogd", [1600, 1601]),
  ("sunu", [768, 770, 771, 772, 781, 782, 784, 785, 813, 814, 817, 818]),
  ("sylo", [2404, 2406, 2534, 2544]),
  ("syrc", [771, 773, 775, 777, 778, 779, 800, 801, 803, 806, 813, 815, 816, 817, 1548, 1549,
    1563, 1565, 1567, 1568, 1600, 1601, 1611, 1622, 1648, 1649, 7672, 7673, 7674, 7675]),
  ("tglg", [5941, 5943]),
  ("tagb", [5941, 5943]),
  ("tale", [768, 770, 775, 777, 780, 781, 4160, 4170]),
  ("takr", [2404, 2406, 43056, 43066]),
  ("taml", [2385, 2387, 2404, 2406, 7386, 7387, 43251, 43252, 70401, 70402, 70403, 70404, 70459,
    70461]),
  ("tang", [12272, 12288, 12783, 12784]),
  ("telu", [2385, 2387, 2404, 2406, 7386, 7387, 7410, 7411]),
  ("thaa", [1548, 1549, 1563, 1565, 1567, 1568, 1632, 1642, 65010, 65011, 65021, 65022]),
  ("thai", [700, 701, 727, 728, 771, 772, 817, 818]),
  ("tibt", [12296, 12300]),
  ("tfng", [770, 771, 772, 773, 775, 776, 777, 778]),
  ("tirh", [2385, 2387, 2404, 2406, 7410, 7411, 43056, 43066]),
  ("todr", [769, 770, 772, 773, 775, 776, 785, 786, 787, 788, 862, 863]),
  ("toto", [700, 701]),
  ("tutg", [3302, 3312, 7410, 7411, 7412, 7413, 43056, 43062, 43249, 43250]),
  ("yezi", [1548, 1549, 1563, 1564, 1567, 1568, 1632, 1642]),
  ("yiii", [12289, 12291, 12296, 12306, 12308, 12316, 12539, 12540, 65377, 65382])]

/-- The script with a reduced spelling. -/
def script? (spelling : String) : Option Script := scripts.find? (·.spellings.contains spelling)

/-- The characters of the script with a reduced spelling. -/
def scriptChars? (spelling : String) : Option CharSet :=
  (script? spelling).map fun script => ⟨script.bounds⟩

/-- Whether the characters of a script belong to no script in particular. -/
def Script.isShared (script : Script) : Bool :=
  script.spellings.contains "common" || script.spellings.contains "inherited"

/-- The characters that a script uses. -/
def Script.extended (script : Script) : CharSet :=
  if script.isShared then
    sharedChars.foldl (fun set (_, bounds) => set.diff ⟨bounds⟩) ⟨script.bounds⟩
  else
    match sharedChars.find? fun (spelling, _) => script.spellings.contains spelling with
    | some (_, bounds) => CharSet.union ⟨script.bounds⟩ ⟨bounds⟩
    | none => ⟨script.bounds⟩

/-- The characters that the script with a reduced spelling uses. -/
def scriptExtensionChars? (spelling : String) : Option CharSet :=
  (script? spelling).map (·.extended)

end ScopeQuery.Unicode
