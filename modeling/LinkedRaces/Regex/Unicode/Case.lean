import LinkedRaces.Regex.Unicode.Category
import LinkedRaces.Text.Alphabetic
import LinkedRaces.Text.Lowercase

/-!
Letter case in version 16 of the Unicode character database: simple case folding, and the properties
that say what a change of case does.
-/

namespace LinkedRaces.Regex

namespace Case

def foldings : List Text.Shift := [
  ⟨65, 90, 1, 97⟩, ⟨181, 181, 1, 956⟩, ⟨192, 214, 1, 224⟩, ⟨216, 222, 1, 248⟩, ⟨256, 302, 2, 257⟩,
  ⟨306, 310, 2, 307⟩, ⟨313, 327, 2, 314⟩, ⟨330, 374, 2, 331⟩, ⟨376, 376, 1, 255⟩,
  ⟨377, 381, 2, 378⟩, ⟨383, 383, 1, 115⟩, ⟨385, 385, 1, 595⟩, ⟨386, 388, 2, 387⟩,
  ⟨390, 390, 1, 596⟩, ⟨391, 391, 1, 392⟩, ⟨393, 394, 1, 598⟩, ⟨395, 395, 1, 396⟩,
  ⟨398, 398, 1, 477⟩, ⟨399, 399, 1, 601⟩, ⟨400, 400, 1, 603⟩, ⟨401, 401, 1, 402⟩,
  ⟨403, 403, 1, 608⟩, ⟨404, 404, 1, 611⟩, ⟨406, 406, 1, 617⟩, ⟨407, 407, 1, 616⟩,
  ⟨408, 408, 1, 409⟩, ⟨412, 412, 1, 623⟩, ⟨413, 413, 1, 626⟩, ⟨415, 415, 1, 629⟩,
  ⟨416, 420, 2, 417⟩, ⟨422, 422, 1, 640⟩, ⟨423, 423, 1, 424⟩, ⟨425, 425, 1, 643⟩,
  ⟨428, 428, 1, 429⟩, ⟨430, 430, 1, 648⟩, ⟨431, 431, 1, 432⟩, ⟨433, 434, 1, 650⟩,
  ⟨435, 437, 2, 436⟩, ⟨439, 439, 1, 658⟩, ⟨440, 440, 1, 441⟩, ⟨444, 444, 1, 445⟩,
  ⟨452, 452, 1, 454⟩, ⟨453, 453, 1, 454⟩, ⟨455, 455, 1, 457⟩, ⟨456, 456, 1, 457⟩,
  ⟨458, 458, 1, 460⟩, ⟨459, 475, 2, 460⟩, ⟨478, 494, 2, 479⟩, ⟨497, 497, 1, 499⟩,
  ⟨498, 500, 2, 499⟩, ⟨502, 502, 1, 405⟩, ⟨503, 503, 1, 447⟩, ⟨504, 542, 2, 505⟩,
  ⟨544, 544, 1, 414⟩, ⟨546, 562, 2, 547⟩, ⟨570, 570, 1, 11365⟩, ⟨571, 571, 1, 572⟩,
  ⟨573, 573, 1, 410⟩, ⟨574, 574, 1, 11366⟩, ⟨577, 577, 1, 578⟩, ⟨579, 579, 1, 384⟩,
  ⟨580, 580, 1, 649⟩, ⟨581, 581, 1, 652⟩, ⟨582, 590, 2, 583⟩, ⟨837, 837, 1, 953⟩,
  ⟨880, 882, 2, 881⟩, ⟨886, 886, 1, 887⟩, ⟨895, 895, 1, 1011⟩, ⟨902, 902, 1, 940⟩,
  ⟨904, 906, 1, 941⟩, ⟨908, 908, 1, 972⟩, ⟨910, 911, 1, 973⟩, ⟨913, 929, 1, 945⟩,
  ⟨931, 939, 1, 963⟩, ⟨962, 962, 1, 963⟩, ⟨975, 975, 1, 983⟩, ⟨976, 976, 1, 946⟩,
  ⟨977, 977, 1, 952⟩, ⟨981, 981, 1, 966⟩, ⟨982, 982, 1, 960⟩, ⟨984, 1006, 2, 985⟩,
  ⟨1008, 1008, 1, 954⟩, ⟨1009, 1009, 1, 961⟩, ⟨1012, 1012, 1, 952⟩, ⟨1013, 1013, 1, 949⟩,
  ⟨1015, 1015, 1, 1016⟩, ⟨1017, 1017, 1, 1010⟩, ⟨1018, 1018, 1, 1019⟩, ⟨1021, 1023, 1, 891⟩,
  ⟨1024, 1039, 1, 1104⟩, ⟨1040, 1071, 1, 1072⟩, ⟨1120, 1152, 2, 1121⟩, ⟨1162, 1214, 2, 1163⟩,
  ⟨1216, 1216, 1, 1231⟩, ⟨1217, 1229, 2, 1218⟩, ⟨1232, 1326, 2, 1233⟩, ⟨1329, 1366, 1, 1377⟩,
  ⟨4256, 4293, 1, 11520⟩, ⟨4295, 4295, 1, 11559⟩, ⟨4301, 4301, 1, 11565⟩, ⟨5112, 5117, 1, 5104⟩,
  ⟨7296, 7296, 1, 1074⟩, ⟨7297, 7297, 1, 1076⟩, ⟨7298, 7298, 1, 1086⟩, ⟨7299, 7300, 1, 1089⟩,
  ⟨7301, 7301, 1, 1090⟩, ⟨7302, 7302, 1, 1098⟩, ⟨7303, 7303, 1, 1123⟩, ⟨7304, 7304, 1, 42571⟩,
  ⟨7305, 7305, 1, 7306⟩, ⟨7312, 7354, 1, 4304⟩, ⟨7357, 7359, 1, 4349⟩, ⟨7680, 7828, 2, 7681⟩,
  ⟨7835, 7835, 1, 7777⟩, ⟨7838, 7838, 1, 223⟩, ⟨7840, 7934, 2, 7841⟩, ⟨7944, 7951, 1, 7936⟩,
  ⟨7960, 7965, 1, 7952⟩, ⟨7976, 7983, 1, 7968⟩, ⟨7992, 7999, 1, 7984⟩, ⟨8008, 8013, 1, 8000⟩,
  ⟨8025, 8031, 2, 8017⟩, ⟨8040, 8047, 1, 8032⟩, ⟨8072, 8079, 1, 8064⟩, ⟨8088, 8095, 1, 8080⟩,
  ⟨8104, 8111, 1, 8096⟩, ⟨8120, 8121, 1, 8112⟩, ⟨8122, 8123, 1, 8048⟩, ⟨8124, 8124, 1, 8115⟩,
  ⟨8126, 8126, 1, 953⟩, ⟨8136, 8139, 1, 8050⟩, ⟨8140, 8140, 1, 8131⟩, ⟨8147, 8147, 1, 912⟩,
  ⟨8152, 8153, 1, 8144⟩, ⟨8154, 8155, 1, 8054⟩, ⟨8163, 8163, 1, 944⟩, ⟨8168, 8169, 1, 8160⟩,
  ⟨8170, 8171, 1, 8058⟩, ⟨8172, 8172, 1, 8165⟩, ⟨8184, 8185, 1, 8056⟩, ⟨8186, 8187, 1, 8060⟩,
  ⟨8188, 8188, 1, 8179⟩, ⟨8486, 8486, 1, 969⟩, ⟨8490, 8490, 1, 107⟩, ⟨8491, 8491, 1, 229⟩,
  ⟨8498, 8498, 1, 8526⟩, ⟨8544, 8559, 1, 8560⟩, ⟨8579, 8579, 1, 8580⟩, ⟨9398, 9423, 1, 9424⟩,
  ⟨11264, 11311, 1, 11312⟩, ⟨11360, 11360, 1, 11361⟩, ⟨11362, 11362, 1, 619⟩,
  ⟨11363, 11363, 1, 7549⟩, ⟨11364, 11364, 1, 637⟩, ⟨11367, 11371, 2, 11368⟩,
  ⟨11373, 11373, 1, 593⟩, ⟨11374, 11374, 1, 625⟩, ⟨11375, 11375, 1, 592⟩, ⟨11376, 11376, 1, 594⟩,
  ⟨11378, 11378, 1, 11379⟩, ⟨11381, 11381, 1, 11382⟩, ⟨11390, 11391, 1, 575⟩,
  ⟨11392, 11490, 2, 11393⟩, ⟨11499, 11501, 2, 11500⟩, ⟨11506, 11506, 1, 11507⟩,
  ⟨42560, 42604, 2, 42561⟩, ⟨42624, 42650, 2, 42625⟩, ⟨42786, 42798, 2, 42787⟩,
  ⟨42802, 42862, 2, 42803⟩, ⟨42873, 42875, 2, 42874⟩, ⟨42877, 42877, 1, 7545⟩,
  ⟨42878, 42886, 2, 42879⟩, ⟨42891, 42891, 1, 42892⟩, ⟨42893, 42893, 1, 613⟩,
  ⟨42896, 42898, 2, 42897⟩, ⟨42902, 42920, 2, 42903⟩, ⟨42922, 42922, 1, 614⟩,
  ⟨42923, 42923, 1, 604⟩, ⟨42924, 42924, 1, 609⟩, ⟨42925, 42925, 1, 620⟩, ⟨42926, 42926, 1, 618⟩,
  ⟨42928, 42928, 1, 670⟩, ⟨42929, 42929, 1, 647⟩, ⟨42930, 42930, 1, 669⟩, ⟨42931, 42931, 1, 43859⟩,
  ⟨42932, 42946, 2, 42933⟩, ⟨42948, 42948, 1, 42900⟩, ⟨42949, 42949, 1, 642⟩,
  ⟨42950, 42950, 1, 7566⟩, ⟨42951, 42953, 2, 42952⟩, ⟨42955, 42955, 1, 612⟩,
  ⟨42956, 42956, 1, 42957⟩, ⟨42960, 42960, 1, 42961⟩, ⟨42966, 42970, 2, 42967⟩,
  ⟨42972, 42972, 1, 411⟩, ⟨42997, 42997, 1, 42998⟩, ⟨43888, 43967, 1, 5024⟩,
  ⟨64261, 64261, 1, 64262⟩, ⟨65313, 65338, 1, 65345⟩, ⟨66560, 66599, 1, 66600⟩,
  ⟨66736, 66771, 1, 66776⟩, ⟨66928, 66938, 1, 66967⟩, ⟨66940, 66954, 1, 66979⟩,
  ⟨66956, 66962, 1, 66995⟩, ⟨66964, 66965, 1, 67003⟩, ⟨68736, 68786, 1, 68800⟩,
  ⟨68944, 68965, 1, 68976⟩, ⟨71840, 71871, 1, 71872⟩, ⟨93760, 93791, 1, 93792⟩,
  ⟨125184, 125217, 1, 125218⟩]

def covered (s : Text.Shift) (r : Nat × Nat) : List (Nat × Nat) :=
  let first := max r.1 s.first
  let last := min r.2 s.last
  if last < first then []
  else if s.step = 1 then [(first, last)]
  else
    (((List.range (last - first + 1)).map (first + ·)).filter s.covers).map fun n => (n, n)

def image (set : CharSet) (s : Text.Shift) : List (Nat × Nat) :=
  (set.ranges.flatMap (covered s)).map fun (a, b) => (s.apply a, s.apply b)

def backwards (s : Text.Shift) : Text.Shift :=
  ⟨s.target, s.last - s.first + s.target, s.step, s.first⟩

end Case

def CharSet.fold (s : CharSet) : CharSet :=
  let folded := CharSet.ofRanges (s.ranges ++ Case.foldings.flatMap (Case.image s))
  .ofRanges (folded.ranges ++ (Case.foldings.map Case.backwards).flatMap (Case.image folded))

def CharSet.foldAscii (s : CharSet) : CharSet := s.union ((s.inter .ascii).fold.inter .ascii)

namespace Case

/-- The characters that version 17 added; those are unassigned here. -/
def later : CharSet := .ofRanges [
  (2191, 2191), (3164, 3164), (3292, 3292), (6863, 6877), (6880, 6891), (8385, 8385),
  (11158, 11158), (42958, 42959), (42962, 42962), (42964, 42964), (42993, 42993), (64451, 64466),
  (64912, 64913), (64968, 64974), (67904, 67929), (69317, 69319), (69328, 69336), (69370, 69371),
  (72544, 72551), (73136, 73179), (73184, 73193), (93856, 93880), (93883, 93907), (94194, 94198),
  (100344, 100351), (101641, 101662), (101760, 101874), (118010, 118012), (118458, 118480),
  (118496, 118512), (124608, 124638), (124640, 124661), (124670, 124671), (128728, 128728),
  (128887, 128890), (129232, 129240), (129620, 129623), (129674, 129674), (129678, 129678),
  (129736, 129736), (129741, 129741), (129770, 129770), (129775, 129775), (130042, 130042),
  (177978, 177983), (183970, 183981), (205744, 210041)]

def otherLowercase : CharSet := .ofRanges [
  (170, 170), (186, 186), (688, 696), (704, 705), (736, 740), (837, 837), (890, 890), (4348, 4348),
  (7468, 7530), (7544, 7544), (7579, 7615), (8305, 8305), (8319, 8319), (8336, 8348), (8560, 8575),
  (9424, 9449), (11388, 11389), (42652, 42653), (42864, 42864), (42994, 42996), (43000, 43001),
  (43868, 43871), (43881, 43881), (67456, 67456), (67459, 67461), (67463, 67504), (67506, 67514),
  (122928, 122989)]

def otherUppercase : CharSet := .ofRanges [
  (8544, 8559), (9398, 9423), (127280, 127305), (127312, 127337), (127344, 127369)]

def lowercase : CharSet := Category.lowercaseLetter.union otherLowercase

def uppercase : CharSet := Category.uppercaseLetter.union otherUppercase

def cased : CharSet := .unions [lowercase, uppercase, Category.titlecaseLetter]

def innerPunctuation : CharSet := .ofRanges [
  (39, 39), (46, 46), (58, 58), (183, 183), (903, 903), (1375, 1375), (1524, 1524), (8216, 8217),
  (8228, 8228), (8231, 8231), (65043, 65043), (65106, 65106), (65109, 65109), (65287, 65287),
  (65294, 65294), (65306, 65306)]

def caseIgnorable : CharSet :=
  .unions [Category.nonspacingMark, Category.enclosingMark, Category.format,
    Category.modifierLetter, Category.modifierSymbol, innerPunctuation]

def alphabetic : CharSet := (CharSet.ofRanges Text.alphabeticRanges).diff later

def moved (shifts : List Text.Shift) : CharSet :=
  .ofRuns (shifts.map fun s => ⟨s.first, s.last, s.step⟩)

def changesWhenLowercased : CharSet :=
  ((moved Text.lowercaseShifts).union (.char 'İ')).diff later

def changesWhenUppercased : CharSet := .ofRuns [
  ⟨97, 122, 1⟩, ⟨181, 181, 1⟩, ⟨223, 246, 1⟩, ⟨248, 255, 1⟩, ⟨257, 311, 2⟩, ⟨314, 326, 2⟩,
  ⟨328, 329, 1⟩, ⟨331, 375, 2⟩, ⟨378, 380, 2⟩, ⟨382, 384, 1⟩, ⟨387, 389, 2⟩, ⟨392, 392, 1⟩,
  ⟨396, 396, 1⟩, ⟨402, 402, 1⟩, ⟨405, 405, 1⟩, ⟨409, 411, 1⟩, ⟨414, 414, 1⟩, ⟨417, 421, 2⟩,
  ⟨424, 424, 1⟩, ⟨429, 429, 1⟩, ⟨432, 432, 1⟩, ⟨436, 438, 2⟩, ⟨441, 441, 1⟩, ⟨445, 447, 2⟩,
  ⟨453, 454, 1⟩, ⟨456, 457, 1⟩, ⟨459, 460, 1⟩, ⟨462, 474, 2⟩, ⟨476, 477, 1⟩, ⟨479, 493, 2⟩,
  ⟨495, 496, 1⟩, ⟨498, 499, 1⟩, ⟨501, 501, 1⟩, ⟨505, 543, 2⟩, ⟨547, 563, 2⟩, ⟨572, 572, 1⟩,
  ⟨575, 576, 1⟩, ⟨578, 578, 1⟩, ⟨583, 589, 2⟩, ⟨591, 596, 1⟩, ⟨598, 599, 1⟩, ⟨601, 601, 1⟩,
  ⟨603, 604, 1⟩, ⟨608, 609, 1⟩, ⟨611, 614, 1⟩, ⟨616, 620, 1⟩, ⟨623, 623, 1⟩, ⟨625, 626, 1⟩,
  ⟨629, 629, 1⟩, ⟨637, 637, 1⟩, ⟨640, 640, 1⟩, ⟨642, 643, 1⟩, ⟨647, 652, 1⟩, ⟨658, 658, 1⟩,
  ⟨669, 670, 1⟩, ⟨837, 837, 1⟩, ⟨881, 883, 2⟩, ⟨887, 887, 1⟩, ⟨891, 893, 1⟩, ⟨912, 912, 1⟩,
  ⟨940, 974, 1⟩, ⟨976, 977, 1⟩, ⟨981, 983, 1⟩, ⟨985, 1005, 2⟩, ⟨1007, 1011, 1⟩, ⟨1013, 1013, 1⟩,
  ⟨1016, 1016, 1⟩, ⟨1019, 1019, 1⟩, ⟨1072, 1119, 1⟩, ⟨1121, 1153, 2⟩, ⟨1163, 1215, 2⟩,
  ⟨1218, 1228, 2⟩, ⟨1230, 1231, 1⟩, ⟨1233, 1327, 2⟩, ⟨1377, 1415, 1⟩, ⟨4304, 4346, 1⟩,
  ⟨4349, 4351, 1⟩, ⟨5112, 5117, 1⟩, ⟨7296, 7304, 1⟩, ⟨7306, 7306, 1⟩, ⟨7545, 7545, 1⟩,
  ⟨7549, 7549, 1⟩, ⟨7566, 7566, 1⟩, ⟨7681, 7827, 2⟩, ⟨7829, 7835, 1⟩, ⟨7841, 7933, 2⟩,
  ⟨7935, 7943, 1⟩, ⟨7952, 7957, 1⟩, ⟨7968, 7975, 1⟩, ⟨7984, 7991, 1⟩, ⟨8000, 8005, 1⟩,
  ⟨8016, 8023, 1⟩, ⟨8032, 8039, 1⟩, ⟨8048, 8061, 1⟩, ⟨8064, 8116, 1⟩, ⟨8118, 8119, 1⟩,
  ⟨8124, 8126, 2⟩, ⟨8130, 8132, 1⟩, ⟨8134, 8135, 1⟩, ⟨8140, 8140, 1⟩, ⟨8144, 8147, 1⟩,
  ⟨8150, 8151, 1⟩, ⟨8160, 8167, 1⟩, ⟨8178, 8180, 1⟩, ⟨8182, 8183, 1⟩, ⟨8188, 8188, 1⟩,
  ⟨8526, 8526, 1⟩, ⟨8560, 8575, 1⟩, ⟨8580, 8580, 1⟩, ⟨9424, 9449, 1⟩, ⟨11312, 11359, 1⟩,
  ⟨11361, 11361, 1⟩, ⟨11365, 11366, 1⟩, ⟨11368, 11372, 2⟩, ⟨11379, 11379, 1⟩, ⟨11382, 11382, 1⟩,
  ⟨11393, 11491, 2⟩, ⟨11500, 11502, 2⟩, ⟨11507, 11507, 1⟩, ⟨11520, 11557, 1⟩, ⟨11559, 11559, 1⟩,
  ⟨11565, 11565, 1⟩, ⟨42561, 42605, 2⟩, ⟨42625, 42651, 2⟩, ⟨42787, 42799, 2⟩, ⟨42803, 42863, 2⟩,
  ⟨42874, 42876, 2⟩, ⟨42879, 42887, 2⟩, ⟨42892, 42892, 1⟩, ⟨42897, 42897, 1⟩, ⟨42899, 42900, 1⟩,
  ⟨42903, 42921, 2⟩, ⟨42933, 42947, 2⟩, ⟨42952, 42954, 2⟩, ⟨42957, 42957, 1⟩, ⟨42961, 42961, 1⟩,
  ⟨42967, 42971, 2⟩, ⟨42998, 42998, 1⟩, ⟨43859, 43859, 1⟩, ⟨43888, 43967, 1⟩, ⟨64256, 64262, 1⟩,
  ⟨64275, 64279, 1⟩, ⟨65345, 65370, 1⟩, ⟨66600, 66639, 1⟩, ⟨66776, 66811, 1⟩, ⟨66967, 66977, 1⟩,
  ⟨66979, 66993, 1⟩, ⟨66995, 67001, 1⟩, ⟨67003, 67004, 1⟩, ⟨68800, 68850, 1⟩, ⟨68976, 68997, 1⟩,
  ⟨71872, 71903, 1⟩, ⟨93792, 93823, 1⟩, ⟨125218, 125251, 1⟩]

def titlecaseForms : CharSet := .ofRanges [
  (453, 453), (456, 456), (459, 459), (498, 498), (4304, 4346), (4349, 4351), (8072, 8079),
  (8088, 8095), (8104, 8111), (8124, 8124), (8140, 8140), (8188, 8188)]

def digraphs : CharSet := .ofRanges [(452, 452), (455, 455), (458, 458), (497, 497)]

def changesWhenTitlecased : CharSet := (changesWhenUppercased.diff titlecaseForms).union digraphs

def changesWhenCasemapped : CharSet :=
  .unions [changesWhenLowercased, changesWhenUppercased, changesWhenTitlecased]

def longFoldings : CharSet := .ofRanges [
  (223, 223), (304, 304), (329, 329), (1415, 1415), (7834, 7834), (8064, 8071), (8080, 8087),
  (8096, 8103), (8114, 8116), (8119, 8119), (8130, 8132), (8135, 8135), (8178, 8180), (8183, 8183),
  (64256, 64260), (64262, 64262), (64275, 64279)]

def decomposed : CharSet := .ofRanges [(8126, 8126), (8147, 8147), (8163, 8163)]

def changesWhenCasefolded : CharSet :=
  ((moved foldings).union longFoldings).diff decomposed

end Case

end LinkedRaces.Regex
