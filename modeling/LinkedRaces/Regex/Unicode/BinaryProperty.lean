import LinkedRaces.Regex.Unicode.Case

/-! The properties that a character has or has not, in version 16 of the Unicode database. -/

namespace LinkedRaces.Regex.BinaryProperty

def asciiHexDigit : CharSet := .ofRanges [(48, 57), (65, 70), (97, 102)]

def hexDigit : CharSet := .ofRanges [
  (48, 57), (65, 70), (97, 102), (65296, 65305), (65313, 65318), (65345, 65350)]

def bidiControl : CharSet := .ofRanges [(1564, 1564), (8206, 8207), (8234, 8238), (8294, 8297)]

def bidiMirrored : CharSet := .ofRuns [
  ⟨40, 41, 1⟩, ⟨60, 62, 2⟩, ⟨91, 93, 2⟩, ⟨123, 125, 2⟩, ⟨171, 171, 1⟩, ⟨187, 187, 1⟩,
  ⟨3898, 3901, 1⟩, ⟨5787, 5788, 1⟩, ⟨8249, 8250, 1⟩, ⟨8261, 8262, 1⟩, ⟨8317, 8318, 1⟩,
  ⟨8333, 8334, 1⟩, ⟨8512, 8512, 1⟩, ⟨8705, 8708, 1⟩, ⟨8712, 8717, 1⟩, ⟨8721, 8721, 1⟩,
  ⟨8725, 8726, 1⟩, ⟨8730, 8733, 1⟩, ⟨8735, 8738, 1⟩, ⟨8740, 8742, 2⟩, ⟨8747, 8755, 1⟩,
  ⟨8761, 8761, 1⟩, ⟨8763, 8780, 1⟩, ⟨8786, 8789, 1⟩, ⟨8799, 8800, 1⟩, ⟨8802, 8802, 1⟩,
  ⟨8804, 8811, 1⟩, ⟨8813, 8844, 1⟩, ⟨8847, 8850, 1⟩, ⟨8856, 8856, 1⟩, ⟨8866, 8867, 1⟩,
  ⟨8870, 8888, 1⟩, ⟨8894, 8895, 1⟩, ⟨8905, 8909, 1⟩, ⟨8912, 8913, 1⟩, ⟨8918, 8941, 1⟩,
  ⟨8944, 8959, 1⟩, ⟨8968, 8971, 1⟩, ⟨8992, 8993, 1⟩, ⟨9001, 9002, 1⟩, ⟨10088, 10101, 1⟩,
  ⟨10176, 10176, 1⟩, ⟨10179, 10182, 1⟩, ⟨10184, 10185, 1⟩, ⟨10187, 10189, 1⟩, ⟨10195, 10198, 1⟩,
  ⟨10204, 10206, 1⟩, ⟨10210, 10223, 1⟩, ⟨10627, 10648, 1⟩, ⟨10651, 10656, 1⟩, ⟨10658, 10671, 1⟩,
  ⟨10680, 10680, 1⟩, ⟨10688, 10693, 1⟩, ⟨10697, 10697, 1⟩, ⟨10702, 10706, 1⟩, ⟨10708, 10709, 1⟩,
  ⟨10712, 10716, 1⟩, ⟨10721, 10721, 1⟩, ⟨10723, 10725, 1⟩, ⟨10728, 10729, 1⟩, ⟨10740, 10745, 1⟩,
  ⟨10748, 10749, 1⟩, ⟨10762, 10780, 1⟩, ⟨10782, 10785, 1⟩, ⟨10788, 10790, 2⟩, ⟨10793, 10793, 1⟩,
  ⟨10795, 10798, 1⟩, ⟨10804, 10805, 1⟩, ⟨10812, 10814, 1⟩, ⟨10839, 10840, 1⟩, ⟨10852, 10853, 1⟩,
  ⟨10858, 10861, 1⟩, ⟨10863, 10864, 1⟩, ⟨10867, 10868, 1⟩, ⟨10873, 10915, 1⟩, ⟨10918, 10925, 1⟩,
  ⟨10927, 10966, 1⟩, ⟨10972, 10974, 2⟩, ⟨10978, 10982, 1⟩, ⟨10988, 10990, 1⟩, ⟨10995, 10995, 1⟩,
  ⟨10999, 11003, 1⟩, ⟨11005, 11005, 1⟩, ⟨11262, 11262, 1⟩, ⟨11778, 11781, 1⟩, ⟨11785, 11786, 1⟩,
  ⟨11788, 11789, 1⟩, ⟨11804, 11805, 1⟩, ⟨11808, 11817, 1⟩, ⟨11861, 11868, 1⟩, ⟨12296, 12305, 1⟩,
  ⟨12308, 12315, 1⟩, ⟨65113, 65118, 1⟩, ⟨65124, 65125, 1⟩, ⟨65288, 65289, 1⟩, ⟨65308, 65310, 2⟩,
  ⟨65339, 65341, 2⟩, ⟨65371, 65373, 2⟩, ⟨65375, 65376, 1⟩, ⟨65378, 65379, 1⟩, ⟨120539, 120539, 1⟩,
  ⟨120597, 120597, 1⟩, ⟨120655, 120655, 1⟩, ⟨120713, 120713, 1⟩, ⟨120771, 120771, 1⟩]

def dash : CharSet := .ofRanges [
  (45, 45), (1418, 1418), (1470, 1470), (5120, 5120), (6150, 6150), (8208, 8213), (8275, 8275),
  (8315, 8315), (8331, 8331), (8722, 8722), (11799, 11799), (11802, 11802), (11834, 11835),
  (11840, 11840), (11869, 11869), (12316, 12316), (12336, 12336), (12448, 12448), (65073, 65074),
  (65112, 65112), (65123, 65123), (65293, 65293), (68974, 68974), (69293, 69293)]

def hyphen : CharSet := .ofRanges [
  (45, 45), (173, 173), (1418, 1418), (6150, 6150), (8208, 8209), (11799, 11799), (12539, 12539),
  (65123, 65123), (65293, 65293), (65381, 65381)]

def deprecated : CharSet := .ofRuns [
  ⟨329, 329, 1⟩, ⟨1651, 1651, 1⟩, ⟨3959, 3961, 2⟩, ⟨6051, 6052, 1⟩, ⟨8298, 8303, 1⟩,
  ⟨9001, 9002, 1⟩, ⟨917505, 917505, 1⟩]

def diacritic : CharSet := .ofRuns [
  ⟨94, 96, 2⟩, ⟨168, 168, 1⟩, ⟨175, 175, 1⟩, ⟨180, 180, 1⟩, ⟨183, 184, 1⟩, ⟨688, 846, 1⟩,
  ⟨848, 855, 1⟩, ⟨861, 866, 1⟩, ⟨884, 885, 1⟩, ⟨890, 890, 1⟩, ⟨900, 901, 1⟩, ⟨1155, 1159, 1⟩,
  ⟨1369, 1369, 1⟩, ⟨1425, 1469, 1⟩, ⟨1471, 1471, 1⟩, ⟨1473, 1474, 1⟩, ⟨1476, 1477, 1⟩,
  ⟨1479, 1479, 1⟩, ⟨1611, 1618, 1⟩, ⟨1623, 1624, 1⟩, ⟨1759, 1760, 1⟩, ⟨1765, 1766, 1⟩,
  ⟨1770, 1772, 1⟩, ⟨1840, 1866, 1⟩, ⟨1958, 1968, 1⟩, ⟨2027, 2037, 1⟩, ⟨2072, 2073, 1⟩,
  ⟨2200, 2207, 1⟩, ⟨2249, 2258, 1⟩, ⟨2275, 2302, 1⟩, ⟨2364, 2364, 1⟩, ⟨2381, 2381, 1⟩,
  ⟨2385, 2388, 1⟩, ⟨2417, 2417, 1⟩, ⟨2492, 2492, 1⟩, ⟨2509, 2509, 1⟩, ⟨2620, 2620, 1⟩,
  ⟨2637, 2637, 1⟩, ⟨2748, 2748, 1⟩, ⟨2765, 2765, 1⟩, ⟨2813, 2815, 1⟩, ⟨2876, 2876, 1⟩,
  ⟨2893, 2893, 1⟩, ⟨2901, 2901, 1⟩, ⟨3021, 3021, 1⟩, ⟨3132, 3132, 1⟩, ⟨3149, 3149, 1⟩,
  ⟨3260, 3260, 1⟩, ⟨3277, 3277, 1⟩, ⟨3387, 3388, 1⟩, ⟨3405, 3405, 1⟩, ⟨3530, 3530, 1⟩,
  ⟨3642, 3642, 1⟩, ⟨3655, 3660, 1⟩, ⟨3662, 3662, 1⟩, ⟨3770, 3770, 1⟩, ⟨3784, 3788, 1⟩,
  ⟨3864, 3865, 1⟩, ⟨3893, 3897, 2⟩, ⟨3902, 3903, 1⟩, ⟨3970, 3972, 1⟩, ⟨3974, 3975, 1⟩,
  ⟨4038, 4038, 1⟩, ⟨4151, 4151, 1⟩, ⟨4153, 4154, 1⟩, ⟨4195, 4196, 1⟩, ⟨4201, 4205, 1⟩,
  ⟨4231, 4237, 1⟩, ⟨4239, 4239, 1⟩, ⟨4250, 4251, 1⟩, ⟨4957, 4959, 1⟩, ⟨5908, 5909, 1⟩,
  ⟨5940, 5940, 1⟩, ⟨6089, 6099, 1⟩, ⟨6109, 6109, 1⟩, ⟨6457, 6459, 1⟩, ⟨6752, 6752, 1⟩,
  ⟨6773, 6780, 1⟩, ⟨6783, 6783, 1⟩, ⟨6832, 6846, 1⟩, ⟨6849, 6859, 1⟩, ⟨6964, 6964, 1⟩,
  ⟨6980, 6980, 1⟩, ⟨7019, 7027, 1⟩, ⟨7082, 7083, 1⟩, ⟨7142, 7142, 1⟩, ⟨7154, 7155, 1⟩,
  ⟨7222, 7223, 1⟩, ⟨7288, 7293, 1⟩, ⟨7376, 7400, 1⟩, ⟨7405, 7405, 1⟩, ⟨7412, 7412, 1⟩,
  ⟨7415, 7417, 1⟩, ⟨7468, 7530, 1⟩, ⟨7579, 7614, 1⟩, ⟨7620, 7631, 1⟩, ⟨7669, 7679, 1⟩,
  ⟨8125, 8125, 1⟩, ⟨8127, 8129, 1⟩, ⟨8141, 8143, 1⟩, ⟨8157, 8159, 1⟩, ⟨8173, 8175, 1⟩,
  ⟨8189, 8190, 1⟩, ⟨11503, 11505, 1⟩, ⟨11823, 11823, 1⟩, ⟨12330, 12335, 1⟩, ⟨12441, 12444, 1⟩,
  ⟨12540, 12540, 1⟩, ⟨42607, 42607, 1⟩, ⟨42620, 42621, 1⟩, ⟨42623, 42623, 1⟩, ⟨42652, 42653, 1⟩,
  ⟨42736, 42737, 1⟩, ⟨42752, 42785, 1⟩, ⟨42888, 42890, 1⟩, ⟨43000, 43001, 1⟩, ⟨43014, 43014, 1⟩,
  ⟨43052, 43052, 1⟩, ⟨43204, 43204, 1⟩, ⟨43232, 43249, 1⟩, ⟨43307, 43310, 1⟩, ⟨43347, 43347, 1⟩,
  ⟨43443, 43443, 1⟩, ⟨43456, 43456, 1⟩, ⟨43493, 43493, 1⟩, ⟨43643, 43645, 1⟩, ⟨43711, 43714, 1⟩,
  ⟨43766, 43766, 1⟩, ⟨43867, 43871, 1⟩, ⟨43881, 43883, 1⟩, ⟨44012, 44013, 1⟩, ⟨64286, 64286, 1⟩,
  ⟨65056, 65071, 1⟩, ⟨65342, 65344, 2⟩, ⟨65392, 65392, 1⟩, ⟨65438, 65439, 1⟩, ⟨65507, 65507, 1⟩,
  ⟨66272, 66272, 1⟩, ⟨67456, 67461, 1⟩, ⟨67463, 67504, 1⟩, ⟨67506, 67514, 1⟩, ⟨68152, 68154, 1⟩,
  ⟨68159, 68159, 1⟩, ⟨68325, 68326, 1⟩, ⟨68898, 68903, 1⟩, ⟨68942, 68942, 1⟩, ⟨68969, 68973, 1⟩,
  ⟨69373, 69375, 1⟩, ⟨69446, 69456, 1⟩, ⟨69506, 69509, 1⟩, ⟨69702, 69702, 1⟩, ⟨69744, 69744, 1⟩,
  ⟨69817, 69818, 1⟩, ⟨69939, 69940, 1⟩, ⟨70003, 70003, 1⟩, ⟨70080, 70080, 1⟩, ⟨70090, 70092, 1⟩,
  ⟨70197, 70198, 1⟩, ⟨70377, 70378, 1⟩, ⟨70459, 70460, 1⟩, ⟨70477, 70477, 1⟩, ⟨70502, 70508, 1⟩,
  ⟨70512, 70516, 1⟩, ⟨70606, 70608, 1⟩, ⟨70610, 70611, 1⟩, ⟨70625, 70626, 1⟩, ⟨70722, 70722, 1⟩,
  ⟨70726, 70726, 1⟩, ⟨70850, 70851, 1⟩, ⟨71103, 71104, 1⟩, ⟨71231, 71231, 1⟩, ⟨71350, 71351, 1⟩,
  ⟨71467, 71467, 1⟩, ⟨71737, 71738, 1⟩, ⟨71997, 71998, 1⟩, ⟨72003, 72003, 1⟩, ⟨72160, 72160, 1⟩,
  ⟨72244, 72244, 1⟩, ⟨72263, 72263, 1⟩, ⟨72345, 72345, 1⟩, ⟨72767, 72767, 1⟩, ⟨73026, 73026, 1⟩,
  ⟨73028, 73029, 1⟩, ⟨73111, 73111, 1⟩, ⟨73537, 73538, 1⟩, ⟨73562, 73562, 1⟩, ⟨78919, 78933, 1⟩,
  ⟨90415, 90415, 1⟩, ⟨92912, 92916, 1⟩, ⟨92976, 92982, 1⟩, ⟨93547, 93548, 1⟩, ⟨94095, 94111, 1⟩,
  ⟨94192, 94193, 1⟩, ⟨110576, 110579, 1⟩, ⟨110581, 110587, 1⟩, ⟨110589, 110590, 1⟩,
  ⟨118528, 118573, 1⟩, ⟨118576, 118598, 1⟩, ⟨119143, 119145, 1⟩, ⟨119149, 119154, 1⟩,
  ⟨119163, 119170, 1⟩, ⟨119173, 119179, 1⟩, ⟨119210, 119213, 1⟩, ⟨122928, 122989, 1⟩,
  ⟨123184, 123190, 1⟩, ⟨123566, 123566, 1⟩, ⟨123628, 123631, 1⟩, ⟨124398, 124399, 1⟩,
  ⟨125136, 125142, 1⟩, ⟨125252, 125254, 1⟩, ⟨125256, 125258, 1⟩]

def extender : CharSet := .ofRanges [
  (183, 183), (720, 721), (1600, 1600), (2042, 2042), (2673, 2673), (2811, 2811), (2901, 2901),
  (3654, 3654), (3782, 3782), (6154, 6154), (6211, 6211), (6823, 6823), (7222, 7222), (7291, 7291),
  (12293, 12293), (12337, 12341), (12445, 12446), (12540, 12542), (40981, 40981), (42508, 42508),
  (43471, 43471), (43494, 43494), (43632, 43632), (43741, 43741), (43763, 43764), (65392, 65392),
  (67457, 67458), (68942, 68942), (68970, 68970), (68975, 68975), (70199, 70199), (70493, 70493),
  (70610, 70611), (71110, 71112), (72344, 72344), (92994, 92995), (94176, 94177), (94179, 94179),
  (123196, 123197), (124399, 124399), (125252, 125254)]

def emoji : CharSet := .ofRuns [
  ⟨35, 35, 1⟩, ⟨42, 42, 1⟩, ⟨48, 57, 1⟩, ⟨169, 169, 1⟩, ⟨174, 174, 1⟩, ⟨8252, 8252, 1⟩,
  ⟨8265, 8265, 1⟩, ⟨8482, 8482, 1⟩, ⟨8505, 8505, 1⟩, ⟨8596, 8601, 1⟩, ⟨8617, 8618, 1⟩,
  ⟨8986, 8987, 1⟩, ⟨9000, 9000, 1⟩, ⟨9167, 9167, 1⟩, ⟨9193, 9203, 1⟩, ⟨9208, 9210, 1⟩,
  ⟨9410, 9410, 1⟩, ⟨9642, 9643, 1⟩, ⟨9654, 9654, 1⟩, ⟨9664, 9664, 1⟩, ⟨9723, 9726, 1⟩,
  ⟨9728, 9732, 1⟩, ⟨9742, 9742, 1⟩, ⟨9745, 9745, 1⟩, ⟨9748, 9749, 1⟩, ⟨9752, 9752, 1⟩,
  ⟨9757, 9757, 1⟩, ⟨9760, 9760, 1⟩, ⟨9762, 9763, 1⟩, ⟨9766, 9766, 1⟩, ⟨9770, 9770, 1⟩,
  ⟨9774, 9775, 1⟩, ⟨9784, 9786, 1⟩, ⟨9792, 9794, 2⟩, ⟨9800, 9811, 1⟩, ⟨9823, 9824, 1⟩,
  ⟨9827, 9827, 1⟩, ⟨9829, 9830, 1⟩, ⟨9832, 9832, 1⟩, ⟨9851, 9851, 1⟩, ⟨9854, 9855, 1⟩,
  ⟨9874, 9879, 1⟩, ⟨9881, 9881, 1⟩, ⟨9883, 9884, 1⟩, ⟨9888, 9889, 1⟩, ⟨9895, 9895, 1⟩,
  ⟨9898, 9899, 1⟩, ⟨9904, 9905, 1⟩, ⟨9917, 9918, 1⟩, ⟨9924, 9925, 1⟩, ⟨9928, 9928, 1⟩,
  ⟨9934, 9935, 1⟩, ⟨9937, 9937, 1⟩, ⟨9939, 9940, 1⟩, ⟨9961, 9962, 1⟩, ⟨9968, 9973, 1⟩,
  ⟨9975, 9978, 1⟩, ⟨9981, 9981, 1⟩, ⟨9986, 9986, 1⟩, ⟨9989, 9989, 1⟩, ⟨9992, 9997, 1⟩,
  ⟨9999, 9999, 1⟩, ⟨10002, 10006, 2⟩, ⟨10013, 10013, 1⟩, ⟨10017, 10017, 1⟩, ⟨10024, 10024, 1⟩,
  ⟨10035, 10036, 1⟩, ⟨10052, 10052, 1⟩, ⟨10055, 10055, 1⟩, ⟨10060, 10062, 2⟩, ⟨10067, 10069, 1⟩,
  ⟨10071, 10071, 1⟩, ⟨10083, 10084, 1⟩, ⟨10133, 10135, 1⟩, ⟨10145, 10145, 1⟩, ⟨10160, 10160, 1⟩,
  ⟨10175, 10175, 1⟩, ⟨10548, 10549, 1⟩, ⟨11013, 11015, 1⟩, ⟨11035, 11036, 1⟩, ⟨11088, 11088, 1⟩,
  ⟨11093, 11093, 1⟩, ⟨12336, 12336, 1⟩, ⟨12349, 12349, 1⟩, ⟨12951, 12953, 2⟩, ⟨126980, 126980, 1⟩,
  ⟨127183, 127183, 1⟩, ⟨127344, 127345, 1⟩, ⟨127358, 127359, 1⟩, ⟨127374, 127374, 1⟩,
  ⟨127377, 127386, 1⟩, ⟨127462, 127487, 1⟩, ⟨127489, 127490, 1⟩, ⟨127514, 127514, 1⟩,
  ⟨127535, 127535, 1⟩, ⟨127538, 127546, 1⟩, ⟨127568, 127569, 1⟩, ⟨127744, 127777, 1⟩,
  ⟨127780, 127891, 1⟩, ⟨127894, 127895, 1⟩, ⟨127897, 127899, 1⟩, ⟨127902, 127984, 1⟩,
  ⟨127987, 127989, 1⟩, ⟨127991, 128253, 1⟩, ⟨128255, 128317, 1⟩, ⟨128329, 128334, 1⟩,
  ⟨128336, 128359, 1⟩, ⟨128367, 128368, 1⟩, ⟨128371, 128378, 1⟩, ⟨128391, 128391, 1⟩,
  ⟨128394, 128397, 1⟩, ⟨128400, 128400, 1⟩, ⟨128405, 128406, 1⟩, ⟨128420, 128421, 1⟩,
  ⟨128424, 128424, 1⟩, ⟨128433, 128434, 1⟩, ⟨128444, 128444, 1⟩, ⟨128450, 128452, 1⟩,
  ⟨128465, 128467, 1⟩, ⟨128476, 128478, 1⟩, ⟨128481, 128483, 2⟩, ⟨128488, 128488, 1⟩,
  ⟨128495, 128495, 1⟩, ⟨128499, 128499, 1⟩, ⟨128506, 128591, 1⟩, ⟨128640, 128709, 1⟩,
  ⟨128715, 128722, 1⟩, ⟨128725, 128727, 1⟩, ⟨128732, 128741, 1⟩, ⟨128745, 128745, 1⟩,
  ⟨128747, 128748, 1⟩, ⟨128752, 128752, 1⟩, ⟨128755, 128764, 1⟩, ⟨128992, 129003, 1⟩,
  ⟨129008, 129008, 1⟩, ⟨129292, 129338, 1⟩, ⟨129340, 129349, 1⟩, ⟨129351, 129535, 1⟩,
  ⟨129648, 129660, 1⟩, ⟨129664, 129673, 1⟩, ⟨129679, 129734, 1⟩, ⟨129742, 129756, 1⟩,
  ⟨129759, 129769, 1⟩, ⟨129776, 129784, 1⟩]

def emojiComponent : CharSet := .ofRanges [
  (35, 35), (42, 42), (48, 57), (8205, 8205), (8419, 8419), (65039, 65039), (127462, 127487),
  (127995, 127999), (129456, 129459), (917536, 917631)]

def emojiModifier : CharSet := .ofRanges [(127995, 127999)]

def emojiModifierBase : CharSet := .ofRuns [
  ⟨9757, 9757, 1⟩, ⟨9977, 9977, 1⟩, ⟨9994, 9997, 1⟩, ⟨127877, 127877, 1⟩, ⟨127938, 127940, 1⟩,
  ⟨127943, 127943, 1⟩, ⟨127946, 127948, 1⟩, ⟨128066, 128067, 1⟩, ⟨128070, 128080, 1⟩,
  ⟨128102, 128120, 1⟩, ⟨128124, 128124, 1⟩, ⟨128129, 128131, 1⟩, ⟨128133, 128135, 1⟩,
  ⟨128143, 128145, 2⟩, ⟨128170, 128170, 1⟩, ⟨128372, 128373, 1⟩, ⟨128378, 128378, 1⟩,
  ⟨128400, 128400, 1⟩, ⟨128405, 128406, 1⟩, ⟨128581, 128583, 1⟩, ⟨128587, 128591, 1⟩,
  ⟨128675, 128675, 1⟩, ⟨128692, 128694, 1⟩, ⟨128704, 128704, 1⟩, ⟨128716, 128716, 1⟩,
  ⟨129292, 129292, 1⟩, ⟨129295, 129295, 1⟩, ⟨129304, 129311, 1⟩, ⟨129318, 129318, 1⟩,
  ⟨129328, 129337, 1⟩, ⟨129340, 129342, 1⟩, ⟨129399, 129399, 1⟩, ⟨129461, 129462, 1⟩,
  ⟨129464, 129465, 1⟩, ⟨129467, 129467, 1⟩, ⟨129485, 129487, 1⟩, ⟨129489, 129501, 1⟩,
  ⟨129731, 129733, 1⟩, ⟨129776, 129784, 1⟩]

def emojiPresentation : CharSet := .ofRuns [
  ⟨8986, 8987, 1⟩, ⟨9193, 9196, 1⟩, ⟨9200, 9200, 1⟩, ⟨9203, 9203, 1⟩, ⟨9725, 9726, 1⟩,
  ⟨9748, 9749, 1⟩, ⟨9800, 9811, 1⟩, ⟨9855, 9855, 1⟩, ⟨9875, 9875, 1⟩, ⟨9889, 9889, 1⟩,
  ⟨9898, 9899, 1⟩, ⟨9917, 9918, 1⟩, ⟨9924, 9925, 1⟩, ⟨9934, 9934, 1⟩, ⟨9940, 9940, 1⟩,
  ⟨9962, 9962, 1⟩, ⟨9970, 9971, 1⟩, ⟨9973, 9973, 1⟩, ⟨9978, 9978, 1⟩, ⟨9981, 9981, 1⟩,
  ⟨9989, 9989, 1⟩, ⟨9994, 9995, 1⟩, ⟨10024, 10024, 1⟩, ⟨10060, 10062, 2⟩, ⟨10067, 10069, 1⟩,
  ⟨10071, 10071, 1⟩, ⟨10133, 10135, 1⟩, ⟨10160, 10160, 1⟩, ⟨10175, 10175, 1⟩, ⟨11035, 11036, 1⟩,
  ⟨11088, 11088, 1⟩, ⟨11093, 11093, 1⟩, ⟨126980, 126980, 1⟩, ⟨127183, 127183, 1⟩,
  ⟨127374, 127374, 1⟩, ⟨127377, 127386, 1⟩, ⟨127462, 127487, 1⟩, ⟨127489, 127489, 1⟩,
  ⟨127514, 127514, 1⟩, ⟨127535, 127535, 1⟩, ⟨127538, 127542, 1⟩, ⟨127544, 127546, 1⟩,
  ⟨127568, 127569, 1⟩, ⟨127744, 127776, 1⟩, ⟨127789, 127797, 1⟩, ⟨127799, 127868, 1⟩,
  ⟨127870, 127891, 1⟩, ⟨127904, 127946, 1⟩, ⟨127951, 127955, 1⟩, ⟨127968, 127984, 1⟩,
  ⟨127988, 127988, 1⟩, ⟨127992, 128062, 1⟩, ⟨128064, 128064, 1⟩, ⟨128066, 128252, 1⟩,
  ⟨128255, 128317, 1⟩, ⟨128331, 128334, 1⟩, ⟨128336, 128359, 1⟩, ⟨128378, 128378, 1⟩,
  ⟨128405, 128406, 1⟩, ⟨128420, 128420, 1⟩, ⟨128507, 128591, 1⟩, ⟨128640, 128709, 1⟩,
  ⟨128716, 128716, 1⟩, ⟨128720, 128722, 1⟩, ⟨128725, 128727, 1⟩, ⟨128732, 128735, 1⟩,
  ⟨128747, 128748, 1⟩, ⟨128756, 128764, 1⟩, ⟨128992, 129003, 1⟩, ⟨129008, 129008, 1⟩,
  ⟨129292, 129338, 1⟩, ⟨129340, 129349, 1⟩, ⟨129351, 129535, 1⟩, ⟨129648, 129660, 1⟩,
  ⟨129664, 129673, 1⟩, ⟨129679, 129734, 1⟩, ⟨129742, 129756, 1⟩, ⟨129759, 129769, 1⟩,
  ⟨129776, 129784, 1⟩]

def extendedPictographic : CharSet := .ofRuns [
  ⟨169, 169, 1⟩, ⟨174, 174, 1⟩, ⟨8252, 8252, 1⟩, ⟨8265, 8265, 1⟩, ⟨8482, 8482, 1⟩, ⟨8505, 8505, 1⟩,
  ⟨8596, 8601, 1⟩, ⟨8617, 8618, 1⟩, ⟨8986, 8987, 1⟩, ⟨9000, 9000, 1⟩, ⟨9096, 9096, 1⟩,
  ⟨9167, 9167, 1⟩, ⟨9193, 9203, 1⟩, ⟨9208, 9210, 1⟩, ⟨9410, 9410, 1⟩, ⟨9642, 9643, 1⟩,
  ⟨9654, 9654, 1⟩, ⟨9664, 9664, 1⟩, ⟨9723, 9726, 1⟩, ⟨9728, 9733, 1⟩, ⟨9735, 9746, 1⟩,
  ⟨9748, 9861, 1⟩, ⟨9872, 9989, 1⟩, ⟨9992, 10002, 1⟩, ⟨10004, 10006, 2⟩, ⟨10013, 10013, 1⟩,
  ⟨10017, 10017, 1⟩, ⟨10024, 10024, 1⟩, ⟨10035, 10036, 1⟩, ⟨10052, 10052, 1⟩, ⟨10055, 10055, 1⟩,
  ⟨10060, 10062, 2⟩, ⟨10067, 10069, 1⟩, ⟨10071, 10071, 1⟩, ⟨10083, 10087, 1⟩, ⟨10133, 10135, 1⟩,
  ⟨10145, 10145, 1⟩, ⟨10160, 10160, 1⟩, ⟨10175, 10175, 1⟩, ⟨10548, 10549, 1⟩, ⟨11013, 11015, 1⟩,
  ⟨11035, 11036, 1⟩, ⟨11088, 11088, 1⟩, ⟨11093, 11093, 1⟩, ⟨12336, 12336, 1⟩, ⟨12349, 12349, 1⟩,
  ⟨12951, 12953, 2⟩, ⟨126976, 127231, 1⟩, ⟨127245, 127247, 1⟩, ⟨127279, 127279, 1⟩,
  ⟨127340, 127345, 1⟩, ⟨127358, 127359, 1⟩, ⟨127374, 127374, 1⟩, ⟨127377, 127386, 1⟩,
  ⟨127405, 127461, 1⟩, ⟨127489, 127503, 1⟩, ⟨127514, 127514, 1⟩, ⟨127535, 127535, 1⟩,
  ⟨127538, 127546, 1⟩, ⟨127548, 127551, 1⟩, ⟨127561, 127994, 1⟩, ⟨128000, 128317, 1⟩,
  ⟨128326, 128591, 1⟩, ⟨128640, 128767, 1⟩, ⟨128884, 128895, 1⟩, ⟨128981, 129023, 1⟩,
  ⟨129036, 129039, 1⟩, ⟨129096, 129103, 1⟩, ⟨129114, 129119, 1⟩, ⟨129160, 129167, 1⟩,
  ⟨129198, 129279, 1⟩, ⟨129292, 129338, 1⟩, ⟨129340, 129349, 1⟩, ⟨129351, 129791, 1⟩,
  ⟨130048, 131069, 1⟩]

def otherGraphemeExtend : CharSet := .ofRuns [
  ⟨2494, 2494, 1⟩, ⟨2519, 2519, 1⟩, ⟨2878, 2878, 1⟩, ⟨2903, 2903, 1⟩, ⟨3006, 3006, 1⟩,
  ⟨3031, 3031, 1⟩, ⟨3264, 3266, 2⟩, ⟨3271, 3272, 1⟩, ⟨3274, 3275, 1⟩, ⟨3285, 3286, 1⟩,
  ⟨3390, 3390, 1⟩, ⟨3415, 3415, 1⟩, ⟨3535, 3535, 1⟩, ⟨3551, 3551, 1⟩, ⟨5909, 5909, 1⟩,
  ⟨5940, 5940, 1⟩, ⟨6965, 6965, 1⟩, ⟨6971, 6973, 2⟩, ⟨6979, 6980, 1⟩, ⟨7082, 7082, 1⟩,
  ⟨7154, 7155, 1⟩, ⟨8204, 8204, 1⟩, ⟨12334, 12335, 1⟩, ⟨43347, 43347, 1⟩, ⟨43456, 43456, 1⟩,
  ⟨65438, 65439, 1⟩, ⟨70080, 70080, 1⟩, ⟨70197, 70197, 1⟩, ⟨70462, 70462, 1⟩, ⟨70477, 70477, 1⟩,
  ⟨70487, 70487, 1⟩, ⟨70584, 70584, 1⟩, ⟨70594, 70594, 1⟩, ⟨70597, 70597, 1⟩, ⟨70599, 70601, 1⟩,
  ⟨70607, 70607, 1⟩, ⟨70832, 70832, 1⟩, ⟨70845, 70845, 1⟩, ⟨71087, 71087, 1⟩, ⟨71350, 71350, 1⟩,
  ⟨71984, 71984, 1⟩, ⟨71997, 71997, 1⟩, ⟨73537, 73537, 1⟩, ⟨94192, 94193, 1⟩, ⟨119141, 119142, 1⟩,
  ⟨119149, 119154, 1⟩, ⟨917536, 917631, 1⟩]

def graphemeExtend : CharSet :=
  .unions [Category.nonspacingMark, Category.enclosingMark, otherGraphemeExtend]

def graphemeBase : CharSet :=
  Category.assigned.diff (.unions [Category.control, Category.format, Category.privateUse,
    Category.lineSeparator, Category.paragraphSeparator, graphemeExtend])

def graphemeLink : CharSet := .ofRuns [
  ⟨2381, 2381, 1⟩, ⟨2509, 2509, 1⟩, ⟨2637, 2637, 1⟩, ⟨2765, 2765, 1⟩, ⟨2893, 2893, 1⟩,
  ⟨3021, 3021, 1⟩, ⟨3149, 3149, 1⟩, ⟨3277, 3277, 1⟩, ⟨3387, 3388, 1⟩, ⟨3405, 3405, 1⟩,
  ⟨3530, 3530, 1⟩, ⟨3642, 3642, 1⟩, ⟨3770, 3770, 1⟩, ⟨3972, 3972, 1⟩, ⟨4153, 4154, 1⟩,
  ⟨5908, 5909, 1⟩, ⟨5940, 5940, 1⟩, ⟨6098, 6098, 1⟩, ⟨6752, 6752, 1⟩, ⟨6980, 6980, 1⟩,
  ⟨7082, 7083, 1⟩, ⟨7154, 7155, 1⟩, ⟨11647, 11647, 1⟩, ⟨43014, 43014, 1⟩, ⟨43052, 43052, 1⟩,
  ⟨43204, 43204, 1⟩, ⟨43347, 43347, 1⟩, ⟨43456, 43456, 1⟩, ⟨43766, 43766, 1⟩, ⟨44013, 44013, 1⟩,
  ⟨68159, 68159, 1⟩, ⟨69702, 69702, 1⟩, ⟨69744, 69744, 1⟩, ⟨69759, 69759, 1⟩, ⟨69817, 69817, 1⟩,
  ⟨69939, 69940, 1⟩, ⟨70080, 70080, 1⟩, ⟨70197, 70197, 1⟩, ⟨70378, 70378, 1⟩, ⟨70477, 70477, 1⟩,
  ⟨70606, 70608, 2⟩, ⟨70722, 70722, 1⟩, ⟨70850, 70850, 1⟩, ⟨71103, 71103, 1⟩, ⟨71231, 71231, 1⟩,
  ⟨71350, 71350, 1⟩, ⟨71467, 71467, 1⟩, ⟨71737, 71737, 1⟩, ⟨71997, 71998, 1⟩, ⟨72160, 72160, 1⟩,
  ⟨72244, 72244, 1⟩, ⟨72263, 72263, 1⟩, ⟨72345, 72345, 1⟩, ⟨72767, 72767, 1⟩, ⟨73028, 73029, 1⟩,
  ⟨73111, 73111, 1⟩, ⟨73537, 73538, 1⟩, ⟨90415, 90415, 1⟩]

def ideographic : CharSet := .ofRanges [
  (12294, 12295), (12321, 12329), (12344, 12346), (13312, 19903), (19968, 40959), (63744, 64109),
  (64112, 64217), (94180, 94180), (94208, 100343), (100352, 101589), (101631, 101640),
  (110960, 111355), (131072, 173791), (173824, 177977), (177984, 178205), (178208, 183969),
  (183984, 191456), (191472, 192093), (194560, 195101), (196608, 201546), (201552, 205743)]

def unifiedIdeograph : CharSet := .ofRuns [
  ⟨13312, 19903, 1⟩, ⟨19968, 40959, 1⟩, ⟨64014, 64015, 1⟩, ⟨64017, 64017, 1⟩, ⟨64019, 64020, 1⟩,
  ⟨64031, 64033, 2⟩, ⟨64035, 64036, 1⟩, ⟨64039, 64041, 1⟩, ⟨131072, 173791, 1⟩,
  ⟨173824, 177977, 1⟩, ⟨177984, 178205, 1⟩, ⟨178208, 183969, 1⟩, ⟨183984, 191456, 1⟩,
  ⟨191472, 192093, 1⟩, ⟨196608, 201546, 1⟩, ⟨201552, 205743, 1⟩]

def radical : CharSet := .ofRanges [(11904, 11929), (11931, 12019), (12032, 12245)]

def idsUnaryOperator : CharSet := .ofRanges [(12286, 12287)]

def idsBinaryOperator : CharSet := .ofRanges [(12272, 12273), (12276, 12285), (12783, 12783)]

def idsTrinaryOperator : CharSet := .ofRanges [(12274, 12275)]

def idCompatMathStart : CharSet := .ofRanges [
  (8706, 8706), (8711, 8711), (8734, 8734), (120513, 120513), (120539, 120539), (120571, 120571),
  (120597, 120597), (120629, 120629), (120655, 120655), (120687, 120687), (120713, 120713),
  (120745, 120745), (120771, 120771)]

def idCompatMathContinue : CharSet := .ofRanges [
  (178, 179), (185, 185), (8304, 8304), (8308, 8318), (8320, 8334), (8706, 8706), (8711, 8711),
  (8734, 8734), (120513, 120513), (120539, 120539), (120571, 120571), (120597, 120597),
  (120629, 120629), (120655, 120655), (120687, 120687), (120713, 120713), (120745, 120745),
  (120771, 120771)]

def joinControl : CharSet := .ofRanges [(8204, 8205)]

def logicalOrderException : CharSet := .ofRanges [
  (3648, 3652), (3776, 3780), (6581, 6583), (6586, 6586), (43701, 43702), (43705, 43705),
  (43707, 43708)]

def otherMath : CharSet := .ofRuns [
  ⟨94, 94, 1⟩, ⟨976, 978, 1⟩, ⟨981, 981, 1⟩, ⟨1008, 1009, 1⟩, ⟨1012, 1013, 1⟩, ⟨8214, 8214, 1⟩,
  ⟨8242, 8244, 1⟩, ⟨8256, 8256, 1⟩, ⟨8289, 8292, 1⟩, ⟨8317, 8318, 1⟩, ⟨8333, 8334, 1⟩,
  ⟨8400, 8412, 1⟩, ⟨8417, 8417, 1⟩, ⟨8421, 8422, 1⟩, ⟨8427, 8431, 1⟩, ⟨8450, 8450, 1⟩,
  ⟨8455, 8455, 1⟩, ⟨8458, 8467, 1⟩, ⟨8469, 8469, 1⟩, ⟨8473, 8477, 1⟩, ⟨8484, 8484, 1⟩,
  ⟨8488, 8489, 1⟩, ⟨8492, 8493, 1⟩, ⟨8495, 8497, 1⟩, ⟨8499, 8504, 1⟩, ⟨8508, 8511, 1⟩,
  ⟨8517, 8521, 1⟩, ⟨8597, 8601, 1⟩, ⟨8604, 8607, 1⟩, ⟨8609, 8610, 1⟩, ⟨8612, 8613, 1⟩,
  ⟨8615, 8615, 1⟩, ⟨8617, 8621, 1⟩, ⟨8624, 8625, 1⟩, ⟨8630, 8631, 1⟩, ⟨8636, 8653, 1⟩,
  ⟨8656, 8657, 1⟩, ⟨8659, 8659, 1⟩, ⟨8661, 8667, 1⟩, ⟨8669, 8669, 1⟩, ⟨8676, 8677, 1⟩,
  ⟨8968, 8971, 1⟩, ⟨9140, 9141, 1⟩, ⟨9143, 9143, 1⟩, ⟨9168, 9168, 1⟩, ⟨9186, 9186, 1⟩,
  ⟨9632, 9633, 1⟩, ⟨9646, 9654, 1⟩, ⟨9660, 9664, 1⟩, ⟨9670, 9671, 1⟩, ⟨9674, 9675, 1⟩,
  ⟨9679, 9683, 1⟩, ⟨9698, 9700, 2⟩, ⟨9703, 9708, 1⟩, ⟨9733, 9734, 1⟩, ⟨9792, 9794, 2⟩,
  ⟨9824, 9827, 1⟩, ⟨9837, 9838, 1⟩, ⟨10181, 10182, 1⟩, ⟨10214, 10223, 1⟩, ⟨10627, 10648, 1⟩,
  ⟨10712, 10715, 1⟩, ⟨10748, 10749, 1⟩, ⟨65121, 65123, 2⟩, ⟨65128, 65128, 1⟩, ⟨65340, 65342, 2⟩,
  ⟨119808, 119892, 1⟩, ⟨119894, 119964, 1⟩, ⟨119966, 119967, 1⟩, ⟨119970, 119970, 1⟩,
  ⟨119973, 119974, 1⟩, ⟨119977, 119980, 1⟩, ⟨119982, 119993, 1⟩, ⟨119995, 119995, 1⟩,
  ⟨119997, 120003, 1⟩, ⟨120005, 120069, 1⟩, ⟨120071, 120074, 1⟩, ⟨120077, 120084, 1⟩,
  ⟨120086, 120092, 1⟩, ⟨120094, 120121, 1⟩, ⟨120123, 120126, 1⟩, ⟨120128, 120132, 1⟩,
  ⟨120134, 120134, 1⟩, ⟨120138, 120144, 1⟩, ⟨120146, 120485, 1⟩, ⟨120488, 120512, 1⟩,
  ⟨120514, 120538, 1⟩, ⟨120540, 120570, 1⟩, ⟨120572, 120596, 1⟩, ⟨120598, 120628, 1⟩,
  ⟨120630, 120654, 1⟩, ⟨120656, 120686, 1⟩, ⟨120688, 120712, 1⟩, ⟨120714, 120744, 1⟩,
  ⟨120746, 120770, 1⟩, ⟨120772, 120779, 1⟩, ⟨120782, 120831, 1⟩, ⟨126464, 126467, 1⟩,
  ⟨126469, 126495, 1⟩, ⟨126497, 126498, 1⟩, ⟨126500, 126500, 1⟩, ⟨126503, 126503, 1⟩,
  ⟨126505, 126514, 1⟩, ⟨126516, 126519, 1⟩, ⟨126521, 126523, 2⟩, ⟨126530, 126530, 1⟩,
  ⟨126535, 126539, 2⟩, ⟨126541, 126543, 1⟩, ⟨126545, 126546, 1⟩, ⟨126548, 126548, 1⟩,
  ⟨126551, 126559, 2⟩, ⟨126561, 126562, 1⟩, ⟨126564, 126564, 1⟩, ⟨126567, 126570, 1⟩,
  ⟨126572, 126578, 1⟩, ⟨126580, 126583, 1⟩, ⟨126585, 126588, 1⟩, ⟨126590, 126590, 1⟩,
  ⟨126592, 126601, 1⟩, ⟨126603, 126619, 1⟩, ⟨126625, 126627, 1⟩, ⟨126629, 126633, 1⟩,
  ⟨126635, 126651, 1⟩]

def math : CharSet := Category.mathSymbol.union otherMath

def modifierCombiningMark : CharSet := .ofRanges [
  (1620, 1621), (1624, 1624), (1756, 1756), (1763, 1763), (1767, 1768), (2250, 2251), (2253, 2255),
  (2259, 2259), (2291, 2291)]

def noncharacter : CharSet :=
  .ofRanges ((0xFDD0, 0xFDEF) :: (List.range 17).map fun n =>
    (n * 65536 + 65534, n * 65536 + 65535))

def circledLetters : CharSet := .ofRanges [
  (837, 837), (9398, 9449), (127280, 127305), (127312, 127337), (127344, 127369)]

def otherAlphabetic : CharSet :=
  (Case.alphabetic.diff (.unions [Category.letter, Category.letterNumber, Case.lowercase,
    Case.uppercase])).union circledLetters

def otherDefaultIgnorable : CharSet := .ofRanges [
  (847, 847), (4447, 4448), (6068, 6069), (8293, 8293), (12644, 12644), (65440, 65440),
  (65520, 65528), (917504, 917504), (917506, 917535), (917632, 917759), (918000, 921599)]

def prependedConcatenationMark : CharSet := .ofRanges [
  (1536, 1541), (1757, 1757), (1807, 1807), (2192, 2193), (2274, 2274), (69821, 69821),
  (69837, 69837)]

def variationSelector : CharSet := .ofRanges [
  (6155, 6157), (6159, 6159), (65024, 65039), (917760, 917999)]

def annotations : CharSet := .ofRanges [(65529, 65531), (78896, 78912)]

def whiteSpace : CharSet := .ofRanges [
  (9, 13), (32, 32), (133, 133), (160, 160), (5760, 5760), (8192, 8202), (8232, 8233),
  (8239, 8239), (8287, 8287), (12288, 12288)]

def defaultIgnorable : CharSet :=
  (CharSet.unions [otherDefaultIgnorable, Category.format, variationSelector]).diff
    (.unions [whiteSpace, annotations, prependedConcatenationMark])

def patternSyntax : CharSet := .ofRanges [
  (33, 47), (58, 64), (91, 94), (96, 96), (123, 126), (161, 167), (169, 169), (171, 172),
  (174, 174), (176, 177), (182, 182), (187, 187), (191, 191), (215, 215), (247, 247), (8208, 8231),
  (8240, 8254), (8257, 8275), (8277, 8286), (8592, 9311), (9472, 10101), (10132, 11157),
  (11159, 11263), (11776, 11903), (12289, 12291), (12296, 12320), (12336, 12336), (64830, 64831),
  (65093, 65094)]

def patternWhiteSpace : CharSet := .ofRanges [
  (9, 13), (32, 32), (133, 133), (8206, 8207), (8232, 8233)]

def otherIdStart : CharSet := .ofRanges [(6277, 6278), (8472, 8472), (8494, 8494), (12443, 12444)]

def otherIdContinue : CharSet := .ofRanges [
  (183, 183), (903, 903), (4969, 4977), (6618, 6618), (8204, 8205), (12539, 12539), (65381, 65381)]

def idStart : CharSet :=
  (CharSet.unions [Category.letter, Category.letterNumber, otherIdStart]).diff
    (patternSyntax.union patternWhiteSpace)

def idContinue : CharSet :=
  (CharSet.unions [idStart, Category.nonspacingMark, Category.spacingMark,
    Category.decimalNumber, Category.connectorPunctuation, otherIdContinue]).diff
    (patternSyntax.union patternWhiteSpace)

def unstable : CharSet := .ofRuns [
  ⟨890, 890, 1⟩, ⟨12443, 12444, 1⟩, ⟨64606, 64611, 1⟩, ⟨65018, 65019, 1⟩, ⟨65136, 65150, 2⟩]

def unstableStart : CharSet := .ofRanges [(3635, 3635), (3763, 3763), (65438, 65439)]

def xidStart : CharSet := idStart.diff (unstable.union unstableStart)

def xidContinue : CharSet := idContinue.diff unstable

def quotationMark : CharSet := .ofRanges [
  (34, 34), (39, 39), (171, 171), (187, 187), (8216, 8223), (8249, 8250), (11842, 11842),
  (12300, 12303), (12317, 12319), (65089, 65092), (65282, 65282), (65287, 65287), (65378, 65379)]

def regionalIndicator : CharSet := .ofRanges [(127462, 127487)]

def sentenceTerminal : CharSet := .ofRuns [
  ⟨33, 33, 1⟩, ⟨46, 46, 1⟩, ⟨63, 63, 1⟩, ⟨1417, 1417, 1⟩, ⟨1565, 1567, 1⟩, ⟨1748, 1748, 1⟩,
  ⟨1792, 1794, 1⟩, ⟨2041, 2041, 1⟩, ⟨2103, 2105, 2⟩, ⟨2109, 2110, 1⟩, ⟨2404, 2405, 1⟩,
  ⟨4170, 4171, 1⟩, ⟨4962, 4962, 1⟩, ⟨4967, 4968, 1⟩, ⟨5742, 5742, 1⟩, ⟨5941, 5942, 1⟩,
  ⟨6100, 6101, 1⟩, ⟨6147, 6147, 1⟩, ⟨6153, 6153, 1⟩, ⟨6468, 6469, 1⟩, ⟨6824, 6827, 1⟩,
  ⟨6990, 6991, 1⟩, ⟨7002, 7003, 1⟩, ⟨7006, 7007, 1⟩, ⟨7037, 7039, 1⟩, ⟨7227, 7228, 1⟩,
  ⟨7294, 7295, 1⟩, ⟨8228, 8228, 1⟩, ⟨8252, 8253, 1⟩, ⟨8263, 8265, 1⟩, ⟨11513, 11515, 1⟩,
  ⟨11822, 11822, 1⟩, ⟨11836, 11836, 1⟩, ⟨11859, 11860, 1⟩, ⟨12290, 12290, 1⟩, ⟨42239, 42239, 1⟩,
  ⟨42510, 42511, 1⟩, ⟨42739, 42739, 1⟩, ⟨42743, 42743, 1⟩, ⟨43126, 43127, 1⟩, ⟨43214, 43215, 1⟩,
  ⟨43311, 43311, 1⟩, ⟨43464, 43465, 1⟩, ⟨43613, 43615, 1⟩, ⟨43760, 43761, 1⟩, ⟨44011, 44011, 1⟩,
  ⟨65042, 65042, 1⟩, ⟨65045, 65046, 1⟩, ⟨65106, 65106, 1⟩, ⟨65110, 65111, 1⟩, ⟨65281, 65281, 1⟩,
  ⟨65294, 65294, 1⟩, ⟨65311, 65311, 1⟩, ⟨65377, 65377, 1⟩, ⟨68182, 68183, 1⟩, ⟨69461, 69465, 1⟩,
  ⟨69510, 69513, 1⟩, ⟨69703, 69704, 1⟩, ⟨69822, 69825, 1⟩, ⟨69953, 69955, 1⟩, ⟨70085, 70086, 1⟩,
  ⟨70093, 70093, 1⟩, ⟨70110, 70111, 1⟩, ⟨70200, 70201, 1⟩, ⟨70203, 70204, 1⟩, ⟨70313, 70313, 1⟩,
  ⟨70612, 70613, 1⟩, ⟨70731, 70732, 1⟩, ⟨71106, 71107, 1⟩, ⟨71113, 71127, 1⟩, ⟨71233, 71234, 1⟩,
  ⟨71484, 71486, 1⟩, ⟨72004, 72006, 2⟩, ⟨72258, 72259, 1⟩, ⟨72347, 72348, 1⟩, ⟨72769, 72770, 1⟩,
  ⟨73463, 73464, 1⟩, ⟨73539, 73540, 1⟩, ⟨92782, 92783, 1⟩, ⟨92917, 92917, 1⟩, ⟨92983, 92984, 1⟩,
  ⟨92996, 92996, 1⟩, ⟨93550, 93551, 1⟩, ⟨93848, 93848, 1⟩, ⟨113823, 113823, 1⟩, ⟨121480, 121480, 1⟩]

def softDotted : CharSet := .ofRuns [
  ⟨105, 106, 1⟩, ⟨303, 303, 1⟩, ⟨585, 585, 1⟩, ⟨616, 616, 1⟩, ⟨669, 669, 1⟩, ⟨690, 690, 1⟩,
  ⟨1011, 1011, 1⟩, ⟨1110, 1112, 2⟩, ⟨7522, 7522, 1⟩, ⟨7574, 7574, 1⟩, ⟨7588, 7588, 1⟩,
  ⟨7592, 7592, 1⟩, ⟨7725, 7725, 1⟩, ⟨7883, 7883, 1⟩, ⟨8305, 8305, 1⟩, ⟨8520, 8521, 1⟩,
  ⟨11388, 11388, 1⟩, ⟨119842, 119843, 1⟩, ⟨119894, 119895, 1⟩, ⟨119946, 119947, 1⟩,
  ⟨119998, 119999, 1⟩, ⟨120050, 120051, 1⟩, ⟨120102, 120103, 1⟩, ⟨120154, 120155, 1⟩,
  ⟨120206, 120207, 1⟩, ⟨120258, 120259, 1⟩, ⟨120310, 120311, 1⟩, ⟨120362, 120363, 1⟩,
  ⟨120414, 120415, 1⟩, ⟨120466, 120467, 1⟩, ⟨122650, 122650, 1⟩, ⟨122956, 122957, 1⟩,
  ⟨122984, 122984, 1⟩]

def terminalPunctuation : CharSet := .ofRuns [
  ⟨33, 33, 1⟩, ⟨44, 46, 2⟩, ⟨58, 59, 1⟩, ⟨63, 63, 1⟩, ⟨894, 894, 1⟩, ⟨903, 903, 1⟩,
  ⟨1417, 1417, 1⟩, ⟨1475, 1475, 1⟩, ⟨1548, 1548, 1⟩, ⟨1563, 1563, 1⟩, ⟨1565, 1567, 1⟩,
  ⟨1748, 1748, 1⟩, ⟨1792, 1802, 1⟩, ⟨1804, 1804, 1⟩, ⟨2040, 2041, 1⟩, ⟨2096, 2101, 1⟩,
  ⟨2103, 2110, 1⟩, ⟨2142, 2142, 1⟩, ⟨2404, 2405, 1⟩, ⟨3674, 3675, 1⟩, ⟨3848, 3848, 1⟩,
  ⟨3853, 3858, 1⟩, ⟨4170, 4171, 1⟩, ⟨4961, 4968, 1⟩, ⟨5742, 5742, 1⟩, ⟨5867, 5869, 1⟩,
  ⟨5941, 5942, 1⟩, ⟨6100, 6102, 1⟩, ⟨6106, 6106, 1⟩, ⟨6146, 6149, 1⟩, ⟨6152, 6153, 1⟩,
  ⟨6468, 6469, 1⟩, ⟨6824, 6827, 1⟩, ⟨6990, 6991, 1⟩, ⟨7002, 7003, 1⟩, ⟨7005, 7007, 1⟩,
  ⟨7037, 7039, 1⟩, ⟨7227, 7231, 1⟩, ⟨7294, 7295, 1⟩, ⟨8228, 8228, 1⟩, ⟨8252, 8253, 1⟩,
  ⟨8263, 8265, 1⟩, ⟨11513, 11515, 1⟩, ⟨11822, 11822, 1⟩, ⟨11836, 11836, 1⟩, ⟨11841, 11841, 1⟩,
  ⟨11852, 11852, 1⟩, ⟨11854, 11855, 1⟩, ⟨11859, 11860, 1⟩, ⟨12289, 12290, 1⟩, ⟨42238, 42239, 1⟩,
  ⟨42509, 42511, 1⟩, ⟨42739, 42743, 1⟩, ⟨43126, 43127, 1⟩, ⟨43214, 43215, 1⟩, ⟨43311, 43311, 1⟩,
  ⟨43463, 43465, 1⟩, ⟨43613, 43615, 1⟩, ⟨43743, 43743, 1⟩, ⟨43760, 43761, 1⟩, ⟨44011, 44011, 1⟩,
  ⟨65042, 65042, 1⟩, ⟨65045, 65046, 1⟩, ⟨65104, 65106, 1⟩, ⟨65108, 65111, 1⟩, ⟨65281, 65281, 1⟩,
  ⟨65292, 65294, 2⟩, ⟨65306, 65307, 1⟩, ⟨65311, 65311, 1⟩, ⟨65377, 65377, 1⟩, ⟨65380, 65380, 1⟩,
  ⟨66463, 66463, 1⟩, ⟨66512, 66512, 1⟩, ⟨67671, 67671, 1⟩, ⟨67871, 67871, 1⟩, ⟨68182, 68183, 1⟩,
  ⟨68336, 68341, 1⟩, ⟨68410, 68415, 1⟩, ⟨68505, 68508, 1⟩, ⟨69461, 69465, 1⟩, ⟨69510, 69513, 1⟩,
  ⟨69703, 69709, 1⟩, ⟨69822, 69825, 1⟩, ⟨69953, 69955, 1⟩, ⟨70085, 70086, 1⟩, ⟨70093, 70093, 1⟩,
  ⟨70110, 70111, 1⟩, ⟨70200, 70204, 1⟩, ⟨70313, 70313, 1⟩, ⟨70612, 70613, 1⟩, ⟨70731, 70733, 1⟩,
  ⟨70746, 70747, 1⟩, ⟨71106, 71109, 1⟩, ⟨71113, 71127, 1⟩, ⟨71233, 71234, 1⟩, ⟨71484, 71486, 1⟩,
  ⟨72004, 72006, 2⟩, ⟨72258, 72259, 1⟩, ⟨72347, 72348, 1⟩, ⟨72353, 72354, 1⟩, ⟨72769, 72771, 1⟩,
  ⟨72817, 72817, 1⟩, ⟨73463, 73464, 1⟩, ⟨73539, 73540, 1⟩, ⟨74864, 74868, 1⟩, ⟨92782, 92783, 1⟩,
  ⟨92917, 92917, 1⟩, ⟨92983, 92985, 1⟩, ⟨92996, 92996, 1⟩, ⟨93550, 93551, 1⟩, ⟨93847, 93848, 1⟩,
  ⟨113823, 113823, 1⟩, ⟨121479, 121482, 1⟩]

def all : List (List String × CharSet) := [
  (["ASCII_Hex_Digit", "AHex"], asciiHexDigit), (["Alphabetic", "Alpha"], Case.alphabetic),
  (["Bidi_Control", "Bidi_C"], bidiControl), (["Bidi_Mirrored", "Bidi_M"], bidiMirrored),
  (["Case_Ignorable", "CI"], Case.caseIgnorable), (["Cased"], Case.cased),
  (["Changes_When_Casefolded", "CWCF"], Case.changesWhenCasefolded),
  (["Changes_When_Casemapped", "CWCM"], Case.changesWhenCasemapped),
  (["Changes_When_Lowercased", "CWL"], Case.changesWhenLowercased),
  (["Changes_When_Titlecased", "CWT"], Case.changesWhenTitlecased),
  (["Changes_When_Uppercased", "CWU"], Case.changesWhenUppercased), (["Dash"], dash),
  (["Default_Ignorable_Code_Point", "DI"], defaultIgnorable), (["Deprecated", "Dep"], deprecated),
  (["Diacritic", "Dia"], diacritic), (["Emoji"], emoji),
  (["Emoji_Component", "EComp"], emojiComponent), (["Emoji_Modifier", "EMod"], emojiModifier),
  (["Emoji_Modifier_Base", "EBase"], emojiModifierBase),
  (["Emoji_Presentation", "EPres"], emojiPresentation),
  (["Extended_Pictographic", "ExtPict"], extendedPictographic), (["Extender", "Ext"], extender),
  (["Grapheme_Base", "Gr_Base"], graphemeBase), (["Grapheme_Extend", "Gr_Ext"], graphemeExtend),
  (["Grapheme_Link", "Gr_Link"], graphemeLink), (["Hex_Digit", "Hex"], hexDigit),
  (["Hyphen"], hyphen), (["ID_Compat_Math_Continue"], idCompatMathContinue),
  (["ID_Compat_Math_Start"], idCompatMathStart), (["ID_Continue", "IDC"], idContinue),
  (["ID_Start", "IDS"], idStart), (["IDS_Binary_Operator", "IDSB"], idsBinaryOperator),
  (["IDS_Trinary_Operator", "IDST"], idsTrinaryOperator),
  (["IDS_Unary_Operator", "IDSU"], idsUnaryOperator), (["Ideographic", "Ideo"], ideographic),
  (["Join_Control", "Join_C"], joinControl),
  (["Logical_Order_Exception", "LOE"], logicalOrderException),
  (["Lowercase", "Lower"], Case.lowercase), (["Math"], math),
  (["Modifier_Combining_Mark", "MCM"], modifierCombiningMark),
  (["Noncharacter_Code_Point", "NChar"], noncharacter),
  (["Other_Alphabetic", "OAlpha"], otherAlphabetic),
  (["Other_Default_Ignorable_Code_Point", "ODI"], otherDefaultIgnorable),
  (["Other_Grapheme_Extend", "OGr_Ext"], otherGraphemeExtend),
  (["Other_ID_Continue", "OIDC"], otherIdContinue), (["Other_ID_Start", "OIDS"], otherIdStart),
  (["Other_Lowercase", "OLower"], Case.otherLowercase), (["Other_Math", "OMath"], otherMath),
  (["Other_Uppercase", "OUpper"], Case.otherUppercase),
  (["Pattern_Syntax", "Pat_Syn"], patternSyntax),
  (["Pattern_White_Space", "Pat_WS"], patternWhiteSpace),
  (["Prepended_Concatenation_Mark", "PCM"], prependedConcatenationMark),
  (["Quotation_Mark", "QMark"], quotationMark), (["Radical"], radical),
  (["Regional_Indicator", "RI"], regionalIndicator),
  (["Sentence_Terminal", "STerm"], sentenceTerminal), (["Soft_Dotted", "SD"], softDotted),
  (["Terminal_Punctuation", "Term"], terminalPunctuation),
  (["Unified_Ideograph", "UIdeo"], unifiedIdeograph), (["Uppercase", "Upper"], Case.uppercase),
  (["Variation_Selector", "VS"], variationSelector),
  (["White_Space", "WSpace", "space"], whiteSpace), (["XID_Continue", "XIDC"], xidContinue),
  (["XID_Start", "XIDS"], xidStart)]

/-- What words consist of: letters, marks, digits, connectors and the controls that join them. -/
def word : CharSet :=
  .unions [Case.alphabetic, Category.mark, Category.decimalNumber, Category.connectorPunctuation,
    joinControl]

end LinkedRaces.Regex.BinaryProperty
