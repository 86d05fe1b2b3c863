import LinkedRaces.Regex.Unicode.Script

/-!
Characters that are written in several scripts, or in other scripts than the one that they count to:
the property Script_Extensions of version 16 of the Unicode character database.
-/

namespace LinkedRaces.Regex.Script

/-- Ranges of characters and the codes of all scripts that they are written in. -/
def shared : List (List (Nat × Nat) × List String) := [
  ([(183, 183)], ["Avst", "Cari", "Copt", "Dupl", "Elba", "Geor", "Glag", "Goth", "Grek", "Gong",
    "Hani", "Latn", "Lydi", "Mahj", "Perm", "Shaw"]),
  ([(700, 700)], ["Beng", "Cyrl", "Deva", "Latn", "Lisu", "Thai", "Toto"]),
  ([(711, 711), (713, 715), (729, 729)], ["Bopo", "Latn"]),
  ([(717, 717)], ["Latn", "Lisu"]),
  ([(727, 727)], ["Latn", "Thai"]),
  ([(768, 768)], ["Cher", "Copt", "Cyrl", "Grek", "Latn", "Perm", "Sunu", "Tale"]),
  ([(769, 769)], ["Cher", "Cyrl", "Grek", "Latn", "Osge", "Sunu", "Tale", "Todr"]),
  ([(770, 770)], ["Cher", "Cyrl", "Latn", "Tfng"]),
  ([(771, 771)], ["Glag", "Latn", "Sunu", "Syrc", "Thai"]),
  ([(772, 772)], ["Aghb", "Cher", "Copt", "Cyrl", "Goth", "Grek", "Latn", "Osge", "Syrc", "Tfng",
    "Todr"]),
  ([(773, 773)], ["Copt", "Elba", "Glag", "Goth", "Kana", "Latn"]),
  ([(774, 774)], ["Cyrl", "Grek", "Latn", "Perm", "Tfng"]),
  ([(775, 775)], ["Copt", "Dupl", "Hebr", "Latn", "Perm", "Syrc", "Tale", "Tfng", "Todr"]),
  ([(776, 776)], ["Armn", "Cyrl", "Dupl", "Goth", "Grek", "Hebr", "Latn", "Perm", "Syrc", "Tale",
    "Tfng"]),
  ([(777, 777)], ["Latn", "Tfng"]),
  ([(778, 778)], ["Dupl", "Latn", "Syrc"]),
  ([(779, 779)], ["Cher", "Cyrl", "Latn", "Osge"]),
  ([(780, 780)], ["Cher", "Latn", "Tale"]),
  ([(781, 781), (784, 784)], ["Latn", "Sunu"]),
  ([(782, 782)], ["Ethi", "Latn"]),
  ([(785, 785)], ["Cyrl", "Latn", "Todr"]),
  ([(787, 787)], ["Grek", "Latn", "Perm", "Todr"]),
  ([(803, 803)], ["Cher", "Dupl", "Kana", "Latn", "Syrc", "Tfng"]),
  ([(804, 804)], ["Cher", "Dupl", "Latn", "Syrc"]),
  ([(805, 805), (814, 814)], ["Latn", "Syrc"]),
  ([(813, 813)], ["Latn", "Sunu", "Syrc"]),
  ([(816, 816)], ["Cher", "Latn", "Syrc"]),
  ([(817, 817)], ["Aghb", "Cher", "Goth", "Latn", "Sunu", "Syrc", "Thai"]),
  ([(834, 834), (837, 837), (7616, 7617)], ["Grek"]),
  ([(856, 856)], ["Latn", "Osge"]),
  ([(862, 862)], ["Aghb", "Latn", "Todr"]),
  ([(867, 879)], ["Latn"]),
  ([(884, 885)], ["Copt", "Grek"]),
  ([(1155, 1155)], ["Cyrl", "Perm"]),
  ([(1156, 1156), (1159, 1159), (11843, 11843), (42607, 42607)], ["Cyrl", "Glag"]),
  ([(1157, 1158)], ["Cyrl", "Latn"]),
  ([(1417, 1417)], ["Armn", "Geor", "Glag"]),
  ([(1548, 1548), (1563, 1563)], ["Arab", "Gara", "Rohg", "Nkoo", "Syrc", "Thaa", "Yezi"]),
  ([(1564, 1564)], ["Arab", "Syrc", "Thaa"]),
  ([(1567, 1567)], ["Adlm", "Arab", "Gara", "Rohg", "Nkoo", "Syrc", "Thaa", "Yezi"]),
  ([(1600, 1600)], ["Adlm", "Arab", "Rohg", "Mand", "Mani", "Ougr", "Phlp", "Sogd", "Syrc"]),
  ([(1611, 1621), (1648, 1648)], ["Arab", "Syrc"]),
  ([(1632, 1641)], ["Arab", "Thaa", "Yezi"]),
  ([(1748, 1748)], ["Arab", "Rohg"]),
  ([(2385, 2385)], ["Beng", "Deva", "Gran", "Gujr", "Guru", "Knda", "Latn", "Mlym", "Nand", "Newa",
    "Orya", "Shrd", "Taml", "Telu", "Tirh"]),
  ([(2386, 2386)], ["Beng", "Deva", "Gran", "Gujr", "Guru", "Knda", "Latn", "Mlym", "Newa", "Orya",
    "Taml", "Telu", "Tirh"]),
  ([(2404, 2404)], ["Beng", "Deva", "Dogr", "Gran", "Gujr", "Gong", "Guru", "Knda", "Sind", "Mahj",
    "Mlym", "Gonm", "Nand", "Onao", "Orya", "Sinh", "Sylo", "Takr", "Taml", "Telu", "Tirh"]),
  ([(2405, 2405)], ["Beng", "Deva", "Dogr", "Gran", "Gujr", "Gong", "Guru", "Gukh", "Knda", "Sind",
    "Limb", "Mahj", "Mlym", "Gonm", "Nand", "Onao", "Orya", "Sinh", "Sylo", "Takr", "Taml", "Telu",
    "Tirh"]),
  ([(2406, 2415)], ["Deva", "Dogr", "Kthi", "Mahj"]),
  ([(2534, 2543)], ["Beng", "Cakm", "Sylo"]),
  ([(2662, 2671)], ["Guru", "Mult"]),
  ([(2790, 2799)], ["Gujr", "Khoj"]),
  ([(3046, 3059), (70401, 70401), (70403, 70403), (70459, 70460), (73680, 73681), (73683, 73683)],
    ["Gran", "Taml"]),
  ([(3302, 3311)], ["Knda", "Nand", "Tutg"]),
  ([(4160, 4169)], ["Cakm", "Mymr", "Tale"]),
  ([(4347, 4347)], ["Geor", "Glag", "Latn"]),
  ([(5867, 5869)], ["Runr"]),
  ([(5941, 5942)], ["Buhd", "Hano", "Tglg", "Tagb"]),
  ([(6146, 6147), (6149, 6149)], ["Mong", "Phag"]),
  ([(7376, 7376), (7378, 7378)], ["Beng", "Deva", "Gran", "Knda"]),
  ([(7377, 7377), (7380, 7380), (7387, 7387), (7390, 7391), (7395, 7400), (7404, 7404), (7406,
    7409)], ["Deva"]),
  ([(7379, 7379)], ["Deva", "Gran", "Knda"]),
  ([(7381, 7381)], ["Beng", "Deva", "Newa", "Telu", "Tirh"]),
  ([(7382, 7382)], ["Beng", "Deva", "Telu"]),
  ([(7383, 7383)], ["Deva", "Newa", "Shrd"]),
  ([(7384, 7384)], ["Beng", "Deva", "Newa", "Telu"]),
  ([(7385, 7385), (7388, 7389), (7392, 7392)], ["Deva", "Shrd"]),
  ([(7386, 7386)], ["Deva", "Knda", "Mlym", "Orya", "Taml", "Telu"]),
  ([(7393, 7393), (7402, 7402), (7413, 7414)], ["Beng", "Deva"]),
  ([(7394, 7394)], ["Deva", "Newa", "Tirh"]),
  ([(7401, 7401)], ["Deva", "Nand", "Newa"]),
  ([(7403, 7403)], ["Deva", "Newa"]),
  ([(7405, 7405)], ["Beng", "Deva", "Newa"]),
  ([(7410, 7410)], ["Beng", "Deva", "Gran", "Knda", "Mlym", "Nand", "Orya", "Sinh", "Telu", "Tirh",
    "Tutg"]),
  ([(7411, 7411), (7416, 7417)], ["Deva", "Gran"]),
  ([(7412, 7412)], ["Deva", "Gran", "Knda", "Tutg"]),
  ([(7415, 7415)], ["Beng"]),
  ([(7418, 7418)], ["Nand"]),
  ([(7672, 7672)], ["Cyrl", "Latn", "Syrc"]),
  ([(7674, 7674)], ["Syrc"]),
  ([(8239, 8239)], ["Latn", "Mong", "Phag"]),
  ([(8271, 8271)], ["Adlm", "Arab"]),
  ([(8282, 8282)], ["Cari", "Geor", "Glag", "Lyci", "Hung", "Orkh"]),
  ([(8285, 8285)], ["Cari", "Grek", "Mero", "Hung"]),
  ([(8432, 8432)], ["Deva", "Gran", "Latn"]),
  ([(11799, 11799)], ["Copt", "Latn"]),
  ([(11824, 11824)], ["Avst", "Orkh"]),
  ([(11825, 11825)], ["Avst", "Cari", "Geor", "Kthi", "Lydi", "Hung", "Samr"]),
  ([(11836, 11836), (113824, 113827)], ["Dupl"]),
  ([(11841, 11841)], ["Adlm", "Arab", "Hung"]),
  ([(12272, 12287), (12783, 12783)], ["Hani", "Tang"]),
  ([(12289, 12289)], ["Bopo", "Hani", "Hang", "Hira", "Kana", "Mong", "Yiii"]),
  ([(12290, 12290)], ["Bopo", "Hani", "Hang", "Hira", "Kana", "Mong", "Phag", "Yiii"]),
  ([(12291, 12291), (12307, 12307), (12316, 12319), (12336, 12336), (12343, 12343), (65093,
    65094)], ["Bopo", "Hani", "Hang", "Hira", "Kana"]),
  ([(12294, 12294), (12350, 12351), (12688, 12703), (12736, 12773), (12832, 12871), (12928, 12976),
    (12992, 13003), (13055, 13055), (13144, 13168), (13179, 13183), (13280, 13310), (119648,
    119665), (127568, 127569)], ["Hani"]),
  ([(12296, 12297)], ["Bopo", "Hani", "Hang", "Hira", "Kana", "Mong", "Tibt", "Yiii"]),
  ([(12298, 12299)], ["Bopo", "Hani", "Hang", "Hira", "Kana", "Lisu", "Mong", "Tibt", "Yiii"]),
  ([(12300, 12305), (12308, 12315), (12539, 12539), (65377, 65381)], ["Bopo", "Hani", "Hang",
    "Hira", "Kana", "Yiii"]),
  ([(12330, 12333)], ["Bopo", "Hani"]),
  ([(12337, 12341), (12441, 12444), (12448, 12448), (12540, 12540), (65392, 65392), (65438,
    65439)], ["Hira", "Kana"]),
  ([(12348, 12349)], ["Hani", "Hira", "Kana"]),
  ([(42752, 42759)], ["Hani", "Latn"]),
  ([(43056, 43058)], ["Deva", "Dogr", "Gujr", "Guru", "Kthi", "Knda", "Khoj", "Sind", "Mahj",
    "Mlym", "Modi", "Nand", "Takr", "Tirh", "Tutg"]),
  ([(43059, 43061)], ["Deva", "Dogr", "Gujr", "Guru", "Kthi", "Knda", "Khoj", "Sind", "Mahj",
    "Modi", "Nand", "Takr", "Tirh", "Tutg"]),
  ([(43062, 43065)], ["Deva", "Dogr", "Gujr", "Guru", "Kthi", "Khoj", "Sind", "Mahj", "Modi",
    "Takr", "Tirh"]),
  ([(43249, 43249)], ["Beng", "Deva", "Tutg"]),
  ([(43251, 43251)], ["Deva", "Taml"]),
  ([(43310, 43310)], ["Kali", "Latn", "Mymr"]),
  ([(43471, 43471)], ["Bugi", "Java"]),
  ([(64830, 64831)], ["Arab", "Nkoo"]),
  ([(65010, 65010), (65021, 65021)], ["Arab", "Thaa"]),
  ([(65792, 65793)], ["Cprt", "Cpmn", "Linb"]),
  ([(65794, 65794), (65847, 65855)], ["Cprt", "Linb"]),
  ([(65799, 65843)], ["Cprt", "Lina", "Linb"]),
  ([(66272, 66299)], ["Arab", "Copt"]),
  ([(68338, 68338)], ["Mani", "Ougr"])]

def extended (names : List String) (own : CharSet) : CharSet :=
  let others (rows : List (List (Nat × Nat) × List String)) : CharSet :=
    .ofRanges (rows.flatMap (·.1))
  (own.diff (others shared)).union
    (others (shared.filter fun (_, codes) => codes.any names.contains))

end LinkedRaces.Regex.Script
