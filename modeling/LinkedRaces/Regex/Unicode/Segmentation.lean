import LinkedRaces.Regex.Unicode.BinaryProperty
import LinkedRaces.Regex.Unicode.Script

/-!
The classes that say where grapheme clusters, words and sentences end, in version 16 of the Unicode
character database.
-/

namespace LinkedRaces.Regex

open BinaryProperty

namespace GraphemeBreak

def consonants : CharSet := .ofRuns [
  ⟨3406, 3406, 1⟩, ⟨70082, 70083, 1⟩, ⟨70609, 70609, 1⟩, ⟨71999, 72001, 2⟩, ⟨72324, 72329, 1⟩,
  ⟨73030, 73030, 1⟩, ⟨73474, 73474, 1⟩]

def separateMarks : CharSet := .ofRuns [
  ⟨4139, 4140, 1⟩, ⟨4152, 4152, 1⟩, ⟨4194, 4196, 1⟩, ⟨4199, 4205, 1⟩, ⟨4227, 4227, 1⟩,
  ⟨4231, 4236, 1⟩, ⟨4239, 4239, 1⟩, ⟨4250, 4252, 1⟩, ⟨6753, 6753, 1⟩, ⟨6755, 6756, 1⟩,
  ⟨43643, 43645, 2⟩, ⟨71456, 71457, 1⟩]

def hangulLeading : CharSet := .ofRanges [(4352, 4447), (43360, 43388)]

def vowel : CharSet := .ofRanges [(4448, 4519), (55216, 55238), (93539, 93539), (93543, 93546)]

def hangulTrailing : CharSet := .ofRanges [(4520, 4607), (55243, 55291)]

def openSyllable : CharSet := .ofRuns [⟨44032, 55176, 28⟩]

def closedSyllable : CharSet := (CharSet.ofRanges [(44032, 55203)]).diff openSyllable

def extend : CharSet := graphemeExtend.union emojiModifier

def control : CharSet :=
  (CharSet.unions [Category.lineSeparator, Category.paragraphSeparator, Category.control,
    Category.format, Category.unassigned.inter defaultIgnorable]).diff
    (.unions [.char '\n', .char '\x0d', joinControl, prependedConcatenationMark, extend])

def spacingMark : CharSet :=
  (Category.spacingMark.diff (extend.union separateMarks)).union
    (.ofRanges [(3635, 3635), (3763, 3763)])

def all : List (List String × CharSet) := [
  (["CR"], .char '\x0d'), (["LF"], .char '\n'), (["Control", "CN"], control),
  (["Extend", "EX"], extend), (["ZWJ"], .char '\u200d'),
  (["Regional_Indicator", "RI"], regionalIndicator),
  (["Prepend", "PP"], consonants.union prependedConcatenationMark),
  (["SpacingMark", "SM"], spacingMark), (["L"], hangulLeading), (["V"], vowel),
  (["T"], hangulTrailing), (["LV"], openSyllable), (["LVT"], closedSyllable)]

end GraphemeBreak

namespace WordBreak

def complexContext : CharSet := .ofRuns [
  ⟨3585, 3642, 1⟩, ⟨3648, 3654, 1⟩, ⟨3661, 3661, 1⟩, ⟨3713, 3714, 1⟩, ⟨3716, 3716, 1⟩,
  ⟨3718, 3722, 1⟩, ⟨3724, 3747, 1⟩, ⟨3749, 3749, 1⟩, ⟨3751, 3769, 1⟩, ⟨3771, 3773, 1⟩,
  ⟨3776, 3780, 1⟩, ⟨3782, 3782, 1⟩, ⟨3789, 3789, 1⟩, ⟨3804, 3807, 1⟩, ⟨4096, 4150, 1⟩,
  ⟨4152, 4152, 1⟩, ⟨4155, 4159, 1⟩, ⟨4176, 4239, 1⟩, ⟨4250, 4253, 1⟩, ⟨6016, 6067, 1⟩,
  ⟨6070, 6088, 1⟩, ⟨6103, 6103, 1⟩, ⟨6108, 6108, 1⟩, ⟨6480, 6509, 1⟩, ⟨6512, 6516, 1⟩,
  ⟨6528, 6571, 1⟩, ⟨6576, 6601, 1⟩, ⟨6688, 6750, 1⟩, ⟨6753, 6772, 1⟩, ⟨6823, 6823, 1⟩,
  ⟨43488, 43503, 1⟩, ⟨43514, 43518, 1⟩, ⟨43616, 43638, 1⟩, ⟨43642, 43710, 1⟩, ⟨43712, 43714, 2⟩,
  ⟨43739, 43741, 1⟩, ⟨71424, 71450, 1⟩, ⟨71453, 71466, 1⟩, ⟨71488, 71494, 1⟩]

def letterlike : CharSet := .ofRanges [
  (706, 709), (722, 727), (734, 735), (741, 747), (749, 749), (751, 767), (1370, 1372),
  (1374, 1374), (1418, 1418), (1523, 1523), (1807, 1807), (42760, 42774), (42784, 42785),
  (42889, 42890), (43867, 43867)]

def extend : CharSet :=
  (CharSet.unions [graphemeExtend, Category.spacingMark, emojiModifier]).diff (.char '\u200d')

def numeric : CharSet :=
  .unions [Category.decimalNumber, .char '٫',
    prependedConcatenationMark.diff (.char '\u070f')]

def format : CharSet :=
  Category.format.diff (.unions [.range '\u200b' '\u200d', .char '\u070f', extend, numeric])

def katakanaSigns : CharSet := .ofRanges [
  (12337, 12341), (12443, 12444), (12448, 12448), (12540, 12540), (65392, 65392)]

def katakana : CharSet := Script.katakana.union katakanaSigns

def hebrewLetter : CharSet := Script.hebrew.inter Category.otherLetter

def letter : CharSet :=
  (Case.alphabetic.diff (.unions [ideographic, katakana, complexContext, Script.hiragana, extend,
    hebrewLetter, numeric])).union letterlike

def midNumLet : CharSet := .ofRanges [
  (46, 46), (8216, 8217), (8228, 8228), (65106, 65106), (65287, 65287), (65294, 65294)]

def midLetter : CharSet := .ofRanges [
  (58, 58), (183, 183), (903, 903), (1375, 1375), (1524, 1524), (8231, 8231), (65043, 65043),
  (65109, 65109), (65306, 65306)]

def midNum : CharSet := .ofRanges [
  (44, 44), (59, 59), (894, 894), (1417, 1417), (1548, 1549), (1644, 1644), (2040, 2040),
  (8260, 8260), (65040, 65040), (65044, 65044), (65104, 65104), (65108, 65108), (65292, 65292),
  (65307, 65307)]

def extendNumLet : CharSet := .ofRanges [
  (95, 95), (8239, 8239), (8255, 8256), (8276, 8276), (65075, 65076), (65101, 65103),
  (65343, 65343)]

def newline : CharSet := .ofRanges [(11, 12), (133, 133), (8232, 8233)]

def blank : CharSet := .ofRanges [
  (32, 32), (5760, 5760), (8192, 8198), (8200, 8202), (8287, 8287), (12288, 12288)]

def all : List (List String × CharSet) := [
  (["CR"], .char '\x0d'), (["LF"], .char '\n'), (["Newline", "NL"], newline),
  (["Extend"], extend), (["ZWJ"], .char '\u200d'), (["Format", "FO"], format),
  (["Regional_Indicator", "RI"], regionalIndicator), (["Katakana", "KA"], katakana),
  (["Hebrew_Letter", "HL"], hebrewLetter), (["ALetter", "LE"], letter),
  (["Single_Quote", "SQ"], .char '\''), (["Double_Quote", "DQ"], .char '"'),
  (["MidNumLet", "MB"], midNumLet), (["MidLetter", "ML"], midLetter), (["MidNum", "MN"], midNum),
  (["Numeric", "NU"], numeric), (["ExtendNumLet", "EX"], extendNumLet), (["WSegSpace"], blank)]

end WordBreak

namespace SentenceBreak

def separator : CharSet := .ofRanges [(133, 133), (8232, 8233)]

def extend : CharSet := .unions [graphemeExtend, Category.spacingMark, .char '\u200d']

def numeric : CharSet := WordBreak.numeric.union (.char '٬')

def format : CharSet := Category.format.diff (.unions [extend, numeric])

def space : CharSet := whiteSpace.diff (.unions [separator, .char '\n', .char '\x0d'])

/-- Georgian letters have two cases, but no sentence begins with a capital. -/
def georgianLower : CharSet := .ofRanges [(4304, 4346), (4349, 4351)]

def georgianUpper : CharSet := .ofRanges [(7312, 7354), (7357, 7359)]

def lower : CharSet := Case.lowercase.diff (graphemeExtend.union georgianLower)

def upper : CharSet := (Case.uppercase.union Category.titlecaseLetter).diff georgianUpper

def letter : CharSet :=
  (Case.alphabetic.diff (.unions [lower, upper, extend])).union (.char '\u05f3')

def ambiguousTerminal : CharSet := .ofRanges [
  (46, 46), (8228, 8228), (65106, 65106), (65294, 65294)]

def continuation : CharSet := .ofRanges [
  (44, 45), (58, 59), (894, 894), (1373, 1373), (1548, 1549), (2040, 2040), (6146, 6146),
  (6152, 6152), (8211, 8212), (12289, 12289), (65040, 65041), (65043, 65044), (65073, 65074),
  (65104, 65105), (65108, 65109), (65112, 65112), (65123, 65123), (65292, 65293), (65306, 65307),
  (65380, 65380)]

def quotes : CharSet := .ofRanges [
  (34, 34), (39, 39), (10075, 10080), (11776, 11777), (11782, 11784), (11787, 11787),
  (128630, 128632)]

def closing : CharSet :=
  .unions [Category.openPunctuation, Category.closePunctuation, Category.initialPunctuation,
    Category.finalPunctuation, quotes]

def all : List (List String × CharSet) := [
  (["CR"], .char '\x0d'), (["LF"], .char '\n'), (["Sep", "SE"], separator),
  (["Extend", "EX"], extend), (["Format", "FO"], format), (["Sp", "SP"], space),
  (["Lower", "LO"], lower), (["Upper", "UP"], upper), (["OLetter", "LE"], letter),
  (["Numeric", "NU"], numeric), (["ATerm", "AT"], ambiguousTerminal),
  (["SContinue", "SC"], continuation), (["STerm", "ST"], sentenceTerminal.diff ambiguousTerminal),
  (["Close", "CL"], closing)]

end SentenceBreak

end LinkedRaces.Regex
