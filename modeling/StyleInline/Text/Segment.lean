import StyleInline.Text.Property

/-!
# Segments of text

The roles of characters in the division of a text into what a reader takes for characters, into
words and into sentences.
-/

namespace StyleInline.Text

namespace CharTable

def clusterExtend : CharTable :=
  graphemeExtend.union emojiModifier

def clusterPrepend : CharTable := ⟨#[
  1536, 1542, 1757, 1758, 1807, 1808, 2192, 2194, 2274, 2275, 3406, 3407, 69821, 69822, 69837,
  69838, 70082, 70084, 70609, 70610, 71999, 72000, 72001, 72002, 72250, 72251, 72324, 72330,
  73030, 73031, 73474, 73475]⟩

/-- What stands alone; line breaks have roles of their own. -/
def clusterControl : CharTable :=
  ((unions [lineSeparator, paragraphSeparator, control, format,
    defaultIgnorable.difference assigned]).difference
    (unions [ofRanges [(10, 10), (13, 13)], joinControl, prependedMark, clusterExtend]))

/-- The marks that stand alone although they take room. -/
def loneMark : CharTable := ⟨#[
  4139, 4141, 4152, 4153, 4194, 4197, 4199, 4206, 4227, 4228, 4231, 4237, 4239, 4240, 4250, 4253,
  6753, 6754, 6755, 6757, 43643, 43644, 43645, 43646, 71454, 71455, 71456, 71458]⟩

/-- What takes room behind the character that it belongs to. -/
def clusterSpacing : CharTable :=
  (spacingMark.difference (clusterExtend.union loneMark)).union
    (ofRanges [(3635, 3635), (3763, 3763)])

def leadingJamo : CharTable := ⟨#[4352, 4448, 43360, 43389]⟩

def vowelJamo : CharTable := ⟨#[4448, 4520, 55216, 55239, 93539, 93540, 93543, 93547]⟩

def trailingJamo : CharTable := ⟨#[4520, 4608, 55243, 55292]⟩

/-- The syllables of Hangul that a consonant may still close: the first of every 28. -/
def openSyllable : CharTable :=
  ofRanges ((List.range 399).map fun n => (0xAC00 + 28 * n, 0xAC00 + 28 * n))

def closedSyllable : CharTable := (ofRanges [(0xAC00, 0xD7A3)]).difference openSyllable

def wordExtend : CharTable :=
  (unions [graphemeExtend, spacingMark, emojiModifier]).difference (ofRanges [(0x200D, 0x200D)])

def hebrewLetter : CharTable := ⟨#[
  1488, 1515, 1519, 1523, 64285, 64286, 64287, 64297, 64298, 64311, 64312, 64317, 64318, 64319,
  64320, 64322, 64323, 64325, 64326, 64336]⟩

/-- The letters of Katakana and the marks that go with them. -/
def wordKatakana : CharTable := ⟨#[
  12337, 12342, 12443, 12445, 12448, 12539, 12540, 12544, 12784, 12800, 13008, 13055, 13056,
  13144, 65382, 65438, 110576, 110580, 110581, 110588, 110589, 110591, 110592, 110593, 110880,
  110883, 110933, 110934, 110948, 110952]⟩

/-- The letters of writing systems without blanks between words. -/
def unspacedLetter : CharTable := ⟨#[
  3585, 3633, 3634, 3636, 3648, 3655, 3713, 3715, 3716, 3717, 3718, 3723, 3724, 3748, 3749, 3750,
  3751, 3761, 3762, 3764, 3773, 3774, 3776, 3781, 3782, 3783, 3804, 3808, 4096, 4139, 4159, 4160,
  4176, 4182, 4186, 4190, 4193, 4194, 4197, 4199, 4206, 4209, 4213, 4226, 4238, 4239, 6016, 6068,
  6103, 6104, 6108, 6109, 6480, 6510, 6512, 6517, 6528, 6572, 6576, 6602, 6688, 6741, 6823, 6824,
  12353, 12439, 12445, 12448, 43488, 43493, 43494, 43504, 43514, 43519, 43616, 43639, 43642,
  43643, 43646, 43696, 43697, 43698, 43701, 43703, 43705, 43710, 43712, 43713, 43714, 43715,
  43739, 43742, 71424, 71451, 71488, 71495, 110593, 110880, 110898, 110899, 110928, 110931]⟩

def letterLike : CharTable := ⟨#[
  706, 710, 722, 728, 734, 736, 741, 748, 749, 750, 751, 768, 1370, 1373, 1374, 1375, 1418, 1419,
  1523, 1524, 42760, 42775, 42784, 42786, 42889, 42891, 43867, 43868]⟩

def wordLetter : CharTable :=
  (alphabetic.difference
    (unions [ideographic, wordExtend, hebrewLetter, wordKatakana, unspacedLetter])).union letterLike

def wordMidLetter : CharTable := ⟨#[
  58, 59, 183, 184, 903, 904, 1375, 1376, 1524, 1525, 8231, 8232, 65043, 65044, 65109, 65110,
  65306, 65307]⟩

def wordMidNumber : CharTable := ⟨#[
  44, 45, 59, 60, 894, 895, 1417, 1418, 1548, 1550, 1644, 1645, 2040, 2041, 8260, 8261, 65040,
  65041, 65044, 65045, 65104, 65105, 65108, 65109, 65292, 65293, 65307, 65308]⟩

def wordMidEither : CharTable := ⟨#[
  46, 47, 8216, 8218, 8228, 8229, 65106, 65107, 65287, 65288, 65294, 65295]⟩

def wordNumeric : CharTable :=
  decimalDigit.union (ofRanges [(0x66B, 0x66B)])

def wordFormat : CharTable :=
  format.difference (ofRanges [(0x200B, 0x200D), (0xE0020, 0xE007F)])

def wordConnector : CharTable :=
  connector.union (ofRanges [(0x202F, 0x202F)])

/-- The line breaks other than the plain ones. -/
def wordNewline : CharTable :=
  ofRanges [(11, 12), (0x85, 0x85), (0x2028, 0x2029)]

def wordBlank : CharTable :=
  spaceSeparator.difference (ofRanges [(0xA0, 0xA0), (0x2007, 0x2007), (0x202F, 0x202F)])

def sentenceExtend : CharTable :=
  unions [graphemeExtend, spacingMark, ofRanges [(0x200D, 0x200D)]]

/-- The letters of Georgian, whose case does not tell where a sentence starts. -/
def caselessGeorgian : CharTable :=
  ofRanges [(0x10D0, 0x10FA), (0x10FD, 0x10FF), (0x1C90, 0x1CBA), (0x1CBD, 0x1CBF)]

def sentenceLower : CharTable :=
  lowercase.difference (graphemeExtend.union caselessGeorgian)

def sentenceUpper : CharTable :=
  (uppercase.union titleLetter).difference caselessGeorgian

def sentenceLetter : CharTable :=
  (alphabetic.difference (unions [sentenceLower, sentenceUpper, sentenceExtend])).union
    (ofRanges [(0x5F3, 0x5F3)])

def sentenceNumeric : CharTable :=
  decimalDigit.union (ofRanges [(0x66B, 0x66C)])

def sentenceFormat : CharTable :=
  format.difference (ofRanges [(0x200C, 0x200D), (0xE0020, 0xE007F)])

/-- The full stops, which need not end a sentence. -/
def fullStop : CharTable := ⟨#[46, 47, 8228, 8229, 65106, 65107, 65294, 65295]⟩

/-- The quotation marks and brackets that do not close a sentence. -/
def plainQuote : CharTable := ⟨#[65282, 65283, 65287, 65288]⟩

/-- The ornaments that close a sentence. -/
def ornamentQuote : CharTable := ⟨#[
  10075, 10081, 11776, 11778, 11782, 11785, 11787, 11788, 128630, 128633]⟩

def sentenceClose : CharTable :=
  ((unions [openPunctuation, closePunctuation, initialPunctuation, finalPunctuation,
    quotationMark]).difference plainQuote).union ornamentQuote

def sentenceEnd : CharTable :=
  sentenceTerminal.difference fullStop

def sentenceContinue : CharTable := ⟨#[
  44, 46, 58, 59, 1373, 1374, 1548, 1550, 2040, 2041, 6146, 6147, 6152, 6153, 8211, 8213, 12289,
  12290, 65040, 65042, 65043, 65044, 65073, 65075, 65104, 65106, 65109, 65110, 65112, 65113,
  65123, 65124, 65292, 65294, 65306, 65307, 65380, 65381]⟩

def sentenceBreak : CharTable :=
  ofRanges [(0x85, 0x85), (0x2028, 0x2029)]

def sentenceBlank : CharTable :=
  whiteSpace.difference (ofRanges [(10, 10), (13, 13), (0x85, 0x85), (0x2028, 0x2029)])

def lineFeed : CharTable :=
  ofRanges [(10, 10)]

def carriageReturn : CharTable :=
  ofRanges [(13, 13)]

def zeroWidthJoiner : CharTable :=
  ofRanges [(0x200D, 0x200D)]

def singleQuote : CharTable :=
  ofRanges [(39, 39)]

def doubleQuote : CharTable :=
  ofRanges [(34, 34)]

end CharTable

/-- The roles of characters in what a reader takes for characters, by their plain names. -/
def clusterRoles : List (List String × CharTable) :=
  [(["cr"], .carriageReturn),
    (["lf"], .lineFeed),
    (["control", "cn"], .clusterControl),
    (["extend", "ex"], .clusterExtend),
    (["prepend", "pp"], .clusterPrepend),
    (["spacingmark", "sm"], .clusterSpacing),
    (["l"], .leadingJamo),
    (["v"], .vowelJamo),
    (["t"], .trailingJamo),
    (["lv"], .openSyllable),
    (["lvt"], .closedSyllable),
    (["regionalindicator", "ri"], .regionalIndicator),
    (["zwj"], .zeroWidthJoiner)]

def wordRoles : List (List String × CharTable) :=
  [(["cr"], .carriageReturn),
    (["lf"], .lineFeed),
    (["newline", "nl"], .wordNewline),
    (["extend"], .wordExtend),
    (["zwj"], .zeroWidthJoiner),
    (["format", "fo"], .wordFormat),
    (["regionalindicator", "ri"], .regionalIndicator),
    (["aletter", "le"], .wordLetter),
    (["hebrewletter", "hl"], .hebrewLetter),
    (["katakana", "ka"], .wordKatakana),
    (["singlequote", "sq"], .singleQuote),
    (["doublequote", "dq"], .doubleQuote),
    (["midletter", "ml"], .wordMidLetter),
    (["midnum", "mn"], .wordMidNumber),
    (["midnumlet", "mb"], .wordMidEither),
    (["numeric", "nu"], .wordNumeric),
    (["extendnumlet", "ex"], .wordConnector),
    (["wsegspace"], .wordBlank)]

def sentenceRoles : List (List String × CharTable) :=
  [(["cr"], .carriageReturn),
    (["lf"], .lineFeed),
    (["sep", "se"], .sentenceBreak),
    (["extend", "ex"], .sentenceExtend),
    (["format", "fo"], .sentenceFormat),
    (["sp"], .sentenceBlank),
    (["lower", "lo"], .sentenceLower),
    (["upper", "up"], .sentenceUpper),
    (["oletter", "le"], .sentenceLetter),
    (["numeric", "nu"], .sentenceNumeric),
    (["aterm", "at"], .fullStop),
    (["scontinue", "sc"], .sentenceContinue),
    (["sterm", "st"], .sentenceEnd),
    (["close", "cl"], .sentenceClose)]

end StyleInline.Text
