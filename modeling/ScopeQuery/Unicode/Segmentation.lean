import ScopeQuery.Unicode.Property
import ScopeQuery.Unicode.Script

/-!
# Segmentation classes

The classes of characters by which texts are divided into graphemes, words and
sentences. Most classes are made from categories and properties; the tables hold
small classes and the characters on which a class differs from what it is made of.
-/

namespace ScopeQuery.Unicode

/-- Characters on which grapheme controls and their categories differ. -/
def controlExceptionBounds : List Nat := [
  917536, 917632]

/-- Characters that a grapheme may begin with in front of its base. -/
def prependBounds : List Nat := [
  1536, 1542, 1757, 1758, 1807, 1808, 2192, 2194, 2274, 2275, 3406, 3407, 69821, 69822, 69837,
  69838, 70082, 70084, 70609, 70610, 71999, 72000, 72001, 72002, 72250, 72251, 72324, 72330,
  73030, 73031, 73474, 73475]

/-- Characters on which spacing in graphemes and the category of spacing marks differ. -/
def spacingMarkExceptionBounds : List Nat := [
  3635, 3636, 3763, 3764, 4139, 4141, 4152, 4153, 4194, 4197, 4199, 4206, 4227, 4228, 4231,
  4237, 4239, 4240, 4250, 4253, 6753, 6754, 6755, 6757, 43643, 43644, 43645, 43646, 71456,
  71458]

/-- Characters that may stand between letters of a word. -/
def midLetterBounds : List Nat := [
  58, 59, 183, 184, 903, 904, 1375, 1376, 1524, 1525, 8231, 8232, 65043, 65044, 65109, 65110,
  65306, 65307]

/-- Characters that may stand between digits of a number. -/
def midNumberBounds : List Nat := [
  44, 45, 59, 60, 894, 895, 1417, 1418, 1548, 1550, 1644, 1645, 2040, 2041, 8260, 8261, 65104,
  65105, 65108, 65109, 65292, 65293, 65307, 65308]

/-- Characters that may stand between letters as well as digits. -/
def midEitherBounds : List Nat := [
  46, 47, 8216, 8218, 8228, 8229, 65106, 65107, 65287, 65288, 65294, 65295]

/-- Spaces that are kept together. -/
def wordSpaceBounds : List Nat := [
  32, 33, 5760, 5761, 8192, 8199, 8200, 8203, 8287, 8288, 12288, 12289]

/-- Characters on which letters of words and alphabetic characters of scripts with spaces differ. -/
def wordLetterExceptionBounds : List Nat := [
  706, 710, 722, 728, 734, 736, 741, 748, 749, 750, 751, 768, 1370, 1373, 1374, 1375, 1418,
  1419, 1523, 1524, 1807, 1808, 6480, 6510, 6512, 6517, 6528, 6572, 6576, 6602, 6688, 6741,
  6823, 6824, 12337, 12342, 12540, 12541, 42760, 42775, 42784, 42786, 42889, 42891, 43648,
  43696, 43697, 43698, 43701, 43703, 43705, 43710, 43712, 43713, 43714, 43715, 43739, 43742,
  43867, 43868, 65392, 65393, 71424, 71451, 71488, 71495]

/-- Format characters inside words. -/
def wordFormatBounds : List Nat := [
  173, 174, 1564, 1565, 6158, 6159, 8206, 8208, 8234, 8239, 8288, 8293, 8294, 8304, 65279,
  65280, 65529, 65532, 78896, 78912, 113824, 113828, 119155, 119163, 917505, 917506]

/-- Characters on which digits of words and decimal digits differ. -/
def wordNumberExceptionBounds : List Nat := [
  1536, 1542, 1643, 1644, 1757, 1758, 2192, 2194, 2274, 2275, 6618, 6619, 69821, 69822, 69837,
  69838]

/-- Characters on which katakana of words and the script differ. -/
def wordKatakanaExceptionBounds : List Nat := [
  12337, 12342, 12443, 12445, 12448, 12449, 12540, 12541, 65392, 65393]

/-- Characters on which lowercase letters of sentences and lowercase characters differ. -/
def sentenceLowerExceptionBounds : List Nat := [
  837, 838, 4304, 4347, 4349, 4352]

/-- Characters on which uppercase letters of sentences and uppercase or titlecase characters differ. -/
def sentenceUpperExceptionBounds : List Nat := [
  7312, 7355, 7357, 7360]

/-- Characters on which other letters of sentences and alphabetic characters without case differ. -/
def sentenceLetterExceptionBounds : List Nat := [
  1523, 1524, 4304, 4347, 4349, 4352, 7312, 7355, 7357, 7360]

/-- Format characters inside sentences. -/
def sentenceFormatBounds : List Nat := [
  173, 174, 1564, 1565, 1807, 1808, 6158, 6159, 8203, 8204, 8206, 8208, 8234, 8239, 8288, 8293,
  8294, 8304, 65279, 65280, 65529, 65532, 78896, 78912, 113824, 113828, 119155, 119163, 917505,
  917506]

/-- Characters on which terminators and the property of ending sentences differ. -/
def sentenceTerminatorExceptionBounds : List Nat := [
  46, 47, 8228, 8229, 65106, 65107, 65294, 65295]

/-- Characters on which closing marks and brackets or quotation marks differ. -/
def sentenceCloseExceptionBounds : List Nat := [
  10075, 10081, 11776, 11778, 11782, 11785, 11787, 11788, 65282, 65283, 65287, 65288, 128630,
  128633]

/-- Full stops. -/
def fullStopBounds : List Nat := [
  46, 47, 8228, 8229, 65106, 65107, 65294, 65295]

/-- Spaces between sentences. -/
def sentenceSpaceBounds : List Nat := [
  9, 10, 11, 13, 32, 33, 160, 161, 5760, 5761, 8192, 8203, 8239, 8240, 8287, 8288, 12288, 12289]

/-- Characters after which a sentence goes on. -/
def sentenceContinuationBounds : List Nat := [
  44, 46, 58, 60, 894, 895, 1373, 1374, 1548, 1550, 2040, 2041, 6146, 6147, 6152, 6153, 8211,
  8213, 12289, 12290, 65040, 65042, 65043, 65045, 65073, 65075, 65104, 65106, 65108, 65110,
  65112, 65113, 65123, 65124, 65292, 65294, 65306, 65308, 65380, 65381]

/-- The characters that extend a grapheme, modifiers of emoji included. -/
def graphemeContinuing : CharSet := graphemeExtend.union ⟨emojiModifierBounds⟩

/-- The controls between graphemes: controls, separators, format characters and
unassigned characters that display may leave out. -/
def graphemeControl : CharSet :=
  (((Category.charsOf [.lineSeparator, .paragraphSeparator, .control, .format]).union
    (CharSet.inter ⟨unassignedBounds⟩ defaultIgnorable)).diff
      ⟨prependedConcatenationMarkBounds⟩).diff ⟨[0xA, 0xB, 0xD, 0xE, 0x200C, 0x200E]⟩

/-- The first Hangul syllable and one past the last. -/
def hangulBounds : List Nat := [0xAC00, 0xD7A4]

/-- The Hangul syllables without a final consonant, every 28th. -/
def openHangul : CharSet :=
  ⟨(List.range 399).flatMap fun i => [0xAC00 + 28 * i, 0xAC00 + 28 * i + 1]⟩

/-- The characters that continue a word or sentence. -/
def markContinuing : CharSet := graphemeExtend.union ⟨spacingMarkBounds⟩

/-- The continuing characters inside words, without the joiner. -/
def wordContinuing : CharSet :=
  (markContinuing.union ⟨emojiModifierBounds⟩).diff ⟨[0x200D, 0x200E]⟩

/-- The characters of several scripts, each by a spelling. -/
def charsOfScripts (spellings : List String) : CharSet :=
  spellings.foldl (fun set spelling => set.union ((scriptChars? spelling).getD .empty)) .empty

/-- The Hebrew letters. -/
def hebrewLetter : CharSet := (charsOfScripts ["hebr"]).inter ⟨otherLetterBounds⟩

/-- The letters of words. Scripts that write no spaces between words have none. -/
def wordLetter : CharSet :=
  (((alphabetic.diff ⟨ideographicBounds⟩).diff
    (charsOfScripts ["kana", "hira", "thai", "laoo", "khmr", "mymr"])).diff
      (hebrewLetter.union wordContinuing)).symmDiff ⟨wordLetterExceptionBounds⟩

/-- The digits of words. -/
def wordNumber : CharSet := CharSet.symmDiff ⟨decimalNumberBounds⟩ ⟨wordNumberExceptionBounds⟩

/-- The letters of sentences that have no case. -/
def sentenceLetter : CharSet :=
  ((((alphabetic.diff lowercase).diff uppercase).diff ⟨titlecaseLetterBounds⟩).diff
    (markContinuing.union ⟨[0x200D, 0x200E]⟩)).symmDiff ⟨sentenceLetterExceptionBounds⟩

/-- The closing marks of sentences: brackets and quotation marks. -/
def sentenceClose : CharSet :=
  ((Category.charsOf [.openPunctuation, .closePunctuation, .initialPunctuation,
    .finalPunctuation]).union ⟨quotationMarkBounds⟩).symmDiff ⟨sentenceCloseExceptionBounds⟩

/-- The classes for dividing a text into graphemes. -/
def graphemeClasses : List Property := [
  ⟨["cr"], CharSet.range 0xD 0xD⟩,
  ⟨["lf"], CharSet.range 0xA 0xA⟩,
  ⟨["cn", "control"], graphemeControl.symmDiff ⟨controlExceptionBounds⟩⟩,
  ⟨["ex", "extend"], graphemeContinuing⟩,
  ⟨["pp", "prepend"], ⟨prependBounds⟩⟩,
  ⟨["ri", "regionalindicator"], ⟨regionalIndicatorBounds⟩⟩,
  ⟨["sm", "spacingmark"],
    (CharSet.diff ⟨spacingMarkBounds⟩ graphemeContinuing).symmDiff
      ⟨spacingMarkExceptionBounds⟩⟩,
  ⟨["l"], ⟨[0x1100, 0x1160, 0xA960, 0xA97D]⟩⟩,
  ⟨["v"], ⟨[0x1160, 0x11A8, 0xD7B0, 0xD7C7, 0x16D63, 0x16D64, 0x16D67, 0x16D6B]⟩⟩,
  ⟨["t"], ⟨[0x11A8, 0x1200, 0xD7CB, 0xD7FC]⟩⟩,
  ⟨["lv"], openHangul⟩,
  ⟨["lvt"], CharSet.diff ⟨hangulBounds⟩ openHangul⟩,
  ⟨["zwj"], CharSet.range 0x200D 0x200D⟩]

/-- The classes for dividing a text into words. -/
def wordClasses : List Property := [
  ⟨["cr"], CharSet.range 0xD 0xD⟩,
  ⟨["lf"], CharSet.range 0xA 0xA⟩,
  ⟨["nl", "newline"], ⟨[0xB, 0xD, 0x85, 0x86, 0x2028, 0x202A]⟩⟩,
  ⟨["extend"], wordContinuing⟩,
  ⟨["zwj"], CharSet.range 0x200D 0x200D⟩,
  ⟨["fo", "format"], ⟨wordFormatBounds⟩⟩,
  ⟨["ka", "katakana"], (charsOfScripts ["kana"]).symmDiff ⟨wordKatakanaExceptionBounds⟩⟩,
  ⟨["hl", "hebrewletter"], hebrewLetter⟩,
  ⟨["le", "aletter"], wordLetter⟩,
  ⟨["sq", "singlequote"], CharSet.range 0x27 0x27⟩,
  ⟨["dq", "doublequote"], CharSet.range 0x22 0x22⟩,
  ⟨["mb", "midnumlet"], ⟨midEitherBounds⟩⟩,
  ⟨["ml", "midletter"], ⟨midLetterBounds⟩⟩,
  ⟨["mn", "midnum"], ⟨midNumberBounds⟩⟩,
  ⟨["nu", "numeric"], wordNumber⟩,
  ⟨["ex", "extendnumlet"], CharSet.union ⟨connectorPunctuationBounds⟩ (.range 0x202F 0x202F)⟩,
  ⟨["ri", "regionalindicator"], ⟨regionalIndicatorBounds⟩⟩,
  ⟨["wsegspace"], ⟨wordSpaceBounds⟩⟩]

/-- The classes for dividing a text into sentences. -/
def sentenceClasses : List Property := [
  ⟨["cr"], CharSet.range 0xD 0xD⟩,
  ⟨["lf"], CharSet.range 0xA 0xA⟩,
  ⟨["ex", "extend"], markContinuing.union (.range 0x200D 0x200D)⟩,
  ⟨["se", "sep"], ⟨[0x85, 0x86, 0x2028, 0x202A]⟩⟩,
  ⟨["fo", "format"], ⟨sentenceFormatBounds⟩⟩,
  ⟨["sp"], ⟨sentenceSpaceBounds⟩⟩,
  ⟨["lo", "lower"], lowercase.symmDiff ⟨sentenceLowerExceptionBounds⟩⟩,
  ⟨["up", "upper"],
    (uppercase.union ⟨titlecaseLetterBounds⟩).symmDiff ⟨sentenceUpperExceptionBounds⟩⟩,
  ⟨["le", "oletter"], sentenceLetter⟩,
  ⟨["nu", "numeric"], wordNumber.union ⟨[0x66C, 0x66D]⟩⟩,
  ⟨["at", "aterm"], ⟨fullStopBounds⟩⟩,
  ⟨["sc", "scontinue"], ⟨sentenceContinuationBounds⟩⟩,
  ⟨["st", "sterm"],
    CharSet.symmDiff ⟨sentenceTerminalBounds⟩ ⟨sentenceTerminatorExceptionBounds⟩⟩,
  ⟨["cl", "close"], sentenceClose⟩]

/-- The characters of the class with a reduced spelling. -/
def classChars? (classes : List Property) (spelling : String) : Option CharSet :=
  (classes.find? (·.spellings.contains spelling)).map (·.chars)

end ScopeQuery.Unicode
