/-
The properties by which a text is divided into characters as a reader sees them,
into words and into sentences, in edition 16.0 of the standard. Each value of
such a property has names, in lower case and without separators, and characters;
the characters that are left over have no value here.
-/

import Passbook.Unicode.Property
import Passbook.Unicode.Script

namespace Passbook.Unicode.Segmentation

structure BreakValue where
  names : List String
  holds : Char → Bool

def named? (values : List BreakValue) (name : String) : Option (Char → Bool) :=
  (values.find? fun value => value.names.contains name).map BreakValue.holds

def isReturn (c : Char) : Bool := c == '\r'

def isLineFeed (c : Char) : Bool := c == '\n'

def isRegionalIndicator (c : Char) : Bool :=
  regionalIndicator.contains c

/-! ### Characters as a reader sees them -/

def graphemePrepend : Ranges := Ranges.ofHex
  "600-605 6DD 70F 890-891 8E2 D4E 110BD 110CD 111C2-111C3 113D1 1193F 11941 11A3A
    11A84-11A89 11D46 11F02"

def isGraphemeExtender (c : Char) : Bool :=
  isGraphemeExtend c || emojiModifier.contains c

/-- Characters that end what is before them and start what is after them. -/
def isGraphemeControl (c : Char) : Bool :=
  match Category.of c with
  | .lineSeparator | .paragraphSeparator => true
  | .control | .format =>
      !isReturn c && !isLineFeed c && !isJoinControl c && !graphemePrepend.contains c &&
        !isGraphemeExtender c
  | .unassigned => isDefaultIgnorable c
  | _ => false

/-- Spacing marks that stand apart from the character before them. -/
def separateMark : Ranges := Ranges.ofHex
  "102B-102C 1038 1062-1064 1067-106D 1083 1087-108C 108F 109A-109C 1A61 1A63-1A64 AA7B
    AA7D 11720-11721"

def isGraphemeSpacingMark (c : Char) : Bool :=
  (Category.spacingMarkRanges.contains c && !isGraphemeExtender c && !separateMark.contains c) ||
    c == '\u0E33' || c == '\u0EB3'

def isHangulSyllable (c : Char) : Bool :=
  '\uAC00' ≤ c && c ≤ '\uD7A3'

/-- Every twenty-eighth Hangul syllable has no consonant at its end. -/
def isOpenSyllable (c : Char) : Bool :=
  isHangulSyllable c && (c.toNat - 0xAC00) % 28 == 0

def isClosedSyllable (c : Char) : Bool :=
  isHangulSyllable c && (c.toNat - 0xAC00) % 28 != 0

def graphemeValues : List BreakValue :=
  [⟨["control", "cn"], isGraphemeControl⟩,
    ⟨["cr"], isReturn⟩,
    ⟨["lf"], isLineFeed⟩,
    ⟨["extend", "ex"], isGraphemeExtender⟩,
    ⟨["prepend", "pp"], graphemePrepend.contains⟩,
    ⟨["spacingmark", "sm"], isGraphemeSpacingMark⟩,
    ⟨["regionalindicator", "ri"], isRegionalIndicator⟩,
    ⟨["zwj"], fun c => c == '\u200D'⟩,
    ⟨["l"], (Ranges.ofHex "1100-115F A960-A97C").contains⟩,
    ⟨["v"], (Ranges.ofHex "1160-11A7 D7B0-D7C6 16D63 16D67-16D6A").contains⟩,
    ⟨["t"], (Ranges.ofHex "11A8-11FF D7CB-D7FB").contains⟩,
    ⟨["lv"], isOpenSyllable⟩,
    ⟨["lvt"], isClosedSyllable⟩]

/-! ### Sentences -/

def isLineSeparator (c : Char) : Bool :=
  c == '\u0085' || c == '\u2028' || c == '\u2029'

def isExtender (c : Char) : Bool :=
  isGraphemeExtend c || Category.spacingMarkRanges.contains c

def isSentenceExtender (c : Char) : Bool :=
  isExtender c || c == '\u200D'

def isMkhedruli (c : Char) : Bool :=
  ('\u10D0' ≤ c && c ≤ '\u10FA') || ('\u10FD' ≤ c && c ≤ '\u10FF')

/-- The capitals of the Georgian letters, used for whole words only. -/
def isMtavruli (c : Char) : Bool :=
  ('\u1C90' ≤ c && c ≤ '\u1CBA') || ('\u1CBD' ≤ c && c ≤ '\u1CBF')

def isSentenceLower (c : Char) : Bool :=
  isLowercase c && !isGraphemeExtend c && !isMkhedruli c

def isSentenceUpper (c : Char) : Bool :=
  (isUppercase c || Category.titlecaseLetterRanges.contains c) && !isMtavruli c

def isSentenceLetter (c : Char) : Bool :=
  (isAlphabetic c || c == '\u05F3') && !isSentenceLower c && !isSentenceUpper c &&
    !isSentenceExtender c

def numericSign : Ranges := Ranges.ofHex
  "600-605 66B 6DD 890-891 8E2 19DA 110BD 110CD"

def isWordNumeric (c : Char) : Bool :=
  Category.decimalNumberRanges.contains c || numericSign.contains c

def isSentenceNumeric (c : Char) : Bool :=
  isWordNumeric c || c == '\u066C'

def isSentenceFormat (c : Char) : Bool :=
  Category.formatRanges.contains c && !isSentenceExtender c && !numericSign.contains c

def isFullStop (c : Char) : Bool :=
  c == '.' || c == '\u2024' || c == '\uFE52' || c == '\uFF0E'

def isSentenceTerminal (c : Char) : Bool :=
  sentenceTerminal.contains c && !isFullStop c

def plainQuote : Ranges := Ranges.ofHex
  "22 27 275B-2760 2E00-2E01 2E06-2E08 2E0B 1F676-1F678"

def isClosing (c : Char) : Bool :=
  match Category.of c with
  | .openPunctuation | .closePunctuation | .initialPunctuation | .finalPunctuation => true
  | _ => plainQuote.contains c

def continuing : Ranges := Ranges.ofHex
  "2C-2D 3A-3B 37E 55D 60C-60D 7F8 1802 1808 2013-2014 3001 FE10-FE11 FE13-FE14 FE31-FE32
    FE50-FE51 FE54-FE55 FE58 FE63 FF0C-FF0D FF1A-FF1B FF64"

def isSentenceSpace (c : Char) : Bool :=
  Text.isBlank c && !isReturn c && !isLineFeed c && !isLineSeparator c

def sentenceValues : List BreakValue :=
  [⟨["aterm", "at"], isFullStop⟩,
    ⟨["close", "cl"], isClosing⟩,
    ⟨["cr"], isReturn⟩,
    ⟨["lf"], isLineFeed⟩,
    ⟨["extend", "ex"], isSentenceExtender⟩,
    ⟨["format", "fo"], isSentenceFormat⟩,
    ⟨["lower", "lo"], isSentenceLower⟩,
    ⟨["upper", "up"], isSentenceUpper⟩,
    ⟨["oletter", "le"], isSentenceLetter⟩,
    ⟨["numeric", "nu"], isSentenceNumeric⟩,
    ⟨["scontinue", "sc"], continuing.contains⟩,
    ⟨["sep", "se"], isLineSeparator⟩,
    ⟨["sp"], isSentenceSpace⟩,
    ⟨["sterm", "st"], isSentenceTerminal⟩]

/-! ### Words -/

def hebrew : Ranges := Script.rangesOf "hebr"

def hiragana : Ranges := Script.rangesOf "hira"

def katakana : Ranges := Script.rangesOf "kana"

def isHebrewLetter (c : Char) : Bool :=
  hebrew.contains c && Category.otherLetterRanges.contains c

def katakanaSign : Ranges := Ranges.ofHex
  "3031-3035 309B-309C 30A0 30FC FF70"

def isWordKatakana (c : Char) : Bool :=
  katakana.contains c || katakanaSign.contains c

def unspacedLetter : Ranges := Ranges.ofHex
  "E01-E30 E32-E33 E40-E46 E81-E82 E84 E86-E8A E8C-EA3 EA5 EA7-EB0 EB2-EB3 EBD EC0-EC4 EC6
    EDC-EDF 1000-102A 103F 1050-1055 105A-105D 1061 1065-1066 106E-1070 1075-1081 108E 1780-17B3
    17D7 17DC 1950-196D 1970-1974 1980-19AB 19B0-19C9 1A20-1A54 1AA7 A9E0-A9E4 A9E6-A9EF A9FA-A9FE
    AA60-AA76 AA7A AA7E-AAAF AAB1 AAB5-AAB6 AAB9-AABD AAC0 AAC2 AADB-AADD 11700-1171A 11740-11746"

def wordSign : Ranges := Ranges.ofHex
  "2C2-2C5 2D2-2D7 2DE-2DF 2E5-2EB 2ED 2EF-2FF 55A-55C 55E 58A 5F3 70F A708-A716 A720-A721
    A789-A78A AB5B"

def isWordExtender (c : Char) : Bool :=
  isExtender c || emojiModifier.contains c

def isWordLetter (c : Char) : Bool :=
  wordSign.contains c ||
    (isAlphabetic c && !ideographic.contains c && !isWordKatakana c && !hiragana.contains c &&
      !isWordExtender c && !isHebrewLetter c && !unspacedLetter.contains c)

def isWordFormat (c : Char) : Bool :=
  Category.formatRanges.contains c && !isJoinControl c && c != '\u200B' && c != '\u070F' &&
    !isWordExtender c && !numericSign.contains c

def isWordConnector (c : Char) : Bool :=
  Category.connectorPunctuationRanges.contains c || c == '\u202F'

def wordValues : List BreakValue :=
  [⟨["aletter", "le"], isWordLetter⟩,
    ⟨["cr"], isReturn⟩,
    ⟨["lf"], isLineFeed⟩,
    ⟨["newline", "nl"], fun c => c == '\x0B' || c == '\x0C' || isLineSeparator c⟩,
    ⟨["doublequote", "dq"], fun c => c == '"'⟩,
    ⟨["singlequote", "sq"], fun c => c == '\x27'⟩,
    ⟨["extend"], isWordExtender⟩,
    ⟨["extendnumlet", "ex"], isWordConnector⟩,
    ⟨["format", "fo"], isWordFormat⟩,
    ⟨["hebrewletter", "hl"], isHebrewLetter⟩,
    ⟨["katakana", "ka"], isWordKatakana⟩,
    ⟨["midletter", "ml"], (Ranges.ofHex "3A B7 387 55F 5F4 2027 FE13 FE55 FF1A").contains⟩,
    ⟨["midnum", "mn"], (Ranges.ofHex "2C 3B 37E 589 60C-60D 66C 7F8 2044 FE50 FE54 FF0C FF1B").contains⟩,
    ⟨["midnumlet", "mb"], (Ranges.ofHex "2E 2018-2019 2024 FE52 FF07 FF0E").contains⟩,
    ⟨["numeric", "nu"], isWordNumeric⟩,
    ⟨["regionalindicator", "ri"], isRegionalIndicator⟩,
    ⟨["wsegspace"], (Ranges.ofHex "20 1680 2000-2006 2008-200A 205F 3000").contains⟩,
    ⟨["zwj"], fun c => c == '\u200D'⟩]

end Passbook.Unicode.Segmentation
