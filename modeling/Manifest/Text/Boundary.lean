import Manifest.Text.Emoji
import Manifest.Text.Ideograph
import Manifest.Text.Letter
import Manifest.Text.Mark
import Manifest.Text.Script
import Manifest.Text.Sign

/-!
# Boundaries

The classes of characters by which a text is divided into what is seen as one
character, into words and into sentences.  Each of the three divisions has
classes of its own; a character is in one of them at most.
-/

namespace Manifest.Text

/-- The carriage return. -/
def carriageReturn : CodeSet :=
  .ofRuns [⟨0x0D, 0x0D, 1⟩]

/-- The line feed. -/
def lineFeed : CodeSet :=
  .ofRuns [⟨0x0A, 0x0A, 1⟩]

/-- The joiner without width. -/
def joiner : CodeSet :=
  .ofRuns [⟨0x200D, 0x200D, 1⟩]

namespace Grapheme

/-- Characters that belong to the one before. -/
def extending : CodeSet :=
  graphemeExtend.union emojiModifiers

/-- Characters that belong to the one behind. -/
def prepended : CodeSet :=
  prependedMarks.union
    (.ofRuns [⟨0xD4E, 0xD4E, 1⟩, ⟨0x111C2, 0x111C3, 1⟩, ⟨0x113D1, 0x113D1, 1⟩,
      ⟨0x1193F, 0x1193F, 1⟩, ⟨0x11941, 0x11941, 1⟩, ⟨0x11A3A, 0x11A3A, 1⟩,
      ⟨0x11A84, 0x11A89, 1⟩, ⟨0x11D46, 0x11D46, 1⟩, ⟨0x11F02, 0x11F02, 1⟩])

/-- Characters that stand apart from all others. -/
def control : CodeSet :=
  (CodeSet.unionAll [lineSeparators, paragraphSeparators, controls, formatControls,
    unassigned.intersection ignorable]).difference
      (.unionAll [carriageReturn, lineFeed, joinControls, prepended, extending])

/-- Marks with a place of their own that do not belong to the character before. -/
def unspacedMarks : CodeSet :=
  .ofRuns [⟨0x102B, 0x102C, 1⟩, ⟨0x1038, 0x1038, 1⟩, ⟨0x1062, 0x1064, 1⟩,
    ⟨0x1067, 0x106D, 1⟩, ⟨0x1083, 0x1083, 1⟩, ⟨0x1087, 0x108C, 1⟩, ⟨0x108F, 0x108F, 1⟩,
    ⟨0x109A, 0x109C, 1⟩, ⟨0x1A61, 0x1A61, 1⟩, ⟨0x1A63, 0x1A64, 1⟩, ⟨0xAA7B, 0xAA7B, 1⟩,
    ⟨0xAA7D, 0xAA7D, 1⟩, ⟨0x11720, 0x11721, 1⟩]

/-- Marks with a place of their own that belong to the character before. -/
def spacing : CodeSet :=
  (spacingMarks.union (.ofRuns [⟨0x0E33, 0x0EB3, 0x80⟩])).difference
    (extending.union unspacedMarks)

/-- Leading consonants of syllables. -/
def leading : CodeSet :=
  .ofRuns [⟨0x1100, 0x115F, 1⟩, ⟨0xA960, 0xA97C, 1⟩]

/-- Vowels of syllables. -/
def vowel : CodeSet :=
  .ofRuns [⟨0x1160, 0x11A7, 1⟩, ⟨0xD7B0, 0xD7C6, 1⟩, ⟨0x16D63, 0x16D63, 1⟩,
    ⟨0x16D67, 0x16D6A, 1⟩]

/-- Trailing consonants of syllables. -/
def trailing : CodeSet :=
  .ofRuns [⟨0x11A8, 0x11FF, 1⟩, ⟨0xD7CB, 0xD7FB, 1⟩]

/-- Syllables without a trailing consonant. -/
def openSyllable : CodeSet :=
  .ofRuns [⟨0xAC00, 0xD788, 28⟩]

/-- Syllables with a trailing consonant. -/
def closedSyllable : CodeSet :=
  (CodeSet.ofRuns [⟨0xAC00, 0xD7A3, 1⟩]).difference openSyllable

/-- The classes by which a text is divided into what is seen as one character. -/
def classes : List NamedSet :=
  [⟨["cr"], carriageReturn⟩, ⟨["lf"], lineFeed⟩, ⟨["control", "cn"], control⟩,
    ⟨["extend", "ex"], extending⟩, ⟨["zwj"], joiner⟩,
    ⟨["regionalindicator", "ri"], regionalIndicators⟩, ⟨["prepend", "pp"], prepended⟩,
    ⟨["spacingmark", "sm"], spacing⟩, ⟨["l"], leading⟩, ⟨["v"], vowel⟩, ⟨["t"], trailing⟩,
    ⟨["lv"], openSyllable⟩, ⟨["lvt"], closedSyllable⟩]

end Grapheme

namespace Word

/-- Breaks of lines other than the carriage return and the line feed. -/
def newline : CodeSet :=
  .ofRuns [⟨0x0B, 0x0C, 1⟩, ⟨0x85, 0x85, 1⟩, ⟨0x2028, 0x2029, 1⟩]

/-- Characters that belong to the one before. -/
def extending : CodeSet :=
  (CodeSet.unionAll [graphemeExtend, spacingMarks, emojiModifiers]).difference joiner

/-- The double quotation mark of ASCII. -/
def doubleQuote : CodeSet :=
  .ofRuns [⟨0x22, 0x22, 1⟩]

/-- The apostrophe of ASCII. -/
def singleQuote : CodeSet :=
  .ofRuns [⟨0x27, 0x27, 1⟩]

/-- Signs of katakana. -/
def katakana : CodeSet :=
  ((CodeSet.unionAll [(ofScript? "katakana").getD .empty,
    .ofRuns [⟨0x3031, 0x3035, 1⟩, ⟨0x309B, 0x309C, 1⟩, ⟨0x30A0, 0x30A0, 1⟩,
      ⟨0x30FC, 0x30FC, 1⟩, ⟨0xFF70, 0xFF70, 1⟩]]).intersection assigned).difference
    extending

/-- Letters of Hebrew. -/
def hebrewLetters : CodeSet :=
  ((ofScript? "hebrew").getD .empty).intersection otherLetters

/-- Signs that stand between letters. -/
def midLetter : CodeSet :=
  .ofRuns [⟨0x3A, 0x3A, 1⟩, ⟨0xB7, 0xB7, 1⟩, ⟨0x387, 0x387, 1⟩, ⟨0x55F, 0x55F, 1⟩,
    ⟨0x5F4, 0x5F4, 1⟩, ⟨0x2027, 0x2027, 1⟩, ⟨0xFE13, 0xFE13, 1⟩, ⟨0xFE55, 0xFE55, 1⟩,
    ⟨0xFF1A, 0xFF1A, 1⟩]

/-- Signs that stand between letters and between digits. -/
def midNumLet : CodeSet :=
  .ofRuns [⟨0x2E, 0x2E, 1⟩, ⟨0x2018, 0x2019, 1⟩, ⟨0x2024, 0x2024, 1⟩, ⟨0xFE52, 0xFE52, 1⟩,
    ⟨0xFF07, 0xFF07, 1⟩, ⟨0xFF0E, 0xFF0E, 1⟩]

/-- Signs that stand between digits. -/
def midNum : CodeSet :=
  .ofRuns [⟨0x2C, 0x2C, 1⟩, ⟨0x3B, 0x3B, 1⟩, ⟨0x37E, 0x37E, 1⟩, ⟨0x589, 0x589, 1⟩,
    ⟨0x60C, 0x60D, 1⟩, ⟨0x66C, 0x66C, 1⟩, ⟨0x7F8, 0x7F8, 1⟩, ⟨0x2044, 0x2044, 1⟩,
    ⟨0xFE10, 0xFE10, 1⟩, ⟨0xFE14, 0xFE14, 1⟩, ⟨0xFE50, 0xFE50, 1⟩, ⟨0xFE54, 0xFE54, 1⟩,
    ⟨0xFF0C, 0xFF0C, 1⟩, ⟨0xFF1B, 0xFF1B, 1⟩]

/-- The mark of an abbreviation that belongs to letters. -/
def abbreviationMark : CodeSet :=
  .ofRuns [⟨0x070F, 0x070F, 1⟩]

/-- Digits and what belongs to them. -/
def numeric : CodeSet :=
  (CodeSet.unionAll [decimalNumbers, prependedMarks, .ofRuns [⟨0x066B, 0x066B, 1⟩]]).difference
    abbreviationMark

/-- Signs that connect letters and digits. -/
def connecting : CodeSet :=
  connectorPunctuation.union (.ofRuns [⟨0x202F, 0x202F, 1⟩])

/-- Spaces at which a line can end. -/
def space : CodeSet :=
  spaceSeparators.difference (.ofRuns [⟨0xA0, 0xA0, 1⟩, ⟨0x2007, 0x2007, 1⟩, ⟨0x202F, 0x202F, 1⟩])

/-- Characters that control the format and belong to the one before. -/
def format : CodeSet :=
  formatControls.difference
    (.unionAll [.ofRuns [⟨0x200B, 0x200D, 1⟩], prependedMarks, extending])

/-- Signs that count as letters. -/
def furtherLetters : CodeSet :=
  .ofRuns [⟨0x2C2, 0x2C5, 1⟩, ⟨0x2D2, 0x2D7, 1⟩, ⟨0x2DE, 0x2DF, 1⟩, ⟨0x2E5, 0x2EB, 1⟩,
    ⟨0x2ED, 0x2ED, 1⟩, ⟨0x2EF, 0x2FF, 1⟩, ⟨0x55A, 0x55C, 1⟩, ⟨0x55E, 0x55E, 1⟩,
    ⟨0x58A, 0x58A, 1⟩, ⟨0x5F3, 0x5F3, 1⟩, ⟨0x70F, 0x70F, 1⟩, ⟨0xA708, 0xA716, 1⟩,
    ⟨0xA720, 0xA721, 1⟩, ⟨0xA789, 0xA78A, 1⟩, ⟨0xAB5B, 0xAB5B, 1⟩]

/-- Letters of scripts that leave no space between words. -/
def unspacedLetters : CodeSet :=
  .ofRuns [⟨0xE01, 0xE30, 1⟩, ⟨0xE32, 0xE33, 1⟩, ⟨0xE40, 0xE46, 1⟩, ⟨0xE81, 0xE82, 1⟩,
    ⟨0xE84, 0xE84, 1⟩, ⟨0xE86, 0xE8A, 1⟩, ⟨0xE8C, 0xEA3, 1⟩, ⟨0xEA5, 0xEA5, 1⟩,
    ⟨0xEA7, 0xEB0, 1⟩, ⟨0xEB2, 0xEB3, 1⟩, ⟨0xEBD, 0xEBD, 1⟩, ⟨0xEC0, 0xEC4, 1⟩,
    ⟨0xEC6, 0xEC6, 1⟩, ⟨0xEDC, 0xEDF, 1⟩, ⟨0x1000, 0x102A, 1⟩, ⟨0x103F, 0x103F, 1⟩,
    ⟨0x1050, 0x1055, 1⟩, ⟨0x105A, 0x105D, 1⟩, ⟨0x1061, 0x1061, 1⟩, ⟨0x1065, 0x1066, 1⟩,
    ⟨0x106E, 0x1070, 1⟩, ⟨0x1075, 0x1081, 1⟩, ⟨0x108E, 0x108E, 1⟩, ⟨0x1780, 0x17B3, 1⟩,
    ⟨0x17D7, 0x17D7, 1⟩, ⟨0x17DC, 0x17DC, 1⟩, ⟨0x1950, 0x196D, 1⟩, ⟨0x1970, 0x1974, 1⟩,
    ⟨0x1980, 0x19AB, 1⟩, ⟨0x19B0, 0x19C9, 1⟩, ⟨0x1A20, 0x1A54, 1⟩, ⟨0x1AA7, 0x1AA7, 1⟩,
    ⟨0xA9E0, 0xA9E4, 1⟩, ⟨0xA9E6, 0xA9EF, 1⟩, ⟨0xA9FA, 0xA9FE, 1⟩, ⟨0xAA60, 0xAA76, 1⟩,
    ⟨0xAA7A, 0xAA7A, 1⟩, ⟨0xAA7E, 0xAAAF, 1⟩, ⟨0xAAB1, 0xAAB1, 1⟩, ⟨0xAAB5, 0xAAB6, 1⟩,
    ⟨0xAAB9, 0xAABD, 1⟩, ⟨0xAAC0, 0xAAC0, 1⟩, ⟨0xAAC2, 0xAAC2, 1⟩, ⟨0xAADB, 0xAADD, 1⟩,
    ⟨0x11700, 0x1171A, 1⟩, ⟨0x11740, 0x11746, 1⟩]

/-- Letters of scripts that leave space between words. -/
def letter : CodeSet :=
  (alphabetic.union furtherLetters).difference
    (.unionAll [ideographs, katakana, extending, hebrewLetters,
      (ofScript? "hiragana").getD .empty, numeric, unspacedLetters])

/-- The classes by which a text is divided into words. -/
def classes : List NamedSet :=
  [⟨["cr"], carriageReturn⟩, ⟨["lf"], lineFeed⟩, ⟨["newline", "nl"], newline⟩,
    ⟨["extend"], extending⟩, ⟨["zwj"], joiner⟩, ⟨["format", "fo"], format⟩,
    ⟨["regionalindicator", "ri"], regionalIndicators⟩, ⟨["katakana", "ka"], katakana⟩,
    ⟨["hebrewletter", "hl"], hebrewLetters⟩, ⟨["aletter", "le"], letter⟩,
    ⟨["singlequote", "sq"], singleQuote⟩, ⟨["doublequote", "dq"], doubleQuote⟩,
    ⟨["midnumlet", "mb"], midNumLet⟩, ⟨["midletter", "ml"], midLetter⟩,
    ⟨["midnum", "mn"], midNum⟩, ⟨["numeric", "nu"], numeric⟩,
    ⟨["extendnumlet", "ex"], connecting⟩, ⟨["wsegspace"], space⟩]

end Word

namespace Sentence

/-- Breaks of paragraphs. -/
def separator : CodeSet :=
  .ofRuns [⟨0x85, 0x85, 1⟩, ⟨0x2028, 0x2029, 1⟩]

/-- Characters that belong to the one before. -/
def extending : CodeSet :=
  .unionAll [graphemeExtend, spacingMarks, joiner]

/-- Characters that control the format and belong to the one before. -/
def format : CodeSet :=
  formatControls.difference (.unionAll [joinControls, prependedMarks, extending])

/-- Spaces. -/
def space : CodeSet :=
  .ofRuns [⟨0x09, 0x09, 1⟩, ⟨0x0B, 0x0C, 1⟩, ⟨0x20, 0x20, 1⟩, ⟨0xA0, 0xA0, 1⟩,
    ⟨0x1680, 0x1680, 1⟩, ⟨0x2000, 0x200A, 1⟩, ⟨0x202F, 0x202F, 1⟩, ⟨0x205F, 0x205F, 1⟩,
    ⟨0x3000, 0x3000, 1⟩]

/-- Letters in lower case. -/
def lower : CodeSet :=
  lowercase.difference
    (graphemeExtend.union (.ofRuns [⟨0x10D0, 0x10FA, 1⟩, ⟨0x10FD, 0x10FF, 1⟩]))

/-- Letters in upper case. -/
def upper : CodeSet :=
  (titlecaseLetters.union uppercase).difference
    (.ofRuns [⟨0x1C90, 0x1CBA, 1⟩, ⟨0x1CBD, 0x1CBF, 1⟩])

/-- Digits and what belongs to them. -/
def numeric : CodeSet :=
  Word.numeric.union (.ofRuns [⟨0x066C, 0x066C, 1⟩])

/-- Stops, which also stand at abbreviations. -/
def stop : CodeSet :=
  .ofRuns [⟨0x2E, 0x2E, 1⟩, ⟨0x2024, 0x2024, 1⟩, ⟨0xFE52, 0xFE52, 1⟩, ⟨0xFF0E, 0xFF0E, 1⟩]

/-- What ends a sentence without doubt. -/
def terminal : CodeSet :=
  sentenceTerminals.difference stop

/-- What shows that a sentence goes on. -/
def continuation : CodeSet :=
  .ofRuns [⟨0x2C, 0x2D, 1⟩, ⟨0x3A, 0x3B, 1⟩, ⟨0x37E, 0x37E, 1⟩, ⟨0x55D, 0x55D, 1⟩,
    ⟨0x60C, 0x60D, 1⟩, ⟨0x7F8, 0x7F8, 1⟩, ⟨0x1802, 0x1802, 1⟩, ⟨0x1808, 0x1808, 1⟩,
    ⟨0x2013, 0x2014, 1⟩, ⟨0x3001, 0x3001, 1⟩, ⟨0xFE10, 0xFE11, 1⟩, ⟨0xFE13, 0xFE14, 1⟩,
    ⟨0xFE31, 0xFE32, 1⟩, ⟨0xFE50, 0xFE51, 1⟩, ⟨0xFE54, 0xFE55, 1⟩, ⟨0xFE58, 0xFE58, 1⟩,
    ⟨0xFE63, 0xFE63, 1⟩, ⟨0xFF0C, 0xFF0D, 1⟩, ⟨0xFF1A, 0xFF1B, 1⟩, ⟨0xFF64, 0xFF64, 1⟩]

/-- What can stand between the end of a sentence and the next one. -/
def closing : CodeSet :=
  (CodeSet.unionAll [openPunctuation, closePunctuation, initialPunctuation, finalPunctuation,
    .ofRuns [⟨0x22, 0x22, 1⟩, ⟨0x27, 0x27, 1⟩, ⟨0x275B, 0x2760, 1⟩, ⟨0x2E00, 0x2E0D, 1⟩,
      ⟨0x1F676, 0x1F678, 1⟩]]).difference
    (stop.union terminal)

/-- Letters without case. -/
def otherLetter : CodeSet :=
  (CodeSet.unionAll [alphabetic, .ofRuns [⟨0x05F3, 0x05F3, 1⟩], Word.abbreviationMark]).difference
    (.unionAll [lower, upper, extending])

/-- The classes by which a text is divided into sentences. -/
def classes : List NamedSet :=
  [⟨["cr"], carriageReturn⟩, ⟨["lf"], lineFeed⟩, ⟨["extend", "ex"], extending⟩,
    ⟨["sep", "se"], separator⟩, ⟨["format", "fo"], format⟩, ⟨["sp"], space⟩,
    ⟨["lower", "lo"], lower⟩, ⟨["upper", "up"], upper⟩, ⟨["oletter", "le"], otherLetter⟩,
    ⟨["numeric", "nu"], numeric⟩, ⟨["aterm", "at"], stop⟩,
    ⟨["scontinue", "sc"], continuation⟩, ⟨["sterm", "st"], terminal⟩,
    ⟨["close", "cl"], closing⟩]

end Sentence

/-- Characters that make no difference to the case of what is around them. -/
def caseIgnorable : CodeSet :=
  .unionAll [nonspacingMarks, enclosingMarks, formatControls, modifierLetters, modifierSymbols,
    Word.midLetter, Word.midNumLet, Word.singleQuote]

end Manifest.Text
