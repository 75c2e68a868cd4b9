import Manifest.Text.Category

/-!
# Letters and words

What counts as a letter, as upper or lower case and as part of a word, for the
characters of all scripts: the categories that say so, and some characters
that stand in other categories.
-/

namespace Manifest.Text

/-- Characters outside the upper case letters that count as upper case. -/
def otherUppercase : CodeSet :=
  .ofRuns [⟨0x2160, 0x216F, 1⟩, ⟨0x24B6, 0x24CF, 1⟩, ⟨0x1F130, 0x1F149, 1⟩,
    ⟨0x1F150, 0x1F169, 1⟩, ⟨0x1F170, 0x1F189, 1⟩]

/-- Characters outside the lower case letters that count as lower case. -/
def otherLowercase : CodeSet :=
  .ofRuns [⟨0xAA, 0xAA, 1⟩, ⟨0xBA, 0xBA, 1⟩, ⟨0x2B0, 0x2B8, 1⟩, ⟨0x2C0, 0x2C1, 1⟩,
    ⟨0x2E0, 0x2E4, 1⟩, ⟨0x345, 0x345, 1⟩, ⟨0x37A, 0x37A, 1⟩, ⟨0x10FC, 0x10FC, 1⟩,
    ⟨0x1D2C, 0x1D6A, 1⟩, ⟨0x1D78, 0x1D78, 1⟩, ⟨0x1D9B, 0x1DBF, 1⟩, ⟨0x2071, 0x2071, 1⟩,
    ⟨0x207F, 0x207F, 1⟩, ⟨0x2090, 0x209C, 1⟩, ⟨0x2170, 0x217F, 1⟩, ⟨0x24D0, 0x24E9, 1⟩,
    ⟨0x2C7C, 0x2C7D, 1⟩, ⟨0xA69C, 0xA69D, 1⟩, ⟨0xA770, 0xA770, 1⟩, ⟨0xA7F2, 0xA7F4, 1⟩,
    ⟨0xA7F8, 0xA7F9, 1⟩, ⟨0xAB5C, 0xAB5F, 1⟩, ⟨0xAB69, 0xAB69, 1⟩, ⟨0x10780, 0x10780, 1⟩,
    ⟨0x10783, 0x10785, 1⟩, ⟨0x10787, 0x107B0, 1⟩, ⟨0x107B2, 0x107BA, 1⟩,
    ⟨0x1E030, 0x1E06D, 1⟩]

/-- Characters outside the letters and their numbers that count as letters. -/
def otherAlphabetic : CodeSet :=
  .ofRuns [⟨0x345, 0x345, 1⟩, ⟨0x363, 0x36F, 1⟩, ⟨0x5B0, 0x5BD, 1⟩, ⟨0x5BF, 0x5BF, 1⟩,
    ⟨0x5C1, 0x5C2, 1⟩, ⟨0x5C4, 0x5C5, 1⟩, ⟨0x5C7, 0x5C7, 1⟩, ⟨0x610, 0x61A, 1⟩,
    ⟨0x64B, 0x657, 1⟩, ⟨0x659, 0x65F, 1⟩, ⟨0x670, 0x670, 1⟩, ⟨0x6D6, 0x6DC, 1⟩,
    ⟨0x6E1, 0x6E4, 1⟩, ⟨0x6E7, 0x6E8, 1⟩, ⟨0x6ED, 0x6ED, 1⟩, ⟨0x711, 0x711, 1⟩,
    ⟨0x730, 0x73F, 1⟩, ⟨0x7A6, 0x7B0, 1⟩, ⟨0x816, 0x817, 1⟩, ⟨0x81B, 0x823, 1⟩,
    ⟨0x825, 0x827, 1⟩, ⟨0x829, 0x82C, 1⟩, ⟨0x897, 0x897, 1⟩, ⟨0x8D4, 0x8DF, 1⟩,
    ⟨0x8E3, 0x8E9, 1⟩, ⟨0x8F0, 0x903, 1⟩, ⟨0x93A, 0x93B, 1⟩, ⟨0x93E, 0x94C, 1⟩,
    ⟨0x94E, 0x94F, 1⟩, ⟨0x955, 0x957, 1⟩, ⟨0x962, 0x963, 1⟩, ⟨0x981, 0x983, 1⟩,
    ⟨0x9BE, 0x9C4, 1⟩, ⟨0x9C7, 0x9C8, 1⟩, ⟨0x9CB, 0x9CC, 1⟩, ⟨0x9D7, 0x9D7, 1⟩,
    ⟨0x9E2, 0x9E3, 1⟩, ⟨0xA01, 0xA03, 1⟩, ⟨0xA3E, 0xA42, 1⟩, ⟨0xA47, 0xA48, 1⟩,
    ⟨0xA4B, 0xA4C, 1⟩, ⟨0xA51, 0xA51, 1⟩, ⟨0xA70, 0xA71, 1⟩, ⟨0xA75, 0xA75, 1⟩,
    ⟨0xA81, 0xA83, 1⟩, ⟨0xABE, 0xAC5, 1⟩, ⟨0xAC7, 0xAC9, 1⟩, ⟨0xACB, 0xACC, 1⟩,
    ⟨0xAE2, 0xAE3, 1⟩, ⟨0xAFA, 0xAFC, 1⟩, ⟨0xB01, 0xB03, 1⟩, ⟨0xB3E, 0xB44, 1⟩,
    ⟨0xB47, 0xB48, 1⟩, ⟨0xB4B, 0xB4C, 1⟩, ⟨0xB56, 0xB57, 1⟩, ⟨0xB62, 0xB63, 1⟩,
    ⟨0xB82, 0xB82, 1⟩, ⟨0xBBE, 0xBC2, 1⟩, ⟨0xBC6, 0xBC8, 1⟩, ⟨0xBCA, 0xBCC, 1⟩,
    ⟨0xBD7, 0xBD7, 1⟩, ⟨0xC00, 0xC04, 1⟩, ⟨0xC3E, 0xC44, 1⟩, ⟨0xC46, 0xC48, 1⟩,
    ⟨0xC4A, 0xC4C, 1⟩, ⟨0xC55, 0xC56, 1⟩, ⟨0xC62, 0xC63, 1⟩, ⟨0xC81, 0xC83, 1⟩,
    ⟨0xCBE, 0xCC4, 1⟩, ⟨0xCC6, 0xCC8, 1⟩, ⟨0xCCA, 0xCCC, 1⟩, ⟨0xCD5, 0xCD6, 1⟩,
    ⟨0xCE2, 0xCE3, 1⟩, ⟨0xCF3, 0xCF3, 1⟩, ⟨0xD00, 0xD03, 1⟩, ⟨0xD3E, 0xD44, 1⟩,
    ⟨0xD46, 0xD48, 1⟩, ⟨0xD4A, 0xD4C, 1⟩, ⟨0xD57, 0xD57, 1⟩, ⟨0xD62, 0xD63, 1⟩,
    ⟨0xD81, 0xD83, 1⟩, ⟨0xDCF, 0xDD4, 1⟩, ⟨0xDD6, 0xDD6, 1⟩, ⟨0xDD8, 0xDDF, 1⟩,
    ⟨0xDF2, 0xDF3, 1⟩, ⟨0xE31, 0xE31, 1⟩, ⟨0xE34, 0xE3A, 1⟩, ⟨0xE4D, 0xE4D, 1⟩,
    ⟨0xEB1, 0xEB1, 1⟩, ⟨0xEB4, 0xEB9, 1⟩, ⟨0xEBB, 0xEBC, 1⟩, ⟨0xECD, 0xECD, 1⟩,
    ⟨0xF71, 0xF83, 1⟩, ⟨0xF8D, 0xF97, 1⟩, ⟨0xF99, 0xFBC, 1⟩, ⟨0x102B, 0x1036, 1⟩,
    ⟨0x1038, 0x1038, 1⟩, ⟨0x103B, 0x103E, 1⟩, ⟨0x1056, 0x1059, 1⟩, ⟨0x105E, 0x1060, 1⟩,
    ⟨0x1062, 0x1064, 1⟩, ⟨0x1067, 0x106D, 1⟩, ⟨0x1071, 0x1074, 1⟩, ⟨0x1082, 0x108D, 1⟩,
    ⟨0x108F, 0x108F, 1⟩, ⟨0x109A, 0x109D, 1⟩, ⟨0x1712, 0x1713, 1⟩, ⟨0x1732, 0x1733, 1⟩,
    ⟨0x1752, 0x1753, 1⟩, ⟨0x1772, 0x1773, 1⟩, ⟨0x17B6, 0x17C8, 1⟩, ⟨0x1885, 0x1886, 1⟩,
    ⟨0x18A9, 0x18A9, 1⟩, ⟨0x1920, 0x192B, 1⟩, ⟨0x1930, 0x1938, 1⟩, ⟨0x1A17, 0x1A1B, 1⟩,
    ⟨0x1A55, 0x1A5E, 1⟩, ⟨0x1A61, 0x1A74, 1⟩, ⟨0x1ABF, 0x1AC0, 1⟩, ⟨0x1ACC, 0x1ACE, 1⟩,
    ⟨0x1B00, 0x1B04, 1⟩, ⟨0x1B35, 0x1B43, 1⟩, ⟨0x1B80, 0x1B82, 1⟩, ⟨0x1BA1, 0x1BA9, 1⟩,
    ⟨0x1BAC, 0x1BAD, 1⟩, ⟨0x1BE7, 0x1BF1, 1⟩, ⟨0x1C24, 0x1C36, 1⟩, ⟨0x1DD3, 0x1DF4, 1⟩,
    ⟨0x24B6, 0x24E9, 1⟩, ⟨0x2DE0, 0x2DFF, 1⟩, ⟨0xA674, 0xA67B, 1⟩, ⟨0xA69E, 0xA69F, 1⟩,
    ⟨0xA802, 0xA802, 1⟩, ⟨0xA80B, 0xA80B, 1⟩, ⟨0xA823, 0xA827, 1⟩, ⟨0xA880, 0xA881, 1⟩,
    ⟨0xA8B4, 0xA8C3, 1⟩, ⟨0xA8C5, 0xA8C5, 1⟩, ⟨0xA8FF, 0xA8FF, 1⟩, ⟨0xA926, 0xA92A, 1⟩,
    ⟨0xA947, 0xA952, 1⟩, ⟨0xA980, 0xA983, 1⟩, ⟨0xA9B4, 0xA9BF, 1⟩, ⟨0xA9E5, 0xA9E5, 1⟩,
    ⟨0xAA29, 0xAA36, 1⟩, ⟨0xAA43, 0xAA43, 1⟩, ⟨0xAA4C, 0xAA4D, 1⟩, ⟨0xAA7B, 0xAA7D, 1⟩,
    ⟨0xAAB0, 0xAAB0, 1⟩, ⟨0xAAB2, 0xAAB4, 1⟩, ⟨0xAAB7, 0xAAB8, 1⟩, ⟨0xAABE, 0xAABE, 1⟩,
    ⟨0xAAEB, 0xAAEF, 1⟩, ⟨0xAAF5, 0xAAF5, 1⟩, ⟨0xABE3, 0xABEA, 1⟩, ⟨0xFB1E, 0xFB1E, 1⟩,
    ⟨0x10376, 0x1037A, 1⟩, ⟨0x10A01, 0x10A03, 1⟩, ⟨0x10A05, 0x10A06, 1⟩,
    ⟨0x10A0C, 0x10A0F, 1⟩, ⟨0x10D24, 0x10D27, 1⟩, ⟨0x10D69, 0x10D69, 1⟩,
    ⟨0x10EAB, 0x10EAC, 1⟩, ⟨0x10EFC, 0x10EFC, 1⟩, ⟨0x11000, 0x11002, 1⟩,
    ⟨0x11038, 0x11045, 1⟩, ⟨0x11073, 0x11074, 1⟩, ⟨0x11080, 0x11082, 1⟩,
    ⟨0x110B0, 0x110B8, 1⟩, ⟨0x110C2, 0x110C2, 1⟩, ⟨0x11100, 0x11102, 1⟩,
    ⟨0x11127, 0x11132, 1⟩, ⟨0x11145, 0x11146, 1⟩, ⟨0x11180, 0x11182, 1⟩,
    ⟨0x111B3, 0x111BF, 1⟩, ⟨0x111CE, 0x111CF, 1⟩, ⟨0x1122C, 0x11234, 1⟩,
    ⟨0x11237, 0x11237, 1⟩, ⟨0x1123E, 0x1123E, 1⟩, ⟨0x11241, 0x11241, 1⟩,
    ⟨0x112DF, 0x112E8, 1⟩, ⟨0x11300, 0x11303, 1⟩, ⟨0x1133E, 0x11344, 1⟩,
    ⟨0x11347, 0x11348, 1⟩, ⟨0x1134B, 0x1134C, 1⟩, ⟨0x11357, 0x11357, 1⟩,
    ⟨0x11362, 0x11363, 1⟩, ⟨0x113B8, 0x113C0, 1⟩, ⟨0x113C2, 0x113C2, 1⟩,
    ⟨0x113C5, 0x113C5, 1⟩, ⟨0x113C7, 0x113CA, 1⟩, ⟨0x113CC, 0x113CD, 1⟩,
    ⟨0x11435, 0x11441, 1⟩, ⟨0x11443, 0x11445, 1⟩, ⟨0x114B0, 0x114C1, 1⟩,
    ⟨0x115AF, 0x115B5, 1⟩, ⟨0x115B8, 0x115BE, 1⟩, ⟨0x115DC, 0x115DD, 1⟩,
    ⟨0x11630, 0x1163E, 1⟩, ⟨0x11640, 0x11640, 1⟩, ⟨0x116AB, 0x116B5, 1⟩,
    ⟨0x1171D, 0x1172A, 1⟩, ⟨0x1182C, 0x11838, 1⟩, ⟨0x11930, 0x11935, 1⟩,
    ⟨0x11937, 0x11938, 1⟩, ⟨0x1193B, 0x1193C, 1⟩, ⟨0x11940, 0x11940, 1⟩,
    ⟨0x11942, 0x11942, 1⟩, ⟨0x119D1, 0x119D7, 1⟩, ⟨0x119DA, 0x119DF, 1⟩,
    ⟨0x119E4, 0x119E4, 1⟩, ⟨0x11A01, 0x11A0A, 1⟩, ⟨0x11A35, 0x11A39, 1⟩,
    ⟨0x11A3B, 0x11A3E, 1⟩, ⟨0x11A51, 0x11A5B, 1⟩, ⟨0x11A8A, 0x11A97, 1⟩,
    ⟨0x11C2F, 0x11C36, 1⟩, ⟨0x11C38, 0x11C3E, 1⟩, ⟨0x11C92, 0x11CA7, 1⟩,
    ⟨0x11CA9, 0x11CB6, 1⟩, ⟨0x11D31, 0x11D36, 1⟩, ⟨0x11D3A, 0x11D3A, 1⟩,
    ⟨0x11D3C, 0x11D3D, 1⟩, ⟨0x11D3F, 0x11D41, 1⟩, ⟨0x11D43, 0x11D43, 1⟩,
    ⟨0x11D47, 0x11D47, 1⟩, ⟨0x11D8A, 0x11D8E, 1⟩, ⟨0x11D90, 0x11D91, 1⟩,
    ⟨0x11D93, 0x11D96, 1⟩, ⟨0x11EF3, 0x11EF6, 1⟩, ⟨0x11F00, 0x11F01, 1⟩,
    ⟨0x11F03, 0x11F03, 1⟩, ⟨0x11F34, 0x11F3A, 1⟩, ⟨0x11F3E, 0x11F40, 1⟩,
    ⟨0x1611E, 0x1612E, 1⟩, ⟨0x16F4F, 0x16F4F, 1⟩, ⟨0x16F51, 0x16F87, 1⟩,
    ⟨0x16F8F, 0x16F92, 1⟩, ⟨0x16FF0, 0x16FF1, 1⟩, ⟨0x1BC9E, 0x1BC9E, 1⟩,
    ⟨0x1E000, 0x1E006, 1⟩, ⟨0x1E008, 0x1E018, 1⟩, ⟨0x1E01B, 0x1E021, 1⟩,
    ⟨0x1E023, 0x1E024, 1⟩, ⟨0x1E026, 0x1E02A, 1⟩, ⟨0x1E08F, 0x1E08F, 1⟩,
    ⟨0x1E947, 0x1E947, 1⟩, ⟨0x1F130, 0x1F149, 1⟩, ⟨0x1F150, 0x1F169, 1⟩,
    ⟨0x1F170, 0x1F189, 1⟩]

/-- All upper case. -/
def uppercase : CodeSet :=
  uppercaseLetters.union otherUppercase

/-- All lower case. -/
def lowercase : CodeSet :=
  lowercaseLetters.union otherLowercase

/-- All that is in some case. -/
def cased : CodeSet :=
  .unionAll [uppercase, lowercase, titlecaseLetters]

/-- All that counts as a letter. -/
def alphabetic : CodeSet :=
  .unionAll [letters, letterNumbers, otherAlphabetic]

/-- What joins two characters that would stand apart. -/
def joinControls : CodeSet :=
  .ofRuns [⟨0x200C, 0x200D, 1⟩]

/-- All characters of words: letters, marks, decimal digits, connectors and joiners. -/
def wordChars : CodeSet :=
  .unionAll [alphabetic, marks, decimalNumbers, connectorPunctuation, joinControls]

/-- A character of a word of any script. -/
def isWordChar (char : Char) : Bool :=
  if char.toNat < 0x80 then char.isAlphanum || char = '_' else wordChars.has char

/-- Letters that were added in version 17 of the database. -/
def recentLetters : CodeSet :=
  .ofRuns [⟨0x88F, 0x88F, 1⟩, ⟨0xC5C, 0xC5C, 1⟩, ⟨0xCDC, 0xCDC, 1⟩, ⟨0xA7CE, 0xA7CF, 1⟩,
    ⟨0xA7D2, 0xA7D2, 1⟩, ⟨0xA7D4, 0xA7D4, 1⟩, ⟨0xA7F1, 0xA7F1, 1⟩, ⟨0x10940, 0x10959, 1⟩,
    ⟨0x10EC5, 0x10EC7, 1⟩, ⟨0x10EFA, 0x10EFB, 1⟩, ⟨0x11B60, 0x11B67, 1⟩,
    ⟨0x11DB0, 0x11DDB, 1⟩, ⟨0x16EA0, 0x16EB8, 1⟩, ⟨0x16EBB, 0x16ED3, 1⟩,
    ⟨0x16FF2, 0x16FF6, 1⟩, ⟨0x187F8, 0x187FF, 1⟩, ⟨0x18D09, 0x18D1E, 1⟩,
    ⟨0x18D80, 0x18DF2, 1⟩, ⟨0x1E6C0, 0x1E6DE, 1⟩, ⟨0x1E6E0, 0x1E6F5, 1⟩,
    ⟨0x1E6FE, 0x1E6FF, 1⟩, ⟨0x2B73A, 0x2B73F, 1⟩, ⟨0x2CEA2, 0x2CEAD, 1⟩,
    ⟨0x323B0, 0x33479, 1⟩]

/-- Numbers that were added in version 17 of the database. -/
def recentNumbers : CodeSet :=
  .ofRuns [⟨0x11DE0, 0x11DE9, 1⟩]

/-- A character that counts as a letter in version 17 of the database. -/
def isAlphabetic (char : Char) : Bool :=
  alphabetic.has char || recentLetters.has char

/-- A letter or a number in version 17 of the database. -/
def isAlphanumeric (char : Char) : Bool :=
  isAlphabetic char || numbers.has char || recentNumbers.has char

end Manifest.Text
