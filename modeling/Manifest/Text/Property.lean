import Manifest.Text.Blank
import Manifest.Text.Boundary
import Manifest.Text.CaseChange
import Manifest.Text.Identifier

/-!
# Properties of characters

The properties of the Unicode character database that a character has or does
not have, with their names.
-/

namespace Manifest.Text

/-- The blanks. -/
def blanks : CodeSet :=
  .ofRanges blankRanges

/-- The properties that a character has or does not have. -/
def properties : List NamedSet :=
  [⟨["asciihexdigit", "ahex"], asciiHexDigits⟩,
    ⟨["alphabetic", "alpha"], alphabetic⟩,
    ⟨["bidicontrol", "bidic"], bidiControls⟩,
    ⟨["bidimirrored", "bidim"], bidiMirrored⟩,
    ⟨["caseignorable", "ci"], caseIgnorable⟩,
    ⟨["cased"], cased⟩,
    ⟨["changeswhencasefolded", "cwcf"], changedByFolding⟩,
    ⟨["changeswhencasemapped", "cwcm"], changedByCase⟩,
    ⟨["changeswhenlowercased", "cwl"], changedByLowercase⟩,
    ⟨["changeswhentitlecased", "cwt"], changedByTitlecase⟩,
    ⟨["changeswhenuppercased", "cwu"], changedByUppercase⟩,
    ⟨["dash"], dashes⟩,
    ⟨["defaultignorablecodepoint", "di"], ignorable⟩,
    ⟨["deprecated", "dep"], deprecated⟩,
    ⟨["diacritic", "dia"], diacritics⟩,
    ⟨["emoji"], emoji⟩,
    ⟨["emojicomponent", "ecomp"], emojiComponents⟩,
    ⟨["emojimodifier", "emod"], emojiModifiers⟩,
    ⟨["emojimodifierbase", "ebase"], emojiModifierBases⟩,
    ⟨["emojipresentation", "epres"], emojiPresentation⟩,
    ⟨["extendedpictographic", "extpict"], pictographic⟩,
    ⟨["extender", "ext"], extenders⟩,
    ⟨["graphemebase", "grbase"], graphemeBase⟩,
    ⟨["graphemeextend", "grext"], graphemeExtend⟩,
    ⟨["graphemelink", "grlink"], graphemeLinks⟩,
    ⟨["hexdigit", "hex"], hexDigitSigns⟩,
    ⟨["hyphen"], hyphens⟩,
    ⟨["idsbinaryoperator", "idsb"], binaryDescriptions⟩,
    ⟨["idstrinaryoperator", "idst"], ternaryDescriptions⟩,
    ⟨["idsunaryoperator", "idsu"], unaryDescriptions⟩,
    ⟨["idcompatmathcontinue"], mathIdentifierContinue⟩,
    ⟨["idcompatmathstart"], mathIdentifierStart⟩,
    ⟨["idcontinue", "idc"], identifierContinue⟩,
    ⟨["idstart", "ids"], identifierStart⟩,
    ⟨["ideographic", "ideo"], ideographs⟩,
    ⟨["joincontrol", "joinc"], joinControls⟩,
    ⟨["logicalorderexception", "loe"], logicalOrderExceptions⟩,
    ⟨["lowercase", "lower"], lowercase⟩,
    ⟨["math"], mathematical⟩,
    ⟨["modifiercombiningmark", "mcm"], modifierMarks⟩,
    ⟨["noncharactercodepoint", "nchar"], noncharacters⟩,
    ⟨["otheralphabetic", "oalpha"], otherAlphabetic⟩,
    ⟨["otherdefaultignorablecodepoint", "odi"], otherIgnorable⟩,
    ⟨["othergraphemeextend", "ogrext"], otherGraphemeExtend⟩,
    ⟨["otheridcontinue", "oidc"], otherIdentifierContinue⟩,
    ⟨["otheridstart", "oids"], otherIdentifierStart⟩,
    ⟨["otherlowercase", "olower"], otherLowercase⟩,
    ⟨["othermath", "omath"], otherMath⟩,
    ⟨["otheruppercase", "oupper"], otherUppercase⟩,
    ⟨["patternsyntax", "patsyn"], patternSigns⟩,
    ⟨["patternwhitespace", "patws"], patternSpace⟩,
    ⟨["prependedconcatenationmark", "pcm"], prependedMarks⟩,
    ⟨["quotationmark", "qmark"], quotationMarks⟩,
    ⟨["radical"], radicals⟩,
    ⟨["regionalindicator", "ri"], regionalIndicators⟩,
    ⟨["sentenceterminal", "sterm"], sentenceTerminals⟩,
    ⟨["softdotted", "sd"], softDotted⟩,
    ⟨["terminalpunctuation", "term"], terminalPunctuation⟩,
    ⟨["unifiedideograph", "uideo"], unifiedIdeographs⟩,
    ⟨["uppercase", "upper"], uppercase⟩,
    ⟨["variationselector", "vs"], variationSelectors⟩,
    ⟨["whitespace", "wspace", "space"], blanks⟩,
    ⟨["xidcontinue", "xidc"], stableIdentifierContinue⟩,
    ⟨["xidstart", "xids"], stableIdentifierStart⟩]

end Manifest.Text
