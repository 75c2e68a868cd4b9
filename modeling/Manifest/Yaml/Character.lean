/-!
# Characters of YAML texts

The classes of characters that the notation distinguishes.  Five characters
break lines; a carriage return and a line feed together are one break.
-/

namespace Manifest.Yaml

/-- A character that ends a line. -/
def isBreak (char : Char) : Bool :=
  char = '\n' || char = '\r' || char = '\x85' || char = '\u2028' || char = '\u2029'

/-- A space or a tab. -/
def isSpaceOrTab (char : Char) : Bool :=
  char = ' ' || char = '\t'

/-- A blank or a break. -/
def isBlankOrBreak (char : Char) : Bool :=
  isSpaceOrTab char || isBreak char

/-- A character of anchors and of the names of directives. -/
def isWordChar (char : Char) : Bool :=
  char.isAlphanum || char = '_' || char = '-'

/-- The mark that can open a text in some encodings. -/
def byteOrderMark : Char := '\ufeff'

/-- A character that may occur in a text: no control except tabs and breaks. -/
def isAllowed (char : Char) : Bool :=
  let code := char.toNat
  code = 0x09 || code = 0x0A || code = 0x0D || (0x20 ≤ code && code ≤ 0x7E) || code = 0x85 ||
    (0xA0 ≤ code && code ≤ 0xD7FF) || (0xE000 ≤ code && code ≤ 0xFFFD) || 0x10000 ≤ code

/-- Whether a condition holds of the first character, or there is none. -/
def startsOrEnds (condition : Char → Bool) : List Char → Bool
  | [] => true
  | char :: _ => condition char

/-- Whether a text is at its end, at a blank or at a break. -/
def atBlank (chars : List Char) : Bool :=
  startsOrEnds isBlankOrBreak chars

/-- Whether a text is at its end or at a break. -/
def atBreak (chars : List Char) : Bool :=
  startsOrEnds isBreak chars

/-- Whether a text starts with a character. -/
def startsWith (char : Char) (chars : List Char) : Bool :=
  chars.head? == some char

/-- Whether a text starts with a character that is followed by a blank. -/
def startsWord (char : Char) : List Char → Bool
  | [] => false
  | first :: rest => first == char && atBlank rest

/-- Whether a text starts with a mark between documents. -/
def atDocumentMark : List Char → Bool
  | '-' :: '-' :: '-' :: rest => atBlank rest
  | '.' :: '.' :: '.' :: rest => atBlank rest
  | _ => false

end Manifest.Yaml
