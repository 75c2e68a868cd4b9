/-!
# Blank characters

The Unicode property `White_Space`, and the trimming of a text by it.  Label
expressions separate their words by these characters, and the names of
behaviors and the inline patches of a configuration are trimmed by them.
-/

namespace Manifest.Text

/-- Ranges of code points with the property `White_Space`, both ends included. -/
def blankRanges : List (Nat × Nat) :=
  [(0x9, 0xD), (0x20, 0x20), (0x85, 0x85), (0xA0, 0xA0), (0x1680, 0x1680),
    (0x2000, 0x200A), (0x2028, 0x2029), (0x202F, 0x202F), (0x205F, 0x205F),
    (0x3000, 0x3000)]

/-- Membership of a code point in a list of closed ranges. -/
def inRanges (ranges : List (Nat × Nat)) (code : Nat) : Bool :=
  ranges.any fun range => range.1 ≤ code && code ≤ range.2

/-- A character with the property `White_Space`. -/
def isBlank (char : Char) : Bool :=
  inRanges blankRanges char.toNat

/-- A list of characters without its leading blanks. -/
def trimStart (chars : List Char) : List Char :=
  chars.dropWhile isBlank

/-- A list of characters without its trailing blanks. -/
def trimEnd (chars : List Char) : List Char :=
  (trimStart chars.reverse).reverse

/-- A text without its leading and trailing blanks. -/
def trim (text : String) : String :=
  String.ofList (trimEnd (trimStart text.toList))

/-- A text of blanks only, the empty text included. -/
def isAllBlank (text : String) : Bool :=
  text.toList.all isBlank

/-- Lower case for the letters of ASCII; every other character stays. -/
def asciiLower (text : String) : String :=
  String.ofList (text.toList.map Char.toLower)

end Manifest.Text
