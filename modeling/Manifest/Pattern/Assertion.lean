import Manifest.Text.Letter

/-!
# Assertions

Conditions on a position of a text.  They look at the characters before and
behind the position only.
-/

namespace Manifest

/-- A condition on a position of a text. -/
inductive Assertion where
  | textStart
  | textEnd
  /-- A line starts here; carriage returns end lines too if `withReturns`. -/
  | lineStart (withReturns : Bool)
  /-- A line ends here; carriage returns end lines too if `withReturns`. -/
  | lineEnd (withReturns : Bool)
  | wordBoundary (asciiOnly : Bool)
  | noWordBoundary (asciiOnly : Bool)
  | wordStart (asciiOnly : Bool)
  | wordEnd (asciiOnly : Bool)
  | noWordBefore (asciiOnly : Bool)
  | noWordAfter (asciiOnly : Bool)
deriving DecidableEq, Repr, Inhabited

namespace Assertion

/-- Whether a character of a word, as far as there is a character. -/
def isWord (asciiOnly : Bool) (char : Option Char) : Bool :=
  char.any fun found =>
    if asciiOnly then found.isAlphanum || found = '_' else Text.isWordChar found

/-- Whether a condition holds between two characters. -/
def between (before after : Option Char) : Assertion → Bool
  | textStart => before.isNone
  | textEnd => after.isNone
  | lineStart withReturns =>
      before.isNone || before == some '\n' ||
        (withReturns && before == some '\r' && after != some '\n')
  | lineEnd withReturns =>
      after.isNone ||
        (if withReturns then
          after == some '\r' || (after == some '\n' && before != some '\r')
        else after == some '\n')
  | wordBoundary asciiOnly => isWord asciiOnly before != isWord asciiOnly after
  | noWordBoundary asciiOnly => isWord asciiOnly before == isWord asciiOnly after
  | wordStart asciiOnly => !isWord asciiOnly before && isWord asciiOnly after
  | wordEnd asciiOnly => isWord asciiOnly before && !isWord asciiOnly after
  | noWordBefore asciiOnly => !isWord asciiOnly before
  | noWordAfter asciiOnly => !isWord asciiOnly after

end Assertion

end Manifest
