/-!
# The notation of patterns

The written form of a pattern as a tree: what stands beside each other, what a
repetition or a parenthesis is put around, and the items of brackets.  Nothing
is known yet of what the parts mean, which flags decide.

The depth of the tree is limited.  The smallest parts count nothing; everything
that holds other parts counts one level.
-/

namespace Manifest.Pattern

/-- A letter that changes what parts of a pattern mean. -/
inductive Flag where
  | ignoreCase
  /-- The marks of the ends of the text match at ends of lines too. -/
  | multiLine
  | dotMatchesBreak
  | swapGreed
  | allScripts
  | withReturns
  | verbose
deriving DecidableEq, Repr, Inhabited

/-- A flag that is switched on or off. -/
structure FlagChange where
  flag : Flag
  isOn : Bool
deriving DecidableEq, Repr, Inhabited

/-- A character that stands for itself; `isByte` where it is written as two digits of base
sixteen, which denote a byte unless classes are those of all scripts. -/
structure Literal where
  char : Char
  isByte : Bool := false
deriving DecidableEq, Repr, Inhabited

/-- A sign for a condition on a position. -/
inductive Mark where
  | caret
  | dollar
  | textStart
  | textEnd
  | boundary
  | noBoundary
  | wordStart
  | wordEnd
  | noWordBefore
  | noWordAfter
deriving DecidableEq, Repr, Inhabited

/-- A class of characters that one letter denotes. -/
inductive Shorthand where
  | digit
  | blank
  | word
deriving DecidableEq, Repr, Inhabited

/-- A class of characters of ASCII that has a name inside brackets. -/
inductive AsciiClass where
  | alnum
  | alpha
  | ascii
  | blank
  | cntrl
  | digit
  | graph
  | lower
  | print
  | punct
  | space
  | upper
  | word
  | xdigit
deriving DecidableEq, Repr, Inhabited

/-- An operation on classes. -/
inductive ClassOperation where
  | intersection
  | difference
  | symmetricDifference
deriving DecidableEq, Repr, Inhabited

/-- The written form of a class of characters. -/
inductive ClassNotation where
  | empty
  | literal (literal : Literal)
  | range (first last : Literal)
  | named (kind : AsciiClass) (isNegated : Bool)
  | shorthand (kind : Shorthand) (isNegated : Bool)
  | property (name : List Char) (isNegated : Bool)
  | bracketed (inner : ClassNotation) (isNegated : Bool)
  | union (items : List ClassNotation)
  | operation (kind : ClassOperation) (left right : ClassNotation)
deriving Repr, Inhabited

/-- What a parenthesis is for. -/
inductive GroupKind where
  | numbered (index : Nat)
  | flagged (changes : List FlagChange)
deriving DecidableEq, Repr, Inhabited

/-- The written form of a pattern. -/
inductive Notation where
  | empty
  | flags (changes : List FlagChange)
  | literal (literal : Literal)
  | dot
  | mark (mark : Mark)
  | oneOf (kind : ClassNotation)
  /-- A part several times in a row; `isLazy` if it is marked to prefer few rounds. -/
  | repeated (inner : Notation) (least : Nat) (most : Option Nat) (isLazy : Bool)
  | group (kind : GroupKind) (inner : Notation)
  | concat (parts : List Notation)
  | alternatives (branches : List Notation)
deriving Repr, Inhabited

namespace ClassNotation

/-- Items of brackets as one class. -/
def ofItems : List ClassNotation → ClassNotation
  | [] => empty
  | [only] => only
  | items => union items

mutual

/-- The number of levels of a class. -/
def depth : ClassNotation → Nat
  | bracketed inner _ => inner.depth + 1
  | union items => depthOf items + 1
  | operation _ left right => max left.depth right.depth + 1
  | _ => 0

/-- The greatest number of levels of some classes. -/
def depthOf : List ClassNotation → Nat
  | [] => 0
  | first :: rest => max first.depth (depthOf rest)

end

end ClassNotation

namespace Notation

/-- Parts that stand one after the other. -/
def ofParts : List Notation → Notation
  | [] => empty
  | [only] => only
  | parts => concat parts

/-- Parts of which any one is meant. -/
def ofBranches : List Notation → Notation
  | [only] => only
  | branches => alternatives branches

/-- Whether a repetition can be put behind a part. -/
def isRepeatable : Notation → Bool
  | empty => false
  | flags _ => false
  | _ => true

mutual

/-- The number of levels of a pattern. -/
def depth : Notation → Nat
  | oneOf kind => kind.depth
  | repeated inner _ _ _ => inner.depth + 1
  | group _ inner => inner.depth + 1
  | concat parts => depthOf parts + 1
  | alternatives branches => depthOf branches + 1
  | _ => 0

/-- The greatest number of levels of some patterns. -/
def depthOf : List Notation → Nat
  | [] => 0
  | first :: rest => max first.depth (depthOf rest)

end

/-- The greatest number of levels that a pattern may have. -/
def depthLimit : Nat :=
  250

end Notation

end Manifest.Pattern
