import Manifest.Pattern.Basic
import Manifest.Pattern.Notation
import Manifest.Pattern.Property
import Manifest.Text.CaseFold

/-!
# What the notation means

A notation is turned into a pattern.  A flag holds up to the end of the group in
which it is set, also in the alternatives behind it.  While classes are those of
ASCII, a class must not have other characters: it could match a part of one
only.
-/

namespace Manifest.Pattern

open Text (CodeSet)

/-- The flags that hold at a place. -/
structure Flags where
  ignoresCase : Bool := false
  /-- The marks of the ends of the text match at ends of lines too. -/
  multiLine : Bool := false
  dotMatchesBreak : Bool := false
  swapsGreed : Bool := false
  withReturns : Bool := false
  asciiOnly : Bool := false
deriving DecidableEq, Repr, Inhabited

namespace Flags

/-- The flags behind a change; blanks and comments are of no concern any more. -/
def change (flags : Flags) (change : FlagChange) : Flags :=
  match change.flag with
  | .ignoreCase => { flags with ignoresCase := change.isOn }
  | .multiLine => { flags with multiLine := change.isOn }
  | .dotMatchesBreak => { flags with dotMatchesBreak := change.isOn }
  | .swapGreed => { flags with swapsGreed := change.isOn }
  | .withReturns => { flags with withReturns := change.isOn }
  | .allScripts => { flags with asciiOnly := !change.isOn }
  | .verbose => flags

/-- The flags behind some changes. -/
def changeAll (flags : Flags) (changes : List FlagChange) : Flags :=
  changes.foldl change flags

/-- A set that takes the case flag into account. -/
def cased (flags : Flags) (set : CodeSet) : CodeSet :=
  if flags.ignoresCase then
    if flags.asciiOnly then set.foldAsciiCase else set.foldCase
  else set

/-- A set, unless it has other characters than those of ASCII while they are not wanted. -/
def allowed? (flags : Flags) (set : CodeSet) : Option CodeSet :=
  if flags.asciiOnly && !set.isAscii then none else some set

end Flags

/-- The digits. -/
def Shorthand.set (asciiOnly : Bool) : Shorthand → CodeSet
  | digit => if asciiOnly then .between 0x30 0x39 else Text.decimalNumbers
  | blank =>
      if asciiOnly then .ofRanges [(0x09, 0x0D), (0x20, 0x20)] else Text.blanks
  | word =>
      if asciiOnly then .ofRanges [(0x30, 0x39), (0x41, 0x5A), (0x5F, 0x5F), (0x61, 0x7A)]
      else Text.wordChars

/-- The characters of a class of ASCII. -/
def AsciiClass.set : AsciiClass → CodeSet
  | alnum => .ofRanges [(0x30, 0x39), (0x41, 0x5A), (0x61, 0x7A)]
  | alpha => .ofRanges [(0x41, 0x5A), (0x61, 0x7A)]
  | ascii => .between 0x00 0x7F
  | blank => .ofRanges [(0x09, 0x09), (0x20, 0x20)]
  | cntrl => .ofRanges [(0x00, 0x1F), (0x7F, 0x7F)]
  | digit => .between 0x30 0x39
  | graph => .between 0x21 0x7E
  | lower => .between 0x61 0x7A
  | print => .between 0x20 0x7E
  | punct => .ofRanges [(0x21, 0x2F), (0x3A, 0x40), (0x5B, 0x60), (0x7B, 0x7E)]
  | space => .ofRanges [(0x09, 0x0D), (0x20, 0x20)]
  | upper => .between 0x41 0x5A
  | word => .ofRanges [(0x30, 0x39), (0x41, 0x5A), (0x5F, 0x5F), (0x61, 0x7A)]
  | xdigit => .ofRanges [(0x30, 0x39), (0x41, 0x46), (0x61, 0x66)]

/-- What an operation makes of two sets. -/
def ClassOperation.apply : ClassOperation → CodeSet → CodeSet → CodeSet
  | intersection, left, right => left.intersection right
  | difference, left, right => left.difference right
  | symmetricDifference, left, right => left.symmetricDifference right

/-- The code point of a character that stands for itself inside brackets. -/
def Literal.code? (flags : Flags) (literal : Literal) : Option Nat :=
  if flags.asciiOnly && 0x80 ≤ literal.char.toNat then none else some literal.char.toNat

namespace ClassNotation

mutual

/-- The set of characters that a class denotes. A class is closed under changes of case, if these
do not count, before its complement is taken. -/
def set? (flags : Flags) : ClassNotation → Option CodeSet
  | empty => some .empty
  | literal char => (char.code? flags).map .single
  | range first last =>
      match first.code? flags, last.code? flags with
      | some low, some high => some (.between low high)
      | _, _ => none
  | named kind isNegated => flags.allowed? ((flags.cased kind.set).negatedIf isNegated)
  | shorthand kind isNegated => flags.allowed? ((kind.set flags.asciiOnly).negatedIf isNegated)
  | property name isNegated =>
      if flags.asciiOnly then none
      else
        (Property.ofText? name).map fun (set, isOther) =>
          (flags.cased set).negatedIf (isNegated != isOther)
  | bracketed inner isNegated =>
      (inner.set? flags).bind fun set => flags.allowed? ((flags.cased set).negatedIf isNegated)
  | union items => unionSet? flags items
  | operation kind left right =>
      match left.set? flags, right.set? flags with
      | some lefts, some rights => some (kind.apply (flags.cased lefts) (flags.cased rights))
      | _, _ => none

/-- The set of the characters of some classes. -/
def unionSet? (flags : Flags) : List ClassNotation → Option CodeSet
  | [] => some .empty
  | first :: rest =>
      match first.set? flags, unionSet? flags rest with
      | some set, some others => some (set.union others)
      | _, _ => none

end

end ClassNotation

/-- The condition that a sign stands for. -/
def Mark.assertion (flags : Flags) : Mark → Assertion
  | caret => if flags.multiLine then .lineStart flags.withReturns else .textStart
  | dollar => if flags.multiLine then .lineEnd flags.withReturns else .textEnd
  | textStart => .textStart
  | textEnd => .textEnd
  | boundary => .wordBoundary flags.asciiOnly
  | noBoundary => .noWordBoundary flags.asciiOnly
  | wordStart => .wordStart flags.asciiOnly
  | wordEnd => .wordEnd flags.asciiOnly
  | noWordBefore => .noWordBefore flags.asciiOnly
  | noWordAfter => .noWordAfter flags.asciiOnly

/-- The pattern of a character that stands for itself. -/
def Literal.pattern? (flags : Flags) (literal : Literal) : Option Pattern :=
  if flags.asciiOnly && literal.isByte && 0x80 ≤ literal.char.toNat then none
  else some (ofSet (flags.cased (.single literal.char.toNat)))

/-- The set of the characters that the dot stands for. -/
def Flags.dotSet (flags : Flags) : CodeSet :=
  if flags.dotMatchesBreak then .all
  else if flags.withReturns then (CodeSet.ofRanges [(0x0A, 0x0A), (0x0D, 0x0D)]).complement
  else (CodeSet.single 0x0A).complement

namespace Notation

mutual

/-- The pattern that a notation denotes, and the flags behind it. -/
def pattern? (flags : Flags) : Notation → Option (Pattern × Flags)
  | empty => some (.empty, flags)
  | .flags changes => some (.empty, flags.changeAll changes)
  | literal char => (char.pattern? flags).map fun pattern => (pattern, flags)
  | dot => (flags.allowed? flags.dotSet).map fun set => (.one set, flags)
  | mark sign => some (.assertion (sign.assertion flags), flags)
  | oneOf kind => (kind.set? flags).map fun set => (ofSet set, flags)
  | repeated inner least most isLazy =>
      (inner.pattern? flags).map fun (pattern, behind) =>
        (pattern.times least most (isLazy = behind.swapsGreed), behind)
  | group kind inner =>
      match kind with
      | .numbered index =>
          (inner.pattern? flags).map fun (pattern, _) => (.capture index pattern, flags)
      | .flagged changes =>
          (inner.pattern? (flags.changeAll changes)).map fun (pattern, _) => (pattern, flags)
  | concat parts =>
      (patterns? flags parts).map fun (patterns, behind) => (Pattern.sequence patterns, behind)
  | alternatives branches =>
      (patterns? flags branches).map fun (patterns, behind) => (Pattern.anyOf patterns, behind)

/-- The patterns that some notations denote, each with the flags behind the one before, and the
flags behind the last one. -/
def patterns? (flags : Flags) : List Notation → Option (List Pattern × Flags)
  | [] => some ([], flags)
  | first :: rest =>
      match first.pattern? flags with
      | some (pattern, behind) =>
          (patterns? behind rest).map fun (patterns, last) => (pattern :: patterns, last)
      | none => none

end

end Notation

end Manifest.Pattern
