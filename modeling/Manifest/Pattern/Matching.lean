import Manifest.Pattern.Basic

/-!
# Matching

The meaning of a pattern is given by positions: from each of some positions of a
text, a pattern leads to the positions behind the stretches that it matches.
Since only the positions count, it makes no difference whether a repetition
prefers few or many rounds.

A set of positions is a number whose bits tell which positions are members.  A
pattern is applied to several sets at once, and a repetition applies what is
repeated to the sets of one position each, once and for all.  So no part of a
pattern is looked at twice, however deep repetitions are nested.

A repetition needs no more rounds than the text has positions: a longer walk
repeats a position, where it can be cut or prolonged.
-/

namespace Manifest

/-- A set of positions: its members are the positions of the bits that are set. -/
abbrev Positions := Nat

namespace Positions

/-- The set without members. -/
def none : Positions := 0

/-- The set of one position. -/
def single (position : Nat) : Positions := 1 <<< position

/-- Whether a position is a member. -/
def has (set : Positions) (position : Nat) : Bool := set.testBit position

/-- The members of either set. -/
def union (left right : Positions) : Positions := left ||| right

/-- The members of both sets. -/
def intersection (left right : Positions) : Positions := left &&& right

/-- The positions behind the members. -/
def next (set : Positions) : Positions := set <<< 1

/-- The members of the left set only. -/
def difference (left right : Positions) : Positions := left ^^^ (left &&& right)

/-- The set whose members are told by a list. -/
def ofFlags : List Bool → Positions
  | [] => 0
  | flag :: rest => (ofFlags rest <<< 1) ||| flag.toNat

/-- The union of some of the sets of a list: those whose positions in the list are members. -/
def select (members : Positions) : List Positions → Positions
  | [] => 0
  | set :: rest =>
      let others := select (members >>> 1) rest
      if members.testBit 0 then union set others else others

end Positions

namespace Pattern

/-- The positions of a text at which a character of a set stands. -/
def standing (text : List Char) (set : Text.CodeSet) : Positions :=
  .ofFlags (text.map set.has)

/-- What a condition looks at: the character before each position, `before` being that before the
first one, and the character behind. -/
def flagsBetween (condition : Assertion) (before : Option Char) : List Char → List Bool
  | [] => [condition.between before none]
  | char :: rest =>
      condition.between before (some char) :: flagsBetween condition (some char) rest

/-- The positions of a text at which a condition holds. -/
def holding (text : List Char) (condition : Assertion) : Positions :=
  .ofFlags (flagsBetween condition none text)

/-- The positions behind a text that stands at some positions. -/
def behindLiteral (text : List Char) (positions : Positions) : List Char → Positions
  | [] => positions
  | char :: rest =>
      behindLiteral text (positions.intersection (standing text (.single char.toNat))).next rest

/-- What a step leads to when it is done a number of times. -/
def walk (step : List Positions) : Nat → Positions → Positions
  | 0, positions => positions
  | count + 1, positions =>
      if positions = Positions.none then positions else walk step count (positions.select step)

/-- What a step leads to when it is done at most a number of times: `reached`, and what it leads to
from those of them that are `recent`. -/
def spread (step : List Positions) : (count : Nat) → (reached recent : Positions) → Positions
  | 0, reached, _ => reached
  | count + 1, reached, recent =>
      if recent = Positions.none then reached
      else
        let further := (recent.select step).difference reached
        spread step count (reached.union further) further

/-- The number of rounds after which further ones reach nothing new. -/
def roundBound (text : List Char) : Nat :=
  text.length + 1

/-- The positions that a step leads to when it is done from `least` to `most` times. -/
def repeatedly (text : List Char) (step : List Positions) (least : Nat) (most : Option Nat)
    (positions : Positions) : Positions :=
  let bound := roundBound text
  let start := walk step (min least bound) positions
  spread step (most.elim bound fun most => min (most - least) bound) start start

/-- The sets of one position each. -/
def origins (text : List Char) : List Positions :=
  (List.range (text.length + 1)).map Positions.single

mutual

/-- The positions of a text behind the matches of a pattern that start at given positions, for
each of some sets of these. -/
def advance (text : List Char) : Pattern → List Positions → List Positions
  | empty, sets => sets
  | literal chars, sets => sets.map fun positions => behindLiteral text positions chars
  | one set, sets =>
      let places := standing text set
      sets.map fun positions => (positions.intersection places).next
  | assertion condition, sets =>
      let places := holding text condition
      sets.map fun positions => positions.intersection places
  | repeated inner least most _, sets =>
      let step := advance text inner (origins text)
      sets.map (repeatedly text step least most)
  | capture _ inner, sets => advance text inner sets
  | concat parts, sets => advanceAll text parts sets
  | alternate branches, sets => advanceAny text branches sets

/-- The positions behind the matches of some patterns in a row. -/
def advanceAll (text : List Char) : List Pattern → List Positions → List Positions
  | [], sets => sets
  | first :: rest, sets => advanceAll text rest (advance text first sets)

/-- The positions behind the matches of any of some patterns. -/
def advanceAny (text : List Char) : List Pattern → List Positions → List Positions
  | [], sets => sets.map fun _ => Positions.none
  | first :: rest, sets =>
      List.zipWith Positions.union (advance text first sets) (advanceAny text rest sets)

end

/-- The positions of a text behind the matches of a pattern that start at given positions. -/
def ends (pattern : Pattern) (text : List Char) (positions : Positions) : Positions :=
  (pattern.advance text [positions]).foldl Positions.union Positions.none

/-- Whether a pattern matches some stretch of a text. -/
def occursIn (pattern : Pattern) (text : String) : Bool :=
  let chars := text.toList
  pattern.ends chars (.ofFlags (List.replicate (chars.length + 1) true)) != Positions.none

/-- Whether a pattern matches a text as a whole. -/
def matchesWhole (pattern : Pattern) (text : String) : Bool :=
  let chars := text.toList
  (pattern.ends chars (.single 0)).has chars.length

end Pattern

end Manifest
