import Manifest.Pattern.Assertion

/-!
# Patterns

A pattern describes texts.  The functions of this module build patterns in a
normal form: texts that follow each other are one text, sequences and
alternatives are not nested, alternatives between single characters are one
set, what all alternatives start with stands before them, and what describes the
empty text only is not repeated.
-/

namespace Manifest

/-- A pattern. -/
inductive Pattern where
  | empty
  | literal (chars : List Char)
  | one (set : Text.CodeSet)
  | assertion (condition : Assertion)
  /-- A pattern several times in a row, without an upper bound if there is no `most`. -/
  | repeated (inner : Pattern) (least : Nat) (most : Option Nat) (isGreedy : Bool)
  | capture (index : Nat) (inner : Pattern)
  | concat (parts : List Pattern)
  | alternate (branches : List Pattern)
deriving Repr, Inhabited

namespace Pattern

mutual

/-- Whether two patterns are the same. -/
def same : Pattern → Pattern → Bool
  | empty, empty => true
  | literal left, literal right => left = right
  | one left, one right => left = right
  | assertion left, assertion right => left = right
  | repeated left leftLeast leftMost leftGreedy, repeated right rightLeast rightMost rightGreedy =>
      leftLeast = rightLeast && leftMost = rightMost && leftGreedy = rightGreedy && same left right
  | capture leftIndex left, capture rightIndex right => leftIndex = rightIndex && same left right
  | concat left, concat right => sameList left right
  | alternate left, alternate right => sameList left right
  | _, _ => false

/-- Whether two lists of patterns are the same. -/
def sameList : List Pattern → List Pattern → Bool
  | [], [] => true
  | left :: lefts, right :: rights => same left right && sameList lefts rights
  | _, _ => false

end

mutual

/-- Whether a pattern describes no other text than the empty one. -/
def isEmptyOnly : Pattern → Bool
  | empty => true
  | literal chars => chars.isEmpty
  | one _ => false
  | assertion _ => true
  | repeated inner _ most _ => most.isSome && inner.isEmptyOnly
  | capture _ inner => inner.isEmptyOnly
  | concat parts => areEmptyOnly parts
  | alternate branches => areEmptyOnly branches

/-- Whether some patterns describe no other text than the empty one. -/
def areEmptyOnly : List Pattern → Bool
  | [] => true
  | first :: rest => first.isEmptyOnly && areEmptyOnly rest

end

mutual

/-- The length of the shortest text that a pattern describes; none where a set has no members. -/
def shortest? : Pattern → Option Nat
  | empty => some 0
  | literal chars => some chars.length
  | one set => if set.ranges.isEmpty then none else some 1
  | assertion _ => some 0
  | repeated inner least _ _ => inner.shortest?.map (least * ·)
  | capture _ inner => inner.shortest?
  | concat parts => shortestSum? parts
  | alternate branches => shortestOf? branches

/-- The sum of the shortest lengths of some patterns. -/
def shortestSum? : List Pattern → Option Nat
  | [] => some 0
  | first :: rest =>
      match first.shortest?, shortestSum? rest with
      | some length, some others => some (length + others)
      | _, _ => none

/-- The least of the shortest lengths of some patterns. -/
def shortestOf? : List Pattern → Option Nat
  | [] => none
  | [only] => only.shortest?
  | first :: rest =>
      match first.shortest?, shortestOf? rest with
      | some length, some others => some (min length others)
      | _, _ => none

end

/-- Whether all texts that a pattern describes have characters. -/
def isNeverEmpty (pattern : Pattern) : Bool :=
  pattern.shortest?.any (0 < ·)

mutual

/-- Whether every match of a pattern starts with an assertion. -/
def startsWith (condition : Assertion) : Pattern → Bool
  | assertion found => found = condition
  | repeated inner least _ _ => 0 < least && inner.startsWith condition
  | capture _ inner => inner.startsWith condition
  | concat parts => anyStartsWith condition parts
  | alternate branches => allStartWith condition branches
  | _ => false

/-- Whether one of the patterns up to the first that has characters starts with an assertion. -/
def anyStartsWith (condition : Assertion) : List Pattern → Bool
  | [] => false
  | first :: rest =>
      first.startsWith condition || (first.isEmptyOnly && anyStartsWith condition rest)

/-- Whether all of some patterns start with an assertion. -/
def allStartWith (condition : Assertion) : List Pattern → Bool
  | [] => true
  | first :: rest => first.startsWith condition && allStartWith condition rest

end

mutual

/-- Whether every match of a pattern ends with an assertion. -/
def endsWith (condition : Assertion) : Pattern → Bool
  | assertion found => found = condition
  | repeated inner least _ _ => 0 < least && inner.endsWith condition
  | capture _ inner => inner.endsWith condition
  | concat parts => anyEndsWith condition parts
  | alternate branches => allEndWith condition branches
  | _ => false

/-- Whether one of the patterns from the last that has characters on ends with an assertion. -/
def anyEndsWith (condition : Assertion) : List Pattern → Bool
  | [] => false
  | first :: rest =>
      anyEndsWith condition rest || (areEmptyOnly rest && first.endsWith condition)

/-- Whether all of some patterns end with an assertion. -/
def allEndWith (condition : Assertion) : List Pattern → Bool
  | [] => true
  | first :: rest => first.endsWith condition && allEndWith condition rest

end

/-- The parts of a pattern that follow each other. -/
def parts : Pattern → List Pattern
  | empty => []
  | concat parts => parts
  | other => [other]

/-- The alternatives of a pattern. -/
def branches : Pattern → List Pattern
  | alternate branches => branches
  | other => [other]

/-- The pattern before some others, joined with the first one if both are texts. -/
def prepend : Pattern → List Pattern → List Pattern
  | literal chars, literal others :: rest => literal (chars ++ others) :: rest
  | first, rest => first :: rest

/-- Some patterns one after the other. -/
def sequence (patterns : List Pattern) : Pattern :=
  match (patterns.flatMap parts).foldr prepend [] with
  | [] => empty
  | [only] => only
  | parts => concat parts

/-- One character of a set, which is a text if the set has only one. -/
def ofSet (set : Text.CodeSet) : Pattern :=
  match set.onlyChar? with
  | some char => literal [char]
  | none => one set

/-- The character that a pattern consists of. -/
def singleChar? : Pattern → Option Char
  | literal [char] => some char
  | _ => none

/-- The set that a pattern consists of. -/
def set? : Pattern → Option Text.CodeSet
  | one set => some set
  | _ => none

/-- Any of some patterns, of which at least two are given and none has alternatives itself. -/
def choice (branches : List Pattern) : Pattern :=
  match branches.mapM singleChar? with
  | some chars => ofSet (.unionAll (chars.map fun char => .single char.toNat))
  | none =>
      match branches.mapM set? with
      | some sets => ofSet (.unionAll sets)
      | none => alternate branches

/-- The parts that two lists of patterns start with. -/
def commonParts : List Pattern → List Pattern → List Pattern
  | left :: lefts, right :: rights =>
      if same left right then left :: commonParts lefts rights else []
  | _, _ => []

/-- The parts of a sequence of at least two patterns. -/
def concatParts? : Pattern → Option (List Pattern)
  | concat parts => some parts
  | _ => none

/-- What all of some sequences start with, if all patterns are sequences. -/
def sharedParts (branches : List Pattern) : List Pattern :=
  match branches.mapM concatParts? with
  | some (first :: rest) => rest.foldl commonParts first
  | _ => []

/-- Any of some patterns; what all of them start with stands before. -/
def anyOf (patterns : List Pattern) : Pattern :=
  match patterns.flatMap branches with
  | [only] => only
  | found =>
      match choice found, sharedParts found with
      | alternate _, first :: rest =>
          let shared := first :: rest
          let behind := found.map fun branch => sequence (branch.parts.drop shared.length)
          sequence (shared ++ [choice (behind.flatMap branches)])
      | other, _ => other

/-- A pattern several times in a row. -/
def times (inner : Pattern) (least : Nat) (most : Option Nat) (isGreedy : Bool) : Pattern :=
  let least := if inner.isEmptyOnly then min least 1 else least
  let most := if inner.isEmptyOnly then some ((most.map (min 1)).getD 1) else most
  if least = 0 && most = some 0 then empty
  else if least = 1 && most = some 1 then inner
  else repeated inner least most isGreedy

end Pattern

end Manifest
