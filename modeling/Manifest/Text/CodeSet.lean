import Manifest.Text.CodeRun

/-!
# Sets of code points

A set of code points is kept as the list of the code points at which membership
changes, in ascending order: the first one is the least member, the next one the
first code point behind it that is no member, and so on.  Every operation on two
sets is then one sweep over both lists, and equal sets have equal lists.
-/

namespace Manifest.Text

/-- A set of code points. -/
structure CodeSet where
  /-- The code points at which membership changes, in ascending order. -/
  changes : List Nat
deriving DecidableEq, Repr, Inhabited

namespace CodeSet

/-- Whether a code point is inside, where membership changes at some code points and starts out
as `inside`. -/
def insideAt (inside : Bool) : List Nat → Nat → Bool
  | [], _ => inside
  | change :: rest, code => if code < change then inside else insideAt (!inside) rest code

/-- Whether a set has a code point. -/
def hasCode (set : CodeSet) (code : Nat) : Bool :=
  insideAt false set.changes code

/-- Whether a set has a character. -/
def has (set : CodeSet) (char : Char) : Bool :=
  set.hasCode char.toNat

/-- The changes of what an operation makes of two memberships, in a sweep that has come to the
given changes; `inLeft` and `inRight` are the memberships before them. -/
def sweep (operation : Bool → Bool → Bool) (inLeft inRight : Bool) :
    List Nat → List Nat → List Nat
  | [], right =>
      if operation inLeft false = operation inLeft true then [] else right
  | left, [] =>
      if operation false inRight = operation true inRight then [] else left
  | left :: lefts, right :: rights =>
      if left < right then
        let rest := sweep operation (!inLeft) inRight lefts (right :: rights)
        if operation inLeft inRight = operation (!inLeft) inRight then rest else left :: rest
      else if right < left then
        let rest := sweep operation inLeft (!inRight) (left :: lefts) rights
        if operation inLeft inRight = operation inLeft (!inRight) then rest else right :: rest
      else
        let rest := sweep operation (!inLeft) (!inRight) lefts rights
        if operation inLeft inRight = operation (!inLeft) (!inRight) then rest else left :: rest
termination_by left right => left.length + right.length

/-- The set without members. -/
def empty : CodeSet := ⟨[]⟩

/-- The set of one code point. -/
def single (code : Nat) : CodeSet := ⟨[code, code + 1]⟩

/-- The code points from `first` to `last`. -/
def between (first last : Nat) : CodeSet :=
  if first ≤ last then ⟨[first, last + 1]⟩ else empty

/-- All code points. -/
def all : CodeSet := ⟨[0]⟩

/-- The code points of ASCII. -/
def ascii : CodeSet := ⟨[0, 0x80]⟩

/-- The members of either set. -/
def union (left right : CodeSet) : CodeSet :=
  ⟨sweep or false false left.changes right.changes⟩

/-- The members of both sets. -/
def intersection (left right : CodeSet) : CodeSet :=
  ⟨sweep and false false left.changes right.changes⟩

/-- The members of the left set only. -/
def difference (left right : CodeSet) : CodeSet :=
  ⟨sweep (fun inLeft inRight => inLeft && !inRight) false false left.changes right.changes⟩

/-- The members of exactly one set. -/
def symmetricDifference (left right : CodeSet) : CodeSet :=
  ⟨sweep xor false false left.changes right.changes⟩

/-- All other code points. -/
def complement (set : CodeSet) : CodeSet :=
  match set.changes with
  | 0 :: rest => ⟨rest⟩
  | changes => ⟨0 :: changes⟩

/-- The complement of a set, if asked for. -/
def negatedIf (negated : Bool) (set : CodeSet) : CodeSet :=
  if negated then set.complement else set

/-- The members of any of some sets. -/
def unionAll (sets : List CodeSet) : CodeSet :=
  sets.foldr union empty

/-- The code points of a run. -/
def ofRun (run : CodeRun) : CodeSet :=
  if run.step = 1 then between run.first run.last
  else ⟨run.codes.flatMap fun code => [code, code + 1]⟩

/-- The code points of some runs. -/
def ofRuns (runs : List CodeRun) : CodeSet :=
  unionAll (runs.map ofRun)

/-- The code points of some closed ranges. -/
def ofRanges (ranges : List (Nat × Nat)) : CodeSet :=
  unionAll (ranges.map fun (first, last) => between first last)

/-- The closed ranges between changes, up to the code point before `bound`. -/
def rangesOf (bound : Nat) : List Nat → List (Nat × Nat)
  | first :: behind :: rest => (first, behind - 1) :: rangesOf bound rest
  | [first] => [(first, bound - 1)]
  | [] => []

/-- The first code point that stands for no character, between those that do. -/
def surrogateStart : Nat := 0xD800

/-- The code point behind those that stand for no character. -/
def surrogateEnd : Nat := 0xE000

/-- The code point behind the last character. -/
def codeEnd : Nat := 0x110000

/-- The characters of a set as closed ranges in ascending order. -/
def ranges (set : CodeSet) : List (Nat × Nat) :=
  rangesOf codeEnd
    (set.difference ⟨[surrogateStart, surrogateEnd, codeEnd]⟩).changes

/-- The only member of a set that has exactly one. -/
def onlyChar? (set : CodeSet) : Option Char :=
  match set.ranges with
  | [(first, last)] => if first = last then some (Char.ofNat first) else none
  | _ => none

/-- Whether all members of a set are characters of ASCII. -/
def isAscii (set : CodeSet) : Bool :=
  set.ranges.all (·.2 < 0x80)

example : (between 3 5).union (between 6 9) = between 3 9 := by
  simp [union, between, sweep]

end CodeSet

end Manifest.Text
