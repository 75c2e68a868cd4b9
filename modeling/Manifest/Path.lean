import Manifest.Text.Numeral
import Manifest.Text.Pieces

/-!
# Field paths

A path leads from the root of a document to one of its fields: names of
mapping fields and positions in sequences.  Its text separates names by dots
and writes positions in brackets, as in `spec.containers[0].image`.

Reading a text always succeeds: a bracket group that is not made of decimal
digits stays part of the name it follows.
-/

namespace Manifest

/-- One step of a path. -/
inductive Step where
  | field (name : String)
  | index (position : Nat)
deriving DecidableEq, Repr

/-- A location inside a document, from the root down. -/
abbrev Path := List Step

namespace Step

/-- Names come before positions; names are ordered by code points. -/
def compare : Step → Step → Ordering
  | field left, field right => Ord.compare left right
  | field _, index _ => .lt
  | index _, field _ => .gt
  | index left, index right => Ord.compare left right

instance : Ord Step := ⟨Step.compare⟩

/-- The text of a step that is not the first of its path. -/
def text : Step → String
  | field name => "." ++ name
  | index position => "[" ++ toString position ++ "]"

end Step

namespace Path

/-- The path extended by one step. -/
def push (path : Path) (step : Step) : Path :=
  path ++ [step]

/-- Paths are ordered step by step, a path before its extensions. -/
def compare (left right : Path) : Ordering :=
  List.compareLex Step.compare left right

/-- The text of the steps after the first one. -/
def tailText (steps : List Step) : String :=
  String.join (steps.map Step.text)

/-- The text of a path: a leading name has no dot before it. -/
def text : Path → String
  | .field name :: rest => name ++ tailText rest
  | steps => tailText steps

/--
The bracketed positions at the end of a segment.  The segment is given from its
last character to its first, and `found` holds the positions seen so far, in
the order of the text.
-/
def peelPositions : Nat → List Char → List Nat → List Char × List Nat
  | 0, backwards, found => (backwards, found)
  | fuel + 1, backwards, found =>
      match backwards with
      | ']' :: inside =>
          match inside.dropWhile (· != '[') with
          | '[' :: front =>
              match Text.digitsPosition? (inside.takeWhile (· != '[')).reverse with
              | some position => peelPositions fuel front (position :: found)
              | none => (backwards, found)
          | _ => (backwards, found)
      | _ => (backwards, found)

/--
The steps of one dot-separated segment: its name, unless only positions are
left of it, and then its positions.
-/
def segmentSteps (segment : List Char) : List Step :=
  match peelPositions segment.length segment.reverse [] with
  | (backwards, positions) =>
      let name : List Step :=
        if backwards.isEmpty && !positions.isEmpty then []
        else [.field (String.ofList backwards.reverse)]
      name ++ positions.map Step.index

/-- The path that a text denotes. -/
def parse (text : String) : Path :=
  (Text.pieces '.' text.toList).flatMap segmentSteps

example : parse "a[x][2].b" = [.field "a[x]", .index 2, .field "b"] := by decide

example : text (parse "spec.containers[0].image") = "spec.containers[0].image" := by decide

end Path

end Manifest
