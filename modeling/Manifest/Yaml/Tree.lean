import Manifest.Node.Decode
import Manifest.Yaml.Atom

/-!
# Resolved YAML trees

A tree is a document whose scalars are resolved and whose aliases are replaced
by what they refer to.  Keys of mappings are trees.  A scalar keeps its
spelling, which does not count when trees are compared.  Only tags with a mark
in front, which have no meaning of their own, are left in a tree.
-/

namespace Manifest.Yaml

/-- A resolved document. -/
inductive Tree where
  /-- What a scalar stands for, and how it was written. -/
  | scalar (atom : Atom) (spelling : String)
  | sequence (items : List Tree)
  | mapping (entries : List (Tree × Tree))
  | tagged (tag : String) (inner : Tree)
deriving Repr, Inhabited

namespace Tree

/-- The tree of nothing. -/
def null : Tree := scalar .null ""

/-- The tree of a text. -/
def ofText (content : String) : Tree := scalar (.text content) content

/-- Whether a tree stands for nothing. -/
def isNull : Tree → Bool
  | scalar .null _ => true
  | _ => false

mutual

/-- Equality of trees: spellings and the order of entries do not count. -/
def same : Tree → Tree → Bool
  | scalar left _, scalar right _ => left.same right
  | sequence left, sequence right => sameItems left right
  | mapping left, mapping right => left.length == right.length && sameEntries left right
  | tagged leftTag left, tagged rightTag right => leftTag == rightTag && left.same right
  | _, _ => false

/-- Equality item by item. -/
def sameItems : List Tree → List Tree → Bool
  | [], [] => true
  | left :: leftRest, right :: rightRest => left.same right && sameItems leftRest rightRest
  | _, _ => false

/-- Whether each entry of a list has an equal one in another list. -/
def sameEntries : List (Tree × Tree) → List (Tree × Tree) → Bool
  | [], _ => true
  | (key, value) :: rest, others =>
      others.any (fun other => key.same other.1 && value.same other.2) &&
        sameEntries rest others

end

/-- Whether no key of a list of entries equals a later one. -/
def distinctKeys : List (Tree × Tree) → Bool
  | [] => true
  | (key, _) :: rest => !rest.any (fun other => key.same other.1) && distinctKeys rest

mutual

/-- Whether no mapping of a tree repeats a key. -/
def isDistinct : Tree → Bool
  | scalar _ _ => true
  | sequence items => isDistinctItems items
  | mapping entries => distinctKeys entries && isDistinctEntries entries
  | tagged _ inner => inner.isDistinct

/-- Whether no mapping among some items repeats a key. -/
def isDistinctItems : List Tree → Bool
  | [] => true
  | item :: rest => item.isDistinct && isDistinctItems rest

/-- Whether no mapping inside some entries repeats a key. -/
def isDistinctEntries : List (Tree × Tree) → Bool
  | [] => true
  | (key, value) :: rest => key.isDistinct && value.isDistinct && isDistinctEntries rest

end

end Tree

end Manifest.Yaml

namespace Manifest.ScalarValue

/-- The value of a scalar as an atom. -/
def toAtom : ScalarValue → Yaml.Atom
  | null => .null
  | bool truth => .bool truth
  | int number => .int number.toInt
  | float number => .float number
  | text content => .text content

end Manifest.ScalarValue

namespace Manifest.Node

mutual

/-- A node as a tree; wrappers disappear. -/
def toTree : Node → Yaml.Tree
  | document inner => inner.toTree
  | reference _ target => target.toTree
  | scalar leaf => .scalar leaf.value.toAtom leaf.literal
  | sequence items => .sequence (itemsToTrees items)
  | mapping fields => .mapping (fieldsToTrees fields)

/-- Items as trees. -/
def itemsToTrees : List Node → List Yaml.Tree
  | [] => []
  | item :: rest => item.toTree :: itemsToTrees rest

/-- Fields as entries. -/
def fieldsToTrees : List (String × Node) → List (Yaml.Tree × Yaml.Tree)
  | [] => []
  | (name, node) :: rest => (.ofText name, node.toTree) :: fieldsToTrees rest

end

end Manifest.Node
