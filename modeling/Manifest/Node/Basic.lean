import Manifest.Fields
import Manifest.Node.Scalar

/-!
# Document trees

A document is a tree of mappings, sequences and scalars.  A mapping keeps its
fields in document order.  Two kinds of wrappers occur on the way: the document
itself, and aliases, which hold a copy of the node they refer to.

The content of a node is what is left when the wrappers on top are removed.
-/

namespace Manifest

/-- A node of a document tree. -/
inductive Node where
  | document (inner : Node)
  | mapping (fields : List (String × Node))
  | sequence (items : List Node)
  | scalar (leaf : Scalar)
  /-- A reference to an anchored node, which is held by value. -/
  | reference (anchor : String) (target : Node)
deriving Repr

/-- The kind of a node. -/
inductive NodeKind where
  | document
  | mapping
  | sequence
  | scalar
  | reference
deriving DecidableEq, Repr

namespace NodeKind

/-- The word for a kind in messages. -/
def text : NodeKind → String
  | document => "document"
  | mapping => "mapping"
  | sequence => "sequence"
  | scalar => "scalar"
  | reference => "alias"

end NodeKind

namespace Node

/-- The node of nothing. -/
def null : Node := scalar Scalar.null

/-- The node of a text. -/
def ofText (content : String) : Node := scalar (Scalar.ofText content)

instance : Inhabited Node := ⟨null⟩

/-- The kind of a node. -/
def kind : Node → NodeKind
  | document _ => .document
  | mapping _ => .mapping
  | sequence _ => .sequence
  | scalar _ => .scalar
  | reference _ _ => .reference

/-- The node behind the aliases on top. -/
def resolve : Node → Node
  | reference _ target => target.resolve
  | node => node

/-- The node behind the aliases and documents on top. -/
def content : Node → Node
  | document inner => inner.content
  | reference _ target => target.content
  | node => node

/-- Whether the content is the scalar of nothing. -/
def isNull (node : Node) : Bool :=
  match node.content with
  | scalar leaf => leaf.isNull
  | _ => false

/-- The fields of the content, if it is a mapping. -/
def mapping? (node : Node) : Option (List (String × Node)) :=
  match node.content with
  | mapping fields => some fields
  | _ => none

/-- The items of the content, if it is a sequence. -/
def sequence? (node : Node) : Option (List Node) :=
  match node.content with
  | sequence items => some items
  | _ => none

/-- The leaf of the content, if it is a scalar. -/
def scalar? (node : Node) : Option Scalar :=
  match node.content with
  | scalar leaf => some leaf
  | _ => none

/-- The content of a field of the content. -/
def field? (name : String) (node : Node) : Option Node :=
  (node.mapping?.bind (Fields.get? name)).map content

/-- Whether the content is nothing, or a mapping or a sequence without entries. -/
def isNilOrEmpty (node : Node) : Bool :=
  match node.content with
  | scalar leaf => leaf.isNull
  | mapping fields => fields.isEmpty
  | sequence items => items.isEmpty
  | _ => false

mutual

/--
Equality of trees: scalars by value, mappings by their fields in any order,
wrappers only with wrappers.
-/
def same : Node → Node → Bool
  | document left, document right => left.same right
  | mapping left, mapping right => left.length == right.length && sameFields left right
  | sequence left, sequence right => sameItems left right
  | scalar left, scalar right => left.same right
  | reference leftAnchor left, reference rightAnchor right =>
      leftAnchor == rightAnchor && left.same right
  | _, _ => false

/-- Equality item by item. -/
def sameItems : List Node → List Node → Bool
  | [], [] => true
  | left :: leftRest, right :: rightRest => left.same right && sameItems leftRest rightRest
  | _, _ => false

/-- Whether each field of a list has an equal one in another list. -/
def sameFields : List (String × Node) → List (String × Node) → Bool
  | [], _ => true
  | (name, left) :: rest, others =>
      (match Fields.get? name others with
        | some right => left.same right
        | none => false) && sameFields rest others

end

end Node

end Manifest
