import Manifest.Node.Basic
import Manifest.Value

/-!
# Decoding of documents

A node decodes to a value, and a value is the decoding of a node without
wrappers and without spelling.
-/

namespace Manifest

namespace ScalarValue

/-- The value of a scalar as a decoded value. -/
def toValue : ScalarValue → Value
  | null => .null
  | bool truth => .bool truth
  | int number => .int number
  | float number => .float number
  | text content => .text content

end ScalarValue

namespace Node

mutual

/-- The value that a node decodes to. -/
def toValue : Node → Value
  | document inner => inner.toValue
  | mapping fields => .map (Fields.sortedOfPairs (fieldValues fields))
  | sequence items => .list (itemValues items)
  | scalar leaf => leaf.value.toValue
  | reference _ target => target.toValue

/-- The values of items, in order. -/
def itemValues : List Node → List Value
  | [] => []
  | item :: rest => item.toValue :: itemValues rest

/-- The values of fields, in document order. -/
def fieldValues : List (String × Node) → List (String × Value)
  | [] => []
  | (name, node) :: rest => (name, node.toValue) :: fieldValues rest

end

mutual

/-- The node of a value. -/
def ofValue : Value → Node
  | .null => null
  | .bool truth => scalar ⟨.bool truth, none⟩
  | .int number => scalar ⟨.int number, none⟩
  | .float number => scalar ⟨.float number, none⟩
  | .text content => ofText content
  | .list items => sequence (ofItems items)
  | .map fields => mapping (ofFields fields)

/-- The nodes of items, in order. -/
def ofItems : List Value → List Node
  | [] => []
  | item :: rest => ofValue item :: ofItems rest

/-- The nodes of fields, in order. -/
def ofFields : List (String × Value) → List (String × Node)
  | [] => []
  | (name, value) :: rest => (name, ofValue value) :: ofFields rest

end

/-- The fields that a document decodes to; none if its content is no mapping. -/
def decodedFields (node : Node) : List (String × Value) :=
  match node.toValue with
  | .map fields => fields
  | _ => []

end Node

end Manifest
