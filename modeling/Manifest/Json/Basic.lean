import Manifest.Node.Decode

/-!
# JSON texts as trees

The tree of a JSON text, and how document nodes and decoded values are seen as
such trees.  Members of an object keep their order, and a name may occur twice
in a tree: what to do then is decided where the tree is used.
-/

namespace Manifest

/-- The tree of a JSON text. -/
inductive Json where
  | null
  | bool (truth : Bool)
  /-- An integer between `-2 ^ 63` and `2 ^ 64 - 1`. -/
  | int (number : Int)
  | float (number : Binary64)
  | text (content : String)
  | array (elements : List Json)
  | object (members : List (String × Json))
deriving Repr, Inhabited

namespace ScalarValue

/-- The value of a scalar as a tree. -/
def toJson : ScalarValue → Json
  | null => .null
  | bool truth => .bool truth
  | int number => .int number.toInt
  | float number => .float number
  | text content => .text content

end ScalarValue

namespace Node

mutual

/-- A node as a tree; wrappers disappear. -/
def toJson : Node → Json
  | document inner => inner.toJson
  | reference _ target => target.toJson
  | scalar leaf => leaf.value.toJson
  | sequence items => .array (itemsToJson items)
  | mapping fields => .object (fieldsToJson fields)

/-- Items as trees. -/
def itemsToJson : List Node → List Json
  | [] => []
  | item :: rest => item.toJson :: itemsToJson rest

/-- Fields as members. -/
def fieldsToJson : List (String × Node) → List (String × Json)
  | [] => []
  | (name, node) :: rest => (name, node.toJson) :: fieldsToJson rest

end

end Node

namespace Value

mutual

/-- A value as a tree. -/
def toJson : Value → Json
  | null => .null
  | bool truth => .bool truth
  | int number => .int number.toInt
  | float number => .float number
  | text content => .text content
  | list items => .array (itemsToJson items)
  | map fields => .object (fieldsToJson fields)

/-- Items as trees. -/
def itemsToJson : List Value → List Json
  | [] => []
  | item :: rest => item.toJson :: itemsToJson rest

/-- Fields as members. -/
def fieldsToJson : List (String × Value) → List (String × Json)
  | [] => []
  | (name, value) :: rest => (name, value.toJson) :: fieldsToJson rest

end

end Value

namespace Json

mutual

/-- The document node of a tree; an object that repeats a name has none. -/
def toNode? : Json → Option Node
  | null => some .null
  | bool truth => some (.scalar ⟨.bool truth, none⟩)
  | int number => some (.scalar ⟨.ofInt number, none⟩)
  | float number => some (.scalar ⟨.float number, none⟩)
  | text content => some (.ofText content)
  | array elements => (elementsToNodes? elements).map .sequence
  | object members => (membersToFields? members).map .mapping

/-- The nodes of elements. -/
def elementsToNodes? : List Json → Option (List Node)
  | [] => some []
  | element :: rest =>
      match element.toNode?, elementsToNodes? rest with
      | some node, some nodes => some (node :: nodes)
      | _, _ => none

/-- The fields of members. -/
def membersToFields? : List (String × Json) → Option (List (String × Node))
  | [] => some []
  | (name, member) :: rest =>
      match member.toNode?, membersToFields? rest with
      | some node, some fields =>
          if Fields.contains name fields then none else some ((name, node) :: fields)
      | _, _ => none

end

mutual

/-- The decoded value of a tree; the last of several members with one name counts. -/
def toValue : Json → Value
  | null => .null
  | bool truth => .bool truth
  | int number => (ScalarValue.ofInt number).toValue
  | float number => .float number
  | text content => .text content
  | array elements => .list (elementsToValues elements)
  | object members => .map (Fields.sortedOfPairs (membersToPairs members))

/-- The values of elements. -/
def elementsToValues : List Json → List Value
  | [] => []
  | element :: rest => element.toValue :: elementsToValues rest

/-- The values of members. -/
def membersToPairs : List (String × Json) → List (String × Value)
  | [] => []
  | (name, member) :: rest => (name, member.toValue) :: membersToPairs rest

end

end Json

end Manifest
