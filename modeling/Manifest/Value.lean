import Manifest.Fields
import Manifest.Number.Binary64

/-!
# Decoded values

A value is the decoded copy of a part of a document: what is left when
spelling, field order, document wrappers and aliases are forgotten.  The fields
of a map are ordered by their names.
-/

namespace Manifest

/-- A decoded value. -/
inductive Value where
  | null
  | bool (truth : Bool)
  | int (number : Int64)
  | float (number : Binary64)
  | text (content : String)
  | list (items : List Value)
  | map (fields : List (String × Value))
deriving Repr, Inhabited

namespace Value

/-- The word for the type of a value in messages. -/
def typeName : Value → String
  | null => "null"
  | bool _ => "bool"
  | int _ => "int"
  | float _ => "float"
  | text _ => "string"
  | list _ => "list"
  | map _ => "map"

/-- Whether a value is nothing. -/
def isNull : Value → Bool
  | null => true
  | _ => false

/-- The text of a text. -/
def text? : Value → Option String
  | text content => some content
  | _ => none

/-- The items of a list. -/
def list? : Value → Option (List Value)
  | list items => some items
  | _ => none

/-- The fields of a map. -/
def map? : Value → Option (List (String × Value))
  | map fields => some fields
  | _ => none

/-- Follows a chain of map keys; anything else than a map ends the walk. -/
def getIn? (value : Value) : List String → Option Value
  | [] => some value
  | key :: rest =>
      match value with
      | map fields =>
          match Fields.get? key fields with
          | some next => next.getIn? rest
          | none => none
      | _ => none

mutual

/-- Equality of values, with the equality of floating point numbers. -/
def same : Value → Value → Bool
  | null, null => true
  | bool left, bool right => left == right
  | int left, int right => left == right
  | float left, float right => left.same right
  | text left, text right => left == right
  | list left, list right => sameItems left right
  | map left, map right => sameFields left right
  | _, _ => false

/-- Equality item by item. -/
def sameItems : List Value → List Value → Bool
  | [], [] => true
  | left :: leftRest, right :: rightRest => left.same right && sameItems leftRest rightRest
  | _, _ => false

/-- Equality field by field, names included. -/
def sameFields : List (String × Value) → List (String × Value) → Bool
  | [], [] => true
  | (leftName, left) :: leftRest, (rightName, right) :: rightRest =>
      leftName == rightName && left.same right && sameFields leftRest rightRest
  | _, _ => false

end

end Value

end Manifest
