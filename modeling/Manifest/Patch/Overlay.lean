import Manifest.Node.Basic

/-!
# Overlays

The overlay of two documents is their deep merge with the right one preferred:
mappings merge field by field, nothing on the right keeps the left, and
anything else on the right takes the place of the left.
-/

namespace Manifest

namespace Node

mutual

/-- The overlay of a node on another one. -/
def overlay (left : Node) : Node → Node
  | document inner =>
      if inner.isNull then left
      else if left.isNull then document inner
      else overlay left inner
  | reference anchor target =>
      if target.isNull then left
      else if left.isNull then reference anchor target
      else overlay left target
  | mapping fields =>
      match left.content with
      | mapping leftFields => mapping (overlayFields leftFields leftFields fields)
      | _ => mapping fields
  | sequence items => sequence items
  | scalar leaf => if leaf.isNull then left else scalar leaf

/-- The overlay of fields on `merged`, which starts as the fields on the left. -/
def overlayFields (left merged : List (String × Node)) :
    List (String × Node) → List (String × Node)
  | [] => merged
  | (name, node) :: rest =>
      let result :=
        match Fields.get? name left with
        | some leftNode => overlay leftNode node
        | none => node
      overlayFields left (Fields.set name result merged) rest

end

end Node

end Manifest
