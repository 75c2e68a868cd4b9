import Manifest.Node.Decode
import Manifest.Node.Error
import Manifest.Path

/-!
# Looking up fields

A path is walked from the content of a node.  The walk ends without a result
where a field or an item is missing and where it meets nothing; it fails where
a step cannot apply to the node it meets, and reports the path up to there.

A position also names a field of a mapping, and a name of decimal digits also
names an item of a sequence.
-/

namespace Manifest.Node

/-- What one step meets at a node that stands for something. -/
inductive StepResult where
  | found (node : Node)
  | absent
  | mismatch (expected : NodeKind)

/-- An optional node as the result of a step. -/
def StepResult.ofOption : Option Node → StepResult
  | some node => found node
  | none => absent

/-- One step from a content node. -/
def step : Step → Node → StepResult
  | .field name, mapping fields => .ofOption (Fields.get? name fields)
  | .index position, mapping fields => .ofOption (Fields.get? (toString position) fields)
  | .index position, sequence items => .ofOption items[position]?
  | .field name, sequence items =>
      match Text.position? name with
      | some position => .ofOption items[position]?
      | none => .mismatch .mapping
  | .field _, _ => .mismatch .mapping
  | .index _, _ => .mismatch .sequence

/-- The walk along a path from a content node, `walked` being the steps before it. -/
def walk (walked : Path) (current : Node) : Path → Except DocumentError (Option Node)
  | [] => .ok (some current)
  | next :: rest =>
      if current.isNull then .ok none
      else
        match step next current with
        | .found node => walk (walked.push next) node.content rest
        | .absent => .ok none
        | .mismatch expected =>
            .error (.typeMismatch walked.text expected.text current.kind.text)

/-- The content node at a path, if there is one. -/
def lookup (node : Node) (path : Path) : Except DocumentError (Option Node) :=
  walk [] node.content path

/-- A mapping or a sequence decoded, a scalar as its literal. -/
def fieldValue : Node → Value
  | scalar leaf => .text leaf.literal
  | node => node.toValue

/-- The decoded field at the path that a text denotes. -/
def getFieldValue (node : Node) (path : String) : Except DocumentError Value :=
  match node.lookup (Path.parse path) with
  | .error error => .error error
  | .ok none => .error (.noField path)
  | .ok (some found) => .ok (fieldValue found)

/-- The items of the list at a path. -/
def getList (node : Node) (path : String) : Except DocumentError (List Value) :=
  match node.getFieldValue path with
  | .error error => .error error
  | .ok (.list items) => .ok items
  | .ok other => .error (.typeMismatch path "list" other.typeName)

/-- The literal of the scalar at a path. -/
def getText (node : Node) (path : String) : Except DocumentError String :=
  match node.getFieldValue path with
  | .error error => .error error
  | .ok (.text content) => .ok content
  | .ok other => .error (.typeMismatch path "string" other.typeName)

end Manifest.Node
