import Manifest.Node.Basic
import Manifest.Text.Pieces
import Manifest.Text.Quoted

/-!
# Checking documents

The document of a patch must be a mapping with a type that is not empty, and
its metadata, if it has any, must be a mapping with a name.  All problems of a
document are found.
-/

namespace Manifest

/-- A problem of a document. -/
inductive Finding where
  | notAMapping (kind : NodeKind)
  | missing (field : String)
  | empty (field : String)
  | wrongKind (field : String) (expected actual : NodeKind)
deriving DecidableEq, Repr

namespace Finding

/-- A problem in words. -/
def message : Finding → String
  | notAMapping kind => "document must be a mapping, got " ++ kind.text
  | missing field => "missing required field " ++ Text.quoted field
  | empty field => "field " ++ Text.quoted field ++ " must not be empty"
  | wrongKind field expected actual =>
      "field " ++ Text.quoted field ++ " must be a " ++ expected.text ++ ", got " ++ actual.text

/-- Several problems in words. -/
def messages (findings : List Finding) : String :=
  Text.join "; " (findings.map message)

/-- The problems of a field that must be a scalar with a text. -/
def ofScalarField (fields : List (String × Node)) (field : String) : List Finding :=
  match (Fields.get? field fields).map Node.content with
  | none => [missing field]
  | some (.scalar leaf) => if leaf.text = "" then [empty field] else []
  | some other => [wrongKind field .scalar other.kind]

/-- The problems of the metadata. -/
def ofMetadata (fields : List (String × Node)) : List Finding :=
  match (Fields.get? "metadata" fields).map Node.content with
  | none => []
  | some (.mapping inner) =>
      if Fields.contains "name" inner then [] else [missing "metadata.name"]
  | some other => [wrongKind "metadata" .mapping other.kind]

/-- The problems of a document. -/
def ofNode (node : Node) : List Finding :=
  match node.content with
  | .mapping fields =>
      ofScalarField fields "apiVersion" ++ ofScalarField fields "kind" ++ ofMetadata fields
  | other => [notAMapping other.kind]

end Finding

end Manifest
