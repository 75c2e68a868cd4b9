import Manifest.Identity.ResourceId
import Manifest.Node.Error
import Manifest.Selector.LabelSelector

/-!
# Metadata of documents

The document of a resource carries its type in the fields `apiVersion` and
`kind`, and its name, namespace, labels and annotations in the section
`metadata`.  What is absent or nothing reads as empty; any other unexpected
shape is an error.
-/

namespace Manifest

/-- The identifying parts of a resource document. -/
structure Metadata where
  apiVersion : String := ""
  kind : String := ""
  name : String := ""
  namespaceName : String := ""
  labels : StringMap := .empty
  annotations : StringMap := .empty
deriving DecidableEq, Inhabited

namespace Metadata

/-- The type of the resource. -/
def gvk (metadata : Metadata) : Gvk :=
  Gvk.ofApiVersion metadata.apiVersion metadata.kind

/-- The identity of the resource. -/
def resourceId (metadata : Metadata) : ResourceId where
  gvk := metadata.gvk
  namespaceName := metadata.namespaceName
  name := metadata.name

/-- A scalar field of a mapping as text. -/
def scalarField (fields : List (String × Node)) (name : String) :
    Except DocumentError String :=
  match (Fields.get? name fields).map Node.content with
  | none => .ok ""
  | some (.scalar leaf) => .ok leaf.text
  | some other => .error (.invalidMetadata (.fieldNotScalar name other.kind))

/-- The entries of a map of texts, in document order. -/
def textEntries (field : String) :
    List (String × Node) → Except DocumentError (List (String × String))
  | [] => .ok []
  | (key, node) :: rest =>
      match node.content with
      | .scalar leaf =>
          (textEntries field rest).map fun entries => (key, leaf.text) :: entries
      | other => .error (.invalidMetadata (.entryNotScalar field key other.kind))

/-- A map of texts; an absent node and nothing read as the empty map. -/
def stringMap (node : Option Node) (field : String) : Except DocumentError StringMap :=
  match node.map Node.content with
  | none => .ok .empty
  | some (.mapping fields) => (textEntries field fields).map StringMap.ofPairs
  | some (.scalar leaf) =>
      if leaf.isNull then .ok .empty
      else .error (.invalidMetadata (.fieldNotMapping field .scalar))
  | some other => .error (.invalidMetadata (.fieldNotMapping field other.kind))

/-- The metadata with the parts that the section `metadata` holds. -/
def readSection (apiVersion kind : String) (fields : List (String × Node)) :
    Except DocumentError Metadata := do
  let name ← scalarField fields "name"
  let namespaceName ← scalarField fields "namespace"
  let labels ← stringMap (Fields.get? "labels" fields) "labels"
  let annotations ← stringMap (Fields.get? "annotations" fields) "annotations"
  return { apiVersion, kind, name, namespaceName, labels, annotations }

/-- The metadata with the parts under the field `metadata`, if there is one. -/
def ofSection (apiVersion kind : String) (node : Option Node) :
    Except DocumentError Metadata :=
  match node.map Node.content with
  | none => .ok { apiVersion, kind }
  | some (.mapping inner) => readSection apiVersion kind inner
  | some other =>
      if other.isNull then .ok { apiVersion, kind }
      else .error (.invalidMetadata (.sectionShape other.kind))

/-- Whether some fields have one of those that identify a resource. -/
def isIdentified (fields : List (String × Node)) : Bool :=
  Fields.contains "apiVersion" fields || Fields.contains "kind" fields ||
    Fields.contains "metadata" fields

/-- The metadata of the fields of a document. -/
def ofFields (fields : List (String × Node)) : Except DocumentError Metadata :=
  if isIdentified fields then do
    let apiVersion ← scalarField fields "apiVersion"
    let kind ← scalarField fields "kind"
    ofSection apiVersion kind (Fields.get? "metadata" fields)
  else .error .missingMetadata

end Metadata

namespace Node

/-- The metadata of a document. -/
def metadata (node : Node) : Except DocumentError Metadata :=
  match node.content with
  | mapping fields => Metadata.ofFields fields
  | other => .error (.invalidMetadata (.documentShape other.kind))

/-- The labels of a document. -/
def labels (node : Node) : Except DocumentError StringMap :=
  node.metadata.map Metadata.labels

/-- The annotations of a document. -/
def annotations (node : Node) : Except DocumentError StringMap :=
  node.metadata.map Metadata.annotations

/-- The field `data` of a document. -/
def dataMap (node : Node) : Except DocumentError StringMap :=
  Metadata.stringMap (node.mapping?.bind (Fields.get? "data")) "data"

/-- Whether the labels of a document satisfy a selector. -/
def matchesLabels (node : Node) (selector : Selector.LabelSelector) :
    Except DocumentError Bool :=
  node.labels.map selector.accepts

/-- Whether the annotations of a document satisfy a selector. -/
def matchesAnnotations (node : Node) (selector : Selector.LabelSelector) :
    Except DocumentError Bool :=
  node.annotations.map selector.accepts

/-- Whether the labels of a document satisfy a label expression. -/
def matchesLabelExpression (node : Node) (expression : String) :
    Except DocumentError Bool :=
  match Selector.LabelSelector.parse expression with
  | .error error => .error (.selector error)
  | .ok selector => node.matchesLabels selector

/-- Whether the annotations of a document satisfy a label expression. -/
def matchesAnnotationExpression (node : Node) (expression : String) :
    Except DocumentError Bool :=
  match Selector.LabelSelector.parse expression with
  | .error error => .error (.selector error)
  | .ok selector => node.matchesAnnotations selector

end Node

end Manifest
