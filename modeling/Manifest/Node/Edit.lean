import Manifest.Node.Metadata
import Manifest.Outcome

/-!
# Editing documents

A field is written at a list of field names from the root of a document.
Nothing on the way becomes a mapping, and an absent field on the way is added;
any other node that is no mapping stops the edit.  Aliases on the way are
replaced by copies of what they refer to, so that the anchored node does not
change.

Setting an empty namespace or an empty map of texts removes the field.
-/

namespace Manifest.Node

/-- What an edit of a thing gives. -/
abbrev Edited (σ : Type) := Outcome DocumentError σ Unit

/-- Edits the content of a node; aliases on the way are detached. -/
def editContent (edit : Node → Edited Node) : Node → Edited Node
  | document inner => (editContent edit inner).mapState document
  | reference _ target => editContent edit target
  | node => edit node

/-- The content of a node is detached from every alias on the way to it. -/
def detach (node : Node) : Node :=
  (editContent (fun content => .done () content) node).state

/-- Edits the fields of a content node, of which nothing has none. -/
def editFields
    (walked : List String)
    (edit : List (String × Node) → Edited (List (String × Node))) :
    Node → Edited Node
  | mapping fields => (edit fields).mapState mapping
  | node =>
      if node.isNull then (edit []).mapState mapping
      else .failed (.setField walked node.kind) node

/-- Edits the first field with a name; without one nothing happens. -/
def editField (name : String) (edit : Node → Edited Node) :
    List (String × Node) → Edited (List (String × Node))
  | [] => .done () []
  | (other, node) :: rest =>
      if other = name then (edit node).mapState fun edited => (other, edited) :: rest
      else (editField name edit rest).mapState fun edited => (other, node) :: edited

/-- Writes a field below `parents`, `walked` being the names before them. -/
def writeField (walked : List String) :
    List String → String → Node → Node → Edited Node
  | [], name, value =>
      editContent <| editFields walked fun fields => .done () (Fields.set name value fields)
  | parent :: rest, name, value =>
      editContent <| editFields walked fun fields =>
        editField parent (writeField (walked ++ [parent]) rest name value)
          (Fields.ensure parent null fields)

/-- Edits a content node unless it is nothing. -/
def unlessNull (edit : Node → Edited Node) (node : Node) : Edited Node :=
  if node.isNull then .done () node else edit node

/-- Removes a field below `parents`; where one of them is absent nothing happens. -/
def clearField (walked : List String) : List String → String → Node → Edited Node
  | [], name =>
      editContent <| unlessNull <| editFields walked fun fields =>
        .done () (Fields.remove name fields)
  | parent :: rest, name =>
      editContent <| unlessNull <| editFields walked fun fields =>
        editField parent (clearField (walked ++ [parent]) rest name) fields

/-- The mapping of a map of texts. -/
def ofStringMap (map : StringMap) : Node :=
  mapping (map.entries.map fun entry => (entry.1, ofText entry.2))

/-- Writes a map of texts, or removes the field for the empty map. -/
def writeStringMap (parents : List String) (name : String) (map : StringMap) (node : Node) :
    Edited Node :=
  if map.isEmpty then clearField [] parents name node
  else writeField [] parents name (ofStringMap map) node

/-- Sets `metadata.name`. -/
def setName (name : String) (node : Node) : Edited Node :=
  writeField [] ["metadata"] "name" (ofText name) node

/-- Sets `metadata.namespace`, or removes it for the empty text. -/
def setNamespace (namespaceName : String) (node : Node) : Edited Node :=
  if namespaceName = "" then clearField [] ["metadata"] "namespace" node
  else writeField [] ["metadata"] "namespace" (ofText namespaceName) node

/-- Sets `kind` and then `apiVersion`. -/
def setGvk (gvk : Gvk) (node : Node) : Edited Node :=
  (writeField [] [] "kind" (ofText gvk.kind) node).andThen fun _ edited =>
    writeField [] [] "apiVersion" (ofText gvk.apiVersion) edited

/-- Sets `metadata.labels`. -/
def setLabels (labels : StringMap) (node : Node) : Edited Node :=
  writeStringMap ["metadata"] "labels" labels node

/-- Sets `metadata.annotations`. -/
def setAnnotations (annotations : StringMap) (node : Node) : Edited Node :=
  writeStringMap ["metadata"] "annotations" annotations node

/-- Sets `data`. -/
def setDataMap (data : StringMap) (node : Node) : Edited Node :=
  writeStringMap [] "data" data node

/-- Sets a field of the content if it is a mapping, and says whether it is. -/
def setField (node : Node) (name : String) (value : Node) : Bool × Node :=
  match (detach node).mapping? with
  | none => (false, detach node)
  | some _ =>
      (true, (writeField [] [] name value node).state)

end Manifest.Node
