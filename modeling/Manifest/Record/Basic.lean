import Manifest.Record.Source
import Manifest.Resource.Behavior
import Manifest.Selector.Basic

/-!
# Types, behaviors and selectors as records
-/

namespace Manifest

/-- Types as records. -/
def Gvk.record : Record Gvk where
  read? source part := do
    let fields ← source.fields? ["group", "version", "kind"] part
    let group ← source.textField? fields "group"
    let version ← source.textField? fields "version"
    let kind ← source.textField? fields "kind"
    return { group, version, kind }
  toNode gvk :=
    .mapping (Record.textFields
      [("group", gvk.group), ("version", gvk.version), ("kind", gvk.kind)])

/-- Behaviors as choices. -/
def Behavior.record : Record Behavior where
  read? source part := (source.choice? part).bind Behavior.ofName?
  toNode behavior := .ofText behavior.text

namespace Selector

/-- The names of the fields of selectors, in order. -/
def fieldNames : List String :=
  ["group", "version", "kind", "name", "namespace", "labelSelector", "annotationSelector"]

/-- The selector with some fields. -/
def ofFields? {σ : Type} (source : RecordSource σ) (fields : List (String × σ)) :
    Option Selector := do
  let group ← source.textField? fields "group"
  let version ← source.textField? fields "version"
  let kind ← source.textField? fields "kind"
  let name ← source.textField? fields "name"
  let namespaceName ← source.textField? fields "namespace"
  let labels ← source.textField? fields "labelSelector"
  let annotations ← source.textField? fields "annotationSelector"
  return { group, version, kind, name, namespaceName, labels, annotations }

/-- Selectors as records. -/
def record : Record Selector where
  read? source part := (source.fields? fieldNames part).bind (ofFields? source)
  toNode selector :=
    .mapping (Record.textFields
      [("group", selector.group), ("version", selector.version), ("kind", selector.kind),
        ("name", selector.name), ("namespace", selector.namespaceName),
        ("labelSelector", selector.labels), ("annotationSelector", selector.annotations)])

end Selector

end Manifest
