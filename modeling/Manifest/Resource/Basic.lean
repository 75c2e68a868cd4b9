import Manifest.Node.Edit
import Manifest.Patch.Overlay
import Manifest.Resource.BuildNote
import Manifest.Yaml.Document

/-!
# Resources

A resource is a document together with the id it had at first, the id it has
now, and its behavior.  The current id follows every renaming; the initial id
never changes.  A renaming notes the id it gives up in the build annotations of
the document, so that the initial id can be read from the document again.
-/

namespace Manifest

/-- A document with its ids and its behavior. -/
structure Resource where
  node : Node
  initialId : ResourceId
  currentId : ResourceId
  /-- What the resource asks for when it meets another one. -/
  behavior : Behavior := .unspecified

namespace Metadata

/-- The earlier ids that the build annotations note, oldest first. -/
def previousIds (metadata : Metadata) : List ResourceId :=
  match metadata.annotations.get? BuildNote.previousNames,
    metadata.annotations.get? BuildNote.previousNamespaces,
    metadata.annotations.get? BuildNote.previousKinds with
  | some names, some namespaces, some kinds =>
      let places := (Text.split ',' names).zip (Text.split ',' namespaces)
      (places.zip (Text.split ',' kinds)).map fun entry =>
        { gvk := { metadata.gvk with kind := entry.2 }
          namespaceName := entry.1.2
          name := entry.1.1 }
  | _, _, _ => []

/-- The oldest id that is known. -/
def initialId (metadata : Metadata) : ResourceId :=
  metadata.previousIds.head?.getD metadata.resourceId

/-- The behavior that the build annotations ask for. -/
def behavior (metadata : Metadata) : Except DocumentError Behavior :=
  match metadata.annotations.get? BuildNote.generatorBehavior with
  | none => .ok .unspecified
  | some text =>
      match Behavior.parse? text with
      | some behavior => .ok behavior
      | none =>
          .error (.invalidMetadata (.unknownBehavior BuildNote.generatorBehavior text))

end Metadata

namespace Resource

/-- The resource of a document. -/
def ofNode (node : Node) : Except DocumentError Resource := do
  let metadata ← node.metadata
  let behavior ← metadata.behavior
  return { node, initialId := metadata.initialId, currentId := metadata.resourceId, behavior }

/-- Whether an id is the initial or the current one. -/
def hasId (resource : Resource) (id : ResourceId) : Bool :=
  resource.initialId == id || resource.currentId == id

/-- What an edit of a resource gives. -/
abbrev Edited := Node.Edited Resource

/-- Edits the document of a resource and leaves its ids alone. -/
def editNode (edit : Node → Node.Edited Node) (resource : Resource) : Edited :=
  (edit resource.node).mapState fun node => { resource with node }

/-- Reads the current id from the document again. -/
def refresh (resource : Resource) : Edited :=
  .reading resource.node.metadata resource fun metadata =>
    .done () { resource with currentId := metadata.resourceId }

/-- A list of texts with one more text behind it. -/
def appendEntry (key text : String) (annotations : StringMap) : StringMap :=
  match annotations.get? key with
  | some entries => annotations.insert key (entries ++ "," ++ text)
  | none => annotations.insert key text

/-- The annotations with an id noted as given up. -/
def notePreviousId (id : ResourceId) (annotations : StringMap) : StringMap :=
  appendEntry BuildNote.previousKinds id.gvk.kind <|
    appendEntry BuildNote.previousNamespaces id.namespaceName <|
      appendEntry BuildNote.previousNames id.name annotations

/-- Notes the current id in the document. -/
def storePreviousId (resource : Resource) : Edited :=
  .reading resource.node.annotations resource fun annotations =>
    resource.editNode (Node.setAnnotations (notePreviousId resource.currentId annotations))

/-- Notes the current id, edits the document and reads the new id. -/
def rename (edit : Node → Node.Edited Node) (resource : Resource) : Edited :=
  resource.storePreviousId.andThen fun _ stored =>
    (stored.editNode edit).andThen fun _ renamed => renamed.refresh

/-- Changes the name; the name it has changes nothing. -/
def setName (name : String) (resource : Resource) : Edited :=
  if resource.currentId.name = name then .done () resource
  else resource.rename (Node.setName name)

/-- Changes the namespace; the namespace it has changes nothing. -/
def setNamespace (namespaceName : String) (resource : Resource) : Edited :=
  if resource.currentId.namespaceName = namespaceName then .done () resource
  else resource.rename (Node.setNamespace namespaceName)

/-- Changes the type; the type it has changes nothing. -/
def setGvk (gvk : Gvk) (resource : Resource) : Edited :=
  if resource.currentId.gvk = gvk then .done () resource
  else resource.rename (Node.setGvk gvk)

/-- The earlier ids that the document notes, oldest first. -/
def previousIds (resource : Resource) : Except DocumentError (List ResourceId) :=
  resource.node.metadata.map Metadata.previousIds

/-- Removes the build annotations from the document. -/
def removeBuildAnnotations (resource : Resource) : Edited :=
  .reading resource.node.annotations resource fun annotations =>
    let stripped := BuildNote.strip annotations
    if stripped.size = annotations.size then .done () resource
    else resource.editNode (Node.setAnnotations stripped)

/-- The document without build annotations. -/
def comparableNode (resource : Resource) : Except DocumentError Node :=
  resource.removeBuildAnnotations.final.map Resource.node

/-- A document with the type, the name and the namespace of an id. -/
def adapted (id : ResourceId) (node : Node) : Except DocumentError Node := do
  let typed ← (node.setGvk id.gvk).final
  let named ← (typed.setName id.name).final
  (named.setNamespace id.namespaceName).final

/-- A document with its build annotations replaced by given ones. -/
def withBuildAnnotations (own : StringMap) (node : Node) : Except DocumentError Node := do
  let annotations ← node.annotations
  (node.setAnnotations ((BuildNote.strip annotations).insertAll own)).final

/--
The document of `incoming` laid over that of a resource, which keeps its ids,
its behavior and its build annotations.
-/
def mergedWith (resource incoming : Resource) : Except DocumentError Resource := do
  let patch ← incoming.comparableNode
  let annotations ← resource.node.annotations
  let node ← adapted resource.currentId (resource.node.overlay patch)
  let node ← withBuildAnnotations (BuildNote.only annotations) node
  return { resource with node }

/-- The text of the document. -/
def toYaml (resource : Resource) : String :=
  resource.node.toYaml

end Resource

end Manifest
