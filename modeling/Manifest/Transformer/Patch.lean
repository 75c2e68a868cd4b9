import Manifest.Collection.Pool
import Manifest.Record.Basic
import Manifest.Record.Yaml
import Manifest.Transformer.FileTree
import Manifest.Transformer.Finding

/-!
# The patch transformer

A patch transformer applies a patch to the resources that a selector selects,
or to the one with the id of the patch.  Its settings hold the patch itself or
the path of a file with it.  Settings that are refused leave the transformer as
it was.
-/

namespace Manifest

/-- The settings of a patch transformer. -/
structure PatchSettings where
  patch : String := ""
  path : String := ""
  /-- What to patch; without it, the resource with the id of the patch. -/
  target : Option Selector := none
deriving DecidableEq, Repr, Inhabited

/-- Settings as records. -/
def PatchSettings.record : Record PatchSettings where
  read? source part := do
    let fields ← source.fields? ["patch", "path", "target"] part
    let patch ← source.textField? fields "patch"
    let path ← source.textField? fields "path"
    let target ← source.optionalField? fields "target" (Selector.record.read? source)
    return { patch, path, target }
  toNode settings :=
    .mapping (Record.textFields [("patch", settings.patch), ("path", settings.path)] ++
      (settings.target.map fun target => ("target", Selector.record.toNode target)).toList)

/-- Why settings are refused that can be read. -/
inductive SettingsFault where
  | noPatch
  | twoPatches
  | patchCount (count : Nat)
  | unconfigured
deriving DecidableEq, Repr

namespace SettingsFault

/-- The fault in words. -/
def message : SettingsFault → String
  | noPatch => "must specify one of patch and path"
  | twoPatches => "patch and path can't be set at the same time"
  | patchCount count => "expected exactly one patch document, found " ++ toString count
  | unconfigured => "transformer used before it was configured"

end SettingsFault

/-- Why a transformer fails. -/
inductive TransformerError where
  | settingsText
  | settings (fault : SettingsFault)
  | fileNotFound (path : String)
  | invalidPatch (findings : List Finding)
  | document (error : DocumentError)
  | collection (error : CollectionError)

namespace TransformerError

/-- The error in words. -/
def message : TransformerError → String
  | settingsText => "invalid plugin config: YAML error"
  | settings fault => "invalid plugin config: " ++ fault.message
  | fileNotFound path => "file not found: " ++ path
  | invalidPatch findings => "validation failed: " ++ Finding.messages findings
  | document error => error.message
  | collection error => error.message

end TransformerError

/-- A transformer with its patch, once it has settings. -/
structure PatchTransformer where
  patch : Option Resource := none
  target : Option Selector := none

namespace PatchTransformer

/-- The settings that a YAML text given as bytes denotes. -/
def readSettings (bytes : ByteArray) : Except TransformerError PatchSettings :=
  match (String.fromUTF8? bytes).bind PatchSettings.record.ofYaml? with
  | some settings => .ok settings
  | none => .error .settingsText

/-- The bytes of the patch. -/
def patchBytes (files : FileTree) (settings : PatchSettings) :
    Except TransformerError ByteArray :=
  if Text.isAllBlank settings.patch then
    if settings.path = "" then .error (.settings .noPatch)
    else
      match files.load? settings.path with
      | some content => .ok content
      | none => .error (.fileNotFound settings.path)
  else if settings.path = "" then .ok settings.patch.toUTF8
  else .error (.settings .twoPatches)

/-- The only resource of a list. -/
def onlyPatch : List Resource → Except TransformerError Resource
  | [patch] => .ok patch
  | patches => .error (.settings (.patchCount patches.length))

/-- The transformer with settings given as bytes of a YAML text. -/
def configure (files : FileTree) (bytes : ByteArray) :
    Except TransformerError PatchTransformer := do
  let settings ← readSettings bytes
  let content ← patchBytes files settings
  let patch ← onlyPatch (← (Resource.ofYamlStream content).mapError .document)
  let findings := Finding.ofNode patch.node
  if findings.isEmpty then return { patch := some patch, target := settings.target }
  else throw (.invalidPatch findings)

/-- The current ids of the resources to patch. -/
def targets (target : Option Selector) (patch : Resource) (collection : Collection) :
    Except CollectionError IdSet := do
  match target with
  | some selector =>
      return IdSet.ofList ((← collection.select selector).map Resource.currentId)
  | none => return IdSet.ofList [(← collection.byId patch.currentId).currentId]

/-- Applies the patch to a collection. -/
def transform (transformer : PatchTransformer) : Change TransformerError Shared Unit :=
  match transformer.patch with
  | none => .lift (.error (.settings .unconfigured))
  | some patch =>
      let apply : Shared.Action Unit := do
        let targets ← Shared.ask (targets transformer.target patch)
        Shared.applyPatch targets patch.node
      apply.mapError .collection

end PatchTransformer

end Manifest
