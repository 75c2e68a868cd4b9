import Manifest.Collection.Basic
import Manifest.Patch.Strategic

/-!
# Patching collections

A patch is adapted to the id of each target before it is merged, so that no id
changes.  A target that the patch deletes leaves the collection.
-/

namespace Manifest.Collection

/-- Fails unless each of some ids is the current id of a resource. -/
def requireTargets (collection : Collection) : List ResourceId → Except CollectionError Unit
  | [] => .ok ()
  | id :: rest => do
      let _ ← collection.position id
      requireTargets collection rest

/-- A resource after a patch; none if the patch deletes it. -/
def patched (patch : Node) (resource : Resource) :
    Except CollectionError (Option Resource) := do
  let adapted ← (Resource.adapted resource.currentId patch).mapError .document
  let merged ← (StrategicPatch.apply resource.node adapted).mapError .patch
  return merged.map fun node => { resource with node }

/-- What a patch of some targets makes of a resource. -/
def patchedIfTarget (targets : IdSet) (patch : Node) (resource : Resource) :
    Except CollectionError (Option Resource) :=
  if targets.contains resource.currentId then patched patch resource
  else .ok (some resource)

/-- What a patch of some targets makes of each resource. -/
def patchedAll (targets : IdSet) (patch : Node) : List Resource →
    Except CollectionError (List (Option Resource))
  | [] => .ok []
  | resource :: rest => do
      let next ← patchedIfTarget targets patch resource
      let others ← patchedAll targets patch rest
      return next :: others

/-- What a patch of some targets, which must exist, makes of each resource. -/
def patchResults (collection : Collection) (targets : IdSet) (patch : Node) :
    Except CollectionError (List (Option Resource)) := do
  collection.requireTargets targets.ids
  patchedAll targets patch collection.resources

/-- Applies a patch to the resources whose current ids are targets. -/
def applyPatch (collection : Collection) (targets : IdSet) (patch : Node) :
    Except CollectionError Collection :=
  (collection.patchResults targets patch).map fun results =>
    { resources := results.filterMap id }

end Manifest.Collection
