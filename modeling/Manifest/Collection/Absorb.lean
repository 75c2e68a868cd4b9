import Manifest.Collection.Basic

/-!
# Absorbing resources

Incoming resources are absorbed one after the other.  An incoming resource
meets the only resource with its id as initial id, or else the only one with
its id as current id.  If it meets one, its behavior must be to merge or to
replace; if it meets none, it is added, and its behavior must be another one.
-/

namespace Manifest.Collection

/-- The position of the resource that an incoming id meets. -/
def meeting (resources : List Resource) (id : ResourceId) :
    Except CollectionError (Option Nat) :=
  match positions (fun resource => resource.initialId == id) resources with
  | [position] => .ok (some position)
  | initials =>
      match positions (fun resource => resource.currentId == id) resources with
      | [position] => .ok (some position)
      | [] =>
          if initials.isEmpty then .ok none else .error (.ambiguous id initials.length)
      | several => .error (.ambiguous id several.length)

/-- Whether a resource at another position has a current id. -/
def isTakenElsewhere (resources : List Resource) (place : Nat) (id : ResourceId) : Bool :=
  (resources.eraseIdx place).any fun resource => resource.currentId == id

/-- An incoming resource meets the one at a position. -/
def absorbAt (resources : List Resource) (place : Nat) (incoming : Resource) :
    Except CollectionError (List Resource) :=
  match incoming.behavior, resources[place]? with
  | .merge, some existing =>
      ((existing.mergedWith incoming).mapError .document).map fun merged =>
        resources.set place merged
  | .replace, _ =>
      if isTakenElsewhere resources place incoming.currentId then
        .error (.collision incoming.currentId)
      else .ok (resources.set place incoming)
  | behavior, _ => .error (.behaviorMismatch incoming.currentId behavior)

/-- What an incoming resource makes of the resources, where it has met the one at a position or none. -/
def absorbMet (resources : List Resource) (incoming : Resource) :
    Option Nat → Except CollectionError (List Resource)
  | some place => absorbAt resources place incoming
  | none =>
      if incoming.behavior.needsExisting then
        .error (.behaviorMismatch incoming.currentId incoming.behavior)
      else .ok (resources ++ [incoming])

/-- Absorbs one resource. -/
def absorbOne (resources : List Resource) (incoming : Resource) :
    Except CollectionError (List Resource) := do
  absorbMet resources incoming (← meeting resources incoming.currentId)

/-- Absorbs the resources of another collection in order, or none of them. -/
def absorbAll (collection other : Collection) : Except CollectionError Collection :=
  (other.resources.foldlM absorbOne collection.resources).map fun resources => { resources }

/-- Resources that a batch is absorbed into, and which of the first ones it has changed. -/
structure Draft where
  resources : List Resource
  changed : List Bool

namespace Draft

/-- The draft before anything is absorbed. -/
def ofResources (resources : List Resource) : Draft where
  resources := resources
  changed := List.replicate resources.length false

/-- Marks the position that is met, unless it came up during the batch. -/
def mark (changed : List Bool) : Option Nat → List Bool
  | some place => changed.set place true
  | none => changed

/-- Absorbs one resource into a draft. -/
def absorb (draft : Draft) (incoming : Resource) : Except CollectionError Draft := do
  let met ← meeting draft.resources incoming.currentId
  let resources ← absorbMet draft.resources incoming met
  return { resources, changed := mark draft.changed met }

end Draft

end Manifest.Collection
