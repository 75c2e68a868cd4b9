import Manifest.Collection.Error
import Manifest.Resource.Stream

/-!
# Collections of resources

A collection is a list of resources.  The operations keep their current ids
distinct; initial ids may repeat.  Every operation either succeeds or leaves
the collection as it was.
-/

namespace Manifest

/-- Resources in order. -/
structure Collection where
  resources : List Resource := []

namespace Collection

instance : Inhabited Collection := ⟨{}⟩

/-- The collection without resources. -/
def empty : Collection := {}

/-- The number of resources. -/
def size (collection : Collection) : Nat :=
  collection.resources.length

/-- Whether there is no resource. -/
def isEmpty (collection : Collection) : Bool :=
  collection.resources.isEmpty

/-- The current ids, in order. -/
def ids (collection : Collection) : List ResourceId :=
  collection.resources.map Resource.currentId

/-- The documents, in order. -/
def nodes (collection : Collection) : List Node :=
  collection.resources.map Resource.node

/-- The positions of the resources that satisfy a condition. -/
def positions (holds : Resource → Bool) (resources : List Resource) : List Nat :=
  (List.range resources.length).filter fun position => resources[position]?.any holds

/-- The position of the resource with a current id, if there is one. -/
def indexOf (collection : Collection) (id : ResourceId) : Except CollectionError (Option Nat) :=
  match positions (fun resource => resource.currentId == id) collection.resources with
  | [] => .ok none
  | [position] => .ok (some position)
  | several => .error (.ambiguous id several.length)

/-- The position of the resource with a current id, which must exist. -/
def position (collection : Collection) (id : ResourceId) : Except CollectionError Nat := do
  match ← collection.indexOf id with
  | some found => return found
  | none => throw (.notFound id)

/-- Fails if an id is the current id of a resource. -/
def requireFree (collection : Collection) (id : ResourceId) : Except CollectionError Unit := do
  match ← collection.indexOf id with
  | some _ => throw (.collision id)
  | none => return ()

/-- Adds a resource at the end, unless its current id is taken. -/
def append (collection : Collection) (resource : Resource) :
    Except CollectionError Collection := do
  collection.requireFree resource.currentId
  return { resources := collection.resources ++ [resource] }

/-- The collection of some resources with distinct current ids. -/
def ofResources (resources : List Resource) : Except CollectionError Collection :=
  resources.foldlM append empty

/-- The first of some ids that is among the ones before it or among given ones. -/
def firstRepeated (seen : IdSet) : List ResourceId → Option ResourceId
  | [] => none
  | id :: rest => if seen.contains id then some id else firstRepeated (seen.insert id) rest

/-- Fails if a current id of another collection is taken, also by an earlier one there. -/
def requireAllFree (collection other : Collection) : Except CollectionError Unit :=
  match firstRepeated (IdSet.ofList collection.ids) other.ids with
  | some id => .error (.collision id)
  | none => .ok ()

/-- Adds all resources of another collection, unless a current id is taken. -/
def appendAll (collection other : Collection) : Except CollectionError Collection := do
  collection.requireAllFree other
  return { resources := collection.resources ++ other.resources }

/-- Puts a resource in the place of the one with its current id. -/
def replace (collection : Collection) (resource : Resource) :
    Except CollectionError (Nat × Collection) := do
  let place ← collection.position resource.currentId
  return (place, { resources := collection.resources.set place resource })

/-- Removes the resource with a current id. -/
def remove (collection : Collection) (id : ResourceId) : Except CollectionError Collection := do
  let place ← collection.position id
  return { resources := collection.resources.eraseIdx place }

/-- The resources whose current id satisfies a condition. -/
def matchingCurrent (collection : Collection) (holds : ResourceId → Bool) : List Resource :=
  collection.resources.filter fun resource => holds resource.currentId

/-- The resources whose initial id satisfies a condition. -/
def matchingInitial (collection : Collection) (holds : ResourceId → Bool) : List Resource :=
  collection.resources.filter fun resource => holds resource.initialId

/-- The resources of which one id satisfies a condition. -/
def matchingAny (collection : Collection) (holds : ResourceId → Bool) : List Resource :=
  collection.resources.filter fun resource =>
    holds resource.initialId || holds resource.currentId

/-- The only member of a list of resources with an id. -/
def exactlyOne (id : ResourceId) : List Resource → Except CollectionError Resource
  | [resource] => .ok resource
  | found => .error (.ofCount id found.length)

/-- The resource with a current id. -/
def byCurrentId (collection : Collection) (id : ResourceId) : Except CollectionError Resource :=
  exactlyOne id (collection.matchingCurrent (· == id))

/-- The resource with an initial id. -/
def byInitialId (collection : Collection) (id : ResourceId) : Except CollectionError Resource :=
  exactlyOne id (collection.matchingInitial (· == id))

/-- The resource with an initial id, or else the one with that current id. -/
def byId (collection : Collection) (id : ResourceId) : Except CollectionError Resource :=
  match collection.byInitialId id with
  | .ok resource => .ok resource
  | .error _ => collection.byCurrentId id

/-- The collection without build annotations; where the metadata cannot be read they stay. -/
def stripAnnotations (collection : Collection) : Collection where
  resources := collection.resources.map fun resource => resource.removeBuildAnnotations.state

/-- The line between two documents. -/
def separator : String := "---\n"

/-- The texts of the documents, with a line between neighbours. -/
def toYaml (collection : Collection) : String :=
  Text.join separator (collection.resources.map Resource.toYaml)

/-- The collection of the resources of some documents. -/
def ofNodes (nodes : List Node) : Except CollectionError Collection := do
  ofResources (← (Resource.ofNodes nodes).mapError .document)

/-- The collection of the resources of a YAML text given as bytes of UTF-8. -/
def ofYaml (bytes : ByteArray) : Except CollectionError Collection := do
  ofResources (← (Resource.ofYamlStream bytes).mapError .document)

end Collection

end Manifest
