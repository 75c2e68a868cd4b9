import Manifest.Collection.Absorb
import Manifest.Collection.Patch
import Manifest.Collection.Query

/-!
# Collections that share resources

Resources live in the cells of a pool, and a shared collection is a list of
handles of cells.  A shallow copy has the same handles: what is written into a
cell shows in every collection that has its handle, while the handles of one
collection can be added and removed without an effect on others.

The view of handles is the collection of what their cells hold.  An operation
on handles asks the view what it needs, works on copies of the resources, and
writes its results back one by one.
-/

namespace Manifest

/-- The number of a cell. -/
abbrev Handle := Nat

/-- Resources in numbered cells. -/
structure Pool where
  cells : List Resource := []

/-- A pool and the handles of one collection in it. -/
structure Shared where
  pool : Pool
  handles : List Handle

namespace Pool

/-- The content of a cell. -/
def read? (pool : Pool) (handle : Handle) : Option Resource :=
  pool.cells[handle]?

/-- Writes into a cell. -/
def write (pool : Pool) (handle : Handle) (resource : Resource) : Pool where
  cells := pool.cells.set handle resource

/-- The collection of what the cells of some handles hold. -/
def view (pool : Pool) (handles : List Handle) : Collection where
  resources := handles.filterMap pool.read?

/-- Puts resources into new cells. -/
def allocate (pool : Pool) (resources : List Resource) : Shared where
  pool := { cells := pool.cells ++ resources }
  handles := List.range' pool.cells.length resources.length

end Pool

namespace Shared

/-- The collection of what the cells hold. -/
def view (shared : Shared) : Collection :=
  shared.pool.view shared.handles

/-- What is done to a shared collection. -/
abbrev Action (α : Type) := Change CollectionError Shared α

/-- Asks the collection something. -/
def ask {α : Type} (question : Collection → Except CollectionError α) : Action α :=
  .reading fun shared => question shared.view

/-- Writes a resource into the cell at a position. -/
def put (place : Nat) (resource : Resource) : Action Unit :=
  .writing fun shared =>
    match shared.handles[place]? with
    | some handle => { shared with pool := shared.pool.write handle resource }
    | none => shared

/-- Puts a resource into a new cell and adds its handle at the end. -/
def add (resource : Resource) : Action Unit :=
  .writing fun shared =>
    { pool := { cells := shared.pool.cells ++ [resource] }
      handles := shared.handles ++ [shared.pool.cells.length] }

/-- Drops the handle at a position. -/
def drop (place : Nat) : Action Unit :=
  .writing fun shared => { shared with handles := shared.handles.eraseIdx place }

/-- Writes a resource to a position below `count`, and adds it otherwise. -/
def putOrAdd (count place : Nat) (resource : Resource) : Action Unit :=
  if place < count then put place resource else add resource

/-- Writes resources to the positions from `place` on, and adds those from `count` on. -/
def putFrom (count place : Nat) : List Resource → Action Unit
  | [] => pure ()
  | resource :: rest => do
      putOrAdd count place resource
      putFrom count (place + 1) rest

/-- Writes a resource to a position if it was changed. -/
def putIf (isChanged : Bool) (place : Nat) (resource : Resource) : Action Unit :=
  if isChanged then put place resource else pure ()

/--
Writes the changed ones of some resources to the positions from `place` on, and
adds those that have no mark.
-/
def putChanged (place : Nat) : List Bool → List Resource → Action Unit
  | isChanged :: marks, resource :: rest => do
      putIf isChanged place resource
      putChanged (place + 1) marks rest
  | _, added => added.forM add

/-- Writes a result to a position, or drops the handle there. -/
def putOrDrop (place : Nat) : Option Resource → Action Unit
  | some resource => put place resource
  | none => drop place

/--
Writes results to the positions from `place` on, and drops the handles that have
none.  The last one goes first, so that the positions before it stay.
-/
def siftFrom (place : Nat) : List (Option Resource) → Action Unit
  | [] => pure ()
  | result :: rest => do
      siftFrom (place + 1) rest
      putOrDrop place result

/-- Adds a resource at the end. -/
def append (resource : Resource) : Action Unit := do
  ask fun collection => collection.requireFree resource.currentId
  add resource

/-- Adds copies of all resources of a collection. -/
def appendAll (other : Collection) : Action Unit := do
  ask fun collection => collection.requireAllFree other
  other.resources.forM add

/-- Absorbs copies of the resources of a collection. -/
def absorbAll (other : Collection) : Action Unit := do
  let copies ← ask fun collection => .ok collection.resources
  let draft ← other.resources.foldlM
    (fun draft incoming => .lift (Collection.Draft.absorb draft incoming))
    (Collection.Draft.ofResources copies)
  putChanged 0 draft.changed draft.resources

/-- Writes a resource into the cell of the one with its current id, and gives its position. -/
def replace (resource : Resource) : Action Nat := do
  let place ← ask fun collection => collection.position resource.currentId
  put place resource
  return place

/-- Drops the handle of the resource with a current id. -/
def remove (id : ResourceId) : Action Unit := do
  let place ← ask fun collection => collection.position id
  drop place

/-- Drops all handles. -/
def clear : Action Unit :=
  .writing fun shared => { shared with handles := [] }

/-- Applies a patch to the resources whose current ids are targets. -/
def applyPatch (targets : IdSet) (patch : Node) : Action Unit := do
  ask fun collection => collection.requireTargets targets.ids
  let results ← ask fun collection =>
    Collection.patchedAll targets patch collection.resources
  siftFrom 0 results

/-- Removes the build annotations. -/
def stripAnnotations : Action Unit := do
  let copies ← ask fun collection => .ok collection.resources
  putFrom copies.length 0
    (copies.map fun resource => resource.removeBuildAnnotations.state)

/-- Keeps the handles of the resources that a resource can refer to. -/
def keepReferenced (referrer : Resource) : Action Unit := do
  let holds ← ask fun _ => Collection.reference referrer
  .writing fun shared =>
    { shared with
      handles := shared.handles.filter fun handle =>
        (shared.pool.read? handle).any fun resource => holds resource.currentId }

/-- Puts copies of the resources into new cells and takes their handles instead. -/
def detach : Action Unit :=
  .writing fun shared => shared.pool.allocate shared.view.resources

end Shared

end Manifest
