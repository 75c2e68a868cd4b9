import Manifest.Collection.Pool

/-!
# Named collections

A workspace holds collections by name over one pool of resources, so that they
can share resources.
-/

namespace Manifest

/-- Collections by name over one pool. -/
structure Workspace where
  pool : Pool := {}
  slots : List (String × List Handle) := []

namespace Workspace

/-- The handles of a collection; without one of this name there are none. -/
def handles (workspace : Workspace) (name : String) : List Handle :=
  (Fields.get? name workspace.slots).getD []

/-- A collection with its pool. -/
def shared (workspace : Workspace) (name : String) : Shared where
  pool := workspace.pool
  handles := workspace.handles name

/-- A collection. -/
def view (workspace : Workspace) (name : String) : Collection :=
  (workspace.shared name).view

/-- Makes sure that there is a collection of a name. -/
def ensure (workspace : Workspace) (name : String) : Workspace where
  pool := workspace.pool
  slots := Fields.ensure name [] workspace.slots

/-- Sets a collection, together with the pool. -/
def put (workspace : Workspace) (name : String) (shared : Shared) : Workspace where
  pool := shared.pool
  slots := Fields.set name shared.handles workspace.slots

/-- Sets a collection to copies of some resources. -/
def store (workspace : Workspace) (name : String) (collection : Collection) : Workspace :=
  workspace.put name (workspace.pool.allocate collection.resources)

/-- Leaves a collection without resources. -/
def clear (workspace : Workspace) (name : String) : Workspace :=
  workspace.put name { pool := workspace.pool, handles := [] }

/-- All collections. -/
def collections (workspace : Workspace) : List (String × Collection) :=
  workspace.slots.map fun slot => (slot.1, workspace.pool.view slot.2)

end Workspace

end Manifest
