import Manifest.Identity.Gvk

/-!
# Resource identity

A resource is identified by its type, its namespace and its name.  Two ids are
equal when all their parts are: an empty namespace and the namespace `default`
differ as ids, although resources in them share their effective namespace.
-/

namespace Manifest

/-- The identity of a resource. -/
structure ResourceId where
  gvk : Gvk := {}
  namespaceName : String := ""
  name : String := ""
deriving DecidableEq, Repr, Inhabited

namespace ResourceId

/-- The namespace of a namespaceable resource that names none. -/
def defaultNamespace : String := "default"

/-- What stands for the namespace of a cluster-scoped resource. -/
def nonNamespaceable : String := "_non_namespaceable_"

/-- Whether the resource lives outside every namespace. -/
def isClusterScoped (id : ResourceId) : Bool :=
  id.gvk.isClusterScoped

/-- Whether the resource lives in a namespace. -/
def isNamespaceable (id : ResourceId) : Bool :=
  id.gvk.isNamespaceable

/-- The namespace by which resources are grouped and compared. -/
def effectiveNamespace (id : ResourceId) : String :=
  if id.isClusterScoped then nonNamespaceable
  else if id.namespaceName = "" then defaultNamespace
  else id.namespaceName

/-- Whether two ids share their effective namespace. -/
def sharesNamespace (left right : ResourceId) : Bool :=
  left.effectiveNamespace == right.effectiveNamespace

/-- The id as messages show it. -/
def text (id : ResourceId) : String :=
  id.gvk.text ++ "/" ++ Gvk.orElse id.name "[noName]" ++ "." ++
    Gvk.orElse id.namespaceName "[noNs]"

/-- Ids are ordered by type, then name, then namespace. -/
def compare (left right : ResourceId) : Ordering :=
  (left.gvk.compare right.gvk).then
    ((Ord.compare left.name right.name).then
      (Ord.compare left.namespaceName right.namespaceName))

end ResourceId

/-- A set of ids, as a list without repetitions. -/
structure IdSet where
  ids : List ResourceId := []
  nodup : ids.Nodup := by simp

namespace IdSet

/-- The set without members. -/
def empty : IdSet := {}

/-- Whether an id is a member. -/
def contains (set : IdSet) (id : ResourceId) : Bool :=
  set.ids.contains id

/-- The set with one more member; nothing changes for a member. -/
def insert (set : IdSet) (id : ResourceId) : IdSet :=
  if absent : id ∈ set.ids then set
  else
    { ids := set.ids ++ [id]
      nodup := by
        rw [List.nodup_append]
        refine ⟨set.nodup, by simp, ?_⟩
        intro member isMember other isOther
        rw [List.mem_singleton] at isOther
        rintro rfl
        exact absent (isOther ▸ isMember) }

/-- The set of the ids of a list. -/
def ofList (ids : List ResourceId) : IdSet :=
  ids.foldl insert empty

/-- The number of members. -/
def size (set : IdSet) : Nat :=
  set.ids.length

/-- Whether there is no member. -/
def isEmpty (set : IdSet) : Bool :=
  set.ids.isEmpty

/-- Sets are the same when they have the same members. -/
def same (left right : IdSet) : Bool :=
  left.size == right.size && left.ids.all right.contains

@[simp]
theorem contains_iff {set : IdSet} {id : ResourceId} :
    set.contains id = true ↔ id ∈ set.ids := by
  simp [contains]

@[simp]
theorem mem_insert {set : IdSet} {id other : ResourceId} :
    other ∈ (set.insert id).ids ↔ other ∈ set.ids ∨ other = id := by
  rw [insert]
  split
  · rename_i present
    constructor
    · exact Or.inl
    · rintro (old | rfl)
      · exact old
      · exact present
  · simp

@[simp]
theorem mem_ofList {ids : List ResourceId} {id : ResourceId} :
    id ∈ (ofList ids).ids ↔ id ∈ ids := by
  suffices general :
      ∀ (set : IdSet), id ∈ (ids.foldl insert set).ids ↔ id ∈ set.ids ∨ id ∈ ids by
    rw [ofList, general]
    simp [empty]
  induction ids with
  | nil => simp
  | cons head rest inductionHypothesis =>
    intro set
    rw [List.foldl_cons, inductionHypothesis, mem_insert, List.mem_cons, or_assoc]

end IdSet

end Manifest
