import Manifest.Collection.Absorb
import Manifest.Proofs.Result
import Mathlib.Data.List.Nodup

/-!
# Positions of ids

What the searches of a collection say about its resources: a position that is
found is that of a resource with the id, and where none is found no resource
has it.  One step of absorbing is described by what it found.
-/

namespace Manifest.Collection

/-! ## Searches -/

theorem mem_positions
    {holds : Resource → Bool}
    {resources : List Resource}
    {place : Nat} :
    place ∈ positions holds resources ↔
      ∃ resource, resources[place]? = some resource ∧ holds resource = true := by
  rw [positions, List.mem_filter, List.mem_range, Option.any_eq_true]
  constructor
  · rintro ⟨_, resource, atPlace, holdsThere⟩
    exact ⟨resource, atPlace, holdsThere⟩
  · rintro ⟨resource, atPlace, holdsThere⟩
    exact ⟨(List.getElem?_eq_some_iff.1 atPlace).1, resource, atPlace, holdsThere⟩

/-- Where no position is found, no resource satisfies the condition. -/
theorem positions_eq_nil
    {holds : Resource → Bool}
    {resources : List Resource} :
    positions holds resources = [] ↔ ∀ resource ∈ resources, holds resource = false := by
  rw [List.eq_nil_iff_forall_not_mem]
  constructor
  · intro noPosition resource member
    rcases List.mem_iff_getElem?.1 member with ⟨place, atPlace⟩
    cases holdsThere : holds resource with
    | false => rfl
    | true =>
        exact absurd (mem_positions.2 ⟨resource, atPlace, holdsThere⟩) (noPosition place)
  · intro noResource place member
    rcases mem_positions.1 member with ⟨resource, atPlace, holdsThere⟩
    rw [noResource resource (List.mem_of_getElem? atPlace)] at holdsThere
    contradiction

/-- A search finds only one position if the condition holds there and nowhere else. -/
theorem positions_eq_singleton
    {holds : Resource → Bool}
    {before after : List Resource}
    {resource : Resource}
    (holdsThere : holds resource = true)
    (notBefore : ∀ other ∈ before, holds other = false)
    (notAfter : ∀ other ∈ after, holds other = false) :
    positions holds (before ++ resource :: after) = [before.length] := by
  have distinct : (positions holds (before ++ resource :: after)).Nodup :=
    List.nodup_range.filter _
  apply List.perm_singleton.1
  rw [List.perm_ext_iff_of_nodup distinct (List.nodup_singleton before.length)]
  intro place
  rw [mem_positions, List.mem_singleton]
  constructor
  · rintro ⟨other, atPlace, holdsOther⟩
    rcases Nat.lt_trichotomy place before.length with isBefore | isThere | isAfter
    · rw [List.getElem?_append_left isBefore] at atPlace
      rw [notBefore other (List.mem_of_getElem? atPlace)] at holdsOther
      contradiction
    · exact isThere
    · rw [List.getElem?_append_right (Nat.le_of_lt isAfter),
        List.getElem?_cons, if_neg (by omega)] at atPlace
      rw [notAfter other (List.mem_of_getElem? atPlace)] at holdsOther
      contradiction
  · rintro rfl
    exact ⟨resource, by simp, holdsThere⟩

theorem indexOf_eq_none
    {collection : Collection}
    {id : ResourceId} :
    collection.indexOf id = .ok none ↔ id ∉ collection.ids := by
  have noneFound :
      positions (fun resource => resource.currentId == id) collection.resources = [] ↔
        id ∉ collection.ids := by
    rw [positions_eq_nil]
    simp [ids]
  rw [indexOf, ← noneFound]
  split <;> simp_all

/-- The position that a search for an id finds is that of a resource with it. -/
theorem currentId_of_indexOf
    {collection : Collection}
    {id : ResourceId}
    {place : Nat}
    (found : collection.indexOf id = .ok (some place)) :
    ∃ resource, collection.resources[place]? = some resource ∧ resource.currentId = id := by
  rw [indexOf] at found
  split at found
  · cases found
  · rename_i onlyPlace only
    cases found
    rcases mem_positions.1 (only ▸ List.mem_singleton_self place) with ⟨resource, atPlace, hasId⟩
    exact ⟨resource, atPlace, eq_of_beq hasId⟩
  · cases found

theorem currentId_of_position
    {collection : Collection}
    {id : ResourceId}
    {place : Nat}
    (found : collection.position id = .ok place) :
    ∃ resource, collection.resources[place]? = some resource ∧ resource.currentId = id := by
  rw [position, Result.bind_eq_ok] at found
  rcases found with ⟨result, searched, found⟩
  cases result with
  | none => cases found
  | some other =>
      cases found
      exact currentId_of_indexOf searched

theorem requireFree_eq_ok
    {collection : Collection}
    {id : ResourceId} :
    collection.requireFree id = .ok () ↔ id ∉ collection.ids := by
  rw [← indexOf_eq_none, requireFree, Result.bind_eq_ok]
  constructor
  · rintro ⟨result, searched, succeeds⟩
    cases result with
    | none => exact searched
    | some place => cases succeeds
  · intro searched
    exact ⟨none, searched, rfl⟩

/-- The position at which an incoming id meets a resource is inside the list. -/
theorem lt_of_meeting
    {resources : List Resource}
    {id : ResourceId}
    {place : Nat}
    (meets : meeting resources id = .ok (some place)) :
    place < resources.length := by
  have inside :
      ∀ {holds : Resource → Bool},
        positions holds resources = [place] → place < resources.length := by
    intro holds only
    rcases mem_positions.1 (only ▸ List.mem_singleton_self place) with ⟨resource, atPlace, _⟩
    exact (List.getElem?_eq_some_iff.1 atPlace).1
  rw [meeting] at meets
  split at meets
  · rename_i only
    cases meets
    exact inside only
  · split at meets
    · rename_i only
      cases meets
      exact inside only
    · split at meets <;> cases meets
    · cases meets

/-- An incoming id that meets no resource is the current id of none. -/
theorem not_mem_of_meeting
    {resources : List Resource}
    {id : ResourceId}
    (meets : meeting resources id = .ok none) :
    id ∉ resources.map Resource.currentId := by
  rw [meeting] at meets
  split at meets
  · cases meets
  · split at meets
    · cases meets
    · rename_i noCurrent
      rw [positions_eq_nil] at noCurrent
      simpa using noCurrent
    · cases meets

/-! ## One step of absorbing -/

/-- What absorbing one resource makes of a list of resources. -/
inductive AbsorbStep (resources : List Resource) (incoming : Resource) :
    List Resource → Prop where
  /-- The incoming resource is merged into the one that it meets. -/
  | merges
      {place : Nat}
      {existing merged : Resource}
      (asked : incoming.behavior = .merge)
      (atPlace : resources[place]? = some existing)
      (merges : existing.mergedWith incoming = .ok merged) :
      AbsorbStep resources incoming (resources.set place merged)
  /-- The incoming resource takes the place of the one that it meets. -/
  | replaces
      {place : Nat}
      (asked : incoming.behavior = .replace)
      (inside : place < resources.length)
      (free : isTakenElsewhere resources place incoming.currentId = false) :
      AbsorbStep resources incoming (resources.set place incoming)
  | adds
      (asked : incoming.behavior.needsExisting = false)
      (free : incoming.currentId ∉ resources.map Resource.currentId) :
      AbsorbStep resources incoming (resources ++ [incoming])

/-- Absorbing a resource merges it, puts it in the place of another one, or adds it. -/
theorem absorbStep_of_absorbOne
    {resources result : List Resource}
    {incoming : Resource}
    (succeeds : absorbOne resources incoming = .ok result) :
    AbsorbStep resources incoming result := by
  rw [absorbOne, Result.bind_eq_ok] at succeeds
  rcases succeeds with ⟨met, meets, succeeds⟩
  cases met with
  | none =>
      rw [absorbMet] at succeeds
      split at succeeds
      · cases succeeds
      · rename_i asked
        cases succeeds
        exact .adds (by simpa using asked) (not_mem_of_meeting meets)
  | some place =>
      have inside : place < resources.length := lt_of_meeting meets
      rw [absorbMet, absorbAt] at succeeds
      split at succeeds
      · rename_i existing asked atPlace
        rw [Result.map_eq_ok] at succeeds
        rcases succeeds with ⟨merged, mergeSucceeds, same⟩
        rw [← same]
        exact .merges asked atPlace (Result.mapError_eq_ok.1 mergeSucceeds)
      · rename_i asked
        split at succeeds
        · cases succeeds
        · rename_i free
          cases succeeds
          exact .replaces asked inside (by simpa using free)
      · cases succeeds

/-- What each step of absorbing keeps holds after absorbing a collection. -/
theorem absorbAll_invariant
    (holds : List Resource → Prop)
    {other : Collection}
    (kept :
      ∀ incoming ∈ other.resources, ∀ resources result,
        holds resources → AbsorbStep resources incoming result → holds result)
    {start final : List Resource}
    (holdsStart : holds start)
    (succeeds : other.resources.foldlM absorbOne start = .ok final) :
    holds final := by
  refine Result.foldlM_invariant holds ?_ start final holdsStart succeeds
  intro incoming member resources result holdsBefore stepSucceeds
  exact kept incoming member resources result holdsBefore
    (absorbStep_of_absorbOne stepSucceeds)

end Manifest.Collection
