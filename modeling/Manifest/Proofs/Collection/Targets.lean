import Manifest.Proofs.Collection.Aliasing
import Manifest.Proofs.Collection.Following

/-!
# What a patch makes of a collection

The results for all resources are computed before the first one is written, and they
are written from the last to the first: a deletion then leaves the positions of those
that are still to be written.  What remains is the row of the results without the
deletions, in the old order, for any number of resources and any targets among them.
-/

namespace Manifest

namespace Collection

/-! ## The targets -/

/-- A search finds each of distinct ids. -/
theorem IsDistinct.exists_position
    {collection : Collection}
    (distinct : collection.IsDistinct)
    {id : ResourceId}
    (member : id ∈ collection.ids) :
    ∃ place, collection.position id = .ok place := by
  rcases List.mem_map.1 member with ⟨resource, inCollection, rfl⟩
  rcases List.append_of_mem inCollection with ⟨before, after, same⟩
  rw [IsDistinct, ids, same, List.map_append, List.map_cons, List.nodup_append] at distinct
  rcases distinct with ⟨_, afterDistinct, apart⟩
  have notAfter : ∀ other ∈ after, (other.currentId == resource.currentId) = false := by
    intro other inAfter
    rw [beq_eq_false_iff_ne]
    intro sameId
    exact (List.nodup_cons.1 afterDistinct).1 (sameId ▸ List.mem_map_of_mem inAfter)
  have notBefore : ∀ other ∈ before, (other.currentId == resource.currentId) = false := by
    intro other inBefore
    rw [beq_eq_false_iff_ne]
    exact apart other.currentId (List.mem_map_of_mem inBefore) resource.currentId
      List.mem_cons_self
  have only :=
    positions_eq_singleton (beq_self_eq_true resource.currentId) notBefore notAfter
  refine ⟨before.length, ?_⟩
  rw [position, indexOf, same, only]
  rfl

/-- Targets are accepted exactly if all of them are current ids. -/
theorem IsDistinct.requireTargets_eq_ok
    {collection : Collection}
    (distinct : collection.IsDistinct)
    {targets : List ResourceId} :
    collection.requireTargets targets = .ok () ↔ ∀ id ∈ targets, id ∈ collection.ids := by
  induction targets with
  | nil => simp [requireTargets]
  | cons target rest inductionHypothesis =>
      rw [requireTargets, Result.bind_eq_ok, List.forall_mem_cons, ← inductionHypothesis]
      constructor
      · rintro ⟨place, found, others⟩
        rcases currentId_of_position found with ⟨resource, atPlace, rfl⟩
        exact ⟨List.mem_map_of_mem (List.mem_of_getElem? atPlace), others⟩
      · rintro ⟨member, others⟩
        rcases distinct.exists_position member with ⟨place, found⟩
        exact ⟨place, found, others⟩

theorem IsDistinct.patchResults_eq_ok
    {collection : Collection}
    (distinct : collection.IsDistinct)
    {targets : IdSet}
    {patch : Node}
    {results : List (Option Resource)} :
    collection.patchResults targets patch = .ok results ↔
      (∀ id ∈ targets.ids, id ∈ collection.ids) ∧
        List.Forall₂ (PatchedTo targets patch) collection.resources results := by
  rw [patchResults, Result.bind_eq_ok, ← distinct.requireTargets_eq_ok, ← patchedAll_eq_ok]
  constructor
  · rintro ⟨_, accepted, patches⟩
    exact ⟨accepted, patches⟩
  · rintro ⟨accepted, patches⟩
    exact ⟨(), accepted, patches⟩

end Collection

/-! ## Patched collections -/

namespace Shared

open Collection (PatchedTo)

/-- Handles that show distinct ids are distinct. -/
theorem valid_of_isDistinct
    {shared : Shared}
    (inRange : ∀ handle ∈ shared.handles, handle < shared.pool.cells.length)
    (distinct : shared.view.IsDistinct) :
    shared.Valid where
  inRange := inRange
  distinct := by
    rw [List.nodup_iff_sublist]
    intro handle twice
    have inside : handle < shared.pool.cells.length :=
      inRange handle (twice.subset List.mem_cons_self)
    have reads : shared.pool.ids[handle]? = some shared.pool.cells[handle].currentId := by
      rw [Pool.ids, List.getElem?_map, List.getElem?_eq_getElem inside, Option.map_some]
    have repeated :
        [shared.pool.cells[handle].currentId, shared.pool.cells[handle].currentId].Sublist
          shared.view.ids := by
      have shown := twice.filterMap fun handle => shared.pool.ids[handle]?
      rw [view, Pool.ids_view]
      simpa only [List.filterMap_cons, List.filterMap_nil, reads] using shown
    exact List.nodup_iff_sublist.1 distinct _ repeated

section

variable
  {targets : IdSet}
  {patch : Node}
  {shared : Shared}

/-- A run of a patch is the patch of what the handles show. -/
theorem run_applyPatch_eq_done
    (isValid : shared.Valid)
    {remaining : List Resource} :
    (∃ next,
        (applyPatch targets patch).run shared = .done () next ∧
          next.view.resources = remaining) ↔
      shared.view.applyPatch targets patch = .ok { resources := remaining } := by
  rw [← (applyPatch_follows targets patch).final isValid]
  constructor
  · rintro ⟨next, runs, rfl⟩
    rw [runs]
    rfl
  · intro succeeds
    rcases Result.map_eq_ok.1 succeeds with ⟨next, final, shows⟩
    rcases Result.map_eq_ok.1 final with ⟨_, result, rfl⟩
    exact ⟨_, Outcome.eq_done result, congrArg Collection.resources shows⟩

/--
A patch of a collection with distinct ids succeeds exactly if its targets are there and it
has a result for each resource.  What remains is then the row of these results, in the old
order and with the ids and the behaviors of before.
-/
theorem run_applyPatch_iff
    (inRange : ∀ handle ∈ shared.handles, handle < shared.pool.cells.length)
    (distinct : shared.view.IsDistinct) :
    (∀ remaining,
      (∃ next,
          (applyPatch targets patch).run shared = .done () next ∧
            next.view.resources = remaining) ↔
        (∀ id ∈ targets.ids, id ∈ shared.view.ids) ∧
          ∃ results,
            List.Forall₂ (PatchedTo targets patch) shared.view.resources results ∧
              remaining = results.filterMap id) ∧
      ∀ next,
        (applyPatch targets patch).run shared = .done () next →
          (next.view.resources.map Resource.identity).Sublist
            (shared.view.resources.map Resource.identity) := by
  have isValid := valid_of_isDistinct inRange distinct
  have decided :
      ∀ remaining,
        (∃ next,
            (applyPatch targets patch).run shared = .done () next ∧
              next.view.resources = remaining) ↔
          (∀ id ∈ targets.ids, id ∈ shared.view.ids) ∧
            ∃ results,
              List.Forall₂ (PatchedTo targets patch) shared.view.resources results ∧
                remaining = results.filterMap id := by
    intro remaining
    rw [run_applyPatch_eq_done isValid, Collection.applyPatch, Result.map_eq_ok]
    simp only [distinct.patchResults_eq_ok, Collection.mk.injEq]
    constructor
    · rintro ⟨results, ⟨accepted, patchedTo⟩, rfl⟩
      exact ⟨accepted, results, patchedTo, rfl⟩
    · rintro ⟨accepted, results, patchedTo, rfl⟩
      exact ⟨results, ⟨accepted, patchedTo⟩, rfl⟩
  refine ⟨decided, ?_⟩
  intro next runs
  rcases (decided _).1 ⟨next, runs, rfl⟩ with ⟨_, results, patchedTo, shows⟩
  rw [shows]
  exact Collection.identities_sublist patchedTo

end

/-- Four configuration maps, two of which are patched. -/
def fourMaps : Shared :=
  Pool.allocate {} [.ofName "cache", .ofName "web", .ofName "db", .ofName "queue"]

/-- Two neighbours are deleted, and those around them stay. -/
theorem run_applyPatch_fourMaps :
    ∃ next,
      (applyPatch (.ofList [(Resource.ofName "db").currentId, (Resource.ofName "web").currentId])
          (.mapping [(Directive.key, .ofText "delete")])).run fourMaps = .done () next ∧
        next.view.resources = [.ofName "cache", .ofName "queue"] := by
  have distinct : fourMaps.view.IsDistinct := by
    rw [Collection.IsDistinct]
    decide
  have results :
      List.Forall₂
        (PatchedTo (.ofList [(Resource.ofName "db").currentId, (Resource.ofName "web").currentId])
          (.mapping [(Directive.key, .ofText "delete")]))
        fourMaps.view.resources
        [some (.ofName "cache"), none, none, some (.ofName "queue")] :=
    .cons (.stays (by decide)) <| .cons (.deletes (by decide) rfl rfl) <|
      .cons (.deletes (by decide) rfl rfl) <| .cons (.stays (by decide)) .nil
  exact ((run_applyPatch_iff (by decide) distinct).1 _).2 ⟨by decide, _, results, rfl⟩

end Shared

end Manifest
