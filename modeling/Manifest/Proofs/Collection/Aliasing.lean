import Manifest.Proofs.Collection.Run

/-!
# Collections that share cells

Collections over one pool can have handles of the same cells.  Each of them keeps
its own current ids distinct, and none looks at another one.  What one of them
writes shows in all that have the handle; so distinct ids stay distinct everywhere
as long as every write leaves the cell with the current id that it had.

Absorbing is the only operation that can give a cell another current id: it finds
a resource by its initial id as well, and writes one with another current id into
its cell.
-/

namespace Manifest

namespace Pool

/-- The current ids in the cells. -/
def ids (pool : Pool) : List ResourceId :=
  pool.cells.map Resource.currentId

/-- The ids of a collection are those in its cells. -/
theorem ids_view
    (pool : Pool)
    (handles : List Handle) :
    (pool.view handles).ids = handles.filterMap fun handle => pool.ids[handle]? := by
  simp only [Collection.ids, view, ids, List.map_filterMap, read?, List.getElem?_map]

/-- Where the ids in the cells stay, every collection keeps its ids. -/
theorem ids_view_of_prefix
    {pool next : Pool}
    (kept : pool.ids <+: next.ids)
    {handles : List Handle}
    (inRange : ∀ handle ∈ handles, handle < pool.cells.length) :
    (next.view handles).ids = (pool.view handles).ids := by
  rw [ids_view, ids_view]
  apply List.filterMap_congr
  intro handle member
  have inside : handle < pool.ids.length := by
    rw [ids, List.length_map]
    exact inRange handle member
  rcases kept with ⟨added, same⟩
  rw [← same, List.getElem?_append_left inside]

end Pool

namespace Shared

open Change

/-! ## Writes that leave the ids of the cells -/

/-- The current id of the resource at a position. -/
def idAt? (shared : Shared) (place : Nat) : Option ResourceId :=
  shared.handles[place]?.bind fun handle => shared.pool.ids[handle]?

theorem idAt?_eq
    {shared : Shared}
    (isValid : shared.Valid)
    (place : Nat) :
    shared.idAt? place = shared.view.ids[place]? := by
  rw [Collection.ids, List.getElem?_map, view, Pool.getElem?_view isValid.inRange, idAt?]
  cases shared.handles[place]? with
  | none => rfl
  | some handle => simp [Pool.ids, Pool.read?]

/-- An action leaves the ids in the cells as they were; new cells may come behind them. -/
def KeepsIds {ε α : Type} (shared : Shared) (action : Change ε Shared α) : Prop :=
  shared.pool.ids <+: (action.run shared).state.pool.ids

/-- A resource with the current id of its place leaves the ids of all cells. -/
theorem run_put_sameId
    {shared : Shared}
    {place : Nat}
    {resource : Resource}
    (sameId : ∀ id, shared.idAt? place = some id → resource.currentId = id) :
    ∃ next,
      (put place resource).run shared = .done () next ∧
      next.handles = shared.handles ∧
      next.pool.ids = shared.pool.ids := by
  rw [put, run_writing]
  cases atPlace : shared.handles[place]? with
  | none => exact ⟨shared, rfl, rfl, rfl⟩
  | some handle =>
      refine ⟨{ shared with pool := shared.pool.write handle resource }, rfl, rfl, ?_⟩
      rw [idAt?, atPlace, Option.bind_some] at sameId
      rw [Pool.ids, Pool.write, List.map_set]
      change shared.pool.ids.set handle resource.currentId = shared.pool.ids
      cases inCell : shared.pool.ids[handle]? with
      | none => exact List.set_eq_of_length_le (List.getElem?_eq_none_iff.1 inCell)
      | some id =>
          rcases List.getElem?_eq_some_iff.1 inCell with ⟨inside, same⟩
          rw [sameId id inCell, ← same, List.set_getElem_self]

/-- Added resources are in new cells behind the others, with their handles behind the others. -/
theorem run_forM_add (resources : List Resource) :
    ∀ shared : Shared,
      ∃ next,
        (resources.forM add).run shared = .done () next ∧
        next.pool.cells = shared.pool.cells ++ resources ∧
        shared.handles <+: next.handles := by
  induction resources with
  | nil =>
      intro shared
      exact ⟨shared, rfl, (List.append_nil _).symm, List.prefix_rfl⟩
  | cons resource rest inductionHypothesis =>
      intro shared
      rcases inductionHypothesis ((add resource).run shared).state with
        ⟨next, runs, nextCells, nextHandles⟩
      exact ⟨next, runs, nextCells.trans (List.append_assoc _ [resource] rest),
        (List.prefix_append _ _).trans nextHandles⟩

theorem keepsIds_forM_add
    (resources : List Resource)
    (shared : Shared) :
    shared.KeepsIds (resources.forM add) := by
  rcases run_forM_add resources shared with ⟨next, runs, nextCells, _⟩
  rw [KeepsIds, runs]
  change shared.pool.ids <+: next.pool.ids
  rw [Pool.ids, Pool.ids, nextCells, List.map_append]
  exact List.prefix_append _ _

theorem keepsIds_add
    (resource : Resource)
    (shared : Shared) :
    shared.KeepsIds (add resource) :=
  keepsIds_forM_add [resource] shared

/-- A row that is written from a position on leaves the ids of all cells. -/
theorem keepsIds_putChanged
    (marks : List Bool) :
    ∀ (place : Nat) (resources : List Resource) (shared : Shared),
      (∀ offset resource id,
        offset < marks.length → resources[offset]? = some resource →
          shared.idAt? (place + offset) = some id → resource.currentId = id) →
      shared.KeepsIds (putChanged place marks resources) := by
  induction marks with
  | nil =>
      intro place resources shared _
      rw [putChanged.eq_def]
      exact keepsIds_forM_add resources shared
  | cons isChanged marks inductionHypothesis =>
      intro place resources shared sameIds
      cases resources with
      | nil => exact List.prefix_rfl
      | cons resource rest =>
          obtain ⟨next, runs, sameHandles, nextIds⟩ :
              ∃ next,
                (putIf isChanged place resource).run shared = .done () next ∧
                next.handles = shared.handles ∧
                next.pool.ids = shared.pool.ids := by
            cases isChanged with
            | true =>
                refine run_put_sameId fun id atPlace => ?_
                exact sameIds 0 resource id (Nat.zero_lt_succ _) rfl atPlace
            | false => exact ⟨shared, rfl, rfl, rfl⟩
          have restKeeps :
              next.KeepsIds (putChanged (place + 1) marks rest) := by
            apply inductionHypothesis
            intro offset other id inside atOffset hasId
            refine sameIds (offset + 1) other id (Nat.succ_lt_succ inside) atOffset ?_
            rw [idAt?, sameHandles, nextIds, Nat.add_assoc, Nat.add_comm 1] at hasId
            exact hasId
          rw [KeepsIds, nextIds] at restKeeps
          rw [KeepsIds, putChanged, run_bind, runs, Outcome.andThen_done]
          exact restKeeps

/-- Written from a position on, resources with the ids of their places leave all ids. -/
theorem keepsIds_putFrom
    (count : Nat)
    (resources : List Resource) :
    ∀ (place : Nat) (shared : Shared),
      (∀ offset resource id,
        place + offset < count → resources[offset]? = some resource →
          shared.idAt? (place + offset) = some id → resource.currentId = id) →
      shared.KeepsIds (putFrom count place resources) := by
  induction resources with
  | nil =>
      intro place shared _
      exact List.prefix_rfl
  | cons resource rest inductionHypothesis =>
      intro place shared sameIds
      rw [KeepsIds, putFrom, run_bind, putOrAdd]
      split
      · rename_i inside
        have sameId : ∀ id, shared.idAt? place = some id → resource.currentId = id := by
          intro id hasId
          exact sameIds 0 resource id inside rfl hasId
        rcases run_put_sameId sameId with ⟨next, runs, sameHandles, nextIds⟩
        rw [runs, Outcome.andThen_done, ← nextIds]
        apply inductionHypothesis
        intro offset other id otherInside atOffset hasId
        refine sameIds (offset + 1) other id (by omega) atOffset ?_
        rw [idAt?, sameHandles, nextIds, Nat.add_assoc, Nat.add_comm 1] at hasId
        exact hasId
      · rename_i outside
        refine (keepsIds_add resource shared).trans (inductionHypothesis (place + 1) _ ?_)
        intro offset other id otherInside
        omega

/--
Results that have the ids of their places leave the ids of all cells; the handles
before the first of them stay.
-/
theorem run_siftFrom_sameIds
    (results : List (Option Resource)) :
    ∀ (place : Nat) (shared : Shared),
      (∀ offset resource id,
        results[offset]? = some (some resource) →
          shared.idAt? (place + offset) = some id → resource.currentId = id) →
      ∃ next,
        (siftFrom place results).run shared = .done () next ∧
        (∀ earlier < place, next.handles[earlier]? = shared.handles[earlier]?) ∧
        next.pool.ids = shared.pool.ids := by
  induction results with
  | nil =>
      intro place shared _
      exact ⟨shared, rfl, fun _ _ => rfl, rfl⟩
  | cons result rest inductionHypothesis =>
      intro place shared sameIds
      have restSameIds :
          ∀ offset resource id,
            rest[offset]? = some (some resource) →
              shared.idAt? (place + 1 + offset) = some id → resource.currentId = id := by
        intro offset resource id atOffset hasId
        rw [Nat.add_assoc, Nat.add_comm 1] at hasId
        exact sameIds (offset + 1) resource id atOffset hasId
      rcases inductionHypothesis (place + 1) shared restSameIds with
        ⟨middle, runsRest, sameHandles, middleIds⟩
      rw [siftFrom, run_bind, runsRest, Outcome.andThen_done]
      cases result with
      | some resource =>
          have sameId : ∀ id, middle.idAt? place = some id → resource.currentId = id := by
            intro id hasId
            rw [idAt?, sameHandles place (Nat.lt_succ_self place), middleIds] at hasId
            exact sameIds 0 resource id rfl hasId
          rcases run_put_sameId sameId with ⟨next, runs, nextHandles, nextIds⟩
          refine ⟨next, runs, ?_, nextIds.trans middleIds⟩
          intro earlier isEarlier
          rw [nextHandles]
          exact sameHandles earlier (Nat.lt_succ_of_lt isEarlier)
      | none =>
          refine ⟨_, rfl, ?_, middleIds⟩
          intro earlier isEarlier
          rw [List.getElem?_eraseIdx, if_pos isEarlier]
          exact sameHandles earlier (Nat.lt_succ_of_lt isEarlier)

/-! ## Operations -/

theorem keepsIds_mapError
    {ε ε' α : Type}
    {shared : Shared}
    {action : Change ε Shared α}
    (keeps : shared.KeepsIds action)
    (embed : ε → ε') :
    shared.KeepsIds (action.mapError embed) :=
  keeps

/-- What is done with the answer to a question decides about the ids. -/
theorem keepsIds_ask
    {α β : Type}
    {shared : Shared}
    {question : Collection → Except CollectionError α}
    {next : α → Action β}
    (keeps : ∀ answer, question shared.view = .ok answer → shared.KeepsIds (next answer)) :
    shared.KeepsIds (ask question >>= next) := by
  rw [KeepsIds, run_bind, ask, run_reading]
  cases answered : question shared.view with
  | ok answer =>
      rw [Outcome.andThen_of_ok rfl]
      exact keeps answer answered
  | error error => exact List.prefix_rfl

theorem keepsIds_append
    (resource : Resource)
    (shared : Shared) :
    shared.KeepsIds (append resource) :=
  keepsIds_ask fun _ _ => keepsIds_add resource shared

theorem keepsIds_appendAll
    (other : Collection)
    (shared : Shared) :
    shared.KeepsIds (appendAll other) :=
  keepsIds_ask fun _ _ => keepsIds_forM_add other.resources shared

/-- Absorbing leaves the ids of the cells if it leaves those of the collection. -/
theorem keepsIds_absorbAll
    {other : Collection}
    {shared : Shared}
    (isValid : shared.Valid)
    (keeps :
      ∀ next, shared.view.absorbAll other = .ok next → shared.view.ids <+: next.ids) :
    shared.KeepsIds (absorbAll other) := by
  rw [KeepsIds, run_absorbAll, run_bind, lift, run_reading]
  cases absorbs :
      other.resources.foldlM Collection.Draft.absorb (.ofResources shared.view.resources) with
  | error error => exact List.prefix_rfl
  | ok draft =>
      have isExtension := Collection.Draft.extends_foldlM absorbs
      have sameResources :=
        Collection.Draft.resources_foldlM other.resources (.ofResources shared.view.resources)
      rw [absorbs] at sameResources
      have idsStay : shared.view.ids <+: Collection.ids { resources := draft.resources } := by
        apply keeps
        rw [Collection.absorbAll]
        exact congrArg (Except.map Collection.mk) sameResources.symm
      rw [Outcome.andThen_of_ok rfl]
      apply keepsIds_putChanged
      intro offset resource id _ atOffset hasId
      rw [Nat.zero_add, idAt?_eq isValid] at hasId
      rcases List.getElem?_eq_some_iff.1 hasId with ⟨inside, same⟩
      have sameId := List.prefix_iff_getElem?.1 idsStay offset inside
      rw [Collection.ids, List.getElem?_map, atOffset, Option.map_some, Option.some.injEq] at sameId
      rw [sameId, same]

/-- A resource takes the place of the one with its current id. -/
theorem keepsIds_replace
    {resource : Resource}
    {shared : Shared}
    (isValid : shared.Valid) :
    shared.KeepsIds (replace resource) := by
  refine keepsIds_ask fun place found => ?_
  have sameId : ∀ id, shared.idAt? place = some id → resource.currentId = id := by
    intro id hasId
    rcases Collection.currentId_of_position found with ⟨existing, atPlace, sameAsExisting⟩
    rw [idAt?_eq isValid, Collection.ids, List.getElem?_map, atPlace, Option.map_some,
      Option.some.injEq] at hasId
    rw [← hasId, sameAsExisting]
  rcases run_put_sameId sameId with ⟨next, runs, _, nextIds⟩
  rw [KeepsIds, run_bind, runs]
  exact nextIds ▸ List.prefix_rfl

theorem keepsIds_applyPatch
    {targets : IdSet}
    {patch : Node}
    {shared : Shared}
    (isValid : shared.Valid) :
    shared.KeepsIds (applyPatch targets patch) := by
  refine keepsIds_ask fun _ _ => keepsIds_ask fun results patches => ?_
  have sameIds :
      ∀ offset resource id,
        results[offset]? = some (some resource) →
          shared.idAt? (0 + offset) = some id → resource.currentId = id := by
    intro offset resource id atOffset hasId
    have patchedTo := Collection.patchedAll_eq_ok.1 patches
    rcases Collection.patchedTo_of_getElem? patchedTo atOffset with
      ⟨existing, atPlace, isResult⟩
    rw [Nat.zero_add, idAt?_eq isValid, Collection.ids, List.getElem?_map, atPlace,
      Option.map_some, Option.some.injEq] at hasId
    rw [isResult.sameCurrentId, hasId]
  rcases run_siftFrom_sameIds results 0 shared sameIds with ⟨next, runs, _, nextIds⟩
  rw [KeepsIds, runs]
  exact nextIds ▸ List.prefix_rfl

theorem keepsIds_stripAnnotations
    {shared : Shared}
    (isValid : shared.Valid) :
    shared.KeepsIds stripAnnotations := by
  refine keepsIds_ask fun copies answered => ?_
  cases answered
  apply keepsIds_putFrom
  intro offset resource id _ atOffset hasId
  rw [Nat.zero_add, idAt?_eq isValid, Collection.ids, List.getElem?_map] at hasId
  rw [List.getElem?_map] at atOffset
  cases atPlace : shared.view.resources[offset]? with
  | none =>
      rw [atPlace] at atOffset
      cases atOffset
  | some existing =>
      rw [atPlace] at atOffset hasId
      cases atOffset
      cases hasId
      exact Collection.removeBuildAnnotations_currentId existing

/-! ## Cells of other collections -/

theorem run_putIf_frame
    (isChanged : Bool)
    (place : Nat)
    (resource : Resource)
    (shared : Shared) :
    ∃ next,
      (putIf isChanged place resource).run shared = .done () next ∧
      next.handles = shared.handles ∧
      next.pool.cells.length = shared.pool.cells.length ∧
      ∀ cell, cell ∉ shared.handles → next.pool.read? cell = shared.pool.read? cell := by
  cases isChanged with
  | false => exact ⟨shared, rfl, rfl, rfl, fun _ _ => rfl⟩
  | true =>
      rw [putIf, if_pos rfl, put, run_writing]
      cases atPlace : shared.handles[place]? with
      | none => exact ⟨shared, rfl, rfl, rfl, fun _ _ => rfl⟩
      | some handle =>
          refine ⟨{ shared with pool := shared.pool.write handle resource }, rfl, rfl,
            List.length_set, ?_⟩
          intro cell isOther
          apply Pool.read?_write_other
          rintro rfl
          exact isOther (List.mem_of_getElem? atPlace)

/-- A row that is written back leaves the handles and all cells of other collections. -/
theorem run_putChanged_frame
    (marks : List Bool) :
    ∀ (place : Nat) (resources : List Resource) (shared : Shared),
      ∃ next,
        (putChanged place marks resources).run shared = .done () next ∧
        shared.handles <+: next.handles ∧
        ∀ cell < shared.pool.cells.length,
          cell ∉ shared.handles → next.pool.read? cell = shared.pool.read? cell := by
  induction marks with
  | nil =>
      intro place resources shared
      rcases run_forM_add resources shared with ⟨next, runs, nextCells, nextHandles⟩
      refine ⟨next, ?_, nextHandles, ?_⟩
      · rw [putChanged.eq_def]
        exact runs
      · intro cell inside _
        rw [Pool.read?, Pool.read?, nextCells, List.getElem?_append_left inside]
  | cons isChanged marks inductionHypothesis =>
      intro place resources shared
      cases resources with
      | nil => exact ⟨shared, rfl, List.prefix_rfl, fun _ _ _ => rfl⟩
      | cons resource rest =>
          rcases run_putIf_frame isChanged place resource shared with
            ⟨middle, runsFirst, sameHandles, sameLength, middleFrame⟩
          rcases inductionHypothesis (place + 1) rest middle with
            ⟨next, runsRest, nextHandles, nextFrame⟩
          refine ⟨next, ?_, sameHandles ▸ nextHandles, ?_⟩
          · rw [putChanged, run_bind, runsFirst, Outcome.andThen_done, runsRest]
          · intro cell inside isOther
            rw [nextFrame cell (sameLength ▸ inside) (sameHandles ▸ isOther),
              middleFrame cell isOther]

/-- Absorbing leaves the handles and all cells of other collections. -/
theorem absorbAll_frame
    (other : Collection)
    (shared : Shared) :
    shared.handles <+: ((absorbAll other).run shared).state.handles ∧
      ∀ cell < shared.pool.cells.length,
        cell ∉ shared.handles →
          ((absorbAll other).run shared).state.pool.read? cell = shared.pool.read? cell := by
  rw [run_absorbAll, run_bind, lift, run_reading]
  cases other.resources.foldlM Collection.Draft.absorb (.ofResources shared.view.resources) with
  | error error => exact ⟨List.prefix_rfl, fun _ _ _ => rfl⟩
  | ok draft =>
      rw [Outcome.andThen_of_ok rfl]
      rcases run_putChanged_frame draft.changed 0 draft.resources shared with
        ⟨next, runs, nextHandles, nextFrame⟩
      rw [runs]
      exact ⟨nextHandles, nextFrame⟩

/-- What absorbing makes of the resource at a position is in the cell that it had. -/
theorem read?_absorbAll
    {other next : Collection}
    {shared : Shared}
    (isValid : shared.Valid)
    (absorbs : shared.view.absorbAll other = .ok next)
    {place : Nat}
    {handle : Handle}
    (atPlace : shared.handles[place]? = some handle) :
    ((absorbAll other).run shared).state.pool.read? handle = next.resources[place]? := by
  have nextIsValid := (absorbAll_follows other shared isValid).1
  have showsNext := ((absorbAll_follows other).final isValid).trans absorbs
  rcases Result.map_eq_ok.1 showsNext with ⟨last, isFinal, nextView⟩
  rcases Result.map_eq_ok.1 isFinal with ⟨_, _, rfl⟩
  rcases List.getElem?_eq_some_iff.1 atPlace with ⟨inside, same⟩
  have stillThere :=
    List.prefix_iff_getElem?.1 (absorbAll_frame other shared).1 place inside
  rw [← nextView, view, Pool.getElem?_view nextIsValid.inRange, stillThere, same,
    Option.bind_some]

end Shared

namespace Operation

/-- The operation is no absorption that gives a resource of the collection another current id. -/
def KeepsIds : Operation → Collection → Prop
  | absorbAll other, collection =>
      ∀ next, collection.absorbAll other = .ok next → collection.ids <+: next.ids
  | _, _ => True

/-- A batch that replaces nothing gives no resource another current id. -/
theorem keepsIds_of_noReplacement
    {other : Collection}
    (noneReplaces : ∀ incoming ∈ other.resources, incoming.behavior ≠ .replace)
    (collection : Collection) :
    (absorbAll other).KeepsIds collection := by
  intro next absorbs
  rcases Result.map_eq_ok.1 absorbs with ⟨resources, absorbsList, rfl⟩
  refine
    Collection.absorbAll_invariant
      (fun resources => collection.ids <+: Collection.ids { resources }) ?_ List.prefix_rfl
      absorbsList
  intro incoming member before after idsStay step
  cases step with
  | merges _ atPlace merges =>
      rw [Collection.ids_set atPlace (Collection.mergedWith_currentId merges)]
      exact idsStay
  | replaces asked _ _ => exact absurd asked (noneReplaces incoming member)
  | adds _ _ =>
      refine idsStay.trans ?_
      rw [Collection.ids, Collection.ids, List.map_append]
      exact List.prefix_append _ _

theorem keepsIds_perform
    {operation : Operation}
    {shared : Shared}
    (isValid : shared.Valid)
    (keeps : operation.KeepsIds shared.view) :
    shared.KeepsIds operation.perform := by
  cases operation with
  | append resource => exact Shared.keepsIds_mapError (Shared.keepsIds_append resource shared) _
  | appendAll other => exact Shared.keepsIds_mapError (Shared.keepsIds_appendAll other shared) _
  | absorbAll other => exact Shared.keepsIds_mapError (Shared.keepsIds_absorbAll isValid keeps) _
  | replace resource =>
      have stays : shared.KeepsIds (Shared.replace resource) := Shared.keepsIds_replace isValid
      rw [Shared.KeepsIds] at stays ⊢
      rw [perform, Change.run_bind, Change.run_mapError]
      cases outcome : ((Shared.replace resource).run shared).result with
      | ok place =>
          rw [Outcome.andThen_of_ok (by rw [Outcome.mapError, outcome]; rfl)]
          exact stays
      | error error =>
          rw [Outcome.andThen_of_error (by rw [Outcome.mapError, outcome]; rfl)]
          exact stays
  | remove id => exact Shared.keepsIds_ask fun _ _ => List.prefix_rfl
  | clear => exact List.prefix_rfl
  | applyPatch targets patch =>
      exact Shared.keepsIds_mapError (Shared.keepsIds_applyPatch isValid) _
  | transform transformer =>
      rw [perform, PatchTransformer.transform]
      split
      · exact List.prefix_rfl
      · apply Shared.keepsIds_mapError
        exact Shared.keepsIds_ask fun _ _ => Shared.keepsIds_applyPatch isValid
  | stripAnnotations => exact Shared.keepsIds_mapError (Shared.keepsIds_stripAnnotations isValid) _
  | keepReferenced referrer => exact Shared.keepsIds_ask fun _ _ => List.prefix_rfl
  | detach =>
      change shared.pool.ids <+: (shared.pool.allocate shared.view.resources).pool.ids
      rw [Pool.ids, Pool.ids, Pool.allocate, List.map_append]
      exact List.prefix_append _ _

end Operation

end Manifest
