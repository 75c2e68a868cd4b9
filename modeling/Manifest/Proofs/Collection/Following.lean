import Manifest.Proofs.Collection.Draft
import Manifest.Proofs.Collection.Operation
import Manifest.Proofs.Collection.Pointwise
import Manifest.Proofs.Collection.Sharing

/-!
# Operations on the view

An operation on valid handles has the result of an update of the collection
that they show, and leaves them showing the updated collection.  So what is
known about operations on collections holds for operations on handles.
-/

namespace Manifest

namespace Shared

open Change

theorem append_follows (resource : Resource) :
    Follows (append resource) (replacing fun collection => collection.append resource) := by
  have steps :=
    (ask_follows fun collection => collection.requireFree resource.currentId).bind
      fun _ => add_follows resource
  rw [writing_eq_replacing, reading_bind_replacing] at steps
  exact steps

theorem appendAll_follows (other : Collection) :
    Follows (appendAll other) (replacing fun collection => collection.appendAll other) := by
  have steps :=
    (ask_follows fun collection => collection.requireAllFree other).bind
      fun _ => forM_add_follows other.resources
  rw [writing_eq_replacing, reading_bind_replacing] at steps
  exact steps

/-- All positions are written, and what follows them is added. -/
theorem run_putFrom_all
    {shared : Shared}
    (isValid : shared.Valid)
    {resources : List Resource}
    (longEnough : shared.view.resources.length ≤ resources.length) :
    ∃ next,
      (putFrom shared.view.resources.length 0 resources).run shared = .done () next ∧
      next.Valid ∧
      next.view = { resources } := by
  rcases
      run_putFrom shared.view.resources.length resources 0 shared isValid
        (by rw [isValid.length_view, Nat.max_zero]) with
    ⟨next, runs, nextIsValid, nextView⟩
  refine ⟨next, runs, nextIsValid, congrArg Collection.mk ?_⟩
  change next.view.resources = resources
  rw [nextView, Nat.zero_add, List.drop_of_length_le longEnough]
  simp

/-- A draft is written back with all that the batch has changed and added. -/
theorem run_putChanged_draft
    {shared : Shared}
    (isValid : shared.Valid)
    {draft : Collection.Draft}
    (isExtension : draft.Extends shared.view.resources) :
    ∃ next,
      (putChanged 0 draft.changed draft.resources).run shared = .done () next ∧
      next.Valid ∧
      next.view = { resources := draft.resources } := by
  have sameLength : shared.handles.length = 0 + draft.changed.length := by
    rw [isExtension.oneMarkEach, isValid.length_view, Nat.zero_add]
  have longEnough : draft.changed.length ≤ draft.resources.length := by
    rw [isExtension.oneMarkEach]
    exact isExtension.longEnough
  have unchanged :
      ∀ offset, draft.changed[offset]? = some false →
        draft.resources[offset]? = shared.view.resources[0 + offset]? := by
    intro offset unmarked
    rw [Nat.zero_add]
    exact isExtension.unchanged offset unmarked
  rcases
      run_putChanged draft.changed 0 draft.resources shared isValid sameLength longEnough
        unchanged with
    ⟨next, runs, nextIsValid, nextView⟩
  exact ⟨next, runs, nextIsValid, congrArg Collection.mk nextView⟩

/-- A batch is absorbed into a draft before the first resource is written. -/
theorem run_absorbAll
    (other : Collection)
    (shared : Shared) :
    (absorbAll other).run shared =
      (lift (other.resources.foldlM Collection.Draft.absorb
        (.ofResources shared.view.resources)) >>= fun draft =>
          putChanged 0 draft.changed draft.resources).run shared := by
  rw [← foldlM_lift]
  rfl

theorem absorbAll_follows (other : Collection) :
    Follows (absorbAll other) (replacing fun collection => collection.absorbAll other) := by
  intro shared isValid
  have runs := run_absorbAll other shared
  have sameResources :=
    Collection.Draft.resources_foldlM other.resources (.ofResources shared.view.resources)
  rw [run_bind, lift, run_reading] at runs
  cases absorbs :
      other.resources.foldlM Collection.Draft.absorb (.ofResources shared.view.resources) with
  | ok draft =>
      rcases run_putChanged_draft isValid (Collection.Draft.extends_foldlM absorbs) with
        ⟨next, putRuns, nextIsValid, nextView⟩
      rw [absorbs, Outcome.andThen_of_ok rfl, putRuns] at runs
      rw [absorbs] at sameResources
      apply agrees_of_ok runs nextIsValid
      rw [Collection.absorbAll, nextView]
      exact congrArg (Except.map Collection.mk) sameResources.symm
  | error error =>
      rw [absorbs, Outcome.andThen_of_error rfl] at runs
      rw [absorbs] at sameResources
      apply agrees_of_error runs isValid
      rw [Collection.absorbAll]
      exact congrArg (Except.map Collection.mk) sameResources.symm

theorem replace_follows (resource : Resource) :
    Follows (replace resource) (updating fun collection => collection.replace resource) := by
  intro shared isValid
  have runs :
      (replace resource).run shared =
        (ask (fun collection => collection.position resource.currentId) >>= fun place =>
          put place resource >>= fun _ => pure place).run shared :=
    rfl
  rw [runs, run_bind, ask, run_reading]
  cases searched : shared.view.position resource.currentId with
  | ok place =>
      rcases (put_follows place resource).run_of_writing isValid with
        ⟨next, putRuns, nextIsValid, nextView⟩
      have updates : shared.view.replace resource = .ok (place, next.view) := by
        rw [Collection.replace, searched, nextView]
        rfl
      rw [Outcome.andThen_of_ok rfl, run_bind, putRuns]
      refine ⟨nextIsValid, ?_⟩
      simp only [updating, updates]
      rfl
  | error error =>
      have fails : shared.view.replace resource = .error error := by
        rw [Collection.replace, searched]
        rfl
      rw [Outcome.andThen_of_error rfl]
      refine ⟨isValid, ?_⟩
      simp only [updating, fails]
      rfl

theorem remove_follows (id : ResourceId) :
    Follows (remove id) (replacing fun collection => collection.remove id) := by
  have steps :=
    (ask_follows fun collection => collection.position id).bind fun place => drop_follows place
  simp only [writing_eq_replacing] at steps
  rw [reading_bind_replacing] at steps
  exact steps

theorem clear_follows :
    Follows clear (replacing fun _ => .ok Collection.empty) := by
  intro shared isValid
  exact ⟨isValid.sublist (List.nil_sublist shared.handles), rfl⟩

theorem length_patchResults
    {collection : Collection}
    {targets : IdSet}
    {patch : Node}
    {results : List (Option Resource)}
    (succeeds : collection.patchResults targets patch = .ok results) :
    results.length = collection.resources.length := by
  rw [Collection.patchResults, Result.bind_eq_ok] at succeeds
  rcases succeeds with ⟨_, _, patches⟩
  exact (Collection.patchedAll_eq_ok.1 patches).length_eq.symm

/-- Patching computes all results of the view before it writes any of them. -/
theorem run_applyPatch
    (targets : IdSet)
    (patch : Node)
    (shared : Shared) :
    (applyPatch targets patch).run shared =
      (lift (shared.view.patchResults targets patch) >>= siftFrom 0).run shared := by
  rw [Collection.patchResults, applyPatch, run_bind, ask, run_reading]
  cases shared.view.requireTargets targets.ids <;> rfl

theorem applyPatch_follows
    (targets : IdSet)
    (patch : Node) :
    Follows (applyPatch targets patch)
      (replacing fun collection => collection.applyPatch targets patch) := by
  intro shared isValid
  have runs := run_applyPatch targets patch shared
  rw [run_bind, lift, run_reading] at runs
  cases patches : shared.view.patchResults targets patch with
  | ok results =>
      have sameLength : shared.handles.length = 0 + results.length := by
        rw [length_patchResults patches, isValid.length_view, Nat.zero_add]
      rcases run_siftFrom results 0 shared isValid sameLength with
        ⟨next, siftRuns, nextIsValid, nextView⟩
      rw [patches, Outcome.andThen_of_ok rfl, siftRuns] at runs
      apply agrees_of_ok runs nextIsValid
      rw [Collection.applyPatch, patches]
      exact congrArg (Except.ok ∘ Collection.mk) nextView.symm
  | error error =>
      rw [patches, Outcome.andThen_of_error rfl] at runs
      apply agrees_of_error runs isValid
      rw [Collection.applyPatch, patches]
      rfl

theorem stripAnnotations_follows :
    Follows stripAnnotations (replacing fun collection => .ok collection.stripAnnotations) := by
  intro shared isValid
  have sameLength :
      shared.view.resources.length = shared.view.stripAnnotations.resources.length := by
    rw [Collection.stripAnnotations, List.length_map]
  rcases run_putFrom_all isValid (Nat.le_of_eq sameLength) with ⟨next, runs, nextIsValid, nextView⟩
  apply agrees_of_ok runs nextIsValid
  rw [nextView]

/-- Handles whose resources satisfy a condition show these resources. -/
theorem retain_follows (holds : ResourceId → Bool) :
    Follows
      (.writing fun shared =>
        { shared with
          handles := shared.handles.filter fun handle =>
            (shared.pool.read? handle).any fun resource => holds resource.currentId } :
        Action Unit)
      (.writing fun collection => { resources := collection.matchingCurrent holds }) := by
  apply simulates_writing
  · intro shared isValid
    exact isValid.sublist List.filter_sublist
  · intro shared _
    apply congrArg Collection.mk
    rw [Collection.matchingCurrent, view, Pool.view, List.filter_filterMap,
      List.filterMap_filter]
    apply List.filterMap_congr
    intro handle _
    cases shared.pool.read? handle with
    | none => simp
    | some resource => simp [Option.filter]

theorem keepReferenced_follows (referrer : Resource) :
    Follows (keepReferenced referrer)
      (replacing fun collection => collection.referencedBy referrer) := by
  have steps :=
    (ask_follows fun _ => Collection.reference referrer).bind fun holds => retain_follows holds
  simp only [writing_eq_replacing] at steps
  rw [reading_bind_replacing] at steps
  have sameUpdate :
      (fun collection : Collection =>
        Collection.reference referrer >>= fun holds =>
          Except.ok { resources := collection.matchingCurrent holds }) =
        fun collection => collection.referencedBy referrer := by
    funext collection
    rw [Collection.referencedBy]
    cases Collection.reference referrer <;> rfl
  rw [sameUpdate] at steps
  exact steps

theorem detach_follows :
    Follows detach (replacing fun collection => .ok collection) := by
  intro shared isValid
  refine ⟨valid_allocate shared.pool shared.view.resources, ?_⟩
  have copied : (shared.pool.allocate shared.view.resources).view = shared.view :=
    congrArg Collection.mk (Pool.view_allocate shared.pool shared.view.resources)
  rw [run_replacing_of_ok rfl]
  exact congrArg (Outcome.done ()) copied

theorem transform_follows (transformer : PatchTransformer) :
    Follows transformer.transform (replacing (Operation.transformed transformer)) := by
  rw [PatchTransformer.transform]
  cases chosen : transformer.patch with
  | none =>
      intro shared isValid
      apply agrees_of_error rfl isValid
      rw [Operation.transformed, chosen]
  | some patch =>
      have steps :=
        (ask_follows (PatchTransformer.targets transformer.target patch)).bind
          fun targets => applyPatch_follows targets patch.node
      rw [reading_bind_replacing] at steps
      have whole := steps.mapError TransformerError.collection
      rw [mapError_replacing] at whole
      have sameUpdate :
          (fun collection : Collection =>
            Except.mapError TransformerError.collection
              (PatchTransformer.targets transformer.target patch collection >>= fun targets =>
                collection.applyPatch targets patch.node)) =
            Operation.transformed transformer := by
        funext collection
        rw [Operation.transformed, chosen]
      rw [sameUpdate] at whole
      exact whole

end Shared

namespace Operation

private theorem follows_mapError
    {action : Shared.Action Unit}
    {update : Collection → Except CollectionError Collection}
    (follows : Shared.Follows action (.replacing update)) :
    Shared.Follows (action.mapError TransformerError.collection)
      (.replacing fun collection => (update collection).mapError .collection) := by
  rw [← Change.mapError_replacing]
  exact follows.mapError TransformerError.collection

private theorem replace_perform_follows (resource : Resource) :
    Shared.Follows (replace resource).perform (.replacing (replace resource).update) := by
  intro shared isValid
  rcases Shared.replace_follows resource shared isValid with ⟨nextIsValid, agrees⟩
  cases replaces : shared.view.replace resource with
  | ok placed =>
      rcases placed with ⟨place, next⟩
      simp only [Change.updating, replaces] at agrees
      have succeeds : ((Shared.replace resource).run shared).result = .ok place :=
        congrArg Outcome.result agrees
      have runs :
          (replace resource).perform.run shared =
            .done () ((Shared.replace resource).run shared).state := by
        rw [perform, Change.run_bind, Change.run_mapError, Outcome.mapError, succeeds]
        rfl
      apply Change.agrees_of_ok runs nextIsValid
      rw [update, replaces, show ((Shared.replace resource).run shared).state.view = next from
        congrArg Outcome.state agrees]
      rfl
  | error error =>
      simp only [Change.updating, replaces] at agrees
      have fails : ((Shared.replace resource).run shared).result = .error error :=
        congrArg Outcome.result agrees
      have unchanged : ((Shared.replace resource).run shared).state = shared :=
        Shared.isAtomic_replace resource shared error fails
      have runs :
          (replace resource).perform.run shared =
            .failed (TransformerError.collection error) shared := by
        rw [perform, Change.run_bind, Change.run_mapError, Outcome.mapError, fails, unchanged]
        rfl
      apply Change.agrees_of_error runs isValid
      rw [update, replaces]
      rfl

/-- An operation on valid handles updates the collection that they show. -/
theorem perform_follows (operation : Operation) :
    Shared.Follows operation.perform (.replacing operation.update) := by
  cases operation with
  | append resource => exact follows_mapError (Shared.append_follows resource)
  | appendAll other => exact follows_mapError (Shared.appendAll_follows other)
  | absorbAll other => exact follows_mapError (Shared.absorbAll_follows other)
  | replace resource => exact replace_perform_follows resource
  | remove id => exact follows_mapError (Shared.remove_follows id)
  | clear => exact follows_mapError Shared.clear_follows
  | applyPatch targets patch =>
      exact follows_mapError (Shared.applyPatch_follows targets patch.node)
  | transform transformer => exact Shared.transform_follows transformer
  | stripAnnotations => exact follows_mapError Shared.stripAnnotations_follows
  | keepReferenced referrer => exact follows_mapError (Shared.keepReferenced_follows referrer)
  | detach => exact follows_mapError Shared.detach_follows

end Operation

end Manifest
