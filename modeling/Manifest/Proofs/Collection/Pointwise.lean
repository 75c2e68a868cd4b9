import Manifest.Collection.Patch
import Manifest.Proofs.Result

/-!
# What a patch makes of each resource

A patch of some targets has one result for each resource: a resource that is no target
stays as it is, and a target gets the merge of its document with the adapted patch, or
nothing if that merge is a deletion.  A result is the resource with another document,
so that its ids and its behavior are those of before.
-/

namespace Manifest

/-- What a resource is beside its document. -/
def Resource.identity (resource : Resource) : ResourceId × ResourceId × Behavior :=
  (resource.initialId, resource.currentId, resource.behavior)

namespace Collection

/-! ## The result for one resource -/

/-- What a patch of some targets makes of a resource. -/
inductive PatchedTo (targets : IdSet) (patch : Node) (resource : Resource) :
    Option Resource → Prop where
  | stays
      (noTarget : resource.currentId ∉ targets.ids) :
      PatchedTo targets patch resource (some resource)
  | merges
      {adapted node : Node}
      (isTarget : resource.currentId ∈ targets.ids)
      (adapts : Resource.adapted resource.currentId patch = .ok adapted)
      (merges : StrategicPatch.apply resource.node adapted = .ok (some node)) :
      PatchedTo targets patch resource (some { resource with node })
  | deletes
      {adapted : Node}
      (isTarget : resource.currentId ∈ targets.ids)
      (adapts : Resource.adapted resource.currentId patch = .ok adapted)
      (deletes : StrategicPatch.apply resource.node adapted = .ok none) :
      PatchedTo targets patch resource none

section

variable
  {targets : IdSet}
  {patch : Node}
  {resource : Resource}

theorem patched_eq_ok
    {result : Option Resource} :
    patched patch resource = .ok result ↔
      ∃ adapted merged,
        Resource.adapted resource.currentId patch = .ok adapted ∧
          StrategicPatch.apply resource.node adapted = .ok merged ∧
            merged.map (fun node => { resource with node }) = result := by
  simp only [patched, Result.bind_eq_ok, Result.mapError_eq_ok]
  constructor
  · rintro ⟨adapted, adapts, merged, merges, same⟩
    exact ⟨adapted, merged, adapts, merges, Except.ok.inj same⟩
  · rintro ⟨adapted, merged, adapts, merges, same⟩
    exact ⟨adapted, adapts, merged, merges, congrArg Except.ok same⟩

theorem patchedIfTarget_eq_ok
    {result : Option Resource} :
    patchedIfTarget targets patch resource = .ok result ↔
      PatchedTo targets patch resource result := by
  by_cases isTarget : resource.currentId ∈ targets.ids
  · rw [patchedIfTarget, if_pos (IdSet.contains_iff.2 isTarget), patched_eq_ok]
    constructor
    · rintro ⟨adapted, merged, adapts, merges, rfl⟩
      cases merged with
      | some node => exact .merges isTarget adapts merges
      | none => exact .deletes isTarget adapts merges
    · intro patchedTo
      cases patchedTo with
      | stays noTarget => exact absurd isTarget noTarget
      | merges _ adapts merges => exact ⟨_, _, adapts, merges, rfl⟩
      | deletes _ adapts deletes => exact ⟨_, _, adapts, deletes, rfl⟩
  · rw [patchedIfTarget, if_neg (fun contained => isTarget (IdSet.contains_iff.1 contained))]
    constructor
    · rintro ⟨⟩
      exact .stays isTarget
    · intro patchedTo
      cases patchedTo with
      | stays => rfl
      | merges isTargetAlso => exact absurd isTargetAlso isTarget
      | deletes isTargetAlso => exact absurd isTargetAlso isTarget

end

/-! ## The results for all resources -/

theorem patchedAll_eq_ok
    {targets : IdSet}
    {patch : Node}
    {resources : List Resource} :
    ∀ {results : List (Option Resource)},
      patchedAll targets patch resources = .ok results ↔
        List.Forall₂ (PatchedTo targets patch) resources results := by
  induction resources with
  | nil =>
      intro results
      rw [List.forall₂_nil_left_iff, patchedAll, Except.ok.injEq, eq_comm]
  | cons resource rest inductionHypothesis =>
      intro results
      simp only [patchedAll, Result.bind_eq_ok, patchedIfTarget_eq_ok, inductionHypothesis,
        List.forall₂_cons_left_iff]
      constructor
      · rintro ⟨result, patchedTo, others, allPatched, same⟩
        exact ⟨result, others, patchedTo, allPatched, (Except.ok.inj same).symm⟩
      · rintro ⟨result, others, patchedTo, allPatched, rfl⟩
        exact ⟨result, patchedTo, others, allPatched, rfl⟩

theorem PatchedTo.sameIdentity
    {targets : IdSet}
    {patch : Node}
    {resource result : Resource}
    (patchedTo : PatchedTo targets patch resource (some result)) :
    result.identity = resource.identity := by
  cases patchedTo <;> rfl

theorem PatchedTo.sameCurrentId
    {targets : IdSet}
    {patch : Node}
    {resource result : Resource}
    (patchedTo : PatchedTo targets patch resource (some result)) :
    result.currentId = resource.currentId :=
  congrArg (fun identity => identity.2.1) patchedTo.sameIdentity

/-- What a patch leaves has the ids and the behavior that it had. -/
theorem identities_sublist
    {targets : IdSet}
    {patch : Node}
    {resources : List Resource}
    {results : List (Option Resource)}
    (patchedTo : List.Forall₂ (PatchedTo targets patch) resources results) :
    ((results.filterMap id).map Resource.identity).Sublist (resources.map Resource.identity) := by
  induction patchedTo with
  | nil => exact List.Sublist.refl _
  | @cons resource result rest others head _ inductionHypothesis =>
      cases result with
      | none => exact inductionHypothesis.cons resource.identity
      | some next =>
          rw [List.map_cons, ← head.sameIdentity]
          exact inductionHypothesis.cons_cons next.identity

/-- Each result is that of the resource at its position. -/
theorem patchedTo_of_getElem?
    {targets : IdSet}
    {patch : Node}
    {resources : List Resource}
    {results : List (Option Resource)}
    (patchedTo : List.Forall₂ (PatchedTo targets patch) resources results) :
    ∀ {place : Nat} {result : Option Resource},
      results[place]? = some result →
      ∃ resource, resources[place]? = some resource ∧ PatchedTo targets patch resource result := by
  induction patchedTo with
  | nil =>
      intro place result atPlace
      cases atPlace
  | cons head _ inductionHypothesis =>
      intro place result atPlace
      cases place with
      | zero =>
          cases atPlace
          exact ⟨_, rfl, head⟩
      | succ place => exact inductionHypothesis atPlace

end Collection

end Manifest
