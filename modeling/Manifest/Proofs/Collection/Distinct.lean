import Manifest.Collection.Query
import Manifest.Proofs.Collection.Pointwise
import Manifest.Proofs.Collection.Position
import Mathlib.Data.List.Perm.Basic

/-!
# Distinct current ids

A collection is distinct if no two of its resources have the same current id.
Every operation on collections keeps this, whatever its arguments are, and every
way to build a collection establishes it.

Absorbing finds its place by initial ids as well, so that the incoming resource
can have another current id than the one whose place it takes.  This is why the
other places are searched before a replacement.
-/

namespace Manifest

namespace Collection

/-- No two resources have the same current id. -/
def IsDistinct (collection : Collection) : Prop :=
  collection.ids.Nodup

theorem IsDistinct.sublist
    {collection : Collection}
    (distinct : collection.IsDistinct)
    {resources : List Resource}
    (part : resources.Sublist collection.resources) :
    IsDistinct { resources } :=
  List.Nodup.sublist (part.map Resource.currentId) distinct

theorem IsDistinct.of_ids_eq
    {collection other : Collection}
    (distinct : collection.IsDistinct)
    (sameIds : other.ids = collection.ids) :
    other.IsDistinct := by
  rw [IsDistinct, sameIds]
  exact distinct

theorem isDistinct_empty : empty.IsDistinct :=
  List.nodup_nil

theorem isDistinct_singleton (resource : Resource) :
    IsDistinct { resources := [resource] } :=
  List.nodup_cons.2 ⟨List.not_mem_nil, List.nodup_nil⟩

/-- A resource whose current id is free can be added. -/
theorem IsDistinct.add
    {collection : Collection}
    (distinct : collection.IsDistinct)
    {resource : Resource}
    (free : resource.currentId ∉ collection.ids) :
    IsDistinct { resources := collection.resources ++ [resource] } := by
  rw [IsDistinct, ids, List.map_append, List.nodup_append]
  refine ⟨distinct, by simp, ?_⟩
  intro id member other isAdded
  rw [List.map_singleton, List.mem_singleton] at isAdded
  rintro rfl
  exact free (isAdded ▸ member)

/-- A resource can take a place if its current id is at no other place. -/
theorem IsDistinct.set
    {collection : Collection}
    (distinct : collection.IsDistinct)
    {place : Nat}
    {resource : Resource}
    (inside : place < collection.resources.length)
    (free : ∀ other ∈ collection.resources.eraseIdx place,
      other.currentId ≠ resource.currentId) :
    IsDistinct { resources := collection.resources.set place resource } := by
  have rearranged :
      ((collection.resources.set place resource).map Resource.currentId).Perm
        (resource.currentId ::
          (collection.resources.eraseIdx place).map Resource.currentId) :=
    (List.set_perm_cons_eraseIdx inside resource).map Resource.currentId
  have othersDistinct :
      ((collection.resources.eraseIdx place).map Resource.currentId).Nodup :=
    distinct.sublist (List.eraseIdx_sublist collection.resources place)
  rw [IsDistinct, ids, rearranged.nodup_iff, List.nodup_cons]
  refine ⟨?_, othersDistinct⟩
  intro member
  rcases List.mem_map.1 member with ⟨other, otherMember, sameId⟩
  exact free other otherMember sameId

/-- The current ids stay when a resource gives its place to one with its current id. -/
theorem ids_set
    {resources : List Resource}
    {place : Nat}
    {existing resource : Resource}
    (atPlace : resources[place]? = some existing)
    (sameId : resource.currentId = existing.currentId) :
    ids { resources := resources.set place resource } = ids { resources } := by
  rcases List.getElem?_eq_some_iff.1 atPlace with ⟨inside, same⟩
  have mappedInside : place < (resources.map Resource.currentId).length := by
    simpa using inside
  have sameContent :
      existing.currentId = (resources.map Resource.currentId)[place] := by
    rw [List.getElem_map, same]
  rw [ids, ids, List.map_set, sameId, sameContent, List.set_getElem_self]

/-! ## Adding -/

theorem IsDistinct.append
    {collection result : Collection}
    {resource : Resource}
    (distinct : collection.IsDistinct)
    (succeeds : collection.append resource = .ok result) :
    result.IsDistinct := by
  rw [Collection.append, Result.bind_eq_ok] at succeeds
  rcases succeeds with ⟨_, isFree, same⟩
  cases same
  exact distinct.add (requireFree_eq_ok.1 isFree)

/-- Ids of which none is repeated are distinct and none of those seen before. -/
theorem nodup_of_firstRepeated
    {repeated : List ResourceId} :
    ∀ {seen : IdSet},
      firstRepeated seen repeated = none →
      repeated.Nodup ∧ ∀ id ∈ repeated, id ∉ seen.ids := by
  induction repeated with
  | nil => simp
  | cons id rest inductionHypothesis =>
      intro seen noneRepeated
      rw [firstRepeated] at noneRepeated
      split at noneRepeated
      · cases noneRepeated
      · rename_i isNew
        rw [IdSet.contains_iff] at isNew
        rcases inductionHypothesis noneRepeated with ⟨restDistinct, restNew⟩
        have idNotInRest : id ∉ rest := by
          intro member
          exact restNew id member (IdSet.mem_insert.2 (Or.inr rfl))
        refine ⟨List.nodup_cons.2 ⟨idNotInRest, restDistinct⟩, ?_⟩
        intro other member
        rcases List.mem_cons.1 member with rfl | inRest
        · exact isNew
        · intro seenBefore
          exact restNew other inRest (IdSet.mem_insert.2 (Or.inl seenBefore))

theorem IsDistinct.appendAll
    {collection other result : Collection}
    (distinct : collection.IsDistinct)
    (succeeds : collection.appendAll other = .ok result) :
    result.IsDistinct := by
  rw [Collection.appendAll, Result.bind_eq_ok] at succeeds
  rcases succeeds with ⟨_, allFree, same⟩
  cases same
  rw [requireAllFree] at allFree
  split at allFree
  · cases allFree
  · rename_i noneRepeated
    rcases nodup_of_firstRepeated noneRepeated with ⟨otherDistinct, otherNew⟩
    rw [IsDistinct, ids, List.map_append, List.nodup_append]
    refine ⟨distinct, otherDistinct, ?_⟩
    intro id member otherId otherMember
    rintro rfl
    exact otherNew id otherMember (IdSet.mem_ofList.2 member)

theorem isDistinct_ofResources
    {resources : List Resource}
    {result : Collection}
    (succeeds : ofResources resources = .ok result) :
    result.IsDistinct := by
  refine Result.foldlM_invariant IsDistinct ?_ empty result isDistinct_empty succeeds
  intro resource _ collection next distinct appends
  exact distinct.append appends

/-! ## Absorbing -/

theorem mergedWith_currentId
    {resource incoming merged : Resource}
    (merges : resource.mergedWith incoming = .ok merged) :
    merged.currentId = resource.currentId := by
  simp only [Resource.mergedWith, Result.bind_eq_ok] at merges
  rcases merges with ⟨_, _, _, _, _, _, _, _, same⟩
  cases same
  rfl

theorem AbsorbStep.isDistinct
    {resources result : List Resource}
    {incoming : Resource}
    (step : AbsorbStep resources incoming result)
    (distinct : IsDistinct { resources }) :
    IsDistinct { resources := result } := by
  cases step with
  | merges asked atPlace merges =>
      exact distinct.of_ids_eq (ids_set atPlace (mergedWith_currentId merges))
  | replaces asked inside free =>
      apply distinct.set inside
      intro other member sameId
      rw [isTakenElsewhere, List.any_eq_false] at free
      exact free other member (beq_iff_eq.2 sameId)
  | adds asked free => exact distinct.add free

theorem IsDistinct.absorbAll
    {collection other result : Collection}
    (distinct : collection.IsDistinct)
    (succeeds : collection.absorbAll other = .ok result) :
    result.IsDistinct := by
  rw [Collection.absorbAll, Result.map_eq_ok] at succeeds
  rcases succeeds with ⟨resources, absorbs, same⟩
  cases same
  refine absorbAll_invariant (fun resources => IsDistinct { resources }) ?_ distinct absorbs
  intro incoming _ before after distinctBefore step
  exact step.isDistinct distinctBefore

/-! ## Replacing, removing and patching -/

theorem IsDistinct.replace
    {collection result : Collection}
    {resource : Resource}
    {place : Nat}
    (distinct : collection.IsDistinct)
    (succeeds : collection.replace resource = .ok (place, result)) :
    result.IsDistinct := by
  rw [Collection.replace, Result.bind_eq_ok] at succeeds
  rcases succeeds with ⟨found, searched, same⟩
  cases same
  rcases currentId_of_position searched with ⟨existing, atPlace, hasId⟩
  exact distinct.of_ids_eq (ids_set atPlace hasId.symm)

theorem IsDistinct.remove
    {collection result : Collection}
    {id : ResourceId}
    (distinct : collection.IsDistinct)
    (succeeds : collection.remove id = .ok result) :
    result.IsDistinct := by
  rw [Collection.remove, Result.bind_eq_ok] at succeeds
  rcases succeeds with ⟨place, _, same⟩
  cases same
  exact distinct.sublist (List.eraseIdx_sublist collection.resources place)

/-- What a patch leaves of a list has some of its current ids, in their order. -/
theorem ids_patchedAll_sublist
    {targets : IdSet}
    {patch : Node}
    {resources : List Resource}
    {results : List (Option Resource)}
    (succeeds : patchedAll targets patch resources = .ok results) :
    (ids { resources := results.filterMap id }).Sublist (ids { resources }) := by
  have identities := identities_sublist (patchedAll_eq_ok.1 succeeds)
  have current := identities.map fun identity => identity.2.1
  rw [List.map_map, List.map_map] at current
  exact current

theorem IsDistinct.applyPatch
    {collection result : Collection}
    {targets : IdSet}
    {patch : Node}
    (distinct : collection.IsDistinct)
    (succeeds : collection.applyPatch targets patch = .ok result) :
    result.IsDistinct := by
  rw [Collection.applyPatch, Result.map_eq_ok] at succeeds
  rcases succeeds with ⟨results, succeeds, same⟩
  cases same
  rw [patchResults, Result.bind_eq_ok] at succeeds
  rcases succeeds with ⟨_, _, patches⟩
  exact List.Nodup.sublist (ids_patchedAll_sublist patches) distinct

/-! ## Stripping and selecting -/

theorem removeBuildAnnotations_currentId (resource : Resource) :
    resource.removeBuildAnnotations.state.currentId = resource.currentId := by
  rw [Resource.removeBuildAnnotations]
  cases resource.node.annotations with
  | error error => rfl
  | ok annotations =>
      rw [Outcome.reading_ok]
      dsimp only
      split <;> rfl

theorem IsDistinct.stripAnnotations
    {collection : Collection}
    (distinct : collection.IsDistinct) :
    collection.stripAnnotations.IsDistinct := by
  apply distinct.of_ids_eq
  rw [ids, Collection.stripAnnotations, List.map_map]
  exact List.map_congr_left fun resource _ => removeBuildAnnotations_currentId resource

theorem IsDistinct.referencedBy
    {collection result : Collection}
    {referrer : Resource}
    (distinct : collection.IsDistinct)
    (succeeds : collection.referencedBy referrer = .ok result) :
    result.IsDistinct := by
  rw [Collection.referencedBy, Result.map_eq_ok] at succeeds
  rcases succeeds with ⟨holds, _, same⟩
  cases same
  exact distinct.sublist (List.filter_sublist)

end Collection

end Manifest
