import Manifest.Proofs.Collection.Distinct
import Manifest.Proofs.Resource.Equality
import Mathlib.Data.List.Nodup
import Mathlib.Data.List.Perm.Subperm

/-!
# Equality in any order

Two collections are equal as sets if each resource on the left has the one resource
on the right with its current id, and both are found equal.  Where no current id
repeats, different resources have different partners, and as there are as many
resources on both sides, the partners are all resources on the right.  So they are a
reordering of the right collection which is equal to the left one as a list.

The reordering can be turned around, since resources are found equal in both
directions; and it is composed with every other reordering of either side.
-/

namespace Manifest

namespace Resource

/-- The resource that another one is compared with: it has the same id and content. -/
structure Partners (left right : Resource) : Prop where
  sameId : right.currentId = left.currentId
  equates : Equates left right

end Resource

namespace Collection

open Resource (Equates Partners)

/-! ## Equality in order -/

theorem requireSameSize_eq_ok
    {left right : Collection} :
    left.requireSameSize right = .ok () ↔ left.size = right.size := by
  rw [requireSameSize]
  split <;> simp_all

theorem requireEqualPairs_eq_ok
    {position : Nat}
    {left right : List Resource}
    (sameLength : left.length = right.length) :
    requireEqualPairs position left right = .ok () ↔ List.Forall₂ Equates left right := by
  induction left generalizing position right with
  | nil =>
      cases List.length_eq_zero_iff.1 sameLength.symm
      simp [requireEqualPairs]
  | cons resource rest inductionHypothesis =>
      cases right with
      | nil => cases sameLength
      | cons other others =>
          rw [requireEqualPairs, Result.bind_eq_ok, List.forall₂_cons,
            ← @inductionHypothesis (position + 1) others (Nat.succ.inj sameLength)]
          constructor
          · rintro ⟨comparison, compares, succeeds⟩
            split at succeeds
            · rename_i isSame
              exact ⟨⟨comparison, compares, isSame⟩, succeeds⟩
            · cases succeeds
          · rintro ⟨⟨comparison, compares, isSame⟩, succeeds⟩
            refine ⟨comparison, compares, ?_⟩
            rw [if_pos isSame]
            exact succeeds

/-- Collections are equal as lists if their resources are found equal one by one. -/
theorem requireEqualLists_eq_ok
    {left right : Collection} :
    left.requireEqualLists right = .ok () ↔
      List.Forall₂ Equates left.resources right.resources := by
  rw [requireEqualLists, Result.bind_eq_ok]
  constructor
  · rintro ⟨_, sameSize, succeeds⟩
    exact (requireEqualPairs_eq_ok (requireSameSize_eq_ok.1 sameSize)).1 succeeds
  · intro equates
    have sameSize : left.size = right.size := equates.length_eq
    exact
      ⟨(), requireSameSize_eq_ok.2 sameSize, (requireEqualPairs_eq_ok sameSize).2 equates⟩

/-! ## Equality as sets -/

/-- Where no current id repeats, a resource is the only one with its id. -/
theorem matchingCurrent_eq_singleton
    {collection : Collection}
    (distinct : collection.IsDistinct)
    {id : ResourceId}
    {partner : Resource} :
    collection.matchingCurrent (· == id) = [partner] ↔
      partner ∈ collection.resources ∧ partner.currentId = id := by
  constructor
  · intro only
    have member : partner ∈ collection.matchingCurrent (· == id) :=
      only ▸ List.mem_singleton_self partner
    rw [matchingCurrent, List.mem_filter, beq_iff_eq] at member
    exact member
  · rintro ⟨member, rfl⟩
    rcases List.append_of_mem member with ⟨before, after, splits⟩
    rw [IsDistinct, ids, splits, List.map_append, List.map_cons, List.nodup_middle,
      List.nodup_cons, List.mem_append, not_or] at distinct
    have othersDiffer
        {others : List Resource}
        (free : partner.currentId ∉ others.map Resource.currentId) :
        others.filter (fun other => other.currentId == partner.currentId) = [] := by
      rw [List.filter_eq_nil_iff]
      intro other isOther same
      exact free (List.mem_map.2 ⟨other, isOther, eq_of_beq same⟩)
    rw [matchingCurrent, splits, List.filter_append, othersDiffer distinct.1.1, List.nil_append,
      List.filter_cons, if_pos (beq_self_eq_true partner.currentId), othersDiffer distinct.1.2]

theorem counterpart_eq_ok
    {collection : Collection}
    (distinct : collection.IsDistinct)
    {position : Nat}
    {id : ResourceId}
    {partner : Resource} :
    collection.counterpart position id = .ok partner ↔
      partner ∈ collection.resources ∧ partner.currentId = id := by
  rw [← matchingCurrent_eq_singleton distinct, counterpart]
  split <;> simp_all

theorem requireCounterparts_eq_ok
    {other : Collection}
    (distinct : other.IsDistinct)
    {position : Nat}
    {resources : List Resource} :
    other.requireCounterparts position resources = .ok () ↔
      ∀ resource ∈ resources, ∃ partner ∈ other.resources, Partners resource partner := by
  induction resources generalizing position with
  | nil => simp [requireCounterparts]
  | cons resource rest inductionHypothesis =>
      rw [requireCounterparts, Result.bind_eq_ok, List.forall_mem_cons,
        ← @inductionHypothesis (position + 1)]
      simp only [counterpart_eq_ok distinct, Result.bind_eq_ok]
      constructor
      · rintro ⟨partner, ⟨member, sameId⟩, comparison, compares, succeeds⟩
        split at succeeds
        · rename_i isSame
          exact ⟨⟨partner, member, sameId, comparison, compares, isSame⟩, succeeds⟩
        · cases succeeds
      · rintro ⟨⟨partner, member, sameId, comparison, compares, isSame⟩, succeeds⟩
        refine ⟨partner, ⟨member, sameId⟩, comparison, compares, ?_⟩
        rw [if_pos isSame]
        exact succeeds

theorem requireEqualSets_eq_ok
    {left right : Collection}
    (distinct : right.IsDistinct) :
    left.requireEqualSets right = .ok () ↔
      left.size = right.size ∧
        ∀ resource ∈ left.resources, ∃ partner ∈ right.resources, Partners resource partner := by
  rw [requireEqualSets, Result.bind_eq_ok, ← requireCounterparts_eq_ok distinct,
    ← requireSameSize_eq_ok]
  constructor
  · rintro ⟨_, sameSize, succeeds⟩
    exact ⟨sameSize, succeeds⟩
  · rintro ⟨sameSize, succeeds⟩
    exact ⟨(), sameSize, succeeds⟩

/-! ## Pairs in another order -/

/-- The resources of one list are partners of those of the other one, in some order. -/
def PairUp (left right : List Resource) : Prop :=
  ∃ others, List.Forall₂ Partners left others ∧ others.Perm right

theorem exists_forall₂
    {α β : Type}
    {relates : α → β → Prop}
    {items : List α}
    {choices : List β}
    (each : ∀ item ∈ items, ∃ choice ∈ choices, relates item choice) :
    ∃ chosen, List.Forall₂ relates items chosen ∧ chosen ⊆ choices := by
  induction items with
  | nil => exact ⟨[], .nil, List.nil_subset choices⟩
  | cons item rest inductionHypothesis =>
      rw [List.forall_mem_cons] at each
      rcases each with ⟨⟨choice, isChoice, related⟩, eachOther⟩
      rcases inductionHypothesis eachOther with ⟨chosen, allRelated, areChoices⟩
      exact ⟨choice :: chosen, .cons related allRelated, List.cons_subset.2 ⟨isChoice, areChoices⟩⟩

/-- Partners have the same ids in the same order. -/
theorem forall₂_partners
    {left right : List Resource} :
    List.Forall₂ Partners left right ↔
      right.map Resource.currentId = left.map Resource.currentId ∧
        List.Forall₂ Equates left right := by
  induction left generalizing right with
  | nil => cases right <;> simp
  | cons resource rest inductionHypothesis =>
      cases right with
      | nil => simp
      | cons other others =>
          rw [List.forall₂_cons, List.forall₂_cons, inductionHypothesis, List.map_cons,
            List.map_cons, List.cons.injEq]
          constructor
          · rintro ⟨⟨sameId, equates⟩, sameIds, allEquate⟩
            exact ⟨⟨sameId, sameIds⟩, equates, allEquate⟩
          · rintro ⟨⟨sameId, sameIds⟩, equates, allEquate⟩
            exact ⟨⟨sameId, equates⟩, sameIds, allEquate⟩

/--
Sets are equal if all resources pair up: distinct resources have distinct partners,
and these are as many as there are resources on the right.
-/
theorem requireEqualSets_iff_pairUp
    {left right : Collection}
    (leftDistinct : left.IsDistinct)
    (rightDistinct : right.IsDistinct) :
    left.requireEqualSets right = .ok () ↔ PairUp left.resources right.resources := by
  rw [requireEqualSets_eq_ok rightDistinct]
  constructor
  · rintro ⟨sameSize, partnered⟩
    rcases exists_forall₂ partnered with ⟨others, partners, areRight⟩
    have sameIds : others.map Resource.currentId = left.resources.map Resource.currentId :=
      (forall₂_partners.1 partners).1
    have othersDistinct : others.Nodup := by
      apply List.Nodup.of_map Resource.currentId
      rw [sameIds]
      exact leftDistinct
    have enough : right.resources.length ≤ others.length := by
      rw [← partners.length_eq]
      exact Nat.le_of_eq sameSize.symm
    have isReordering : others.Perm right.resources :=
      (List.subperm_of_subset othersDistinct areRight).perm_of_length_le enough
    exact ⟨others, partners, isReordering⟩
  · rintro ⟨others, partners, isReordering⟩
    refine ⟨partners.length_eq.trans isReordering.length_eq, ?_⟩
    intro resource member
    rcases List.mem_iff_getElem.1 member with ⟨position, inside, rfl⟩
    have insideOthers : position < others.length := partners.length_eq ▸ inside
    exact
      ⟨others[position], isReordering.mem_iff.1 (List.getElem_mem insideOthers),
        partners.get inside insideOthers⟩

theorem forall₂_partners_symm
    {left right : List Resource}
    (partners : List.Forall₂ Partners left right)
    (leftWellFormed : ∀ resource ∈ left, resource.node.WellFormed)
    (rightWellFormed : ∀ resource ∈ right, resource.node.WellFormed) :
    List.Forall₂ Partners right left := by
  induction partners with
  | nil => exact .nil
  | cons areFirst _ inductionHypothesis =>
      rw [List.forall_mem_cons] at leftWellFormed rightWellFormed
      rcases areFirst with ⟨sameId, equates⟩
      exact
        .cons ⟨sameId.symm, equates.symm leftWellFormed.1 rightWellFormed.1⟩
          (inductionHypothesis leftWellFormed.2 rightWellFormed.2)

/-- Resources pair up in both directions. -/
theorem PairUp.symm
    {left right : List Resource}
    (pairUp : PairUp left right)
    (leftWellFormed : ∀ resource ∈ left, resource.node.WellFormed)
    (rightWellFormed : ∀ resource ∈ right, resource.node.WellFormed) :
    PairUp right left := by
  rcases pairUp with ⟨others, partners, isReordering⟩
  have turned : List.Forall₂ Partners others left :=
    forall₂_partners_symm partners leftWellFormed fun resource member =>
      rightWellFormed resource (isReordering.mem_iff.1 member)
  exact List.perm_comp_forall₂ isReordering.symm turned

/-- How the lists are ordered does not count. -/
theorem PairUp.of_perm
    {left right otherLeft otherRight : List Resource}
    (pairUp : PairUp left right)
    (leftIsReordered : otherLeft.Perm left)
    (rightIsReordered : right.Perm otherRight) :
    PairUp otherLeft otherRight := by
  rcases pairUp with ⟨others, partners, isReordering⟩
  rcases List.perm_comp_forall₂ leftIsReordered partners with ⟨chosen, chosenPartners, isChosen⟩
  exact ⟨chosen, chosenPartners, (isChosen.trans isReordering).trans rightIsReordered⟩

theorem IsDistinct.of_perm
    {collection other : Collection}
    (distinct : collection.IsDistinct)
    (isReordering : other.resources.Perm collection.resources) :
    other.IsDistinct :=
  (isReordering.map Resource.currentId).nodup_iff.2 distinct

/-- The documents of a collection have distinct field names. -/
def IsWellFormed (collection : Collection) : Prop :=
  ∀ resource ∈ collection.resources, resource.node.WellFormed

/--
Collections without repeated current ids are equal as sets exactly if a reordering of
the right one has the ids of the left one and is equal to it as a list.  So the order
of both does not count, and neither does which one is on the left.
-/
theorem requireEqualSets_iff_reordering
    {left right : Collection}
    (leftDistinct : left.IsDistinct)
    (rightDistinct : right.IsDistinct)
    (leftWellFormed : left.IsWellFormed)
    (rightWellFormed : right.IsWellFormed) :
    (left.requireEqualSets right = .ok () ↔
      ∃ other : Collection,
        other.resources.Perm right.resources ∧
          other.ids = left.ids ∧ left.requireEqualLists other = .ok ()) ∧
    (left.requireEqualSets right = .ok () ↔ right.requireEqualSets left = .ok ()) ∧
    ∀ otherLeft otherRight : Collection,
      otherLeft.resources.Perm left.resources →
        otherRight.resources.Perm right.resources →
          (otherLeft.requireEqualSets otherRight = .ok () ↔
            left.requireEqualSets right = .ok ()) := by
  refine ⟨?_, ?_, ?_⟩
  · rw [requireEqualSets_iff_pairUp leftDistinct rightDistinct]
    constructor
    · rintro ⟨others, partners, isReordering⟩
      rcases forall₂_partners.1 partners with ⟨sameIds, equates⟩
      exact ⟨{ resources := others }, isReordering, sameIds, requireEqualLists_eq_ok.2 equates⟩
    · rintro ⟨other, isReordering, sameIds, equalLists⟩
      have partners : List.Forall₂ Partners left.resources other.resources :=
        forall₂_partners.2 ⟨sameIds, requireEqualLists_eq_ok.1 equalLists⟩
      exact ⟨other.resources, partners, isReordering⟩
  · rw [requireEqualSets_iff_pairUp leftDistinct rightDistinct,
      requireEqualSets_iff_pairUp rightDistinct leftDistinct]
    constructor
    · intro pairUp
      exact pairUp.symm leftWellFormed rightWellFormed
    · intro pairUp
      exact pairUp.symm rightWellFormed leftWellFormed
  · intro otherLeft otherRight leftIsReordered rightIsReordered
    rw [requireEqualSets_iff_pairUp leftDistinct rightDistinct,
      requireEqualSets_iff_pairUp (leftDistinct.of_perm leftIsReordered)
        (rightDistinct.of_perm rightIsReordered)]
    constructor
    · intro pairUp
      exact pairUp.of_perm leftIsReordered.symm rightIsReordered
    · intro pairUp
      exact pairUp.of_perm leftIsReordered rightIsReordered.symm

/-- A resource that has a name only. -/
def namedDisk (name : String) : Resource where
  node := .mapping [("kind", .ofText "Disk"), ("metadata", .mapping [("name", .ofText name)])]
  initialId := { gvk := .ofKind "Disk", name }
  currentId := { gvk := .ofKind "Disk", name }

/-- Two resources with different names. -/
def twoDisks : Collection where
  resources := [namedDisk "a", namedDisk "b"]

/-- A resource that has a name and a size. -/
def sizedDisk (name size : String) : Resource :=
  { namedDisk name with
    node :=
      .mapping
        [("kind", .ofText "Disk"), ("metadata", .mapping [("name", .ofText name)]),
          ("size", .ofText size)] }

/-- Two resources, of which the second one has a size. -/
def diskBesideSized (size : String) : Collection where
  resources := [namedDisk "a", sizedDisk "b" size]

theorem wellFormed_namedDisk (name : String) : (namedDisk name).node.WellFormed := by
  simp [namedDisk, Fields.names]

theorem wellFormed_sizedDisk (name size : String) : (sizedDisk name size).node.WellFormed := by
  simp [sizedDisk, Fields.names]

/--
A collection is equal to its reversal as a set.  Two collections with the same ids and another
size in one place are refused as lists and as sets, in both directions and in any order.
-/
theorem requireEqualSets_reversed :
    (twoDisks.IsDistinct ∧ twoDisks.IsWellFormed ∧
        twoDisks.requireEqualSets { resources := twoDisks.resources.reverse } = .ok ()) ∧
      ((∀ size, (diskBesideSized size).IsDistinct ∧ (diskBesideSized size).IsWellFormed) ∧
        (diskBesideSized "1").ids = (diskBesideSized "2").ids ∧
          (diskBesideSized "1").requireEqualLists (diskBesideSized "2") =
              .error (.notEqual (.position 1 { gvk := .ofKind "Disk", name := "b" }
                { gvk := .ofKind "Disk", name := "b" } { modified := [[.field "size"]] })) ∧
            (diskBesideSized "1").requireEqualSets (diskBesideSized "2") =
                .error (.notEqual (.content { gvk := .ofKind "Disk", name := "b" }
                  { modified := [[.field "size"]] })) ∧
              (diskBesideSized "2").requireEqualSets
                  { resources := (diskBesideSized "1").resources.reverse } ≠ .ok ()) := by
  have distinct : twoDisks.IsDistinct := by
    rw [IsDistinct]
    decide
  have wellFormed : twoDisks.IsWellFormed := by
    simp [IsWellFormed, twoDisks, wellFormed_namedDisk]
  have sameSet : twoDisks.requireEqualSets twoDisks = .ok () := rfl
  have decided := requireEqualSets_iff_reordering distinct distinct wellFormed wellFormed
  have isReordering : twoDisks.resources.reverse.Perm twoDisks.resources :=
    List.reverse_perm twoDisks.resources
  have sized (size : String) :
      (diskBesideSized size).IsDistinct ∧ (diskBesideSized size).IsWellFormed := by
    constructor
    · have sameIds : (diskBesideSized size).ids = twoDisks.ids := rfl
      rw [IsDistinct, sameIds]
      exact distinct
    · simp [IsWellFormed, diskBesideSized, wellFormed_namedDisk, wellFormed_sizedDisk]
  have refused := requireEqualSets_iff_reordering (sized "2").1 (sized "1").1 (sized "2").2
    (sized "1").2
  have differs :
      (diskBesideSized "1").requireEqualSets (diskBesideSized "2") =
        .error (.notEqual (.content { gvk := .ofKind "Disk", name := "b" }
          { modified := [[.field "size"]] })) :=
    rfl
  refine
    ⟨⟨distinct, wellFormed,
        (decided.2.2 twoDisks { resources := twoDisks.resources.reverse } (.refl _)
          isReordering).2 sameSet⟩,
      sized, rfl, rfl, differs, ?_⟩
  intro isSame
  have turned :=
    refused.2.1.1 ((refused.2.2 _ _ (.refl _) (List.reverse_perm _)).1 isSame)
  cases differs.symm.trans turned

end Collection

end Manifest
