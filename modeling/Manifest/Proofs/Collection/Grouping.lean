import Manifest.Collection.Query
import Manifest.Proofs.Fields
import Mathlib.Data.List.Induction

/-!
# Resources by namespace

The groups of a collection are built by one pass over its resources, each of which goes
to the end of the group of its effective namespace.  What a group holds at the end is
therefore what a look through the whole collection for its namespace finds, in the order
of the collection.  The groups and the resources outside every namespace make up the
collection: nothing is lost and nothing is there twice.
-/

namespace Manifest.Collection

/-- Whether a resource belongs to a namespace by one of its ids. -/
def livesIn (idOf : Resource → ResourceId) (namespaceName : String) (resource : Resource) : Bool :=
  !(idOf resource).isClusterScoped && (idOf resource).effectiveNamespace == namespaceName

/-- What the groups of some resources by one of their ids are, the others being apart. -/
structure IsPartition
    (idOf : Resource → ResourceId)
    (resources : List Resource)
    (groups : List (String × List Resource))
    (others : List Resource) : Prop where
  /-- Nothing is lost and nothing is there twice. -/
  perm : (groups.flatMap Prod.snd ++ others).Perm resources
  /-- No namespace has two groups, and they come in order. -/
  ascending : Fields.Ascending groups
  notEmpty : ∀ namespaceName group, (namespaceName, group) ∈ groups → group ≠ []
  /-- A group holds the resources of its namespace, in their order. -/
  group_eq : ∀ namespaceName group, (namespaceName, group) ∈ groups →
    group = resources.filter (livesIn idOf namespaceName)
  /-- There is a group for the namespace of each resource that has one. -/
  mem_names : ∀ resource ∈ resources, (idOf resource).isClusterScoped = false →
    (idOf resource).effectiveNamespace ∈ Fields.names groups
  /-- The others are those outside every namespace, in their order. -/
  others_eq : others = resources.filter fun resource => (idOf resource).isClusterScoped

section

variable (idOf : Resource → ResourceId)

/-! ## One resource more -/

/-- The groups with one more resource, which stays out if it lives outside every namespace. -/
theorem groupedBy_append_singleton
    (resources : List Resource)
    (resource : Resource) :
    groupedBy idOf (resources ++ [resource]) =
      if (idOf resource).isClusterScoped then groupedBy idOf resources
      else addToGroup (idOf resource).effectiveNamespace resource (groupedBy idOf resources) := by
  rw [groupedBy, List.foldl_append]
  rfl

theorem get?_addToGroup_same
    (namespaceName : String)
    (resource : Resource)
    (groups : List (String × List Resource)) :
    Fields.get? namespaceName (addToGroup namespaceName resource groups) =
      some ((Fields.get? namespaceName groups).getD [] ++ [resource]) :=
  Fields.get?_insert_same namespaceName _ groups

theorem get?_addToGroup_other
    {namespaceName other : String}
    (different : other ≠ namespaceName)
    (resource : Resource)
    (groups : List (String × List Resource)) :
    Fields.get? other (addToGroup namespaceName resource groups) = Fields.get? other groups :=
  Fields.get?_insert_other different _ groups

/-- A resource that is added to a group is added to what the groups hold together. -/
theorem flatMap_addToGroup_perm
    (namespaceName : String)
    (resource : Resource)
    {groups : List (String × List Resource)}
    (ascending : Fields.Ascending groups) :
    ((addToGroup namespaceName resource groups).flatMap Prod.snd).Perm
      (groups.flatMap Prod.snd ++ [resource]) := by
  induction groups with
  | nil => exact List.Perm.refl [resource]
  | cons head rest inductionHypothesis =>
      rcases head with ⟨other, group⟩
      rcases List.pairwise_cons.1 ascending with ⟨otherBelow, restAscending⟩
      have inRest := inductionHypothesis restAscending
      rw [addToGroup] at inRest ⊢
      rw [Fields.insert]
      split
      · rename_i below
        rw [Fields.get?_of_below_head otherBelow below]
        exact List.perm_append_comm
      · split
        · rename_i same
          rw [same, Fields.get?_cons_same, List.flatMap_cons, List.flatMap_cons,
            List.append_assoc group]
          simp only [Option.getD_some]
          rw [List.append_assoc]
          exact List.perm_append_comm.append_left group
        · rename_i different
          rw [Fields.get?_cons_other different, List.flatMap_cons, List.flatMap_cons,
            List.append_assoc]
          exact inRest.append_left group

/-! ## All resources -/

theorem ascending_groupedBy (resources : List Resource) :
    Fields.Ascending (groupedBy idOf resources) := by
  induction resources using List.reverseRecOn with
  | nil => exact List.Pairwise.nil
  | append_singleton resources resource inductionHypothesis =>
      rw [groupedBy_append_singleton]
      split
      · exact inductionHypothesis
      · exact inductionHypothesis.insert _ _

/-- The group of a namespace holds its resources. -/
theorem getD_get?_groupedBy
    (resources : List Resource)
    (namespaceName : String) :
    (Fields.get? namespaceName (groupedBy idOf resources)).getD [] =
      resources.filter (livesIn idOf namespaceName) := by
  induction resources using List.reverseRecOn with
  | nil => rfl
  | append_singleton resources resource inductionHypothesis =>
      rw [groupedBy_append_singleton, List.filter_append, List.filter_cons, List.filter_nil,
        livesIn]
      cases scope : (idOf resource).isClusterScoped with
      | true => simpa using inductionHypothesis
      | false =>
          by_cases isOwn : (idOf resource).effectiveNamespace = namespaceName
          · subst isOwn
            simp [get?_addToGroup_same, inductionHypothesis]
          · simp [get?_addToGroup_other (Ne.symm isOwn), inductionHypothesis, isOwn]

/-- A group is there only if it has a resource. -/
theorem ne_nil_of_get?_groupedBy
    (resources : List Resource)
    {namespaceName : String}
    {group : List Resource}
    (found : Fields.get? namespaceName (groupedBy idOf resources) = some group) :
    group ≠ [] := by
  induction resources using List.reverseRecOn generalizing group with
  | nil => cases found
  | append_singleton resources resource inductionHypothesis =>
      rw [groupedBy_append_singleton] at found
      split at found
      · exact inductionHypothesis found
      · by_cases isOwn : namespaceName = (idOf resource).effectiveNamespace
        · rw [isOwn, get?_addToGroup_same] at found
          cases found
          exact List.append_ne_nil_of_right_ne_nil _ (List.cons_ne_nil resource [])
        · rw [get?_addToGroup_other isOwn] at found
          exact inductionHypothesis found

/-- The groups and the resources outside every namespace are all resources. -/
theorem flatMap_groupedBy_perm (resources : List Resource) :
    ((groupedBy idOf resources).flatMap Prod.snd ++
      resources.filter fun resource => (idOf resource).isClusterScoped).Perm resources := by
  induction resources using List.reverseRecOn with
  | nil => exact List.Perm.refl []
  | append_singleton resources resource inductionHypothesis =>
      rw [groupedBy_append_singleton, List.filter_append, List.filter_cons, List.filter_nil]
      cases scope : (idOf resource).isClusterScoped with
      | true =>
          rw [if_pos rfl, if_pos rfl, ← List.append_assoc]
          exact inductionHypothesis.append_right [resource]
      | false =>
          rw [if_neg Bool.false_ne_true, if_neg Bool.false_ne_true, List.append_nil]
          have added :=
            flatMap_addToGroup_perm (idOf resource).effectiveNamespace resource
              (ascending_groupedBy idOf resources)
          refine (added.append_right _).trans ?_
          rw [List.append_assoc]
          refine (List.perm_append_comm.append_left _).trans ?_
          rw [← List.append_assoc]
          exact inductionHypothesis.append_right [resource]

theorem isPartition_groupedBy (resources : List Resource) :
    IsPartition idOf resources (groupedBy idOf resources)
      (resources.filter fun resource => (idOf resource).isClusterScoped) := by
  have found : ∀ {namespaceName group},
      (namespaceName, group) ∈ groupedBy idOf resources →
      Fields.get? namespaceName (groupedBy idOf resources) = some group :=
    fun member => Fields.get?_of_mem (ascending_groupedBy idOf resources).distinct member
  refine
    { perm := flatMap_groupedBy_perm idOf resources
      ascending := ascending_groupedBy idOf resources
      notEmpty := ?_
      group_eq := ?_
      mem_names := ?_
      others_eq := rfl }
  · intro namespaceName group member
    exact ne_nil_of_get?_groupedBy idOf resources (found member)
  · intro namespaceName group member
    have holds := getD_get?_groupedBy idOf resources namespaceName
    rw [found member] at holds
    exact holds
  · intro resource member namespaceable
    by_contra absent
    have holds := getD_get?_groupedBy idOf resources (idOf resource).effectiveNamespace
    rw [Fields.get?_eq_none.2 absent] at holds
    have inGroup :
        resource ∈ resources.filter (livesIn idOf (idOf resource).effectiveNamespace) :=
      List.mem_filter.2 ⟨member, by simp [livesIn, namespaceable]⟩
    rw [← holds] at inGroup
    cases inGroup

/-- Resources outside every namespace make no difference to the groups. -/
theorem groupedBy_filter_namespaceable (resources : List Resource) :
    groupedBy idOf (resources.filter fun resource => (idOf resource).isNamespaceable) =
      groupedBy idOf resources := by
  rw [groupedBy, List.foldl_filter, groupedBy]
  congr 1
  funext groups resource
  cases scope : (idOf resource).isClusterScoped <;>
    simp_all [ResourceId.isNamespaceable, Gvk.isNamespaceable, ResourceId.isClusterScoped]

end

/--
The groups by current namespace and the resources outside every namespace are a partition of
the collection.  The groups by initial namespace are one of the resources whose initial kind
has namespaces, with nothing beside them.
-/
theorem isPartition_byNamespace (collection : Collection) :
    IsPartition Resource.currentId collection.resources
        collection.groupedByCurrentNamespace collection.nonNamespaceable ∧
      IsPartition Resource.initialId (collection.matchingInitial ResourceId.isNamespaceable)
        collection.groupedByInitialNamespace [] := by
  have current := isPartition_groupedBy Resource.currentId collection.resources
  have initial := isPartition_groupedBy Resource.initialId
    (collection.matchingInitial ResourceId.isNamespaceable)
  have noOthers :
      (collection.matchingInitial ResourceId.isNamespaceable).filter
        (fun resource => resource.initialId.isClusterScoped) = [] := by
    rw [List.filter_eq_nil_iff]
    intro resource member
    have namespaceable := (List.mem_filter.1 member).2
    rw [ResourceId.isNamespaceable, Gvk.isNamespaceable, Bool.not_eq_true'] at namespaceable
    simp [ResourceId.isClusterScoped, namespaceable]
  rw [noOthers, matchingInitial, groupedBy_filter_namespaceable] at initial
  exact ⟨current, initial⟩

end Manifest.Collection
