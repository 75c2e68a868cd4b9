import Manifest.Proofs.Resource.Annotated

/-!
# Resources without build annotations

Build annotations are taken out of a document by writing the others anew, or by removing the field
if there are no others.  Only a document that has a build annotation is written, so that its
section is there already, and nothing is added on the way.  All that is outside the annotations is
found as it was.

A document whose metadata cannot be read stays as it is, and so does one without build annotations.
In particular nothing is left to be done a second time.
-/

namespace Manifest

theorem BuildNote.isKey_iff
    {key : String} :
    isKey key = true ↔ key ∈ all :=
  List.contains_iff_mem

namespace Node

variable
  {node : Node}
  {metadata : Metadata}

/-- No build annotation is read from the document. -/
def IsUnnoted (node : Node) : Prop :=
  ∀ metadata, node.metadata = .ok metadata →
    ∀ key ∈ BuildNote.all, metadata.annotations.get? key = none

theorem isUnnoted_of_unreadable
    {error : DocumentError}
    (fails : node.metadata = .error error) :
    node.IsUnnoted := by
  intro metadata reads
  cases fails.symm.trans reads

/-- Nothing is taken out of the annotations exactly if none is of the build. -/
theorem isUnnoted_iff
    (reads : node.metadata = .ok metadata) :
    node.IsUnnoted ↔
      (BuildNote.strip metadata.annotations).size = metadata.annotations.size := by
  rw [BuildNote.strip_size_eq]
  constructor
  · intro unnoted key isBuildKey
    exact unnoted metadata reads key (BuildNote.isKey_iff.1 isBuildKey)
  · intro absent other readsOther key member
    cases reads.symm.trans readsOther
    exact absent key (BuildNote.isKey_iff.2 member)

/-- A build annotation that is read is in a section. -/
theorem hasSection_of_not_isUnnoted
    (wellFormed : node.WellFormed)
    (reads : node.metadata = .ok metadata)
    (noted : ¬node.IsUnnoted) :
    ∃ fields inner, node.HasSection fields inner := by
  rw [isUnnoted_iff reads, BuildNote.strip_size_eq, not_forall] at noted
  rcases noted with ⟨key, isThere⟩
  rcases Classical.not_imp.1 isThere with ⟨isBuildKey, present⟩
  rcases Option.ne_none_iff_exists'.1 present with ⟨text, found⟩
  exact ((isNoted_iff wellFormed reads).2 ⟨key, text, isBuildKey, found⟩).hasSection

/-- What is not in the annotations is apart from them, or it is a section that they are in. -/
theorem apart_or_above
    {names : List String}
    (outside : ¬["metadata", "annotations"] <+: names) :
    Value.Apart ["metadata", "annotations"] names ∨ names = [] ∨ names = ["metadata"] := by
  by_cases above : names <+: ["metadata", "annotations"]
  · refine Or.inr ?_
    cases names with
    | nil => exact Or.inl rfl
    | cons name rest =>
        rcases List.cons_prefix_cons.1 above with ⟨rfl, restAbove⟩
        cases rest with
        | nil => exact Or.inr rfl
        | cons other others =>
            rcases List.cons_prefix_cons.1 restAbove with ⟨rfl, -⟩
            exact absurd (List.prefix_append ["metadata", "annotations"] others) outside
  · exact Or.inl ⟨outside, above⟩

/-- A section is found in the value of the document. -/
theorem HasSection.isSome_getIn?
    {fields inner : List (String × Node)}
    (hasSection : node.HasSection fields inner)
    (wellFormed : node.WellFormed)
    {names : List String}
    (above : names = [] ∨ names = ["metadata"]) :
    (node.toValue.getIn? names).isSome = true := by
  rcases above with rfl | rfl
  · rfl
  · rcases hasSection with ⟨isMapping, child, found, _⟩
    rw [Value.getIn?_cons, field?_toValue wellFormed, child?_eq_some.2 ⟨fields, isMapping, found⟩]
    rfl

end Node

namespace Resource

variable {resource before after : Resource}

/-- The build annotations were taken out of a resource, and nothing else happened to it. -/
structure IsStripped (before after : Resource) : Prop where
  initialId : after.initialId = before.initialId
  currentId : after.currentId = before.currentId
  behavior : after.behavior = before.behavior
  /-- What cannot be read is not touched. -/
  unreadable :
    ∀ error, before.node.metadata = .error error → after.node = before.node
  /-- Of the metadata, only the build annotations are gone. -/
  readable :
    ∀ metadata, before.node.metadata = .ok metadata →
      ∃ annotations,
        after.node.metadata = .ok { metadata with annotations } ∧
          ∀ key,
            annotations.get? key =
              if key ∈ BuildNote.all then none else metadata.annotations.get? key
  /-- A document without build annotations is not touched. -/
  unnoted : before.node.IsUnnoted → after.node = before.node
  /-- Every value beside the annotations is the one it was. -/
  beside :
    ∀ names, Value.Apart ["metadata", "annotations"] names →
      after.node.toValue.getIn? names = before.node.toValue.getIn? names
  /-- What is outside the annotations is neither added nor removed. -/
  outside :
    ∀ names, ¬["metadata", "annotations"] <+: names →
      (after.node.toValue.getIn? names).isSome = (before.node.toValue.getIn? names).isSome

/-- Nothing has to be taken out of a document without build annotations. -/
theorem isStripped_self
    (unnoted : resource.node.IsUnnoted) :
    resource.IsStripped resource where
  initialId := rfl
  currentId := rfl
  behavior := rfl
  unreadable _ _ := rfl
  readable metadata reads := by
    refine ⟨metadata.annotations, reads, fun key => ?_⟩
    split
    · rename_i member
      exact unnoted metadata reads key member
    · rfl
  unnoted _ := rfl
  beside _ _ := rfl
  outside _ _ := rfl

/-- A document without build annotations is left alone. -/
theorem removeBuildAnnotations_of_isUnnoted
    (unnoted : resource.node.IsUnnoted) :
    resource.removeBuildAnnotations.state = resource := by
  cases reads : resource.node.metadata with
  | error error =>
      rw [removeBuildAnnotations, Node.annotations, reads]
      rfl
  | ok metadata =>
      rw [removeBuildAnnotations, Node.annotations_of_metadata reads, Outcome.reading_ok]
      dsimp only
      rw [if_pos ((Node.isUnnoted_iff reads).1 unnoted)]
      rfl

/-- Where there are build annotations, the other ones are written in their section. -/
theorem removeBuildAnnotations_of_noted
    {metadata : Metadata}
    (wellFormed : resource.node.WellFormed)
    (reads : resource.node.metadata = .ok metadata)
    (noted : ¬resource.node.IsUnnoted) :
    ∃ next,
      resource.removeBuildAnnotations.state = { resource with node := next } ∧
        Part.annotations.IsSet (BuildNote.strip metadata.annotations) resource.node next ∧
          next.WellFormed ∧ ∃ others written, next.HasSection others written := by
  rcases Node.hasSection_of_not_isUnnoted wellFormed reads noted with ⟨fields, inner, hasSection⟩
  rcases
      hasSection.setAnnotations (hasSection.wellFormedFields wellFormed).2.distinct
        (BuildNote.strip metadata.annotations) with
    ⟨next, sets, _, _, others, written, _, nextSection, _⟩
  rcases Part.set_isSet wellFormed reads .annotations trivial with ⟨_, setsPart, isSet⟩
  cases setsPart.symm.trans sets
  have nextWellFormed : next.WellFormed :=
    Outcome.state_eq sets ▸ wellFormed.setAnnotations (BuildNote.strip metadata.annotations)
  refine ⟨next, ?_, isSet, nextWellFormed, others, written, nextSection⟩
  rw [removeBuildAnnotations, Node.annotations_of_metadata reads, Outcome.reading_ok]
  dsimp only
  rw [if_neg (mt (Node.isUnnoted_iff reads).2 noted), editNode, sets]
  rfl

/-- Taking the build annotations out takes out nothing else. -/
theorem isStripped_removeBuildAnnotations
    (wellFormed : resource.node.WellFormed) :
    resource.IsStripped resource.removeBuildAnnotations.state := by
  by_cases unnoted : resource.node.IsUnnoted
  · rw [removeBuildAnnotations_of_isUnnoted unnoted]
    exact isStripped_self unnoted
  · cases reads : resource.node.metadata with
    | error error => exact absurd (Node.isUnnoted_of_unreadable reads) unnoted
    | ok metadata =>
        rcases Node.hasSection_of_not_isUnnoted wellFormed reads unnoted with ⟨_, _, hasSection⟩
        rcases removeBuildAnnotations_of_noted wellFormed reads unnoted with
          ⟨next, isNext, isSet, nextWellFormed, _, _, nextSection⟩
        have beside :
            ∀ names, Value.Apart ["metadata", "annotations"] names →
              next.toValue.getIn? names = resource.node.toValue.getIn? names :=
          fun names apart => isSet.frame names (List.forall_mem_singleton.2 apart)
        rw [isNext]
        refine ⟨rfl, rfl, rfl, ?_, ?_, fun isUnnoted => absurd isUnnoted unnoted, beside, ?_⟩
        · intro error fails
          cases fails.symm.trans reads
        · intro other readsOther
          cases reads.symm.trans readsOther
          refine ⟨BuildNote.strip metadata.annotations, ?_, fun key => ?_⟩
          · change next.metadata = _
            rw [isSet.metadata, reads]
            rfl
          · rw [BuildNote.get?_strip]
            exact if_congr BuildNote.isKey_iff rfl rfl
        · intro names outside
          rcases Node.apart_or_above outside with apart | above
          · exact congrArg Option.isSome (beside names apart)
          · rw [nextSection.isSome_getIn? nextWellFormed above,
              hasSection.isSome_getIn? wellFormed above]

/-- What was taken out once is not there to be taken out again. -/
theorem IsStripped.isUnnoted
    (isStripped : before.IsStripped after) :
    after.node.IsUnnoted := by
  intro next readsNext key member
  cases reads : before.node.metadata with
  | error error =>
      rw [isStripped.unreadable error reads, reads] at readsNext
      cases readsNext
  | ok metadata =>
      rcases isStripped.readable metadata reads with ⟨annotations, readsAfter, taken⟩
      cases readsAfter.symm.trans readsNext
      rw [taken key, if_pos member]

end Resource

end Manifest
