import Manifest.Patch.Overlay
import Manifest.Proofs.Node.Edit

/-!
# Well-formed documents

A document is well-formed if no mapping in it has two fields with one name.
Every document that is read or built is, and overlays and edits keep it, whether
an edit succeeds or not.
-/

namespace Manifest.Node

/-- No mapping of the node has two fields with one name. -/
inductive WellFormed : Node → Prop where
  | document
      {inner : Node}
      (isInner : WellFormed inner) :
      WellFormed (.document inner)
  /-- A mapping has distinct names, and its contents are well-formed. -/
  | mapping
      {fields : List (String × Node)}
      (distinct : Fields.Distinct fields)
      (contents : ∀ field ∈ fields, WellFormed field.2) :
      WellFormed (.mapping fields)
  | sequence
      {items : List Node}
      (isItems : ∀ item ∈ items, WellFormed item) :
      WellFormed (.sequence items)
  | scalar
      (leaf : Scalar) :
      WellFormed (.scalar leaf)
  | reference
      {anchor : String}
      {target : Node}
      (isTarget : WellFormed target) :
      WellFormed (.reference anchor target)

/-- The names are distinct and the contents well-formed. -/
structure WellFormedFields (fields : List (String × Node)) : Prop where
  distinct : Fields.Distinct fields
  contents : ∀ field ∈ fields, WellFormed field.2

@[simp]
theorem wellFormed_mapping
    {fields : List (String × Node)} :
    WellFormed (.mapping fields) ↔ WellFormedFields fields := by
  constructor
  · rintro (_ | ⟨distinct, contents⟩)
    exact ⟨distinct, contents⟩
  · rintro ⟨distinct, contents⟩
    exact .mapping distinct contents

theorem wellFormed_sequence
    {items : List Node} :
    WellFormed (.sequence items) ↔ ∀ item ∈ items, WellFormed item := by
  constructor
  · rintro (_ | _ | isItems)
    exact isItems
  · exact .sequence

theorem WellFormed.content
    {node : Node}
    (wellFormed : WellFormed node) :
    node.content.WellFormed := by
  induction node using contentInduction with
  | document inner inductionHypothesis =>
      cases wellFormed with
      | document isInner => exact inductionHypothesis isInner
  | reference anchor target inductionHypothesis =>
      cases wellFormed with
      | reference isTarget => exact inductionHypothesis isTarget
  | mapping fields => exact wellFormed
  | sequence items => exact wellFormed
  | scalar leaf => exact wellFormed

@[simp]
theorem wellFormed_ofText (text : String) :
    (ofText text).WellFormed :=
  .scalar _

namespace WellFormedFields

@[simp]
theorem nil : WellFormedFields [] where
  distinct := List.nodup_nil
  contents := by simp

@[simp]
theorem cons
    {name : String}
    {node : Node}
    {rest : List (String × Node)} :
    WellFormedFields ((name, node) :: rest) ↔
      name ∉ Fields.names rest ∧ node.WellFormed ∧ WellFormedFields rest := by
  constructor
  · rintro ⟨distinct, contents⟩
    rcases List.nodup_cons.1 distinct with ⟨isNew, restDistinct⟩
    exact ⟨isNew, contents (name, node) List.mem_cons_self, restDistinct,
      fun field member => contents field (List.mem_cons_of_mem _ member)⟩
  · rintro ⟨isNew, isNode, restDistinct, restContents⟩
    refine ⟨List.nodup_cons.2 ⟨isNew, restDistinct⟩, ?_⟩
    intro field member
    rcases List.mem_cons.1 member with rfl | inRest
    · exact isNode
    · exact restContents field inRest

theorem get?
    {fields : List (String × Node)}
    (wellFormed : WellFormedFields fields)
    {name : String}
    {node : Node}
    (found : Fields.get? name fields = some node) :
    node.WellFormed :=
  wellFormed.contents (name, node) (Fields.mem_of_get? found)

theorem content_get?
    {fields : List (String × Node)}
    (wellFormed : WellFormedFields fields)
    (name : String) :
    ∀ content, (Fields.get? name fields).map Node.content = some content → content.WellFormed := by
  intro content isContent
  rcases Option.map_eq_some_iff.1 isContent with ⟨node, found, rfl⟩
  exact (wellFormed.get? found).content

theorem set
    {fields : List (String × Node)}
    (wellFormed : WellFormedFields fields)
    (name : String)
    {node : Node}
    (isNode : node.WellFormed) :
    WellFormedFields (Fields.set name node fields) where
  distinct := wellFormed.distinct.set name node
  contents := by
    intro field member
    rcases Fields.mem_set member with rfl | old
    · exact isNode
    · exact wellFormed.contents field old

theorem ensure
    {fields : List (String × Node)}
    (wellFormed : WellFormedFields fields)
    (name : String)
    {node : Node}
    (isNode : node.WellFormed) :
    WellFormedFields (Fields.ensure name node fields) where
  distinct := wellFormed.distinct.ensure name node
  contents := by
    intro field member
    rw [Fields.ensure] at member
    split at member
    · exact wellFormed.contents field member
    · rcases List.mem_append.1 member with old | new
      · exact wellFormed.contents field old
      · rw [List.mem_singleton.1 new]
        exact isNode

theorem remove
    {fields : List (String × Node)}
    (wellFormed : WellFormedFields fields)
    (name : String) :
    WellFormedFields (Fields.remove name fields) where
  distinct := wellFormed.distinct.remove name
  contents := fun field member =>
    wellFormed.contents field ((Fields.remove_sublist name fields).subset member)

end WellFormedFields

/-- The fields below a list of names are those of a well-formed part. -/
theorem WellFormed.fieldsAt?
    (parents : List String) :
    ∀ {node : Node} {fields : List (String × Node)},
      node.WellFormed → node.fieldsAt? parents = some fields → WellFormedFields fields := by
  induction parents with
  | nil =>
      intro node fields wellFormed opens
      rcases openFields?_eq_some.1 opens with isMapping | ⟨_, isEmpty⟩
      · exact wellFormed_mapping.1 (isMapping ▸ wellFormed.content)
      · rw [isEmpty]
        exact .nil
  | cons parent rest inductionHypothesis =>
      intro node fields wellFormed opens
      rcases Option.bind_eq_some_iff.1 opens with ⟨top, opensTop, _⟩
      have topFields : WellFormedFields top := by
        rcases openFields?_eq_some.1 opensTop with isMapping | ⟨_, isEmpty⟩
        · exact wellFormed_mapping.1 (isMapping ▸ wellFormed.content)
        · rw [isEmpty]
          exact .nil
      rw [fieldsAt?_cons opensTop] at opens
      apply inductionHypothesis _ opens
      cases found : Fields.get? parent top with
      | none => exact .scalar Scalar.null
      | some child => exact topFields.get? found

/-! ## Overlays -/

mutual

/-- The overlay of well-formed documents is well-formed. -/
theorem WellFormed.overlay
    {left : Node}
    (isLeft : WellFormed left) :
    ∀ {right : Node}, WellFormed right → WellFormed (left.overlay right)
  | .document inner, isRight => by
      cases isRight with
      | document isInner =>
          rw [Node.overlay]
          split
          · exact isLeft
          · split
            · exact .document isInner
            · exact WellFormed.overlay isLeft isInner
  | .reference anchor target, isRight => by
      cases isRight with
      | reference isTarget =>
          rw [Node.overlay]
          split
          · exact isLeft
          · split
            · exact .reference isTarget
            · exact WellFormed.overlay isLeft isTarget
  | .mapping fields, isRight => by
      have rightFields := wellFormed_mapping.1 isRight
      have leftContent := isLeft.content
      rw [Node.overlay]
      split
      · rename_i leftFields isMapping
        rw [isMapping, wellFormed_mapping] at leftContent
        exact wellFormed_mapping.2
          (WellFormedFields.overlayFields leftContent leftContent rightFields.contents)
      · exact isRight
  | .sequence items, isRight => by
      rw [Node.overlay]
      exact isRight
  | .scalar leaf, isRight => by
      rw [Node.overlay]
      split
      · exact isLeft
      · exact isRight

theorem WellFormedFields.overlayFields
    {left merged : List (String × Node)}
    (isLeft : WellFormedFields left)
    (isMerged : WellFormedFields merged) :
    ∀ {right : List (String × Node)},
      (∀ field ∈ right, WellFormed field.2) →
      WellFormedFields (Node.overlayFields left merged right)
  | [], _ => by
      rw [Node.overlayFields]
      exact isMerged
  | (name, node) :: rest, isRight => by
      have isNode : WellFormed node := isRight (name, node) List.mem_cons_self
      have isRest : ∀ field ∈ rest, WellFormed field.2 := by
        intro field member
        exact isRight field (List.mem_cons_of_mem _ member)
      rw [Node.overlayFields]
      apply WellFormedFields.overlayFields isLeft _ isRest
      apply isMerged.set
      split
      · rename_i leftNode found
        exact WellFormed.overlay (isLeft.get? found) isNode
      · exact isNode

end

/-! ## Edits -/

/-- An edit of contents that keeps them well-formed keeps nodes well-formed. -/
theorem WellFormed.editContent
    {edit : Node → Edited Node}
    (kept : ∀ content : Node, content.WellFormed → (edit content).state.WellFormed)
    {node : Node}
    (wellFormed : node.WellFormed) :
    (Node.editContent edit node).state.WellFormed := by
  induction node using contentInduction with
  | document inner inductionHypothesis =>
      cases wellFormed with
      | document isInner => exact .document (inductionHypothesis isInner)
  | reference anchor target inductionHypothesis =>
      cases wellFormed with
      | reference isTarget => exact inductionHypothesis isTarget
  | mapping fields => exact kept (.mapping fields) wellFormed
  | sequence items => exact kept (.sequence items) wellFormed
  | scalar leaf => exact kept (.scalar leaf) wellFormed

theorem WellFormed.editFields
    {walked : List String}
    {edit : List (String × Node) → Edited (List (String × Node))}
    (kept : ∀ fields, WellFormedFields fields → WellFormedFields (edit fields).state)
    {node : Node}
    (wellFormed : node.WellFormed) :
    (Node.editFields walked edit node).state.WellFormed := by
  rw [Node.editFields.eq_def]
  split
  · rename_i fields
    exact wellFormed_mapping.2 (kept fields (wellFormed_mapping.1 wellFormed))
  · split
    · exact wellFormed_mapping.2 (kept [] WellFormedFields.nil)
    · exact wellFormed

/-- An edit of one field keeps well-formed fields if it keeps well-formed nodes. -/
theorem WellFormedFields.editField
    {edit : Node → Edited Node}
    (kept : ∀ node : Node, node.WellFormed → (edit node).state.WellFormed)
    {name : String}
    {fields : List (String × Node)}
    (wellFormed : WellFormedFields fields) :
    WellFormedFields (Node.editField name edit fields).state := by
  cases found : Fields.get? name fields with
  | none =>
      rw [editField_of_absent found]
      exact wellFormed
  | some child =>
      rw [editField_of_get? found]
      have isEdited : (edit child).state.WellFormed := kept child (wellFormed.get? found)
      constructor
      · rw [Outcome.state_mapState, Fields.Distinct, Fields.names_modify]
        exact wellFormed.distinct
      · intro field member
        rcases Fields.mem_modify member with ⟨_, _, edited⟩ | old
        · rw [edited]
          exact isEdited
        · exact wellFormed.contents field old

/-- Writing a well-formed value keeps a document well-formed. -/
theorem WellFormed.writeField
    {name : String}
    {value : Node}
    (isValue : value.WellFormed)
    (parents : List String) :
    ∀ (walked : List String) (node : Node),
      node.WellFormed → (Node.writeField walked parents name value node).state.WellFormed := by
  induction parents with
  | nil =>
      intro walked node wellFormed
      rw [Node.writeField]
      apply WellFormed.editContent _ wellFormed
      intro content isContent
      apply WellFormed.editFields _ isContent
      intro fields isFields
      exact isFields.set name isValue
  | cons parent rest inductionHypothesis =>
      intro walked node wellFormed
      rw [Node.writeField]
      apply WellFormed.editContent _ wellFormed
      intro content isContent
      apply WellFormed.editFields _ isContent
      intro fields isFields
      apply WellFormedFields.editField
      · exact inductionHypothesis (walked ++ [parent])
      · exact isFields.ensure parent (.scalar Scalar.null)

/-- Removing a field keeps a document well-formed. -/
theorem WellFormed.clearField
    {name : String}
    (parents : List String) :
    ∀ (walked : List String) (node : Node),
      node.WellFormed → (Node.clearField walked parents name node).state.WellFormed := by
  induction parents with
  | nil =>
      intro walked node wellFormed
      rw [Node.clearField]
      apply WellFormed.editContent _ wellFormed
      intro content isContent
      rw [unlessNull]
      split
      · exact isContent
      · apply WellFormed.editFields _ isContent
        intro fields isFields
        exact isFields.remove name
  | cons parent rest inductionHypothesis =>
      intro walked node wellFormed
      rw [Node.clearField]
      apply WellFormed.editContent _ wellFormed
      intro content isContent
      rw [unlessNull]
      split
      · exact isContent
      · apply WellFormed.editFields _ isContent
        intro fields isFields
        exact isFields.editField (inductionHypothesis (walked ++ [parent]))

/-! ## Setters -/

theorem wellFormed_ofStringMap (map : StringMap) :
    (ofStringMap map).WellFormed := by
  rw [ofStringMap]
  apply WellFormed.mapping
  · have sameNames :
        Fields.names (map.entries.map fun entry => (entry.1, ofText entry.2)) =
          Fields.names map.entries := by
      simp [Fields.names]
    rw [Fields.Distinct, sameNames]
    exact map.ascending.distinct
  · intro field member
    rcases List.mem_map.1 member with ⟨entry, _, rfl⟩
    exact .scalar _

theorem WellFormed.setName
    {node : Node}
    (wellFormed : node.WellFormed)
    (name : String) :
    (node.setName name).state.WellFormed :=
  WellFormed.writeField (.scalar _) _ _ node wellFormed

theorem WellFormed.setNamespace
    {node : Node}
    (wellFormed : node.WellFormed)
    (namespaceName : String) :
    (node.setNamespace namespaceName).state.WellFormed := by
  rw [Node.setNamespace]
  split
  · exact WellFormed.clearField _ _ node wellFormed
  · exact WellFormed.writeField (.scalar _) _ _ node wellFormed

theorem WellFormed.setGvk
    {node : Node}
    (wellFormed : node.WellFormed)
    (gvk : Gvk) :
    (node.setGvk gvk).state.WellFormed := by
  have kindWritten :
      (Node.writeField [] [] "kind" (ofText gvk.kind) node).state.WellFormed :=
    WellFormed.writeField (.scalar _) _ _ node wellFormed
  rw [Node.setGvk, Outcome.andThen]
  split
  · exact WellFormed.writeField (.scalar _) _ _ _ kindWritten
  · exact kindWritten

theorem WellFormed.setAnnotations
    {node : Node}
    (wellFormed : node.WellFormed)
    (annotations : StringMap) :
    (node.setAnnotations annotations).state.WellFormed := by
  rw [Node.setAnnotations, Node.writeStringMap]
  split
  · exact WellFormed.clearField _ _ node wellFormed
  · exact WellFormed.writeField (wellFormed_ofStringMap annotations) _ _ node wellFormed

end Manifest.Node
