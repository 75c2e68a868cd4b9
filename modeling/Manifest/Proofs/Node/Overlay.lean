import Manifest.Proofs.Node.Metadata

/-!
# Overlays field by field

What an overlay holds at a name is decided by what the two documents hold there:
where only one of them has a field it stays, and where both have one the overlay
of the two takes its place.  This is so at the root and below every list of names
at which both have fields.

So the overlay of two documents whose metadata can be read has metadata that can
be read.
-/

namespace Manifest

namespace Node

/-- What an overlay holds where the two documents hold optional nodes. -/
def overlayAt : Option Node → Option Node → Option Node
  | left, none => left
  | none, some right => some right
  | some left, some right => some (left.overlay right)

@[simp]
theorem overlayAt_none_right (left : Option Node) :
    overlayAt left none = left := by
  cases left <;> rfl

@[simp]
theorem overlayAt_none_left (right : Option Node) :
    overlayAt none right = right := by
  cases right <;> rfl

/-! ## Overlays of contents -/

/-- Nothing on the right keeps the left. -/
theorem overlay_of_null
    {right : Node}
    (rightIsNull : right.isNull = true)
    (left : Node) :
    left.overlay right = left := by
  induction right using contentInduction with
  | document inner _ => rw [overlay, if_pos (show inner.isNull = true from rightIsNull)]
  | reference anchor target _ =>
      rw [overlay, if_pos (show target.isNull = true from rightIsNull)]
  | mapping fields => cases rightIsNull
  | sequence items => cases rightIsNull
  | scalar leaf => rw [overlay, if_pos (show leaf.isNull = true from rightIsNull)]

/-- Nothing on the left gives way to anything else. -/
theorem content_overlay_of_null_left
    {left right : Node}
    (leftIsNull : left.isNull = true)
    (notNull : right.isNull = false) :
    (left.overlay right).content = right.content := by
  induction right using contentInduction with
  | document inner _ =>
      rw [overlay, if_neg (by rw [show inner.isNull = false from notNull]; decide),
        if_pos leftIsNull]
  | reference anchor target _ =>
      rw [overlay, if_neg (by rw [show target.isNull = false from notNull]; decide),
        if_pos leftIsNull]
  | mapping fields =>
      rcases isNull_eq_true.1 leftIsNull with ⟨leaf, isLeaf, _⟩
      rw [overlay, isLeaf]
  | sequence items => rw [overlay]
  | scalar leaf =>
      rw [overlay, if_neg (by rw [show leaf.isNull = false from notNull]; decide)]

/-- The overlay of two mappings is a mapping. -/
theorem content_overlay_of_mappings
    {left right : Node}
    {leftFields rightFields : List (String × Node)}
    (leftIsMapping : left.content = .mapping leftFields)
    (rightIsMapping : right.content = .mapping rightFields) :
    (left.overlay right).content =
      .mapping (overlayFields leftFields leftFields rightFields) := by
  have leftNotNull : left.isNull = false := by
    rw [isNull, leftIsMapping]
  induction right using contentInduction with
  | document inner inductionHypothesis =>
      have innerNotNull : inner.isNull = false := by
        rw [isNull, show inner.content = .mapping rightFields from rightIsMapping]
      rw [overlay, if_neg (by rw [innerNotNull]; decide),
        if_neg (by rw [leftNotNull]; decide)]
      exact inductionHypothesis rightIsMapping
  | reference anchor target inductionHypothesis =>
      have targetNotNull : target.isNull = false := by
        rw [isNull, show target.content = .mapping rightFields from rightIsMapping]
      rw [overlay, if_neg (by rw [targetNotNull]; decide),
        if_neg (by rw [leftNotNull]; decide)]
      exact inductionHypothesis rightIsMapping
  | mapping fields =>
      cases rightIsMapping
      rw [overlay, leftIsMapping]
      rfl
  | sequence items => cases rightIsMapping
  | scalar leaf => cases rightIsMapping

/-- The overlay of two scalars is the right one, unless that is nothing. -/
theorem content_overlay_of_scalars
    {left right : Node}
    {leftLeaf rightLeaf : Scalar}
    (leftIsScalar : left.content = .scalar leftLeaf)
    (rightIsScalar : right.content = .scalar rightLeaf) :
    (left.overlay right).content = .scalar (if rightLeaf.isNull then leftLeaf else rightLeaf) := by
  cases rightIsNull : right.isNull with
  | true =>
      have leafIsNull : rightLeaf.isNull = true := by
        rw [isNull, rightIsScalar] at rightIsNull
        exact rightIsNull
      rw [overlay_of_null rightIsNull, if_pos leafIsNull, leftIsScalar]
  | false =>
      have leafNotNull : rightLeaf.isNull = false := by
        rw [isNull, rightIsScalar] at rightIsNull
        exact rightIsNull
      rw [if_neg (by rw [leafNotNull]; decide)]
      induction right using contentInduction with
      | document inner inductionHypothesis =>
          rw [overlay, if_neg (by rw [show inner.isNull = false from rightIsNull]; decide)]
          split
          · exact rightIsScalar
          · exact inductionHypothesis rightIsScalar rightIsNull
      | reference anchor target inductionHypothesis =>
          rw [overlay, if_neg (by rw [show target.isNull = false from rightIsNull]; decide)]
          split
          · exact rightIsScalar
          · exact inductionHypothesis rightIsScalar rightIsNull
      | mapping fields => cases rightIsScalar
      | sequence items => cases rightIsScalar
      | scalar leaf =>
          rw [overlay, if_neg (by rw [show leaf.isNull = false from rightIsNull]; decide)]
          exact rightIsScalar

/-! ## Overlays of fields -/

theorem get?_overlayFields
    {left right : List (String × Node)}
    (rightDistinct : Fields.Distinct right)
    (name : String) :
    ∀ merged : List (String × Node),
      Fields.get? name (overlayFields left merged right) =
        match Fields.get? name right with
        | none => Fields.get? name merged
        | some node => overlayAt (Fields.get? name left) (some node) := by
  unfold Fields.Distinct at rightDistinct
  induction right with
  | nil =>
      intro merged
      rw [overlayFields]
      rfl
  | cons head rest inductionHypothesis =>
      intro merged
      rcases head with ⟨other, node⟩
      rcases List.nodup_cons.1 rightDistinct with ⟨headIsNew, restDistinct⟩
      rw [overlayFields, inductionHypothesis restDistinct]
      by_cases isHead : other = name
      · subst isHead
        have absent : Fields.get? other rest = none := Fields.get?_eq_none.2 headIsNew
        rw [absent, Fields.get?_cons_same]
        dsimp only
        rw [Fields.get?_set_same]
        cases Fields.get? other left <;> rfl
      · rw [Fields.get?_cons_other isHead]
        cases Fields.get? name rest with
        | none => exact Fields.get?_set_other (Ne.symm isHead) _ merged
        | some found => rfl

/-- Where both documents have fields, their overlay has the overlays of these fields. -/
theorem openFields?_overlay
    {left right : Node}
    {leftFields rightFields : List (String × Node)}
    (leftOpens : left.openFields? = some leftFields)
    (rightOpens : right.openFields? = some rightFields)
    (rightDistinct : Fields.Distinct rightFields) :
    ∃ fields,
      (left.overlay right).openFields? = some fields ∧
        ∀ name,
          Fields.get? name fields =
            overlayAt (Fields.get? name leftFields) (Fields.get? name rightFields) := by
  rcases openFields?_eq_some.1 rightOpens with rightIsMapping | ⟨rightIsNull, isEmpty⟩
  · rcases openFields?_eq_some.1 leftOpens with leftIsMapping | ⟨leftIsNull, isEmpty⟩
    · refine ⟨_, openFields?_of_content
        (content_overlay_of_mappings leftIsMapping rightIsMapping), ?_⟩
      intro name
      rw [get?_overlayFields rightDistinct]
      cases Fields.get? name rightFields with
      | none => exact (overlayAt_none_right _).symm
      | some node => rfl
    · have rightNotNull : right.isNull = false := by
        rw [isNull, rightIsMapping]
      refine ⟨rightFields, ?_, ?_⟩
      · apply openFields?_of_content
        rw [content_overlay_of_null_left leftIsNull rightNotNull, rightIsMapping]
      · intro name
        rw [isEmpty, Fields.get?_nil, overlayAt_none_left]
  · refine ⟨leftFields, ?_, ?_⟩
    · rw [overlay_of_null rightIsNull, leftOpens]
    · intro name
      rw [isEmpty, Fields.get?_nil, overlayAt_none_right]

/-- The same below a list of names at which both documents have fields. -/
theorem fieldsAt?_overlay
    (parents : List String) :
    ∀ {left right : Node} {leftFields rightFields : List (String × Node)},
      right.WellFormed →
      left.fieldsAt? parents = some leftFields →
      right.fieldsAt? parents = some rightFields →
      ∃ fields,
        (left.overlay right).fieldsAt? parents = some fields ∧
          ∀ name,
            Fields.get? name fields =
              overlayAt (Fields.get? name leftFields) (Fields.get? name rightFields) := by
  induction parents with
  | nil =>
      intro left right leftFields rightFields isRight leftOpens rightOpens
      exact openFields?_overlay leftOpens rightOpens (isRight.fieldsAt? [] rightOpens).distinct
  | cons parent rest inductionHypothesis =>
      intro left right leftFields rightFields isRight leftOpens rightOpens
      rcases Option.bind_eq_some_iff.1 leftOpens with ⟨leftTop, leftOpensTop, _⟩
      rcases Option.bind_eq_some_iff.1 rightOpens with ⟨rightTop, rightOpensTop, _⟩
      have rightTopFields : WellFormedFields rightTop := isRight.fieldsAt? [] rightOpensTop
      rcases openFields?_overlay leftOpensTop rightOpensTop rightTopFields.distinct with
        ⟨top, opensTop, overlays⟩
      rw [fieldsAt?_cons leftOpensTop] at leftOpens
      rw [fieldsAt?_cons rightOpensTop] at rightOpens
      rw [fieldsAt?_cons opensTop, overlays parent]
      cases rightFound : Fields.get? parent rightTop with
      | none =>
          rw [rightFound, Option.getD_none, fieldsAt?_null] at rightOpens
          cases rightOpens
          refine ⟨leftFields, ?_, ?_⟩
          · rw [overlayAt_none_right, leftOpens]
          · intro name
            rw [Fields.get?_nil, overlayAt_none_right]
      | some rightChild =>
          rw [rightFound, Option.getD_some] at rightOpens
          cases leftFound : Fields.get? parent leftTop with
          | none =>
              rw [leftFound, Option.getD_none, fieldsAt?_null] at leftOpens
              cases leftOpens
              refine ⟨rightFields, ?_, ?_⟩
              · rw [overlayAt_none_left, Option.getD_some, rightOpens]
              · intro name
                rw [Fields.get?_nil, overlayAt_none_left]
          | some leftChild =>
              rw [leftFound, Option.getD_some] at leftOpens
              exact inductionHypothesis (rightTopFields.get? rightFound) leftOpens rightOpens

/-- A field of an overlay is one of the two documents, or the overlay of one from each. -/
theorem mem_overlayFields
    {left : List (String × Node)}
    {right : List (String × Node)}
    {field : String × Node} :
    ∀ {merged : List (String × Node)},
      field ∈ overlayFields left merged right →
      field ∈ merged ∨
        ∃ node, (field.1, node) ∈ right ∧
          overlayAt (Fields.get? field.1 left) (some node) = some field.2 := by
  induction right with
  | nil =>
      intro merged member
      rw [overlayFields] at member
      exact Or.inl member
  | cons head rest inductionHypothesis =>
      intro merged member
      rcases head with ⟨name, node⟩
      rw [overlayFields] at member
      rcases inductionHypothesis member with inSet | ⟨found, inRest, overlays⟩
      · rcases Fields.mem_set inSet with isNew | inMerged
        · refine Or.inr ⟨node, ?_, ?_⟩
          · rw [isNew]
            exact List.mem_cons_self
          · rw [isNew]
            cases Fields.get? name left <;> rfl
        · exact Or.inl inMerged
      · exact Or.inr ⟨found, List.mem_cons_of_mem _ inRest, overlays⟩

end Node

/-! ## Metadata of overlays -/

namespace Metadata

/-- An overlay of optional scalars is an optional scalar. -/
theorem scalarText_overlayAt
    {name leftText rightText : String}
    {left right : Option Node}
    (leftReads : scalarText name left = .ok leftText)
    (rightReads : scalarText name right = .ok rightText) :
    ∃ text, scalarText name (Node.overlayAt left right) = .ok text := by
  cases right with
  | none =>
      rw [Node.overlayAt_none_right]
      exact ⟨leftText, leftReads⟩
  | some rightNode =>
      cases left with
      | none =>
          rw [Node.overlayAt_none_left]
          exact ⟨rightText, rightReads⟩
      | some leftNode =>
          rcases scalarText_eq_ok leftReads with ⟨leftLeaf, leftIsScalar, _⟩
          rcases scalarText_eq_ok rightReads with ⟨rightLeaf, rightIsScalar, _⟩
          exact ⟨_, scalarText_of_scalar
            (Node.content_overlay_of_scalars leftIsScalar rightIsScalar) name⟩

/-- The entries of a map of texts are its fields, all of them scalars. -/
theorem textEntries_eq_ok
    {field : String}
    {fields : List (String × Node)} :
    (∃ entries, textEntries field fields = .ok entries) ↔
      ∀ entry ∈ fields, ∃ leaf, entry.2.content = .scalar leaf := by
  induction fields with
  | nil =>
      constructor
      · simp
      · intro _
        exact ⟨[], rfl⟩
  | cons head rest inductionHypothesis =>
      rcases head with ⟨key, node⟩
      constructor
      · rintro ⟨entries, reads⟩ entry member
        rw [textEntries] at reads
        split at reads
        · rename_i leaf isScalar
          rw [Result.map_eq_ok] at reads
          rcases reads with ⟨others, readsRest, _⟩
          rcases List.mem_cons.1 member with isHead | inRest
          · rw [isHead]
            exact ⟨leaf, isScalar⟩
          · exact inductionHypothesis.1 ⟨others, readsRest⟩ entry inRest
        · cases reads
      · intro allScalars
        rcases allScalars (key, node) List.mem_cons_self with ⟨leaf, isScalar⟩
        rcases
              inductionHypothesis.2 fun entry member =>
            allScalars entry (List.mem_cons_of_mem _ member) with
          ⟨others, readsRest⟩
        refine ⟨(key, leaf.text) :: others, ?_⟩
        rw [textEntries, isScalar]
        dsimp only
        rw [readsRest]
        rfl

/-- A map of texts is read from a node with fields that are all scalars. -/
theorem stringMap_eq_ok
    {node : Option Node}
    {field : String} :
    (∃ map, stringMap node field = .ok map) ↔
      ∃ fields,
        (node.getD Node.null).openFields? = some fields ∧
          ∀ entry ∈ fields, ∃ leaf, entry.2.content = .scalar leaf := by
  cases node with
  | none =>
      constructor
      · intro _
        exact ⟨[], rfl, by simp⟩
      · intro _
        exact ⟨.empty, rfl⟩
  | some child =>
      rw [Option.getD_some, stringMap, Option.map_some, Node.openFields?]
      rcases Node.content_cases child with ⟨fields, isContent⟩ | ⟨items, isContent⟩ |
        ⟨leaf, isContent⟩
      · simp only [isContent]
        constructor
        · rintro ⟨map, reads⟩
          rcases Result.map_eq_ok.1 reads with ⟨entries, readsEntries, _⟩
          exact ⟨fields, rfl, textEntries_eq_ok.1 ⟨entries, readsEntries⟩⟩
        · rintro ⟨others, same, allScalars⟩
          cases same
          rcases textEntries_eq_ok.2 allScalars with ⟨entries, readsEntries⟩
          exact ⟨.ofPairs entries, Result.map_eq_ok.2 ⟨entries, readsEntries, rfl⟩⟩
      · simp [isContent]
      · cases leafIsNull : leaf.isNull <;> simp [isContent, leafIsNull]

theorem scalars_overlayFields
    {left right : List (String × Node)}
    (leftScalars : ∀ field ∈ left, ∃ leaf, field.2.content = .scalar leaf)
    (rightScalars : ∀ field ∈ right, ∃ leaf, field.2.content = .scalar leaf) :
    ∀ field ∈ Node.overlayFields left left right, ∃ leaf, field.2.content = .scalar leaf := by
  intro field member
  rcases Node.mem_overlayFields member with inLeft | ⟨node, inRight, overlays⟩
  · exact leftScalars field inLeft
  · rcases rightScalars (field.1, node) inRight with ⟨rightLeaf, rightIsScalar⟩
    cases found : Fields.get? field.1 left with
    | none =>
        rw [found, Node.overlayAt_none_left] at overlays
        exact ⟨rightLeaf, Option.some.inj overlays ▸ rightIsScalar⟩
    | some leftNode =>
        rcases leftScalars (field.1, leftNode) (Fields.mem_of_get? found) with
          ⟨leftLeaf, leftIsScalar⟩
        rw [found, Node.overlayAt] at overlays
        rw [← Option.some.inj overlays]
        exact ⟨_, Node.content_overlay_of_scalars leftIsScalar rightIsScalar⟩

/-- An overlay of optional maps of texts is an optional map of texts. -/
theorem stringMap_overlayAt
    {field : String}
    {leftMap rightMap : StringMap}
    {left right : Option Node}
    (leftReads : stringMap left field = .ok leftMap)
    (rightReads : stringMap right field = .ok rightMap) :
    ∃ map, stringMap (Node.overlayAt left right) field = .ok map := by
  cases right with
  | none =>
      rw [Node.overlayAt_none_right]
      exact ⟨leftMap, leftReads⟩
  | some rightNode =>
      cases left with
      | none =>
          rw [Node.overlayAt_none_left]
          exact ⟨rightMap, rightReads⟩
      | some leftNode =>
          rcases stringMap_eq_ok.1 ⟨leftMap, leftReads⟩ with ⟨leftFields, leftOpens, leftScalars⟩
          rcases stringMap_eq_ok.1 ⟨rightMap, rightReads⟩ with
            ⟨rightFields, rightOpens, rightScalars⟩
          rw [Option.getD_some] at leftOpens rightOpens
          apply stringMap_eq_ok.2
          rw [Node.overlayAt, Option.getD_some]
          rcases Node.openFields?_eq_some.1 rightOpens with rightIsMapping | ⟨rightIsNull, _⟩
          · rcases Node.openFields?_eq_some.1 leftOpens with leftIsMapping | ⟨leftIsNull, _⟩
            · exact ⟨_, Node.openFields?_of_content
                  (Node.content_overlay_of_mappings leftIsMapping rightIsMapping),
                scalars_overlayFields leftScalars rightScalars⟩
            · have rightNotNull : rightNode.isNull = false := by
                rw [Node.isNull, rightIsMapping]
              refine ⟨rightFields, Node.openFields?_of_content ?_, rightScalars⟩
              rw [Node.content_overlay_of_null_left leftIsNull rightNotNull, rightIsMapping]
          · refine ⟨leftFields, ?_, leftScalars⟩
            rw [Node.overlay_of_null rightIsNull]
            exact leftOpens

end Metadata

namespace Node

/-- The overlay of two documents with metadata has metadata. -/
theorem metadata_overlay
    {left right : Node}
    {leftMetadata rightMetadata : Metadata}
    (rightWellFormed : right.WellFormed)
    (leftReads : left.metadata = .ok leftMetadata)
    (rightReads : right.metadata = .ok rightMetadata) :
    ∃ metadata, (left.overlay right).metadata = .ok metadata := by
  rcases metadata_eq_ok.1 leftReads with ⟨leftInner, leftReads⟩
  rcases metadata_eq_ok.1 rightReads with ⟨rightInner, rightReads⟩
  rcases leftReads.isMapping with ⟨leftFields, leftIsMapping⟩
  rcases rightReads.isMapping with ⟨rightFields, rightIsMapping⟩
  have leftOpens := openFields?_of_content leftIsMapping
  have rightOpens := openFields?_of_content rightIsMapping
  have isMapping := content_overlay_of_mappings leftIsMapping rightIsMapping
  have rightDistinct := (rightWellFormed.fieldsAt? [] rightOpens).distinct
  rcases openFields?_overlay leftOpens rightOpens rightDistinct with ⟨fields, opens, overlays⟩
  rcases fieldsAt?_overlay ["metadata"] rightWellFormed leftReads.inside rightReads.inside with
    ⟨inner, inside, overlaysInner⟩
  have children :
      ∀ name,
        (left.overlay right).child? name = overlayAt (left.child? name) (right.child? name) := by
    intro name
    rw [child?_of_open opens, child?_of_open leftOpens, child?_of_open rightOpens]
    exact overlays name
  have leftStays :
      ∀ name, (left.child? name).isSome → ((left.overlay right).child? name).isSome := by
    intro name present
    rcases Option.isSome_iff_exists.1 present with ⟨child, found⟩
    rw [children, found]
    cases right.child? name <;> rfl
  rcases Metadata.scalarText_overlayAt leftReads.apiVersion rightReads.apiVersion with
    ⟨apiVersion, readsApiVersion⟩
  rcases Metadata.scalarText_overlayAt leftReads.kind rightReads.kind with ⟨kind, readsKind⟩
  rcases Metadata.scalarText_overlayAt leftReads.parts.name rightReads.parts.name with
    ⟨name, readsName⟩
  rcases
      Metadata.scalarText_overlayAt leftReads.parts.namespaceName
        rightReads.parts.namespaceName with
    ⟨namespaceName, readsNamespace⟩
  rcases Metadata.stringMap_overlayAt leftReads.parts.labels rightReads.parts.labels with
    ⟨labels, readsLabels⟩
  rcases Metadata.stringMap_overlayAt leftReads.parts.annotations rightReads.parts.annotations with
    ⟨annotations, readsAnnotations⟩
  refine ⟨{ apiVersion, kind, name, namespaceName, labels, annotations }, metadata_eq_ok.2
    ⟨inner, ⟨_, isMapping⟩, ?_, ?_, ?_, inside, ?_, ?_, ?_, ?_⟩⟩
  · rcases leftReads.identified with byApiVersion | byKind | byMetadata
    · exact Or.inl (leftStays "apiVersion" byApiVersion)
    · exact Or.inr (Or.inl (leftStays "kind" byKind))
    · exact Or.inr (Or.inr (leftStays "metadata" byMetadata))
  · rw [children]
    exact readsApiVersion
  · rw [children]
    exact readsKind
  · rw [overlaysInner]
    exact readsName
  · rw [overlaysInner]
    exact readsNamespace
  · rw [overlaysInner]
    exact readsLabels
  · rw [overlaysInner]
    exact readsAnnotations

end Node

end Manifest
