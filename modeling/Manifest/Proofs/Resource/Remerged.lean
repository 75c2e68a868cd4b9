import Manifest.Proofs.Node.Leaf
import Manifest.Proofs.Node.Overlaid
import Manifest.Proofs.Resource.Merge

/-!
# Merging a resource again

Merging lays the document of another resource over that of a resource, and then writes the
id and the annotations.  The value of the result is that of the overlay with some writes in
it, and a second merge makes the same writes.  They do not see that they were made before
something was laid over the value, and to lay the same document over again changes nothing.
So the second merge gives the value that the first one gave.

That the second merge writes the same annotations is decided key by key: a text that was
written is kept where the other document has nothing, and is the text of that document
where it has one.
-/

namespace Manifest

theorem StringMap.ext_get?
    {left right : StringMap}
    (same : ∀ key, left.get? key = right.get? key) :
    left = right :=
  ext (left.ascending.ext right.ascending same)

namespace Node

/-! ## Annotations of overlays -/

/-- The text where an optional leaf is laid over an optional text. -/
def textOver (left : Option String) : Option Scalar → Option String
  | none => left
  | some leaf => some (if leaf.isNull then left.getD "" else leaf.text)

theorem textOver_textOver
    (left : Option String)
    (right : Option Scalar) :
    textOver (textOver left right) right = textOver left right := by
  cases right with
  | none => rfl
  | some leaf => cases isNull : leaf.isNull <;> simp [textOver, isNull]

variable
  {left right : Node}
  {leftMetadata rightMetadata overlaid : Metadata}

/-- The annotations of a document that can be read are fields that hold scalars. -/
theorem annotationFields
    {node : Node}
    {metadata : Metadata}
    (reads : node.metadata = .ok metadata) :
    ∃ fields,
      node.fieldsAt? ["metadata", "annotations"] = some fields ∧
        ∀ field ∈ fields, ∃ leaf, field.2.content = .scalar leaf := by
  rcases metadata_eq_ok.1 reads with ⟨inner, reads⟩
  rcases Metadata.stringMap_eq_ok.1 ⟨_, reads.parts.annotations⟩ with ⟨fields, opens, areScalars⟩
  refine ⟨fields, ?_, areScalars⟩
  have inside := reads.inside
  rcases Option.bind_eq_some_iff.1 inside with ⟨top, opensTop, _⟩
  rw [fieldsAt?_cons opensTop] at inside ⊢
  exact (fieldsAt?_cons inside "annotations" []).trans opens

/-- An annotation of an overlay is the leaf of the right document laid over the left text. -/
theorem get?_annotations_overlay
    (leftWellFormed : left.WellFormed)
    (rightWellFormed : right.WellFormed)
    (leftReads : left.metadata = .ok leftMetadata)
    (rightReads : right.metadata = .ok rightMetadata)
    (overlaidReads : (left.overlay right).metadata = .ok overlaid)
    (key : String) :
    overlaid.annotations.get? key =
      textOver (leftMetadata.annotations.get? key) (right.leafAt? (annotationNames key)) := by
  rcases annotationFields leftReads with ⟨leftFields, leftOpens, leftScalars⟩
  rcases annotationFields rightReads with ⟨rightFields, rightOpens, rightScalars⟩
  rcases fieldsAt?_overlay _ rightWellFormed leftOpens rightOpens with ⟨fields, opens, overlays⟩
  have leaves :
      ∀ {node : Node} {fields : List (String × Node)},
        node.fieldsAt? ["metadata", "annotations"] = some fields →
        node.leafAt? (annotationNames key) = (Fields.get? key fields).bind scalar? := by
    intro node fields opens
    exact leafAt?_append ["metadata", "annotations"] key [] opens
  rw [get?_annotations (leftWellFormed.overlay rightWellFormed) overlaidReads,
    get?_annotations leftWellFormed leftReads, leaves opens, leaves leftOpens, leaves rightOpens,
    overlays]
  cases rightFound : Fields.get? key rightFields with
  | none => rw [overlayAt_none_right]; rfl
  | some rightNode =>
      rcases rightScalars _ (Fields.mem_of_get? rightFound) with ⟨rightLeaf, rightIsScalar⟩
      have rightIsLeaf : rightNode.scalar? = some rightLeaf := scalar?_eq_some.2 rightIsScalar
      have textOfNull : rightLeaf.isNull = true → rightLeaf.text = "" := by
        intro isNull
        rw [Scalar.text, if_pos isNull]
      cases leftFound : Fields.get? key leftFields with
      | none =>
          rw [overlayAt_none_left, Option.bind_some, rightIsLeaf]
          cases isNull : rightLeaf.isNull with
          | true => simp [textOver, isNull, textOfNull]
          | false => simp [textOver, isNull]
      | some leftNode =>
          rcases leftScalars _ (Fields.mem_of_get? leftFound) with ⟨leftLeaf, leftIsScalar⟩
          have leftIsLeaf : leftNode.scalar? = some leftLeaf := scalar?_eq_some.2 leftIsScalar
          have isLeaf := scalar?_eq_some.2 (content_overlay_of_scalars leftIsScalar rightIsScalar)
          rw [overlayAt, Option.bind_some, Option.bind_some, Option.bind_some, isLeaf, leftIsLeaf,
            rightIsLeaf]
          cases isNull : rightLeaf.isNull <;> simp [textOver, isNull]

end Node

namespace Resource

/-! ## Merging once more -/

theorem allApart_mergePuts
    (id : ResourceId)
    (annotations : StringMap) :
    Value.AllApart ((mergePuts id annotations).map Node.Put.write) := by
  apply Node.allApart_writes
  simp only [mergePuts, List.map_append, Part.map_path_puts]
  decide

section

variable
  {resource : Resource}
  {metadata patchMetadata : Metadata}
  {patch : Node}

/-- Where annotations were merged, they are merged to the same annotations again. -/
theorem mergedAnnotations_again
    {next : Node}
    {overlaid again : Metadata}
    (wellFormed : resource.node.WellFormed)
    (reads : resource.node.metadata = .ok metadata)
    (patchWellFormed : patch.WellFormed)
    (patchReads : patch.metadata = .ok patchMetadata)
    (merge : resource.Merge metadata.annotations patch next overlaid)
    (readsAgain : (next.overlay patch).metadata = .ok again) :
    mergedAnnotations (mergedAnnotations metadata.annotations overlaid.annotations)
        again.annotations =
      mergedAnnotations metadata.annotations overlaid.annotations := by
  apply StringMap.ext_get?
  intro key
  rw [get?_mergedAnnotations]
  split
  · rfl
  · rename_i notBuildKey
    have merged :
        (mergedAnnotations metadata.annotations overlaid.annotations).get? key =
          overlaid.annotations.get? key := by
      rw [get?_mergedAnnotations, if_neg notBuildKey]
    have overlays :=
      Node.get?_annotations_overlay wellFormed patchWellFormed reads patchReads
        merge.readsOverlay key
    have overlaysAgain :=
      Node.get?_annotations_overlay merge.wellFormed patchWellFormed merge.reads patchReads
        readsAgain key
    calc
      again.annotations.get? key =
          Node.textOver
            ((mergedAnnotations metadata.annotations overlaid.annotations).get? key)
            (patch.leafAt? (Node.annotationNames key)) := overlaysAgain
      _ = Node.textOver
            (Node.textOver (metadata.annotations.get? key)
              (patch.leafAt? (Node.annotationNames key)))
            (patch.leafAt? (Node.annotationNames key)) := by rw [merged, overlays]
      _ = overlaid.annotations.get? key := by rw [Node.textOver_textOver, overlays]
      _ = (mergedAnnotations metadata.annotations overlaid.annotations).get? key := merged.symm

/-- A merge of the same document again leaves the value of the document. -/
theorem Merge.toValue_again
    {next twice : Node}
    {overlaid again : Metadata}
    (wellFormed : resource.node.WellFormed)
    (reads : resource.node.metadata = .ok metadata)
    (patchWellFormed : patch.WellFormed)
    (patchReads : patch.metadata = .ok patchMetadata)
    (merge : resource.Merge metadata.annotations patch next overlaid)
    (mergeAgain :
      Merge { resource with node := next }
        (mergedAnnotations metadata.annotations overlaid.annotations) patch twice again) :
    twice.toValue = next.toValue := by
  let writes :=
    (mergePuts resource.currentId
      (mergedAnnotations metadata.annotations overlaid.annotations)).map Node.Put.write
  have sameAnnotations :=
    mergedAnnotations_again wellFormed reads patchWellFormed patchReads merge
      mergeAgain.readsOverlay
  have twiceWrites :
      some twice.toValue = Value.putAll writes (some (next.overlay patch).toValue) := by
    rw [mergeAgain.writes, sameAnnotations]
  have overlaid := wellFormed.overlay patchWellFormed
  have orderedOverlay : Value.OrderedAt (some (resource.node.overlay patch).toValue) := by
    rintro _ ⟨⟩
    exact overlaid.ordered_toValue
  have orderedPatch : Value.OrderedAt (some patch.toValue) := by
    rintro _ ⟨⟩
    exact patchWellFormed.ordered_toValue
  apply Option.some.inj
  calc
    some twice.toValue = Value.putAll writes (some (next.overlay patch).toValue) := twiceWrites
    _ = Value.putAll writes (Value.overlayAt (some next.toValue) (some patch.toValue)) := by
      rw [Node.toValue_overlay merge.wellFormed patchWellFormed, Value.overlayAt_some]
    _ = Value.putAll writes
          (Value.overlayAt (some (resource.node.overlay patch).toValue) (some patch.toValue)) := by
      rw [merge.writes]
      exact Value.putAll_overlayAt_putAll (allApart_mergePuts _ _)
        (Node.orderedContents_writes (wellFormed_mergePuts _ _)) orderedOverlay orderedPatch
    _ = Value.putAll writes (some (resource.node.overlay patch).toValue) := by
      rw [Value.overlayAt_some, Node.toValue_overlay wellFormed patchWellFormed,
        Value.overlay_overlay_self wellFormed.ordered_toValue patchWellFormed.ordered_toValue]
    _ = some next.toValue := merge.writes.symm

end

theorem readable_of_comparableNode
    {resource : Resource}
    {patch : Node}
    (compares : resource.comparableNode = .ok patch) :
    ∃ metadata, resource.node.metadata = .ok metadata := by
  cases reads : resource.node.metadata with
  | ok metadata => exact ⟨metadata, rfl⟩
  | error error =>
      have fails : resource.node.annotations = .error error := by
        rw [Node.annotations, reads]
        rfl
      rw [comparableNode, removeBuildAnnotations, fails, Outcome.reading_error] at compares
      cases compares

/-- Merging succeeds exactly if both documents have metadata. -/
theorem mergedWith_isOk_iff
    {resource incoming : Resource}
    (wellFormed : resource.node.WellFormed)
    (incomingWellFormed : incoming.node.WellFormed) :
    (∃ merged, resource.mergedWith incoming = .ok merged) ↔
      (∃ metadata, resource.node.metadata = .ok metadata) ∧
        ∃ metadata, incoming.node.metadata = .ok metadata := by
  constructor
  · rintro ⟨merged, merges⟩
    simp only [mergedWith, Result.bind_eq_ok] at merges
    rcases merges with ⟨patch, compares, annotations, readsAnnotations, _⟩
    rcases Result.map_eq_ok.1 readsAnnotations with ⟨metadata, reads, _⟩
    exact ⟨⟨metadata, reads⟩, readable_of_comparableNode compares⟩
  · rintro ⟨⟨metadata, reads⟩, incomingMetadata, incomingReads⟩
    rcases comparableNode_eq_ok incomingWellFormed incomingReads with
      ⟨patch, compares, patchWellFormed, patchReads⟩
    rcases exists_merge wellFormed reads patchWellFormed patchReads with ⟨next, overlaid, merge⟩
    exact ⟨_, merge.merges incoming compares⟩

theorem only_mergedAnnotations (own overlaid : StringMap) :
    BuildNote.only (mergedAnnotations own overlaid) = BuildNote.only own := by
  apply StringMap.ext_get?
  intro key
  rw [BuildNote.get?_only, BuildNote.get?_only, get?_mergedAnnotations]
  split <;> rfl

/--
Merging succeeds exactly if both documents have metadata.  To merge the same resource again
succeeds as well and changes neither the ids, nor the behavior, nor the value of the document;
and of the build annotations a merge keeps those of the resource and no others.
-/
theorem mergedWith_again
    {resource incoming : Resource}
    (wellFormed : resource.node.WellFormed)
    (incomingWellFormed : incoming.node.WellFormed) :
    ((∃ merged, resource.mergedWith incoming = .ok merged) ↔
        (∃ metadata, resource.node.metadata = .ok metadata) ∧
          ∃ metadata, incoming.node.metadata = .ok metadata) ∧
      ∀ merged, resource.mergedWith incoming = .ok merged →
        (∃ again,
          merged.mergedWith incoming = .ok again ∧
            again.initialId = merged.initialId ∧
            again.currentId = merged.currentId ∧
            again.behavior = merged.behavior ∧
            again.node.toValue = merged.node.toValue) ∧
          ∃ before after,
            resource.node.annotations = .ok before ∧
              merged.node.annotations = .ok after ∧
              BuildNote.only after = BuildNote.only before := by
  have isOk := mergedWith_isOk_iff wellFormed incomingWellFormed
  refine ⟨isOk, ?_⟩
  intro merged merges
  rcases isOk.1 ⟨merged, merges⟩ with ⟨⟨metadata, reads⟩, incomingMetadata, incomingReads⟩
  rcases comparableNode_eq_ok incomingWellFormed incomingReads with
    ⟨patch, compares, patchWellFormed, patchReads⟩
  rcases exists_merge wellFormed reads patchWellFormed patchReads with ⟨next, overlaid, merge⟩
  cases merges.symm.trans (merge.merges incoming compares)
  let merged : Resource := { resource with node := next }
  rcases
      exists_merge (show merged.node.WellFormed from merge.wellFormed)
        (show merged.node.metadata = _ from merge.reads) patchWellFormed patchReads with
    ⟨twice, again, mergeAgain⟩
  refine ⟨⟨_, mergeAgain.merges incoming compares, rfl, rfl, rfl, ?_⟩, ?_⟩
  · exact merge.toValue_again wellFormed reads patchWellFormed patchReads mergeAgain
  · exact ⟨_, _, Node.annotations_of_metadata reads, Node.annotations_of_metadata merge.reads,
      only_mergedAnnotations _ _⟩

/-- A resource with a weight that is no text, and with a build annotation. -/
def weighted : Resource where
  node :=
    .mapping
      [("kind", .ofText "ConfigMap"),
        ("metadata",
          .mapping
            [("name", .ofText "web"),
              ("annotations",
                .mapping
                  [("weight", .scalar ⟨.int 16, some "0x10"⟩),
                    (BuildNote.namePrefixes, .ofText "a")])])]
  initialId := { gvk := .ofKind "ConfigMap", name := "web" }
  currentId := { gvk := .ofKind "ConfigMap", name := "web" }

/-- A resource with nothing for its annotations. -/
def unweighted : Resource where
  node :=
    .mapping
      [("kind", .ofText "Secret"),
        ("metadata", .mapping [("annotations", .mapping [("weight", .null), ("owner", .null)])])]
  initialId := { gvk := .ofKind "Secret" }
  currentId := { gvk := .ofKind "Secret" }

/-- A weight becomes a text, and nothing becomes the empty text, in the first merge only. -/
theorem weighted_mergedWith_unweighted :
    weighted.node.WellFormed ∧ unweighted.node.WellFormed ∧
      ∃ merged again,
        weighted.mergedWith unweighted = .ok merged ∧
          merged.mergedWith unweighted = .ok again ∧
          again.currentId = merged.currentId ∧
          again.node.toValue = merged.node.toValue ∧
          merged.node.toValue =
            .map
              [("apiVersion", .text ""), ("kind", .text "ConfigMap"),
                ("metadata",
                  .map
                    [("annotations",
                      .map
                        [(BuildNote.namePrefixes, .text "a"), ("owner", .text ""),
                          ("weight", .text "0x10")]),
                      ("name", .text "web")])] := by
  have nothing : Node.null.WellFormed := .scalar Scalar.null
  have weight : (Node.scalar ⟨.int 16, some "0x10"⟩).WellFormed := .scalar _
  have wellFormed : weighted.node.WellFormed := by
    simp [weighted, weight, Fields.names, BuildNote.namePrefixes]
  have incomingWellFormed : unweighted.node.WellFormed := by
    simp [unweighted, nothing, Fields.names]
  rcases (mergedWith_again wellFormed incomingWellFormed).1.2 ⟨⟨_, rfl⟩, _, rfl⟩ with
    ⟨merged, merges⟩
  rcases (mergedWith_again wellFormed incomingWellFormed).2 merged merges with
    ⟨⟨again, mergesAgain, _, sameId, _, sameValue⟩, _⟩
  refine ⟨wellFormed, incomingWellFormed, merged, again, merges, mergesAgain, sameId, sameValue, ?_⟩
  cases merges
  rfl

end Resource

end Manifest
