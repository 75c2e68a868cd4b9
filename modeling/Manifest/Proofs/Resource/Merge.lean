import Manifest.Proofs.Node.Overlay
import Manifest.Proofs.Node.Setter
import Manifest.Resource.Basic

/-!
# Merged resources

One resource can be merged into another one whenever the metadata of both can be
read.  The document of the result says the same type, name and namespace as the
current id, and has the build annotations that it had before: those of the
incoming document are dropped first, and what the overlay brings is overwritten.
So a merge is an overlay into which an id and annotations are written.
-/

namespace Manifest

@[simp]
theorem Outcome.final_done
    {ε σ α : Type}
    (result : α)
    (state : σ) :
    (done result state : Outcome ε σ α).final = .ok state :=
  rfl

theorem Outcome.state_eq
    {ε σ α : Type}
    {outcome : Outcome ε σ α}
    {result : α}
    {state : σ}
    (isDone : outcome = done result state) :
    outcome.state = state :=
  congrArg Outcome.state isDone

theorem Node.annotations_of_metadata
    {node : Node}
    {metadata : Metadata}
    (reads : node.metadata = .ok metadata) :
    node.annotations = .ok metadata.annotations := by
  rw [Node.annotations, reads]
  rfl

namespace BuildNote

theorem get?_strip
    (annotations : StringMap)
    (key : String) :
    (strip annotations).get? key = if isKey key then none else annotations.get? key := by
  rw [strip, StringMap.get?_filterKeys]
  cases isKey key <;> rfl

theorem get?_only
    (annotations : StringMap)
    (key : String) :
    (only annotations).get? key = if isKey key then annotations.get? key else none :=
  StringMap.get?_filterKeys annotations isKey key

/-- Own build annotations take the place of all others, and other keys stay. -/
theorem get?_insertAll_only
    (annotations own : StringMap)
    (key : String) :
    ((strip annotations).insertAll (only own)).get? key =
      if isKey key then own.get? key else annotations.get? key := by
  rw [StringMap.get?_insertAll, get?_only, get?_strip]
  cases isKey key with
  | true => cases own.get? key <;> rfl
  | false => rfl

/-- Stripping that leaves as many annotations as before leaves all of them. -/
theorem strip_of_size_eq
    {annotations : StringMap}
    (sameSize : (strip annotations).size = annotations.size) :
    strip annotations = annotations :=
  StringMap.ext (List.filter_eq_self.2 (List.length_filter_eq_length_iff.1 sameSize))

end BuildNote

namespace Resource

variable
  {node : Node}
  {metadata : Metadata}

/-- The document that resources are compared by has no build annotations. -/
theorem comparableNode_eq_ok
    {resource : Resource}
    (wellFormed : resource.node.WellFormed)
    (reads : resource.node.metadata = .ok metadata) :
    ∃ next,
      resource.comparableNode = .ok next ∧ next.WellFormed ∧
        next.metadata =
          .ok { metadata with annotations := BuildNote.strip metadata.annotations } := by
  rw [comparableNode, removeBuildAnnotations, Node.annotations_of_metadata reads,
    Outcome.reading_ok]
  dsimp only
  split
  · rename_i sameSize
    refine ⟨resource.node, rfl, wellFormed, ?_⟩
    rw [BuildNote.strip_of_size_eq sameSize]
    exact reads
  · rcases Node.metadata_setAnnotations wellFormed reads (BuildNote.strip metadata.annotations) with
      ⟨next, sets, readsNext⟩
    have nextWellFormed : next.WellFormed :=
      Outcome.state_eq sets ▸ wellFormed.setAnnotations (BuildNote.strip metadata.annotations)
    refine ⟨next, ?_, nextWellFormed, readsNext⟩
    rw [editNode, sets]
    rfl

theorem adapted_of_steps
    {typed named placed : Node}
    {id : ResourceId}
    (setsGvk : node.setGvk id.gvk = .done () typed)
    (setsName : typed.setName id.name = .done () named)
    (setsNamespace : named.setNamespace id.namespaceName = .done () placed) :
    adapted id node = .ok placed := by
  simp only [adapted, Result.bind_eq_ok]
  exact ⟨typed, by rw [setsGvk]; rfl, named, by rw [setsName]; rfl, by rw [setsNamespace]; rfl⟩

/-! ## What a merge writes -/

/-- What a merge writes into an overlay: an id and annotations. -/
def mergePuts (id : ResourceId) (annotations : StringMap) : List Node.Put :=
  Part.gvk.puts id.gvk ++
    (Part.name.puts id.name ++
      (Part.namespaceName.puts id.namespaceName ++ Part.annotations.puts annotations))

theorem wellFormed_mergePuts
    (id : ResourceId)
    (annotations : StringMap) :
    ∀ put ∈ mergePuts id annotations, put.WellFormed := by
  simp only [mergePuts, List.forall_mem_append]
  exact ⟨Part.gvk.wellFormed_puts _, Part.name.wellFormed_puts _,
    Part.namespaceName.wellFormed_puts _, Part.annotations.wellFormed_puts _⟩

/-- The annotations of a merge: those of the overlay, and of the build those of the resource. -/
def mergedAnnotations (own overlaid : StringMap) : StringMap :=
  (BuildNote.strip overlaid).insertAll (BuildNote.only own)

/-- Of the build, the annotations are those of the resource; the others are those of the overlay. -/
theorem get?_mergedAnnotations
    (own overlaid : StringMap)
    (key : String) :
    (mergedAnnotations own overlaid).get? key =
      if BuildNote.isKey key then own.get? key else overlaid.get? key :=
  BuildNote.get?_insertAll_only overlaid own key

/-- The metadata of a merge: the id of the resource, and its annotations. -/
def mergedMetadata (id : ResourceId) (own : StringMap) (overlaid : Metadata) : Metadata :=
  { overlaid with
    apiVersion := id.gvk.apiVersion
    kind := id.gvk.kind
    name := id.name
    namespaceName := id.namespaceName
    annotations := mergedAnnotations own overlaid.annotations }

/-- The overlay of a document can be given an id and annotations, which are then written in it. -/
theorem merge_writes
    (wellFormed : node.WellFormed)
    (reads : node.metadata = .ok metadata)
    (id : ResourceId)
    (own : StringMap) :
    ∃ typed next,
      adapted id node = .ok typed ∧
      withBuildAnnotations (BuildNote.only own) typed = .ok next ∧
      next.WellFormed ∧
      next.metadata = .ok (mergedMetadata id own metadata) ∧
      some next.toValue =
        Value.putAll
          ((mergePuts id (mergedAnnotations own metadata.annotations)).map Node.Put.write)
          (some node.toValue) := by
  rcases Part.metadata_set wellFormed reads .gvk id.gvk with ⟨typed, setsGvk, readsTyped⟩
  have typedWellFormed := Part.wellFormed_set wellFormed setsGvk
  rcases Part.metadata_set typedWellFormed readsTyped .name id.name with
    ⟨named, setsName, readsNamed⟩
  have namedWellFormed := Part.wellFormed_set typedWellFormed setsName
  rcases Part.metadata_set namedWellFormed readsNamed .namespaceName id.namespaceName with
    ⟨placed, setsNamespace, readsPlaced⟩
  have placedWellFormed := Part.wellFormed_set namedWellFormed setsNamespace
  rcases
      Part.metadata_set placedWellFormed readsPlaced .annotations
        (mergedAnnotations own metadata.annotations) with
    ⟨next, setsAnnotations, readsNext⟩
  have nextWellFormed := Part.wellFormed_set placedWellFormed setsAnnotations
  refine ⟨placed, next, adapted_of_steps setsGvk setsName setsNamespace, ?_, nextWellFormed,
    readsNext, ?_⟩
  · have readsAnnotations : placed.annotations = .ok metadata.annotations := by
      rw [Node.annotations, readsPlaced]
      rfl
    rw [withBuildAnnotations, Result.bind_eq_ok]
    exact ⟨metadata.annotations, readsAnnotations, congrArg Outcome.final setsAnnotations⟩
  · rw [Part.toValue_set placedWellFormed setsAnnotations,
      Part.toValue_set namedWellFormed setsNamespace, Part.toValue_set typedWellFormed setsName,
      Part.toValue_set wellFormed setsGvk]
    simp only [mergePuts, List.map_append, Value.putAll_append]

/-- The steps of a merge. -/
structure Merge (resource : Resource) (own : StringMap) (patch next : Node) (overlaid : Metadata) :
    Prop where
  merges :
    ∀ incoming : Resource, incoming.comparableNode = .ok patch →
      resource.mergedWith incoming = .ok { resource with node := next }
  readsOverlay : (resource.node.overlay patch).metadata = .ok overlaid
  wellFormed : next.WellFormed
  reads : next.metadata = .ok (mergedMetadata resource.currentId own overlaid)
  writes :
    some next.toValue =
      Value.putAll
        ((mergePuts resource.currentId (mergedAnnotations own overlaid.annotations)).map
          Node.Put.write)
        (some (resource.node.overlay patch).toValue)

section

variable
  {resource incoming : Resource}
  {incomingMetadata patchMetadata : Metadata}
  {patch : Node}

/-- A document with metadata can be merged into a resource whose document has metadata. -/
theorem exists_merge
    (wellFormed : resource.node.WellFormed)
    (reads : resource.node.metadata = .ok metadata)
    (patchWellFormed : patch.WellFormed)
    (patchReads : patch.metadata = .ok patchMetadata) :
    ∃ next overlaid, resource.Merge metadata.annotations patch next overlaid := by
  rcases Node.metadata_overlay patchWellFormed reads patchReads with ⟨overlaid, readsOverlaid⟩
  rcases
      merge_writes (wellFormed.overlay patchWellFormed) readsOverlaid resource.currentId
        metadata.annotations with
    ⟨typed, next, adapts, restores, nextWellFormed, readsNext, writes⟩
  refine ⟨next, overlaid, ?_, readsOverlaid, nextWellFormed, readsNext, writes⟩
  intro incoming compares
  simp only [mergedWith, Result.bind_eq_ok]
  exact ⟨patch, compares, metadata.annotations, Node.annotations_of_metadata reads, typed,
    adapts, next, restores, rfl⟩

/--
Merging succeeds where both documents have metadata, and only the document
changes.  It keeps the build annotations, and says what the current id says.
-/
theorem mergedWith_eq_ok
    (wellFormed : resource.node.WellFormed)
    (reads : resource.node.metadata = .ok metadata)
    (incomingWellFormed : incoming.node.WellFormed)
    (incomingReads : incoming.node.metadata = .ok incomingMetadata) :
    ∃ next merged,
      resource.mergedWith incoming = .ok { resource with node := next } ∧
      next.WellFormed ∧
      next.metadata = .ok merged ∧
      merged.apiVersion = resource.currentId.gvk.apiVersion ∧
      merged.kind = resource.currentId.gvk.kind ∧
      merged.name = resource.currentId.name ∧
      merged.namespaceName = resource.currentId.namespaceName ∧
      ∀ key, BuildNote.isKey key = true →
        merged.annotations.get? key = metadata.annotations.get? key := by
  rcases comparableNode_eq_ok incomingWellFormed incomingReads with
    ⟨patch, compares, patchWellFormed, readsPatch⟩
  rcases exists_merge wellFormed reads patchWellFormed readsPatch with ⟨next, overlaid, merge⟩
  refine ⟨next, _, merge.merges incoming compares, merge.wellFormed, merge.reads, rfl, rfl, rfl,
    rfl, ?_⟩
  intro key isBuildKey
  exact (get?_mergedAnnotations _ _ key).trans (if_pos isBuildKey)

end

end Resource

end Manifest
