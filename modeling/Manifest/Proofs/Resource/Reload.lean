import Manifest.Proofs.Identity.Gvk
import Manifest.Proofs.Resource.Merge
import Manifest.Proofs.Resource.Stream

/-!
# Resources that their documents rebuild

A resource is faithful if its document says all about it: building a resource of
the document gives the same ids and the same behavior, and the document stands
for itself in a stream.  The resources of a stream are faithful as long as their
types survive being written, and a merge of two faithful resources is faithful.

The merge is where this can break.  It overlays foreign fields, so the document
is adapted to the current id again; and the initial id and the behavior are only
in the build annotations, so these are put back as they were.
-/

namespace Manifest

/-! ## What the build annotations say -/

namespace Metadata

/-- Build annotations that say the same with one current id give one initial id. -/
theorem initialId_congr
    {left right : Metadata}
    (sameId : left.resourceId = right.resourceId)
    (sameNotes :
      ∀ key, BuildNote.isKey key = true →
        left.annotations.get? key = right.annotations.get? key) :
    left.initialId = right.initialId := by
  have sameGvk : left.gvk = right.gvk := congrArg ResourceId.gvk sameId
  rw [initialId, initialId, previousIds, previousIds, sameId, sameGvk,
    sameNotes BuildNote.previousNames (by decide),
    sameNotes BuildNote.previousNamespaces (by decide),
    sameNotes BuildNote.previousKinds (by decide)]

theorem behavior_congr
    {left right : Metadata}
    (sameNotes :
      ∀ key, BuildNote.isKey key = true →
        left.annotations.get? key = right.annotations.get? key) :
    left.behavior = right.behavior := by
  rw [behavior, behavior, sameNotes BuildNote.generatorBehavior (by decide)]

end Metadata

/-! ## Faithful resources -/

namespace Resource

theorem ofNode_eq_ok
    {node : Node}
    {resource : Resource} :
    ofNode node = .ok resource ↔
      ∃ metadata : Metadata,
        node.metadata = .ok metadata ∧
        metadata.behavior = .ok resource.behavior ∧
        resource.node = node ∧
        resource.initialId = metadata.initialId ∧
        resource.currentId = metadata.resourceId := by
  simp only [ofNode, Result.bind_eq_ok]
  constructor
  · rintro ⟨metadata, reads, behavior, readsBehavior, same⟩
    cases same
    exact ⟨metadata, reads, readsBehavior, rfl, rfl, rfl⟩
  · rintro ⟨metadata, reads, readsBehavior, sameNode, sameInitialId, sameCurrentId⟩
    refine ⟨metadata, reads, resource.behavior, readsBehavior, ?_⟩
    rw [← sameNode, ← sameInitialId, ← sameCurrentId]
    rfl

/-- The document of a resource says all about it. -/
structure Faithful (resource : Resource) : Prop where
  /-- No mapping of the document has two fields with one name. -/
  wellFormed : resource.node.WellFormed
  standalone : resource.node.Standalone
  rebuilds : ofNode resource.node = .ok resource
  stableType :
    Gvk.ofApiVersion resource.currentId.gvk.apiVersion resource.currentId.gvk.kind =
      resource.currentId.gvk

/-- Faithful resources are the resources of their documents. -/
theorem ofNodes_of_faithful
    {resources : List Resource}
    (faithful : ∀ resource ∈ resources, resource.Faithful) :
    ofNodes (resources.map node) = .ok resources := by
  have standalone : ∀ document ∈ resources.map node, document.Standalone := by
    intro document member
    rcases List.mem_map.1 member with ⟨resource, isMember, rfl⟩
    exact (faithful resource isMember).standalone
  rw [ofNodes, Node.expandAll_of_standalone standalone, Result.bind_eq_ok]
  exact ⟨_, rfl, Result.mapM_map_eq_ok fun resource member => (faithful resource member).rebuilds⟩

/-- Merging a faithful resource into a faithful one gives a faithful one. -/
theorem Faithful.mergedWith
    {resource incoming merged : Resource}
    (faithful : resource.Faithful)
    (incomingFaithful : incoming.Faithful)
    (merges : resource.mergedWith incoming = .ok merged) :
    merged.Faithful := by
  rcases ofNode_eq_ok.1 faithful.rebuilds with
    ⟨metadata, reads, readsBehavior, _, sameInitialId, sameCurrentId⟩
  rcases ofNode_eq_ok.1 incomingFaithful.rebuilds with ⟨incomingMetadata, incomingReads, _⟩
  rcases mergedWith_eq_ok faithful.wellFormed reads incomingFaithful.wellFormed incomingReads with
    ⟨next, after, mergesTo, nextWellFormed, readsNext, sameApiVersion, sameKind, sameName,
      sameNamespace, sameNotes⟩
  rw [mergesTo] at merges
  cases merges
  have sameId : after.resourceId = resource.currentId := by
    rw [Metadata.resourceId, Metadata.gvk, sameApiVersion, sameKind, sameName, sameNamespace,
      faithful.stableType]
  have keptKind : after.kind = metadata.kind := by
    rw [sameKind, sameCurrentId]
    rfl
  refine ⟨nextWellFormed, ⟨Node.notNull_of_metadata readsNext, ?_⟩, ?_, faithful.stableType⟩
  · rw [Node.isList_of_metadata readsNext, keptKind, ← Node.isList_of_metadata reads]
    exact faithful.standalone.notList
  · refine ofNode_eq_ok.2 ⟨after, readsNext, ?_, rfl, ?_, sameId.symm⟩
    · rw [Metadata.behavior_congr sameNotes]
      exact readsBehavior
    · rw [Metadata.initialId_congr (sameId.trans sameCurrentId) sameNotes]
      exact sameInitialId

/--
A resource that some well-formed documents give, with an `apiVersion` that does
not start with a slash.
-/
structure Produced (resource : Resource) : Prop where
  fromNodes :
    ∃ nodes resources,
      (∀ node ∈ nodes, node.WellFormed) ∧ ofNodes nodes = .ok resources ∧ resource ∈ resources
  relative :
    ∀ metadata, resource.node.metadata = .ok metadata → Gvk.IsRelative metadata.apiVersion

theorem Produced.faithful
    {resource : Resource}
    (produced : resource.Produced) :
    resource.Faithful := by
  rcases produced.fromNodes with ⟨nodes, resources, wellFormed, builds, member⟩
  rw [ofNodes, Result.bind_eq_ok] at builds
  rcases builds with ⟨expanded, expands, builds⟩
  rcases Result.exists_of_mem_mapM builds resource member with ⟨node, isExpanded, buildsOne⟩
  rcases ofNode_eq_ok.1 buildsOne with
    ⟨metadata, reads, readsBehavior, rfl, sameInitialId, sameCurrentId⟩
  have relative := produced.relative metadata reads
  rcases
      Node.standalone_of_expandAll Node.hereditary_wellFormed wellFormed expands _ isExpanded with
    ⟨nodeWellFormed, standalone⟩
  refine ⟨nodeWellFormed, standalone, buildsOne, ?_⟩
  rw [sameCurrentId]
  exact Gvk.ofApiVersion_apiVersion relative metadata.kind

end Resource

end Manifest
