import Manifest.Proofs.Resource.Renaming

/-!
# Histories of resources that get another type

The notes of an earlier id hold its name, its namespace and its kind.  Its group and its
version are not noted: they are read from the document, which says those of the type that
the resource has now.  So a resource that got another type is rebuilt from its document
with its current id, and its initial id is rebuilt exactly if the types agree in group and
version.
-/

namespace Manifest

namespace ResourceId

/-- An id as it is read from its notes in a document that says a type. -/
def notedWith (gvk : Gvk) (id : ResourceId) : ResourceId :=
  { id with gvk := { gvk with kind := id.gvk.kind } }

theorem notedWith_eq_self
    {gvk : Gvk}
    {id : ResourceId} :
    id.notedWith gvk = id ↔ gvk.group = id.gvk.group ∧ gvk.version = id.gvk.version := by
  rcases id with ⟨⟨group, version, kind⟩, namespaceName, name⟩
  simp [notedWith]

end ResourceId

namespace Resource

section

variable
  {resource : Resource}
  {metadata : Metadata}

/-- A document that notes an id and gets another type says this type, and the notes. -/
theorem note_and_retype
    {node : Node}
    (wellFormed : node.WellFormed)
    (reads : node.metadata = .ok metadata)
    (id : ResourceId)
    {gvk : Gvk}
    (readable : Gvk.ofApiVersion gvk.apiVersion gvk.kind = gvk) :
    ∃ noted next after,
      node.setAnnotations (notePreviousId id metadata.annotations) = .done () noted ∧
        noted.setGvk gvk = .done () next ∧
          next.metadata = .ok after ∧
            after.resourceId = { metadata.resourceId with gvk } ∧
              after.annotations = notePreviousId id metadata.annotations := by
  rcases Node.metadata_setAnnotations wellFormed reads
      (notePreviousId id metadata.annotations) with
    ⟨noted, notes, readsNoted⟩
  rcases Node.metadata_setGvk readsNoted gvk with ⟨next, sets, readsNext⟩
  refine ⟨noted, next, _, notes, sets, readsNext, ?_, rfl⟩
  rw [Metadata.resourceId, Metadata.gvk, readable]
  rfl

/-- A resource without a history that gets another type is rebuilt, but for its initial id. -/
theorem HasHistory.retyped
    (history : resource.HasHistory [] metadata)
    {gvk : Gvk}
    (readable : Gvk.ofApiVersion gvk.apiVersion gvk.kind = gvk) :
    ∃ next,
      resource.setGvk gvk = .done () next ∧
        next.initialId = resource.initialId ∧
          next.currentId = { resource.currentId with gvk } ∧
            ofNode next.node = .ok { next with initialId := next.initialId.notedWith gvk } := by
  have isInitial : resource.initialId = resource.currentId := history.isInitial
  by_cases same : resource.currentId.gvk = gvk
  · subst same
    have sameInitial :
        resource.initialId.notedWith resource.currentId.gvk = resource.initialId := by
      rw [ResourceId.notedWith_eq_self, isInitial]
      exact ⟨rfl, rfl⟩
    refine ⟨resource, if_pos rfl, rfl, rfl, ?_⟩
    rw [sameInitial]
    exact history.rebuilds
  · rcases note_and_retype history.wellFormed history.reads resource.currentId readable with
      ⟨noted, node, after, notes, sets, reads, placed, sameNotes⟩
    have renames := rename_eq_done history.reads notes sets reads
    have afterNotes : after.annotations.Notes [resource.currentId] := by
      rw [sameNotes]
      exact notes_notePreviousId history.notes resource.currentId
    have afterGvk : after.gvk = gvk := congrArg ResourceId.gvk placed
    have previous := previousIds_eq_map afterNotes (by simpa using history.currentCommaFree)
    refine ⟨_, (if_neg same).trans renames, rfl, ?_, ?_⟩
    · rw [history.isCurrent]
      exact placed
    · refine ofNode_eq_ok.2 ⟨after, reads, ?_, rfl, ?_, rfl⟩
      · exact (behavior_of_notePreviousId sameNotes).trans history.behavior
      · rw [Metadata.initialId, previous, afterGvk, isInitial]
        rfl

end

/--
A resource that is built of a document without notes of earlier ids can get any type that is
read from its texts.  It keeps its initial id, and its document rebuilds its current id with
the type; the document rebuilds the initial id exactly if the type has the same group and the
same version as the one before.
-/
theorem rebuilds_retyped_iff
    {node : Node}
    {resource : Resource}
    {annotations : StringMap}
    (wellFormed : node.WellFormed)
    (builds : ofNode node = .ok resource)
    (reads : node.annotations = .ok annotations)
    (unnoted :
      ∀ key ∈ [BuildNote.previousNames, BuildNote.previousNamespaces, BuildNote.previousKinds],
        annotations.get? key = none)
    (commaFree : resource.currentId.CommaFree)
    {gvk : Gvk}
    (readable : Gvk.ofApiVersion gvk.apiVersion gvk.kind = gvk) :
    ∃ next rebuilt,
      resource.setGvk gvk = .done () next ∧
        next.initialId = resource.initialId ∧
          ofNode next.node = .ok rebuilt ∧
            rebuilt.currentId = { resource.currentId with gvk } ∧
              rebuilt.initialId = next.initialId.notedWith gvk ∧
                (rebuilt.initialId = next.initialId ↔
                  gvk.group = resource.currentId.gvk.group ∧
                    gvk.version = resource.currentId.gvk.version) := by
  have notes : annotations.Notes [] :=
    ⟨unnoted _ (by simp), unnoted _ (by simp), unnoted _ (by simp)⟩
  rcases hasHistory_nil wellFormed builds reads notes commaFree with ⟨metadata, history⟩
  rcases history.retyped readable with ⟨next, sets, sameInitial, isPlaced, rebuilds⟩
  have isInitial : next.initialId = resource.currentId := sameInitial.trans history.isInitial
  refine ⟨next, _, sets, sameInitial, rebuilds, isPlaced, rfl, ?_⟩
  rw [ResourceId.notedWith_eq_self, isInitial]

/-- A document of a type in a group. -/
def deployment : Node :=
  .mapping
    [("apiVersion", .ofText "apps/v1"), ("kind", .ofText "Deployment"),
      ("metadata", .mapping [("name", .ofText "web")])]

/-- The resource of the document. -/
def deploymentResource : Resource where
  node := deployment
  initialId := { gvk := ⟨"apps", "v1", "Deployment"⟩, name := "web" }
  currentId := { gvk := ⟨"apps", "v1", "Deployment"⟩, name := "web" }

theorem wellFormed_deployment : deployment.WellFormed := by
  simp [deployment, Fields.names]

theorem commaFree_deployment : deploymentResource.currentId.CommaFree :=
  ⟨by decide, by decide, by decide⟩

/-- A kind of the same group and version leaves the initial id in the document. -/
theorem rebuilds_statefulSet :
    ∃ next rebuilt,
      deploymentResource.setGvk ⟨"apps", "v1", "StatefulSet"⟩ = .done () next ∧
        ofNode next.node = .ok rebuilt ∧
          rebuilt.currentId = { gvk := ⟨"apps", "v1", "StatefulSet"⟩, name := "web" } ∧
            rebuilt.initialId = next.initialId := by
  rcases
      rebuilds_retyped_iff wellFormed_deployment (rfl : ofNode deployment = .ok deploymentResource)
        rfl (by decide) commaFree_deployment
        (show Gvk.ofApiVersion (Gvk.apiVersion ⟨"apps", "v1", "StatefulSet"⟩) "StatefulSet" = _ by
          decide) with
    ⟨next, rebuilt, sets, _, rebuilds, isCurrent, _, sameInitial⟩
  exact ⟨next, rebuilt, sets, rebuilds, isCurrent, sameInitial.2 ⟨rfl, rfl⟩⟩

/-- A type of another group and version. -/
def movedType : Gvk := ⟨"extensions", "v1beta1", "Deployment"⟩

/-- Another group is lost: the document rebuilds an initial id that the resource never had. -/
theorem not_rebuilds_movedGroup :
    deployment.WellFormed ∧
      ofNode deployment = .ok deploymentResource ∧
      deployment.annotations = .ok .empty ∧
      deploymentResource.currentId.CommaFree ∧
      Gvk.ofApiVersion movedType.apiVersion movedType.kind = movedType ∧
      ∃ next rebuilt,
        deploymentResource.setGvk movedType = .done () next ∧
          ofNode next.node = .ok rebuilt ∧
            next.initialId.gvk = ⟨"apps", "v1", "Deployment"⟩ ∧
              rebuilt.initialId.gvk = movedType ∧
                rebuilt.initialId ≠ next.initialId :=
  ⟨wellFormed_deployment, rfl, rfl, commaFree_deployment, by decide, _, _, rfl, rfl, rfl, rfl,
    by decide⟩

end Resource

end Manifest
