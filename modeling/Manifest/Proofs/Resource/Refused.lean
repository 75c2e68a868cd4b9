import Manifest.Proofs.Node.Refused
import Manifest.Proofs.Resource.Renaming

/-!
# Setters that fail

A setter of a document that fails leaves the value of the document.  A setter of a resource
makes three steps, each of which can fail: it notes the id that it gives up, edits the
document and reads the id again.  Only the first step ever fails, and only before it writes:
where the metadata can be read, the notes can be written, the type, the name and the
namespace can be set, and the metadata can be read again.  So a setter of a resource that
fails leaves the whole resource.
-/

namespace Manifest

namespace Resource

/-- A setter of the resource that fails leaves the document, the ids and the behavior. -/
structure SettersKeepOnFailure (resource : Resource) : Prop where
  setName : ∀ name, (resource.setName name).KeepsOnFailure id resource
  setNamespace :
    ∀ namespaceName, (resource.setNamespace namespaceName).KeepsOnFailure id resource
  setGvk : ∀ gvk, (resource.setGvk gvk).KeepsOnFailure id resource

section

variable
  {resource : Resource}

/-- Without metadata a renaming stops before its first write. -/
theorem rename_of_unreadable
    {error : DocumentError}
    (unreadable : resource.node.metadata = .error error)
    (edit : Node → Node.Edited Node) :
    resource.rename edit = .failed error resource := by
  rw [rename, storePreviousId, Node.annotations, unreadable]
  rfl

/-- Where the metadata can be read, no step of a renaming fails. -/
theorem rename_of_readable
    {metadata : Metadata}
    (wellFormed : resource.node.WellFormed)
    (reads : resource.node.metadata = .ok metadata)
    (part : Part)
    (content : part.Content) :
    (resource.rename (part.set content)).result = .ok () := by
  rcases Node.metadata_setAnnotations wellFormed reads
      (notePreviousId resource.currentId metadata.annotations) with
    ⟨noted, notes, readsNoted⟩
  have notedWellFormed : noted.WellFormed :=
    Outcome.state_eq notes ▸ wellFormed.setAnnotations _
  rcases Part.metadata_set notedWellFormed readsNoted part content with
    ⟨node, sets, readsAfter⟩
  rw [rename_eq_done reads notes sets readsAfter]
  rfl

theorem rename_keepsOnFailure
    (wellFormed : resource.node.WellFormed)
    (part : Part)
    (content : part.Content) :
    (resource.rename (part.set content)).KeepsOnFailure id resource := by
  cases reads : resource.node.metadata with
  | error unreadable =>
      rw [rename_of_unreadable reads]
      exact fun _ _ => rfl
  | ok metadata =>
      exact Outcome.keepsOnFailure_of_ok (rename_of_readable wellFormed reads part content)

/-- A setter that has nothing to change does not fail, and any other call is a renaming. -/
theorem settersKeepOnFailure
    (wellFormed : resource.node.WellFormed) :
    resource.SettersKeepOnFailure where
  setName := fun name =>
    Outcome.KeepsOnFailure.ite (Outcome.keepsOnFailure_of_ok rfl)
      (rename_keepsOnFailure wellFormed .name name)
  setNamespace := fun namespaceName =>
    Outcome.KeepsOnFailure.ite (Outcome.keepsOnFailure_of_ok rfl)
      (rename_keepsOnFailure wellFormed .namespaceName namespaceName)
  setGvk := fun gvk =>
    Outcome.KeepsOnFailure.ite (Outcome.keepsOnFailure_of_ok rfl)
      (rename_keepsOnFailure wellFormed .gvk gvk)

end

/--
A setter that fails leaves nothing half written: of a document the value, whatever the
document is, and of a resource the document, the ids and the behavior, whatever its ids are.
-/
theorem keepsOnFailure_of_setter :
    (∀ (part : Part) (content : part.Content) (node : Node),
        (part.set content node).KeepsOnFailure Node.toValue node) ∧
      ∀ resource : Resource, resource.node.WellFormed → resource.SettersKeepOnFailure :=
  ⟨Part.set_keepsValue, fun _ wellFormed => settersKeepOnFailure wellFormed⟩

/-- A document whose section is an alias to a list. -/
def misplaced : Node :=
  .document
    (.mapping
      [("kind", .ofText "Pod"), ("metadata", .reference "list" (.sequence [.ofText "web"]))])

/-- A resource of the document, with ids that the document does not say. -/
def misplacedResource : Resource where
  node := misplaced
  initialId := { name := "web", namespaceName := "prod" }
  currentId := { name := "web" }

/-- The failing setter detaches the alias, which the value does not show. -/
theorem keepsOnFailure_misplaced :
    (∃ error,
        (misplaced.setName "app").result = .error error ∧
          (misplaced.setName "app").state ≠ misplaced ∧
            (misplaced.setName "app").state.toValue = misplaced.toValue) ∧
      misplacedResource.node.WellFormed ∧
        ∃ error,
          (misplacedResource.setName "app").result = .error error ∧
            (misplacedResource.setName "app").state = misplacedResource := by
  have list : (Node.sequence [.ofText "web"]).WellFormed := .sequence (by simp)
  have wellFormed : misplacedResource.node.WellFormed := by
    refine .document ?_
    simp [Node.WellFormed.reference list, Fields.names]
  rcases keepsOnFailure_of_setter with ⟨documents, resources⟩
  have documentFails :
      (misplaced.setName "app").result =
        .error (.setField ["metadata"] .sequence) := rfl
  have resourceFails :
      (misplacedResource.setName "app").result =
        .error (.invalidMetadata (.sectionShape .sequence)) := rfl
  have detached : (misplaced.setName "app").state ≠ misplaced := by
    rintro ⟨⟩
  exact ⟨⟨_, documentFails, detached, documents .name "app" misplaced _ documentFails⟩,
    wellFormed, _, resourceFails,
    (resources misplacedResource wellFormed).setName "app" _ resourceFails⟩

end Resource

end Manifest
