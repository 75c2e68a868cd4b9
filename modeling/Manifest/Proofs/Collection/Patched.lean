import Manifest.Proofs.Collection.Aliasing
import Manifest.Proofs.Patch.Metadata
import Manifest.Proofs.Resource.Reload

/-!
# What patched collections say of their ids

A patch leaves the recorded ids of what it does not delete.  The documents are
another matter: a refresh reads the id from the document, and it must find there
what is recorded.

It does, whatever the patch asks for, except in one place.  The type, the name and
the namespace are written into the patch before it is merged, but a directive in
its section `metadata` is left there; if this one deletes the section, the name and
the namespace go with it, and a refresh finds nothing but the type.
-/

namespace Manifest

/-! ## Resources of documents -/

namespace Resource

/-- A resource is the one that its well-formed document gives. -/
structure OfDocument (resource : Resource) : Prop where
  wellFormed : resource.node.WellFormed
  builds : ofNode resource.node = .ok resource

/-- A configuration map whose section has some fields beside its name. -/
def ofSection (name : String) (beside : List (String × Node)) : Resource where
  node :=
    .mapping
      [("apiVersion", .ofText "v1"), ("kind", .ofText "ConfigMap"),
        ("metadata", .mapping (("name", .ofText name) :: beside))]
  initialId := { gvk := .ofApiVersion "v1" "ConfigMap", name }
  currentId := { gvk := .ofApiVersion "v1" "ConfigMap", name }

theorem ofDocument_ofName (name : String) :
    (ofName name).OfDocument where
  wellFormed := by simp [ofName, Fields.names]
  builds := rfl

/-- A refresh changes nothing exactly if the document says the current id. -/
theorem refresh_eq_done
    {resource : Resource} :
    resource.refresh = .done () resource ↔
      ∃ metadata : Metadata,
        resource.node.metadata = .ok metadata ∧ metadata.resourceId = resource.currentId := by
  rw [refresh]
  cases reads : resource.node.metadata with
  | error error =>
      constructor
      · intro succeeds
        cases congrArg Outcome.result succeeds
      · rintro ⟨_, ⟨⟩, _⟩
  | ok metadata =>
      rw [Outcome.reading_ok]
      constructor
      · intro same
        exact ⟨metadata, rfl, congrArg (currentId ∘ Outcome.state) same⟩
      · rintro ⟨_, ⟨⟩, sameId⟩
        rw [sameId]

end Resource

/-- An id is no more than its type exactly if it has no name and no namespace. -/
theorem ResourceId.ofGvk_eq_self
    {id : ResourceId} :
    ({ gvk := id.gvk } : ResourceId) = id ↔ id.name = "" ∧ id.namespaceName = "" := by
  rcases id with ⟨gvk, namespaceName, name⟩
  simp only [ResourceId.mk.injEq, true_and]
  exact ⟨fun ⟨noNamespace, noName⟩ => ⟨noName.symm, noNamespace.symm⟩,
    fun ⟨noName, noNamespace⟩ => ⟨noNamespace.symm, noName.symm⟩⟩

/--
Where a document says the current id, or only its type if the rest was lost, a
refresh changes nothing exactly if nothing was lost.
-/
theorem Resource.refresh_eq_done_of_lost
    {resource : Resource}
    {metadata : Metadata}
    {isLost : Bool}
    (reads : resource.node.metadata = .ok metadata)
    (isShown :
      metadata.resourceId =
        if isLost then { gvk := resource.currentId.gvk } else resource.currentId) :
    resource.refresh = .done () resource ↔
      (isLost = true → resource.currentId.name = "" ∧ resource.currentId.namespaceName = "") := by
  have decided :
      resource.refresh = .done () resource ↔ metadata.resourceId = resource.currentId := by
    rw [refresh_eq_done, reads]
    simp
  rw [decided, isShown]
  cases isLost with
  | true => simpa using ResourceId.ofGvk_eq_self
  | false => simp

/-- Whether a document asks for the deletion of its section `metadata`. -/
def Node.deletesMetadata (node : Node) : Bool :=
  (node.fieldsAt? ["metadata"]).any Directive.deletes

namespace Collection

variable
  {targets : IdSet}
  {patch resource result : Resource}

/-! ## Patched resources -/

/--
The document of a resource that was patched says its id, or only the type of its
id if the patch deletes the section.
-/
theorem metadata_of_patched
    (built : resource.OfDocument)
    (relative :
      ∀ metadata, resource.node.metadata = .ok metadata → Gvk.IsRelative metadata.apiVersion)
    (patchBuilt : patch.OfDocument)
    (patches : patched patch.node resource = .ok (some result)) :
    ∃ metadata : Metadata,
      result.node.metadata = .ok metadata ∧
      metadata.resourceId =
        if patch.node.deletesMetadata then { gvk := resource.currentId.gvk }
        else resource.currentId := by
  rcases Resource.ofNode_eq_ok.1 built.builds with ⟨metadata, reads, _, _, _, sameId⟩
  rcases Resource.ofNode_eq_ok.1 patchBuilt.builds with ⟨patchMetadata, readsPatch, _⟩
  rcases Node.metadata_eq_ok.1 readsPatch with ⟨beside, patchReads⟩
  have stableType :
      Gvk.ofApiVersion resource.currentId.gvk.apiVersion resource.currentId.gvk.kind =
        resource.currentId.gvk := by
    rw [sameId]
    exact Gvk.ofApiVersion_apiVersion (relative metadata reads) metadata.kind
  simp only [patched, Result.bind_eq_ok, Result.mapError_eq_ok] at patches
  rcases patches with ⟨adapted, adapts, merged, merges, same⟩
  cases merged with
  | none => cases same
  | some node =>
      cases same
      have sameNamespace : metadata.namespaceName = resource.currentId.namespaceName := by
        rw [sameId]
        rfl
      rcases
          StrategicPatch.metadata_of_apply built.wellFormed reads sameNamespace
            patchBuilt.wellFormed patchReads adapts merges with
        ⟨after, readsAfter, sameApiVersion, sameKind, sameName, sameNamespaceName⟩
      refine ⟨after, readsAfter, ?_⟩
      have asks : patch.node.deletesMetadata = Directive.deletes beside := by
        rw [Node.deletesMetadata, patchReads.inside, Option.any_some]
      rw [Metadata.resourceId, Metadata.gvk, sameApiVersion, sameKind, sameName,
        sameNamespaceName, stableType, asks]
      cases Directive.deletes beside <;> rfl

/-- Only targets can lose their names. -/
theorem metadata_of_patchedIfTarget
    (built : resource.OfDocument)
    (relative :
      ∀ metadata, resource.node.metadata = .ok metadata → Gvk.IsRelative metadata.apiVersion)
    (patchBuilt : patch.OfDocument)
    (patches : patchedIfTarget targets patch.node resource = .ok (some result)) :
    ∃ metadata : Metadata,
      result.node.metadata = .ok metadata ∧
      metadata.resourceId =
        if targets.contains result.currentId && patch.node.deletesMetadata then
          { gvk := result.currentId.gvk }
        else result.currentId := by
  have sameId := (patchedIfTarget_eq_ok.1 patches).sameCurrentId
  rw [patchedIfTarget] at patches
  rw [sameId]
  split at patches
  · rename_i isTarget
    rw [isTarget, Bool.true_and]
    exact metadata_of_patched built relative patchBuilt patches
  · rename_i noTarget
    cases patches
    rcases Resource.ofNode_eq_ok.1 built.builds with ⟨metadata, reads, _, _, _, isShown⟩
    refine ⟨metadata, reads, ?_⟩
    rw [Bool.eq_false_iff.2 noTarget, Bool.false_and, isShown]
    rfl

theorem exists_of_mem_patchedAll
    {patch : Node}
    {resources : List Resource}
    {results : List (Option Resource)}
    (patches : patchedAll targets patch resources = .ok results)
    (member : some result ∈ results) :
    ∃ resource ∈ resources, patchedIfTarget targets patch resource = .ok (some result) := by
  rcases List.mem_iff_getElem?.1 member with ⟨place, atPlace⟩
  rcases patchedTo_of_getElem? (patchedAll_eq_ok.1 patches) atPlace with
    ⟨resource, isThere, patchedTo⟩
  exact ⟨resource, List.mem_of_getElem? isThere, patchedIfTarget_eq_ok.2 patchedTo⟩

/-- All that remains after a patch is what the patch makes of something. -/
theorem exists_of_mem_applyPatch
    {collection next : Collection}
    {patch : Node}
    (patches : collection.applyPatch targets patch = .ok next)
    (member : result ∈ next.resources) :
    ∃ resource ∈ collection.resources,
      patchedIfTarget targets patch resource = .ok (some result) := by
  rcases Result.map_eq_ok.1 patches with ⟨results, makes, rfl⟩
  rw [patchResults, Result.bind_eq_ok] at makes
  rcases makes with ⟨_, _, makesAll⟩
  rcases List.mem_filterMap.1 member with ⟨entry, inResults, isResult⟩
  rw [id] at isResult
  exact exists_of_mem_patchedAll makesAll (isResult ▸ inResults)

/-- The documents of all that remains after a patch say their ids, or only their types. -/
theorem metadata_of_mem_applyPatch
    {collection next : Collection}
    (built : ∀ resource ∈ collection.resources, resource.OfDocument)
    (relative :
      ∀ resource ∈ collection.resources, ∀ metadata,
        resource.node.metadata = .ok metadata → Gvk.IsRelative metadata.apiVersion)
    (patchBuilt : patch.OfDocument)
    (patches : collection.applyPatch targets patch.node = .ok next)
    (member : result ∈ next.resources) :
    ∃ metadata : Metadata,
      result.node.metadata = .ok metadata ∧
      metadata.resourceId =
        if targets.contains result.currentId && patch.node.deletesMetadata then
          { gvk := result.currentId.gvk }
        else result.currentId := by
  rcases exists_of_mem_applyPatch patches member with ⟨before, wasThere, makes⟩
  exact
    metadata_of_patchedIfTarget (built before wasThere) (relative before wasThere) patchBuilt makes

end Collection

/-! ## Patched collections -/

namespace Shared

open Change

theorem run_siftFrom_sublist (results : List (Option Resource)) :
    ∀ (place : Nat) (shared : Shared),
      ∃ next,
        (siftFrom place results).run shared = .done () next ∧
        next.handles.Sublist shared.handles := by
  induction results with
  | nil =>
      intro place shared
      exact ⟨shared, rfl, List.Sublist.refl _⟩
  | cons result rest inductionHypothesis =>
      intro place shared
      rcases inductionHypothesis (place + 1) shared with ⟨middle, runsRest, isPart⟩
      rw [siftFrom, run_bind, runsRest, Outcome.andThen_done]
      cases result with
      | none => exact ⟨_, rfl, (List.eraseIdx_sublist ..).trans isPart⟩
      | some resource =>
          refine ⟨_, rfl, ?_⟩
          have sameHandles :
              ((put place resource).run middle).state.handles = middle.handles := by
            rw [put, run_writing]
            split <;> rfl
          rw [← sameHandles] at isPart
          exact isPart

/-- Patching adds no handles, and leaves those that it does not drop in their order. -/
theorem handles_applyPatch_sublist
    (targets : IdSet)
    (patch : Node)
    (shared : Shared) :
    ((applyPatch targets patch).run shared).state.handles.Sublist shared.handles := by
  rw [run_applyPatch, run_bind, lift, run_reading]
  cases shared.view.patchResults targets patch with
  | error error => exact List.Sublist.refl _
  | ok results =>
      rcases run_siftFrom_sublist results 0 shared with ⟨next, runs, isPart⟩
      rw [Outcome.andThen_of_ok rfl, runs]
      exact isPart

/-- What remains after a patch has the current ids in its cells that it had there. -/
theorem ids_of_applyPatch
    {targets : IdSet}
    {patch : Node}
    {shared next : Shared}
    (isValid : shared.Valid)
    (patches : (applyPatch targets patch).run shared = .done () next)
    {handle : Handle}
    (member : handle ∈ next.handles) :
    next.pool.ids[handle]? = shared.pool.ids[handle]? := by
  have isPart := handles_applyPatch_sublist targets patch shared
  have keeps : shared.KeepsIds (applyPatch targets patch) := keepsIds_applyPatch isValid
  rw [patches] at isPart
  rw [KeepsIds, patches] at keeps
  have inside : handle < shared.pool.ids.length := by
    rw [Pool.ids, List.length_map]
    exact isValid.inRange handle (isPart.subset member)
  rw [List.getElem?_eq_getElem inside]
  exact List.prefix_iff_getElem?.1 keeps handle inside

section

variable
  {targets : IdSet}
  {patch : Resource}
  {shared next : Shared}

/--
What remains after a patch has the current ids that it had in its cells, and its
metadata can be read.  A refresh of all of it changes nothing exactly if the patch
does not delete the section `metadata`, or if no target that remains has a name or
a namespace.
-/
theorem refresh_iff_of_applyPatch
    (isValid : shared.Valid)
    (built : ∀ resource ∈ shared.view.resources, resource.OfDocument)
    (relative :
      ∀ resource ∈ shared.view.resources, ∀ metadata,
        resource.node.metadata = .ok metadata → Gvk.IsRelative metadata.apiVersion)
    (patchBuilt : patch.OfDocument)
    (patches : (applyPatch targets patch.node).run shared = .done () next) :
    next.handles.Sublist shared.handles ∧
    (∀ handle ∈ next.handles, next.pool.ids[handle]? = shared.pool.ids[handle]?) ∧
    (∀ resource ∈ next.view.resources, ∃ metadata, resource.node.metadata = .ok metadata) ∧
    ((∀ resource ∈ next.view.resources, resource.refresh = .done () resource) ↔
      (patch.node.deletesMetadata = true →
        ∀ resource ∈ next.view.resources, targets.contains resource.currentId = true →
          resource.currentId.name = "" ∧ resource.currentId.namespaceName = "")) := by
  have isPart : next.handles.Sublist shared.handles := by
    have afterPatch := handles_applyPatch_sublist targets patch.node shared
    rw [patches] at afterPatch
    exact afterPatch
  have shows : shared.view.applyPatch targets patch.node = .ok next.view := by
    rw [← (applyPatch_follows targets patch.node).final isValid, patches]
    rfl
  have decided :
      ∀ resource ∈ next.view.resources,
        resource.refresh = .done () resource ↔
          ((targets.contains resource.currentId && patch.node.deletesMetadata) = true →
            resource.currentId.name = "" ∧ resource.currentId.namespaceName = "") := by
    intro resource member
    rcases Collection.metadata_of_mem_applyPatch built relative patchBuilt shows member with
      ⟨metadata, reads, isShown⟩
    exact Resource.refresh_eq_done_of_lost reads isShown
  refine ⟨isPart, fun handle member => ids_of_applyPatch isValid patches member, ?_, ?_⟩
  · intro resource member
    rcases Collection.metadata_of_mem_applyPatch built relative patchBuilt shows member with
      ⟨metadata, reads, _⟩
    exact ⟨metadata, reads⟩
  · constructor
    · intro unchanged asks resource member isTarget
      exact (decided resource member).1 (unchanged resource member) (by rw [isTarget, asks]; rfl)
    · intro noNames resource member
      refine (decided resource member).2 fun isLost => ?_
      rcases Bool.and_eq_true_iff.1 isLost with ⟨isTarget, asks⟩
      exact noNames asks resource member isTarget

end

/-- What a patch for the first one of two configuration maps gives. -/
def patchingWeb (patch : Resource) : Outcome CollectionError Shared Unit :=
  (applyPatch (.ofList [(Resource.ofName "web").currentId]) patch.node).run
    (Pool.allocate {} [.ofName "web", .ofName "db"])

/-- A patch that has another name and brings a label. -/
theorem refresh_iff_of_applyPatch_label :
    (Resource.ofSection "other" [("labels", .mapping [("tier", .ofText "front")])]).OfDocument ∧
      ∀ resource ∈
          (patchingWeb
            (.ofSection "other"
              [("labels", .mapping [("tier", .ofText "front")])])).state.view.resources,
        resource.refresh = .done () resource := by
  have built :
      ∀ resource ∈ (Pool.allocate {} [.ofName "web", .ofName "db"]).view.resources,
        resource.OfDocument := by
    rintro resource (_ | ⟨_, _ | ⟨_, ⟨⟩⟩⟩)
    · exact Resource.ofDocument_ofName "web"
    · exact Resource.ofDocument_ofName "db"
  have relative :
      ∀ resource ∈ (Pool.allocate {} [.ofName "web", .ofName "db"]).view.resources,
        ∀ metadata, resource.node.metadata = .ok metadata →
          Gvk.IsRelative metadata.apiVersion := by
    rintro resource (_ | ⟨_, _ | ⟨_, ⟨⟩⟩⟩) metadata reads
    · cases reads
      decide
    · cases reads
      decide
  have patchBuilt :
      (Resource.ofSection "other"
        [("labels", .mapping [("tier", .ofText "front")])]).OfDocument :=
    ⟨by simp [Resource.ofSection, Fields.names], rfl⟩
  have patches :
      (patchingWeb
        (.ofSection "other" [("labels", .mapping [("tier", .ofText "front")])])).result =
          .ok () :=
    rfl
  have unchanged :=
    (refresh_iff_of_applyPatch (valid_allocate {} [.ofName "web", .ofName "db"]) built relative
      patchBuilt (Outcome.eq_done patches)).2.2.2.2
  exact ⟨patchBuilt, unchanged fun asks => absurd asks (by decide)⟩

/-- The same name, in a section that asks for its deletion, is lost. -/
theorem refresh_of_deletedMetadata :
    (Resource.ofSection "web" [(Directive.key, .ofText "delete")]).OfDocument ∧
      (patchingWeb (.ofSection "web" [(Directive.key, .ofText "delete")])).succeeded = true ∧
      (patchingWeb
        (.ofSection "web" [(Directive.key, .ofText "delete")])).state.view.ids =
          [(Resource.ofName "web").currentId, (Resource.ofName "db").currentId] ∧
      (patchingWeb
        (.ofSection "web" [(Directive.key, .ofText "delete")])).state.view.resources.map
          (fun resource => resource.refresh.state.currentId) =
            [{ gvk := .ofApiVersion "v1" "ConfigMap" }, (Resource.ofName "db").currentId] :=
  ⟨⟨by simp [Resource.ofSection, Fields.names, Directive.key], rfl⟩, by decide +kernel,
    by decide +kernel, by decide +kernel⟩

end Shared

end Manifest
