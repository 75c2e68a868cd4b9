import Manifest.Proofs.Change.Atomic
import Manifest.Transformer.Patch

/-!
# Operations and their failures

An operation with its arguments is a value, and a run applies a list of them to
a shared collection one after the other.  A failed operation is part of a run:
the run goes on from what it left.

Every operation is atomic.  It asks the collection and works on copies first,
and what it writes at its end cannot fail; so a failure at any resource of a
batch leaves every cell and every handle as they were.
-/

namespace Manifest

/-- A configuration map that says nothing but its name. -/
def Resource.ofName (name : String) (behavior : Behavior := .unspecified) : Resource where
  node :=
    .mapping
      [("apiVersion", .ofText "v1"), ("kind", .ofText "ConfigMap"),
        ("metadata", .mapping [("name", .ofText name)])]
  initialId := { gvk := .ofApiVersion "v1" "ConfigMap", name }
  currentId := { gvk := .ofApiVersion "v1" "ConfigMap", name }
  behavior := behavior

/-- A configuration map with a name and some data. -/
def Resource.ofEntries
    (name : String)
    (entries : List (String × String))
    (behavior : Behavior := .unspecified) :
    Resource :=
  { ofName name behavior with
    node :=
      .mapping
        [("apiVersion", .ofText "v1"), ("kind", .ofText "ConfigMap"),
          ("metadata", .mapping [("name", .ofText name)]),
          ("data", .mapping (entries.map fun entry => (entry.1, .ofText entry.2)))] }

/-- An operation on a collection with its arguments. -/
inductive Operation where
  | append (resource : Resource)
  | appendAll (other : Collection)
  | absorbAll (other : Collection)
  /-- Puts a resource in the place of the one with its current id. -/
  | replace (resource : Resource)
  | remove (id : ResourceId)
  | clear
  /-- Applies a patch to the resources whose current ids are targets. -/
  | applyPatch (targets : IdSet) (patch : Resource)
  | transform (transformer : PatchTransformer)
  | stripAnnotations
  | keepReferenced (referrer : Resource)
  | detach

namespace Operation

/-- What an operation does to a shared collection. -/
def perform : Operation → Change TransformerError Shared Unit
  | append resource => (Shared.append resource).mapError .collection
  | appendAll other => (Shared.appendAll other).mapError .collection
  | absorbAll other => (Shared.absorbAll other).mapError .collection
  | replace resource => do
      let _ ← (Shared.replace resource).mapError .collection
  | remove id => (Shared.remove id).mapError .collection
  | clear => Shared.clear.mapError .collection
  | applyPatch targets patch => (Shared.applyPatch targets patch.node).mapError .collection
  | transform transformer => transformer.transform
  | stripAnnotations => Shared.stripAnnotations.mapError .collection
  | keepReferenced referrer => (Shared.keepReferenced referrer).mapError .collection
  | detach => Shared.detach.mapError .collection

/-- A run of operations, which goes on after failures. -/
def run : List Operation → Shared → Shared
  | [], shared => shared
  | operation :: rest, shared => run rest (operation.perform.run shared).state

/-- What a transformer makes of a collection. -/
def transformed (transformer : PatchTransformer) (collection : Collection) :
    Except TransformerError Collection :=
  match transformer.patch with
  | none => .error (.settings .unconfigured)
  | some patch =>
      Except.mapError .collection do
        let targets ← PatchTransformer.targets transformer.target patch collection
        collection.applyPatch targets patch.node

/-- What an operation makes of the collection that the handles show. -/
def update : Operation → Collection → Except TransformerError Collection
  | append resource, collection => (collection.append resource).mapError .collection
  | appendAll other, collection => (collection.appendAll other).mapError .collection
  | absorbAll other, collection => (collection.absorbAll other).mapError .collection
  | replace resource, collection =>
      ((collection.replace resource).map Prod.snd).mapError .collection
  | remove id, collection => (collection.remove id).mapError .collection
  | clear, _ => .ok .empty
  | applyPatch targets patch, collection =>
      (collection.applyPatch targets patch.node).mapError .collection
  | transform transformer, collection => transformed transformer collection
  | stripAnnotations, collection => .ok collection.stripAnnotations
  | keepReferenced referrer, collection =>
      (collection.referencedBy referrer).mapError .collection
  | detach, collection => .ok collection

end Operation

/-! ## Failed operations -/

namespace Shared

open Change

theorem isReading_ask
    {α : Type}
    (question : Collection → Except CollectionError α) :
    IsReading (ask question) :=
  isReading_reading _

theorem isSure_put
    (place : Nat)
    (resource : Resource) :
    IsSure (put place resource) :=
  isSure_writing _

theorem isSure_add (resource : Resource) :
    IsSure (add resource) :=
  isSure_writing _

theorem isSure_drop (place : Nat) :
    IsSure (drop place) :=
  isSure_writing _

theorem isSure_putOrAdd
    (count place : Nat)
    (resource : Resource) :
    IsSure (putOrAdd count place resource) := by
  rw [putOrAdd]
  split
  · exact isSure_put place resource
  · exact isSure_add resource

theorem isSure_putFrom
    (count : Nat)
    (resources : List Resource) :
    ∀ place, IsSure (putFrom count place resources) := by
  induction resources with
  | nil =>
      intro place
      exact isSure_pure ()
  | cons resource rest inductionHypothesis =>
      intro place
      exact (isSure_putOrAdd count place resource).bind fun _ =>
        inductionHypothesis (place + 1)

theorem isSure_putIf
    (isChanged : Bool)
    (place : Nat)
    (resource : Resource) :
    IsSure (putIf isChanged place resource) := by
  rw [putIf]
  split
  · exact isSure_put place resource
  · exact isSure_pure ()

theorem isSure_putChanged (marks : List Bool) :
    ∀ place resources, IsSure (putChanged place marks resources) := by
  induction marks with
  | nil =>
      intro place resources
      rw [putChanged.eq_def]
      exact isSure_forM isSure_add resources
  | cons isChanged rest inductionHypothesis =>
      intro place resources
      cases resources with
      | nil => exact isSure_pure ()
      | cons resource others =>
          exact (isSure_putIf isChanged place resource).bind fun _ =>
            inductionHypothesis (place + 1) others

theorem isSure_putOrDrop
    (place : Nat)
    (result : Option Resource) :
    IsSure (putOrDrop place result) := by
  cases result with
  | none => exact isSure_drop place
  | some resource => exact isSure_put place resource

theorem isSure_siftFrom (results : List (Option Resource)) :
    ∀ place, IsSure (siftFrom place results) := by
  induction results with
  | nil =>
      intro place
      exact isSure_pure ()
  | cons result rest inductionHypothesis =>
      intro place
      exact (inductionHypothesis (place + 1)).bind fun _ => isSure_putOrDrop place result

theorem isAtomic_append (resource : Resource) :
    IsAtomic (append resource) :=
  (isReading_ask _).bind_isAtomic fun _ => (isSure_add resource).isAtomic

theorem isAtomic_appendAll (other : Collection) :
    IsAtomic (appendAll other) :=
  (isReading_ask _).bind_isAtomic fun _ =>
    (isSure_forM isSure_add other.resources).isAtomic

/-- Absorbing merges copies, and writes them back only when all of it has succeeded. -/
theorem isAtomic_absorbAll (other : Collection) :
    IsAtomic (absorbAll other) := by
  apply (isReading_ask _).bind_isAtomic
  intro copies
  have absorbs :
      IsReading (other.resources.foldlM
        (fun draft incoming => lift (Collection.Draft.absorb draft incoming))
        (Collection.Draft.ofResources copies) :
        Action Collection.Draft) :=
    isReading_foldlM (fun draft incoming => isReading_lift _) other.resources _
  apply absorbs.bind_isAtomic
  intro draft
  exact (isSure_putChanged draft.changed 0 draft.resources).isAtomic

theorem isAtomic_replace (resource : Resource) :
    IsAtomic (replace resource) := by
  apply (isReading_ask _).bind_isAtomic
  intro place
  exact ((isSure_put place resource).bind fun _ => isSure_pure place).isAtomic

theorem isAtomic_remove (id : ResourceId) :
    IsAtomic (remove id) :=
  (isReading_ask _).bind_isAtomic fun place => (isSure_drop place).isAtomic

/-- A patch of several targets is computed for all of them before the first is written. -/
theorem isAtomic_applyPatch
    (targets : IdSet)
    (patch : Node) :
    IsAtomic (applyPatch targets patch) := by
  apply (isReading_ask _).bind_isAtomic
  intro _
  apply (isReading_ask _).bind_isAtomic
  intro results
  exact (isSure_siftFrom results 0).isAtomic

theorem isSure_stripAnnotations : IsSure stripAnnotations := by
  intro shared
  exact isSure_putFrom _ _ 0 shared

theorem isAtomic_keepReferenced (referrer : Resource) :
    IsAtomic (keepReferenced referrer) :=
  (isReading_ask _).bind_isAtomic fun _ => (isSure_writing _).isAtomic

end Shared

theorem PatchTransformer.isAtomic_transform (transformer : PatchTransformer) :
    transformer.transform.IsAtomic := by
  rw [transform]
  split
  · exact (Change.isReading_lift _).isAtomic
  · rename_i patch _
    apply Change.IsAtomic.mapError
    apply (Shared.isReading_ask _).bind_isAtomic
    intro targets
    exact Shared.isAtomic_applyPatch targets patch.node

namespace Operation

/-- An operation that fails leaves the pool and the handles as they were. -/
theorem isAtomic_perform (operation : Operation) :
    operation.perform.IsAtomic := by
  cases operation with
  | append resource => exact (Shared.isAtomic_append resource).mapError _
  | appendAll other => exact (Shared.isAtomic_appendAll other).mapError _
  | absorbAll other => exact (Shared.isAtomic_absorbAll other).mapError _
  | replace resource =>
      exact ((Shared.isAtomic_replace resource).mapError _).bind_isSure fun _ =>
        Change.isSure_pure PUnit.unit
  | remove id => exact (Shared.isAtomic_remove id).mapError _
  | clear => exact (Change.isSure_writing _).isAtomic.mapError _
  | applyPatch targets patch => exact (Shared.isAtomic_applyPatch targets patch.node).mapError _
  | transform transformer => exact transformer.isAtomic_transform
  | stripAnnotations => exact Shared.isSure_stripAnnotations.isAtomic.mapError _
  | keepReferenced referrer => exact (Shared.isAtomic_keepReferenced referrer).mapError _
  | detach => exact (Change.isSure_writing _).isAtomic.mapError _

/--
An operation that fails leaves the pool and the handles as they were, so that
each collection over the pool has the same resources in the same order, with the
same documents, ids and behaviors.
-/
theorem state_of_failed_perform
    (operation : Operation)
    (shared : Shared)
    (fails : (operation.perform.run shared).succeeded = false) :
    (operation.perform.run shared).state = shared := by
  rw [Outcome.succeeded] at fails
  split at fails
  · contradiction
  · rename_i error stops
    exact isAtomic_perform operation shared error stops

/-- A batch whose first resource can be merged and whose second one is refused. -/
theorem state_of_failed_absorbAll :
    ((absorbAll { resources := [.ofName "web" .merge, .ofName "web" .create] }).perform.run
        (Pool.allocate {} [.ofName "web"])).succeeded = false ∧
      ((absorbAll { resources := [.ofName "web" .merge, .ofName "web" .create] }).perform.run
        (Pool.allocate {} [.ofName "web"])).state = Pool.allocate {} [.ofName "web"] :=
  ⟨by decide +kernel, state_of_failed_perform _ _ (by decide +kernel)⟩

end Operation

end Manifest
