import Manifest.Proofs.Collection.Distinct
import Manifest.Proofs.Collection.Following

/-!
# Runs of operations

What every update of a collection keeps holds after every run of operations on
handles, whether they succeed or fail.  The first such invariant is that no two
resources have the same current id.
-/

namespace Manifest

namespace Operation

/-- What every update keeps, a run keeps. -/
theorem run_invariant
    (holds : Collection → Prop)
    {operations : List Operation}
    (kept :
      ∀ operation ∈ operations, ∀ collection next,
        holds collection → operation.update collection = .ok next → holds next) :
    ∀ shared : Shared,
      shared.Valid → holds shared.view →
      (run operations shared).Valid ∧ holds (run operations shared).view := by
  induction operations with
  | nil =>
      intro shared isValid holdsBefore
      exact ⟨isValid, holdsBefore⟩
  | cons operation rest inductionHypothesis =>
      intro shared isValid holdsBefore
      rcases operation.perform_follows shared isValid with ⟨nextIsValid, agrees⟩
      have holdsAfter : holds (operation.perform.run shared).state.view := by
        have sameView := congrArg Outcome.state agrees
        rw [Outcome.state_mapState] at sameView
        rw [sameView]
        exact Change.state_replacing
          (fun next updates =>
            kept operation List.mem_cons_self shared.view next holdsBefore updates)
          holdsBefore
      have restKept :
          ∀ other ∈ rest, ∀ collection next,
            holds collection → other.update collection = .ok next → holds next := by
        intro other member
        exact kept other (List.mem_cons_of_mem operation member)
      exact inductionHypothesis restKept _ nextIsValid holdsAfter

/-- Every operation that succeeds leaves distinct current ids distinct. -/
theorem update_isDistinct
    (operation : Operation)
    {collection next : Collection}
    (distinct : collection.IsDistinct)
    (updates : operation.update collection = .ok next) :
    next.IsDistinct := by
  cases operation with
  | append resource => exact distinct.append (Result.mapError_eq_ok.1 updates)
  | appendAll other => exact distinct.appendAll (Result.mapError_eq_ok.1 updates)
  | absorbAll other => exact distinct.absorbAll (Result.mapError_eq_ok.1 updates)
  | replace resource =>
      rcases Result.map_eq_ok.1 (Result.mapError_eq_ok.1 updates) with
        ⟨⟨place, result⟩, replaces, same⟩
      cases same
      exact distinct.replace replaces
  | remove id => exact distinct.remove (Result.mapError_eq_ok.1 updates)
  | clear =>
      cases updates
      exact Collection.isDistinct_empty
  | applyPatch targets patch => exact distinct.applyPatch (Result.mapError_eq_ok.1 updates)
  | transform transformer =>
      rw [update, transformed] at updates
      split at updates
      · cases updates
      · rw [Result.mapError_eq_ok, Result.bind_eq_ok] at updates
        rcases updates with ⟨targets, _, patches⟩
        exact distinct.applyPatch patches
  | stripAnnotations =>
      cases updates
      exact distinct.stripAnnotations
  | keepReferenced referrer => exact distinct.referencedBy (Result.mapError_eq_ok.1 updates)
  | detach =>
      cases updates
      exact distinct

end Operation

namespace Collection

/-- The ways to build a collection. -/
inductive Built : Collection → Prop where
  | empty : Built .empty
  | ofResource (resource : Resource) : Built { resources := [resource] }
  | ofResources
      {resources : List Resource}
      {collection : Collection}
      (succeeds : Collection.ofResources resources = .ok collection) :
      Built collection
  | ofYaml
      {bytes : ByteArray}
      {collection : Collection}
      (succeeds : Collection.ofYaml bytes = .ok collection) :
      Built collection
  | ofNodes
      {nodes : List Node}
      {collection : Collection}
      (succeeds : Collection.ofNodes nodes = .ok collection) :
      Built collection

theorem Built.isDistinct
    {collection : Collection}
    (built : collection.Built) :
    collection.IsDistinct := by
  cases built with
  | empty => exact isDistinct_empty
  | ofResource resource => exact isDistinct_singleton resource
  | ofResources succeeds => exact isDistinct_ofResources succeeds
  | ofYaml succeeds =>
      rw [Collection.ofYaml, Result.bind_eq_ok] at succeeds
      rcases succeeds with ⟨resources, _, appends⟩
      exact isDistinct_ofResources appends
  | ofNodes succeeds =>
      rw [Collection.ofNodes, Result.bind_eq_ok] at succeeds
      rcases succeeds with ⟨resources, _, appends⟩
      exact isDistinct_ofResources appends

end Collection

namespace Operation

/--
However a collection is built, no run of operations brings two resources with
the same current id into it.
-/
theorem run_ids_nodup
    {start : Collection}
    (built : start.Built)
    (pool : Pool)
    (operations : List Operation) :
    (run operations (pool.allocate start.resources)).view.ids.Nodup := by
  have startView : (pool.allocate start.resources).view = start :=
    congrArg Collection.mk (Pool.view_allocate pool start.resources)
  have startDistinct : (pool.allocate start.resources).view.IsDistinct := by
    rw [startView]
    exact built.isDistinct
  have kept :
      ∀ operation ∈ operations, ∀ collection next : Collection,
        collection.IsDistinct → operation.update collection = .ok next → next.IsDistinct := by
    intro operation _ collection next distinct updates
    exact operation.update_isDistinct distinct updates
  exact (run_invariant Collection.IsDistinct kept (pool.allocate start.resources)
    (Shared.valid_allocate pool start.resources) startDistinct).2

/-- A run in which a resource is replaced and another one is refused. -/
theorem run_ids_nodup_replacing :
    Collection.Built { resources := [.ofName "web"] } ∧
      (run [.append (.ofName "db"), .absorbAll { resources := [.ofName "web" .replace] },
          .append (.ofName "web")]
        (Pool.allocate {} [.ofName "web"])).view.ids.Nodup :=
  ⟨.ofResource (.ofName "web"), run_ids_nodup (.ofResource (.ofName "web")) {} _⟩

end Operation

end Manifest
