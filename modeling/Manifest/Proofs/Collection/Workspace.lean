import Manifest.Collection.Workspace
import Manifest.Proofs.Collection.Aliasing
import Manifest.Proofs.Collection.Batch
import Manifest.Proofs.Fields

/-!
# Runs of a workspace

The collections of a workspace have handles into one pool.  A workspace is sound
if all of them have valid handles and distinct current ids.  A step makes a
shallow copy or performs an operation on one collection.

A step keeps a workspace sound if it leaves the current ids in the cells.  Only an
absorption can fail to do so; and when it gives a resource another current id,
there is a collection beside its own that has two resources with this id
afterwards.
-/

namespace Manifest

namespace Workspace

/-- The handles of every collection are valid, and its current ids are distinct. -/
structure IsSound (workspace : Workspace) : Prop where
  valid : ∀ name, (workspace.shared name).Valid
  distinct : ∀ name, (workspace.view name).IsDistinct

/-- What can be done in a workspace. -/
inductive Step where
  /-- Makes a collection a shallow copy of another one. -/
  | share (source target : String)
  | perform (name : String) (operation : Operation)

/-- Takes a step; an operation that fails leaves what it left. -/
def take (workspace : Workspace) : Step → Workspace
  | .share source target => workspace.put target (workspace.shared source)
  | .perform name operation =>
      workspace.put name (operation.perform.run (workspace.shared name)).state

/-- Takes steps one after the other. -/
def run (steps : List Step) (workspace : Workspace) : Workspace :=
  steps.foldl take workspace

/-- The step is no absorption that gives a resource of its collection another current id. -/
def Step.KeepsIds (workspace : Workspace) : Step → Prop
  | .share _ _ => True
  | .perform name operation => operation.KeepsIds (workspace.view name)

/-- None of some steps, in its turn, gives a resource of its collection another current id. -/
def KeepsIds : List Step → Workspace → Prop
  | [], _ => True
  | step :: rest, workspace =>
      step.KeepsIds workspace ∧ KeepsIds rest (workspace.take step)

theorem shared_put_same
    (workspace : Workspace)
    (name : String)
    (shared : Shared) :
    (workspace.put name shared).shared name = shared := by
  rw [Workspace.shared, handles, put, Fields.get?_set_same]
  rfl

theorem handles_put_other
    {name other : String}
    (different : other ≠ name)
    (workspace : Workspace)
    (shared : Shared) :
    (workspace.put name shared).handles other = workspace.handles other := by
  rw [handles, put, Fields.get?_set_other different]
  rfl

theorem isSound_empty : ({} : Workspace).IsSound where
  valid := fun _ => ⟨List.nodup_nil, fun _ member => absurd member List.not_mem_nil⟩
  distinct := fun _ => Collection.isDistinct_empty

/-- A sound collection can be put into a sound workspace if the ids in its cells stay. -/
theorem IsSound.put
    {workspace : Workspace}
    (isSound : workspace.IsSound)
    {shared : Shared}
    (isValid : shared.Valid)
    (distinct : shared.view.IsDistinct)
    (keeps : workspace.pool.ids <+: shared.pool.ids)
    (name : String) :
    (workspace.put name shared).IsSound := by
  have longEnough : workspace.pool.cells.length ≤ shared.pool.cells.length := by
    simpa [Pool.ids] using keeps.length_le
  constructor
  · intro other
    by_cases same : other = name
    · rw [same, shared_put_same]
      exact isValid
    · have otherValid := isSound.valid other
      constructor
      · change ((workspace.put name shared).handles other).Nodup
        rw [handles_put_other same]
        exact otherValid.distinct
      · intro handle member
        change handle ∈ (workspace.put name shared).handles other at member
        rw [handles_put_other same] at member
        exact Nat.lt_of_lt_of_le (otherValid.inRange handle member) longEnough
  · intro other
    by_cases same : other = name
    · rw [view, same, shared_put_same]
      exact distinct
    · have otherValid := isSound.valid other
      apply (isSound.distinct other).of_ids_eq
      change (shared.pool.view ((workspace.put name shared).handles other)).ids = _
      rw [handles_put_other same]
      exact Pool.ids_view_of_prefix keeps otherValid.inRange

theorem IsSound.store
    {workspace : Workspace}
    (isSound : workspace.IsSound)
    {collection : Collection}
    (distinct : collection.IsDistinct)
    (name : String) :
    (workspace.store name collection).IsSound := by
  have sameView : (workspace.pool.allocate collection.resources).view = collection :=
    congrArg Collection.mk (Pool.view_allocate workspace.pool collection.resources)
  apply isSound.put (Shared.valid_allocate workspace.pool collection.resources)
  · rw [sameView]
    exact distinct
  · rw [Pool.ids, Pool.ids, Pool.allocate, List.map_append]
    exact List.prefix_append _ _

/-- A step that leaves the current ids in the cells leaves all collections distinct. -/
theorem IsSound.take
    {workspace : Workspace}
    (isSound : workspace.IsSound)
    (step : Step)
    (keeps : step.KeepsIds workspace) :
    (workspace.take step).IsSound := by
  cases step with
  | share source target =>
      exact isSound.put (isSound.valid source) (isSound.distinct source) List.prefix_rfl target
  | perform name operation =>
      have kept :
          ∀ other ∈ [operation], ∀ collection next : Collection,
            collection.IsDistinct → other.update collection = .ok next → next.IsDistinct := by
        intro other _ collection next distinct updates
        exact other.update_isDistinct distinct updates
      rcases
          Operation.run_invariant Collection.IsDistinct kept (workspace.shared name)
            (isSound.valid name) (isSound.distinct name) with
        ⟨nextIsValid, nextIsDistinct⟩
      exact isSound.put nextIsValid nextIsDistinct
        (Operation.keepsIds_perform (isSound.valid name) keeps) name

/--
Collections that share cells keep their current ids distinct in every run of
operations on them in which no absorption gives a resource of its collection
another current id.
-/
theorem run_isSound
    {steps : List Step} :
    ∀ {workspace : Workspace},
      workspace.IsSound →
      KeepsIds steps workspace →
      (run steps workspace).IsSound := by
  induction steps with
  | nil =>
      intro workspace isSound _
      exact isSound
  | cons step rest inductionHypothesis =>
      intro workspace isSound keeps
      exact inductionHypothesis (isSound.take step keeps.1) keeps.2

/-- A shallow copy to which a resource is added before its original absorbs a batch. -/
theorem run_isSound_merging :
    (({} : Workspace).store "a" { resources := [.ofName "web"] }).IsSound ∧
      (run
        [.share "a" "b", .perform "b" (.append (.ofName "db")),
          .perform "a" (.absorbAll { resources := [.ofName "web" .merge, .ofName "db"] })]
        (({} : Workspace).store "a" { resources := [.ofName "web"] })).IsSound := by
  have isSound : (({} : Workspace).store "a" { resources := [.ofName "web"] }).IsSound :=
    isSound_empty.store (Collection.isDistinct_singleton _) "a"
  have keeps :
      (Operation.absorbAll { resources := [.ofName "web" .merge, .ofName "db"] }).KeepsIds
        { resources := [.ofName "web"] } :=
    Operation.keepsIds_of_noReplacement (by decide) _
  exact ⟨isSound, run_isSound isSound ⟨trivial, trivial, keeps, trivial⟩⟩

/--
A shallow copy has the resource that was renamed, and another one with its old
name.  Absorbing a replacement for the old name writes it into the shared cell.
-/
theorem not_isDistinct_of_replacement :
    (({} : Workspace).store "a"
        { resources := [((Resource.ofName "old").setName "new").state] }).IsSound ∧
      ¬((run
        [.share "a" "b", .perform "b" (.append (.ofName "old")),
          .perform "a" (.absorbAll { resources := [.ofName "old" .replace] })]
        (({} : Workspace).store "a"
          { resources := [((Resource.ofName "old").setName "new").state] })).view
            "b").IsDistinct := by
  refine ⟨isSound_empty.store (Collection.isDistinct_singleton _) "a", ?_⟩
  change ¬List.Nodup _
  decide +kernel

/-! ## Absorptions that give a resource another id -/

/--
A collection, and over the same pool one with the cell at a position of it and a
cell of its own.
-/
def beside (collection : Collection) (place : Nat) (added : Resource) : Workspace :=
  (({} : Workspace).store "whole" collection).put "part"
    { pool := { cells := collection.resources ++ [added] }
      handles := [place, collection.resources.length] }

theorem shared_beside
    (collection : Collection)
    (place : Nat)
    (added : Resource) :
    (beside collection place added).shared "whole" =
      { pool := { cells := collection.resources ++ [added] }
        handles := List.range' 0 collection.resources.length } :=
  rfl

theorem handles_beside
    (collection : Collection)
    (place : Nat)
    (added : Resource) :
    (beside collection place added).handles "part" = [place, collection.resources.length] :=
  rfl

section

variable
  {collection : Collection}
  {place : Nat}
  {existing added : Resource}
  (atPlace : collection.resources[place]? = some existing)

theorem view_beside
    (collection : Collection)
    (place : Nat)
    (added : Resource) :
    (beside collection place added).view "whole" = collection := by
  have inRange :
      ∀ handle ∈ List.range' 0 collection.resources.length,
        handle < collection.resources.length := by
    intro handle member
    simpa using member
  have whole : (({} : Pool).allocate collection.resources).view = collection :=
    congrArg Collection.mk (Pool.view_allocate {} collection.resources)
  exact (Pool.view_append_cells inRange [added]).trans whole

include atPlace

theorem isSound_beside
    (distinct : collection.IsDistinct)
    (differ : existing.currentId ≠ added.currentId) :
    (beside collection place added).IsSound := by
  have inside := (List.getElem?_eq_some_iff.1 atPlace).1
  apply (isSound_empty.store distinct "whole").put
  · constructor
    · simpa using Nat.ne_of_lt inside
    · intro handle member
      change handle < (collection.resources ++ [added]).length
      rw [List.length_append, List.length_singleton]
      rcases List.mem_pair.1 member with rfl | rfl
      · exact Nat.lt_succ_of_lt inside
      · exact Nat.lt_succ_self _
  · have shows :
        (({ cells := collection.resources ++ [added] } : Pool).view
          [place, collection.resources.length]).resources = [existing, added] := by
      have first :
          ({ cells := collection.resources ++ [added] } : Pool).read? place = some existing := by
        rw [Pool.read?, List.getElem?_append_left inside, atPlace]
      have second :
          ({ cells := collection.resources ++ [added] } : Pool).read?
            collection.resources.length = some added := by
        simp [Pool.read?]
      simp [Pool.view, first, second]
    change List.Nodup (List.map _ _)
    rw [Shared.view, shows]
    simpa using differ
  · change collection.ids <+: (collection.resources ++ [added]).map Resource.currentId
    rw [List.map_append]
    exact List.prefix_append _ _

end

/--
Where absorbing gives a resource another current id, a collection that has its
cell, and a resource with this id, gets two resources with one id.
-/
theorem not_isDistinct_beside
    {collection other next : Collection}
    (absorbs : collection.absorbAll other = .ok next)
    {place : Nat}
    {written : Resource}
    (inside : place < collection.resources.length)
    (writtenThere : next.resources[place]? = some written) :
    ¬(((beside collection place written).take
        (.perform "whole" (.absorbAll other))).view "part").IsDistinct := by
  have isValid : ((beside collection place written).shared "whole").Valid := by
    refine ⟨List.nodup_range', ?_⟩
    intro handle member
    rw [shared_beside] at member ⊢
    rw [List.length_append, List.length_singleton]
    exact Nat.lt_succ_of_lt (by simpa using member)
  have showsWhole : ((beside collection place written).shared "whole").view = collection :=
    view_beside collection place written
  rw [← showsWhole] at absorbs
  have inPlace :
      ((Shared.absorbAll other).run
        ((beside collection place written).shared "whole")).state.pool.read? place =
          some written := by
    rw [← writtenThere]
    apply Shared.read?_absorbAll isValid absorbs
    rw [shared_beside]
    simp [inside]
  have behind :
      ((Shared.absorbAll other).run
        ((beside collection place written).shared "whole")).state.pool.read?
          collection.resources.length = some written := by
    rw [(Shared.absorbAll_frame other _).2]
    · simp [shared_beside, Pool.read?]
    · simp [shared_beside]
    · simp [shared_beside]
  have part :
      ((beside collection place written).take
        (.perform "whole" (.absorbAll other))).handles "part" =
          [place, collection.resources.length] :=
    (handles_put_other (by decide) _ _).trans (handles_beside collection place written)
  have showsTwice :
      (((beside collection place written).take
        (.perform "whole" (.absorbAll other))).view "part").resources = [written, written] := by
    rw [view, Workspace.shared, part]
    change List.filterMap
      ((Shared.absorbAll other).run
        ((beside collection place written).shared "whole")).state.pool.read? _ = _
    simp [inPlace, behind]
  rw [Collection.IsDistinct, Collection.ids, showsTwice]
  simp

/--
An operation leaves all collections over the pool distinct, whatever they are,
exactly if it is no absorption that gives a resource another current id.
-/
theorem take_isSound_iff
    {collection : Collection}
    (distinct : collection.IsDistinct)
    (operation : Operation) :
    (∀ workspace : Workspace, ∀ name,
      workspace.IsSound →
      workspace.view name = collection →
      (workspace.take (.perform name operation)).IsSound) ↔
    operation.KeepsIds collection := by
  constructor
  · intro staysSound
    cases operation with
    | absorbAll other =>
        intro next absorbs
        rcases Result.map_eq_ok.1 absorbs with ⟨resources, absorbsList, rfl⟩
        rcases Collection.meetings_of_absorbs absorbsList with ⟨met, _, _, length⟩
        rw [List.prefix_iff_getElem?]
        intro place inIds
        have inside : place < collection.resources.length := by
          simpa [Collection.ids] using inIds
        have insideNext : place < resources.length := by
          omega
        have atPlace := List.getElem?_eq_getElem inside
        by_cases sameId : collection.resources[place].currentId = resources[place].currentId
        · simp [Collection.ids, insideNext, sameId]
        · have after :=
            staysSound _ "whole" (isSound_beside atPlace distinct sameId)
              (view_beside collection place resources[place])
          exact absurd (after.distinct "part")
            (not_isDistinct_beside absorbs inside (List.getElem?_eq_getElem insideNext))
    | _ => trivial
  · intro keeps workspace name isSound shows
    rw [← shows] at keeps
    exact isSound.take (.perform name operation) keeps

end Workspace

end Manifest
