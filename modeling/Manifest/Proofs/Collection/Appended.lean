import Manifest.Proofs.Collection.Following
import Manifest.Proofs.Collection.Targets

/-!
# Appending at once and one by one

Resources can be appended to a collection at once, or one after another.  The first way
looks for a repeated id before anything is added, in a set that begins with the ids of the
collection; the second one asks the collection each time, which grows by what was added.

Both see the same ids at each resource, so they stop at the same one: the first whose
current id is in the collection or at an earlier resource.  They differ in what they leave
then.  Appending at once has added nothing, and one by one all resources before.
-/

namespace Manifest

namespace Collection

/-- An id that is taken once is refused by a collision. -/
theorem IsDistinct.requireFree_of_mem
    {collection : Collection}
    (distinct : collection.IsDistinct)
    {id : ResourceId}
    (taken : id ∈ collection.ids) :
    collection.requireFree id = .error (.collision id) := by
  rcases distinct.exists_position taken with ⟨place, found⟩
  rw [position, Result.bind_eq_ok] at found
  rcases found with ⟨searched, finds, isPlace⟩
  cases searched with
  | none => cases isPlace
  | some other =>
      rw [requireFree, finds]
      rfl

/-- A set holds the current ids of a collection. -/
def Holds (seen : IdSet) (collection : Collection) : Prop :=
  ∀ id, id ∈ seen.ids ↔ id ∈ collection.ids

theorem holds_ofList (collection : Collection) :
    Holds (.ofList collection.ids) collection :=
  fun _ => IdSet.mem_ofList

/-- The set grows with the collection. -/
theorem Holds.insert
    {seen : IdSet}
    {collection : Collection}
    (holds : Holds seen collection)
    (resource : Resource) :
    Holds (seen.insert resource.currentId)
      { resources := collection.resources ++ [resource] } := by
  intro id
  rw [IdSet.mem_insert, holds, ids, ids, List.map_append, List.map_singleton, List.mem_append,
    List.mem_singleton]

/-- A resource is the first of a row whose current id is taken, also by one before it. -/
structure IsFirstTaken
    (collection : Collection)
    (resources before : List Resource)
    (resource : Resource) :
    Prop where
  isPart : before ++ [resource] <+: resources
  taken : resource.currentId ∈ ids { resources := collection.resources ++ before }
  /-- Up to this resource no current id is repeated. -/
  free : IsDistinct { resources := collection.resources ++ before }

end Collection

namespace Shared

/-- Adds resources one after another, up to the first whose current id is taken. -/
def appendEach (resources : List Resource) : Action Unit :=
  resources.forM append

theorem run_append_of_free
    {shared : Shared}
    {resource : Resource}
    (free : resource.currentId ∉ shared.view.ids) :
    (append resource).run shared = (add resource).run shared := by
  rw [append, Change.run_bind, ask, Change.run_reading, Collection.requireFree_eq_ok.2 free,
    Outcome.andThen_of_ok rfl]

theorem run_append_of_taken
    {shared : Shared}
    (distinct : shared.view.IsDistinct)
    {resource : Resource}
    (taken : resource.currentId ∈ shared.view.ids) :
    (append resource).run shared = .failed (.collision resource.currentId) shared := by
  rw [append, Change.run_bind, ask, Change.run_reading, distinct.requireFree_of_mem taken,
    Outcome.andThen_of_error rfl]

/-- One by one, resources are added as long as no id is repeated. -/
theorem run_appendEach
    (resources : List Resource) :
    ∀ {shared : Shared} {seen : IdSet},
      shared.Valid →
      shared.view.IsDistinct →
      Collection.Holds seen shared.view →
      (Collection.firstRepeated seen (resources.map Resource.currentId) = none ∧
          (appendEach resources).run shared = (resources.forM add).run shared) ∨
        ∃ before resource,
          Collection.IsFirstTaken shared.view resources before resource ∧
            Collection.firstRepeated seen (resources.map Resource.currentId) =
              some resource.currentId ∧
            (appendEach resources).run shared =
              .failed (.collision resource.currentId) ((before.forM add).run shared).state := by
  induction resources with
  | nil => exact fun _ _ _ => Or.inl ⟨rfl, rfl⟩
  | cons resource rest inductionHypothesis =>
      intro shared seen isValid distinct holds
      have asks :
          (appendEach (resource :: rest)).run shared =
            ((append resource).run shared).andThen fun _ => (appendEach rest).run :=
        rfl
      -- The set and the collection answer alike here, and stay alike when the resource is added.
      by_cases taken : resource.currentId ∈ shared.view.ids
      · right
        refine ⟨[], resource, ⟨⟨rest, rfl⟩, ?_, ?_⟩, ?_, ?_⟩
        · rw [List.append_nil]
          exact taken
        · rw [List.append_nil]
          exact distinct
        · have isSeen : seen.contains resource.currentId = true :=
            IdSet.contains_iff.2 ((holds _).2 taken)
          rw [List.map_cons, Collection.firstRepeated, if_pos isSeen]
        · rw [asks, run_append_of_taken distinct taken]
          rfl
      · have notSeen : ¬seen.contains resource.currentId = true := by
          rw [IdSet.contains_iff, holds]
          exact taken
        rcases (add_follows resource).run_of_writing isValid with
          ⟨next, adds, nextIsValid, nextView⟩
        have nextDistinct : next.view.IsDistinct := by
          rw [nextView]
          exact distinct.add taken
        have nextHolds : Collection.Holds (seen.insert resource.currentId) next.view := by
          rw [nextView]
          exact holds.insert resource
        have goesOn : (appendEach (resource :: rest)).run shared = (appendEach rest).run next := by
          rw [asks, run_append_of_free taken, adds, Outcome.andThen_done]
        have addsMore :
            ∀ others, ((resource :: others).forM add).run shared = (others.forM add).run next := by
          intro others
          show ((add resource).run shared).andThen (fun _ => (others.forM add).run) = _
          rw [adds, Outcome.andThen_done]
        rw [List.map_cons, Collection.firstRepeated, if_neg notSeen, goesOn, addsMore]
        rcases inductionHypothesis nextIsValid nextDistinct nextHolds with
          unrepeated | ⟨before, last, isFirst, repeated, fails⟩
        · exact Or.inl unrepeated
        · right
          refine ⟨resource :: before, last, ?_, repeated, ?_⟩
          · have sameRow :
                next.view.resources ++ before = shared.view.resources ++ resource :: before := by
              rw [nextView, List.append_assoc, List.singleton_append]
            exact
              ⟨List.cons_prefix_cons.2 ⟨rfl, isFirst.isPart⟩, sameRow ▸ isFirst.taken,
                sameRow ▸ isFirst.free⟩
          · rw [fails, addsMore]

/-- At once, resources are added if no id is repeated, and otherwise none of them is. -/
theorem run_appendAll
    (other : Collection)
    (shared : Shared) :
    (appendAll other).run shared =
      match
        Collection.firstRepeated (.ofList shared.view.ids)
          (other.resources.map Resource.currentId) with
      | none => (other.resources.forM add).run shared
      | some id => .failed (.collision id) shared := by
  have sameIds : other.ids = other.resources.map Resource.currentId := rfl
  rw [appendAll, Change.run_bind, ask, Change.run_reading, Collection.requireAllFree, sameIds]
  cases
      Collection.firstRepeated (.ofList shared.view.ids)
        (other.resources.map Resource.currentId) <;>
    rfl

theorem view_of_forM_add
    {shared : Shared}
    (isValid : shared.Valid)
    (resources : List Resource) :
    ∃ next,
      (resources.forM add).run shared = .done () next ∧
        next.view.resources = shared.view.resources ++ resources := by
  rcases (forM_add_follows resources).run_of_writing isValid with ⟨next, adds, _, nextView⟩
  exact ⟨next, adds, congrArg Collection.resources nextView⟩

/-- Appending a collection at once and one by one ends alike, and stops at the same id. -/
structure AppendsAlike (shared : Shared) (other : Collection) : Prop where
  /-- One way succeeds if the other does, and otherwise both fail with the same error. -/
  result :
    ((appendAll other).run shared).result = ((appendEach other.resources).run shared).result
  /-- Where they succeed, both add the resources in their order, and leave the same cells. -/
  added :
    ((appendAll other).run shared).result = .ok () →
      ((appendAll other).run shared).state = ((appendEach other.resources).run shared).state ∧
        ((appendAll other).run shared).state.view.resources =
          shared.view.resources ++ other.resources
  /-- Where they fail, the first taken id collides, and only one way adds what comes before. -/
  refused :
    ∀ error,
      ((appendAll other).run shared).result = .error error →
      ((appendAll other).run shared).state = shared ∧
        ∃ before resource,
          Collection.IsFirstTaken shared.view other.resources before resource ∧
            error = .collision resource.currentId ∧
            ((appendEach other.resources).run shared).state.view.resources =
              shared.view.resources ++ before

/-- To a collection with distinct ids, resources are appended at once as they are one by one. -/
theorem appendsAlike
    {shared : Shared}
    (inRange : ∀ handle ∈ shared.handles, handle < shared.pool.cells.length)
    (distinct : shared.view.IsDistinct)
    (other : Collection) :
    shared.AppendsAlike other := by
  have isValid := valid_of_isDistinct inRange distinct
  have atOnce := run_appendAll other shared
  rcases run_appendEach other.resources isValid distinct (Collection.holds_ofList _) with
    ⟨unrepeated, oneByOne⟩ | ⟨before, resource, isFirst, repeated, oneByOne⟩
  · rcases view_of_forM_add isValid other.resources with ⟨next, adds, nextView⟩
    rw [unrepeated, adds] at atOnce
    rw [adds] at oneByOne
    constructor
    · rw [atOnce, oneByOne]
    · intro _
      rw [atOnce, oneByOne]
      exact ⟨rfl, nextView⟩
    · intro error fails
      rw [atOnce] at fails
      cases fails
  · rcases view_of_forM_add isValid before with ⟨next, adds, nextView⟩
    rw [repeated] at atOnce
    rw [adds] at oneByOne
    constructor
    · rw [atOnce, oneByOne]
      rfl
    · intro succeeds
      rw [atOnce] at succeeds
      cases succeeds
    · intro error fails
      rw [atOnce] at fails ⊢
      cases fails
      rw [oneByOne]
      exact ⟨rfl, before, resource, isFirst, rfl, nextView⟩

/-- A batch whose third resource has the current id of the first one. -/
theorem appendsAlike_repeated :
    (∀ handle ∈ (Pool.allocate {} [.ofName "web"]).handles,
        handle < (Pool.allocate {} [.ofName "web"]).pool.cells.length) ∧
      (Pool.allocate {} [.ofName "web"]).view.IsDistinct ∧
      AppendsAlike (Pool.allocate {} [.ofName "web"])
        { resources := [.ofName "db", .ofName "cache", .ofName "db"] } ∧
      ((appendAll { resources := [.ofName "db", .ofName "cache", .ofName "db"] }).run
          (Pool.allocate {} [.ofName "web"])).succeeded = false := by
  have inRange :
      ∀ handle ∈ (Pool.allocate {} [.ofName "web"]).handles,
        handle < (Pool.allocate {} [.ofName "web"]).pool.cells.length :=
    (valid_allocate {} [.ofName "web"]).inRange
  have distinct : (Pool.allocate {} [.ofName "web"]).view.IsDistinct :=
    Collection.isDistinct_singleton _
  exact ⟨inRange, distinct, appendsAlike inRange distinct _, by decide +kernel⟩

end Shared

end Manifest
