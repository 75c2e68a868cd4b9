import Manifest.Proofs.Collection.Operation
import Manifest.Proofs.Collection.Position

/-!
# Two ways to resolve an id

An incoming resource meets the resource that its id resolves to, and a query by an id
gives the resource that it resolves to.  Both go by the initial ids first, and by the
current ids where these do not decide.

They answer alike, with one exception.  Where several resources had an id at first and
none has it now, absorbing calls the id ambiguous, while the query forgets what the
initial ids said and finds no resource.
-/

namespace Manifest.Collection

/-! ## What a search finds -/

theorem positions_cons
    (holds : Resource → Bool)
    (resource : Resource)
    (rest : List Resource) :
    positions holds (resource :: rest) =
      (if holds resource then [0] else []) ++ (positions holds rest).map Nat.succ := by
  have later :
      (List.range rest.length).filter
          ((fun place => (resource :: rest)[place]?.any holds) ∘ Nat.succ) =
        positions holds rest := by
    rw [positions]
    exact List.filter_congr fun place _ => by simp
  rw [positions, List.length_cons, List.range_succ_eq_map, List.filter_cons, List.filter_map,
    later]
  cases isHeld : holds resource <;> simp [isHeld]

/-- At the positions that a search finds are the resources that satisfy its condition. -/
theorem map_positions
    (holds : Resource → Bool)
    (resources : List Resource) :
    (positions holds resources).map (fun place => resources[place]?) =
      (resources.filter holds).map some := by
  induction resources with
  | nil => rfl
  | cons resource rest inductionHypothesis =>
      rw [positions_cons, List.map_append, List.map_map, List.filter_cons]
      have sameRest :
          (positions holds rest).map ((fun place => (resource :: rest)[place]?) ∘ Nat.succ) =
            (rest.filter holds).map some := by
        rw [← inductionHypothesis]
        exact List.map_congr_left fun place _ => by simp
      rw [sameRest]
      cases holds resource <;> rfl

/-- The positions and the resources that a search finds. -/
inductive Finds (resources : List Resource) : List Nat → List Resource → Prop where
  | nothing : Finds resources [] []
  /-- The resource that is found is at no other position. -/
  | one
      {place : Nat}
      {resource : Resource}
      (onlyThere : ∀ other, resources[other]? = some resource ↔ other = place) :
      Finds resources [place] [resource]
  | several
      {firstPlace secondPlace : Nat}
      {places : List Nat}
      {first second : Resource}
      {others : List Resource}
      (sameCount : places.length = others.length) :
      Finds resources (firstPlace :: secondPlace :: places) (first :: second :: others)

theorem finds
    (holds : Resource → Bool)
    (resources : List Resource) :
    Finds resources (positions holds resources) (resources.filter holds) := by
  have atPlaces := map_positions holds resources
  have unique :
      ∀ place resource,
        positions holds resources = [place] → resources[place]? = some resource →
          holds resource = true → ∀ other, resources[other]? = some resource ↔ other = place := by
    intro place resource only atPlace holdsThere other
    constructor
    · intro atOther
      have isFound := mem_positions.2 ⟨resource, atOther, holdsThere⟩
      rw [only] at isFound
      exact List.mem_singleton.1 isFound
    · rintro rfl
      exact atPlace
  have holdsFound : ∀ resource ∈ resources.filter holds, holds resource = true :=
    fun _ member => (List.mem_filter.1 member).2
  generalize resources.filter holds = found at atPlaces holdsFound
  generalize isPlaces : positions holds resources = places at atPlaces
  rcases found with _ | ⟨first, _ | ⟨second, others⟩⟩
  · rw [List.map_nil, List.map_eq_nil_iff] at atPlaces
    subst atPlaces
    exact .nothing
  · rw [List.map_singleton, List.map_eq_singleton_iff] at atPlaces
    rcases atPlaces with ⟨place, rfl, atPlace⟩
    exact .one (unique place first isPlaces atPlace (holdsFound first List.mem_cons_self))
  · simp only [List.map_cons, List.map_eq_cons_iff] at atPlaces
    rcases atPlaces with ⟨firstPlace, _, rfl, _, secondPlace, rest, rfl, _, atRest⟩
    exact .several (by simpa using congrArg List.length atRest)

/-! ## Both answers for an id -/

/-- Several resources had the id at first, and none has it now. -/
structure Abandoned (collection : Collection) (id : ResourceId) : Prop where
  several : 2 ≤ (collection.matchingInitial (· == id)).length
  noneLeft : collection.matchingCurrent (· == id) = []

/-- How absorbing and the query by id answer for an id. -/
inductive Answers (collection : Collection) (id : ResourceId) :
    Except CollectionError (Option Nat) → Except CollectionError Resource → Prop where
  | found
      {place : Nat}
      {resource : Resource}
      (onlyThere : ∀ other, collection.resources[other]? = some resource ↔ other = place) :
      Answers collection id (.ok (some place)) (.ok resource)
  | absent
      (noneHadIt : collection.matchingInitial (· == id) = []) :
      Answers collection id (.ok none) (.error (.notFound id))
  | ambiguous
      (count : Nat) :
      Answers collection id (.error (.ambiguous id count)) (.error (.ambiguous id count))
  /-- The query does not say that the id is ambiguous. -/
  | forgotten
      (abandoned : collection.Abandoned id) :
      Answers collection id
        (.error (.ambiguous id (collection.matchingInitial (· == id)).length))
        (.error (.notFound id))

/-- Several resources with a current id are ambiguous for both. -/
theorem Answers.of_several
    {collection : Collection}
    {places : List Nat}
    {others : List Resource}
    (sameCount : places.length = others.length)
    (id : ResourceId)
    (first second : Resource) :
    Answers collection id (.error (.ambiguous id (places.length + 2)))
      (exactlyOne id (first :: second :: others)) := by
  have isAmbiguous :
      exactlyOne id (first :: second :: others) = .error (.ambiguous id (others.length + 2)) :=
    rfl
  rw [isAmbiguous, sameCount]
  exact .ambiguous (others.length + 2)

theorem answers
    (collection : Collection)
    (id : ResourceId) :
    Answers collection id (meeting collection.resources id) (collection.byId id) := by
  have initials := finds (fun resource => resource.initialId == id) collection.resources
  have currents := finds (fun resource => resource.currentId == id) collection.resources
  have absent := @Answers.absent collection id
  have forgotten := @Answers.forgotten collection id
  have abandoned := @Abandoned.mk collection id
  rw [meeting, byId, byInitialId, byCurrentId]
  rw [matchingInitial] at absent forgotten abandoned ⊢
  rw [matchingCurrent] at abandoned ⊢
  generalize positions (fun resource => resource.initialId == id) collection.resources =
    initialPlaces at initials ⊢
  generalize positions (fun resource => resource.currentId == id) collection.resources =
    currentPlaces at currents ⊢
  generalize collection.resources.filter (fun resource => resource.initialId == id) =
    initialResources at initials absent forgotten abandoned ⊢
  generalize collection.resources.filter (fun resource => resource.currentId == id) =
    currentResources at currents abandoned ⊢
  -- The current ids are asked unless the initial ones give exactly one resource.
  cases initials with
  | one onlyThere => exact .found onlyThere
  | nothing =>
      cases currents with
      | nothing => exact absent rfl
      | one onlyThere => exact .found onlyThere
      | several sameCount => exact .of_several sameCount id _ _
  | @several _ _ _ first second others sameInitials =>
      cases currents with
      | nothing =>
          have isAbandoned := abandoned (Nat.le_add_left 2 others.length) rfl
          have answer := forgotten isAbandoned
          rw [List.length_cons, List.length_cons, ← sameInitials] at answer
          exact answer
      | one onlyThere => exact .found onlyThere
      | several sameCount => exact .of_several sameCount id _ _

/-- What several resources had and none has is not found by the query. -/
theorem byId_of_abandoned
    {collection : Collection}
    {id : ResourceId}
    (abandoned : collection.Abandoned id) :
    collection.byId id = .error (.notFound id) := by
  have several := abandoned.several
  rw [byId, byInitialId, byCurrentId, abandoned.noneLeft]
  generalize collection.matchingInitial (· == id) = initials at several ⊢
  rcases initials with _ | ⟨first, _ | ⟨second, others⟩⟩
  · contradiction
  · rw [List.length_singleton] at several
    contradiction
  · rfl

/-! ## Where both agree -/

/-- Absorbing and the query by id resolve an id in the same way. -/
structure ResolvesAlike (collection : Collection) (id : ResourceId) : Prop where
  found :
    ∀ place,
      meeting collection.resources id = .ok (some place) ↔
        ∃ resource,
          collection.byId id = .ok resource ∧ collection.resources[place]? = some resource
  absent :
    meeting collection.resources id = .ok none ↔ collection.byId id = .error (.notFound id)
  ambiguous :
    ∀ count,
      meeting collection.resources id = .error (.ambiguous id count) ↔
        collection.byId id = .error (.ambiguous id count)

/--
Both resolve an id in the same way, unless several resources had it at first and none has
it now.
-/
theorem resolvesAlike_iff
    (collection : Collection)
    (id : ResourceId) :
    collection.ResolvesAlike id ↔ ¬ collection.Abandoned id := by
  have given := answers collection id
  constructor
  · intro alike abandoned
    rw [byId_of_abandoned abandoned, alike.absent.2 (byId_of_abandoned abandoned)] at given
    cases given with
    | absent noneHadIt =>
        have several := abandoned.several
        rw [noneHadIt] at several
        contradiction
  · intro notAbandoned
    generalize isMet : meeting collection.resources id = met at given
    generalize isQueried : collection.byId id = queried at given
    cases given with
    | @found place resource onlyThere =>
        refine ⟨fun other => ?_, by simp [isMet, isQueried], by simp [isMet, isQueried]⟩
        rw [isMet, isQueried]
        simp only [Except.ok.injEq, Option.some.injEq, exists_eq_left', onlyThere]
        exact eq_comm
    | absent => constructor <;> simp [isMet, isQueried]
    | ambiguous => constructor <;> simp [isMet, isQueried]
    | forgotten abandoned => exact absurd abandoned notAbandoned

/-- A configuration map that was renamed. -/
def renamed (before after : String) : Resource :=
  ((Resource.ofName before).setName after).state

/-- Two resources that had the same name, and were both renamed. -/
def renamedApart : Collection where
  resources := [renamed "web" "first", renamed "web" "second"]

/-- An incoming resource with the old name of two is ambiguous, and a query finds none. -/
theorem not_resolvesAlike_renamedApart :
    ofResources renamedApart.resources = .ok renamedApart ∧
      meeting renamedApart.resources (Resource.ofName "web").currentId =
        .error (.ambiguous (Resource.ofName "web").currentId 2) ∧
      renamedApart.byId (Resource.ofName "web").currentId =
        .error (.notFound (Resource.ofName "web").currentId) ∧
      ¬ renamedApart.ResolvesAlike (Resource.ofName "web").currentId := by
  have meets :
      meeting renamedApart.resources (Resource.ofName "web").currentId =
        .error (.ambiguous (Resource.ofName "web").currentId 2) :=
    rfl
  refine ⟨rfl, meets, rfl, ?_⟩
  intro alike
  have meetsNone := alike.absent.2 rfl
  rw [meets] at meetsNone
  cases meetsNone

end Manifest.Collection
