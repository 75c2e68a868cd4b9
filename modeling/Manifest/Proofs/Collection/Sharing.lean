import Manifest.Collection.Pool
import Manifest.Proofs.Change.Simulation
import Mathlib.Data.List.Nodup

/-!
# Shared collections as collections

The handles of a shared collection are valid if they are distinct and each of
them is the handle of a cell.  Then the positions of the handles are those of
the resources in the view, a write through the handle at a position changes the
view at this position only, and every action on the handles simulates the
operation of the same name on the view.
-/

namespace Manifest

namespace Pool

/-- A view has its resources at the positions of the handles. -/
theorem getElem?_view
    {pool : Pool}
    {handles : List Handle}
    (inRange : ∀ handle ∈ handles, handle < pool.cells.length)
    (place : Nat) :
    (pool.view handles).resources[place]? = handles[place]?.bind pool.read? := by
  induction handles generalizing place with
  | nil => simp [view]
  | cons handle rest inductionHypothesis =>
      have handleInRange : handle < pool.cells.length := inRange handle (by simp)
      have restInRange : ∀ other ∈ rest, other < pool.cells.length := by
        intro other member
        exact inRange other (by simp [member])
      have reads : pool.read? handle = some pool.cells[handle] := by
        simp [read?, handleInRange]
      have viewCons :
          (pool.view (handle :: rest)).resources =
            pool.cells[handle] :: (pool.view rest).resources := by
        simp [view, reads]
      rw [viewCons]
      cases place with
      | zero => simp [reads]
      | succ place => simpa using inductionHypothesis restInRange place

theorem length_view
    {pool : Pool}
    {handles : List Handle}
    (inRange : ∀ handle ∈ handles, handle < pool.cells.length) :
    (pool.view handles).resources.length = handles.length := by
  induction handles with
  | nil => rfl
  | cons handle rest inductionHypothesis =>
      have handleInRange : handle < pool.cells.length := inRange handle (by simp)
      have restInRange : ∀ other ∈ rest, other < pool.cells.length := by
        intro other member
        exact inRange other (by simp [member])
      have restLength := inductionHypothesis restInRange
      simp only [view] at restLength ⊢
      simp [read?, handleInRange, restLength]

@[simp]
theorem read?_write_same
    {pool : Pool}
    {handle : Handle}
    (inRange : handle < pool.cells.length)
    (resource : Resource) :
    (pool.write handle resource).read? handle = some resource := by
  simp [read?, write, inRange]

theorem read?_write_other
    {handle other : Handle}
    (different : handle ≠ other)
    (pool : Pool)
    (resource : Resource) :
    (pool.write handle resource).read? other = pool.read? other := by
  simp [read?, write, different]

/-- Cells that are added behind the others are not read through the old handles. -/
theorem view_append_cells
    {pool : Pool}
    {handles : List Handle}
    (inRange : ∀ handle ∈ handles, handle < pool.cells.length)
    (added : List Resource) :
    ({ cells := pool.cells ++ added } : Pool).view handles = pool.view handles := by
  have agree :
      ∀ handle ∈ handles, (pool.cells ++ added)[handle]? = pool.cells[handle]? := by
    intro handle member
    exact List.getElem?_append_left (inRange handle member)
  exact congrArg Collection.mk (List.filterMap_congr agree)

/-- New cells hold what they were made from. -/
theorem view_allocate
    (pool : Pool)
    (resources : List Resource) :
    (pool.allocate resources).view.resources = resources := by
  have inRange :
      ∀ handle ∈ List.range' pool.cells.length resources.length,
        handle < (pool.cells ++ resources).length := by
    intro handle member
    rw [List.mem_range'_1] at member
    rw [List.length_append]
    exact member.2
  apply List.ext_getElem?
  intro place
  rw [Shared.view, allocate, getElem?_view inRange]
  by_cases inside : place < resources.length
  · simp [inside, read?]
  · simp [inside]

end Pool

namespace Shared

/-- The handles are distinct, and each is the handle of a cell. -/
structure Valid (shared : Shared) : Prop where
  distinct : shared.handles.Nodup
  inRange : ∀ handle ∈ shared.handles, handle < shared.pool.cells.length

theorem valid_allocate
    (pool : Pool)
    (resources : List Resource) :
    (pool.allocate resources).Valid where
  distinct := List.nodup_range'
  inRange := by
    intro handle member
    rw [Pool.allocate, List.mem_range'_1] at member
    rw [Pool.allocate, List.length_append]
    exact member.2

theorem Valid.sublist
    {shared : Shared}
    (isValid : shared.Valid)
    {handles : List Handle}
    (part : handles.Sublist shared.handles) :
    ({ shared with handles } : Shared).Valid where
  distinct := isValid.distinct.sublist part
  inRange := fun handle member => isValid.inRange handle (part.subset member)

theorem Valid.length_view
    {shared : Shared}
    (isValid : shared.Valid) :
    shared.view.resources.length = shared.handles.length :=
  Pool.length_view isValid.inRange

/-- An action has the outcome of a change of the view on all valid shared collections. -/
abbrev Follows {ε α : Type} (action : Change ε Shared α) (change : Change ε Collection α) :
    Prop :=
  Change.Simulates Valid view action change

/-! ## Steps -/

theorem ask_follows
    {α : Type}
    (question : Collection → Except CollectionError α) :
    Follows (ask question) (.reading question) :=
  Change.simulates_reading question

theorem put_follows
    (place : Nat)
    (resource : Resource) :
    Follows (put place resource)
      (.writing fun collection =>
        { resources := collection.resources.set place resource }) := by
  apply Change.simulates_writing
  · intro shared isValid
    split
    · exact
        { distinct := isValid.distinct
          inRange := by simpa [Pool.write] using isValid.inRange }
    · exact isValid
  · intro shared isValid
    split
    · rename_i handle atPlace
      have placeInside : place < shared.handles.length :=
        (List.getElem?_eq_some_iff.1 atPlace).1
      have handleInRange : handle < shared.pool.cells.length :=
        isValid.inRange handle (List.mem_of_getElem? atPlace)
      have writtenInRange :
          ∀ other ∈ shared.handles,
            other < (shared.pool.write handle resource).cells.length := by
        simpa [Pool.write] using isValid.inRange
      apply congrArg Collection.mk
      apply List.ext_getElem?
      intro other
      change ((shared.pool.write handle resource).view shared.handles).resources[other]? = _
      rw [Pool.getElem?_view writtenInRange, List.getElem?_set]
      split
      · rename_i same
        subst same
        rw [atPlace, isValid.length_view, if_pos placeInside]
        simpa using Pool.read?_write_same handleInRange resource
      · rename_i different
        rw [view, Pool.getElem?_view isValid.inRange]
        cases atOther : shared.handles[other]? with
        | none => rfl
        | some otherHandle =>
            have handlesDiffer : handle ≠ otherHandle := by
              rintro rfl
              exact different
                ((List.getElem?_inj placeInside isValid.distinct).1
                  (atPlace.trans atOther.symm))
            exact Pool.read?_write_other handlesDiffer shared.pool resource
    · rename_i outside
      have lengthLe : shared.view.resources.length ≤ place := by
        rw [isValid.length_view]
        exact List.getElem?_eq_none_iff.1 outside
      rw [List.set_eq_of_length_le lengthLe]

theorem add_follows (resource : Resource) :
    Follows (add resource)
      (.writing fun collection => { resources := collection.resources ++ [resource] }) := by
  apply Change.simulates_writing
  · intro shared isValid
    constructor
    · rw [List.nodup_append]
      refine ⟨isValid.distinct, by simp, ?_⟩
      intro handle member added isAdded
      rw [List.mem_singleton] at isAdded
      rw [isAdded]
      exact Nat.ne_of_lt (isValid.inRange handle member)
    · intro handle member
      rw [List.length_append, List.length_singleton]
      rcases List.mem_append.1 member with old | new
      · exact Nat.lt_succ_of_lt (isValid.inRange handle old)
      · rw [List.mem_singleton.1 new]
        exact Nat.lt_succ_self _
  · intro shared isValid
    have oldPart := congrArg Collection.resources
      (Pool.view_append_cells isValid.inRange [resource])
    apply congrArg Collection.mk
    simp only [Pool.view] at oldPart
    rw [List.filterMap_append, oldPart]
    simp [view, Pool.view, Pool.read?]

theorem drop_follows (place : Nat) :
    Follows (drop place)
      (.writing fun collection =>
        { resources := collection.resources.eraseIdx place }) := by
  apply Change.simulates_writing
  · intro shared isValid
    exact isValid.sublist (List.eraseIdx_sublist shared.handles place)
  · intro shared isValid
    have erasedIsValid := isValid.sublist (List.eraseIdx_sublist shared.handles place)
    apply congrArg Collection.mk
    apply List.ext_getElem?
    intro other
    change (shared.pool.view (shared.handles.eraseIdx place)).resources[other]? = _
    rw [Pool.getElem?_view erasedIsValid.inRange, List.getElem?_eraseIdx,
      List.getElem?_eraseIdx]
    split
    · exact (Pool.getElem?_view isValid.inRange other).symm
    · exact (Pool.getElem?_view isValid.inRange (other + 1)).symm

/-! ## Rows of steps -/

theorem forM_add_follows (resources : List Resource) :
    Follows (resources.forM add)
      (.writing fun collection =>
        { resources := collection.resources ++ resources }) := by
  induction resources with
  | nil =>
      intro shared isValid
      refine ⟨isValid, ?_⟩
      rw [Change.run_writing, List.append_nil]
      rfl
  | cons resource rest inductionHypothesis =>
      have steps := (add_follows resource).bind fun _ => inductionHypothesis
      have asOneStep :
          (Change.writing fun collection : Collection =>
              { resources := collection.resources ++ [resource] }) >>=
            (fun _ : Unit => Change.writing fun collection : Collection =>
              { resources := collection.resources ++ rest }) =
          (Change.writing fun collection : Collection =>
              { resources := collection.resources ++ resource :: rest } :
            Change CollectionError Collection Unit) := by
        ext collection
        simp
      rw [asOneStep] at steps
      exact steps

/-- A resource that is put or added has its place, and the places before and behind it stay. -/
theorem run_putOrAdd
    {count place : Nat}
    (resource : Resource)
    {shared : Shared}
    (isValid : shared.Valid)
    (length : shared.view.resources.length = max count place) :
    ∃ next,
      (putOrAdd count place resource).run shared = .done () next ∧
        next.Valid ∧
        next.view.resources =
          shared.view.resources.take place ++ resource ::
            shared.view.resources.drop (place + 1) := by
  rw [putOrAdd]
  split
  · rename_i inside
    rcases (put_follows place resource).run_of_writing isValid with
      ⟨next, runs, nextIsValid, nextView⟩
    refine ⟨next, runs, nextIsValid, ?_⟩
    rw [nextView, List.set_eq_take_append_cons_drop, if_pos (by omega)]
  · rename_i outside
    rcases (add_follows resource).run_of_writing isValid with
      ⟨next, runs, nextIsValid, nextView⟩
    refine ⟨next, runs, nextIsValid, ?_⟩
    rw [nextView, List.take_of_length_le (by omega), List.drop_of_length_le (by omega)]

/--
Written from a position on, resources take the places of what was there; those
that find no place are added.
-/
theorem run_putFrom
    (count : Nat)
    (resources : List Resource) :
    ∀ (place : Nat) (shared : Shared),
      shared.Valid →
      shared.handles.length = max count place →
      ∃ next,
        (putFrom count place resources).run shared = .done () next ∧
        next.Valid ∧
        next.view.resources =
          shared.view.resources.take place ++ resources ++
            shared.view.resources.drop (place + resources.length) := by
  induction resources with
  | nil =>
      intro place shared isValid _
      refine ⟨shared, rfl, isValid, ?_⟩
      simp
  | cons resource rest inductionHypothesis =>
      intro place shared isValid length
      have viewLength : shared.view.resources.length = max count place := by
        rw [isValid.length_view, length]
      rcases run_putOrAdd resource isValid viewLength with
        ⟨middle, runsFirst, middleIsValid, middleView⟩
      have middleLength : middle.handles.length = max count (place + 1) := by
        rw [← middleIsValid.length_view, middleView]
        simp only [List.length_append, List.length_take, List.length_cons, List.length_drop,
          viewLength]
        omega
      rcases inductionHypothesis (place + 1) middle middleIsValid middleLength with
        ⟨last, runsRest, lastIsValid, lastView⟩
      refine ⟨last, ?_, lastIsValid, ?_⟩
      · rw [putFrom, Change.run_bind, runsFirst, Outcome.andThen_done, runsRest]
      · have takeLength : (shared.view.resources.take place).length = place := by
          rw [List.length_take, viewLength]
          omega
        have takeMiddle :
            middle.view.resources.take (place + 1) =
              shared.view.resources.take place ++ [resource] := by
          rw [middleView, List.append_cons, List.take_left' (by simp [takeLength])]
        have dropMiddle :
            middle.view.resources.drop (place + 1 + rest.length) =
              shared.view.resources.drop (place + (rest.length + 1)) := by
          rw [middleView, List.append_cons, List.drop_append,
            List.drop_of_length_le (by simp [takeLength]), List.nil_append, List.drop_drop]
          congr 1
          simp [takeLength]
          omega
        rw [lastView, takeMiddle, dropMiddle]
        simp

/-- A resource that is there already need not be put. -/
theorem run_putIf
    {isChanged : Bool}
    {place : Nat}
    {resource : Resource}
    {shared : Shared}
    (isValid : shared.Valid)
    (there : isChanged = false → shared.view.resources[place]? = some resource) :
    ∃ next,
      (putIf isChanged place resource).run shared = .done () next ∧
      next.Valid ∧
      next.view.resources = shared.view.resources.set place resource := by
  cases isChanged with
  | true =>
      rcases (put_follows place resource).run_of_writing isValid with
        ⟨next, runs, nextIsValid, nextView⟩
      exact ⟨next, runs, nextIsValid, congrArg Collection.resources nextView⟩
  | false =>
      rcases List.getElem?_eq_some_iff.1 (there rfl) with ⟨inside, same⟩
      refine ⟨shared, rfl, isValid, ?_⟩
      rw [← same, List.set_getElem_self]

/--
Written from a position on, the changed ones of some resources take the places
of what was there, and those that have no mark are added; so all of them are
there if the unchanged ones were.
-/
theorem run_putChanged
    (marks : List Bool) :
    ∀ (place : Nat) (resources : List Resource) (shared : Shared),
      shared.Valid →
      shared.handles.length = place + marks.length →
      marks.length ≤ resources.length →
      (∀ offset, marks[offset]? = some false →
        resources[offset]? = shared.view.resources[place + offset]?) →
      ∃ next,
        (putChanged place marks resources).run shared = .done () next ∧
        next.Valid ∧
        next.view.resources = shared.view.resources.take place ++ resources := by
  induction marks with
  | nil =>
      intro place resources shared isValid length _ _
      rcases (forM_add_follows resources).run_of_writing isValid with
        ⟨next, runs, nextIsValid, nextView⟩
      refine ⟨next, ?_, nextIsValid, ?_⟩
      · rw [putChanged.eq_def]
        exact runs
      · have viewLength : shared.view.resources.length = place := by
          rw [isValid.length_view, length, List.length_nil, Nat.add_zero]
        rw [nextView, List.take_of_length_le (Nat.le_of_eq viewLength)]
  | cons isChanged marks inductionHypothesis =>
      intro place resources shared isValid length longEnough unchanged
      obtain ⟨resource, rest, rfl⟩ := List.exists_cons_of_length_pos (Nat.lt_of_lt_of_le
        (Nat.zero_lt_succ marks.length) longEnough)
      have viewLength : shared.view.resources.length = place + (marks.length + 1) := by
        rw [isValid.length_view, length, List.length_cons]
      have there : isChanged = false → shared.view.resources[place]? = some resource := by
        intro isUnchanged
        exact (unchanged 0 (by rw [isUnchanged, List.getElem?_cons_zero])).symm
      rcases run_putIf isValid there with ⟨middle, runsFirst, middleIsValid, middleView⟩
      have middleLength : middle.handles.length = place + 1 + marks.length := by
        rw [← middleIsValid.length_view, middleView, List.length_set, viewLength]
        omega
      have restUnchanged :
          ∀ offset, marks[offset]? = some false →
            rest[offset]? = middle.view.resources[place + 1 + offset]? := by
        intro offset isUnchanged
        have same := unchanged (offset + 1) (by rw [List.getElem?_cons_succ, isUnchanged])
        rw [List.getElem?_cons_succ] at same
        rw [same, middleView, List.getElem?_set_ne (by omega)]
        congr 1
        omega
      rcases
          inductionHypothesis (place + 1) rest middle middleIsValid middleLength
            (Nat.le_of_succ_le_succ longEnough) restUnchanged with
        ⟨last, runsRest, lastIsValid, lastView⟩
      refine ⟨last, ?_, lastIsValid, ?_⟩
      · rw [putChanged, Change.run_bind, runsFirst, Outcome.andThen_done, runsRest]
      · have takeMiddle :
            middle.view.resources.take (place + 1) =
              shared.view.resources.take place ++ [resource] := by
          rw [middleView, List.set_eq_take_append_cons_drop, if_pos (by omega),
            List.append_cons, List.take_left' (by simp; omega)]
        rw [lastView, takeMiddle]
        simp

/--
What is found for the resources from a position on stays in its order, and
nothing else stays behind that position.
-/
theorem run_siftFrom
    (results : List (Option Resource)) :
    ∀ (place : Nat) (shared : Shared),
      shared.Valid →
      shared.handles.length = place + results.length →
      ∃ next,
        (siftFrom place results).run shared = .done () next ∧
        next.Valid ∧
        next.view.resources =
          shared.view.resources.take place ++ results.filterMap id := by
  induction results with
  | nil =>
      intro place shared isValid length
      refine ⟨shared, rfl, isValid, ?_⟩
      rw [List.take_of_length_le (by rw [isValid.length_view, length]; simp)]
      simp
  | cons result rest inductionHypothesis =>
      intro place shared isValid length
      have viewLength : shared.view.resources.length = place + (rest.length + 1) := by
        rw [isValid.length_view, length, List.length_cons]
      rcases
          inductionHypothesis (place + 1) shared isValid
            (by rw [length, List.length_cons]; omega) with
        ⟨middle, runsRest, middleIsValid, middleView⟩
      obtain ⟨resource, atPlace⟩ :
          ∃ resource, shared.view.resources[place]? = some resource := by
        exact ⟨_, List.getElem?_eq_getElem (by omega)⟩
      have takeLength : (shared.view.resources.take place).length = place := by
        rw [List.length_take, viewLength]
        omega
      rw [List.take_add_one, atPlace, Option.toList_some, List.append_assoc] at middleView
      rw [siftFrom]
      cases result with
      | some written =>
          rcases (put_follows place written).run_of_writing middleIsValid with
            ⟨last, runs, lastIsValid, lastView⟩
          refine ⟨last, ?_, lastIsValid, ?_⟩
          · rw [Change.run_bind, runsRest, Outcome.andThen_done]
            exact runs
          · rw [lastView, middleView, List.set_append_right _ _ (by omega), takeLength]
            simp
      | none =>
          rcases (drop_follows place).run_of_writing middleIsValid with
            ⟨last, runs, lastIsValid, lastView⟩
          refine ⟨last, ?_, lastIsValid, ?_⟩
          · rw [Change.run_bind, runsRest, Outcome.andThen_done]
            exact runs
          · rw [lastView, middleView, List.eraseIdx_append_of_length_le (by omega), takeLength]
            simp

end Shared

end Manifest
