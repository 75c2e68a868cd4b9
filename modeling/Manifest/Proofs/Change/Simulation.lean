import Manifest.Proofs.Change.Atomic

/-!
# Simulation of changes

A thing can be seen through a view that forgets how it is stored.  A change of
the thing simulates a change of the view if, from each valid thing, it has the
result that the change of the view has, leaves the view as that one leaves it,
and leaves the thing valid.

Simulations follow one another, so a program is simulated step by step.
-/

namespace Manifest.Change

variable {ε ε' σ τ α β : Type}

/-- Replaces the thing by what is computed from it beside a result, or stops. -/
def updating (update : σ → Except ε (α × σ)) : Change ε σ α :=
  ⟨fun state =>
    match update state with
    | .ok (result, next) => .done result next
    | .error error => .failed error state⟩

/-- Replaces the thing by what is computed from it, or stops. -/
def replacing (update : σ → Except ε σ) : Change ε σ Unit :=
  updating fun state => (update state).map fun next => ((), next)

theorem run_replacing_of_ok
    {update : σ → Except ε σ}
    {state next : σ}
    (succeeds : update state = .ok next) :
    (replacing update).run state = .done () next := by
  simp [replacing, updating, succeeds, Except.map]

theorem run_replacing_of_error
    {update : σ → Except ε σ}
    {state : σ}
    {error : ε}
    (fails : update state = .error error) :
    (replacing update).run state = .failed error state := by
  simp [replacing, updating, fails, Except.map]

/-- What a replacement ends in, or stops with, is what is computed. -/
theorem final_run_replacing
    (update : σ → Except ε σ)
    (state : σ) :
    ((replacing update).run state).final = update state := by
  cases updated : update state with
  | ok next =>
      rw [run_replacing_of_ok updated]
      rfl
  | error error =>
      rw [run_replacing_of_error updated]
      rfl

/-- On valid things, a change has the outcome of a change of the view. -/
def Simulates
    (isValid : σ → Prop)
    (view : σ → τ)
    (change : Change ε σ α)
    (specification : Change ε τ α) : Prop :=
  ∀ state, isValid state →
    isValid (change.run state).state ∧
      (change.run state).mapState view = specification.run (view state)

section

variable
  {isValid : σ → Prop}
  {view : σ → τ}

theorem simulates_reading (read : τ → Except ε α) :
    Simulates isValid view (reading fun state => read (view state)) (reading read) := by
  intro state stateIsValid
  exact ⟨stateIsValid, rfl⟩

theorem simulates_writing
    {write : σ → σ}
    {writeView : τ → τ}
    (keepsValid : ∀ state, isValid state → isValid (write state))
    (agrees : ∀ state, isValid state → view (write state) = writeView (view state)) :
    Simulates isValid view (writing write : Change ε σ Unit) (writing writeView) := by
  intro state stateIsValid
  constructor
  · exact keepsValid state stateIsValid
  · rw [run_writing, run_writing, ← agrees state stateIsValid]
    rfl

theorem Simulates.bind
    {first : Change ε σ α}
    {firstView : Change ε τ α}
    {next : α → Change ε σ β}
    {nextView : α → Change ε τ β}
    (firstSimulates : Simulates isValid view first firstView)
    (nextSimulates : ∀ result, Simulates isValid view (next result) (nextView result)) :
    Simulates isValid view (first >>= next) (firstView >>= nextView) := by
  intro state stateIsValid
  rcases firstSimulates state stateIsValid with ⟨middleIsValid, agrees⟩
  rw [run_bind, run_bind, ← agrees]
  cases outcome : (first.run state).result with
  | ok result =>
      rw [Outcome.andThen_of_ok outcome, Outcome.andThen_of_ok (by simpa using outcome)]
      exact nextSimulates result _ middleIsValid
  | error error =>
      rw [Outcome.andThen_of_error outcome, Outcome.andThen_of_error (by simpa using outcome)]
      exact ⟨middleIsValid, rfl⟩

theorem Simulates.mapError
    {change : Change ε σ α}
    {specification : Change ε τ α}
    (simulates : Simulates isValid view change specification)
    (embed : ε → ε') :
    Simulates isValid view (change.mapError embed) (specification.mapError embed) := by
  intro state stateIsValid
  rcases simulates state stateIsValid with ⟨nextIsValid, agrees⟩
  constructor
  · exact nextIsValid
  · rw [run_mapError, run_mapError, ← agrees]
    rfl

/-- A change that simulates a write succeeds, and its view is what is written. -/
theorem Simulates.run_of_writing
    {change : Change ε σ Unit}
    {write : τ → τ}
    (simulates : Simulates isValid view change (writing write))
    {state : σ}
    (stateIsValid : isValid state) :
    ∃ next,
      change.run state = .done () next ∧ isValid next ∧ view next = write (view state) := by
  rcases simulates state stateIsValid with ⟨nextIsValid, agrees⟩
  refine ⟨(change.run state).state, ?_, nextIsValid, congrArg Outcome.state agrees⟩
  have succeeds : (change.run state).result = .ok () := congrArg Outcome.result agrees
  rw [Outcome.done, ← succeeds]

/-- What a change makes of a valid thing shows as what the simulated update makes of its view. -/
theorem Simulates.final
    {change : Change ε σ Unit}
    {update : τ → Except ε τ}
    (simulates : Simulates isValid view change (replacing update))
    {state : σ}
    (stateIsValid : isValid state) :
    (change.run state).final.map view = update (view state) := by
  rcases simulates state stateIsValid with ⟨_, agrees⟩
  rw [← final_run_replacing update, ← agrees, Outcome.final, Outcome.final,
    Outcome.result_mapState]
  cases (change.run state).result <;> rfl

/-- From a valid thing, a change that succeeds agrees with an update that does. -/
theorem agrees_of_ok
    {change : Change ε σ Unit}
    {update : τ → Except ε τ}
    {state next : σ}
    (runs : change.run state = .done () next)
    (nextIsValid : isValid next)
    (updates : update (view state) = .ok (view next)) :
    isValid (change.run state).state ∧
      (change.run state).mapState view = (replacing update).run (view state) := by
  rw [runs, run_replacing_of_ok updates]
  exact ⟨nextIsValid, rfl⟩

/-- From a valid thing, a change that fails at once agrees with an update that fails. -/
theorem agrees_of_error
    {change : Change ε σ Unit}
    {update : τ → Except ε τ}
    {state : σ}
    {error : ε}
    (runs : change.run state = .failed error state)
    (stateIsValid : isValid state)
    (fails : update (view state) = .error error) :
    isValid (change.run state).state ∧
      (change.run state).mapState view = (replacing update).run (view state) := by
  rw [runs, run_replacing_of_error fails]
  exact ⟨stateIsValid, rfl⟩

end

/-! ## Changes of a view as one update -/

/-- A fold over computed results is computed. -/
theorem foldlM_lift
    (step : β → α → Except ε β)
    (items : List α) :
    ∀ start,
      items.foldlM (fun result item => (lift (step result item) : Change ε σ β)) start =
        lift (items.foldlM step start) := by
  induction items with
  | nil =>
      intro start
      rfl
  | cons item rest inductionHypothesis =>
      intro start
      rw [List.foldlM_cons, List.foldlM_cons, funext inductionHypothesis]
      ext state
      simp only [run_bind, lift, run_reading]
      cases step start item <;> rfl

/-- What is read and then replaced is one update. -/
theorem reading_bind_replacing
    (read : σ → Except ε α)
    (update : α → σ → Except ε σ) :
    (reading read >>= fun found => replacing (update found)) =
      replacing fun state => read state >>= fun found => update found state := by
  ext state
  rw [run_bind, run_reading]
  cases outcome : read state with
  | ok found =>
      rw [Outcome.andThen_of_ok rfl]
      cases updated : update found state with
      | ok next =>
          rw [run_replacing_of_ok updated, run_replacing_of_ok (by rw [outcome]; exact updated)]
      | error error =>
          rw [run_replacing_of_error updated,
            run_replacing_of_error (by rw [outcome]; exact updated)]
  | error error =>
      have fails : (read state >>= fun found => update found state) = .error error := by
        rw [outcome]
        rfl
      rw [Outcome.andThen_of_error rfl, run_replacing_of_error fails]

theorem writing_eq_replacing (write : σ → σ) :
    (writing write : Change ε σ Unit) = replacing fun state => .ok (write state) := by
  ext state
  exact (run_replacing_of_ok rfl).symm

theorem mapError_replacing
    (embed : ε → ε')
    (update : σ → Except ε σ) :
    (replacing update).mapError embed =
      replacing fun state => (update state).mapError embed := by
  ext state
  rw [run_mapError]
  cases updated : update state with
  | ok next =>
      rw [run_replacing_of_ok updated, run_replacing_of_ok (by rw [updated]; rfl)]
      rfl
  | error error =>
      rw [run_replacing_of_error updated, run_replacing_of_error (by rw [updated]; rfl)]
      rfl

/-- What an update keeps when it succeeds, the change keeps whether it succeeds or not. -/
theorem state_replacing
    {holds : σ → Prop}
    {update : σ → Except ε σ}
    {state : σ}
    (kept : ∀ next, update state = .ok next → holds next)
    (holdsBefore : holds state) :
    holds ((replacing update).run state).state := by
  cases updated : update state with
  | ok next =>
      rw [run_replacing_of_ok updated]
      exact kept next updated
  | error error =>
      rw [run_replacing_of_error updated]
      exact holdsBefore

end Manifest.Change
