import Manifest.Outcome

/-!
# Atomic changes

A change is atomic if it leaves the thing as it was whenever it fails.  Two
kinds of changes are atomic for simple reasons: one that only reads never
changes the thing, and one that is sure never fails.

An atomic change stays atomic behind reading and in front of sure changes.  That
is the shape of an operation that works on copies and writes at its end.
-/

namespace Manifest.Change

variable {ε ε' σ α β : Type}

/-- The change leaves the thing as it was, also when it succeeds. -/
def IsReading (change : Change ε σ α) : Prop :=
  ∀ state, (change.run state).state = state

/-- The change never fails. -/
def IsSure (change : Change ε σ α) : Prop :=
  ∀ state, ∃ result, (change.run state).result = .ok result

/-- The change leaves the thing as it was if it fails. -/
def IsAtomic (change : Change ε σ α) : Prop :=
  ∀ state error, (change.run state).result = .error error → (change.run state).state = state

/-! ## Reading -/

theorem isReading_pure (result : α) :
    IsReading (pure result : Change ε σ α) := by
  intro state
  rfl

theorem isReading_reading (read : σ → Except ε α) :
    IsReading (reading read) := by
  intro state
  rfl

theorem isReading_lift (result : Except ε α) :
    IsReading (lift result : Change ε σ α) :=
  isReading_reading fun _ => result

theorem IsReading.bind
    {first : Change ε σ α}
    {next : α → Change ε σ β}
    (firstReads : IsReading first)
    (nextReads : ∀ result, IsReading (next result)) :
    IsReading (first >>= next) := by
  intro state
  rw [run_bind]
  cases outcome : (first.run state).result with
  | ok result =>
      rw [Outcome.andThen_of_ok outcome, nextReads result, firstReads state]
  | error error =>
      rw [Outcome.andThen_of_error outcome]
      exact firstReads state

theorem isReading_foldlM
    {step : β → α → Change ε σ β}
    (stepReads : ∀ result item, IsReading (step result item))
    (items : List α) :
    ∀ start, IsReading (items.foldlM step start) := by
  induction items with
  | nil =>
      intro start
      exact isReading_pure start
  | cons item rest inductionHypothesis =>
      intro start
      rw [List.foldlM_cons]
      exact (stepReads start item).bind inductionHypothesis

theorem IsReading.isAtomic
    {change : Change ε σ α}
    (reads : IsReading change) :
    IsAtomic change := by
  intro state error _
  exact reads state

/-! ## Sure changes -/

theorem isSure_pure (result : α) :
    IsSure (pure result : Change ε σ α) := by
  intro state
  exact ⟨result, rfl⟩

theorem isSure_writing (write : σ → σ) :
    IsSure (writing write : Change ε σ Unit) := by
  intro state
  exact ⟨(), rfl⟩

theorem IsSure.bind
    {first : Change ε σ α}
    {next : α → Change ε σ β}
    (firstIsSure : IsSure first)
    (nextIsSure : ∀ result, IsSure (next result)) :
    IsSure (first >>= next) := by
  intro state
  rcases firstIsSure state with ⟨result, succeeds⟩
  rw [run_bind, Outcome.andThen_of_ok succeeds]
  exact nextIsSure result (first.run state).state

theorem isSure_forM
    {step : α → Change ε σ PUnit}
    (stepIsSure : ∀ item, IsSure (step item))
    (items : List α) :
    IsSure (items.forM step) := by
  induction items with
  | nil => exact isSure_pure PUnit.unit
  | cons item rest inductionHypothesis =>
      exact (stepIsSure item).bind fun _ => inductionHypothesis

theorem IsSure.isAtomic
    {change : Change ε σ α}
    (isSure : IsSure change) :
    IsAtomic change := by
  intro state error fails
  rcases isSure state with ⟨result, succeeds⟩
  rw [succeeds] at fails
  contradiction

/-! ## Atomic changes -/

/-- What only reads may stand in front of an atomic change. -/
theorem IsReading.bind_isAtomic
    {first : Change ε σ α}
    {next : α → Change ε σ β}
    (firstReads : IsReading first)
    (nextIsAtomic : ∀ result, IsAtomic (next result)) :
    IsAtomic (first >>= next) := by
  intro state error fails
  rw [run_bind] at fails ⊢
  cases outcome : (first.run state).result with
  | ok result =>
      rw [Outcome.andThen_of_ok outcome, firstReads state] at fails ⊢
      exact nextIsAtomic result state error fails
  | error _ =>
      rw [Outcome.andThen_of_error outcome]
      exact firstReads state

/-- What never fails may stand behind an atomic change. -/
theorem IsAtomic.bind_isSure
    {first : Change ε σ α}
    {next : α → Change ε σ β}
    (firstIsAtomic : IsAtomic first)
    (nextIsSure : ∀ result, IsSure (next result)) :
    IsAtomic (first >>= next) := by
  intro state error fails
  rw [run_bind] at fails ⊢
  cases outcome : (first.run state).result with
  | ok result =>
      rcases nextIsSure result (first.run state).state with ⟨_, succeeds⟩
      rw [Outcome.andThen_of_ok outcome, succeeds] at fails
      contradiction
  | error firstError =>
      rw [Outcome.andThen_of_error outcome]
      exact firstIsAtomic state firstError outcome

theorem IsAtomic.mapError
    {change : Change ε σ α}
    (isAtomic : IsAtomic change)
    (embed : ε → ε') :
    IsAtomic (change.mapError embed) := by
  intro state error fails
  cases outcome : (change.run state).result with
  | ok result =>
      have succeeds : ((change.mapError embed).run state).result = .ok result := by
        change (change.run state).result.mapError embed = .ok result
        rw [outcome]
        rfl
      rw [succeeds] at fails
      contradiction
  | error inner => exact isAtomic state inner outcome

end Manifest.Change
