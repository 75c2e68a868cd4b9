/-!
# Outcomes of changes

A change of a document, a resource or a collection may stop with an error.  Its
outcome holds the result and the state in which it left the changed thing, also
when it failed: what a failing change leaves behind is part of its behaviour.

A change takes each state of the thing to an outcome.  Changes follow one
another; where one stops, the effects of those before it stay.
-/

namespace Manifest

/-- The result of a change together with the state it left behind. -/
structure Outcome (ε σ α : Type) where
  result : Except ε α
  state : σ

namespace Outcome

variable {ε ε' σ τ α β : Type}

/-- A change that succeeds. -/
def done (result : α) (state : σ) : Outcome ε σ α :=
  ⟨.ok result, state⟩

/-- A change that stops. -/
def failed (error : ε) (state : σ) : Outcome ε σ α :=
  ⟨.error error, state⟩

/-- The outcome seen from a thing that contains the changed one. -/
def mapState (embed : σ → τ) (outcome : Outcome ε σ α) : Outcome ε τ α :=
  ⟨outcome.result, embed outcome.state⟩

/-- The outcome with its error in a larger type of errors. -/
def mapError (embed : ε → ε') (outcome : Outcome ε σ α) : Outcome ε' σ α :=
  ⟨outcome.result.mapError embed, outcome.state⟩

/-- One change after another; the second does not run after a failure. -/
def andThen (outcome : Outcome ε σ α) (next : α → σ → Outcome ε σ β) : Outcome ε σ β :=
  match outcome.result with
  | .ok result => next result outcome.state
  | .error error => failed error outcome.state

/-- A change that reads something first, and stops at once when it cannot be read. -/
def reading (read : Except ε α) (state : σ) (next : α → Outcome ε σ β) : Outcome ε σ β :=
  match read with
  | .ok found => next found
  | .error error => failed error state

/-- The changed thing, if the change succeeded. -/
def final (outcome : Outcome ε σ α) : Except ε σ :=
  outcome.result.map fun _ => outcome.state

/-- Whether the change succeeded. -/
def succeeded (outcome : Outcome ε σ α) : Bool :=
  match outcome.result with
  | .ok _ => true
  | .error _ => false

@[simp]
theorem result_mapState (embed : σ → τ) (outcome : Outcome ε σ α) :
    (outcome.mapState embed).result = outcome.result :=
  rfl

@[simp]
theorem state_mapState (embed : σ → τ) (outcome : Outcome ε σ α) :
    (outcome.mapState embed).state = embed outcome.state :=
  rfl

@[simp]
theorem andThen_done (result : α) (state : σ) (next : α → σ → Outcome ε σ β) :
    (done result state).andThen next = next result state :=
  rfl

@[simp]
theorem andThen_failed (error : ε) (state : σ) (next : α → σ → Outcome ε σ β) :
    (failed error state).andThen next = failed error state :=
  rfl

theorem eq_done
    {outcome : Outcome ε σ α}
    {result : α}
    (succeeds : outcome.result = .ok result) :
    outcome = done result outcome.state := by
  rw [done, ← succeeds]

@[simp]
theorem reading_ok (found : α) (state : σ) (next : α → Outcome ε σ β) :
    reading (.ok found) state next = next found :=
  rfl

@[simp]
theorem reading_error (error : ε) (state : σ) (next : α → Outcome ε σ β) :
    reading (.error error) state next = failed error state :=
  rfl

theorem andThen_of_ok
    {outcome : Outcome ε σ α}
    {result : α}
    (succeeds : outcome.result = .ok result)
    (next : α → σ → Outcome ε σ β) :
    outcome.andThen next = next result outcome.state := by
  rw [andThen, succeeds]

theorem andThen_of_error
    {outcome : Outcome ε σ α}
    {error : ε}
    (fails : outcome.result = .error error)
    (next : α → σ → Outcome ε σ β) :
    outcome.andThen next = failed error outcome.state := by
  rw [andThen, fails]

end Outcome

/-- What is done to a thing, from each of its states. -/
structure Change (ε σ α : Type) where
  run : σ → Outcome ε σ α

namespace Change

variable {ε ε' σ α β : Type}

instance : Monad (Change ε σ) where
  pure result := ⟨fun state => .done result state⟩
  bind first next := ⟨fun state => (first.run state).andThen fun result => (next result).run⟩

/-- Reads something off the thing, or stops where that cannot be read. -/
def reading (read : σ → Except ε α) : Change ε σ α :=
  ⟨fun state => ⟨read state, state⟩⟩

/-- Goes on with a result that was computed beside the thing, or stops with its error. -/
def lift (result : Except ε α) : Change ε σ α :=
  reading fun _ => result

/-- Writes into the thing. -/
def writing (write : σ → σ) : Change ε σ Unit :=
  ⟨fun state => .done () (write state)⟩

/-- The change with its error in a larger type of errors. -/
def mapError (embed : ε → ε') (change : Change ε σ α) : Change ε' σ α :=
  ⟨fun state => (change.run state).mapError embed⟩

@[ext]
theorem ext
    {left right : Change ε σ α}
    (sameRun : ∀ state, left.run state = right.run state) :
    left = right := by
  cases left
  cases right
  exact congrArg Change.mk (funext sameRun)

@[simp]
theorem run_pure (result : α) (state : σ) :
    (pure result : Change ε σ α).run state = .done result state :=
  rfl

@[simp]
theorem run_bind (first : Change ε σ α) (next : α → Change ε σ β) (state : σ) :
    (first >>= next).run state =
      (first.run state).andThen fun result => (next result).run :=
  rfl

@[simp]
theorem run_reading (read : σ → Except ε α) (state : σ) :
    (reading read).run state = ⟨read state, state⟩ :=
  rfl

@[simp]
theorem run_writing (write : σ → σ) (state : σ) :
    (writing write : Change ε σ Unit).run state = .done () (write state) :=
  rfl

@[simp]
theorem run_mapError (embed : ε → ε') (change : Change ε σ α) (state : σ) :
    (change.mapError embed).run state = (change.run state).mapError embed :=
  rfl

end Change

end Manifest
