import Mathlib.Data.List.Forall2

/-!
# Results and errors

When a computation that may stop with an error succeeds, its steps do.  These
are the inversions of the combinators from which the operations are built, and
the invariants of a fold and of a row of results.
-/

namespace Manifest.Result

variable {ε ε' α β γ : Type}

theorem bind_eq_ok
    {first : Except ε α}
    {next : α → Except ε β}
    {result : β} :
    (first >>= next) = .ok result ↔
      ∃ middle, first = .ok middle ∧ next middle = .ok result := by
  cases first with
  | ok middle =>
      constructor
      · intro succeeds
        exact ⟨middle, rfl, succeeds⟩
      · rintro ⟨_, same, succeeds⟩
        cases same
        exact succeeds
  | error error =>
      constructor
      · intro succeeds
        cases succeeds
      · rintro ⟨_, same, _⟩
        cases same

theorem map_eq_ok
    {computed : Except ε α}
    {change : α → β}
    {result : β} :
    computed.map change = .ok result ↔
      ∃ found, computed = .ok found ∧ change found = result := by
  cases computed with
  | ok found => simp [Except.map]
  | error error => simp [Except.map]

theorem map_eq_error
    {computed : Except ε α}
    {change : α → β}
    {error : ε} :
    computed.map change = .error error ↔ computed = .error error := by
  cases computed with
  | ok found => simp [Except.map]
  | error error => simp [Except.map]

@[simp]
theorem mapError_ok
    (found : α)
    (embed : ε → ε') :
    (Except.ok found : Except ε α).mapError embed = .ok found :=
  rfl

@[simp]
theorem mapError_error
    (error : ε)
    (embed : ε → ε') :
    (Except.error error : Except ε α).mapError embed = .error (embed error) :=
  rfl

theorem mapError_eq_ok
    {computed : Except ε α}
    {embed : ε → ε'}
    {result : α} :
    computed.mapError embed = .ok result ↔ computed = .ok result := by
  cases computed with
  | ok found => simp
  | error error => simp

/-- What each step of a fold keeps holds at its end. -/
theorem foldlM_invariant
    (holds : β → Prop)
    {step : β → α → Except ε β}
    {items : List α}
    (kept :
      ∀ item ∈ items, ∀ result next,
        holds result → step result item = .ok next → holds next) :
    ∀ start final, holds start → items.foldlM step start = .ok final → holds final := by
  induction items with
  | nil =>
      intro start final holdsStart succeeds
      cases succeeds
      exact holdsStart
  | cons item rest inductionHypothesis =>
      intro start final holdsStart succeeds
      rw [List.foldlM_cons, bind_eq_ok] at succeeds
      rcases succeeds with ⟨middle, stepSucceeds, restSucceeds⟩
      have holdsMiddle : holds middle :=
        kept item List.mem_cons_self start middle holdsStart stepSucceeds
      have restKept :
          ∀ other ∈ rest, ∀ result next,
            holds result → step result other = .ok next → holds next := by
        intro other member
        exact kept other (List.mem_cons_of_mem item member)
      exact inductionHypothesis restKept middle final holdsMiddle restSucceeds

/-- Each result of a row comes from an item of it. -/
theorem exists_of_mem_mapM
    {compute : α → Except ε β}
    {items : List α} :
    ∀ {results : List β},
      items.mapM compute = .ok results →
      ∀ result ∈ results, ∃ item ∈ items, compute item = .ok result := by
  induction items with
  | nil =>
      intro results succeeds result member
      cases succeeds
      contradiction
  | cons item rest inductionHypothesis =>
      intro results succeeds result member
      rw [List.mapM_cons, bind_eq_ok] at succeeds
      rcases succeeds with ⟨first, firstSucceeds, succeeds⟩
      rw [bind_eq_ok] at succeeds
      rcases succeeds with ⟨others, othersSucceed, same⟩
      cases same
      rcases List.mem_cons.1 member with rfl | inOthers
      · exact ⟨item, List.mem_cons_self, firstSucceeds⟩
      · rcases inductionHypothesis othersSucceed result inOthers with
          ⟨source, sourceMember, computes⟩
        exact ⟨source, List.mem_cons_of_mem item sourceMember, computes⟩

theorem length_of_mapM
    {compute : α → Except ε β}
    {items : List α} :
    ∀ {results : List β},
      items.mapM compute = .ok results → results.length = items.length := by
  induction items with
  | nil =>
      intro results succeeds
      cases succeeds
      rfl
  | cons item rest inductionHypothesis =>
      intro results succeeds
      simp only [List.mapM_cons, bind_eq_ok] at succeeds
      rcases succeeds with ⟨first, _, others, othersSucceed, same⟩
      cases same
      rw [List.length_cons, List.length_cons, inductionHypothesis othersSucceed]

/-- Rows whose computations agree on each item agree. -/
theorem mapM_congr
    {compute other : α → Except ε β}
    {items : List α}
    (agree : ∀ item ∈ items, compute item = other item) :
    items.mapM compute = items.mapM other := by
  induction items with
  | nil => rfl
  | cons item rest inductionHypothesis =>
      rw [List.mapM_cons, List.mapM_cons, agree item List.mem_cons_self,
        inductionHypothesis fun next member => agree next (List.mem_cons_of_mem item member)]

/-- A row succeeds if one of its computations and those on both sides of it do. -/
theorem mapM_append_cons_eq_ok
    {compute : α → Except ε β}
    {before after : List α}
    {item : α}
    {results : List β} :
    (before ++ item :: after).mapM compute = .ok results ↔
      ∃ firsts result lasts,
        before.mapM compute = .ok firsts ∧
          compute item = .ok result ∧
            after.mapM compute = .ok lasts ∧ firsts ++ result :: lasts = results := by
  simp only [List.mapM_append, List.mapM_cons, bind_eq_ok]
  constructor
  · rintro ⟨firsts, firstsSucceed, _, ⟨result, succeeds, lasts, lastsSucceed, same⟩, whole⟩
    cases same
    cases whole
    exact ⟨firsts, result, lasts, firstsSucceed, succeeds, lastsSucceed, rfl⟩
  · rintro ⟨firsts, result, lasts, firstsSucceed, succeeds, lastsSucceed, rfl⟩
    exact ⟨firsts, firstsSucceed, _, ⟨result, succeeds, lasts, lastsSucceed, rfl⟩, rfl⟩

/-- A row of computations that all succeed succeeds, with a result for each of them. -/
theorem mapM_of_forall
    {compute : α → Except ε β}
    {source : γ → α}
    {relates : γ → β → Prop}
    {items : List γ}
    (computes :
      ∀ item ∈ items, ∃ result, compute (source item) = .ok result ∧ relates item result) :
    ∃ results,
      (items.map source).mapM compute = .ok results ∧ List.Forall₂ relates items results := by
  induction items with
  | nil => exact ⟨[], rfl, .nil⟩
  | cons item rest inductionHypothesis =>
      rcases computes item List.mem_cons_self with ⟨first, computesFirst, relatesFirst⟩
      rcases
          inductionHypothesis fun other member =>
            computes other (List.mem_cons_of_mem item member) with
        ⟨others, computesOthers, relateOthers⟩
      refine ⟨first :: others, ?_, .cons relatesFirst relateOthers⟩
      rw [List.map_cons, List.mapM_cons, computesFirst, computesOthers]
      rfl

/-- A row of computations that each give a known result gives all of them. -/
theorem mapM_map_eq_ok
    {compute : α → Except ε β}
    {source : β → α}
    {results : List β}
    (computes : ∀ result ∈ results, compute (source result) = .ok result) :
    (results.map source).mapM compute = .ok results := by
  have eachComputes :
      ∀ result ∈ results, ∃ found, compute (source result) = .ok found ∧ result = found := by
    intro result member
    exact ⟨result, computes result member, rfl⟩
  rcases mapM_of_forall eachComputes with ⟨found, succeeds, same⟩
  rw [List.forall₂_eq_eq_eq] at same
  rw [← same] at succeeds
  exact succeeds

/-! ## Rows of optional results -/

section

variable {compute : α → Except ε (Option β)}

theorem filterMapM_cons_eq_ok
    {item : α}
    {rest : List α}
    {results : List β} :
    (item :: rest).filterMapM compute = .ok results ↔
      ∃ first others,
        compute item = .ok first ∧
          rest.filterMapM compute = .ok others ∧ first.toList ++ others = results := by
  rw [List.filterMapM_cons, bind_eq_ok]
  constructor
  · rintro ⟨first, computes, succeeds⟩
    cases first with
    | none => exact ⟨none, results, computes, succeeds, rfl⟩
    | some found =>
        rcases bind_eq_ok.1 succeeds with ⟨others, othersSucceed, same⟩
        cases same
        exact ⟨some found, others, computes, othersSucceed, rfl⟩
  · rintro ⟨first, others, computes, othersSucceed, rfl⟩
    refine ⟨first, computes, ?_⟩
    cases first with
    | none => exact othersSucceed
    | some found => exact bind_eq_ok.2 ⟨others, othersSucceed, rfl⟩

theorem filterMapM_append_eq_ok
    {front back : List α} :
    ∀ {results : List β},
      (front ++ back).filterMapM compute = .ok results ↔
        ∃ firsts lasts,
          front.filterMapM compute = .ok firsts ∧
            back.filterMapM compute = .ok lasts ∧ firsts ++ lasts = results := by
  induction front with
  | nil =>
      intro results
      constructor
      · intro succeeds
        exact ⟨[], results, rfl, succeeds, rfl⟩
      · rintro ⟨_, lasts, isNil, succeeds, rfl⟩
        cases isNil
        exact succeeds
  | cons item front inductionHypothesis =>
      intro results
      simp only [List.cons_append, filterMapM_cons_eq_ok, inductionHypothesis]
      constructor
      · rintro ⟨first, _, computes, ⟨firsts, lasts, succeeds, lastsSucceed, rfl⟩, rfl⟩
        exact ⟨_, lasts, ⟨first, firsts, computes, succeeds, rfl⟩, lastsSucceed, by simp⟩
      · rintro ⟨_, lasts, ⟨first, firsts, computes, succeeds, rfl⟩, lastsSucceed, rfl⟩
        exact ⟨first, _, computes, ⟨firsts, lasts, succeeds, lastsSucceed, rfl⟩, by simp⟩

theorem filterMapM_congr
    {other : α → Except ε (Option β)}
    {items : List α}
    (agree : ∀ item ∈ items, compute item = other item) :
    items.filterMapM compute = items.filterMapM other := by
  induction items with
  | nil => rfl
  | cons item rest inductionHypothesis =>
      rw [List.filterMapM_cons, List.filterMapM_cons, agree item List.mem_cons_self,
        inductionHypothesis fun next member => agree next (List.mem_cons_of_mem item member)]

/-- Items that are all given back are the results. -/
theorem filterMapM_of_some
    {compute : α → Except ε (Option α)}
    {items : List α}
    (gives : ∀ item ∈ items, compute item = .ok (some item)) :
    items.filterMapM compute = .ok items := by
  induction items with
  | nil => rfl
  | cons item rest inductionHypothesis =>
      rcases List.forall_mem_cons.1 gives with ⟨givesItem, givesRest⟩
      exact filterMapM_cons_eq_ok.2
        ⟨some item, rest, givesItem, inductionHypothesis givesRest, rfl⟩

end

end Manifest.Result
