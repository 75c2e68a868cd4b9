import Manifest.Proofs.Collection.Aliasing
import Manifest.Proofs.Collection.Equality
import Manifest.Proofs.Resource.Stripped

/-!
# Collections without build annotations

The resources of a collection are written back to their places, each without its build annotations.
So the handles stay, and the cells that the collection has no handle of stay as well.  What is
written back the second time is what is there already.
-/

namespace Manifest

namespace Shared

open Change

/-! ## Rows that are written back -/

/-- Resources that find a place each leave the handles and all cells of other collections. -/
theorem run_putFrom_frame
    {count : Nat}
    (resources : List Resource) :
    ∀ (place : Nat) (shared : Shared),
      place + resources.length ≤ count →
        ∃ next,
          (putFrom count place resources).run shared = .done () next ∧
            next.handles = shared.handles ∧
              ∀ cell, cell ∉ shared.handles → next.pool.read? cell = shared.pool.read? cell := by
  induction resources with
  | nil =>
      intro place shared _
      exact ⟨shared, rfl, rfl, fun _ _ => rfl⟩
  | cons resource rest inductionHypothesis =>
      intro place shared inside
      rw [List.length_cons] at inside
      rcases run_putIf_frame true place resource shared with
        ⟨middle, runsFirst, sameHandles, -, elsewhere⟩
      rcases inductionHypothesis (place + 1) middle (by omega) with
        ⟨next, runsRest, sameHandlesRest, elsewhereRest⟩
      have putsFirst : (putOrAdd count place resource).run shared = .done () middle := by
        rw [putOrAdd, if_pos (by omega)]
        exact runsFirst
      refine ⟨next, ?_, sameHandlesRest.trans sameHandles, ?_⟩
      · rw [putFrom, run_bind, putsFirst, Outcome.andThen_done, runsRest]
      · intro cell isOther
        rw [elsewhereRest cell (sameHandles ▸ isOther), elsewhere cell isOther]

/-- To put what is there changes nothing. -/
theorem run_put_self
    {shared : Shared}
    (isValid : shared.Valid)
    {place : Nat}
    {resource : Resource}
    (there : shared.view.resources[place]? = some resource) :
    (put place resource).run shared = .done () shared := by
  rw [view, Pool.getElem?_view isValid.inRange] at there
  rcases Option.bind_eq_some_iff.1 there with ⟨handle, atPlace, inCell⟩
  rcases List.getElem?_eq_some_iff.1 inCell with ⟨inRange, isResource⟩
  have sameCells : shared.pool.write handle resource = shared.pool := by
    rw [Pool.write, ← isResource, List.set_getElem_self]
  rw [put, run_writing, atPlace]
  dsimp only
  rw [sameCells]

/-- To put a row of what is there changes nothing. -/
theorem run_putFrom_self
    {count : Nat}
    {shared : Shared}
    (isValid : shared.Valid)
    (resources : List Resource) :
    ∀ place,
      place + resources.length ≤ count →
        resources <+: shared.view.resources.drop place →
          (putFrom count place resources).run shared = .done () shared := by
  induction resources with
  | nil =>
      intro place _ _
      rfl
  | cons resource rest inductionHypothesis =>
      intro place inside there
      rw [List.length_cons] at inside
      have first : shared.view.resources[place]? = some resource := by
        have atFirst := List.prefix_iff_getElem?.1 there 0 (Nat.zero_lt_succ _)
        rw [List.getElem?_drop] at atFirst
        exact atFirst
      have others : rest <+: shared.view.resources.drop (place + 1) := by
        rcases there with ⟨behind, same⟩
        refine ⟨behind, ?_⟩
        rw [← List.drop_drop, ← same]
        rfl
      have putsFirst : (putOrAdd count place resource).run shared = .done () shared := by
        rw [putOrAdd, if_pos (by omega)]
        exact run_put_self isValid first
      rw [putFrom, run_bind, putsFirst, Outcome.andThen_done]
      exact inductionHypothesis (place + 1) (by omega) others

/-! ## Build annotations -/

/-- Each resource of a collection was stripped in its place, and nothing else happened. -/
structure IsStripped (before after : Shared) : Prop where
  handles : after.handles = before.handles
  resources : List.Forall₂ Resource.IsStripped before.view.resources after.view.resources
  /-- The cells of other collections are as they were. -/
  elsewhere :
    ∀ cell, cell ∉ before.handles → after.pool.read? cell = before.pool.read? cell

theorem run_stripAnnotations (shared : Shared) :
    stripAnnotations.run shared =
      (putFrom shared.view.resources.length 0 shared.view.stripAnnotations.resources).run shared :=
  rfl

/-- A collection without build annotations has nothing to be stripped of. -/
theorem run_stripAnnotations_of_isUnnoted
    {shared : Shared}
    (isValid : shared.Valid)
    (unnoted : ∀ resource ∈ shared.view.resources, resource.node.IsUnnoted) :
    stripAnnotations.run shared = .done () shared := by
  have same : shared.view.stripAnnotations.resources = shared.view.resources := by
    rw [Collection.stripAnnotations]
    refine Eq.trans (List.map_congr_left ?_) (List.map_id _)
    intro resource member
    exact Resource.removeBuildAnnotations_of_isUnnoted (unnoted resource member)
  rw [run_stripAnnotations, same]
  apply run_putFrom_self isValid
  · rw [Nat.zero_add]
  · exact List.prefix_rfl

/--
Stripping a collection takes the build annotations out of each resource whose metadata can be
read, and changes nothing else; a second time it changes nothing at all.
-/
theorem stripAnnotations_isStripped
    {shared : Shared}
    (isValid : shared.Valid)
    (wellFormed : shared.view.IsWellFormed) :
    ∃ next,
      stripAnnotations.run shared = .done () next ∧
        shared.IsStripped next ∧ stripAnnotations.run next = .done () next := by
  have sameLength :
      shared.view.stripAnnotations.resources.length = shared.view.resources.length := by
    rw [Collection.stripAnnotations, List.length_map]
  rcases run_putFrom_all isValid (Nat.le_of_eq sameLength.symm) with
    ⟨next, runs, nextIsValid, nextView⟩
  rcases
      run_putFrom_frame shared.view.stripAnnotations.resources 0 shared
        (Nat.le_of_eq ((Nat.zero_add _).trans sameLength)) with
    ⟨_, runsFrame, sameHandles, elsewhere⟩
  cases runsFrame.symm.trans runs
  have eachStripped :
      ∀ resource ∈ shared.view.resources,
        resource.IsStripped resource.removeBuildAnnotations.state :=
    fun resource member => Resource.isStripped_removeBuildAnnotations (wellFormed resource member)
  have stripped :
      List.Forall₂ Resource.IsStripped shared.view.resources next.view.resources := by
    rw [nextView, Collection.stripAnnotations, List.forall₂_map_right_iff, List.forall₂_same]
    exact eachStripped
  refine ⟨next, runs, ⟨sameHandles, stripped, elsewhere⟩, ?_⟩
  apply run_stripAnnotations_of_isUnnoted nextIsValid
  intro resource member
  rw [nextView] at member
  rcases List.mem_map.1 member with ⟨before, isBefore, rfl⟩
  exact (eachStripped before isBefore).isUnnoted

/-- A resource with a build annotation stands behind one without metadata; a third one is apart. -/
def notedAmongOthers : Shared where
  pool :=
    { cells :=
        [{ node :=
            .mapping
              [("kind", .ofText "Disk"),
                ("metadata", .mapping
                  [("name", .ofText "a"),
                    ("annotations", .mapping
                      [(BuildNote.namePrefixes, .ofText "x"), ("owner", .ofText "y")])])]
           initialId := { gvk := .ofKind "Disk", name := "a" }
           currentId := { gvk := .ofKind "Disk", name := "a" } },
          { node := .ofText "none"
            initialId := { gvk := .ofKind "Disk", name := "b" }
            currentId := { gvk := .ofKind "Disk", name := "b" } },
          { node := .mapping [("kind", .ofText "Disk")]
            initialId := { gvk := .ofKind "Disk", name := "" }
            currentId := { gvk := .ofKind "Disk", name := "" } }] }
  handles := [1, 0]

/-- The resource with a build annotation is stripped, and the others are not disturbed. -/
theorem notedAmongOthers_isStripped :
    notedAmongOthers.Valid ∧ notedAmongOthers.view.IsWellFormed ∧
      ∃ next,
        stripAnnotations.run notedAmongOthers = .done () next ∧
          notedAmongOthers.IsStripped next ∧ stripAnnotations.run next = .done () next := by
  have isValid : notedAmongOthers.Valid := ⟨by decide, by decide⟩
  have wellFormed : notedAmongOthers.view.IsWellFormed := by
    have resources :
        notedAmongOthers.view.resources =
          [notedAmongOthers.pool.cells[1], notedAmongOthers.pool.cells[0]] := rfl
    rw [Collection.IsWellFormed, resources, List.forall_mem_cons, List.forall_mem_singleton]
    refine ⟨.scalar _, ?_⟩
    simp [notedAmongOthers, Fields.names, BuildNote.namePrefixes]
  exact ⟨isValid, wellFormed, stripAnnotations_isStripped isValid wellFormed⟩

end Shared

end Manifest
