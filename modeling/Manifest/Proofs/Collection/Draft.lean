import Manifest.Proofs.Collection.Position

/-!
# Drafts of a batch

A batch is absorbed into a draft, which holds the resources as the batch has left
them so far and marks those of the first ones that it has changed.  The resources
of a draft are what absorbing without marks makes of them.  Where there is no
mark, the draft has what was there before the batch: an incoming resource changes
nothing but the position that it meets, and one that meets none goes last.
-/

namespace Manifest.Collection

/-! ## What one incoming resource leaves alone -/

theorem absorbAt_eq_ok
    {resources result : List Resource}
    {place : Nat}
    {incoming : Resource}
    (succeeds : absorbAt resources place incoming = .ok result) :
    ∃ written, result = resources.set place written := by
  rw [absorbAt] at succeeds
  split at succeeds
  · rw [Result.map_eq_ok] at succeeds
    rcases succeeds with ⟨merged, _, same⟩
    exact ⟨merged, same.symm⟩
  · split at succeeds
    · cases succeeds
    · cases succeeds
      exact ⟨incoming, rfl⟩
  · cases succeeds

/-- The list grows by the incoming resource exactly if it meets none. -/
theorem length_absorbMet
    {resources result : List Resource}
    {incoming : Resource}
    {met : Option Nat}
    (succeeds : absorbMet resources incoming met = .ok result) :
    result.length = resources.length + [met].count none := by
  cases met with
  | some place =>
      rcases absorbAt_eq_ok succeeds with ⟨written, rfl⟩
      simp
  | none =>
      rw [absorbMet] at succeeds
      split at succeeds
      · cases succeeds
      · cases succeeds
        simp

/-- Every position but the one that is met has what it had. -/
theorem getElem?_absorbMet
    {resources result : List Resource}
    {incoming : Resource}
    {met : Option Nat}
    (succeeds : absorbMet resources incoming met = .ok result)
    {place : Nat}
    (inside : place < resources.length)
    (notMet : met ≠ some place) :
    result[place]? = resources[place]? := by
  cases met with
  | some other =>
      rcases absorbAt_eq_ok succeeds with ⟨written, rfl⟩
      exact List.getElem?_set_ne fun same => notMet (congrArg some same)
  | none =>
      rw [absorbMet] at succeeds
      split at succeeds
      · cases succeeds
      · cases succeeds
        exact List.getElem?_append_left inside

theorem absorbOne_eq_ok
    {resources result : List Resource}
    {incoming : Resource} :
    absorbOne resources incoming = .ok result ↔
      ∃ met,
        meeting resources incoming.currentId = .ok met ∧
          absorbMet resources incoming met = .ok result := by
  rw [absorbOne, Result.bind_eq_ok]

namespace Draft

/-! ## Drafts and lists -/

/-- The resources of a draft are what absorbing makes of them without marks. -/
theorem resources_absorb
    (draft : Draft)
    (incoming : Resource) :
    (draft.absorb incoming).map resources = absorbOne draft.resources incoming := by
  rw [absorb, absorbOne]
  cases meeting draft.resources incoming.currentId with
  | error error => rfl
  | ok met =>
      change
        (absorbMet draft.resources incoming met >>= fun result =>
          Except.ok { resources := result, changed := mark draft.changed met }).map resources =
        absorbMet draft.resources incoming met
      cases absorbMet draft.resources incoming met <;> rfl

theorem resources_foldlM (batch : List Resource) :
    ∀ draft : Draft,
      (batch.foldlM absorb draft).map resources = batch.foldlM absorbOne draft.resources := by
  induction batch with
  | nil =>
      intro draft
      rfl
  | cons incoming rest inductionHypothesis =>
      intro draft
      rw [List.foldlM_cons, List.foldlM_cons, ← resources_absorb]
      cases draft.absorb incoming with
      | error error => rfl
      | ok next => exact inductionHypothesis next

/-! ## Marks -/

/-- The draft has the resources that were there at first, except where it has a mark. -/
structure Extends (draft : Draft) (first : List Resource) : Prop where
  oneMarkEach : draft.changed.length = first.length
  longEnough : first.length ≤ draft.resources.length
  unchanged :
    ∀ place : Nat, draft.changed[place]? = some false → draft.resources[place]? = first[place]?

theorem extends_ofResources (resources : List Resource) :
    (ofResources resources).Extends resources where
  oneMarkEach := List.length_replicate
  longEnough := Nat.le_refl _
  unchanged := fun _ _ => rfl

theorem length_mark
    (changed : List Bool)
    (met : Option Nat) :
    (mark changed met).length = changed.length := by
  cases met with
  | none => rfl
  | some place => exact List.length_set

/-- What has no mark afterwards had none before, and is not met. -/
theorem of_unmarked
    {changed : List Bool}
    {met : Option Nat}
    {place : Nat}
    (unmarked : (mark changed met)[place]? = some false) :
    changed[place]? = some false ∧ met ≠ some place := by
  cases met with
  | none => exact ⟨unmarked, nofun⟩
  | some other =>
      rw [mark, List.getElem?_set] at unmarked
      split at unmarked
      · split at unmarked <;> cases unmarked
      · rename_i different
        exact ⟨unmarked, fun same => different (Option.some.inj same)⟩

theorem Extends.absorb
    {draft next : Draft}
    {first : List Resource}
    {incoming : Resource}
    (isExtension : draft.Extends first)
    (succeeds : draft.absorb incoming = .ok next) :
    next.Extends first := by
  simp only [Draft.absorb, Result.bind_eq_ok] at succeeds
  rcases succeeds with ⟨met, _, result, absorbs, same⟩
  cases same
  refine ⟨?_, ?_, ?_⟩
  · rw [length_mark, isExtension.oneMarkEach]
  · rw [length_absorbMet absorbs]
    exact Nat.le_add_right_of_le isExtension.longEnough
  · intro place unmarked
    rcases of_unmarked unmarked with ⟨unmarkedBefore, notMet⟩
    have inside : place < draft.resources.length := by
      have marked : place < draft.changed.length := (List.getElem?_eq_some_iff.1 unmarkedBefore).1
      rw [isExtension.oneMarkEach] at marked
      exact Nat.lt_of_lt_of_le marked isExtension.longEnough
    rw [getElem?_absorbMet absorbs inside notMet]
    exact isExtension.unchanged place unmarkedBefore

/-- A whole batch leaves unmarked what it does not change. -/
theorem extends_foldlM
    {batch first : List Resource}
    {draft : Draft}
    (succeeds : batch.foldlM absorb (ofResources first) = .ok draft) :
    draft.Extends first := by
  refine Result.foldlM_invariant (fun draft => draft.Extends first) ?_ _ draft
    (extends_ofResources first) succeeds
  intro incoming _ before after extendsBefore step
  exact extendsBefore.absorb step

end Draft

end Manifest.Collection
