import Manifest.Proofs.Collection.Following

/-!
# Batches in parts

A batch is absorbed as if its resources came one after the other: absorbing two
batches in turn gives what absorbing both at once gives, and fails where that
fails.  Each resource of a batch meets a position, or none, of the collection as
the ones before it have left it.  A position that is never met keeps its
resource, and the collection grows by the resources that meet none.
-/

namespace Manifest

namespace Collection

/-- The positions that the resources of a batch meet, each of them in its turn. -/
def meetings (resources : List Resource) :
    List Resource → Except CollectionError (List (Option Nat))
  | [] => .ok []
  | incoming :: rest => do
      let met ← meeting resources incoming.currentId
      let next ← absorbMet resources incoming met
      let others ← meetings next rest
      return met :: others

/-- A batch that is absorbed changes what it meets, and adds what meets nothing. -/
theorem meetings_of_absorbs
    {batch : List Resource} :
    ∀ {resources final : List Resource},
      batch.foldlM absorbOne resources = .ok final →
      ∃ met,
        meetings resources batch = .ok met ∧
        (∀ place < resources.length, some place ∉ met → final[place]? = resources[place]?) ∧
        final.length = resources.length + met.count none := by
  induction batch with
  | nil =>
      intro resources final absorbs
      cases absorbs
      exact ⟨[], rfl, fun _ _ _ => rfl, rfl⟩
  | cons incoming rest inductionHypothesis =>
      intro resources final absorbs
      rw [List.foldlM_cons, Result.bind_eq_ok] at absorbs
      rcases absorbs with ⟨next, absorbsFirst, absorbsRest⟩
      rcases absorbOne_eq_ok.1 absorbsFirst with ⟨met, meets, absorbsMet⟩
      rcases inductionHypothesis absorbsRest with ⟨others, meetsOthers, sameElsewhere, length⟩
      have nextLength := length_absorbMet absorbsMet
      refine ⟨met :: others, ?_, ?_, ?_⟩
      · simp only [meetings, Result.bind_eq_ok]
        exact ⟨met, meets, next, absorbsMet, others, meetsOthers, rfl⟩
      · intro place inside notMet
        rw [List.mem_cons, not_or] at notMet
        rw [sameElsewhere place (by omega) notMet.2]
        exact getElem?_absorbMet absorbsMet inside (Ne.symm notMet.1)
      · rw [length, nextLength, Nat.add_assoc, ← List.count_append, List.singleton_append]

end Collection

namespace Shared

/-- What absorbing a batch makes of a shared collection, if it succeeds. -/
def absorbed (shared : Shared) (batch : List Resource) : Except CollectionError Shared :=
  ((absorbAll { resources := batch }).run shared).final

section

variable
  {shared : Shared}
  (isValid : shared.Valid)

include isValid

/-- The handles show what absorbing the batch makes of the collection. -/
theorem view_absorbed (batch : List Resource) :
    (shared.absorbed batch).map view =
      (batch.foldlM Collection.absorbOne shared.view.resources).map Collection.mk :=
  (absorbAll_follows { resources := batch }).final isValid

theorem valid_absorbed
    {batch : List Resource}
    {next : Shared}
    (absorbs : shared.absorbed batch = .ok next) :
    next.Valid := by
  rcases Result.map_eq_ok.1 absorbs with ⟨_, _, same⟩
  rw [← same]
  exact (absorbAll_follows { resources := batch } shared isValid).1

/-- A batch that is absorbed through handles is absorbed into the list that they show. -/
theorem absorbs_of_absorbed
    {batch : List Resource}
    {next : Shared}
    (absorbs : shared.absorbed batch = .ok next) :
    batch.foldlM Collection.absorbOne shared.view.resources = .ok next.view.resources := by
  have sameView := view_absorbed isValid batch
  rw [absorbs] at sameView
  rcases Result.map_eq_ok.1 sameView.symm with ⟨resources, absorbsList, same⟩
  rw [absorbsList, ← same]

end

/--
Two batches absorbed at once, or one after the other, end in the same resources
or in the same error.  A position that no resource of a batch meets in its turn
keeps its resource, and the collection grows by those that meet none.
-/
theorem absorbed_append
    {shared : Shared}
    (isValid : shared.Valid)
    (first second : List Resource) :
    ((shared.absorbed (first ++ second)).map view =
      shared.absorbed first >>= fun middle => (middle.absorbed second).map view) ∧
    ∀ batch next,
      shared.absorbed batch = .ok next →
      ∃ met,
        Collection.meetings shared.view.resources batch = .ok met ∧
        (∀ place < shared.view.size, some place ∉ met →
          next.view.resources[place]? = shared.view.resources[place]?) ∧
        next.view.size = shared.view.size + met.count none := by
  constructor
  · have firstView := view_absorbed isValid first
    rw [view_absorbed isValid, List.foldlM_append]
    cases absorbs : shared.absorbed first with
    | error error =>
        rw [absorbs] at firstView
        cases absorbsList : first.foldlM Collection.absorbOne shared.view.resources with
        | error other =>
            rw [absorbsList] at firstView
            cases firstView
            rfl
        | ok middle =>
            rw [absorbsList] at firstView
            cases firstView
    | ok middle =>
        rw [absorbs_of_absorbed isValid absorbs]
        exact (view_absorbed (valid_absorbed isValid absorbs) second).symm
  · intro batch next absorbs
    exact Collection.meetings_of_absorbs (absorbs_of_absorbed isValid absorbs)

/-- Two configuration maps with a size. -/
def webBesideDb : Shared :=
  Pool.allocate {} [.ofEntries "web" [("size", "1")], .ofEntries "db" [("size", "1")]]

/-- A color for the first of two configuration maps, and a third one. -/
def redWebAndCache : List Resource :=
  [.ofEntries "web" [("color", "red")] .merge, .ofName "cache"]

/-- A size for the third configuration map. -/
def sizedCache : List Resource :=
  [.ofEntries "cache" [("size", "2")] .merge]

/--
A batch that merges into a resource and adds another one, and one that is merged
into what the first has added.  What is merged into has the data of both.
-/
theorem absorbed_append_merging :
    webBesideDb.Valid ∧
      ((webBesideDb.absorbed (redWebAndCache ++ sizedCache)).map view =
        webBesideDb.absorbed redWebAndCache >>= fun middle =>
          (middle.absorbed sizedCache).map view) ∧
      (webBesideDb.absorbed (redWebAndCache ++ sizedCache)).map view =
        .ok
          { resources :=
              [.ofEntries "web" [("size", "1"), ("color", "red")],
                .ofEntries "db" [("size", "1")], .ofEntries "cache" [("size", "2")]] } ∧
      ∃ next,
        webBesideDb.absorbed redWebAndCache = .ok next ∧
        Collection.meetings webBesideDb.view.resources redWebAndCache =
          .ok [some 0, none] ∧
        next.view.resources[0]? = some (.ofEntries "web" [("size", "1"), ("color", "red")]) ∧
        next.view.resources[1]? = some (.ofEntries "db" [("size", "1")]) ∧
        next.view.size = 3 := by
  have isValid : webBesideDb.Valid := valid_allocate {} _
  have steps := absorbed_append isValid redWebAndCache sizedCache
  obtain ⟨next, absorbs, merged⟩ :
      ∃ next,
        webBesideDb.absorbed redWebAndCache = .ok next ∧
          next.view.resources[0]? =
            some (.ofEntries "web" [("size", "1"), ("color", "red")]) := by
    exact ⟨_, rfl, rfl⟩
  refine ⟨isValid, steps.1, rfl, next, absorbs, rfl, merged, ?_⟩
  rcases steps.2 _ next absorbs with ⟨met, meets, sameElsewhere, size⟩
  cases meets
  exact ⟨sameElsewhere 1 (by decide) (by decide), size⟩

end Shared

end Manifest
