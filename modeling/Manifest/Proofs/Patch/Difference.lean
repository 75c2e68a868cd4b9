import Manifest.Proofs.Node.Lookup
import Manifest.Proofs.Patch.Decoded
import Manifest.Proofs.Path

/-!
# What a comparison finds

What two documents hold at a place differs if only one of them has anything there,
if the contents are compared as wholes and have different values, or if the
documents differ further below: under a name or at a position that is reached from
there.  A comparison finds exactly these differences.

The description treats left and right alike, so that exchanging the documents
exchanges what was removed and what was added.  It also takes the steps of a
look-up, so that every path that is found leads to what the comparison says is
there.
-/

namespace Manifest

namespace Difference

/-- The difference with left and right exchanged. -/
def swap : Difference → Difference
  | removed path => added path
  | modified path => modified path
  | added path => removed path

/-- The differences between what two documents hold at a path. -/
inductive Separates : Path → Option Node → Option Node → Difference → Prop where
  | removed
      {path : Path}
      {left : Node} :
      Separates path (some left) none (.removed path)
  | added
      {path : Path}
      {right : Node} :
      Separates path none (some right) (.added path)
  | inField
      {path : Path}
      {left right : Node}
      {fields others : List (String × Node)}
      {difference : Difference}
      (isLeft : left.content = .mapping fields)
      (isRight : right.content = .mapping others)
      (name : String)
      (below :
        Separates (path.push (.field name)) (Fields.get? name fields) (Fields.get? name others)
          difference) :
      Separates path (some left) (some right) difference
  | inItem
      {path : Path}
      {left right : Node}
      {items others : List Node}
      {difference : Difference}
      (isLeft : left.content = .sequence items)
      (isRight : right.content = .sequence others)
      (position : Nat)
      (below :
        Separates (path.push (.index position)) items[position]? others[position]? difference) :
      Separates path (some left) (some right) difference
  | modified
      {path : Path}
      {left right : Node}
      (apart : Node.Apart left.content right.content)
      (different : left.toValue.same right.toValue = false) :
      Separates path (some left) (some right) (.modified path)

theorem Separates.swap
    {path : Path}
    {left right : Option Node}
    {difference : Difference}
    (separates : Separates path left right difference) :
    Separates path right left difference.swap := by
  induction separates with
  | removed => exact .added
  | added => exact .removed
  | inField isLeft isRight name _ inductionHypothesis =>
      exact .inField isRight isLeft name inductionHypothesis
  | inItem isLeft isRight position _ inductionHypothesis =>
      exact .inItem isRight isLeft position inductionHypothesis
  | modified apart different =>
      exact .modified apart.symm ((Value.same_comm _ _).trans different)

theorem swap_swap (difference : Difference) :
    difference.swap.swap = difference := by
  cases difference <;> rfl

theorem separates_swap
    {path : Path}
    {left right : Option Node}
    {difference : Difference} :
    Separates path right left difference.swap ↔ Separates path left right difference := by
  constructor
  · intro separates
    have twice := separates.swap
    rw [swap_swap] at twice
    exact twice
  · exact Separates.swap

/-- Only the contents count. -/
theorem Separates.of_content
    {path : Path}
    {left : Option Node}
    {right other : Node}
    {difference : Difference}
    (separates : Separates path left (some right) difference)
    (same : right.content = other.content) :
    Separates path left (some other) difference := by
  cases separates with
  | added => exact .added
  | inField isLeft isRight name below => exact .inField isLeft (same ▸ isRight) name below
  | inItem isLeft isRight position below => exact .inItem isLeft (same ▸ isRight) position below
  | modified apart different =>
      refine .modified (same ▸ apart) ?_
      rw [← Node.toValue_content other, ← same, Node.toValue_content]
      exact different

/-- Two contents that are compared as wholes differ at their own path only. -/
theorem separates_of_apart
    {path : Path}
    {left right : Node}
    {difference : Difference}
    (apart : Node.Apart left.content right.content) :
    Separates path (some left) (some right) difference ↔
      left.toValue.same right.toValue = false ∧ difference = .modified path := by
  constructor
  · intro separates
    cases separates with
    | inField isLeft isRight =>
        rw [isLeft, isRight] at apart
        exact absurd ⟨rfl, rfl⟩ apart.notMappings
    | inItem isLeft isRight =>
        rw [isLeft, isRight] at apart
        exact absurd ⟨rfl, rfl⟩ apart.notSequences
    | modified _ different => exact ⟨different, rfl⟩
  · rintro ⟨different, rfl⟩
    exact .modified apart different

/-! ## What is found at one place -/

/-- The differences that are found at a place. -/
def found (path : Path) : Option Node → Option Node → List Difference
  | none, none => []
  | some _, none => [removed path]
  | none, some _ => [added path]
  | some left, some right => between path left.content right

theorem mem_unlessSame
    {path : Path}
    {left right : Node}
    {difference : Difference} :
    difference ∈ unlessSame path left right ↔
      left.same right = false ∧ difference = .modified path := by
  rw [unlessSame]
  cases left.same right <;> simp

theorem mem_removedFields
    {path : Path}
    {left right : List (String × Node)}
    {difference : Difference} :
    difference ∈ removedFields path right left ↔
      ∃ field ∈ left,
        Fields.get? field.1 right = none ∧ difference = removed (path.push (.field field.1)) := by
  induction left with
  | nil => simp [removedFields]
  | cons field rest inductionHypothesis =>
      rcases field with ⟨name, node⟩
      rw [removedFields, Fields.contains]
      cases isRight : Fields.get? name right with
      | none => simp [inductionHypothesis, isRight]
      | some other => simp [inductionHypothesis, isRight]

theorem mem_betweenFields
    {path : Path}
    {left right : List (String × Node)}
    {difference : Difference} :
    difference ∈ betweenFields path left right ↔
      ∃ field ∈ right,
        difference ∈
          found (path.push (.field field.1)) (Fields.get? field.1 left) (some field.2) := by
  induction right with
  | nil => simp [betweenFields]
  | cons field rest inductionHypothesis =>
      rcases field with ⟨name, node⟩
      rw [betweenFields, List.mem_append, inductionHypothesis]
      cases isLeft : Fields.get? name left <;> simp [found, isLeft]

/-- In mappings the differences are found name by name. -/
theorem mem_between_mappings
    {path : Path}
    {fields others : List (String × Node)}
    (distinct : Fields.Distinct others)
    {difference : Difference} :
    difference ∈ between path (.mapping fields) (.mapping others) ↔
      ∃ name,
        difference ∈
          found (path.push (.field name)) (Fields.get? name fields) (Fields.get? name others) := by
  rw [between, List.mem_append, mem_removedFields, mem_betweenFields]
  constructor
  · rintro (⟨field, member, isAbsent, rfl⟩ | ⟨field, member, isFound⟩)
    · refine ⟨field.1, ?_⟩
      rw [isAbsent]
      cases isPresent : Fields.get? field.1 fields with
      | none => exact absurd (List.mem_map_of_mem member) (Fields.get?_eq_none.1 isPresent)
      | some child => exact List.mem_cons_self
    · refine ⟨field.1, ?_⟩
      rw [Fields.get?_of_mem distinct member]
      exact isFound
  · rintro ⟨name, isFound⟩
    cases isRight : Fields.get? name others with
    | some other =>
        rw [isRight] at isFound
        exact Or.inr ⟨(name, other), Fields.mem_of_get? isRight, isFound⟩
    | none =>
        rw [isRight] at isFound
        cases isLeft : Fields.get? name fields with
        | none =>
            rw [isLeft] at isFound
            cases isFound
        | some child =>
            rw [isLeft] at isFound
            exact Or.inl
              ⟨(name, child), Fields.mem_of_get? isLeft, isRight, List.mem_singleton.1 isFound⟩

theorem mem_removedItems
    {path : Path}
    {position : Nat}
    {items : List Node}
    {difference : Difference} :
    difference ∈ removedItems path position items ↔
      ∃ offset,
        difference ∈ found (path.push (.index (position + offset))) items[offset]? none := by
  induction items generalizing position with
  | nil => simp [removedItems, found]
  | cons item rest inductionHypothesis =>
      rw [removedItems, List.mem_cons, inductionHypothesis]
      constructor
      · rintro (isHere | ⟨offset, isThere⟩)
        · exact ⟨0, List.mem_singleton.2 isHere⟩
        · exact ⟨offset + 1, by rwa [Nat.add_assoc, Nat.add_comm 1] at isThere⟩
      · rintro ⟨offset, isFound⟩
        cases offset with
        | zero => exact Or.inl (List.mem_singleton.1 isFound)
        | succ offset =>
            exact Or.inr ⟨offset, by rwa [Nat.add_assoc, Nat.add_comm 1]⟩

/-- In sequences the differences are found position by position. -/
theorem mem_betweenItems
    {path : Path}
    {position : Nat}
    {items others : List Node}
    {difference : Difference} :
    difference ∈ betweenItems path position items others ↔
      ∃ offset,
        difference ∈
          found (path.push (.index (position + offset))) items[offset]? others[offset]? := by
  induction others generalizing position items with
  | nil => simp [betweenItems, mem_removedItems]
  | cons other rest inductionHypothesis =>
      have splits :
          difference ∈ betweenItems path position items (other :: rest) ↔
            difference ∈ found (path.push (.index position)) items[0]? (some other) ∨
              difference ∈ betweenItems path (position + 1) items.tail rest := by
        cases items <;> simp [betweenItems, found]
      rw [splits, inductionHypothesis]
      constructor
      · rintro (isHere | ⟨offset, isThere⟩)
        · exact ⟨0, isHere⟩
        · rw [List.getElem?_tail, Nat.add_assoc, Nat.add_comm 1] at isThere
          exact ⟨offset + 1, isThere⟩
      · rintro ⟨offset, isFound⟩
        cases offset with
        | zero => exact Or.inl isFound
        | succ offset =>
            refine Or.inr ⟨offset, ?_⟩
            rw [List.getElem?_tail, Nat.add_assoc, Nat.add_comm 1]
            exact isFound

/-! ## What is found in whole documents -/

theorem mem_between_of_apart
    {path : Path}
    {left right : Node}
    {difference : Difference}
    (apart : Node.Apart left.content right.content) :
    difference ∈ between path left.content right ↔
      Separates path (some left) (some right) difference := by
  rw [Node.between_of_apart apart, mem_unlessSame, Node.same_content apart,
    separates_of_apart apart]

/-- What is found at a place separates what is there, if that is so for two nodes. -/
theorem mem_found
    {path : Path}
    {left right : Option Node}
    {difference : Difference}
    (decided :
      ∀ node, right = some node → ∀ other,
        (difference ∈ between path other.content node ↔
          Separates path (some other) (some node) difference)) :
    difference ∈ found path left right ↔ Separates path left right difference := by
  cases left with
  | none =>
      cases right with
      | none => exact iff_of_false List.not_mem_nil nofun
      | some node =>
          rw [found, List.mem_singleton]
          exact ⟨fun same => same ▸ .added, fun | .added => rfl⟩
  | some other =>
      cases right with
      | none =>
          rw [found, List.mem_singleton]
          exact ⟨fun same => same ▸ .removed, fun | .removed => rfl⟩
      | some node => exact decided node rfl other

/-- A comparison finds exactly the differences of two documents. -/
theorem mem_between
    {right : Node}
    (rightWellFormed : right.WellFormed) :
    ∀ {path : Path} {left : Node} {difference : Difference},
      difference ∈ between path left.content right ↔
        Separates path (some left) (some right) difference := by
  induction rightWellFormed with
  | document _ inductionHypothesis =>
      intro path left difference
      exact inductionHypothesis.trans ⟨(·.of_content rfl), (·.of_content rfl)⟩
  | reference _ inductionHypothesis =>
      intro path left difference
      exact inductionHypothesis.trans ⟨(·.of_content rfl), (·.of_content rfl)⟩
  | @mapping others distinct contents inductionHypothesis =>
      intro path left difference
      cases isLeft : left.content with
      | mapping fields =>
          rw [mem_between_mappings distinct]
          have decided (name : String) :=
            @mem_found (path.push (.field name)) (Fields.get? name fields) (Fields.get? name others)
              difference fun node isField other =>
                inductionHypothesis (name, node) (Fields.mem_of_get? isField)
          constructor
          · rintro ⟨name, isFound⟩
            exact .inField isLeft rfl name ((decided name).1 isFound)
          · intro separates
            cases separates with
            | inField isMapping isRight name below =>
                cases isLeft.symm.trans isMapping
                cases isRight
                exact ⟨name, (decided name).2 below⟩
            | inItem _ isRight => cases isRight
            | modified apart =>
                rw [isLeft] at apart
                exact absurd ⟨rfl, rfl⟩ apart.notMappings
      | _ =>
          rw [← isLeft]
          exact mem_between_of_apart (by constructor <;> simp [Node.content, Node.kind, isLeft])
  | @sequence others isItems inductionHypothesis =>
      intro path left difference
      cases isLeft : left.content with
      | sequence items =>
          rw [between, mem_betweenItems]
          simp only [Nat.zero_add]
          have decided (position : Nat) :=
            @mem_found (path.push (.index position)) items[position]? others[position]?
              difference fun node isItem other =>
                inductionHypothesis node (List.mem_of_getElem? isItem)
          constructor
          · rintro ⟨position, isFound⟩
            exact .inItem isLeft rfl position ((decided position).1 isFound)
          · intro separates
            cases separates with
            | inItem isSequence isRight position below =>
                cases isLeft.symm.trans isSequence
                cases isRight
                exact ⟨position, (decided position).2 below⟩
            | inField _ isRight => cases isRight
            | modified apart =>
                rw [isLeft] at apart
                exact absurd ⟨rfl, rfl⟩ apart.notSequences
      | _ =>
          rw [← isLeft]
          exact mem_between_of_apart (by constructor <;> simp [Node.content, Node.kind, isLeft])
  | scalar leaf =>
      intro path left difference
      exact mem_between_of_apart (by constructor <;> simp [Node.content, Node.kind])

/-! ## Differences are at the ends of paths -/

/-- What two documents hold at the path of a difference. -/
def Shows (left right : Node) : Difference → Prop
  | removed path => left.Has path ∧ right.Lacks path
  | added path => left.Lacks path ∧ right.Has path
  | modified path =>
      ∃ before after,
        left.lookup path = .ok (some before) ∧
          right.lookup path = .ok (some after) ∧
            before.toValue.same after.toValue = false ∧ Node.Apart before after

/-- Where two look-ups have come, they go on to each difference of what is there. -/
theorem Separates.shows
    {left right : Node}
    {path : Path}
    {before after : Option Node}
    {difference : Difference}
    (separates : Separates path before after difference) :
    left.lookup path = .ok (before.map Node.content) →
      right.lookup path = .ok (after.map Node.content) →
        Shows left right difference := by
  induction separates with
  | removed =>
      intro findsLeft findsRight
      exact ⟨⟨_, findsLeft⟩, findsRight⟩
  | added =>
      intro findsLeft findsRight
      exact ⟨findsLeft, _, findsRight⟩
  | inField isLeft isRight name _ inductionHypothesis =>
      intro findsLeft findsRight
      rw [Option.map_some, isLeft] at findsLeft
      rw [Option.map_some, isRight] at findsRight
      exact inductionHypothesis (Node.lookup_field findsLeft name)
        (Node.lookup_field findsRight name)
  | inItem isLeft isRight position _ inductionHypothesis =>
      intro findsLeft findsRight
      rw [Option.map_some, isLeft] at findsLeft
      rw [Option.map_some, isRight] at findsRight
      exact inductionHypothesis (Node.lookup_index findsLeft position)
        (Node.lookup_index findsRight position)
  | @modified path before after apart different =>
      intro findsLeft findsRight
      refine ⟨_, _, findsLeft, findsRight, ?_, apart⟩
      rw [Node.toValue_content, Node.toValue_content]
      exact different

/-- Every difference that is found shows in the documents. -/
theorem shows_of_mem_between
    {left right : Node}
    (rightWellFormed : right.WellFormed)
    {difference : Difference}
    (member : difference ∈ between [] left.content right) :
    Shows left right difference :=
  ((mem_between rightWellFormed).1 member).shows rfl rfl

end Difference

/-! ## Comparisons of documents -/

namespace Comparison

/-- The comparison with left and right exchanged. -/
def swap (comparison : Comparison) : Comparison where
  removed := comparison.added
  modified := comparison.modified
  added := comparison.removed

/-- A comparison decides whether two documents have the same value, and tells how they differ. -/
structure IsExact (left right : Node) (comparison : Comparison) : Prop where
  /-- It finds nothing exactly if the documents decode to the same value. -/
  decides : comparison.isSame = true ↔ left.toValue.same right.toValue = true
  /-- No path is found twice. -/
  disjoint :
    comparison.removed.Disjoint comparison.modified ∧
      comparison.removed.Disjoint comparison.added ∧
        comparison.modified.Disjoint comparison.added
  /-- The other way round, what was removed is what was added. -/
  swapped : ofNodes right left = comparison.swap
  /-- What was removed is on the left only. -/
  removed : ∀ path ∈ comparison.removed, left.Has path ∧ right.Lacks path
  /-- What was modified is on both sides, with different values. -/
  modified :
    ∀ path ∈ comparison.modified, ∃ before after,
      left.lookup path = .ok (some before) ∧
        right.lookup path = .ok (some after) ∧
          before.toValue.same after.toValue = false ∧ Node.Apart before after
  /-- What was added is on the right only. -/
  added : ∀ path ∈ comparison.added, left.Lacks path ∧ right.Has path

variable
  {path : Path}
  {left right : Node}

/-- The sorted paths of the differences of one sort. -/
theorem mem_sorted_filterMap
    {pathOf? : Difference → Option Path}
    {sort : Path → Difference}
    (ofSort : ∀ difference, pathOf? difference = some path ↔ difference = sort path)
    (differences : List Difference) :
    path ∈ Path.sorted (differences.filterMap pathOf?) ↔ sort path ∈ differences := by
  rw [Path.mem_sorted, List.mem_filterMap]
  constructor
  · rintro ⟨difference, member, isPath⟩
    rw [(ofSort difference).1 isPath] at member
    exact member
  · intro member
    exact ⟨sort path, member, (ofSort (sort path)).2 rfl⟩

theorem mem_removed :
    path ∈ (ofNodes left right).removed ↔
      .removed path ∈ Difference.between [] left.content right :=
  mem_sorted_filterMap (fun difference => by cases difference <;> simp [removedPath?]) _

theorem mem_modified :
    path ∈ (ofNodes left right).modified ↔
      .modified path ∈ Difference.between [] left.content right :=
  mem_sorted_filterMap (fun difference => by cases difference <;> simp [modifiedPath?]) _

theorem mem_added :
    path ∈ (ofNodes left right).added ↔
      .added path ∈ Difference.between [] left.content right :=
  mem_sorted_filterMap (fun difference => by cases difference <;> simp [addedPath?]) _

/-- Comparing the other way round exchanges what was removed and what was added. -/
theorem ofNodes_swap
    (leftWellFormed : left.WellFormed)
    (rightWellFormed : right.WellFormed) :
    ofNodes right left = (ofNodes left right).swap := by
  have turned (difference : Difference) :
      difference.swap ∈ Difference.between [] right.content left ↔
        difference ∈ Difference.between [] left.content right := by
    rw [Difference.mem_between leftWellFormed, Difference.mem_between rightWellFormed]
    exact Difference.separates_swap
  have removed : (ofNodes right left).removed = (ofNodes left right).added := by
    apply (Path.ascending_sorted _).eq_of_mem_iff (Path.ascending_sorted _)
    intro path
    exact mem_removed.trans ((turned (.added path)).trans mem_added.symm)
  have modified : (ofNodes right left).modified = (ofNodes left right).modified := by
    apply (Path.ascending_sorted _).eq_of_mem_iff (Path.ascending_sorted _)
    intro path
    exact mem_modified.trans ((turned (.modified path)).trans mem_modified.symm)
  have added : (ofNodes right left).added = (ofNodes left right).removed := by
    apply (Path.ascending_sorted _).eq_of_mem_iff (Path.ascending_sorted _)
    intro path
    exact mem_added.trans ((turned (.removed path)).trans mem_removed.symm)
  rw [swap, ← removed, ← modified, ← added]

/-- Nothing at a path that was found by both look-ups was removed or added. -/
theorem disjoint_of_shows
    (shows : ∀ difference ∈ Difference.between [] left.content right,
      Difference.Shows left right difference) :
    (ofNodes left right).removed.Disjoint (ofNodes left right).modified ∧
      (ofNodes left right).removed.Disjoint (ofNodes left right).added ∧
        (ofNodes left right).modified.Disjoint (ofNodes left right).added := by
  refine ⟨?_, ?_, ?_⟩ <;> intro path isFirst isSecond
  · rcases shows _ (mem_removed.1 isFirst) with ⟨_, isAbsent⟩
    rcases shows _ (mem_modified.1 isSecond) with ⟨before, after, _, isPresent, _⟩
    exact Node.not_lacks_of_has ⟨after, isPresent⟩ isAbsent
  · rcases shows _ (mem_removed.1 isFirst) with ⟨isPresent, _⟩
    rcases shows _ (mem_added.1 isSecond) with ⟨isAbsent, _⟩
    exact Node.not_lacks_of_has isPresent isAbsent
  · rcases shows _ (mem_modified.1 isFirst) with ⟨before, after, isPresent, _⟩
    rcases shows _ (mem_added.1 isSecond) with ⟨isAbsent, _⟩
    exact Node.not_lacks_of_has ⟨before, isPresent⟩ isAbsent

/-- The comparison of two documents is exact. -/
theorem ofNodes_isExact
    (leftWellFormed : left.WellFormed)
    (rightWellFormed : right.WellFormed) :
    IsExact left right (ofNodes left right) := by
  have shows :
      ∀ difference ∈ Difference.between [] left.content right,
        Difference.Shows left right difference :=
    fun _ member => Difference.shows_of_mem_between rightWellFormed member
  exact
    { decides := Node.isSame_ofNodes.trans (Node.alike_iff_same_toValue leftWellFormed
        rightWellFormed)
      disjoint := disjoint_of_shows shows
      swapped := ofNodes_swap leftWellFormed rightWellFormed
      removed := fun path member => shows (.removed path) (mem_removed.1 member)
      modified := fun path member => shows (.modified path) (mem_modified.1 member)
      added := fun path member => shows (.added path) (mem_added.1 member) }

/-- A document with two zones and no name. -/
def twoZones : Node :=
  .document
    (.mapping
      [("kind", .ofText "Disk"), ("size", .scalar ⟨.int 16, some "0x10"⟩),
        ("zones", .sequence [.ofText "a", .ofText "b"])])

/-- A document with one zone and a name, its fields in another order. -/
def oneZone : Node :=
  .mapping
    [("name", .ofText "x"), ("zones", .sequence [.ofText "c"]),
      ("size", .reference "size" (.scalar ⟨.int 16, some "16"⟩)), ("kind", .ofText "Disk")]

/-- The order of fields, aliases and spellings do not count; names and positions do. -/
theorem ofNodes_isExact_zones :
    twoZones.WellFormed ∧ oneZone.WellFormed ∧
      IsExact twoZones oneZone
        { removed := [[.field "zones", .index 1]]
          modified := [[.field "zones", .index 0]]
          added := [[.field "name"]] } := by
  have leftWellFormed : twoZones.WellFormed := by
    refine .document (.mapping (by simp [Fields.Distinct, Fields.names]) ?_)
    simp [Node.ofText, Node.WellFormed.scalar, Node.WellFormed.sequence]
  have rightWellFormed : oneZone.WellFormed := by
    refine .mapping (by simp [Fields.Distinct, Fields.names]) ?_
    simp [Node.ofText, Node.WellFormed.scalar, Node.WellFormed.sequence, Node.WellFormed.reference]
  have found :
      ofNodes twoZones oneZone =
        { removed := [[.field "zones", .index 1]]
          modified := [[.field "zones", .index 0]]
          added := [[.field "name"]] } := by
    decide
  exact ⟨leftWellFormed, rightWellFormed, found ▸ ofNodes_isExact leftWellFormed rightWellFormed⟩

end Comparison

end Manifest
