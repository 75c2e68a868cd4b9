import Manifest.Proofs.Node.Edit
import Manifest.Proofs.Path
import Mathlib.Data.List.Forall2

/-!
# Documents without differences

A comparison says that two documents are the same exactly if it found no
difference.  Whether there is one does not depend on the path at which the
documents are compared, so that it is decided name by name and item by item.
-/

namespace Manifest

/-! ## Empty comparisons -/

/-- A comparison is that of the same documents exactly if there is no difference. -/
theorem Comparison.isSame_ofDifferences
    {differences : List Difference} :
    (ofDifferences differences).isSame = true ↔ differences = [] := by
  cases differences with
  | nil => exact iff_of_true rfl rfl
  | cons difference rest =>
      simp only [isSame, ofDifferences, List.isEmpty_iff, Bool.and_eq_true, Path.sorted_eq_nil]
      cases difference <;> simp [removedPath?, modifiedPath?, addedPath?]

namespace Difference

/-! ## Paths do not count -/

theorem removedFields_eq_nil
    {path : Path}
    {left right : List (String × Node)} :
    removedFields path right left = [] ↔
      ∀ field ∈ left, Fields.contains field.1 right = true := by
  induction left with
  | nil => simp [removedFields]
  | cons field rest inductionHypothesis =>
      rcases field with ⟨name, node⟩
      rw [removedFields]
      by_cases isRight : Fields.contains name right = true
      · simp [isRight, inductionHypothesis]
      · simp [isRight]

theorem betweenFields_eq_nil
    {path : Path}
    {left right : List (String × Node)} :
    betweenFields path left right = [] ↔
      ∀ field ∈ right, ∃ other,
        Fields.get? field.1 left = some other ∧
          between (path.push (.field field.1)) other.content field.2 = [] := by
  induction right with
  | nil => simp [betweenFields]
  | cons field rest inductionHypothesis =>
      rcases field with ⟨name, node⟩
      rw [betweenFields, List.append_eq_nil_iff, inductionHypothesis, List.forall_mem_cons]
      cases Fields.get? name left <;> simp

theorem removedItems_eq_nil
    {path : Path}
    {position : Nat}
    {items : List Node} :
    removedItems path position items = [] ↔ items = [] := by
  cases items <;> simp [removedItems]

theorem unlessSame_eq_nil
    {path : Path}
    {left right : Node} :
    unlessSame path left right = [] ↔ left.same right = true := by
  rw [unlessSame]
  split <;> simp_all

mutual

/-- Whether two nodes differ is the same at all paths. -/
theorem between_eq_nil_of_path
    {path : Path}
    (other : Path) :
    ∀ {left : Node} (right : Node), between path left right = [] → between other left right = []
  | left, .document inner, same => between_eq_nil_of_path other inner same
  | left, .reference _ target, same => between_eq_nil_of_path other target same
  | left, .mapping right, same => by
      rw [between.eq_def] at same ⊢
      dsimp only at same ⊢
      split at same
      · rw [List.append_eq_nil_iff, removedFields_eq_nil] at same
        rw [List.append_eq_nil_iff, removedFields_eq_nil]
        exact ⟨same.1, betweenFields_eq_nil_of_path other right same.2⟩
      · rw [unlessSame_eq_nil] at same ⊢
        exact same
  | left, .sequence right, same => by
      rw [between.eq_def] at same ⊢
      dsimp only at same ⊢
      split at same
      · exact betweenItems_eq_nil_of_path other right same
      · rw [unlessSame_eq_nil] at same ⊢
        exact same
  | left, .scalar leaf, same => by
      rw [between, unlessSame_eq_nil] at same ⊢
      exact same

theorem betweenFields_eq_nil_of_path
    {path : Path}
    (other : Path) :
    ∀ {left : List (String × Node)} (right : List (String × Node)),
      betweenFields path left right = [] → betweenFields other left right = []
  | _, [], _ => rfl
  | left, (name, node) :: rest, same => by
      rw [betweenFields, List.append_eq_nil_iff] at same ⊢
      refine ⟨?_, betweenFields_eq_nil_of_path other rest same.2⟩
      have here := same.1
      split at here
      · exact between_eq_nil_of_path _ node here
      · cases here

theorem betweenItems_eq_nil_of_path
    {path : Path}
    (other : Path) :
    ∀ {position : Nat} {left : List Node} (right : List Node),
      betweenItems path position left right = [] → betweenItems other position left right = []
  | _, _, [], same => by
      rw [betweenItems, removedItems_eq_nil] at same ⊢
      exact same
  | _, left, node :: rest, same => by
      rw [betweenItems.eq_def] at same ⊢
      dsimp only at same ⊢
      split at same
      · cases same
      · rw [List.append_eq_nil_iff] at same ⊢
        exact ⟨between_eq_nil_of_path _ node same.1, betweenItems_eq_nil_of_path other rest same.2⟩

end

end Difference

/-! ## Alike documents -/

namespace Node

/-- There is no difference between two documents. -/
def Alike (left right : Node) : Prop :=
  ∀ path, Difference.between path left.content right = []

/-- There is no difference between two optional documents. -/
def AlikeAt : Option Node → Option Node → Prop
  | none, none => True
  | some left, some right => left.Alike right
  | _, _ => False

theorem alike_of_path
    {path : Path}
    {left right : Node}
    (same : Difference.between path left.content right = []) :
    left.Alike right :=
  fun other => Difference.between_eq_nil_of_path other right same

/-- The comparison of two documents finds them the same exactly if they are alike. -/
theorem isSame_ofNodes
    {left right : Node} :
    (Comparison.ofNodes left right).isSame = true ↔ left.Alike right := by
  rw [Comparison.ofNodes, Comparison.isSame_ofDifferences]
  exact ⟨alike_of_path, fun alike => alike []⟩

/-! ## Contents -/

theorem between_content
    (path : Path)
    (left right : Node) :
    Difference.between path left right.content = Difference.between path left right :=
  read_content (fun _ => rfl) (fun _ _ => rfl) right

theorem alike_content
    {left right : Node} :
    left.Alike right.content ↔ left.Alike right := by
  simp only [Alike, between_content]

theorem alike_content_left
    {left right : Node} :
    left.content.Alike right ↔ left.Alike right := by
  simp only [Alike, content_content]

/-- Only contents are compared. -/
theorem alike_contents
    {left right leftContent rightContent : Node}
    (isLeft : left.content = leftContent)
    (isRight : right.content = rightContent) :
    left.Alike right ↔ leftContent.Alike rightContent := by
  rw [← isLeft, ← isRight, alike_content, alike_content_left]

theorem alike_scalars
    {left right : Scalar} :
    (scalar left).Alike (scalar right) ↔ left.same right = true := by
  have decided :
      ∀ path,
        Difference.between path (scalar left).content (scalar right) = [] ↔
          left.same right = true := by
    intro path
    rw [Difference.between, Difference.unlessSame_eq_nil]
    rfl
  exact ⟨fun alike => (decided []).1 (alike []), fun same => alike_of_path ((decided []).2 same)⟩

theorem between_mappings_eq_nil
    {path : Path}
    {left right : List (String × Node)} :
    Difference.between path (mapping left).content (mapping right) = [] ↔
      (∀ field ∈ left, Fields.contains field.1 right = true) ∧
        ∀ field ∈ right, ∃ other,
          Fields.get? field.1 left = some other ∧
            Difference.between (path.push (.field field.1)) other.content field.2 = [] := by
  change Difference.between path (mapping left) (mapping right) = [] ↔ _
  rw [Difference.between, List.append_eq_nil_iff, Difference.removedFields_eq_nil,
    Difference.betweenFields_eq_nil]

/-- Mappings are alike if they are at every name. -/
theorem alike_mappings
    {left right : List (String × Node)}
    (distinct : Fields.Distinct right) :
    (mapping left).Alike (mapping right) ↔
      ∀ name, AlikeAt (Fields.get? name left) (Fields.get? name right) := by
  constructor
  · intro alike name
    rcases between_mappings_eq_nil.1 (alike []) with ⟨noneRemoved, noneChanged⟩
    cases foundRight : Fields.get? name right with
    | some node =>
        rcases noneChanged (name, node) (Fields.mem_of_get? foundRight) with
          ⟨other, foundLeft, same⟩
        rw [foundLeft]
        exact alike_of_path same
    | none =>
        cases foundLeft : Fields.get? name left with
        | none => trivial
        | some node =>
            have present := noneRemoved (name, node) (Fields.mem_of_get? foundLeft)
            rw [Fields.contains, foundRight] at present
            cases present
  · intro alikeAt
    apply @alike_of_path []
    refine between_mappings_eq_nil.2 ⟨?_, ?_⟩
    · intro field member
      have alikeHere := alikeAt field.1
      rw [Fields.contains]
      cases foundRight : Fields.get? field.1 right with
      | some node => rfl
      | none =>
          cases foundLeft : Fields.get? field.1 left with
          | none =>
              exact absurd (List.mem_map_of_mem member) (Fields.get?_eq_none.1 foundLeft)
          | some node =>
              rw [foundLeft, foundRight] at alikeHere
              exact alikeHere.elim
    · intro field member
      have alikeHere := alikeAt field.1
      rw [Fields.get?_of_mem distinct member] at alikeHere
      cases foundLeft : Fields.get? field.1 left with
      | none =>
          rw [foundLeft] at alikeHere
          exact alikeHere.elim
      | some node =>
          rw [foundLeft] at alikeHere
          exact ⟨node, rfl, alikeHere _⟩

/-- Sequences are alike if their items are, one by one. -/
theorem alike_sequences
    {left right : List Node} :
    (sequence left).Alike (sequence right) ↔ List.Forall₂ Alike left right := by
  have decided :
      ∀ (path : Path) (position : Nat) (left : List Node),
        Difference.betweenItems path position left right = [] ↔
          List.Forall₂ Alike left right := by
    intro path position
    induction right generalizing position with
    | nil =>
        intro left
        rw [Difference.betweenItems, Difference.removedItems_eq_nil, List.forall₂_nil_right_iff]
    | cons node rest inductionHypothesis =>
        intro left
        cases left with
        | nil => simp [Difference.betweenItems]
        | cons other others =>
            rw [Difference.betweenItems, List.forall₂_cons, List.append_eq_nil_iff,
              inductionHypothesis]
            exact and_congr_left fun _ => ⟨alike_of_path, fun alike => alike _⟩
  have unfolded :
      ∀ path,
        Difference.between path (sequence left).content (sequence right) =
          Difference.betweenItems path 0 left right := by
    intro path
    change Difference.between path (sequence left) (sequence right) = _
    rw [Difference.between]
  constructor
  · intro alike
    exact (decided [] 0 left).1 (unfolded [] ▸ alike [])
  · intro allAlike path
    rw [unfolded]
    exact (decided path 0 left).2 allAlike

end Node

end Manifest
