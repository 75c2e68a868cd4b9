import Manifest.Proofs.Node.Decode
import Manifest.Proofs.Node.WellFormed
import Manifest.Proofs.Patch.Comparison
import Manifest.Proofs.Value

/-!
# Documents of the same value

Documents are compared along their fields and items, and decoded values are compared
as wholes.  Both find the same: two documents are alike exactly if they decode to the
same value.  Contents that are not both mappings and not both sequences are compared
as wholes in either way.
-/

namespace Manifest

namespace Node

/-! ## Contents that are compared as wholes -/

theorem same_toValue
    (left right : Scalar) :
    (scalar left).toValue.same (scalar right).toValue = left.same right := by
  rcases left with ⟨left, _⟩
  rcases right with ⟨right, _⟩
  cases left <;> cases right <;> rfl

theorem mapping_ne_scalar
    (fields : List (String × Node))
    (leaf : Scalar) :
    (mapping fields).toValue.same (scalar leaf).toValue = false := by
  rcases leaf with ⟨value, _⟩
  cases value <;> rfl

theorem sequence_ne_scalar
    (items : List Node)
    (leaf : Scalar) :
    (sequence items).toValue.same (scalar leaf).toValue = false := by
  rcases leaf with ⟨value, _⟩
  cases value <;> rfl

/-- Two contents are neither both mappings nor both sequences. -/
structure Apart (left right : Node) : Prop where
  notMappings : ¬(left.kind = .mapping ∧ right.kind = .mapping)
  notSequences : ¬(left.kind = .sequence ∧ right.kind = .sequence)

theorem Apart.symm
    {left right : Node}
    (apart : Apart left right) :
    Apart right left where
  notMappings := fun both => apart.notMappings ⟨both.2, both.1⟩
  notSequences := fun both => apart.notSequences ⟨both.2, both.1⟩

theorem between_of_apart
    {left right : Node}
    (apart : Apart left.content right.content)
    (path : Path) :
    Difference.between path left.content right =
      Difference.unlessSame path left.content right.content := by
  rw [← between_content]
  rcases content_cases left with ⟨fields, isLeft⟩ | ⟨items, isLeft⟩ | ⟨leaf, isLeft⟩ <;>
    rcases content_cases right with ⟨others, isRight⟩ | ⟨others, isRight⟩ | ⟨other, isRight⟩ <;>
    rw [isLeft, isRight] at apart ⊢
  · exact absurd ⟨rfl, rfl⟩ apart.notMappings
  all_goals first | rfl | exact absurd ⟨rfl, rfl⟩ apart.notSequences

/-- Of contents that are compared as wholes, the nodes are the same if the values are. -/
theorem same_content
    {left right : Node}
    (apart : Apart left.content right.content) :
    left.content.same right.content = left.toValue.same right.toValue := by
  rw [← toValue_content left, ← toValue_content right]
  rcases content_cases left with ⟨fields, isLeft⟩ | ⟨items, isLeft⟩ | ⟨leaf, isLeft⟩ <;>
    rcases content_cases right with ⟨others, isRight⟩ | ⟨others, isRight⟩ | ⟨other, isRight⟩ <;>
    rw [isLeft, isRight] at apart ⊢
  · exact absurd ⟨rfl, rfl⟩ apart.notMappings
  · rfl
  · exact (mapping_ne_scalar fields other).symm
  · rfl
  · exact absurd ⟨rfl, rfl⟩ apart.notSequences
  · exact (sequence_ne_scalar items other).symm
  · exact (mapping_ne_scalar others leaf).symm.trans (Value.same_comm _ _)
  · exact (sequence_ne_scalar others leaf).symm.trans (Value.same_comm _ _)
  · exact (same_toValue leaf other).symm

theorem alike_iff_of_apart
    {left right : Node}
    (apart : Apart left.content right.content) :
    left.Alike right ↔ left.toValue.same right.toValue = true := by
  simp only [Alike, between_of_apart apart, Difference.unlessSame_eq_nil, same_content apart,
    forall_const]

/-- What is alike a mapping is a mapping. -/
theorem mapping_of_alike
    {left right : Node}
    {others : List (String × Node)}
    (alike : left.Alike right)
    (isRight : right.content = .mapping others) :
    ∃ fields, left.content = .mapping fields := by
  rcases content_cases left with isMapping | ⟨items, isLeft⟩ | ⟨leaf, isLeft⟩
  · exact isMapping
  · rw [alike_contents isLeft isRight, alike_iff_of_apart (by constructor <;> nofun)] at alike
    cases alike
  · rw [alike_contents isLeft isRight, alike_iff_of_apart (by constructor <;> nofun),
      Value.same_comm, mapping_ne_scalar] at alike
    cases alike

/-! ## Documents and their values -/

theorem forall₂_alike_iff
    {items others : List Node}
    (decided :
      ∀ item ∈ items, ∀ other ∈ others,
        (item.Alike other ↔ item.toValue.same other.toValue = true)) :
    List.Forall₂ Alike items others ↔
      Value.sameItems (itemValues items) (itemValues others) = true := by
  induction items generalizing others with
  | nil => cases others <;> simp [itemValues, Value.sameItems]
  | cons item rest inductionHypothesis =>
      cases others with
      | nil => simp [itemValues, Value.sameItems]
      | cons other othersRest =>
          rw [List.forall₂_cons, itemValues, itemValues, Value.sameItems, Bool.and_eq_true,
            decided item List.mem_cons_self other List.mem_cons_self,
            inductionHypothesis fun next member nextOther otherMember =>
              decided next (List.mem_cons_of_mem item member) nextOther
                (List.mem_cons_of_mem other otherMember)]

/-- Documents are alike exactly if they decode to the same value. -/
theorem alike_iff_same_toValue
    {left : Node}
    (leftWellFormed : left.WellFormed) :
    ∀ {right : Node}, right.WellFormed →
      (left.Alike right ↔ left.toValue.same right.toValue = true) := by
  induction leftWellFormed with
  | document _ inductionHypothesis =>
      intro right rightWellFormed
      exact inductionHypothesis rightWellFormed
  | reference _ inductionHypothesis =>
      intro right rightWellFormed
      exact inductionHypothesis rightWellFormed
  | @mapping fields distinct contents inductionHypothesis =>
      intro right rightWellFormed
      have rightContent := rightWellFormed.content
      cases isRight : right.content with
      | mapping others =>
          rw [← alike_content, ← toValue_content right, isRight]
          rw [isRight] at rightContent
          rcases wellFormed_mapping.1 rightContent with ⟨othersDistinct, othersContents⟩
          rw [alike_mappings othersDistinct, toValue, toValue, Value.same,
            Value.sameFields_iff (Fields.ascending_sortedOfPairs _)
              (Fields.ascending_sortedOfPairs _)]
          refine forall_congr' fun name => ?_
          rw [get?_decoded distinct, get?_decoded othersDistinct]
          cases foundLeft : Fields.get? name fields with
          | none => cases Fields.get? name others <;> exact Iff.rfl
          | some child =>
              cases foundRight : Fields.get? name others with
              | none => exact Iff.rfl
              | some other =>
                  exact inductionHypothesis _ (Fields.mem_of_get? foundLeft)
                    (othersContents _ (Fields.mem_of_get? foundRight))
      | _ => exact alike_iff_of_apart (by constructor <;> simp [content, kind, isRight])
  | @sequence items isItems inductionHypothesis =>
      intro right rightWellFormed
      have rightContent := rightWellFormed.content
      cases isRight : right.content with
      | sequence others =>
          rw [← alike_content, ← toValue_content right, isRight]
          rw [isRight] at rightContent
          cases rightContent with
          | sequence areItems =>
              rw [alike_sequences, toValue, toValue, Value.same]
              exact forall₂_alike_iff fun item member other otherMember =>
                inductionHypothesis item member (areItems other otherMember)
      | _ => exact alike_iff_of_apart (by constructor <;> simp [content, kind, isRight])
  | scalar leaf =>
      intro right rightWellFormed
      exact alike_iff_of_apart (by constructor <;> simp [content, kind])

theorem Alike.symm
    {left right : Node}
    (alike : left.Alike right)
    (leftWellFormed : left.WellFormed)
    (rightWellFormed : right.WellFormed) :
    right.Alike left := by
  rw [alike_iff_same_toValue leftWellFormed rightWellFormed] at alike
  rw [alike_iff_same_toValue rightWellFormed leftWellFormed, Value.same_comm]
  exact alike

end Node

end Manifest
