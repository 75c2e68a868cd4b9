import Manifest.Proofs.Fields
import Manifest.Value

/-!
# Equality of decoded values

Equality of values is that of their parts.  A decoded map has its fields in the order
of their names, so two such maps are the same if they hold the same values under each
name: ascending lists with the same names have them at the same places.
-/

namespace Manifest

theorem Binary64.same_comm
    (left right : Binary64) :
    left.same right = right.same left := by
  rw [same, same, Bool.and_comm (!left.isNaN), Bool.beq_comm, Bool.and_comm left.isZero]

namespace Value

/-- Two optional values are both absent, or they are the same. -/
def SameAt : Option Value → Option Value → Prop
  | none, none => True
  | some left, some right => left.same right = true
  | _, _ => False

mutual

/-- Equality of values does not depend on their order. -/
theorem same_comm : ∀ left right : Value, left.same right = right.same left
  | .null, right => by cases right <;> rfl
  | .bool left, right => by
      cases right with
      | bool right => exact Bool.beq_comm
      | _ => rfl
  | .int left, right => by
      cases right with
      | int right => exact Bool.beq_comm
      | _ => rfl
  | .float left, right => by
      cases right with
      | float right => exact left.same_comm right
      | _ => rfl
  | .text left, right => by
      cases right with
      | text right => exact Bool.beq_comm
      | _ => rfl
  | .list left, right => by
      cases right with
      | list right => exact sameItems_comm left right
      | _ => rfl
  | .map left, right => by
      cases right with
      | map right => exact sameFields_comm left right
      | _ => rfl

theorem sameItems_comm : ∀ left right : List Value, sameItems left right = sameItems right left
  | [], [] => rfl
  | [], _ :: _ => rfl
  | _ :: _, [] => rfl
  | left :: leftRest, right :: rightRest => by
      rw [sameItems, sameItems, same_comm left right, sameItems_comm leftRest rightRest]

theorem sameFields_comm :
    ∀ left right : List (String × Value), sameFields left right = sameFields right left
  | [], [] => rfl
  | [], _ :: _ => rfl
  | _ :: _, [] => rfl
  | (leftName, left) :: leftRest, (rightName, right) :: rightRest => by
      rw [sameFields, sameFields, same_comm left right, sameFields_comm leftRest rightRest,
        Bool.beq_comm]

end

/-! ## Maps -/

theorem sameAt_none_left
    {value : Option Value} :
    SameAt none value ↔ value = none := by
  cases value <;> simp [SameAt]

theorem sameAt_none_right
    {value : Option Value} :
    SameAt value none ↔ value = none := by
  cases value <;> simp [SameAt]

/-- Maps in the order of their names are the same if they are at every name. -/
theorem sameFields_iff
    {left right : List (String × Value)}
    (leftAscending : Fields.Ascending left)
    (rightAscending : Fields.Ascending right) :
    sameFields left right = true ↔
      ∀ name, SameAt (Fields.get? name left) (Fields.get? name right) := by
  unfold Fields.Ascending at leftAscending rightAscending
  induction left generalizing right with
  | nil =>
      cases right with
      | nil => exact iff_of_true rfl fun _ => trivial
      | cons head rest =>
          refine iff_of_false Bool.false_ne_true fun sameAt => ?_
          have absent := sameAt head.1
          rw [Fields.get?_nil, sameAt_none_left, Fields.get?_cons_same] at absent
          cases absent
  | cons head rest inductionHypothesis =>
      rcases head with ⟨name, value⟩
      rcases List.pairwise_cons.1 leftAscending with ⟨nameBelow, restAscending⟩
      have notInRest : Fields.get? name rest = none := Fields.get?_of_below nameBelow
      cases right with
      | nil =>
          refine iff_of_false Bool.false_ne_true fun sameAt => ?_
          have absent := sameAt name
          rw [Fields.get?_nil, sameAt_none_right, Fields.get?_cons_same] at absent
          cases absent
      | cons other others =>
          rcases other with ⟨otherName, otherValue⟩
          rcases List.pairwise_cons.1 rightAscending with ⟨otherBelow, othersAscending⟩
          have notInOthers : Fields.get? otherName others = none :=
            Fields.get?_of_below otherBelow
          rw [sameFields, Bool.and_eq_true, Bool.and_eq_true, beq_iff_eq,
            inductionHypothesis restAscending othersAscending]
          constructor
          · rintro ⟨⟨rfl, sameHead⟩, sameRest⟩ key
            by_cases isHead : name = key
            · subst isHead
              rw [Fields.get?_cons_same, Fields.get?_cons_same]
              exact sameHead
            · rw [Fields.get?_cons_other isHead, Fields.get?_cons_other isHead]
              exact sameRest key
          · intro sameAt
            have sameName : name = otherName := by
              apply String.le_antisymm
              · apply String.not_lt.1
                intro otherIsBelow
                have absent := sameAt otherName
                rw [Fields.get?_of_below_head nameBelow otherIsBelow, sameAt_none_left,
                  Fields.get?_cons_same] at absent
                cases absent
              · apply String.not_lt.1
                intro nameIsBelow
                have absent := sameAt name
                rw [Fields.get?_of_below_head otherBelow nameIsBelow, sameAt_none_right,
                  Fields.get?_cons_same] at absent
                cases absent
            subst sameName
            refine ⟨⟨rfl, ?_⟩, fun key => ?_⟩
            · have sameHead := sameAt name
              rw [Fields.get?_cons_same, Fields.get?_cons_same] at sameHead
              exact sameHead
            · by_cases isHead : name = key
              · subst isHead
                rw [notInRest, notInOthers]
                trivial
              · have sameRest := sameAt key
                rw [Fields.get?_cons_other isHead, Fields.get?_cons_other isHead] at sameRest
                exact sameRest

end Value

end Manifest
