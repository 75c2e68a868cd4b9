import Manifest.Proofs.Node.Fields
import Manifest.Proofs.Node.Overlay
import Manifest.Proofs.Value.Overlay

/-!
# Values of overlays

The overlay of two documents decodes to the overlay of their values.  So an overlay sees
neither wrappers nor the order of fields, and is idempotent because overlays of values are.
-/

namespace Manifest

namespace Node

/-- Where two documents hold optional nodes, their overlay decodes to that of the values. -/
theorem map_toValue_overlayAt
    {left right : Option Node}
    (overlays :
      ∀ leftNode, left = some leftNode → ∀ rightNode, right = some rightNode →
        (leftNode.overlay rightNode).toValue = leftNode.toValue.overlay rightNode.toValue) :
    (overlayAt left right).map toValue =
      Value.overlayAt (left.map toValue) (right.map toValue) := by
  cases right with
  | none => rw [overlayAt_none_right, Option.map_none, Value.overlayAt_none_right]
  | some rightNode =>
      cases left with
      | none => rw [overlayAt_none_left, Option.map_none, Value.overlayAt_none_left]
      | some leftNode =>
          rw [overlayAt, Option.map_some, overlays leftNode rfl rightNode rfl]
          rfl

theorem overlay_mapping_of_closed
    {left : Node}
    (closed : left.mapping? = none)
    (fields : List (String × Node)) :
    left.overlay (.mapping fields) = .mapping fields := by
  rw [mapping?] at closed
  rw [Node.overlay]
  split
  · rename_i leftFields isMapping
    rw [isMapping] at closed
    cases closed
  · rfl

/-- The overlay of two documents decodes to the overlay of their values. -/
theorem toValue_overlay
    {left right : Node}
    (leftWellFormed : left.WellFormed)
    (rightWellFormed : right.WellFormed) :
    (left.overlay right).toValue = left.toValue.overlay right.toValue := by
  induction rightWellFormed generalizing left with
  | document isInner inductionHypothesis =>
      rw [Node.overlay, toValue]
      split
      · rename_i isNull
        rw [toValue_of_null isNull, Value.overlay_null]
      · split
        · rename_i leftIsNull
          rw [toValue_of_null leftIsNull, Value.null_overlay, toValue]
        · exact inductionHypothesis leftWellFormed
  | reference isTarget inductionHypothesis =>
      rw [Node.overlay, toValue]
      split
      · rename_i isNull
        rw [toValue_of_null isNull, Value.overlay_null]
      · split
        · rename_i leftIsNull
          rw [toValue_of_null leftIsNull, Value.null_overlay, toValue]
        · exact inductionHypothesis leftWellFormed
  | @mapping fields distinct contents inductionHypothesis =>
      have rightWellFormed : WellFormed (.mapping fields) := .mapping distinct contents
      rcases decoded_cases left with ⟨isNull, decodes⟩ | ⟨leftFields, isMapping, decodes⟩ |
          ⟨notMapping, _, isBare, _⟩
      · rw [decodes, Value.null_overlay, ← toValue_content,
          content_overlay_of_null_left isNull rfl, toValue_content]
      · have isOverlaid :
            (left.overlay (.mapping fields)).content =
              .mapping (overlayFields leftFields leftFields fields) :=
          content_overlay_of_mappings isMapping rfl
        rw [show toValue (.mapping fields) = _ from toValue_of_mapping rfl]
        apply Value.eq_of_fields (ascending_toValue _)
          (Value.ascending_overlay_map (Fields.ascending_sortedOfPairs _) _)
        · rw [toValue_of_mapping isOverlaid, Value.bare?_map, Value.bare?_overlay_map]
        · intro name
          rw [field?_toValue (leftWellFormed.overlay rightWellFormed),
            Value.field?_overlay_map (ascending_toValue left) (Fields.ascending_sortedOfPairs _),
            field?_toValue leftWellFormed, get?_decoded distinct,
            child?_of_open (openFields?_of_content isOverlaid),
            child?_of_open (openFields?_of_content isMapping), get?_overlayFields distinct]
          rw [← map_toValue_overlayAt]
          · cases Fields.get? name fields with
            | none => rw [overlayAt_none_right]
            | some child => rfl
          · intro leftChild leftFound child found
            have leftFields := wellFormed_mapping.1 (isMapping ▸ leftWellFormed.content)
            exact inductionHypothesis (name, child) (Fields.mem_of_get? found)
              (leftFields.get? leftFound)
      · rw [overlay_mapping_of_closed notMapping, toValue, Value.overlay_map_of_bare isBare]
  | sequence isItems => rw [Node.overlay, toValue, Value.overlay_of_bare rfl (by simp)]
  | scalar leaf =>
      rw [Node.overlay]
      rcases decoded_cases (.scalar leaf) with ⟨isNull, decodes⟩ | ⟨fields, isMapping, _⟩ |
          ⟨_, notNull, isBare, notNullValue⟩
      · rw [if_pos (show leaf.isNull = true from isNull), decodes, Value.overlay_null]
      · cases isMapping
      · rw [if_neg (by rw [show leaf.isNull = false from notNull]; decide),
          Value.overlay_of_bare isBare notNullValue]

/--
An overlay is the deep merge in favour of the right document, and to lay the right document
over it once more changes nothing.
-/
theorem overlay_rightBiased_and_idempotent
    {left right : Node}
    (leftWellFormed : left.WellFormed)
    (rightWellFormed : right.WellFormed) :
    (left.overlay right).toValue = left.toValue.overlay right.toValue ∧
      ((left.overlay right).overlay right).toValue = (left.overlay right).toValue := by
  have overlays := toValue_overlay leftWellFormed rightWellFormed
  refine ⟨overlays, ?_⟩
  calc
    ((left.overlay right).overlay right).toValue =
        (left.overlay right).toValue.overlay right.toValue :=
      toValue_overlay (leftWellFormed.overlay rightWellFormed) rightWellFormed
    _ = (left.toValue.overlay right.toValue).overlay right.toValue := by rw [overlays]
    _ = left.toValue.overlay right.toValue :=
      Value.overlay_overlay_self leftWellFormed.ordered_toValue rightWellFormed.ordered_toValue
    _ = (left.overlay right).toValue := overlays.symm

/-- A document with sizes, without labels. -/
def sized : Node :=
  .mapping
    [("size", .mapping [("min", .ofText "1"), ("max", .ofText "2")]), ("labels", .null),
      ("mode", .ofText "fast")]

/-- A document with wrappers, with nothing for a size, and with nothing inside of new fields. -/
def resized : Node :=
  .document <|
    .mapping
      [("size", .reference "size" (.mapping [("max", .null), ("unit", .ofText "G")])),
        ("labels", .mapping [("app", .null)]), ("mode", .sequence [])]

/-- Nothing keeps a size, is kept inside of new fields, and the rest is merged. -/
theorem sized_overlay_resized :
    sized.WellFormed ∧ resized.WellFormed ∧
      (sized.overlay resized).toValue = sized.toValue.overlay resized.toValue ∧
      ((sized.overlay resized).overlay resized).toValue = (sized.overlay resized).toValue ∧
      (sized.overlay resized).toValue =
        .map
          [("labels", .map [("app", .null)]), ("mode", .list []),
            ("size", .map [("max", .text "2"), ("min", .text "1"), ("unit", .text "G")])] := by
  have nothing : null.WellFormed := .scalar Scalar.null
  have sizedWellFormed : sized.WellFormed := by
    simp [sized, nothing, Fields.names]
  have size :
      (reference "size" (.mapping [("max", .null), ("unit", .ofText "G")])).WellFormed := by
    apply WellFormed.reference
    simp [nothing, Fields.names]
  have resizedWellFormed : resized.WellFormed := by
    apply WellFormed.document
    simp [size, nothing, Fields.names, wellFormed_sequence]
  rcases overlay_rightBiased_and_idempotent sizedWellFormed resizedWellFormed with
    ⟨overlays, again⟩
  exact ⟨sizedWellFormed, resizedWellFormed, overlays, again, rfl⟩

end Node

end Manifest
