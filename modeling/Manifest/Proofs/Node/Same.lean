import Manifest.Proofs.Fields.Edit
import Manifest.Proofs.Patch.Printed
import Manifest.Proofs.Value
import Mathlib.Data.List.Perm.Subperm

/-!
# Equal documents

Two mappings are compared one way only: they have as many fields, and each field of the left one
is found in the right one.  Names are distinct in mappings that come from edits, so that the right
one has no other names, and the order of the fields does not count.

It follows that equality of documents is symmetric and transitive, and that a document is equal to
itself unless a number in it is NaN.
-/

namespace Manifest

/-! ## Scalars -/

theorem Binary64.same_trans
    {left middle right : Binary64}
    (first : left.same middle = true)
    (second : middle.same right = true) :
    left.same right = true := by
  simp only [same, Bool.and_eq_true, Bool.or_eq_true, beq_iff_eq] at first second ⊢
  rcases first with ⟨⟨leftNumber, -⟩, sameBits | ⟨leftZero, middleZero⟩⟩
  · subst sameBits
    exact second
  · rcases second with ⟨⟨-, rightNumber⟩, sameBits | ⟨-, rightZero⟩⟩
    · subst sameBits
      exact ⟨⟨leftNumber, rightNumber⟩, Or.inr ⟨leftZero, middleZero⟩⟩
    · exact ⟨⟨leftNumber, rightNumber⟩, Or.inr ⟨leftZero, rightZero⟩⟩

namespace ScalarValue

theorem same_comm (left right : ScalarValue) :
    left.same right = right.same left := by
  cases left <;> cases right <;> first
    | rfl
    | exact Bool.beq_comm
    | exact Binary64.same_comm _ _

/-- Equal values are one value, or two equal numbers. -/
theorem eq_or_float_of_same
    {left right : ScalarValue}
    (isSame : left.same right = true) :
    left = right ∨
      ∃ leftNumber rightNumber,
        left = float leftNumber ∧ right = float rightNumber ∧
          leftNumber.same rightNumber = true := by
  cases left with
  | null => cases right with
    | null => exact Or.inl rfl
    | _ => cases isSame
  | bool truth => cases right with
    | bool other => exact Or.inl (congrArg bool (beq_iff_eq.1 isSame))
    | _ => cases isSame
  | int number => cases right with
    | int other => exact Or.inl (congrArg int (beq_iff_eq.1 isSame))
    | _ => cases isSame
  | float number => cases right with
    | float other => exact Or.inr ⟨number, other, rfl, rfl, isSame⟩
    | _ => cases isSame
  | text content => cases right with
    | text other => exact Or.inl (congrArg text (beq_iff_eq.1 isSame))
    | _ => cases isSame

theorem same_trans
    {left middle right : ScalarValue}
    (first : left.same middle = true)
    (second : middle.same right = true) :
    left.same right = true := by
  rcases eq_or_float_of_same first with rfl | ⟨leftNumber, middleNumber, rfl, rfl, sameFirst⟩
  · exact second
  · rcases eq_or_float_of_same second with rfl | ⟨_, rightNumber, isMiddle, rfl, sameSecond⟩
    · exact first
    · cases isMiddle
      exact Binary64.same_trans sameFirst sameSecond

end ScalarValue

namespace Scalar

theorem same_self_iff
    {leaf : Scalar} :
    leaf.same leaf = true ↔ leaf.isNaN = false := by
  refine ⟨fun same => ?_, same_self⟩
  rw [Scalar.same] at same
  rw [isNaN]
  cases isValue : leaf.value with
  | float number =>
      rw [isValue, ScalarValue.same, Binary64.same, Bool.and_self, Bool.and_eq_true] at same
      exact Bool.not_eq_true' _ ▸ same.1
  | _ => rfl

end Scalar

namespace Node

theorem sameItems_iff
    {left right : List Node} :
    sameItems left right = true ↔
      List.Forall₂ (fun item other => item.same other = true) left right := by
  induction left generalizing right with
  | nil => cases right <;> simp [sameItems]
  | cons item left inductionHypothesis =>
      cases right <;> simp [sameItems, inductionHypothesis]

theorem sameItems_symm
    {left right : List Node}
    (isSame : sameItems left right = true)
    (items :
      ∀ item ∈ left, ∀ other ∈ right, item.same other = true → other.same item = true) :
    sameItems right left = true := by
  rw [sameItems_iff, List.forall₂_iff_get] at isSame ⊢
  refine ⟨isSame.1.symm, ?_⟩
  intro index isOther isItem
  exact items _ (List.get_mem left _) _ (List.get_mem right _) (isSame.2 index isItem isOther)

theorem sameItems_trans
    {left middle right : List Node}
    (first : sameItems left middle = true)
    (second : sameItems middle right = true)
    (items :
      ∀ item ∈ left, ∀ other ∈ middle, ∀ last ∈ right,
        item.same other = true → other.same last = true → item.same last = true) :
    sameItems left right = true := by
  rw [sameItems_iff, List.forall₂_iff_get] at first second ⊢
  refine ⟨first.1.trans second.1, ?_⟩
  intro index isItem isLast
  have isOther : index < middle.length := first.1 ▸ isItem
  exact items _ (List.get_mem left _) _ (List.get_mem middle ⟨index, isOther⟩) _
    (List.get_mem right _) (first.2 index isItem isOther) (second.2 index isOther isLast)

theorem sameFields_iff
    {fields others : List (String × Node)} :
    sameFields fields others = true ↔
      ∀ field ∈ fields,
        ∃ other, Fields.get? field.1 others = some other ∧ field.2.same other = true := by
  induction fields with
  | nil => simp [sameFields]
  | cons field rest inductionHypothesis =>
      rw [sameFields, Bool.and_eq_true, inductionHypothesis, List.forall_mem_cons]
      cases Fields.get? field.1 others <;> simp

/-! ## Mappings -/

/-- The same names, and equal contents under each of them. -/
structure SameMap (left right : List (String × Node)) : Prop where
  names : ∀ name, name ∈ Fields.names left ↔ name ∈ Fields.names right
  contents :
    ∀ name leftContent rightContent,
      Fields.get? name left = some leftContent →
        Fields.get? name right = some rightContent → leftContent.same rightContent = true

theorem SameMap.symm
    {left right : List (String × Node)}
    (isSame : SameMap left right)
    (contents :
      ∀ field ∈ left, ∀ other ∈ right,
        field.2.same other.2 = true → other.2.same field.2 = true) :
    SameMap right left where
  names name := (isSame.names name).symm
  contents := by
    intro name rightContent leftContent isRight isLeft
    exact contents _ (Fields.mem_of_get? isLeft) _ (Fields.mem_of_get? isRight)
      (isSame.contents name leftContent rightContent isLeft isRight)

theorem SameMap.trans
    {left middle right : List (String × Node)}
    (first : SameMap left middle)
    (second : SameMap middle right)
    (contents :
      ∀ field ∈ left, ∀ other ∈ middle, ∀ last ∈ right,
        field.2.same other.2 = true → other.2.same last.2 = true →
          field.2.same last.2 = true) :
    SameMap left right where
  names name := (first.names name).trans (second.names name)
  contents := by
    intro name leftContent rightContent isLeft isRight
    have member : name ∈ Fields.names middle :=
      (first.names name).1 (Fields.isSome_get?.1 (Option.isSome_of_eq_some isLeft))
    rcases Option.isSome_iff_exists.1 (Fields.isSome_get?.2 member) with ⟨content, isMiddle⟩
    exact contents _ (Fields.mem_of_get? isLeft) _ (Fields.mem_of_get? isMiddle) _
      (Fields.mem_of_get? isRight) (first.contents name leftContent content isLeft isMiddle)
      (second.contents name content rightContent isMiddle isRight)

/-- Distinct names that are all found among as many names are all of these. -/
theorem mem_names_iff_of_subset
    {left right : List (String × Node)}
    (leftDistinct : Fields.Distinct left)
    (subset : Fields.names left ⊆ Fields.names right)
    (sameLength : left.length = right.length)
    (name : String) :
    name ∈ Fields.names left ↔ name ∈ Fields.names right := by
  -- The right names need not be known to be distinct: the left ones use up all their places.
  apply List.Perm.mem_iff
  apply (List.subperm_of_subset leftDistinct subset).perm_of_length_le
  rw [Fields.names, Fields.names, List.length_map, List.length_map, sameLength]

/-- Mappings with distinct names are equal exactly if they are the same map. -/
theorem same_mappings
    {left right : List (String × Node)}
    (leftDistinct : Fields.Distinct left)
    (rightDistinct : Fields.Distinct right) :
    (mapping left).same (mapping right) = true ↔ SameMap left right := by
  rw [same, Bool.and_eq_true, beq_iff_eq, sameFields_iff]
  constructor
  · rintro ⟨sameLength, found⟩
    constructor
    · apply mem_names_iff_of_subset leftDistinct _ sameLength
      intro name member
      rcases List.mem_map.1 member with ⟨field, isField, rfl⟩
      rcases found field isField with ⟨other, isOther, -⟩
      exact Fields.isSome_get?.1 (Option.isSome_of_eq_some isOther)
    · intro name leftContent rightContent isLeft isRight
      rcases found _ (Fields.mem_of_get? isLeft) with ⟨other, isOther, same⟩
      rw [isOther] at isRight
      exact Option.some.inj isRight ▸ same
  · intro sameMap
    constructor
    · have permutation := (List.perm_ext_iff_of_nodup leftDistinct rightDistinct).2 sameMap.names
      simpa [Fields.names] using permutation.length_eq
    · intro field isField
      have isLeft := Fields.get?_of_mem leftDistinct isField
      have member := (sameMap.names field.1).1 (List.mem_map_of_mem isField)
      rcases Option.isSome_iff_exists.1 (Fields.isSome_get?.2 member) with ⟨other, isOther⟩
      exact ⟨other, isOther, sameMap.contents field.1 field.2 other isLeft isOther⟩

/-! ## Documents -/

/-- A document is equal to itself exactly if no number in it is NaN. -/
theorem same_self_iff
    {node : Node}
    (wellFormed : node.WellFormed) :
    node.same node = true ↔ node.hasNaN = false := by
  induction wellFormed with
  | document _ inductionHypothesis => exact inductionHypothesis
  | @mapping fields distinct contents inductionHypothesis =>
      rw [same_mappings distinct distinct, hasNaN, fieldsHaveNaN_eq_false]
      constructor
      · intro sameMap field member
        have found := Fields.get?_of_mem distinct member
        exact (inductionHypothesis field member).1
          (sameMap.contents field.1 field.2 field.2 found found)
      · intro noNaN
        refine ⟨fun name => Iff.rfl, ?_⟩
        intro name leftContent rightContent isLeft isRight
        rw [isLeft] at isRight
        cases isRight
        have member := Fields.mem_of_get? isLeft
        exact (inductionHypothesis _ member).2 (noNaN _ member)
  | @sequence items isItems inductionHypothesis =>
      rw [same, sameItems_iff, List.forall₂_same, hasNaN, itemsHaveNaN_eq_false]
      exact forall₂_congr inductionHypothesis
  | scalar leaf => exact Scalar.same_self_iff
  | reference _ inductionHypothesis =>
      rw [same, beq_self_eq_true, Bool.true_and]
      exact inductionHypothesis

theorem same_symm
    {left : Node}
    (leftWellFormed : left.WellFormed) :
    ∀ {right : Node},
      right.WellFormed → left.same right = true → right.same left = true := by
  induction leftWellFormed with
  | document _ inductionHypothesis =>
      intro right rightWellFormed isSame
      cases rightWellFormed with
      | document isInner => exact inductionHypothesis isInner isSame
      | _ => cases isSame
  | mapping distinct _ inductionHypothesis =>
      intro right rightWellFormed isSame
      cases rightWellFormed with
      | mapping othersDistinct othersContents =>
          rw [same_mappings distinct othersDistinct] at isSame
          rw [same_mappings othersDistinct distinct]
          apply isSame.symm
          intro field isField other isOther
          exact inductionHypothesis field isField (othersContents other isOther)
      | _ => cases isSame
  | sequence _ inductionHypothesis =>
      intro right rightWellFormed isSame
      cases rightWellFormed with
      | sequence isOthers =>
          apply sameItems_symm isSame
          intro item isItem other isOther
          exact inductionHypothesis item isItem (isOthers other isOther)
      | _ => cases isSame
  | scalar leaf =>
      intro right rightWellFormed isSame
      cases rightWellFormed with
      | scalar other => exact (ScalarValue.same_comm other.value leaf.value).trans isSame
      | _ => cases isSame
  | reference _ inductionHypothesis =>
      intro right rightWellFormed isSame
      cases rightWellFormed with
      | reference isTarget =>
          rw [same, Bool.and_eq_true, beq_iff_eq] at isSame ⊢
          exact ⟨isSame.1.symm, inductionHypothesis isTarget isSame.2⟩
      | _ => cases isSame

theorem same_trans
    {left : Node}
    (leftWellFormed : left.WellFormed) :
    ∀ {middle right : Node},
      middle.WellFormed → right.WellFormed →
        left.same middle = true → middle.same right = true → left.same right = true := by
  induction leftWellFormed with
  | document _ inductionHypothesis =>
      intro middle right middleWellFormed rightWellFormed first second
      cases middleWellFormed with
      | document isMiddle =>
          cases rightWellFormed with
          | document isRight => exact inductionHypothesis isMiddle isRight first second
          | _ => cases second
      | _ => cases first
  | mapping distinct _ inductionHypothesis =>
      intro middle right middleWellFormed rightWellFormed first second
      cases middleWellFormed with
      | mapping othersDistinct othersContents =>
          cases rightWellFormed with
          | mapping lastsDistinct lastsContents =>
              rw [same_mappings distinct othersDistinct] at first
              rw [same_mappings othersDistinct lastsDistinct] at second
              rw [same_mappings distinct lastsDistinct]
              apply first.trans second
              intro field isField other isOther last isLast
              exact inductionHypothesis field isField (othersContents other isOther)
                (lastsContents last isLast)
          | _ => cases second
      | _ => cases first
  | sequence _ inductionHypothesis =>
      intro middle right middleWellFormed rightWellFormed first second
      cases middleWellFormed with
      | sequence isOthers =>
          cases rightWellFormed with
          | sequence isLasts =>
              apply sameItems_trans first second
              intro item isItem other isOther last isLast
              exact inductionHypothesis item isItem (isOthers other isOther)
                (isLasts last isLast)
          | _ => cases second
      | _ => cases first
  | scalar leaf =>
      intro middle right middleWellFormed rightWellFormed first second
      cases middleWellFormed with
      | scalar other =>
          cases rightWellFormed with
          | scalar last => exact ScalarValue.same_trans first second
          | _ => cases second
      | _ => cases first
  | reference _ inductionHypothesis =>
      intro middle right middleWellFormed rightWellFormed first second
      cases middleWellFormed with
      | reference isMiddle =>
          cases rightWellFormed with
          | reference isRight =>
              rw [same, Bool.and_eq_true, beq_iff_eq] at first second ⊢
              exact ⟨first.1.trans second.1,
                inductionHypothesis isMiddle isRight first.2 second.2⟩
          | _ => cases second
      | _ => cases first

/-- It does not matter which of two contents is compared with the other. -/
theorem same_mappings_iff_found
    {left right : List (String × Node)}
    (leftContents : ∀ field ∈ left, field.2.WellFormed)
    (rightContents : ∀ field ∈ right, field.2.WellFormed) :
    (mapping left).same (mapping right) = true ↔
      left.length = right.length ∧
        ∀ field ∈ left,
          ∃ other, Fields.get? field.1 right = some other ∧ other.same field.2 = true := by
  rw [same, Bool.and_eq_true, beq_iff_eq, sameFields_iff]
  refine and_congr_right fun _ => forall₂_congr fun field isField => exists_congr fun other => ?_
  refine and_congr_right fun isOther => ?_
  have leftContent := leftContents field isField
  have rightContent := rightContents _ (Fields.mem_of_get? isOther)
  exact ⟨same_symm leftContent rightContent, same_symm rightContent leftContent⟩

/-! ## Documents that come from edits -/

/-- Each mapping of the document comes from edits of the empty one. -/
inductive Assembled : Node → Prop where
  | document
      {inner : Node}
      (isInner : Assembled inner) :
      Assembled (.document inner)
  | mapping
      (edits : List (Fields.Edit Node))
      (contents : ∀ field ∈ Fields.run edits [], Assembled field.2) :
      Assembled (.mapping (Fields.run edits []))
  | sequence
      {items : List Node}
      (isItems : ∀ item ∈ items, Assembled item) :
      Assembled (.sequence items)
  | scalar
      (leaf : Scalar) :
      Assembled (.scalar leaf)
  | reference
      {anchor : String}
      {target : Node}
      (isTarget : Assembled target) :
      Assembled (.reference anchor target)

/-- Edits can give all documents without a mapping that has a name twice, and no others. -/
theorem assembled_iff_wellFormed
    {node : Node} :
    node.Assembled ↔ node.WellFormed := by
  constructor
  · intro assembled
    induction assembled with
    | document _ inductionHypothesis => exact .document inductionHypothesis
    | mapping edits _ inductionHypothesis =>
        exact .mapping (Fields.distinct_nil.run edits) inductionHypothesis
    | sequence _ inductionHypothesis => exact .sequence inductionHypothesis
    | scalar leaf => exact .scalar leaf
    | reference _ inductionHypothesis => exact .reference inductionHypothesis
  · intro wellFormed
    induction wellFormed with
    | document _ inductionHypothesis => exact .document inductionHypothesis
    | mapping distinct _ inductionHypothesis =>
        rcases Fields.distinct_iff_exists_run.1 distinct with ⟨edits, rfl⟩
        exact .mapping edits inductionHypothesis
    | sequence _ inductionHypothesis => exact .sequence inductionHypothesis
    | scalar leaf => exact .scalar leaf
    | reference _ inductionHypothesis => exact .reference inductionHypothesis

/-- Equality of some documents is one of ordered maps whose order does not count. -/
structure IsMapEquality (isDocument : Node → Prop) : Prop where
  refl_iff : ∀ node, isDocument node → (node.same node = true ↔ node.hasNaN = false)
  symm :
    ∀ left right, isDocument left → isDocument right →
      left.same right = true → right.same left = true
  trans :
    ∀ left middle right, isDocument left → isDocument middle → isDocument right →
      left.same middle = true → middle.same right = true → left.same right = true
  mappings :
    ∀ left right, isDocument (mapping left) → isDocument (mapping right) →
      ((mapping left).same (mapping right) = true ↔ SameMap left right)
  /-- It is enough to look each field of the left mapping up in the right one. -/
  oneWay :
    ∀ left right, isDocument (mapping left) → isDocument (mapping right) →
      ((mapping left).same (mapping right) = true ↔
        left.length = right.length ∧
          ∀ field ∈ left,
            ∃ other, Fields.get? field.1 right = some other ∧ other.same field.2 = true)

/--
Edits of a mapping are edits of an ordered map, and equality of the documents that they give is
the equality of these maps.
-/
theorem run_isOrderedMap_and_same_isMapEquality :
    (∀ (pairs : List (String × Node)) (edits : List (Fields.Edit Node)),
        Fields.IsOrderedMap ((pairs.map fun pair => Fields.Edit.set pair.1 pair.2) ++ edits)
          (Fields.run edits (Fields.ofPairs pairs))) ∧
      IsMapEquality Assembled := by
  constructor
  · intro pairs edits
    rw [Fields.ofPairs_eq_run, ← Fields.run_append]
    exact Fields.isOrderedMap_run _
  · constructor
    · intro node isDocument
      exact same_self_iff (assembled_iff_wellFormed.1 isDocument)
    · intro left right isLeft isRight
      exact same_symm (assembled_iff_wellFormed.1 isLeft) (assembled_iff_wellFormed.1 isRight)
    · intro left middle right isLeft isMiddle isRight
      exact same_trans (assembled_iff_wellFormed.1 isLeft) (assembled_iff_wellFormed.1 isMiddle)
        (assembled_iff_wellFormed.1 isRight)
    · intro left right isLeft isRight
      have leftFields := wellFormed_mapping.1 (assembled_iff_wellFormed.1 isLeft)
      have rightFields := wellFormed_mapping.1 (assembled_iff_wellFormed.1 isRight)
      exact same_mappings leftFields.distinct rightFields.distinct
    · intro left right isLeft isRight
      have leftFields := wellFormed_mapping.1 (assembled_iff_wellFormed.1 isLeft)
      have rightFields := wellFormed_mapping.1 (assembled_iff_wellFormed.1 isRight)
      exact same_mappings_iff_found leftFields.contents rightFields.contents

/-- A field that is removed and set again goes last, and the mapping stays the same map. -/
theorem sameMap_reordered :
    let pairs := [("a", ofText "1"), ("b", ofText "2")]
    let edits : List (Fields.Edit Node) := [.remove "a", .set "a" (ofText "1")]
    Fields.names (Fields.run edits (Fields.ofPairs pairs)) = ["b", "a"] ∧
      SameMap (Fields.ofPairs pairs) (Fields.run edits (Fields.ofPairs pairs)) := by
  intro pairs edits
  have isLeft : Assembled (mapping (Fields.ofPairs pairs)) := by
    apply assembled_iff_wellFormed.2
    simp [pairs, Fields.ofPairs, Fields.set, Fields.names]
  have isRight : Assembled (mapping (Fields.run edits (Fields.ofPairs pairs))) := by
    apply assembled_iff_wellFormed.2
    simp [pairs, edits, Fields.run, Fields.Edit.apply, Fields.ofPairs, Fields.set, Fields.remove,
      Fields.names]
  have isSame :
      (mapping (Fields.ofPairs pairs)).same
        (mapping (Fields.run edits (Fields.ofPairs pairs))) = true := by
    decide
  exact ⟨by decide,
    (run_isOrderedMap_and_same_isMapEquality.2.mappings _ _ isLeft isRight).1 isSame⟩

end Node

end Manifest
