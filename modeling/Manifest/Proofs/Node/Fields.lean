import Manifest.Proofs.Node.Decode
import Manifest.Proofs.Node.WellFormed
import Manifest.Proofs.Value.Fields

/-!
# Fields of decoded documents

A well-formed document decodes to a value whose fields are those of the document, decoded
one by one and in order at every depth.  The value is nothing exactly if the document is,
and a map exactly if the document is a mapping.
-/

namespace Manifest

namespace Node

/-- A document is nothing, a mapping, or something else, and so is its value. -/
theorem decoded_cases (node : Node) :
    (node.isNull = true ∧ node.toValue = .null) ∨
      (∃ fields,
        node.content = .mapping fields ∧
          node.toValue = .map (Fields.sortedOfPairs (fieldValues fields))) ∨
      (node.mapping? = none ∧ node.isNull = false ∧
        node.toValue.bare? = some node.toValue ∧ node.toValue ≠ .null) := by
  rw [← toValue_content, isNull, mapping?]
  rcases content_cases node with ⟨fields, isMapping⟩ | ⟨items, isSequence⟩ | ⟨leaf, isScalar⟩
  · rw [isMapping, toValue]
    exact Or.inr (Or.inl ⟨fields, rfl, rfl⟩)
  · rw [isSequence, toValue]
    exact Or.inr (Or.inr ⟨rfl, rfl, rfl, by simp⟩)
  · rcases leaf with ⟨value, spelling⟩
    rw [isScalar, toValue]
    cases value with
    | null => exact Or.inl ⟨rfl, rfl⟩
    | _ => exact Or.inr (Or.inr ⟨rfl, rfl, rfl, by simp [ScalarValue.toValue]⟩)

theorem toValue_of_null
    {node : Node}
    (isNull : node.isNull = true) :
    node.toValue = .null := by
  rcases decoded_cases node with ⟨_, decodes⟩ | ⟨fields, isMapping, _⟩ | ⟨_, notNull, _⟩
  · exact decodes
  · rw [Node.isNull, isMapping] at isNull
    cases isNull
  · rw [isNull] at notNull
    cases notNull

theorem toValue_of_mapping
    {node : Node}
    {fields : List (String × Node)}
    (isMapping : node.content = .mapping fields) :
    node.toValue = .map (Fields.sortedOfPairs (fieldValues fields)) := by
  rw [← toValue_content, isMapping, toValue]

/-- The fields of a value are the decoded fields of the document. -/
theorem field?_toValue
    {node : Node}
    (wellFormed : node.WellFormed)
    (name : String) :
    node.toValue.field? name = (node.child? name).map toValue := by
  rcases decoded_cases node with ⟨isNull, decodes⟩ | ⟨fields, isMapping, decodes⟩ |
      ⟨notMapping, _, isBare, _⟩
  · have opens : node.openFields? = some [] := openFields?_eq_some.2 (Or.inr ⟨isNull, rfl⟩)
    rw [decodes, child?_of_open opens]
    rfl
  · have isWellFormed := wellFormed_mapping.1 (isMapping ▸ wellFormed.content)
    rw [decodes, Value.field?_map, get?_decoded isWellFormed.distinct, child?,
      mapping?_eq_some.2 isMapping, Option.bind_some]
  · rw [child?, notMapping, Option.bind_none, Option.map_none, Value.field?,
      Value.fields_of_bare isBare, Fields.get?_nil]

theorem ascending_toValue (node : Node) :
    Fields.Ascending node.toValue.fields := by
  rcases decoded_cases node with ⟨_, decodes⟩ | ⟨fields, _, decodes⟩ | ⟨_, _, isBare, _⟩
  · rw [decodes]
    exact List.Pairwise.nil
  · rw [decodes]
    exact Fields.ascending_sortedOfPairs _
  · rw [Value.fields_of_bare isBare]
    exact List.Pairwise.nil

/-- Well-formed documents decode to values in order. -/
theorem WellFormed.ordered_toValue
    {node : Node}
    (wellFormed : node.WellFormed) :
    node.toValue.Ordered := by
  induction wellFormed with
  | document isInner inductionHypothesis => exact inductionHypothesis
  | reference isTarget inductionHypothesis => exact inductionHypothesis
  | @mapping fields distinct contents inductionHypothesis =>
      refine .intro (ascending_toValue (.mapping fields)) ?_
      intro name content found
      rw [field?_toValue (.mapping distinct contents)] at found
      rcases Option.map_eq_some_iff.1 found with ⟨child, isChild, rfl⟩
      exact inductionHypothesis (name, child) (Fields.mem_of_get? isChild)
  | sequence isItems => exact Value.ordered_of_bare rfl
  | scalar leaf =>
      apply Value.ordered_of_bare
      rw [toValue]
      cases leaf.value <;> rfl

end Node

end Manifest
