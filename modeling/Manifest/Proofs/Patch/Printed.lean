import Manifest.Proofs.Node.Printed
import Manifest.Proofs.Patch.Annotations

/-!
# Differences of documents and their printed forms

Scalars are compared by value and printing keeps values, so there is no
difference between a document and its printed form, as long as no number in it
is NaN.

Annotations that are written anew are texts, whatever they were before.  Written
into a document and into its printed form, they make a difference exactly if
they are different texts.
-/

namespace Manifest

/-! ## Documents without NaN -/

namespace Scalar

/-- Whether the scalar is NaN. -/
def isNaN (leaf : Scalar) : Bool :=
  match leaf.value with
  | .float number => number.isNaN
  | _ => false

theorem same_printed
    {leaf : Scalar}
    (notNaN : leaf.isNaN = false) :
    leaf.same leaf.printed = true := by
  rw [same, value_printed]
  rw [isNaN] at notNaN
  cases isValue : leaf.value with
  | null => rfl
  | bool truth => simp [ScalarValue.same]
  | int number => simp [ScalarValue.same]
  | float number =>
      rw [isValue] at notNaN
      have numberNotNaN : number.isNaN = false := notNaN
      simp [ScalarValue.same, Binary64.same, numberNotNaN]
  | text content => simp [ScalarValue.same]

theorem same_self
    {leaf : Scalar}
    (notNaN : leaf.isNaN = false) :
    leaf.same leaf = true := by
  have samePrinted := same_printed notNaN
  rw [same, value_printed] at samePrinted
  exact samePrinted

end Scalar

namespace Node

mutual

/-- Whether a number of the document is NaN. -/
def hasNaN : Node → Bool
  | document inner => inner.hasNaN
  | mapping fields => fieldsHaveNaN fields
  | sequence items => itemsHaveNaN items
  | scalar leaf => leaf.isNaN
  | reference _ target => target.hasNaN

/-- Whether a number of some items is NaN. -/
def itemsHaveNaN : List Node → Bool
  | [] => false
  | item :: rest => item.hasNaN || itemsHaveNaN rest

/-- Whether a number of some fields is NaN. -/
def fieldsHaveNaN : List (String × Node) → Bool
  | [] => false
  | (_, node) :: rest => node.hasNaN || fieldsHaveNaN rest

end

theorem itemsHaveNaN_eq_false
    {items : List Node} :
    itemsHaveNaN items = false ↔ ∀ item ∈ items, item.hasNaN = false := by
  induction items with
  | nil => simp [itemsHaveNaN]
  | cons item rest inductionHypothesis => simp [itemsHaveNaN, inductionHypothesis]

theorem fieldsHaveNaN_eq_false
    {fields : List (String × Node)} :
    fieldsHaveNaN fields = false ↔ ∀ field ∈ fields, field.2.hasNaN = false := by
  induction fields with
  | nil => simp [fieldsHaveNaN]
  | cons field rest inductionHypothesis =>
      rw [fieldsHaveNaN, Bool.or_eq_false_iff, inductionHypothesis, List.forall_mem_cons]

/-- A document without NaN is alike itself. -/
theorem alike_self
    {node : Node}
    (wellFormed : node.WellFormed)
    (notNaN : node.hasNaN = false) :
    node.Alike node := by
  induction wellFormed with
  | document _ inductionHypothesis => exact inductionHypothesis notNaN
  | @mapping fields distinct contents inductionHypothesis =>
      rw [alike_mappings distinct]
      intro name
      cases found : Fields.get? name fields with
      | none => trivial
      | some child =>
          have member := Fields.mem_of_get? found
          exact inductionHypothesis _ member (fieldsHaveNaN_eq_false.1 notNaN _ member)
  | @sequence items isItems inductionHypothesis =>
      rw [alike_sequences, List.forall₂_same]
      intro item member
      exact inductionHypothesis item member (itemsHaveNaN_eq_false.1 notNaN item member)
  | scalar leaf =>
      rw [alike_scalars]
      exact Scalar.same_self notNaN
  | reference _ inductionHypothesis => exact inductionHypothesis notNaN

theorem HasSection.printed
    {node : Node}
    {fields inner : List (String × Node)}
    (hasSection : node.HasSection fields inner) :
    node.printed.HasSection (printedFields fields) (printedFields inner) := by
  rcases hasSection with ⟨isMapping, child, found, isSection⟩
  refine ⟨?_, child.printed, ?_, ?_⟩
  · rw [content_printed, printed_of_mapping isMapping]
  · rw [get?_printedFields, found]
    rfl
  · rw [content_printed, printed_of_mapping isSection]

/-- A document without NaN is alike its printed form. -/
theorem alike_printed
    {node : Node}
    (wellFormed : node.WellFormed)
    (notNaN : node.hasNaN = false) :
    node.Alike node.printed := by
  induction wellFormed with
  | document _ inductionHypothesis => exact inductionHypothesis notNaN
  | @mapping fields distinct contents inductionHypothesis =>
      rw [printed, alike_mappings (distinct_printedFields distinct)]
      intro name
      rw [get?_printedFields]
      cases found : Fields.get? name fields with
      | none => trivial
      | some child =>
          have member := Fields.mem_of_get? found
          exact inductionHypothesis _ member (fieldsHaveNaN_eq_false.1 notNaN _ member)
  | @sequence items isItems inductionHypothesis =>
      rw [printed, printedItems_eq_map, alike_sequences, List.forall₂_map_right_iff,
        List.forall₂_same]
      intro item member
      exact inductionHypothesis item member (itemsHaveNaN_eq_false.1 notNaN item member)
  | scalar leaf =>
      rw [printed, alike_scalars]
      exact Scalar.same_printed notNaN
  | reference _ inductionHypothesis => exact inductionHypothesis notNaN

/-! ## Written annotations -/

/--
Annotations written into a document and into its printed form make a difference
exactly if they differ.
-/
theorem alike_setAnnotations
    {node : Node}
    {fields inner : List (String × Node)}
    (wellFormed : node.WellFormed)
    (notNaN : node.hasNaN = false)
    (hasSection : node.HasSection fields inner)
    (left right : StringMap) :
    ∃ next nextPrinted,
      node.setAnnotations left = .done () next ∧
      node.printed.setAnnotations right = .done () nextPrinted ∧
      (next.Alike nextPrinted ↔ ∀ key, left.get? key = right.get? key) := by
  have printedSection : node.printed.HasSection (printedFields fields) (printedFields inner) :=
    hasSection.printed
  rcases hasSection.setAnnotations (hasSection.wellFormedFields wellFormed).2.distinct left with
    ⟨next, sets, becomes⟩
  rcases
      printedSection.setAnnotations (printedSection.wellFormedFields wellFormed.printed).2.distinct
        right with
    ⟨nextPrinted, setsPrinted, becomesPrinted⟩
  have nextWellFormed := wellFormed.printed.setAnnotations right
  rw [setsPrinted] at nextWellFormed
  refine ⟨next, nextPrinted, sets, setsPrinted, ?_⟩
  rw [becomes.alike_iff becomesPrinted (alike_printed wellFormed notNaN) wellFormed.printed
    nextWellFormed, alikeAt_writtenMap]

end Node

end Manifest
