import Manifest.Proofs.Node.Leaf
import Manifest.Proofs.Patch.Decoded

/-!
# Documents with other annotations

Where two alike documents get other annotations in their sections, only the
annotations decide whether they are alike after that.  Annotations that are written
are texts, and none are written for the empty map; so what is written for two maps is
alike exactly if they hold the same texts.
-/

namespace Manifest

namespace Node

/-! ## Written fields -/

/-- Where two alike mappings are written at one name, only this name decides. -/
theorem alike_of_agreeBeside
    {key : String}
    {left right nextLeft nextRight : List (String × Node)}
    (distinct : Fields.Distinct right)
    (distinctNext : Fields.Distinct nextRight)
    (alike : (mapping left).Alike (mapping right))
    (agreeLeft : Metadata.AgreeBeside key left nextLeft)
    (agreeRight : Metadata.AgreeBeside key right nextRight) :
    (mapping nextLeft).Alike (mapping nextRight) ↔
      AlikeAt (Fields.get? key nextLeft) (Fields.get? key nextRight) := by
  rw [alike_mappings distinctNext]
  constructor
  · intro alikeAt
    exact alikeAt key
  · intro alikeAtKey name
    by_cases same : name = key
    · rw [same]
      exact alikeAtKey
    · rw [agreeLeft name same, agreeRight name same]
      exact (alike_mappings distinct).1 alike name

/-- The field that a map of texts is written to; the empty map has none. -/
def writtenMap (map : StringMap) : Option Node :=
  if map.isEmpty then none else some (ofStringMap map)

end Node

/-- A scalar is what is written for a text exactly if its value is this text. -/
theorem Scalar.same_ofText
    {leaf : Scalar}
    {text : String} :
    leaf.same (ofText text) = true ↔ leaf.value = .text text := by
  rw [same, ofText]
  cases leaf.value <;> simp [ScalarValue.same]

theorem StringMap.isEmpty_iff
    {map : StringMap} :
    map.isEmpty = true ↔ ∀ key, map.get? key = none := by
  rw [isEmpty, List.isEmpty_iff]
  constructor
  · intro isNil key
    rw [get?, isNil, Fields.get?_nil]
  · intro absent
    cases isEntries : map.entries with
    | nil => rfl
    | cons entry rest =>
        have found := absent entry.1
        rw [get?, isEntries, Fields.get?_cons_same] at found
        cases found

namespace Node

theorem alike_ofText
    {left right : String} :
    (ofText left).Alike (ofText right) ↔ left = right := by
  rw [ofText, ofText, alike_scalars, Scalar.same_ofText]
  simp [Scalar.ofText]

theorem get?_entryNodes
    (key : String)
    (entries : List (String × String)) :
    Fields.get? key (entries.map fun entry => (entry.1, ofText entry.2)) =
      (Fields.get? key entries).map ofText := by
  induction entries with
  | nil => rfl
  | cons entry rest inductionHypothesis =>
      rcases entry with ⟨other, text⟩
      rw [List.map_cons]
      by_cases same : other = key
      · rw [same, Fields.get?_cons_same, Fields.get?_cons_same, Option.map_some]
      · rw [Fields.get?_cons_other same, Fields.get?_cons_other same, inductionHypothesis]

theorem alike_ofStringMap
    {left right : StringMap} :
    (ofStringMap left).Alike (ofStringMap right) ↔ ∀ key, left.get? key = right.get? key := by
  have distinct := (wellFormed_mapping.1 (wellFormed_ofStringMap right)).distinct
  rw [ofStringMap, ofStringMap, alike_mappings distinct]
  refine forall_congr' fun key => ?_
  rw [get?_entryNodes, get?_entryNodes, StringMap.get?, StringMap.get?]
  cases Fields.get? key left.entries <;> cases Fields.get? key right.entries <;>
    simp [AlikeAt, alike_ofText]

/-- Maps are written alike exactly if they hold the same texts. -/
theorem alikeAt_writtenMap
    {left right : StringMap} :
    AlikeAt (writtenMap left) (writtenMap right) ↔ ∀ key, left.get? key = right.get? key := by
  rw [writtenMap, writtenMap]
  cases leftEmpty : left.isEmpty with
  | false =>
      cases rightEmpty : right.isEmpty with
      | false => exact alike_ofStringMap
      | true =>
          refine iff_of_false id fun sameTexts => ?_
          have absent : left.isEmpty = true :=
            StringMap.isEmpty_iff.2 fun key =>
              (sameTexts key).trans (StringMap.isEmpty_iff.1 rightEmpty key)
          rw [leftEmpty] at absent
          cases absent
  | true =>
      cases rightEmpty : right.isEmpty with
      | false =>
          refine iff_of_false id fun sameTexts => ?_
          have absent : right.isEmpty = true :=
            StringMap.isEmpty_iff.2 fun key =>
              (sameTexts key).symm.trans (StringMap.isEmpty_iff.1 leftEmpty key)
          rw [rightEmpty] at absent
          cases absent
      | true =>
          refine iff_of_true trivial fun key => ?_
          rw [StringMap.isEmpty_iff.1 leftEmpty, StringMap.isEmpty_iff.1 rightEmpty]

/-! ## Annotations that are written as they are -/

/-- A node is a mapping with texts, at least one. -/
def IsTextMap (node : Node) : Prop :=
  ∃ entries,
    node.content = .mapping entries ∧ entries ≠ [] ∧
      ∀ entry ∈ entries, ∃ leaf, entry.2.content = .scalar leaf ∧ leaf.value = .text leaf.text

/-- Entries are alike what is written for their texts exactly if they are texts. -/
theorem alike_ofStringMap_iff
    {node : Node}
    {entries : List (String × Node)}
    {written : StringMap}
    (isMapping : node.content = .mapping entries)
    (distinct : Fields.Distinct entries)
    (areScalars : ∀ entry ∈ entries, ∃ leaf, entry.2.content = .scalar leaf)
    (texts :
      ∀ key, written.get? key = ((Fields.get? key entries).bind (leafAt? [])).map Scalar.text) :
    node.Alike (ofStringMap written) ↔
      ∀ entry ∈ entries,
        ∃ leaf, entry.2.content = .scalar leaf ∧ leaf.value = .text leaf.text := by
  have writtenDistinct := (wellFormed_mapping.1 (wellFormed_ofStringMap written)).distinct
  have atEntry {key : String} {entry : Node} {leaf : Scalar}
      (found : Fields.get? key entries = some entry) (isScalar : entry.content = .scalar leaf) :
      AlikeAt (Fields.get? key entries) ((written.get? key).map ofText) ↔
        leaf.value = .text leaf.text := by
    rw [texts, found, Option.bind_some, leafAt?, scalar?_eq_some.2 isScalar, Option.map_some,
      Option.map_some, AlikeAt, ← alike_content_left, isScalar, ofText, alike_scalars,
      Scalar.same_ofText]
  rw [← alike_content_left, isMapping, ofStringMap, alike_mappings writtenDistinct]
  simp only [get?_entryNodes]
  constructor
  · intro alikeAt entry member
    rcases areScalars entry member with ⟨leaf, isScalar⟩
    have found : Fields.get? entry.1 entries = some entry.2 := Fields.get?_of_mem distinct member
    exact ⟨leaf, isScalar, (atEntry found isScalar).1 (alikeAt entry.1)⟩
  · intro areTexts key
    cases found : Fields.get? key entries with
    | none =>
        change AlikeAt none ((written.get? key).map ofText)
        rw [texts, found]
        trivial
    | some entry =>
        rcases areTexts (key, entry) (Fields.mem_of_get? found) with ⟨leaf, isScalar, isText⟩
        exact found ▸ (atEntry found isScalar).2 isText

/-- For the texts of scalars nothing is written exactly if there are no scalars. -/
theorem isEmpty_iff_of_texts
    {entries : List (String × Node)}
    {written : StringMap}
    (areScalars : ∀ entry ∈ entries, ∃ leaf, entry.2.content = .scalar leaf)
    (texts :
      ∀ key, written.get? key = ((Fields.get? key entries).bind (leafAt? [])).map Scalar.text) :
    written.isEmpty = true ↔ entries = [] := by
  constructor
  · intro isEmpty
    cases entries with
    | nil => rfl
    | cons first rest =>
        have absent := StringMap.isEmpty_iff.1 isEmpty first.1
        rcases areScalars first List.mem_cons_self with ⟨leaf, isScalar⟩
        rw [texts, Fields.get?_cons_same, Option.bind_some, leafAt?,
          scalar?_eq_some.2 isScalar] at absent
        cases absent
  · rintro rfl
    exact StringMap.isEmpty_iff.2 texts

/-- What is written for the texts of a node is alike it exactly if they are its contents. -/
theorem alikeAt_writtenMap_of_open
    {node : Node}
    {entries : List (String × Node)}
    {written : StringMap}
    (wellFormed : node.WellFormed)
    (opens : node.openFields? = some entries)
    (areScalars : ∀ entry ∈ entries, ∃ leaf, entry.2.content = .scalar leaf)
    (texts :
      ∀ key, written.get? key = ((Fields.get? key entries).bind (leafAt? [])).map Scalar.text) :
    AlikeAt (some node) (writtenMap written) ↔ node.IsTextMap := by
  have empty := isEmpty_iff_of_texts areScalars texts
  rw [writtenMap]
  by_cases isEmpty : entries = []
  · rw [if_pos (empty.2 isEmpty)]
    refine iff_of_false id ?_
    rintro ⟨others, isMapping, notEmpty, _⟩
    cases opens.symm.trans (openFields?_of_content isMapping)
    exact notEmpty isEmpty
  · have isMapping : node.content = .mapping entries := by
      rcases openFields?_eq_some.1 opens with isMapping | ⟨_, areNone⟩
      · exact isMapping
      · exact absurd areNone isEmpty
    have distinct : Fields.Distinct entries := (wellFormed.fieldsAt? [] opens).distinct
    rw [if_neg fun written => isEmpty (empty.1 written), AlikeAt,
      alike_ofStringMap_iff isMapping distinct areScalars texts]
    constructor
    · intro areTexts
      exact ⟨entries, isMapping, isEmpty, areTexts⟩
    · rintro ⟨_, sameMapping, _, areTexts⟩
      cases isMapping.symm.trans sameMapping
      exact areTexts

/-- Annotations are alike what is written for them exactly if they are absent or texts. -/
theorem alikeAt_writtenMap_iff
    {annotations : Option Node}
    {field : String}
    {map written : StringMap}
    (wellFormed : ∀ node, annotations = some node → node.WellFormed)
    (reads : Metadata.stringMap annotations field = .ok map)
    (sameTexts : ∀ key, written.get? key = map.get? key) :
    AlikeAt annotations (writtenMap written) ↔
      ∀ node, annotations = some node → node.IsTextMap := by
  have texts (key : String) := (sameTexts key).trans (Metadata.get?_stringMap wellFormed reads)
  cases annotations with
  | none =>
      rw [writtenMap, if_pos (StringMap.isEmpty_iff.2 texts)]
      refine iff_of_true trivial ?_
      intro node isPresent
      cases isPresent
  | some node =>
      rcases Metadata.stringMap_eq_ok.1 ⟨map, reads⟩ with ⟨entries, opens, areScalars⟩
      rw [Option.getD_some] at opens
      rw [alikeAt_writtenMap_of_open (wellFormed node rfl) opens areScalars]
      · simp
      · intro key
        rw [texts, Option.bind_some, leafAt?, child?_of_open opens]

/-! ## The section of a document -/

/-- A document has a section `metadata`, and both are mappings. -/
structure HasSection (node : Node) (fields inner : List (String × Node)) : Prop where
  isMapping : node.content = .mapping fields
  isSection :
    ∃ child, Fields.get? "metadata" fields = some child ∧ child.content = .mapping inner

variable
  {node : Node}
  {fields inner : List (String × Node)}

theorem HasSection.wellFormedFields
    (hasSection : node.HasSection fields inner)
    (wellFormed : node.WellFormed) :
    WellFormedFields fields ∧ WellFormedFields inner := by
  rcases hasSection with ⟨isMapping, child, found, isSection⟩
  have opens : node.fieldsAt? [] = some fields := openFields?_of_content isMapping
  have fieldsWellFormed : WellFormedFields fields := wellFormed.fieldsAt? [] opens
  have childOpens : child.fieldsAt? [] = some inner := openFields?_of_content isSection
  exact ⟨fieldsWellFormed, (fieldsWellFormed.get? found).fieldsAt? [] childOpens⟩

theorem HasSection.inside
    (hasSection : node.HasSection fields inner) :
    node.fieldsAt? ["metadata"] = some inner := by
  rcases hasSection with ⟨isMapping, child, found, isSection⟩
  rw [fieldsAt?_cons (openFields?_of_content isMapping), found]
  exact openFields?_of_content isSection

theorem HasSection.child?
    (hasSection : node.HasSection fields inner)
    (name : String) :
    node.child? name = Fields.get? name fields :=
  child?_of_open (openFields?_of_content hasSection.isMapping) name

/-- The fields below a name of the section are those that are found there. -/
theorem fieldsAt?_section
    (inside : node.fieldsAt? ["metadata"] = some inner)
    (name : String) :
    node.fieldsAt? ["metadata", name] = ((Fields.get? name inner).getD null).openFields? := by
  rcases Option.bind_eq_some_iff.1 inside with ⟨top, opensTop, _⟩
  rw [fieldsAt?_cons opensTop] at inside ⊢
  exact fieldsAt?_cons inside name []

/-- What is alike a document with a section has a section. -/
theorem hasSection_of_alike
    {left right : Node}
    (alike : left.Alike right)
    (wellFormed : right.WellFormed)
    (hasSection : right.HasSection fields inner) :
    ∃ others written, left.HasSection others written := by
  have distinct := (hasSection.wellFormedFields wellFormed).1.distinct
  rcases hasSection with ⟨isMapping, child, found, isSection⟩
  rcases mapping_of_alike alike isMapping with ⟨others, isLeft⟩
  rw [alike_contents isLeft isMapping, alike_mappings distinct] at alike
  have alikeSections := alike "metadata"
  cases isFound : Fields.get? "metadata" others with
  | none =>
      rw [isFound, found] at alikeSections
      exact alikeSections.elim
  | some other =>
      rw [isFound, found] at alikeSections
      rcases mapping_of_alike alikeSections isSection with ⟨written, isWritten⟩
      exact ⟨others, written, isLeft, other, isFound, isWritten⟩

/-- An edit of the section leaves the other fields alone. -/
theorem HasSection.edit
    (isMapping : node.content = .mapping fields)
    {child nextChild : Node}
    (found : Fields.get? "metadata" fields = some child)
    {written : List (String × Node)}
    (isWritten : nextChild.content = .mapping written)
    (edit : List (String × Node) → Edited (List (String × Node)))
    (edits : edit fields = .done () (Fields.modify "metadata" (fun _ => nextChild) fields)) :
    ∃ next others,
      editContent (editFields [] edit) node = .done () next ∧
        next.HasSection others written ∧ Metadata.AgreeBeside "metadata" fields others := by
  rcases editContent_editFields (openFields?_of_content isMapping) [] edit with
    ⟨next, editsNode, isNext⟩
  rw [edits] at editsNode isNext
  refine ⟨next, _, editsNode, ⟨isNext, nextChild, ?_, isWritten⟩, ?_⟩
  · change Fields.get? "metadata" (Fields.modify "metadata" (fun _ => nextChild) fields) = _
    rw [Fields.get?_modify_same, found]
    rfl
  · intro other different
    exact Fields.get?_modify_other different _ fields

/-! ## Other annotations in the section -/

/--
A document becomes another one that has given annotations in its section, and agrees
with it on everything beside them.
-/
def Becomes (node next : Node) (annotations : Option Node) : Prop :=
  ∃ fields inner others written,
    node.HasSection fields inner ∧
      next.HasSection others written ∧
        Metadata.AgreeBeside "metadata" fields others ∧
          Metadata.AgreeBeside "annotations" inner written ∧
            Fields.get? "annotations" written = annotations

/-- A document becomes itself with its annotations. -/
theorem HasSection.becomes_self
    (hasSection : node.HasSection fields inner) :
    node.Becomes node (Fields.get? "annotations" inner) :=
  ⟨fields, inner, fields, inner, hasSection, hasSection, fun _ _ => rfl, fun _ _ => rfl, rfl⟩

theorem HasSection.unique
    {others written : List (String × Node)}
    (hasSection : node.HasSection fields inner)
    (other : node.HasSection others written) :
    others = fields ∧ written = inner := by
  rcases hasSection with ⟨isMapping, child, found, isSection⟩
  rcases other with ⟨otherIsMapping, otherChild, otherFound, otherIsSection⟩
  cases isMapping.symm.trans otherIsMapping
  cases found.symm.trans otherFound
  cases isSection.symm.trans otherIsSection
  exact ⟨rfl, rfl⟩

theorem Becomes.trans
    {middle next : Node}
    {first second : Option Node}
    (becomesFirst : node.Becomes middle first)
    (becomesSecond : middle.Becomes next second) :
    node.Becomes next second := by
  rcases becomesFirst with
    ⟨fields, inner, _, _, hasSection, middleHasSection, beside, within, _⟩
  rcases becomesSecond with
    ⟨_, _, others, written, sameSection, nextHasSection, besideNext, withinNext, found⟩
  rcases middleHasSection.unique sameSection with ⟨rfl, rfl⟩
  refine ⟨fields, inner, others, written, hasSection, nextHasSection, ?_, ?_, found⟩
  · intro name different
    rw [besideNext name different, beside name different]
  · intro name different
    rw [withinNext name different, within name different]

/-- Of alike documents that get other annotations, only these decide whether they are alike. -/
theorem Becomes.alike_iff
    {left right nextLeft nextRight : Node}
    {leftAnnotations rightAnnotations : Option Node}
    (becomesLeft : left.Becomes nextLeft leftAnnotations)
    (becomesRight : right.Becomes nextRight rightAnnotations)
    (alike : left.Alike right)
    (wellFormed : right.WellFormed)
    (nextWellFormed : nextRight.WellFormed) :
    nextLeft.Alike nextRight ↔ AlikeAt leftAnnotations rightAnnotations := by
  rcases becomesLeft with
    ⟨_, _, _, _, leftSection, nextLeftSection, besideLeft, withinLeft, foundLeft⟩
  rcases becomesRight with
    ⟨_, _, _, _, rightSection, nextRightSection, besideRight, withinRight, foundRight⟩
  have distinct := rightSection.wellFormedFields wellFormed
  have distinctNext := nextRightSection.wellFormedFields nextWellFormed
  rcases leftSection with ⟨isLeft, leftChild, atLeft, isLeftChild⟩
  rcases rightSection with ⟨isRight, rightChild, atRight, isRightChild⟩
  rcases nextLeftSection with ⟨isNextLeft, nextLeftChild, atNextLeft, isNextLeftChild⟩
  rcases nextRightSection with ⟨isNextRight, nextRightChild, atNextRight, isNextRightChild⟩
  rw [alike_contents isLeft isRight] at alike
  have alikeSections := (alike_mappings distinct.1.distinct).1 alike "metadata"
  rw [atLeft, atRight, AlikeAt, alike_contents isLeftChild isRightChild] at alikeSections
  rw [alike_contents isNextLeft isNextRight,
    alike_of_agreeBeside distinct.1.distinct distinctNext.1.distinct alike besideLeft besideRight,
    atNextLeft, atNextRight, AlikeAt, alike_contents isNextLeftChild isNextRightChild,
    alike_of_agreeBeside distinct.2.distinct distinctNext.2.distinct alikeSections withinLeft
      withinRight,
    foundLeft, foundRight]

/-- Annotations are written into the section, beside what it holds. -/
theorem HasSection.setAnnotations
    (hasSection : node.HasSection fields inner)
    (distinct : Fields.Distinct inner)
    (annotations : StringMap) :
    ∃ next,
      node.setAnnotations annotations = .done () next ∧
        node.Becomes next (writtenMap annotations) := by
  have isThere := hasSection
  rcases hasSection with ⟨isMapping, child, found, isSection⟩
  have childOpens := openFields?_of_content isSection
  rw [Node.setAnnotations, writeStringMap, writtenMap]
  cases isEmpty : annotations.isEmpty with
  | true =>
      rw [if_pos rfl, if_pos rfl, clearField,
        editContent_unlessNull_of_not_null (by rw [isNull, isMapping])]
      rcases
          editContent_editFields childOpens ["metadata"] fun inner =>
            .done () (Fields.remove "annotations" inner) with
        ⟨nextChild, editsChild, isWritten⟩
      have clears :
          editField "metadata" (clearField ["metadata"] [] "annotations") fields =
            .done () (Fields.modify "metadata" (fun _ => nextChild) fields) := by
        rw [editField_of_get? found, clearField,
          editContent_unlessNull_of_not_null (by rw [isNull, isSection]), editsChild]
        rfl
      rcases HasSection.edit isMapping found isWritten _ clears with
        ⟨next, others, edits, nextHasSection, beside⟩
      exact
        ⟨next, edits, fields, inner, others, _, isThere, nextHasSection, beside,
          Metadata.agreeBeside_remove "annotations" inner,
          Fields.get?_remove_same distinct "annotations"⟩
  | false =>
      rw [if_neg Bool.false_ne_true, if_neg Bool.false_ne_true, writeField]
      rcases
          editContent_editFields childOpens ["metadata"] fun inner =>
            .done () (Fields.set "annotations" (ofStringMap annotations) inner) with
        ⟨nextChild, editsChild, isWritten⟩
      let edit (fields : List (String × Node)) : Edited (List (String × Node)) :=
        editField "metadata" (writeField ["metadata"] [] "annotations" (ofStringMap annotations))
          (Fields.ensure "metadata" null fields)
      have writes :
          edit fields = .done () (Fields.modify "metadata" (fun _ => nextChild) fields) := by
        have present : Fields.ensure "metadata" null fields = fields := by
          rw [Fields.ensure, Fields.contains, found]
          rfl
        simp only [edit]
        rw [present, editField_of_get? found, writeField, editsChild]
        rfl
      rcases HasSection.edit isMapping found isWritten edit writes with
        ⟨next, others, edits, nextHasSection, beside⟩
      exact
        ⟨next, edits, fields, inner, others, _, isThere, nextHasSection, beside,
          Metadata.agreeBeside_set "annotations" (ofStringMap annotations) inner,
          Fields.get?_set_same "annotations" (ofStringMap annotations) inner⟩

end Node

end Manifest
