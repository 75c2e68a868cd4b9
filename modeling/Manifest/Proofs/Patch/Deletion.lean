import Manifest.Proofs.Patch.Decoded
import Manifest.Proofs.Patch.Strategic

/-!
# Deletions that a patch asks for

A patch asks for a deletion at a list of names by nothing, or by a mapping with the
directive to delete, below mappings without a directive.

A mapping with the directive is gone in every case: where it is merged, and where it
is part of new content.  Nothing is a deletion only where fields are merged.  So the
target has to hold mappings all the way down to the last name; from the first name on
at which it does not, the patch is new content, and nothing stays in it as a field.
-/

namespace Manifest

open StrategicPatch

namespace StrategicPatch

/-! ## What a patch asks for, and what the target holds -/

/-- A document holds a node at a list of names, below mappings without a directive. -/
inductive PlainlyHolds (last : Node) : List String → Node → Prop where
  | here : PlainlyHolds last [] last
  | inside
      {node child : Node}
      {fields : List (String × Node)}
      {name : String}
      {rest : List String}
      (isMapping : node.content = .mapping fields)
      (noDirective : Fields.get? Directive.key fields = none)
      (noKey : Directive.isKey name = false)
      (found : Fields.get? name fields = some child)
      (holds : PlainlyHolds last rest child) :
      PlainlyHolds last (name :: rest) node

/-- A node of a patch asks for the deletion of what stands in its place. -/
inductive AsksDeletion (node : Node) : Prop where
  | nothing
      (isNull : node.isNull = true)
  | directive
      {fields : List (String × Node)}
      (isMapping : node.content = .mapping fields)
      (deletes : Directive.deletes fields = true)

/-- There is a mapping at every proper prefix of a list of names, the empty one included. -/
def HasMappings : List String → Option Node → Prop
  | [], _ => True
  | name :: rest, existing =>
      ∃ fields,
        existing = some (.mapping fields) ∧
          HasMappings rest ((Fields.get? name fields).map Node.content)

/-- The value at a list of names of what came out, if there is one. -/
def valueAt (names : List String) (result : Option Node) : Option Value :=
  result.bind fun node => node.toValue.getIn? names

theorem valueAt_mapping
    {fields : List (String × Node)}
    (distinct : Fields.Distinct fields)
    (name : String)
    (rest : List String) :
    valueAt (name :: rest) (some (.mapping fields)) = valueAt rest (Fields.get? name fields) := by
  rw [valueAt, Option.bind_some, Node.toValue, Value.getIn?, Node.get?_decoded distinct]
  cases Fields.get? name fields <;> rfl

theorem AsksDeletion.valueAt_strip
    {node : Node}
    (asks : AsksDeletion node) :
    valueAt [] (Directive.strip node) = none ↔ node.isNull = false := by
  cases asks with
  | nothing isNull =>
      rcases Node.isNull_eq_true.1 isNull with ⟨leaf, isScalar, _⟩
      simp [Directive.strip_of_scalar isScalar, valueAt, Value.getIn?, isNull]
  | directive isMapping deletes =>
      simp [Directive.strip_of_mapping isMapping, deletes, valueAt, Node.isNull, isMapping]

/-! ## New content -/

section

variable
  {last node : Node}
  {names : List String}

/-- In new content, a mapping that asks for its deletion is gone, and nothing stays. -/
theorem valueAt_strip
    (holds : PlainlyHolds last names node)
    (asks : AsksDeletion last)
    (wellFormed : node.WellFormed) :
    valueAt names (Directive.strip node) = none ↔ last.isNull = false := by
  induction holds with
  | here => exact asks.valueAt_strip
  | @inside node child fields name rest isMapping noDirective noKey found holds
      inductionHypothesis =>
      have isFields := Node.wellFormed_mapping.1 (isMapping ▸ wellFormed.content)
      have fromChild := inductionHypothesis (isFields.get? found)
      rw [Directive.strip_of_absent isMapping noDirective]
      show valueAt (name :: rest) (some (.mapping (Directive.stripFields fields))) = none ↔ _
      rw [valueAt_mapping (Directive.distinct_stripFields isFields.distinct),
        Directive.get?_stripFields isFields.distinct noKey, found]
      exact fromChild

/-! ## Merged content -/

/-- Merged content keeps nothing as a field only below what is no mapping in the target. -/
theorem valueAt_mergeNode
    (holds : PlainlyHolds last names node)
    (asks : AsksDeletion last)
    (wellFormed : node.WellFormed)
    (notNull : node.isNull = false)
    {field : String}
    {path : Path}
    {existing result : Option Node}
    (existingWellFormed : ∀ content, existing = some content → content.WellFormed)
    (merges : mergeNode field existing path node = .ok result) :
    valueAt names result = none ↔ last.isNull = false ∨ HasMappings names existing := by
  induction holds generalizing field path existing result with
  | here =>
      cases asks with
      | nothing isNull => simp [notNull] at isNull
      | directive isMapping deletes =>
          rcases (applied_of_mergeNode isMapping merges).outcome with ⟨_, rfl⟩ | ⟨notAsked, _⟩
          · exact iff_of_true rfl (Or.inl notNull)
          · simp [deletes] at notAsked
  | @inside node child fields name rest isMapping noDirective noKey found holds
      inductionHypothesis =>
      have isFields := Node.wellFormed_mapping.1 (isMapping ▸ wellFormed.content)
      rw [mergeNode_of_mapping isMapping] at merges
      rcases Result.map_eq_ok.1 merges with ⟨_, mergesMapping, rfl⟩
      by_cases hasMapping : ∃ target, existing = some (.mapping target)
      · rcases hasMapping with ⟨target, rfl⟩
        have targetFields := Node.wellFormed_mapping.1 (existingWellFormed _ rfl)
        rw [mergeOnto_of_merges (.inl noDirective)] at mergesMapping
        rcases Result.map_eq_ok.1 mergesMapping with ⟨merged, mergesFields, rfl⟩
        have becomes :=
          fieldMerges_of_mergeFields noKey isFields.distinct mergesFields targetFields.distinct rfl
        rw [found] at becomes
        show valueAt (name :: rest) (some (.mapping merged)) = none ↔ _
        rw [valueAt_mapping (distinct_mergeFields mergesFields targetFields.distinct)]
        have sameMappings :
            HasMappings (name :: rest) (some (.mapping target)) ↔
              HasMappings rest ((Fields.get? name target).map Node.content) := by
          simp [HasMappings]
        rw [sameMappings]
        generalize atName : Fields.get? name merged = after at becomes
        cases becomes with
        | clears isNull =>
            -- Nothing has no fields, so that it is the last of the names.
            cases holds with
            | here => exact iff_of_true rfl (Or.inr trivial)
            | inside isMapping => simp [Node.isNull, isMapping] at isNull
        | merges childNotNull mergesChild =>
            exact inductionHypothesis (isFields.get? found) childNotNull
              (targetFields.content_get? name) mergesChild
      · have noMapping : ∀ target, existing ≠ some (.mapping target) := by
          intro target isMapping
          exact hasMapping ⟨target, isMapping⟩
        rw [mergeOnto_of_noMapping noDirective noMapping, Except.ok.injEq] at mergesMapping
        have noMappings : ¬HasMappings (name :: rest) existing := by
          rintro ⟨target, isMapping, _⟩
          exact noMapping target isMapping
        have strips :=
          valueAt_strip (.inside isMapping noDirective noKey found holds) asks wellFormed
        rw [Directive.strip_of_absent isMapping noDirective] at strips
        rw [or_iff_left noMappings, ← strips, ← mergesMapping]
        rfl

end

/-! ## Patched documents -/

/--
Where a patch asks for a deletion, the patched document has no field, unless the patch
asks by nothing and the target is no mapping somewhere above: there it has nothing as a
field.
-/
theorem getIn?_apply_eq_none_iff
    {target patch result last : Node}
    {names : List String}
    (targetWellFormed : target.WellFormed)
    (patchWellFormed : patch.WellFormed)
    (notEmpty : names ≠ [])
    (holds : PlainlyHolds last names patch)
    (asks : AsksDeletion last)
    (applies : apply target patch = .ok (some result)) :
    result.toValue.getIn? names = none ↔
      last.isNull = false ∨ HasMappings names (some target.content) := by
  cases holds with
  | here => exact absurd rfl notEmpty
  | inside isMapping noDirective noKey found holdsBelow =>
      have merges : mergeNode "" (some target.content) [] patch = .ok (some result) := by
        rw [← apply_eq_mergeNode isMapping, applies]
      have notNull : patch.isNull = false := by
        simp [Node.isNull, isMapping]
      refine
        valueAt_mergeNode (.inside isMapping noDirective noKey found holdsBelow) asks
          patchWellFormed notNull ?_ merges
      rintro _ ⟨⟩
      exact targetWellFormed.content

/-- A document with a number of replicas. -/
def replicated : Node :=
  .mapping [("spec", .mapping [("paused", .ofText "no"), ("replicas", .ofText "2")])]

/-- A patch that asks for the deletion of the number. -/
def unreplicating : Node :=
  .mapping [("spec", .mapping [("replicas", .null)])]

theorem unreplicating_holds :
    PlainlyHolds .null ["spec", "replicas"] unreplicating :=
  .inside rfl rfl rfl rfl (.inside rfl rfl rfl rfl .here)

theorem wellFormed_unreplicating :
    unreplicating.WellFormed := by
  have isNull : Node.null.WellFormed := .scalar _
  simp [unreplicating, isNull, Fields.names]

/-- Nothing deletes a field of a mapping that the target has. -/
theorem getIn?_apply_replicated :
    ∃ result,
      apply replicated unreplicating = .ok (some result) ∧
      result.toValue.getIn? ["spec", "replicas"] = none := by
  have wellFormed : replicated.WellFormed := by
    simp [replicated, Fields.names]
  have applies :
      apply replicated unreplicating =
        .ok (some (.mapping [("spec", .mapping [("paused", .ofText "no")])])) :=
    rfl
  have hasMappings : HasMappings ["spec", "replicas"] (some replicated.content) :=
    ⟨_, rfl, _, rfl, trivial⟩
  exact ⟨_, applies,
    (getIn?_apply_eq_none_iff wellFormed wellFormed_unreplicating (by decide) unreplicating_holds
      (.nothing rfl) applies).2 (Or.inr hasMappings)⟩

/-- Below a field that the target does not have, nothing stays as a field. -/
theorem getIn?_apply_empty :
    PlainlyHolds .null ["spec", "replicas"] unreplicating ∧
      AsksDeletion .null ∧
      apply (.mapping []) unreplicating = .ok (some unreplicating) ∧
      unreplicating.toValue.getIn? ["spec", "replicas"] = some .null :=
  ⟨unreplicating_holds, .nothing rfl, rfl, rfl⟩

end StrategicPatch

end Manifest
