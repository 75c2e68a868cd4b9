import Manifest.Proofs.Node.Leaf
import Manifest.Yaml.Printer

/-!
# Documents as they are printed

Printing shows the value of a scalar in one form and no wrappers.  The printed
document is what is left of a document then: every scalar that is no text has the
printed form of its value as its spelling.

A scalar is settled if its text survives this.  What the metadata says in a
printed document is what it said before exactly where the scalars are settled.
-/

namespace Manifest

namespace Scalar

/-- The scalar with the printed form of its value as its spelling. -/
def printed (leaf : Scalar) : Scalar :=
  spelled leaf.value leaf.value.toAtom.content

/-- The text of the scalar is that of its printed form. -/
def IsSettled (leaf : Scalar) : Prop :=
  leaf.printed.text = leaf.text

instance (leaf : Scalar) : Decidable leaf.IsSettled :=
  inferInstanceAs (Decidable (_ = _))

@[simp]
theorem value_printed (leaf : Scalar) :
    leaf.printed.value = leaf.value := by
  rcases leaf with ⟨value, spelling⟩
  cases value <;> rfl

@[simp]
theorem isNull_printed (leaf : Scalar) :
    leaf.printed.isNull = leaf.isNull := by
  rw [isNull, isNull, value_printed]

/-- Nothing is settled, since its text is empty however it is spelled. -/
theorem isSettled_of_isNull
    {leaf : Scalar}
    (isNull : leaf.isNull = true) :
    leaf.IsSettled := by
  rw [IsSettled, text, text, isNull_printed, if_pos isNull, if_pos isNull]

theorem isSettled_ofText (content : String) :
    (ofText content).IsSettled :=
  rfl

end Scalar

namespace Node

mutual

/-- The document as it is printed. -/
def printed : Node → Node
  | document inner => inner.printed
  | reference _ target => target.printed
  | mapping fields => mapping (printedFields fields)
  | sequence items => sequence (printedItems items)
  | scalar leaf => scalar leaf.printed

/-- Items as they are printed. -/
def printedItems : List Node → List Node
  | [] => []
  | item :: rest => item.printed :: printedItems rest

/-- Fields as they are printed. -/
def printedFields : List (String × Node) → List (String × Node)
  | [] => []
  | (name, node) :: rest => (name, node.printed) :: printedFields rest

end

/-! ## Parts of printed documents -/

theorem printedItems_eq_map (items : List Node) :
    printedItems items = items.map printed := by
  induction items with
  | nil => rfl
  | cons item rest inductionHypothesis =>
      rw [printedItems, inductionHypothesis, List.map_cons]

theorem printedFields_eq_map (fields : List (String × Node)) :
    printedFields fields = fields.map fun field => (field.1, field.2.printed) := by
  induction fields with
  | nil => rfl
  | cons field rest inductionHypothesis =>
      rw [printedFields, inductionHypothesis, List.map_cons]

@[simp]
theorem get?_printedFields
    (name : String)
    (fields : List (String × Node)) :
    Fields.get? name (printedFields fields) = (Fields.get? name fields).map printed := by
  rw [printedFields_eq_map]
  exact Fields.get?_mapContents printed name fields

@[simp]
theorem printed_content (node : Node) :
    node.content.printed = node.printed :=
  read_content (fun _ => rfl) (fun _ _ => rfl) node

/-- A printed document has no wrappers. -/
@[simp]
theorem content_printed (node : Node) :
    node.printed.content = node.printed := by
  induction node using contentInduction with
  | document inner inductionHypothesis => exact inductionHypothesis
  | reference anchor target inductionHypothesis => exact inductionHypothesis
  | mapping fields => rfl
  | sequence items => rfl
  | scalar leaf => rfl

theorem printed_of_mapping
    {node : Node}
    {fields : List (String × Node)}
    (isMapping : node.content = .mapping fields) :
    node.printed = .mapping (printedFields fields) := by
  rw [← printed_content, isMapping]
  rfl

theorem printed_of_scalar
    {node : Node}
    {leaf : Scalar}
    (isScalar : node.content = .scalar leaf) :
    node.printed = .scalar leaf.printed := by
  rw [← printed_content, isScalar]
  rfl

@[simp]
theorem isNull_printed (node : Node) :
    node.printed.isNull = node.isNull := by
  rw [isNull, isNull, content_printed]
  rcases content_cases node with ⟨fields, isMapping⟩ | ⟨items, isSequence⟩ | ⟨leaf, isScalar⟩
  · rw [printed_of_mapping isMapping, isMapping]
  · rw [← printed_content, isSequence]
    rfl
  · rw [printed_of_scalar isScalar, isScalar]
    exact Scalar.isNull_printed leaf

theorem mapping?_printed (node : Node) :
    node.printed.mapping? = node.mapping?.map printedFields := by
  rw [mapping?, mapping?, content_printed]
  rcases content_cases node with ⟨fields, isMapping⟩ | ⟨items, isSequence⟩ | ⟨leaf, isScalar⟩
  · rw [printed_of_mapping isMapping, isMapping]
    rfl
  · rw [← printed_content, isSequence]
    rfl
  · rw [printed_of_scalar isScalar, isScalar]
    rfl

theorem scalar?_printed (node : Node) :
    node.printed.scalar? = node.scalar?.map Scalar.printed := by
  rw [scalar?, scalar?, content_printed]
  rcases content_cases node with ⟨fields, isMapping⟩ | ⟨items, isSequence⟩ | ⟨leaf, isScalar⟩
  · rw [printed_of_mapping isMapping, isMapping]
    rfl
  · rw [← printed_content, isSequence]
    rfl
  · rw [printed_of_scalar isScalar, isScalar]
    rfl

theorem openFields?_printed (node : Node) :
    node.printed.openFields? = node.openFields?.map printedFields := by
  rw [openFields?, openFields?, content_printed]
  rcases content_cases node with ⟨fields, isMapping⟩ | ⟨items, isSequence⟩ | ⟨leaf, isScalar⟩
  · rw [printed_of_mapping isMapping, isMapping]
    rfl
  · rw [← printed_content, isSequence]
    rfl
  · rw [printed_of_scalar isScalar, isScalar]
    cases leafIsNull : leaf.isNull <;> simp [leafIsNull, printedFields]

theorem child?_printed
    (name : String)
    (node : Node) :
    node.printed.child? name = (node.child? name).map printed := by
  rw [child?, child?, mapping?_printed]
  cases node.mapping? with
  | none => rfl
  | some fields => exact get?_printedFields name fields

theorem fieldsAt?_printed (parents : List String) :
    ∀ {node : Node} {fields : List (String × Node)},
      node.fieldsAt? parents = some fields →
      node.printed.fieldsAt? parents = some (printedFields fields) := by
  induction parents with
  | nil =>
      intro node fields opens
      rw [fieldsAt?] at opens ⊢
      rw [openFields?_printed, opens]
      rfl
  | cons parent rest inductionHypothesis =>
      intro node fields opens
      rcases Option.bind_eq_some_iff.1 opens with ⟨top, opensTop, _⟩
      have printedOpens : node.printed.openFields? = some (printedFields top) := by
        rw [openFields?_printed, opensTop]
        rfl
      rw [fieldsAt?_cons opensTop] at opens
      rw [fieldsAt?_cons printedOpens, get?_printedFields]
      cases found : Fields.get? parent top with
      | none =>
          rw [found, Option.getD_none, fieldsAt?_null] at opens
          cases opens
          exact fieldsAt?_null rest
      | some child =>
          rw [found, Option.getD_some] at opens
          exact inductionHypothesis opens

theorem distinct_printedFields
    {fields : List (String × Node)}
    (distinct : Fields.Distinct fields) :
    Fields.Distinct (printedFields fields) := by
  have sameNames : Fields.names (printedFields fields) = Fields.names fields := by
    simp [Fields.names, printedFields_eq_map]
  rw [Fields.Distinct, sameNames]
  exact distinct

/-- Printing keeps a document well-formed. -/
theorem WellFormed.printed
    {node : Node}
    (wellFormed : node.WellFormed) :
    node.printed.WellFormed := by
  induction wellFormed with
  | document _ inductionHypothesis => exact inductionHypothesis
  | @mapping fields distinct contents inductionHypothesis =>
      apply WellFormed.mapping (distinct_printedFields distinct)
      rw [printedFields_eq_map]
      intro field member
      rcases List.mem_map.1 member with ⟨old, isOld, rfl⟩
      exact inductionHypothesis old isOld
  | @sequence items isItems inductionHypothesis =>
      rw [Node.printed, printedItems_eq_map]
      apply WellFormed.sequence
      intro item member
      rcases List.mem_map.1 member with ⟨old, isOld, rfl⟩
      exact inductionHypothesis old isOld
  | scalar leaf => exact .scalar leaf.printed
  | reference _ inductionHypothesis => exact inductionHypothesis

/-! ## Leaves of printed documents -/

theorem leafAt?_printed (names : List String) :
    ∀ node : Node, node.printed.leafAt? names = (node.leafAt? names).map Scalar.printed := by
  induction names with
  | nil => exact scalar?_printed
  | cons name rest inductionHypothesis =>
      intro node
      rw [leafAt?, leafAt?, child?_printed]
      cases node.child? name with
      | none => rfl
      | some child => exact inductionHypothesis child

/-- The leaf at a list of names is settled, if there is one. -/
def SettledAt (names : List String) (node : Node) : Prop :=
  ∀ leaf, node.leafAt? names = some leaf → leaf.IsSettled

instance
    (names : List String)
    (node : Node) :
    Decidable (node.SettledAt names) :=
  decidable_of_iff (∀ leaf ∈ node.leafAt? names, leaf.IsSettled) Iff.rfl

theorem settledAt_of_absent
    {names : List String}
    {node : Node}
    (absent : node.leafAt? names = none) :
    node.SettledAt names := by
  intro leaf found
  rw [absent] at found
  cases found

theorem settledAt_of_leaf
    {names : List String}
    {node : Node}
    {leaf : Scalar}
    (found : node.leafAt? names = some leaf) :
    node.SettledAt names ↔ leaf.IsSettled := by
  constructor
  · intro settled
    exact settled leaf found
  · intro isSettled other foundOther
    cases found.symm.trans foundOther
    exact isSettled

/-- The text at a list of names stays exactly if the leaf there is settled. -/
theorem textAt_printed
    {names : List String}
    {node : Node} :
    node.printed.textAt names = node.textAt names ↔ node.SettledAt names := by
  rw [textAt, textAt, leafAt?_printed]
  cases found : node.leafAt? names with
  | none =>
      constructor
      · intro _
        exact settledAt_of_absent found
      · intro _
        rfl
  | some leaf =>
      rw [settledAt_of_leaf found]
      exact Iff.rfl

end Node

/-! ## Metadata of printed documents -/

namespace Metadata

theorem scalarText_printed
    {name text : String}
    {node : Option Node}
    (reads : scalarText name node = .ok text) :
    ∃ next, scalarText name (node.map Node.printed) = .ok next := by
  cases node with
  | none => exact ⟨text, reads⟩
  | some child =>
      rcases scalarText_eq_ok reads with ⟨leaf, isScalar, _⟩
      have printedScalar : child.printed.content = .scalar leaf.printed := by
        rw [Node.content_printed, Node.printed_of_scalar isScalar]
      exact ⟨leaf.printed.text, scalarText_of_scalar printedScalar name⟩

theorem stringMap_printed
    {field : String}
    {node : Option Node}
    {map : StringMap}
    (reads : stringMap node field = .ok map) :
    ∃ next, stringMap (node.map Node.printed) field = .ok next := by
  cases node with
  | none => exact ⟨map, reads⟩
  | some child =>
      rcases stringMap_eq_ok.1 ⟨map, reads⟩ with ⟨fields, opens, allScalars⟩
      rw [Option.getD_some] at opens
      refine stringMap_eq_ok.2 ⟨Node.printedFields fields, ?_, ?_⟩
      · rw [Option.map_some, Option.getD_some, Node.openFields?_printed, opens]
        rfl
      · intro entry member
        rw [Node.printedFields_eq_map] at member
        rcases List.mem_map.1 member with ⟨old, isOld, rfl⟩
        rcases allScalars old isOld with ⟨leaf, isScalar⟩
        refine ⟨leaf.printed, ?_⟩
        rw [Node.content_printed, Node.printed_of_scalar isScalar]

end Metadata

/-- A printed document has metadata if the document has. -/
theorem Node.metadata_printed
    {node : Node}
    {metadata : Metadata}
    (reads : node.metadata = .ok metadata) :
    ∃ next, node.printed.metadata = .ok next := by
  rcases Node.metadata_eq_ok.1 reads with ⟨inner, reads⟩
  rcases Metadata.scalarText_printed reads.apiVersion with ⟨apiVersion, readsApiVersion⟩
  rcases Metadata.scalarText_printed reads.kind with ⟨kind, readsKind⟩
  rcases Metadata.scalarText_printed reads.parts.name with ⟨name, readsName⟩
  rcases Metadata.scalarText_printed reads.parts.namespaceName with ⟨namespaceName, readsNamespace⟩
  rcases Metadata.stringMap_printed reads.parts.labels with ⟨labels, readsLabels⟩
  rcases Metadata.stringMap_printed reads.parts.annotations with ⟨annotations, readsAnnotations⟩
  refine ⟨{ apiVersion, kind, name, namespaceName, labels, annotations },
    Node.metadata_eq_ok.2 ⟨Node.printedFields inner, ?_⟩⟩
  refine ⟨?_, ?_, ?_, ?_, Node.fieldsAt?_printed ["metadata"] reads.inside, ?_, ?_, ?_, ?_⟩
  · rcases reads.isMapping with ⟨fields, isMapping⟩
    refine ⟨Node.printedFields fields, ?_⟩
    rw [Node.content_printed, Node.printed_of_mapping isMapping]
  · simp only [Node.child?_printed, Option.isSome_map]
    exact reads.identified
  · rw [Node.child?_printed]
    exact readsApiVersion
  · rw [Node.child?_printed]
    exact readsKind
  · rw [Node.get?_printedFields]
    exact readsName
  · rw [Node.get?_printedFields]
    exact readsNamespace
  · rw [Node.get?_printedFields]
    exact readsLabels
  · rw [Node.get?_printedFields]
    exact readsAnnotations

end Manifest
