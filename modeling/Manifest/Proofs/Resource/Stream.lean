import Manifest.Proofs.Node.Metadata
import Manifest.Resource.Stream

/-!
# Documents of a stream

The documents that some documents stand for are no lists and do not say nothing,
so they stand for themselves.  What documents pass to their parts, such as being
well-formed, the documents that they stand for have too.
-/

namespace Manifest

namespace Node

/-- A document that stands for itself alone in a stream. -/
structure Standalone (node : Node) : Prop where
  notNull : node.isNull = false
  notList : node.isList = false

/-- A document with metadata stands for its items exactly if its kind says so. -/
theorem isList_of_metadata
    {node : Node}
    {metadata : Metadata}
    (reads : node.metadata = .ok metadata) :
    node.isList = (metadata.kind == "List") := by
  rcases metadata_eq_ok.1 reads with ⟨inner, reads⟩
  rcases reads.isMapping with ⟨fields, isMapping⟩
  have readsKind := reads.kind
  rw [child?_of_open (openFields?_of_content isMapping)] at readsKind
  rw [isList, field?, mapping?, isMapping, Option.bind_some]
  cases found : Fields.get? "kind" fields with
  | none =>
      rw [found] at readsKind
      rw [← Except.ok.inj readsKind]
      rfl
  | some child =>
      rw [found] at readsKind
      rcases Metadata.scalarText_eq_ok readsKind with ⟨leaf, isScalar, sameText⟩
      simp [isScalar, scalar?, content, sameText]

/-- Documents that stand for themselves are left as they are. -/
theorem expandAll_of_standalone
    {nodes : List Node}
    (standalone : ∀ node ∈ nodes, node.Standalone) :
    expandAll nodes = .ok nodes := by
  induction nodes with
  | nil => rfl
  | cons node rest inductionHypothesis =>
      have first : node.Standalone := standalone node List.mem_cons_self
      have others : expandAll rest = .ok rest :=
        inductionHypothesis fun other member => standalone other (List.mem_cons_of_mem _ member)
      rw [expandAll, expansion, if_neg (by rw [first.notNull]; decide),
        if_neg (by rw [first.notList]; decide), others]
      rfl

/-! ## Documents behind documents -/

/-- What passes from a node to its parts. -/
structure Hereditary (holds : Node → Prop) : Prop where
  document : ∀ inner, holds (.document inner) → holds inner
  reference : ∀ anchor target, holds (.reference anchor target) → holds target
  mapping : ∀ fields, holds (.mapping fields) → ∀ field ∈ fields, holds field.2
  sequence : ∀ items, holds (.sequence items) → ∀ item ∈ items, holds item

theorem hereditary_wellFormed : Hereditary WellFormed where
  document := by
    rintro inner (⟨isInner⟩)
    exact isInner
  reference := by
    rintro anchor target (_ | _ | _ | _ | ⟨isTarget⟩)
    exact isTarget
  mapping := by
    intro fields wellFormed
    exact (wellFormed_mapping.1 wellFormed).contents
  sequence := by
    rintro items (_ | _ | ⟨isItems⟩)
    exact isItems

/-- The documents that a document stands for have what it has, if this holds of its items. -/
theorem standalone_of_expansion
    {holds : Node → Prop}
    {node : Node}
    {items : Except DocumentError (List Node)}
    {found : List Node}
    (holdsNode : holds node)
    (ofItems : ∀ {nodes}, items = .ok nodes → ∀ item ∈ nodes, holds item ∧ item.Standalone)
    (expands : node.expansion items = .ok found) :
    ∀ item ∈ found, holds item ∧ item.Standalone := by
  rw [expansion] at expands
  split at expands
  · cases expands
    simp
  · rename_i notNull
    split at expands
    · exact ofItems expands
    · rename_i notList
      cases expands
      intro item member
      rw [List.mem_singleton.1 member]
      exact ⟨holdsNode, by simpa using notNull, by simpa using notList⟩

mutual

theorem standalone_of_expandContent
    {holds : Node → Prop}
    (hereditary : Hereditary holds) :
    ∀ {node : Node},
      holds node →
      ∀ {found : List Node},
        node.expandContent = .ok found → ∀ item ∈ found, holds item ∧ item.Standalone
  | .document inner, holdsNode, _, expands =>
      standalone_of_expandContent hereditary (hereditary.document inner holdsNode) expands
  | .reference anchor target, holdsNode, _, expands =>
      standalone_of_expandContent hereditary (hereditary.reference anchor target holdsNode) expands
  | .mapping fields, holdsNode, _, expands =>
      standalone_of_expandItemsField hereditary (hereditary.mapping fields holdsNode) expands
  | .sequence items, _, _, expands => by
      cases expands
      simp
  | .scalar leaf, _, _, expands => by
      cases expands
      simp

theorem standalone_of_expandItemsField
    {holds : Node → Prop}
    (hereditary : Hereditary holds) :
    ∀ {fields : List (String × Node)},
      (∀ field ∈ fields, holds field.2) →
      ∀ {found : List Node},
        expandItemsField fields = .ok found → ∀ item ∈ found, holds item ∧ item.Standalone
  | [], _, _, expands => by
      cases expands
      simp
  | (name, node) :: rest, contents, found, expands => by
      rw [expandItemsField] at expands
      split at expands
      · exact standalone_of_expandItems hereditary
          (contents (name, node) List.mem_cons_self) expands
      · exact standalone_of_expandItemsField hereditary
          (fun field member => contents field (List.mem_cons_of_mem _ member)) expands

theorem standalone_of_expandItems
    {holds : Node → Prop}
    (hereditary : Hereditary holds) :
    ∀ {node : Node},
      holds node →
      ∀ {found : List Node},
        node.expandItems = .ok found → ∀ item ∈ found, holds item ∧ item.Standalone
  | .document inner, holdsNode, _, expands =>
      standalone_of_expandItems hereditary (hereditary.document inner holdsNode) expands
  | .reference anchor target, holdsNode, _, expands =>
      standalone_of_expandItems hereditary (hereditary.reference anchor target holdsNode) expands
  | .sequence items, holdsNode, _, expands =>
      standalone_of_expandAll hereditary (hereditary.sequence items holdsNode) expands
  | .scalar leaf, _, _, expands => by
      rw [expandItems] at expands
      split at expands
      · cases expands
        simp
      · cases expands
  | .mapping _, _, _, expands => by cases expands

/--
The documents that some documents stand for stand for themselves, and have what
those have and pass to their parts.
-/
theorem standalone_of_expandAll
    {holds : Node → Prop}
    (hereditary : Hereditary holds) :
    ∀ {nodes : List Node},
      (∀ node ∈ nodes, holds node) →
      ∀ {found : List Node},
        expandAll nodes = .ok found → ∀ item ∈ found, holds item ∧ item.Standalone
  | [], _, _, expands => by
      cases expands
      simp
  | node :: rest, holdsNodes, found, expands => by
      simp only [expandAll, Result.bind_eq_ok] at expands
      rcases expands with ⟨first, expandsFirst, others, expandsRest, same⟩
      cases same
      have holdsNode : holds node := holdsNodes node List.mem_cons_self
      intro item member
      rcases List.mem_append.1 member with inFirst | inOthers
      · exact standalone_of_expansion holdsNode
          (fun expandsItems => standalone_of_expandContent hereditary holdsNode expandsItems)
          expandsFirst item inFirst
      · exact standalone_of_expandAll hereditary
          (fun other inRest => holdsNodes other (List.mem_cons_of_mem _ inRest))
          expandsRest item inOthers

end

end Node

end Manifest
