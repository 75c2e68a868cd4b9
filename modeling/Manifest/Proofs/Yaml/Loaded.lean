import Manifest.Proofs.Node.Printed
import Manifest.Proofs.Yaml.Constant.Printing
import Manifest.Yaml.Document

/-!
# Documents that are read

A document that is read from a YAML text has no wrappers, no mapping in it
repeats a name, and each of its scalars is regular: it is settled, or its text
and the text that is printed for it are both constants.  So a scalar that does
not survive printing stands for a truth value or a number, and neither of its
two texts can be mistaken for anything else.
-/

namespace Manifest

/-- The scalar is settled, or it is a constant before and after printing. -/
def Scalar.IsRegular (leaf : Scalar) : Prop :=
  leaf.IsSettled ∨ (Yaml.IsConstant leaf.text ∧ Yaml.IsConstant leaf.printed.text)

namespace Scalar

theorem spelled_of_notTextual
    {value : ScalarValue}
    (notTextual : value.toAtom.isTextual = false)
    (spelling : String) :
    spelled value spelling = ⟨value, some spelling⟩ := by
  cases value with
  | text content => cases notTextual
  | null => rfl
  | bool truth => rfl
  | int number => rfl
  | float number => rfl

theorem text_of_notTextual
    {leaf : Scalar}
    (notTextual : leaf.value.toAtom.isTextual = false) :
    leaf.text = leaf.literal := by
  rw [text, isNull]
  cases isValue : leaf.value with
  | null =>
      rw [isValue] at notTextual
      cases notTextual
  | bool truth => rfl
  | int number => rfl
  | float number => rfl
  | text content => rfl

/-- A truth value or a number is regular if its literal is a constant. -/
theorem isRegular_of_constant
    {leaf : Scalar}
    (notTextual : leaf.value.toAtom.isTextual = false)
    (isConstant : Yaml.IsConstant leaf.literal) :
    leaf.IsRegular := by
  have printedLiteral : leaf.printed.literal = leaf.value.toAtom.content := by
    rw [printed, spelled_of_notTextual notTextual]
    rfl
  have printedNotTextual : leaf.printed.value.toAtom.isTextual = false := by
    rw [value_printed]
    exact notTextual
  refine Or.inr ⟨?_, ?_⟩
  · rw [text_of_notTextual notTextual]
    exact isConstant
  · rw [text_of_notTextual printedNotTextual, printedLiteral]
    exact Yaml.Atom.isConstant_content notTextual

end Scalar

/-- What holds of the documents that are read. -/
inductive Node.Loaded : Node → Prop where
  | mapping
      {fields : List (String × Node)}
      (distinct : Fields.Distinct fields)
      (contents : ∀ field ∈ fields, Loaded field.2) :
      Loaded (.mapping fields)
  | sequence
      {items : List Node}
      (isItems : ∀ item ∈ items, Loaded item) :
      Loaded (.sequence items)
  | scalar
      {leaf : Scalar}
      (regular : leaf.IsRegular) :
      Loaded (.scalar leaf)

/-! ## Parts of loaded documents -/

namespace Node.Loaded

theorem wellFormed
    {node : Node}
    (loaded : node.Loaded) :
    node.WellFormed := by
  induction loaded with
  | mapping distinct _ inductionHypothesis => exact .mapping distinct inductionHypothesis
  | sequence _ inductionHypothesis => exact .sequence inductionHypothesis
  | @scalar leaf regular => exact .scalar leaf

theorem child?
    {node child : Node}
    (loaded : node.Loaded)
    {name : String}
    (found : node.child? name = some child) :
    child.Loaded := by
  cases loaded with
  | mapping distinct contents => exact contents (name, child) (Fields.mem_of_get? found)
  | sequence isItems => cases found
  | scalar regular => cases found

theorem regular
    {leaf : Scalar}
    (names : List String) :
    ∀ {node : Node}, node.Loaded → node.leafAt? names = some leaf → leaf.IsRegular := by
  induction names with
  | nil =>
      intro node loaded found
      cases loaded with
      | mapping distinct contents => cases found
      | sequence isItems => cases found
      | scalar regular =>
          cases found
          exact regular
  | cons name rest inductionHypothesis =>
      intro node loaded found
      rcases Option.bind_eq_some_iff.1 found with ⟨child, isChild, foundBelow⟩
      exact inductionHypothesis (loaded.child? isChild) foundBelow

end Node.Loaded

/-! ## Resolved trees -/

namespace Yaml

/-- The scalars in a tree that are neither nothing nor texts are written as constants. -/
inductive Tree.Regular : Tree → Prop where
  | scalar
      {atom : Atom}
      {spelling : String}
      (written : atom.isTextual = false → IsConstant spelling) :
      Regular (.scalar atom spelling)
  | sequence
      {items : List Tree}
      (isItems : ∀ item ∈ items, Regular item) :
      Regular (.sequence items)
  | mapping
      {entries : List (Tree × Tree)}
      (contents : ∀ entry ∈ entries, Regular entry.2) :
      Regular (.mapping entries)
  | tagged
      {tag : String}
      {inner : Tree}
      (isInner : Regular inner) :
      Regular (.tagged tag inner)

theorem Tree.Regular.underTag
    {tree : Tree}
    (regular : tree.Regular)
    (tag : Option Tag) :
    (Yaml.underTag tag tree).Regular := by
  rw [Yaml.underTag]
  split
  · exact .tagged regular
  · exact regular

theorem regular_of_scalarTree?
    {tag : Option Tag}
    {style : ScalarStyle}
    {content : String}
    {tree : Tree}
    (resolves : scalarTree? tag style content = some tree) :
    tree.Regular := by
  rw [scalarTree?] at resolves
  rcases Option.map_eq_some_iff.1 resolves with ⟨atom, reads, rfl⟩
  apply Tree.Regular.underTag
  apply Tree.Regular.scalar
  intro notTextual
  split at reads
  · exact Atom.isConstant_of_ofTagged? reads notTextual
  · rw [Atom.ofStyled?] at reads
    split at reads
    · exact Atom.isConstant_of_ofPlain? reads notTextual
    · cases reads
      cases notTextual

namespace SkeletonDocument

theorem bind_eq_some
    {α β : Type}
    {first : Expand α}
    {next : α → Expand β}
    {count : Nat}
    {result : β × Nat} :
    (first >>= next).run count = some result ↔
      ∃ middle, first.run count = some middle ∧ (next middle.1).run middle.2 = some result := by
  rw [StateT.run_bind]
  exact Option.bind_eq_some_iff

/-- Each result of a list of expansions is that of an expansion. -/
theorem exists_of_mem_mapM
    {α β : Type}
    {expand : α → Expand β}
    {items : List α} :
    ∀ {count : Nat} {results : List β × Nat},
      (items.mapM expand).run count = some results →
      ∀ result ∈ results.1,
        ∃ item ∈ items, ∃ before after, (expand item).run before = some (result, after) := by
  induction items with
  | nil =>
      intro count results succeeds
      cases succeeds
      simp
  | cons item rest inductionHypothesis =>
      intro count results succeeds result member
      rw [List.mapM_cons] at succeeds
      simp only [bind_eq_some] at succeeds
      rcases succeeds with ⟨first, expandsFirst, others, expandsRest, same⟩
      cases same
      rcases List.mem_cons.1 member with rfl | inRest
      · exact ⟨item, List.mem_cons_self, count, first.2, expandsFirst⟩
      · rcases inductionHypothesis expandsRest result inRest with ⟨other, isOther, expands⟩
        exact ⟨other, List.mem_cons_of_mem item isOther, expands⟩

/-- The tree of a node is regular. -/
theorem regular_of_expandNode
    (document : SkeletonDocument)
    (fuel : Nat) :
    ∀ {depth : Nat} {node : Skeleton} {count : Nat} {result : Tree × Nat},
      (document.expandNode fuel depth node).run count = some result → result.1.Regular := by
  induction fuel with
  | zero =>
      intro depth node count result expands
      cases expands
  | succ fuel inductionHypothesis =>
      intro depth node count result expands
      cases node with
      | reference number =>
          rw [expandNode, bind_eq_some] at expands
          rcases expands with ⟨_, _, expands⟩
          split at expands
          · exact inductionHypothesis expands
          · cases expands
      | scalar tag style content =>
          rw [expandNode] at expands
          split at expands
          · rename_i resolves
            cases expands
            exact regular_of_scalarTree? resolves
          · cases expands
      | sequence tag items =>
          rw [expandNode] at expands
          split at expands
          · cases expands
          · rw [bind_eq_some] at expands
            rcases expands with ⟨trees, expandsAll, same⟩
            cases same
            apply Tree.Regular.underTag
            apply Tree.Regular.sequence
            intro tree member
            rcases exists_of_mem_mapM expandsAll tree member with
              ⟨item, _, before, after, expandsItem⟩
            exact inductionHypothesis expandsItem
      | mapping tag entries =>
          rw [expandNode] at expands
          split at expands
          · cases expands
          · rw [bind_eq_some] at expands
            rcases expands with ⟨pairs, expandsAll, same⟩
            cases same
            apply Tree.Regular.underTag
            apply Tree.Regular.mapping
            intro pair member
            rcases exists_of_mem_mapM expandsAll pair member with
              ⟨entry, _, before, after, expandsEntry⟩
            simp only [bind_eq_some] at expandsEntry
            rcases expandsEntry with ⟨key, _, value, expandsValue, same⟩
            cases same
            exact inductionHypothesis expandsValue

theorem regular_of_expand?
    {document : SkeletonDocument}
    {tree : Tree}
    (expands : document.expand? = some tree) :
    tree.Regular := by
  rw [expand?] at expands
  split at expands
  · cases expands
    exact .scalar fun notTextual => by cases notTextual
  · rcases Option.map_eq_some_iff.1 expands with ⟨result, expandsRoot, rfl⟩
    exact regular_of_expandNode document _ expandsRoot

end SkeletonDocument

/-! ## Nodes of trees -/

theorem isTextual_toScalarValue (atom : Atom) :
    atom.toScalarValue.toAtom.isTextual = atom.isTextual := by
  cases atom with
  | null => rfl
  | bool truth => rfl
  | int number =>
      rw [Atom.toScalarValue, ScalarValue.ofInt]
      split <;> rfl
  | float number => rfl
  | text content => rfl

/-- The scalar of an atom with or without its spelling is regular. -/
theorem isRegular_leaf
    {atom : Atom}
    {spelling : String}
    (written : atom.isTextual = false → IsConstant spelling)
    (keepSpelling : Bool) :
    (Tree.leaf keepSpelling atom spelling).IsRegular := by
  cases textual : atom.isTextual with
  | true =>
      cases atom with
      | null => cases keepSpelling <;> exact Or.inl (Scalar.isSettled_of_isNull rfl)
      | text content => cases keepSpelling <;> exact Or.inl (Scalar.isSettled_ofText content)
      | bool truth => cases textual
      | int number => cases textual
      | float number => cases textual
  | false =>
      have notTextual : atom.toScalarValue.toAtom.isTextual = false := by
        rw [isTextual_toScalarValue, textual]
      cases keepSpelling with
      | true =>
          rw [Tree.leaf, if_pos rfl, Scalar.spelled_of_notTextual notTextual]
          exact Scalar.isRegular_of_constant notTextual (written textual)
      | false =>
          exact Scalar.isRegular_of_constant notTextual
            (ScalarValue.isConstant_literal notTextual)

mutual

theorem Tree.Regular.loaded :
    ∀ {tree : Tree}, tree.Regular → ∀ keepSpelling : Bool, (tree.toNode keepSpelling).Loaded
  | .scalar atom spelling, .scalar written, keepSpelling =>
      .scalar (isRegular_leaf written keepSpelling)
  | .sequence items, .sequence isItems, keepSpelling =>
      .sequence (loaded_itemNodes isItems keepSpelling)
  | .mapping entries, .mapping contents, keepSpelling => by
      rcases Fields.distinct_ofPairs (Tree.entryNodes keepSpelling entries) with
        ⟨distinct, arePairs⟩
      rw [Tree.toNode]
      apply Node.Loaded.mapping distinct
      intro field member
      exact loaded_entryNodes contents keepSpelling field (arePairs field member)
  | .tagged tag inner, .tagged isInner, _ => isInner.loaded false

theorem loaded_itemNodes :
    ∀ {items : List Tree},
      (∀ item ∈ items, item.Regular) →
      ∀ keepSpelling : Bool, ∀ node ∈ Tree.itemNodes keepSpelling items, node.Loaded
  | [], _, _ => by simp [Tree.itemNodes]
  | item :: rest, isItems, keepSpelling => by
      intro node member
      rw [Tree.itemNodes] at member
      rcases List.mem_cons.1 member with rfl | inRest
      · exact (isItems item List.mem_cons_self).loaded keepSpelling
      · exact loaded_itemNodes
          (fun other isOther => isItems other (List.mem_cons_of_mem _ isOther))
          keepSpelling node inRest

theorem loaded_entryNodes :
    ∀ {entries : List (Tree × Tree)},
      (∀ entry ∈ entries, entry.2.Regular) →
      ∀ keepSpelling : Bool, ∀ field ∈ Tree.entryNodes keepSpelling entries, field.2.Loaded
  | [], _, _ => by simp [Tree.entryNodes]
  | (key, value) :: rest, contents, keepSpelling => by
      intro field member
      rw [Tree.entryNodes] at member
      rcases List.mem_cons.1 member with rfl | inRest
      · exact (contents (key, value) List.mem_cons_self).loaded keepSpelling
      · exact loaded_entryNodes
          (fun other isOther => contents other (List.mem_cons_of_mem _ isOther))
          keepSpelling field inRest

end

end Yaml

namespace Yaml.SkeletonDocument

theorem loaded_of_toNode?
    {document : SkeletonDocument}
    {node : Node}
    (builds : document.toNode? = some node) :
    node.Loaded := by
  rw [toNode?] at builds
  split at builds
  · rename_i tree expands
    split at builds
    · cases builds
      split
      · exact .scalar (Or.inl (Scalar.isSettled_of_isNull rfl))
      · exact (regular_of_expand? expands).loaded true
    · cases builds
  · cases builds

theorem loaded_of_mapM
    {documents : List SkeletonDocument} :
    ∀ {nodes : List Node},
      documents.mapM toNode? = some nodes → ∀ node ∈ nodes, node.Loaded := by
  induction documents with
  | nil =>
      intro nodes builds
      cases builds
      simp
  | cons document rest inductionHypothesis =>
      intro nodes builds node member
      rw [List.mapM_cons] at builds
      rcases Option.bind_eq_some_iff.1 builds with ⟨first, buildsFirst, builds⟩
      rcases Option.bind_eq_some_iff.1 builds with ⟨others, buildsRest, same⟩
      cases same
      rcases List.mem_cons.1 member with rfl | inRest
      · exact loaded_of_toNode? buildsFirst
      · exact inductionHypothesis buildsRest node inRest

end Yaml.SkeletonDocument

/-- The documents of a YAML text are loaded. -/
theorem Node.loaded_of_ofYamlStream
    {bytes : ByteArray}
    {nodes : List Node}
    (reads : ofYamlStream bytes = .ok nodes) :
    ∀ node ∈ nodes, node.Loaded := by
  rw [ofYamlStream] at reads
  split at reads
  · rename_i found readsAll
    cases reads
    rcases Option.bind_eq_some_iff.1 readsAll with ⟨source, _, readsAll⟩
    rcases Option.bind_eq_some_iff.1 readsAll with ⟨documents, _, readsAll⟩
    exact Yaml.SkeletonDocument.loaded_of_mapM readsAll
  · cases reads

end Manifest
