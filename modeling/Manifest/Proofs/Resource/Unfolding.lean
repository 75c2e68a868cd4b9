import Manifest.Proofs.Resource.Reload
import Mathlib.Logic.Relation

/-!
# Streams with lists and without them

A document of the kind `List` stands for its items, so it can be put into a stream in
their place or taken out of it, and so can documents that say nothing.  Both can be done
inside of lists as well, at any depth.  None of this changes the resources of the stream,
their order, or the error with which it is refused.

The documents of a stream are expanded before the first resource is built.  An expansion
is made document by document, so it only has to be known for the documents that change.
-/

namespace Manifest

namespace Node

/-- A document is a list of some items. -/
structure Lists (node : Node) (items : List Node) : Prop where
  isList : node.isList = true
  items : node.field? "items" = some (.sequence items)

/-- One list is replaced by its items, or one document that stands for nothing is dropped. -/
inductive Unfolds : List Node → List Node → Prop where
  | items
      {node : Node}
      {items : List Node}
      (before after : List Node)
      (lists : node.Lists items) :
      Unfolds (before ++ [node] ++ after) (before ++ items ++ after)
  | nothing
      {node : Node}
      (before after : List Node)
      (isNull : node.isNull = true) :
      Unfolds (before ++ [node] ++ after) (before ++ after)
  /-- A list can have no field of items, or nothing there. -/
  | noItems
      {node : Node}
      (before after : List Node)
      (isList : node.isList = true)
      (bare : (node.field? "items").all Node.isNull = true) :
      Unfolds (before ++ [node] ++ after) (before ++ after)
  /-- The same is done to the items of a list. -/
  | inside
      {node other : Node}
      {items others : List Node}
      (before after : List Node)
      (lists : node.Lists items)
      (otherLists : other.Lists others)
      (unfolds : Unfolds items others) :
      Unfolds (before ++ [node] ++ after) (before ++ [other] ++ after)

/-- Two streams become the same when lists are unfolded and what says nothing is dropped. -/
def SameStream : List Node → List Node → Prop :=
  Relation.EqvGen Unfolds

/-! ## Expansions -/

theorem expandAll_cons
    (node : Node)
    (rest : List Node) :
    expandAll (node :: rest) =
      node.expandList >>= fun first => (expandAll rest).map (first ++ ·) := by
  rw [expandAll, expandList]
  cases expansion node node.expandContent with
  | error error => rfl
  | ok first => cases expandAll rest <;> rfl

theorem expandAll_append
    (front back : List Node) :
    expandAll (front ++ back) =
      expandAll front >>= fun firsts => (expandAll back).map (firsts ++ ·) := by
  induction front with
  | nil =>
      rw [List.nil_append, expandAll]
      cases expandAll back <;> rfl
  | cons node rest inductionHypothesis =>
      rw [List.cons_append, expandAll_cons, expandAll_cons, inductionHypothesis]
      cases node.expandList with
      | error error => rfl
      | ok first =>
          cases expandAll rest with
          | error error => rfl
          | ok firsts =>
              cases expandAll back with
              | error error => rfl
              | ok lasts => exact congrArg Except.ok (List.append_assoc first firsts lasts).symm

theorem expandAll_singleton (node : Node) :
    expandAll [node] = node.expandList := by
  rw [expandAll_cons, expandAll]
  cases node.expandList with
  | error error => rfl
  | ok first => exact congrArg Except.ok (List.append_nil first)

/-- Documents that stand for the same ones do so between any others. -/
theorem expandAll_between
    {middle others : List Node}
    (same : expandAll middle = expandAll others)
    (before after : List Node) :
    expandAll (before ++ middle ++ after) = expandAll (before ++ others ++ after) := by
  rw [expandAll_append, expandAll_append, expandAll_append _ after, expandAll_append before, same]

theorem expandItems_content (node : Node) :
    node.content.expandItems = node.expandItems :=
  read_content (fun _ => rfl) (fun _ _ => rfl) node

theorem expandItemsField_eq (fields : List (String × Node)) :
    expandItemsField fields =
      ((Fields.get? "items" fields).map content).elim (.ok []) expandItems := by
  induction fields with
  | nil => rfl
  | cons field rest inductionHypothesis =>
      rcases field with ⟨name, node⟩
      rw [expandItemsField, Fields.get?]
      split
      · exact (expandItems_content node).symm
      · exact inductionHypothesis

/-- A mapping stands for what is in its field of items. -/
theorem expandContent_of_mapping
    {node : Node}
    {fields : List (String × Node)}
    (isMapping : node.content = .mapping fields) :
    node.expandContent = (node.field? "items").elim (.ok []) expandItems := by
  have seesContent : node.content.expandContent = node.expandContent :=
    read_content (fun _ => rfl) (fun _ _ => rfl) node
  rw [← seesContent, isMapping, expandContent, expandItemsField_eq, field?,
    mapping?_eq_some.2 isMapping, Option.bind_some]

/-- A document of the kind `List` stands for what is in its field of items. -/
theorem expandList_of_isList
    {node : Node}
    (isList : node.isList = true) :
    node.expandList = (node.field? "items").elim (.ok []) expandItems := by
  have isMapping : ∃ fields, node.content = .mapping fields := by
    rw [Node.isList, field?] at isList
    cases opens : node.mapping? with
    | some fields => exact ⟨fields, mapping?_eq_some.1 opens⟩
    | none =>
        rw [opens] at isList
        cases isList
  rcases isMapping with ⟨fields, isMapping⟩
  have notNull : node.isNull = false := by
    rw [isNull, isMapping]
  rw [expandList, expansion, if_neg (by rw [notNull]; decide), if_pos isList,
    expandContent_of_mapping isMapping]

/-- A list stands for what its items stand for. -/
theorem Lists.expandList
    {node : Node}
    {items : List Node}
    (lists : node.Lists items) :
    node.expandList = expandAll items := by
  rw [expandList_of_isList lists.isList, lists.items]
  rfl

/-- A list without items stands for nothing. -/
theorem expandList_of_noItems
    {node : Node}
    (isList : node.isList = true)
    (bare : (node.field? "items").all Node.isNull = true) :
    node.expandList = .ok [] := by
  rw [expandList_of_isList isList]
  cases found : node.field? "items" with
  | none => rfl
  | some items =>
      rw [found] at bare
      have nothing : items.isNull = true := bare
      rcases isNull_eq_true.1 nothing with ⟨leaf, isLeaf, leafIsNull⟩
      rw [Option.elim_some, ← expandItems_content, isLeaf, expandItems, if_pos leafIsNull]

theorem expandList_of_null
    {node : Node}
    (isNull : node.isNull = true) :
    node.expandList = .ok [] := by
  rw [expandList, expansion, if_pos isNull]

/-- Documents that stand for nothing can be dropped. -/
theorem expandAll_dropped
    {node : Node}
    (nothing : node.expandList = .ok [])
    (before after : List Node) :
    expandAll (before ++ [node] ++ after) = expandAll (before ++ after) := by
  have same : expandAll [node] = expandAll [] := (expandAll_singleton node).trans nothing
  rw [expandAll_between same, List.append_nil]

/-! ## Unfolded streams -/

/-- What is unfolded stands for the same documents, and is refused with the same error. -/
theorem Unfolds.expandAll_eq
    {nodes others : List Node}
    (unfolds : Unfolds nodes others) :
    expandAll nodes = expandAll others := by
  induction unfolds with
  | items before after lists =>
      exact expandAll_between ((expandAll_singleton _).trans lists.expandList) before after
  | nothing before after isNull =>
      exact expandAll_dropped (expandList_of_null isNull) before after
  | noItems before after isList bare =>
      exact expandAll_dropped (expandList_of_noItems isList bare) before after
  | @inside node other items others before after lists otherLists _ inductionHypothesis =>
      have same : expandAll [node] = expandAll [other] := by
        rw [expandAll_singleton, expandAll_singleton, lists.expandList, otherLists.expandList,
          inductionHypothesis]
      exact expandAll_between same before after

theorem SameStream.expandAll_eq
    {nodes others : List Node}
    (same : SameStream nodes others) :
    expandAll nodes = expandAll others := by
  induction same with
  | rel nodes others unfolds => exact unfolds.expandAll_eq
  | refl nodes => rfl
  | symm nodes others _ inductionHypothesis => exact inductionHypothesis.symm
  | trans nodes middle others _ _ first second => exact first.trans second

/-- A configuration map of a name. -/
def named (name : String) : Node :=
  .mapping
    [("apiVersion", .ofText "v1"), ("kind", .ofText "ConfigMap"),
      ("metadata", .mapping [("name", .ofText name)])]

/-- A list of some items. -/
def listed (items : List Node) : Node :=
  .mapping [("kind", .ofText "List"), ("items", .sequence items)]

theorem lists_listed (items : List Node) :
    (listed items).Lists items :=
  ⟨rfl, rfl⟩

end Node

namespace Resource

/-- The resources of a stream are no lists. -/
theorem kind_of_mem_ofNodes
    {nodes : List Node}
    {resources : List Resource}
    (builds : ofNodes nodes = .ok resources) :
    ∀ resource ∈ resources,
      resource.node.isList = false ∧ resource.currentId.gvk.kind ≠ "List" := by
  intro resource member
  rw [ofNodes, Result.bind_eq_ok] at builds
  rcases builds with ⟨expanded, expands, builds⟩
  rcases Result.exists_of_mem_mapM builds resource member with ⟨node, isExpanded, buildsOne⟩
  rcases ofNode_eq_ok.1 buildsOne with ⟨metadata, reads, _, rfl, _, isCurrent⟩
  have anything : Node.Hereditary fun _ => True :=
    ⟨fun _ _ => trivial, fun _ _ _ => trivial, fun _ _ _ _ => trivial, fun _ _ _ _ => trivial⟩
  have standalone : resource.node.Standalone :=
    (Node.standalone_of_expandAll anything (fun _ _ => trivial) expands _ isExpanded).2
  refine ⟨standalone.notList, ?_⟩
  rw [isCurrent]
  have notList := standalone.notList
  rw [Node.isList_of_metadata reads, beq_eq_false_iff_ne] at notList
  exact notList

/--
Streams that become the same when lists are unfolded, and documents that say nothing are
dropped, have the same resources in the same order, or are refused with the same error.
None of the resources is a list.
-/
theorem ofNodes_sameStream :
    (∀ nodes others, Node.SameStream nodes others → ofNodes nodes = ofNodes others) ∧
      ∀ nodes resources,
        ofNodes nodes = .ok resources →
        ∀ resource ∈ resources,
          resource.node.isList = false ∧ resource.currentId.gvk.kind ≠ "List" := by
  constructor
  · intro nodes others same
    rw [ofNodes, ofNodes, same.expandAll_eq]
  · exact fun _ _ => kind_of_mem_ofNodes

/-- A list in a list, with a document that says nothing between its items. -/
theorem ofNodes_nestedLists :
    Node.SameStream [.listed [.named "a", .null, .listed [.named "b"]], .named "c"]
        [.named "a", .named "b", .named "c"] ∧
      ofNodes [.listed [.named "a", .null, .listed [.named "b"]], .named "c"] =
        ofNodes [.named "a", .named "b", .named "c"] ∧
      ∃ resources,
        ofNodes [.named "a", .named "b", .named "c"] = .ok resources ∧
          resources.map (fun resource => resource.currentId.name) = ["a", "b", "c"] ∧
            ∀ resource ∈ resources,
              resource.node.isList = false ∧ resource.currentId.gvk.kind ≠ "List" := by
  have inner :
      Node.Unfolds [.named "a", .null, .listed [.named "b"]] [.named "a", .null, .named "b"] :=
    .items [.named "a", .null] [] (Node.lists_listed [.named "b"])
  have outer :
      Node.Unfolds [.listed [.named "a", .null, .listed [.named "b"]], .named "c"]
        [.listed [.named "a", .null, .named "b"], .named "c"] :=
    .inside [] [.named "c"] (Node.lists_listed _) (Node.lists_listed _) inner
  have unlisted :
      Node.Unfolds [.listed [.named "a", .null, .named "b"], .named "c"]
        [.named "a", .null, .named "b", .named "c"] :=
    .items [] [.named "c"] (Node.lists_listed _)
  have dropped :
      Node.Unfolds [.named "a", .null, .named "b", .named "c"]
        [.named "a", .named "b", .named "c"] :=
    .nothing [.named "a"] [.named "b", .named "c"] rfl
  have same :
      Node.SameStream [.listed [.named "a", .null, .listed [.named "b"]], .named "c"]
        [.named "a", .named "b", .named "c"] :=
    .trans _ _ _ (.rel _ _ outer) (.trans _ _ _ (.rel _ _ unlisted) (.rel _ _ dropped))
  obtain ⟨resources, builds, names⟩ :
      ∃ resources,
        ofNodes [.named "a", .named "b", .named "c"] = .ok resources ∧
          resources.map (fun resource => resource.currentId.name) = ["a", "b", "c"] := by
    exact ⟨_, rfl, rfl⟩
  exact ⟨same, ofNodes_sameStream.1 _ _ same, resources, builds, names,
    ofNodes_sameStream.2 _ _ builds⟩

end Resource

end Manifest
