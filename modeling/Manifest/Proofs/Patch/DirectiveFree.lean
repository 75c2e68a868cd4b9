import Manifest.Proofs.Patch.Elements

/-!
# Documents without directives

The keys of directives speak about a patch and not about a document, so none of them may
reach a document.  Two sources feed what a merge gives: what it keeps of the target, and
new content of the patch, which is stripped.

A document that has none of the keys has none after a patch, whatever stands in the patch.
-/

namespace Manifest

namespace Node

/-- No mapping of the node has a key that belongs to a patch. -/
inductive DirectiveFree : Node → Prop where
  | document
      {inner : Node}
      (isInner : DirectiveFree inner) :
      DirectiveFree (.document inner)
  | mapping
      {fields : List (String × Node)}
      (noKeys : ∀ field ∈ fields, Directive.isKey field.1 = false)
      (contents : ∀ field ∈ fields, DirectiveFree field.2) :
      DirectiveFree (.mapping fields)
  | sequence
      {items : List Node}
      (isItems : ∀ item ∈ items, DirectiveFree item) :
      DirectiveFree (.sequence items)
  | scalar
      (leaf : Scalar) :
      DirectiveFree (.scalar leaf)
  | reference
      {anchor : String}
      {target : Node}
      (isTarget : DirectiveFree target) :
      DirectiveFree (.reference anchor target)

/-- No name is a key that belongs to a patch, and none is in the contents. -/
structure DirectiveFreeFields (fields : List (String × Node)) : Prop where
  noKeys : ∀ field ∈ fields, Directive.isKey field.1 = false
  contents : ∀ field ∈ fields, DirectiveFree field.2

@[simp]
theorem directiveFree_mapping
    {fields : List (String × Node)} :
    DirectiveFree (.mapping fields) ↔ DirectiveFreeFields fields := by
  constructor
  · rintro (_ | ⟨noKeys, contents⟩)
    exact ⟨noKeys, contents⟩
  · rintro ⟨noKeys, contents⟩
    exact .mapping noKeys contents

@[simp]
theorem directiveFree_sequence
    {items : List Node} :
    DirectiveFree (.sequence items) ↔ ∀ item ∈ items, DirectiveFree item := by
  constructor
  · rintro (_ | _ | isItems)
    exact isItems
  · exact .sequence

@[simp]
theorem directiveFree_ofText (text : String) :
    (ofText text).DirectiveFree :=
  .scalar _

theorem DirectiveFree.content
    {node : Node}
    (isFree : DirectiveFree node) :
    node.content.DirectiveFree := by
  induction node using contentInduction with
  | document inner inductionHypothesis =>
      cases isFree with
      | document isInner => exact inductionHypothesis isInner
  | reference anchor target inductionHypothesis =>
      cases isFree with
      | reference isTarget => exact inductionHypothesis isTarget
  | mapping fields => exact isFree
  | sequence items => exact isFree
  | scalar leaf => exact isFree

namespace DirectiveFreeFields

variable {fields : List (String × Node)}

@[simp]
theorem nil : DirectiveFreeFields [] where
  noKeys := by simp
  contents := by simp

@[simp]
theorem cons
    {name : String}
    {node : Node}
    {rest : List (String × Node)} :
    DirectiveFreeFields ((name, node) :: rest) ↔
      Directive.isKey name = false ∧ node.DirectiveFree ∧ DirectiveFreeFields rest := by
  constructor
  · rintro ⟨noKeys, contents⟩
    rcases List.forall_mem_cons.1 noKeys with ⟨noKey, restNoKeys⟩
    rcases List.forall_mem_cons.1 contents with ⟨isNode, restContents⟩
    exact ⟨noKey, isNode, restNoKeys, restContents⟩
  · rintro ⟨noKey, isNode, restNoKeys, restContents⟩
    exact ⟨List.forall_mem_cons.2 ⟨noKey, restNoKeys⟩,
      List.forall_mem_cons.2 ⟨isNode, restContents⟩⟩

theorem get?
    (isFree : DirectiveFreeFields fields)
    {name : String}
    {node : Node}
    (found : Fields.get? name fields = some node) :
    node.DirectiveFree :=
  isFree.contents (name, node) (Fields.mem_of_get? found)

theorem remove
    (isFree : DirectiveFreeFields fields)
    (name : String) :
    DirectiveFreeFields (Fields.remove name fields) where
  noKeys := fun field member =>
    isFree.noKeys field ((Fields.remove_sublist name fields).subset member)
  contents := fun field member =>
    isFree.contents field ((Fields.remove_sublist name fields).subset member)

theorem set
    (isFree : DirectiveFreeFields fields)
    {name : String}
    (noKey : Directive.isKey name = false)
    {node : Node}
    (isNode : node.DirectiveFree) :
    DirectiveFreeFields (Fields.set name node fields) where
  noKeys := by
    intro field member
    rcases Fields.mem_set member with rfl | old
    · exact noKey
    · exact isFree.noKeys field old
  contents := by
    intro field member
    rcases Fields.mem_set member with rfl | old
    · exact isNode
    · exact isFree.contents field old

end DirectiveFreeFields

end Node

/-! ## Stripped content -/

namespace Directive

mutual

/-- Content that is stripped of directives has none at any depth. -/
theorem directiveFree_of_strip :
    ∀ (node : Node) {stripped : Node}, strip node = some stripped → stripped.DirectiveFree
  | .document inner, _, strips => directiveFree_of_strip inner strips
  | .reference _ target, _, strips => directiveFree_of_strip target strips
  | .mapping fields, _, strips => by
      rw [strip] at strips
      split at strips
      · cases strips
      · cases strips
        exact Node.directiveFree_mapping.2 (directiveFree_stripFields fields)
  | .sequence items, _, strips => by
      rw [strip] at strips
      cases strips
      exact .sequence (directiveFree_stripItems items)
  | .scalar leaf, _, strips => by
      rw [strip] at strips
      cases strips
      exact .scalar leaf

theorem directiveFree_stripItems :
    ∀ items : List Node, ∀ item ∈ stripItems items, item.DirectiveFree
  | [] => by simp [stripItems]
  | item :: rest => by
      have restFree := directiveFree_stripItems rest
      rw [stripItems]
      split
      · exact restFree
      · split
        · rename_i stripped strips
          exact List.forall_mem_cons.2 ⟨directiveFree_of_strip item strips, restFree⟩
        · exact restFree

theorem directiveFree_stripFields :
    ∀ fields : List (String × Node), Node.DirectiveFreeFields (stripFields fields)
  | [] => by simp [stripFields]
  | (name, node) :: rest => by
      have restFree := directiveFree_stripFields rest
      rw [stripFields]
      split
      · exact restFree
      · rename_i noKey
        split
        · rename_i stripped strips
          exact Node.DirectiveFreeFields.cons.2
            ⟨by simpa using noKey, directiveFree_of_strip node strips, restFree⟩
        · exact restFree

end

end Directive

/-! ## Merged content -/

namespace StrategicPatch

open Node

theorem directiveFree_counterpart?
    {elements : List Node}
    (isFree : ∀ element ∈ elements, element.DirectiveFree)
    (keys : List String)
    (patch : List (String × Node)) :
    ∀ content, counterpart? keys patch elements = some content → content.DirectiveFree := by
  intro content isCounterpart
  rcases Option.map_eq_some_iff.1 isCounterpart with ⟨position, _, rfl⟩
  cases found : elements[position]?.bind Node.mapping? with
  | none => simp
  | some fields =>
      rcases Option.bind_eq_some_iff.1 found with ⟨element, atPosition, isMapping⟩
      have elementFree := (isFree element (List.mem_of_getElem? atPosition)).content
      rw [Node.mapping?_eq_some.1 isMapping] at elementFree
      exact elementFree

theorem directiveFree_settle
    {elements : List Node}
    (isFree : ∀ element ∈ elements, element.DirectiveFree)
    (position : Option Nat)
    {result : Option (List (String × Node))}
    (resultFree : ∀ fields, result = some fields → DirectiveFreeFields fields) :
    ∀ element ∈ settle position elements result, element.DirectiveFree := by
  intro element member
  cases result with
  | none =>
      cases position with
      | none => exact isFree element member
      | some place => exact isFree element (List.mem_of_mem_eraseIdx member)
  | some fields =>
      have isNew : (Node.mapping fields).DirectiveFree :=
        directiveFree_mapping.2 (resultFree fields rfl)
      cases position with
      | none =>
          rcases List.mem_append.1 member with old | new
          · exact isFree element old
          · rw [List.mem_singleton.1 new]
            exact isNew
      | some place =>
          rcases List.mem_or_eq_of_mem_set member with old | rfl
          · exact isFree element old
          · exact isNew

mutual

/-- What a field of a patch becomes has no directive if the content of the target has none. -/
theorem directiveFree_mergeNode
    {existing : Option Node}
    (isFree : ∀ content, existing = some content → content.DirectiveFree) :
    ∀ (patch : Node) {field : String} {path : Path} {result : Node},
      mergeNode field existing path patch = .ok (some result) → result.DirectiveFree
  | .document inner, _, _, _, merges => directiveFree_mergeNode isFree inner merges
  | .reference _ target, _, _, _, merges => directiveFree_mergeNode isFree target merges
  | .mapping patch, _, _, _, merges => by
      cases applied_of_mergeNode rfl merges with
      | replaces notAsked =>
          exact directiveFree_mapping.2 (Directive.directiveFree_stripFields patch)
      | merges notAsked isMapping mergesFields =>
          have targetFree := directiveFree_mapping.1 (isFree _ isMapping)
          exact directiveFree_mapping.2
            (directiveFree_mergeFields targetFree patch targetFree mergesFields)
  | .sequence patch, field, path, result, merges => by
      have strippedFree : (Node.sequence (Directive.stripItems patch)).DirectiveFree :=
        .sequence (Directive.directiveFree_stripItems patch)
      rw [mergeNode_of_sequence rfl] at merges
      split at merges
      · rename_i target
        have elementsFree := directiveFree_sequence.1 (isFree _ rfl)
        rw [mergeList] at merges
        split at merges
        · cases merges
          exact strippedFree
        · rcases Result.map_eq_ok.1 merges with ⟨elements, mergesElements, same⟩
          cases same
          exact .sequence (directiveFree_mergeElements patch elementsFree mergesElements)
      · cases merges
        exact strippedFree
  | .scalar leaf, _, _, _, merges => by
      rw [mergeNode] at merges
      cases merges
      exact .scalar leaf

theorem directiveFree_mergeFields
    {target : List (String × Node)}
    (targetFree : DirectiveFreeFields target) :
    ∀ (patch : List (String × Node)) {path : Path} {merged result : List (String × Node)},
      DirectiveFreeFields merged →
      mergeFields target path merged patch = .ok result →
      DirectiveFreeFields result
  | [], _, _, _, isFree, merges => by
      rw [mergeFields] at merges
      cases merges
      exact isFree
  | (name, node) :: rest, path, merged, result, isFree, merges => by
      rw [mergeFields] at merges
      split at merges
      · exact directiveFree_mergeFields targetFree rest isFree merges
      · rename_i noKey
        split at merges
        · exact directiveFree_mergeFields targetFree rest (isFree.remove name) merges
        · split at merges
          · cases merges
          · rename_i becomes mergesNode
            refine directiveFree_mergeFields targetFree rest ?_ merges
            cases becomes with
            | none => exact isFree.remove name
            | some next =>
                refine isFree.set (by simpa using noKey) ?_
                refine directiveFree_mergeNode ?_ node mergesNode
                intro content isContent
                rcases Option.map_eq_some_iff.1 isContent with ⟨child, found, rfl⟩
                exact (targetFree.get? found).content

theorem directiveFree_mergeElements
    {keys : List String} :
    ∀ (patch : List Node) {path : Path} {position : Nat} {elements result : List Node},
      (∀ element ∈ elements, element.DirectiveFree) →
      mergeElements keys path position elements patch = .ok result →
      ∀ element ∈ result, element.DirectiveFree
  | [], _, _, _, _, isFree, merges => by
      rw [mergeElements] at merges
      cases merges
      exact isFree
  | item :: rest, _, _, _, _, isFree, merges => by
      rw [mergeElements] at merges
      split at merges
      · cases merges
      · rename_i merged mergesItem
        exact directiveFree_mergeElements rest
          (directiveFree_mergeElement item isFree mergesItem) merges

theorem directiveFree_mergeElement
    {keys : List String} :
    ∀ (item : Node) {path : Path} {elements result : List Node},
      (∀ element ∈ elements, element.DirectiveFree) →
      mergeElement keys path elements item = .ok result →
      ∀ element ∈ result, element.DirectiveFree
  | .document inner, _, _, _, isFree, merges => directiveFree_mergeElement inner isFree merges
  | .reference _ target, _, _, _, isFree, merges => directiveFree_mergeElement target isFree merges
  | .mapping patch, path, elements, _, isFree, merges => by
      rw [mergeElement_of_mapping rfl] at merges
      rcases Result.map_eq_ok.1 merges with ⟨merged, mergesMapping, rfl⟩
      refine directiveFree_settle isFree _ ?_
      rintro fields rfl
      cases applied_of_mergeOnto mergesMapping with
      | replaces notAsked => exact Directive.directiveFree_stripFields patch
      | merges notAsked isMapping mergesFields =>
          have targetFree :=
            directiveFree_mapping.1 (directiveFree_counterpart? isFree keys patch _ isMapping)
          exact directiveFree_mergeFields targetFree patch targetFree mergesFields
  | .sequence _, _, _, _, isFree, merges => by
      cases merges
      exact isFree
  | .scalar _, _, _, _, isFree, merges => by
      cases merges
      exact isFree

end

/-! ## Patched documents -/

/-- No directive reaches a document that has none, whatever the patch is. -/
theorem directiveFree_apply
    {target patch result : Node}
    (isFree : target.DirectiveFree)
    (applies : apply target patch = .ok (some result)) :
    result.DirectiveFree := by
  by_cases hasFields : ∃ fields, patch.content = .mapping fields
  · rcases hasFields with ⟨fields, isMapping⟩
    rw [apply_eq_mergeNode isMapping] at applies
    refine directiveFree_mergeNode ?_ patch applies
    rintro _ ⟨⟩
    exact isFree.content
  · cases isNull : patch.isNull with
    | true =>
        rw [apply_of_null isNull] at applies
        cases applies
        exact isFree
    | false =>
        rw [apply_of_noMapping (fun fields isMapping => hasFields ⟨fields, isMapping⟩) isNull]
          at applies
        split at applies
        · cases applies
        · exact Directive.directiveFree_of_strip patch (Except.ok.inj applies)

/-- A document with a container and a mapping beside it. -/
def contained : Node :=
  .mapping
    [("containers", .sequence [.mapping [("name", .ofText "app"), ("image", .ofText "old")]]),
      ("spec", .mapping [("paused", .ofText "no")])]

/-- A patch that has keys of every kind: in its root, in elements of a list, in new content. -/
def marked : Node :=
  .mapping
    [("$setElementOrder/containers", .sequence [.ofText "app", .ofText "log"]),
      ("containers",
        .sequence
          [.mapping [("$patch", .ofText "merge"), ("name", .ofText "app"),
              ("image", .ofText "new")],
            .mapping [("name", .ofText "log"), ("env", .mapping [("$retainKeys", .null)])]]),
      ("spec",
        .mapping [("$patch", .ofText "replace"),
          ("parts", .sequence [.sequence [.mapping [("$patch", .ofText "merge")]]])])]

/-- None of its keys reaches the document. -/
theorem directiveFree_apply_marked :
    contained.DirectiveFree ∧
      ∃ result, apply contained marked = .ok (some result) ∧ result.DirectiveFree := by
  have isFree : contained.DirectiveFree := by
    simp [contained, Directive.isKey, Directive.key, List.isPrefixOf]
  have applies :
      apply contained marked =
        .ok (some (.mapping
          [("containers",
              .sequence
                [.mapping [("name", .ofText "app"), ("image", .ofText "new")],
                  .mapping [("name", .ofText "log"), ("env", .mapping [])]]),
            ("spec", .mapping [("parts", .sequence [.sequence [.mapping []]])])])) :=
    rfl
  exact ⟨isFree, _, applies, directiveFree_apply isFree applies⟩

end StrategicPatch

end Manifest
