import Manifest.Proofs.Patch.Strategic

/-!
# Lists that are merged element by element

An element of a patch is merged like the content of a field: with its counterpart in
the list, or with nothing where it has none.  The elements of a patch are merged one
after another, each into the list that those before it left.
-/

namespace Manifest.StrategicPatch

/-! ## One element of a patch -/

/-- What a list has for an element of a patch. -/
def counterpart?
    (keys : List String)
    (patch : List (String × Node))
    (elements : List Node) :
    Option Node :=
  (position? keys patch elements).map fun position =>
    .mapping ((elements[position]?.bind Node.mapping?).getD [])

/-- What a merge gave takes the place of the counterpart, or it is added at the end. -/
def settle
    (position : Option Nat)
    (elements : List Node) :
    Option (List (String × Node)) → List Node :=
  match position with
  | some position => putElement position elements
  | none => addElement elements

theorem mergeElement_content
    (keys : List String)
    (path : Path)
    (elements : List Node)
    (item : Node) :
    mergeElement keys path elements item.content = mergeElement keys path elements item :=
  Node.read_content (fun _ => by rw [mergeElement]) (fun _ _ => by rw [mergeElement]) item

/-- An element of a patch is merged with its counterpart. -/
theorem mergeElement_of_mapping
    {item : Node}
    {patch : List (String × Node)}
    (isMapping : item.content = .mapping patch)
    (keys : List String)
    (path : Path)
    (elements : List Node) :
    mergeElement keys path elements item =
      (mergeOnto (counterpart? keys patch elements) patch path).map
        (settle (position? keys patch elements) elements) := by
  rw [← mergeElement_content, isMapping, mergeElement.eq_def, counterpart?]
  dsimp only
  cases position? keys patch elements <;> rfl

/-- Only a mapping can be refused as an element. -/
theorem mapping_of_mergeElement
    {keys : List String}
    {path : Path}
    {elements : List Node}
    {item : Node}
    {error : PatchError}
    (fails : mergeElement keys path elements item = .error error) :
    ∃ patch,
      item.content = .mapping patch ∧
        mergeOnto (counterpart? keys patch elements) patch path = .error error := by
  rcases Node.content_cases item with ⟨patch, isMapping⟩ | ⟨items, isSequence⟩ | ⟨leaf, isScalar⟩
  · rw [mergeElement_of_mapping isMapping, Result.map_eq_error] at fails
    exact ⟨patch, isMapping, fails⟩
  · rw [← mergeElement_content, isSequence] at fails
    cases fails
  · rw [← mergeElement_content, isScalar] at fails
    cases fails

/-! ## The elements of a patch, one after another -/

/-- The elements in the back are merged into what those in front left. -/
theorem mergeElements_append
    (keys : List String)
    (path : Path)
    (front back : List Node) :
    ∀ (position : Nat) (elements : List Node),
      mergeElements keys path position elements (front ++ back) =
        (mergeElements keys path position elements front >>= fun current =>
          mergeElements keys path (position + front.length) current back) := by
  induction front with
  | nil =>
      intro position elements
      rfl
  | cons item front inductionHypothesis =>
      intro position elements
      have sameCount : position + (item :: front).length = position + 1 + front.length := by
        simp only [List.length_cons]
        omega
      rw [List.cons_append, mergeElements, mergeElements, sameCount]
      cases mergeElement keys (path.push (.index position)) elements item with
      | error error => rfl
      | ok merged => exact inductionHypothesis (position + 1) merged

/-- A list is refused where one of its elements is, after those before it were merged. -/
theorem mergeElements_eq_error
    {keys : List String}
    {path : Path}
    {items : List Node}
    {error : PatchError} :
    ∀ {position : Nat} {elements : List Node},
      mergeElements keys path position elements items = .error error →
      ∃ before item after current,
        items = before ++ item :: after ∧
          mergeElements keys path position elements before = .ok current ∧
            mergeElement keys (path.push (.index (position + before.length))) current item =
              .error error := by
  induction items with
  | nil =>
      intro position elements fails
      cases fails
  | cons item rest inductionHypothesis =>
      intro position elements fails
      rw [mergeElements] at fails
      split at fails
      · rename_i failsFirst
        cases fails
        exact ⟨[], item, rest, elements, rfl, rfl, failsFirst⟩
      · rename_i merged mergesFirst
        rcases inductionHypothesis fails with
          ⟨before, refused, after, current, rfl, mergesBefore, failsItem⟩
        refine ⟨item :: before, refused, after, current, rfl, ?_, ?_⟩
        · rw [mergeElements, mergesFirst]
          exact mergesBefore
        · have sameCount : position + (item :: before).length = position + 1 + before.length := by
            simp only [List.length_cons]
            omega
          rw [sameCount]
          exact failsItem

/-- A list of a patch is merged with a list, and it is new content otherwise. -/
theorem mergeNode_of_sequence
    {node : Node}
    {items : List Node}
    (isSequence : node.content = .sequence items)
    (field : String)
    (existing : Option Node)
    (path : Path) :
    mergeNode field existing path node =
      match existing with
      | some (.sequence target) => (mergeList field target items path).map (some ∘ .sequence)
      | _ => .ok (some (.sequence (Directive.stripItems items))) := by
  rw [← mergeNode_content, isSequence, mergeNode.eq_def]
  cases existing with
  | none => rfl
  | some content =>
      cases content with
      | sequence target =>
          dsimp only
          rw [mergeList]
          cases listMode field items <;> rfl
      | _ => rfl

end Manifest.StrategicPatch
