import Manifest.Node.Edit
import Manifest.Patch.Comparison
import Manifest.Proofs.Node.Overlay
import Manifest.Proofs.Node.Unwrapped

/-!
# Documents that differ in their wrappers

Two documents are similar if they are the same tree without their wrappers.  What is
read off similar documents is the same, and what they are changed or merged into is
similar again.

An edit detaches the aliases that it meets, and an overlay keeps some wrappers and
drops others; so the results of the two are equal only without their wrappers.  Each
of these operations is carried out on the documents without their wrappers as well, and
gives there what its result is without them.
-/

namespace Manifest

theorem Outcome.mapState_andThen
    {ε σ τ α β : Type}
    {embed : σ → τ}
    {next : α → σ → Outcome ε σ β}
    {other : α → τ → Outcome ε τ β}
    (commutes : ∀ result state, (next result state).mapState embed = other result (embed state))
    (outcome : Outcome ε σ α) :
    (outcome.andThen next).mapState embed = (outcome.mapState embed).andThen other := by
  rcases outcome with ⟨result, state⟩
  cases result with
  | ok result => exact commutes result state
  | error error => rfl

namespace Node

/-! ## Edits -/

/-- An edit of the content commutes with unwrapping if it does so on contents. -/
theorem editContent_unwrapped
    {edit other : Node → Edited Node}
    (commutes : ∀ node : Node, (edit node.content).mapState unwrapped = other node.unwrapped)
    (node : Node) :
    (editContent edit node).mapState unwrapped = editContent other node.unwrapped := by
  induction node using contentInduction with
  | document inner inductionHypothesis => exact inductionHypothesis
  | reference anchor target inductionHypothesis => exact inductionHypothesis
  | mapping fields => exact commutes (.mapping fields)
  | sequence items => exact commutes (.sequence items)
  | scalar leaf => exact commutes (.scalar leaf)

theorem editFields_unwrapped
    {edit other : List (String × Node) → Edited (List (String × Node))}
    (commutes : ∀ fields, (edit fields).mapState unwrappedFields = other (unwrappedFields fields))
    (walked : List String)
    (node : Node) :
    (editFields walked edit node.content).mapState unwrapped =
      editFields walked other node.unwrapped := by
  rcases unwrapped_cases node with ⟨fields, isContent, isUnwrapped⟩ |
      ⟨items, isContent, isUnwrapped⟩ | ⟨leaf, isContent, isUnwrapped⟩ <;>
    rw [isContent, isUnwrapped]
  · rw [editFields, editFields, ← commutes]
    rfl
  · rfl
  · rw [editFields.eq_def, editFields.eq_def]
    simp only
    split
    · have noFields : other [] = (edit []).mapState unwrappedFields := (commutes []).symm
      rw [noFields]
      rfl
    · rfl

theorem unlessNull_unwrapped
    {edit other : Node → Edited Node}
    (commutes : ∀ node : Node, (edit node.content).mapState unwrapped = other node.unwrapped)
    (node : Node) :
    (unlessNull edit node.content).mapState unwrapped = unlessNull other node.unwrapped := by
  rw [unlessNull, unlessNull, isNull_unwrapped, isNull_content]
  split
  · rw [← unwrapped_content]
    rfl
  · exact commutes node

/-- The edited field can be a wrapper, so the edit has to commute on every node. -/
theorem editField_unwrapped
    {edit other : Node → Edited Node}
    (commutes : ∀ node : Node, (edit node).mapState unwrapped = other node.unwrapped)
    (name : String)
    (fields : List (String × Node)) :
    (editField name edit fields).mapState unwrappedFields =
      editField name other (unwrappedFields fields) := by
  induction fields with
  | nil => rfl
  | cons head rest inductionHypothesis =>
      rcases head with ⟨found, node⟩
      rw [editField, unwrappedFields, editField]
      split
      · rw [← commutes]
        rfl
      · rw [← inductionHypothesis]
        rfl

/-- A write of a value is the write of the value without its wrappers. -/
theorem writeField_unwrapped
    (name : String)
    (value : Node)
    (parents : List String) :
    ∀ (walked : List String) (node : Node),
      (writeField walked parents name value node).mapState unwrapped =
        writeField walked parents name value.unwrapped node.unwrapped := by
  induction parents with
  | nil =>
      intro walked node
      rw [writeField, writeField]
      refine editContent_unwrapped (editFields_unwrapped (fun fields => ?_) walked) node
      exact congrArg (Outcome.done ()) (unwrappedFields_set name value fields)
  | cons parent rest inductionHypothesis =>
      intro walked node
      rw [writeField, writeField]
      refine editContent_unwrapped (editFields_unwrapped (fun fields => ?_) walked) node
      rw [editField_unwrapped (inductionHypothesis _), unwrappedFields_ensure]
      rfl

theorem clearField_unwrapped
    (name : String)
    (parents : List String) :
    ∀ (walked : List String) (node : Node),
      (clearField walked parents name node).mapState unwrapped =
        clearField walked parents name node.unwrapped := by
  induction parents with
  | nil =>
      intro walked node
      rw [clearField]
      refine editContent_unwrapped
        (unlessNull_unwrapped (editFields_unwrapped (fun fields => ?_) walked)) node
      exact congrArg (Outcome.done ()) (unwrappedFields_remove name fields)
  | cons parent rest inductionHypothesis =>
      intro walked node
      rw [clearField]
      refine editContent_unwrapped
        (unlessNull_unwrapped (editFields_unwrapped (fun fields => ?_) walked)) node
      exact editField_unwrapped (inductionHypothesis _) parent fields

/-! ## Setters -/

@[simp]
theorem unwrapped_ofStringMap (map : StringMap) :
    (ofStringMap map).unwrapped = ofStringMap map := by
  have isPlain :
      Fields.mapContents unwrapped (Fields.mapContents ofText map.entries) =
        Fields.mapContents ofText map.entries := by
    rw [Fields.mapContents, Fields.mapContents, List.map_map]
    rfl
  rw [ofStringMap, unwrapped, unwrappedFields_eq_mapContents]
  exact congrArg mapping isPlain

theorem writeStringMap_unwrapped
    (parents : List String)
    (name : String)
    (map : StringMap)
    (node : Node) :
    (writeStringMap parents name map node).mapState unwrapped =
      writeStringMap parents name map node.unwrapped := by
  rw [writeStringMap, writeStringMap]
  split
  · exact clearField_unwrapped name parents [] node
  · rw [writeField_unwrapped, unwrapped_ofStringMap]

theorem setNamespace_unwrapped
    (namespaceName : String)
    (node : Node) :
    (setNamespace namespaceName node).mapState unwrapped =
      setNamespace namespaceName node.unwrapped := by
  rw [setNamespace, setNamespace]
  split
  · exact clearField_unwrapped "namespace" ["metadata"] [] node
  · exact writeField_unwrapped "namespace" (ofText namespaceName) ["metadata"] [] node

theorem setGvk_unwrapped
    (gvk : Gvk)
    (node : Node) :
    (setGvk gvk node).mapState unwrapped = setGvk gvk node.unwrapped := by
  have kindWritten := writeField_unwrapped "kind" (ofText gvk.kind) [] [] node
  rw [setGvk, setGvk]
  refine (Outcome.mapState_andThen (fun _ edited => ?_) _).trans
    (congrArg (Outcome.andThen · _) kindWritten)
  exact writeField_unwrapped "apiVersion" (ofText gvk.apiVersion) [] [] edited

/-! ## Overlays -/

/-- An overlay keeps a wrapper on the right or drops it, which is the same without wrappers. -/
theorem overlay_unwrapped_of_wrapper
    (left wrapper inner : Node)
    (same : wrapper.content = inner.content)
    (overlays :
      left.overlay wrapper =
        if inner.isNull then left
        else if left.isNull then wrapper
        else left.overlay inner) :
    (left.overlay wrapper).unwrapped = (left.overlay inner).unwrapped := by
  rw [overlays]
  cases innerNull : inner.isNull with
  | true => simp [overlay_of_null innerNull]
  | false =>
      cases leftNull : left.isNull with
      | true =>
          have sameContent := content_overlay_of_null_left leftNull innerNull
          simp only [Bool.false_eq_true, if_false, if_true]
          rw [← unwrapped_content wrapper, same, ← sameContent, unwrapped_content]
      | false => simp

mutual

/-- An overlay is that of the documents without their wrappers. -/
theorem overlay_unwrapped (left : Node) :
    ∀ right : Node, (left.overlay right).unwrapped = left.unwrapped.overlay right.unwrapped
  | .document inner => by
      rw [overlay_unwrapped_of_wrapper left (.document inner) inner rfl (by rw [overlay]),
        overlay_unwrapped left inner, unwrapped]
  | .reference anchor target => by
      rw [overlay_unwrapped_of_wrapper left (.reference anchor target) target rfl (by rw [overlay]),
        overlay_unwrapped left target, unwrapped]
  | .mapping fields => by
      rw [unwrapped, overlay, overlay, content_unwrapped]
      rcases unwrapped_cases left with ⟨leftFields, isContent, isUnwrapped⟩ |
          ⟨items, isContent, isUnwrapped⟩ | ⟨leaf, isContent, isUnwrapped⟩ <;>
        rw [isContent, isUnwrapped]
      · exact congrArg mapping (overlayFields_unwrapped leftFields fields leftFields)
      · rfl
      · rfl
  | .sequence items => by rw [overlay, unwrapped, overlay]
  | .scalar leaf => by
      rw [overlay, unwrapped, overlay]
      split <;> rfl

theorem overlayFields_unwrapped (left : List (String × Node)) :
    ∀ right merged : List (String × Node),
      unwrappedFields (overlayFields left merged right) =
        overlayFields (unwrappedFields left) (unwrappedFields merged) (unwrappedFields right)
  | [], merged => by rw [unwrappedFields, overlayFields, overlayFields]
  | (name, node) :: rest, merged => by
      rw [unwrappedFields, overlayFields, overlayFields, overlayFields_unwrapped left rest,
        get?_unwrappedFields, unwrappedFields_set]
      cases Fields.get? name left with
      | none => rfl
      | some leftNode => simp only [Option.map_some, overlay_unwrapped leftNode node]

end

end Node

/-! ## Comparisons -/

namespace Difference

open Node

theorem removedItems_unwrapped
    (path : Path)
    (items : List Node) :
    ∀ position : Nat,
      removedItems path position (unwrappedItems items) = removedItems path position items := by
  induction items with
  | nil => exact fun _ => rfl
  | cons item rest inductionHypothesis =>
      intro position
      rw [unwrappedItems, removedItems, removedItems, inductionHypothesis]

theorem removedFields_unwrapped
    (path : Path)
    (right left : List (String × Node)) :
    removedFields path (unwrappedFields right) (unwrappedFields left) =
      removedFields path right left := by
  induction left with
  | nil => rfl
  | cons head rest inductionHypothesis =>
      rw [unwrappedFields, removedFields, removedFields, inductionHypothesis,
        unwrappedFields_eq_mapContents, Fields.contains_mapContents]

mutual

/-- The differences are those of the documents without their wrappers. -/
theorem between_unwrapped :
    ∀ (right : Node) (path : Path) (left : Node),
      between path left.unwrapped right.unwrapped = between path left.content right
  | .document inner, path, left => between_unwrapped inner path left
  | .reference _ target, path, left => between_unwrapped target path left
  | .mapping fields, path, left => by
      rcases unwrapped_cases left with ⟨leftFields, isContent, isUnwrapped⟩ |
          ⟨items, isContent, isUnwrapped⟩ | ⟨leaf, isContent, isUnwrapped⟩ <;>
        rw [isContent, isUnwrapped, unwrapped]
      · rw [between, between, removedFields_unwrapped, betweenFields_unwrapped fields path]
      · rfl
      · rfl
  | .sequence items, path, left => by
      rcases unwrapped_cases left with ⟨leftFields, isContent, isUnwrapped⟩ |
          ⟨leftItems, isContent, isUnwrapped⟩ | ⟨leaf, isContent, isUnwrapped⟩ <;>
        rw [isContent, isUnwrapped, unwrapped]
      · rfl
      · rw [between, between, betweenItems_unwrapped items path]
      · rfl
  | .scalar leaf, path, left => by
      rcases unwrapped_cases left with ⟨leftFields, isContent, isUnwrapped⟩ |
          ⟨leftItems, isContent, isUnwrapped⟩ | ⟨leftLeaf, isContent, isUnwrapped⟩ <;>
        rw [isContent, isUnwrapped, unwrapped] <;> rfl

theorem betweenFields_unwrapped :
    ∀ (right : List (String × Node)) (path : Path) (left : List (String × Node)),
      betweenFields path (unwrappedFields left) (unwrappedFields right) =
        betweenFields path left right
  | [], _, _ => by rw [unwrappedFields, betweenFields, betweenFields]
  | (name, node) :: rest, path, left => by
      rw [unwrappedFields, betweenFields, betweenFields, betweenFields_unwrapped rest path left,
        get?_unwrappedFields]
      cases Fields.get? name left with
      | none => rfl
      | some other =>
          simp only [Option.map_some, content_unwrapped]
          rw [between_unwrapped node]

theorem betweenItems_unwrapped :
    ∀ (right : List Node) (path : Path) (position : Nat) (left : List Node),
      betweenItems path position (unwrappedItems left) (unwrappedItems right) =
        betweenItems path position left right
  | [], path, position, left => by
      rw [unwrappedItems, betweenItems, betweenItems, removedItems_unwrapped]
  | node :: rest, path, position, [] => by
      have others := betweenItems_unwrapped rest path (position + 1) []
      rw [unwrappedItems] at others ⊢
      rw [unwrappedItems, betweenItems, betweenItems, others]
  | node :: rest, path, position, other :: others => by
      rw [unwrappedItems, unwrappedItems, betweenItems, betweenItems, content_unwrapped,
        between_unwrapped node, betweenItems_unwrapped rest]

end

end Difference

theorem Comparison.ofNodes_unwrapped
    (left right : Node) :
    ofNodes left.unwrapped right.unwrapped = ofNodes left right := by
  rw [ofNodes, ofNodes, Node.content_unwrapped, Difference.between_unwrapped]

/-! ## Similar documents -/

namespace Node

/-- Two documents are the same tree without their wrappers. -/
def Similar (left right : Node) : Prop :=
  left.unwrapped = right.unwrapped

/-- Two look-ups give similar nodes, the same absence, or the same error. -/
def SimilarFound (left right : Except DocumentError (Option Node)) : Prop :=
  left.map (Option.map unwrapped) = right.map (Option.map unwrapped)

/-- Two edits have the same result, and leave similar documents also where they fail. -/
structure SimilarEdited (left right : Edited Node) : Prop where
  result : left.result = right.result
  state : Similar left.state right.state

/-- Two documents cannot be told apart by reading them, and stay similar when they change. -/
structure Indistinguishable (left right : Node) : Prop where
  value : left.toValue = right.toValue
  yaml : left.toYaml = right.toYaml
  json : left.toJson.render = right.toJson.render
  metadata : left.metadata = right.metadata
  found : ∀ path, SimilarFound (left.lookup path) (right.lookup path)
  comparison :
    ∀ {leftOther rightOther},
      Similar leftOther rightOther →
      Comparison.ofNodes left leftOther = Comparison.ofNodes right rightOther
  overlay :
    ∀ {leftOther rightOther},
      Similar leftOther rightOther →
      Similar (left.overlay leftOther) (right.overlay rightOther)
  setName : ∀ name, SimilarEdited (left.setName name) (right.setName name)
  setNamespace :
    ∀ namespaceName,
      SimilarEdited (left.setNamespace namespaceName) (right.setNamespace namespaceName)
  setGvk : ∀ gvk, SimilarEdited (left.setGvk gvk) (right.setGvk gvk)
  setLabels : ∀ labels, SimilarEdited (left.setLabels labels) (right.setLabels labels)
  setAnnotations :
    ∀ annotations,
      SimilarEdited (left.setAnnotations annotations) (right.setAnnotations annotations)
  setDataMap : ∀ data, SimilarEdited (left.setDataMap data) (right.setDataMap data)

section

variable {left right : Node}

theorem Similar.edited
    {edit : Node → Edited Node}
    (commutes : ∀ node, (edit node).mapState unwrapped = edit node.unwrapped)
    (similar : Similar left right) :
    SimilarEdited (edit left) (edit right) := by
  have same : (edit left).mapState unwrapped = (edit right).mapState unwrapped := by
    rw [commutes, commutes, similar]
  rcases (Outcome.mk.injEq ..).mp same with ⟨sameResult, sameState⟩
  exact ⟨sameResult, sameState⟩

theorem Similar.read
    {β : Type}
    {read : Node → β}
    (unwraps : ∀ node : Node, read node.unwrapped = read node)
    (similar : Similar left right) :
    read left = read right := by
  rw [← unwraps left, ← unwraps right, similar]

theorem indistinguishable_of_similar
    (similar : Similar left right) :
    Indistinguishable left right where
  value := similar.read readsThrough_toValue.unwrapped
  yaml := congrArg Yaml.Tree.render (similar.read readsThrough_toTree.unwrapped)
  json := congrArg Json.render (similar.read readsThrough_toJson.unwrapped)
  metadata := similar.read metadata_unwrapped
  found := by
    intro path
    rw [SimilarFound, ← lookup_unwrapped, ← lookup_unwrapped, similar]
  comparison := by
    intro leftOther rightOther similarOther
    rw [← Comparison.ofNodes_unwrapped left, ← Comparison.ofNodes_unwrapped right, similar,
      similarOther]
  overlay := by
    intro leftOther rightOther similarOther
    rw [Similar, overlay_unwrapped, overlay_unwrapped, similar, similarOther]
  setName := fun name =>
    similar.edited (writeField_unwrapped "name" (ofText name) ["metadata"] [])
  setNamespace := fun namespaceName => similar.edited (setNamespace_unwrapped namespaceName)
  setGvk := fun gvk => similar.edited (setGvk_unwrapped gvk)
  setLabels := fun labels =>
    similar.edited (writeStringMap_unwrapped ["metadata"] "labels" labels)
  setAnnotations := fun annotations =>
    similar.edited (writeStringMap_unwrapped ["metadata"] "annotations" annotations)
  setDataMap := fun data => similar.edited (writeStringMap_unwrapped [] "data" data)

end

/-- A document node with aliases in it. -/
def aliased : Node :=
  .document
    (.mapping
      [("kind", .reference "kind" (.ofText "Service")),
        ("metadata", .reference "meta" (.document (.mapping [("name", .ofText "web")])))])

/-- The document with copies in their places. -/
def copied : Node :=
  .mapping [("kind", .ofText "Service"), ("metadata", .mapping [("name", .ofText "web")])]

theorem indistinguishable_aliased :
    aliased ≠ copied ∧ Similar aliased copied ∧ Indistinguishable aliased copied := by
  refine ⟨?_, rfl, indistinguishable_of_similar rfl⟩
  rintro ⟨⟩

end Node

end Manifest
