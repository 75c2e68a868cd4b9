import Manifest.Proofs.Node.Setter
import Manifest.Proofs.Node.Similar

/-!
# Edits that fail

An edit changes a document while it walks: it detaches aliases, adds fields that are absent
and turns nothing into a mapping.  Where it fails it has done the first of these at most.
Below an absent field, and below nothing, there is nothing that could stop it; so an edit
that fails has found each name on its way, and left the fields there as they were.

What such an edit leaves is the document with some wrappers less, which has the same value.
-/

namespace Manifest

namespace Outcome

section

variable
  {ε σ τ α β γ : Type}
  {read : σ → β}
  {before : σ}
  {outcome other : Outcome ε σ α}

/-- If a change failed, the same is read off the thing as before it. -/
def KeepsOnFailure (read : σ → β) (before : σ) (outcome : Outcome ε σ α) : Prop :=
  ∀ error, outcome.result = .error error → read outcome.state = read before

/-- A change that succeeds has nothing to keep. -/
theorem keepsOnFailure_of_ok
    {result : α}
    (succeeds : outcome.result = .ok result) :
    outcome.KeepsOnFailure read before := by
  intro error fails
  rw [succeeds] at fails
  cases fails

theorem KeepsOnFailure.ite
    {condition : Prop}
    [Decidable condition]
    (keeps : outcome.KeepsOnFailure read before)
    (otherKeeps : other.KeepsOnFailure read before) :
    (if condition then outcome else other).KeepsOnFailure read before := by
  split
  · exact keeps
  · exact otherKeeps

/-- What keeps a part keeps what is read off a thing through the part. -/
theorem KeepsOnFailure.mapState
    {embed : σ → τ}
    {readWhole : τ → γ}
    (keeps : outcome.KeepsOnFailure read before)
    (readsPart : ∀ {state other}, read state = read other →
      readWhole (embed state) = readWhole (embed other)) :
    (outcome.mapState embed).KeepsOnFailure readWhole (embed before) :=
  fun error fails => readsPart (keeps error fails)

end

end Outcome

namespace Node

/-! ## Edits of contents and fields -/

section

variable
  {edit : Node → Edited Node}
  {editInside : List (String × Node) → Edited (List (String × Node))}

/-- The aliases that are detached are wrappers. -/
theorem editContent_keepsOnFailure
    (keeps : ∀ node, (edit node).KeepsOnFailure unwrapped node)
    (node : Node) :
    (editContent edit node).KeepsOnFailure unwrapped node := by
  intro error fails
  rw [result_editContent] at fails
  have leaves : (editContent edit node).state.unwrapped = (edit node.content).state.unwrapped :=
    read_editContent (fun _ => rfl) edit node
  rw [leaves, keeps node.content error fails, unwrapped_content]

/-- Nothing becomes a mapping only for an edit that can be made without any fields. -/
theorem editFields_keepsOnFailure
    (keeps : ∀ fields, (editInside fields).KeepsOnFailure unwrappedFields fields)
    (startsEmpty : (editInside []).result = .ok ())
    (walked : List String)
    (node : Node) :
    (editFields walked editInside node).KeepsOnFailure unwrapped node := by
  rw [editFields.eq_def]
  split
  · rename_i fields
    exact (keeps fields).mapState fun same => congrArg mapping same
  · refine Outcome.KeepsOnFailure.ite (Outcome.keepsOnFailure_of_ok startsEmpty) ?_
    intro error _
    rfl

theorem unlessNull_keepsOnFailure
    (keeps : ∀ node, (edit node).KeepsOnFailure unwrapped node)
    (node : Node) :
    (unlessNull edit node).KeepsOnFailure unwrapped node :=
  Outcome.KeepsOnFailure.ite (Outcome.keepsOnFailure_of_ok rfl) (keeps node)

theorem editField_keepsOnFailure
    (keeps : ∀ node, (edit node).KeepsOnFailure unwrapped node)
    (name : String)
    (fields : List (String × Node)) :
    (editField name edit fields).KeepsOnFailure unwrappedFields fields := by
  induction fields with
  | nil => exact Outcome.keepsOnFailure_of_ok rfl
  | cons head rest inductionHypothesis =>
      rcases head with ⟨other, node⟩
      refine Outcome.KeepsOnFailure.ite ?_ ?_
      · refine (keeps node).mapState fun same => ?_
        rw [unwrappedFields, unwrappedFields, same]
      · refine inductionHypothesis.mapState fun same => ?_
        rw [unwrappedFields, unwrappedFields, same]

/-- A field that a write has to add is nothing, where the write does not fail. -/
theorem editField_ensure_keepsOnFailure
    (keeps : ∀ node, (edit node).KeepsOnFailure unwrapped node)
    (startsNull : (edit null).result = .ok ())
    (name : String)
    (fields : List (String × Node)) :
    (editField name edit (Fields.ensure name null fields)).KeepsOnFailure unwrappedFields
      fields := by
  cases found : Fields.get? name fields with
  | some child =>
      have sameFields : Fields.ensure name null fields = fields :=
        if_pos (Option.isSome_of_eq_some found)
      rw [sameFields]
      exact editField_keepsOnFailure keeps name fields
  | none =>
      have added := Fields.get?_ensure_same name null fields
      rw [found, Option.getD_none] at added
      rw [editField_of_get? added]
      exact Outcome.keepsOnFailure_of_ok startsNull

end

/-! ## Writes and removals -/

theorem writeField_null
    (name : String)
    (value : Node)
    (walked parents : List String) :
    (writeField walked parents name value null).result = .ok () := by
  rcases writeField_of_open name value parents walked null [] (fieldsAt?_null parents) with
    ⟨next, writes, _⟩
  rw [writes]
  rfl

/-- A write that fails leaves the tree without its wrappers. -/
theorem writeField_keepsOnFailure
    (name : String)
    (value : Node)
    (parents : List String) :
    ∀ (walked : List String) (node : Node),
      (writeField walked parents name value node).KeepsOnFailure unwrapped node := by
  induction parents with
  | nil =>
      intro walked
      exact editContent_keepsOnFailure
        (editFields_keepsOnFailure (fun _ => Outcome.keepsOnFailure_of_ok rfl) rfl walked)
  | cons parent rest inductionHypothesis =>
      intro walked
      -- The parent that is added is nothing, so the write below it does not fail.
      have below := writeField_null name value (walked ++ [parent]) rest
      have startsEmpty :
          (editField parent (writeField (walked ++ [parent]) rest name value)
            (Fields.ensure parent null [])).result = .ok () := by
        rw [editField_of_get? (Fields.get?_ensure_same parent null [])]
        exact below
      exact editContent_keepsOnFailure
        (editFields_keepsOnFailure
          (editField_ensure_keepsOnFailure (inductionHypothesis _) below parent)
          startsEmpty walked)

/-- A removal that fails leaves the tree without its wrappers. -/
theorem clearField_keepsOnFailure
    (name : String)
    (parents : List String) :
    ∀ (walked : List String) (node : Node),
      (clearField walked parents name node).KeepsOnFailure unwrapped node := by
  induction parents with
  | nil =>
      intro walked
      exact editContent_keepsOnFailure
        (unlessNull_keepsOnFailure
          (editFields_keepsOnFailure (fun _ => Outcome.keepsOnFailure_of_ok rfl) rfl walked))
  | cons parent rest inductionHypothesis =>
      intro walked
      exact editContent_keepsOnFailure
        (unlessNull_keepsOnFailure
          (editFields_keepsOnFailure
            (editField_keepsOnFailure (inductionHypothesis _) parent) rfl walked))

/-! ## Setters -/

theorem writeStringMap_keepsOnFailure
    (parents : List String)
    (name : String)
    (map : StringMap)
    (node : Node) :
    (writeStringMap parents name map node).KeepsOnFailure unwrapped node :=
  Outcome.KeepsOnFailure.ite (clearField_keepsOnFailure name parents [] node)
    (writeField_keepsOnFailure name (ofStringMap map) parents [] node)

theorem setNamespace_keepsOnFailure
    (namespaceName : String)
    (node : Node) :
    (setNamespace namespaceName node).KeepsOnFailure unwrapped node :=
  Outcome.KeepsOnFailure.ite (clearField_keepsOnFailure "namespace" ["metadata"] [] node)
    (writeField_keepsOnFailure "namespace" (ofText namespaceName) ["metadata"] [] node)

/-- Of the two writes at the root the first one fails, or none. -/
theorem setGvk_keepsOnFailure
    (gvk : Gvk)
    (node : Node) :
    (setGvk gvk node).KeepsOnFailure unwrapped node := by
  cases opens : node.openFields? with
  | some fields =>
      rcases setGvk_of_open opens gvk with ⟨next, sets, _⟩
      rw [sets]
      exact Outcome.keepsOnFailure_of_ok rfl
  | none =>
      rcases writeField_of_closed "kind" (ofText gvk.kind) [] [] node opens with
        ⟨error, kindFails⟩
      have kept := writeField_keepsOnFailure "kind" (ofText gvk.kind) [] [] node error kindFails
      rw [setGvk, Outcome.andThen_of_error kindFails]
      exact fun _ _ => kept

end Node

namespace Part

/-- A part that cannot be set leaves the tree without its wrappers. -/
theorem set_keepsTree
    (part : Part)
    (content : part.Content)
    (node : Node) :
    (part.set content node).KeepsOnFailure Node.unwrapped node := by
  cases part with
  | gvk => exact Node.setGvk_keepsOnFailure content node
  | name => exact Node.writeField_keepsOnFailure "name" (.ofText content) ["metadata"] [] node
  | namespaceName => exact Node.setNamespace_keepsOnFailure content node
  | labels => exact Node.writeStringMap_keepsOnFailure ["metadata"] "labels" content node
  | annotations =>
      exact Node.writeStringMap_keepsOnFailure ["metadata"] "annotations" content node
  | data => exact Node.writeStringMap_keepsOnFailure [] "data" content node

/-- A part that cannot be set leaves the value of the document. -/
theorem set_keepsValue
    (part : Part)
    (content : part.Content)
    (node : Node) :
    (part.set content node).KeepsOnFailure Node.toValue node := by
  intro error fails
  have similar : Node.Similar (part.set content node).state node :=
    part.set_keepsTree content node error fails
  exact similar.read Node.readsThrough_toValue.unwrapped

end Part

end Manifest
