import Manifest.Node.Edit
import Manifest.Proofs.Fields

/-!
# Edits at a list of names

The fields below a list of names are those that a write at these names changes:
nothing and an absent field have none, and a node that is no mapping has no
fields at all, so that it stops the edit.

A write succeeds exactly if there are fields, and then sets its field among
them; a removal removes its field.  At the root, every other name keeps its
content.
-/

namespace Manifest.Node

/-- What holds of contents and passes to a wrapper from what it holds, holds of every node. -/
@[elab_as_elim]
theorem contentInduction
    {motive : Node → Prop}
    (document : ∀ inner, motive inner → motive (.document inner))
    (reference : ∀ anchor target, motive target → motive (.reference anchor target))
    (mapping : ∀ fields, motive (.mapping fields))
    (sequence : ∀ items, motive (.sequence items))
    (scalar : ∀ leaf, motive (.scalar leaf)) :
    ∀ node, motive node
  | .document inner =>
      document inner (contentInduction document reference mapping sequence scalar inner)
  | .reference anchor target =>
      reference anchor target
        (contentInduction document reference mapping sequence scalar target)
  | .mapping fields => mapping fields
  | .sequence items => sequence items
  | .scalar leaf => scalar leaf

/-- What sees no wrapper on top of a node reads the content of the node. -/
theorem read_content
    {β : Type}
    {read : Node → β}
    (document : ∀ inner, read (.document inner) = read inner)
    (reference : ∀ anchor target, read (.reference anchor target) = read target)
    (node : Node) :
    read node.content = read node := by
  induction node using contentInduction with
  | document inner inductionHypothesis =>
      rw [document, ← inductionHypothesis, content]
  | reference anchor target inductionHypothesis =>
      rw [reference, ← inductionHypothesis, content]
  | mapping fields => rfl
  | sequence items => rfl
  | scalar leaf => rfl

@[simp]
theorem content_content (node : Node) :
    node.content.content = node.content :=
  read_content (fun _ => rfl) (fun _ _ => rfl) node

/-- A content is a mapping, a sequence or a scalar. -/
theorem content_cases (node : Node) :
    (∃ fields, node.content = .mapping fields) ∨ (∃ items, node.content = .sequence items) ∨
      ∃ leaf, node.content = .scalar leaf := by
  induction node using contentInduction with
  | document inner inductionHypothesis => exact inductionHypothesis
  | reference anchor target inductionHypothesis => exact inductionHypothesis
  | mapping fields => exact Or.inl ⟨fields, rfl⟩
  | sequence items => exact Or.inr (Or.inl ⟨items, rfl⟩)
  | scalar leaf => exact Or.inr (Or.inr ⟨leaf, rfl⟩)

theorem sizeOf_content_le (node : Node) :
    sizeOf node.content ≤ sizeOf node := by
  induction node using contentInduction with
  | document inner inductionHypothesis =>
      rw [content, document.sizeOf_spec]
      omega
  | reference anchor target inductionHypothesis =>
      rw [content, reference.sizeOf_spec]
      omega
  | mapping fields => exact Nat.le_refl _
  | sequence items => exact Nat.le_refl _
  | scalar leaf => exact Nat.le_refl _

/-! ## Fields below a list of names -/

/-- The fields of the content, of which nothing has none. -/
def openFields? (node : Node) : Option (List (String × Node)) :=
  match node.content with
  | mapping fields => some fields
  | scalar leaf => if leaf.isNull then some [] else none
  | _ => none

/-- The fields below a list of names; an absent field has none. -/
def fieldsAt? : List String → Node → Option (List (String × Node))
  | [], node => node.openFields?
  | parent :: rest, node =>
      node.openFields?.bind fun fields =>
        match Fields.get? parent fields with
        | some child => fieldsAt? rest child
        | none => some []

theorem openFields?_of_content
    {node : Node}
    {fields : List (String × Node)}
    (isMapping : node.content = .mapping fields) :
    node.openFields? = some fields := by
  rw [openFields?, isMapping]

theorem mapping?_eq_some
    {node : Node}
    {fields : List (String × Node)} :
    node.mapping? = some fields ↔ node.content = .mapping fields := by
  rw [mapping?]
  cases node.content <;> simp

/-- What has fields is a mapping, or it is nothing and has none. -/
theorem openFields?_eq_some
    {node : Node}
    {fields : List (String × Node)} :
    node.openFields? = some fields ↔
      node.content = .mapping fields ∨ (node.isNull = true ∧ fields = []) := by
  rw [openFields?, isNull]
  cases node.content with
  | document inner => simp
  | reference anchor target => simp
  | mapping fields => simp
  | sequence items => simp
  | scalar leaf =>
      by_cases isNull : leaf.isNull = true
      · simp [isNull, eq_comm]
      · simp [isNull]

theorem isNull_eq_true
    {node : Node} :
    node.isNull = true ↔ ∃ leaf, node.content = .scalar leaf ∧ leaf.isNull = true := by
  rw [isNull]
  cases node.content <;> simp

/-- A field of the content, with its wrappers. -/
def child? (name : String) (node : Node) : Option Node :=
  node.mapping?.bind (Fields.get? name)

theorem child?_eq_some
    {name : String}
    {node child : Node} :
    node.child? name = some child ↔
      ∃ fields, node.content = .mapping fields ∧ Fields.get? name fields = some child := by
  rw [child?, Option.bind_eq_some_iff]
  simp only [mapping?_eq_some]

theorem child?_of_open
    {node : Node}
    {fields : List (String × Node)}
    (opens : node.openFields? = some fields)
    (name : String) :
    node.child? name = Fields.get? name fields := by
  rcases openFields?_eq_some.1 opens with isMapping | ⟨isNull, isEmpty⟩
  · rw [child?, mapping?_eq_some.2 isMapping, Option.bind_some]
  · rcases isNull_eq_true.1 isNull with ⟨leaf, isLeaf, _⟩
    rw [child?, mapping?, isLeaf, isEmpty]
    rfl

@[simp]
theorem openFields?_null : null.openFields? = some [] :=
  rfl

@[simp]
theorem fieldsAt?_null (parents : List String) :
    fieldsAt? parents null = some [] := by
  cases parents <;> rfl

/-! ## Edits of contents -/

theorem result_editContent
    (edit : Node → Edited Node)
    (node : Node) :
    (editContent edit node).result = (edit node.content).result := by
  induction node using contentInduction with
  | document inner inductionHypothesis => exact inductionHypothesis
  | reference anchor target inductionHypothesis => exact inductionHypothesis
  | mapping fields => rfl
  | sequence items => rfl
  | scalar leaf => rfl

/-- What sees no document node on top reads off an edited node what the edit of its content left. -/
theorem read_editContent
    {β : Type}
    {read : Node → β}
    (document : ∀ inner, read (.document inner) = read inner)
    (edit : Node → Edited Node)
    (node : Node) :
    read (editContent edit node).state = read (edit node.content).state := by
  induction node using contentInduction with
  | document inner inductionHypothesis => exact (document _).trans inductionHypothesis
  | reference anchor target inductionHypothesis => exact inductionHypothesis
  | mapping fields => rfl
  | sequence items => rfl
  | scalar leaf => rfl

theorem content_editContent
    (edit : Node → Edited Node)
    (node : Node) :
    (editContent edit node).state.content = (edit node.content).state.content :=
  read_editContent (fun _ => rfl) edit node

/-- An edit of the fields of a node has the result of the edit, and leaves its mapping. -/
theorem editContent_editFields
    {node : Node}
    {fields : List (String × Node)}
    (opens : node.openFields? = some fields)
    (walked : List String)
    (edit : List (String × Node) → Edited (List (String × Node))) :
    ∃ next,
      editContent (editFields walked edit) node = ⟨(edit fields).result, next⟩ ∧
      next.content = .mapping (edit fields).state := by
  have edits :
      editFields walked edit node.content = (edit fields).mapState .mapping := by
    rcases openFields?_eq_some.1 opens with isMapping | ⟨isNull, isEmpty⟩
    · rw [isMapping]
      rfl
    · rcases isNull_eq_true.1 isNull with ⟨leaf, isLeaf, leafIsNull⟩
      rw [isLeaf, isEmpty, editFields.eq_def]
      simp [Node.isNull, content, leafIsNull]
  refine ⟨(editContent (editFields walked edit) node).state, ?_, ?_⟩
  · have sameResult :
        (editContent (editFields walked edit) node).result = (edit fields).result := by
      rw [result_editContent, edits]
      rfl
    rw [← sameResult]
  · rw [content_editContent, edits]
    rfl

theorem editField_of_get?
    {name : String}
    {fields : List (String × Node)}
    {child : Node}
    (found : Fields.get? name fields = some child)
    (edit : Node → Edited Node) :
    editField name edit fields =
      (edit child).mapState fun edited => Fields.modify name (fun _ => edited) fields := by
  induction fields with
  | nil => cases found
  | cons head rest inductionHypothesis =>
      rcases head with ⟨other, node⟩
      rw [editField]
      split
      · rename_i same
        rw [same, Fields.get?_cons_same] at found
        cases found
        simp [Outcome.mapState, Fields.modify, same]
      · rename_i different
        rw [Fields.get?_cons_other different] at found
        rw [inductionHypothesis found]
        simp [Outcome.mapState, Fields.modify, different]

theorem editField_of_absent
    {name : String}
    {fields : List (String × Node)}
    (absent : Fields.get? name fields = none)
    (edit : Node → Edited Node) :
    editField name edit fields = .done () fields := by
  induction fields with
  | nil => rfl
  | cons head rest inductionHypothesis =>
      rcases head with ⟨other, node⟩
      rw [editField]
      split
      · rename_i same
        rw [same, Fields.get?_cons_same] at absent
        cases absent
      · rename_i different
        rw [Fields.get?_cons_other different] at absent
        rw [inductionHypothesis absent]
        rfl

/-- The fields of a node that is no mapping cannot be edited. -/
theorem result_editFields_of_closed
    {node : Node}
    (closed : node.openFields? = none)
    (walked : List String)
    (edit : List (String × Node) → Edited (List (String × Node))) :
    ∃ error, (editContent (editFields walked edit) node).result = .error error := by
  rw [result_editContent]
  have contentClosed : node.content.openFields? = none := by
    rw [openFields?, content_content]
    exact closed
  have notNull : node.content.isNull = false := by
    cases isNull : node.content.isNull with
    | false => rfl
    | true =>
        rw [openFields?_eq_some.2 (Or.inr ⟨isNull, rfl⟩)] at contentClosed
        cases contentClosed
  rw [editFields.eq_def]
  split
  · rename_i fields isMapping
    rw [isMapping] at contentClosed
    cases contentClosed
  · rw [if_neg (by rw [notNull]; decide)]
    exact ⟨_, rfl⟩

/-! ## Writes and removals -/

/-- The fields at some names are changed, and at the root only the first name is touched. -/
structure Changed
    (parents : List String)
    (name : String)
    (change : List (String × Node) → List (String × Node))
    (node next : Node) : Prop where
  inside :
    ∀ fields, node.fieldsAt? parents = some fields →
      next.fieldsAt? parents = some (change fields)
  beside : ∀ other, other ≠ parents.headD name → next.child? other = node.child? other
  stays :
    ∀ parent, parents.head? = some parent →
      (node.child? parent).isSome → (next.child? parent).isSome

theorem changed_root
    {name : String}
    {change : List (String × Node) → List (String × Node)}
    {node next : Node}
    {fields : List (String × Node)}
    (opens : node.openFields? = some fields)
    (nextOpens : next.openFields? = some (change fields))
    (kept : ∀ other, other ≠ name → Fields.get? other (change fields) = Fields.get? other fields) :
    Changed [] name change node next where
  inside := by
    intro others opensOthers
    cases opens.symm.trans opensOthers
    exact nextOpens
  beside := by
    intro other different
    rw [child?_of_open nextOpens, child?_of_open opens]
    exact kept other different
  stays := by
    intro parent isHead
    cases isHead

theorem changed_below
    {parent name : String}
    {rest : List String}
    {change : List (String × Node) → List (String × Node)}
    {node next child nextChild : Node}
    {fields top written : List (String × Node)}
    (opensTop : node.openFields? = some top)
    (opens : node.fieldsAt? (parent :: rest) = some fields)
    (childOpens : child.fieldsAt? rest = some fields)
    (childChanges : Changed rest name change child nextChild)
    (nextOpens : next.openFields? = some written)
    (found : Fields.get? parent written = some nextChild)
    (kept : ∀ other, other ≠ parent → Fields.get? other written = Fields.get? other top) :
    Changed (parent :: rest) name change node next where
  inside := by
    intro others opensOthers
    cases opens.symm.trans opensOthers
    rw [fieldsAt?, nextOpens, Option.bind_some, found]
    exact childChanges.inside fields childOpens
  beside := by
    intro other different
    rw [child?_of_open nextOpens, child?_of_open opensTop]
    exact kept other different
  stays := by
    intro other isHead _
    cases isHead
    rw [child?_of_open nextOpens, found, Option.isSome_some]

/-- The fields below a name are those of its content; without a content there are none. -/
theorem fieldsAt?_cons
    {node : Node}
    {top : List (String × Node)}
    (opensTop : node.openFields? = some top)
    (parent : String)
    (rest : List String) :
    node.fieldsAt? (parent :: rest) =
      fieldsAt? rest ((Fields.get? parent top).getD null) := by
  rw [fieldsAt?, opensTop, Option.bind_some]
  cases Fields.get? parent top with
  | none => exact (fieldsAt?_null rest).symm
  | some child => rfl

/-- Where there are fields, a write succeeds. -/
theorem writeField_of_open
    (name : String)
    (value : Node)
    (parents : List String) :
    ∀ (walked : List String) (node : Node) (fields : List (String × Node)),
      node.fieldsAt? parents = some fields →
      ∃ next,
        writeField walked parents name value node = .done () next ∧
        next.isNull = false ∧
        Changed parents name (Fields.set name value) node next := by
  induction parents with
  | nil =>
      intro walked node fields opens
      rcases
          editContent_editFields opens walked fun fields =>
            .done () (Fields.set name value fields) with
        ⟨next, edits, isMapping⟩
      refine ⟨next, edits, ?_, ?_⟩
      · rw [isNull, isMapping]
      · apply changed_root opens (openFields?_of_content isMapping)
        intro other different
        exact Fields.get?_set_other different value fields
  | cons parent rest inductionHypothesis =>
      intro walked node fields opens
      rcases Option.bind_eq_some_iff.1 opens with ⟨top, opensTop, _⟩
      have childOpens := (fieldsAt?_cons opensTop parent rest).symm.trans opens
      rcases inductionHypothesis (walked ++ [parent]) _ fields childOpens with
        ⟨child, childWrites, _, childChanges⟩
      have writesBelow :=
        editField_of_get? (Fields.get?_ensure_same parent null top)
          (writeField (walked ++ [parent]) rest name value)
      rcases
          editContent_editFields opensTop walked fun fields =>
            editField parent (writeField (walked ++ [parent]) rest name value)
              (Fields.ensure parent null fields) with
        ⟨next, edits, isMapping⟩
      rw [writesBelow, childWrites] at edits isMapping
      refine ⟨next, edits, ?_, ?_⟩
      · rw [isNull, isMapping]
      · apply changed_below opensTop opens childOpens childChanges
          (openFields?_of_content isMapping)
        · rw [Outcome.state_mapState, Fields.get?_modify_same, Fields.get?_ensure_same]
          rfl
        · intro other different
          rw [Outcome.state_mapState, Fields.get?_modify_other different,
            Fields.get?_ensure_other different]

/-- Where there are no fields, a write fails. -/
theorem writeField_of_closed
    (name : String)
    (value : Node)
    (parents : List String) :
    ∀ (walked : List String) (node : Node),
      node.fieldsAt? parents = none →
      ∃ error, (writeField walked parents name value node).result = .error error := by
  induction parents with
  | nil =>
      intro walked node closed
      exact result_editFields_of_closed closed walked _
  | cons parent rest inductionHypothesis =>
      intro walked node closed
      cases opensTop : node.openFields? with
      | none => exact result_editFields_of_closed opensTop walked _
      | some top =>
          have childClosed := (fieldsAt?_cons opensTop parent rest).symm.trans closed
          rcases inductionHypothesis (walked ++ [parent]) _ childClosed with ⟨error, childFails⟩
          have writesBelow :=
            editField_of_get? (Fields.get?_ensure_same parent null top)
              (writeField (walked ++ [parent]) rest name value)
          rcases
              editContent_editFields opensTop walked fun fields =>
                editField parent (writeField (walked ++ [parent]) rest name value)
                  (Fields.ensure parent null fields) with
            ⟨next, edits, _⟩
          rw [writesBelow, Outcome.result_mapState, childFails] at edits
          exact ⟨error, congrArg Outcome.result edits⟩

theorem editContent_congr
    {edit other : Node → Edited Node}
    {node : Node}
    (same : edit node.content = other node.content) :
    editContent edit node = editContent other node := by
  induction node using contentInduction with
  | document inner inductionHypothesis =>
      rw [editContent, editContent, inductionHypothesis same]
  | reference anchor target inductionHypothesis =>
      rw [editContent, editContent, inductionHypothesis same]
  | mapping fields => exact same
  | sequence items => exact same
  | scalar leaf => exact same

theorem isNull_content (node : Node) :
    node.content.isNull = node.isNull := by
  rw [isNull, isNull, content_content]

theorem editContent_unlessNull_of_not_null
    {node : Node}
    (notNull : node.isNull = false)
    (edit : Node → Edited Node) :
    editContent (unlessNull edit) node = editContent edit node := by
  apply editContent_congr
  rw [unlessNull, if_neg (by rw [isNull_content, notNull]; decide)]

theorem editContent_unlessNull_of_null
    {node : Node}
    (nodeIsNull : node.isNull = true)
    (edit : Node → Edited Node) :
    ∃ next,
      editContent (unlessNull edit) node = .done () next ∧ next.content = node.content := by
  have sameEdit :
      editContent (unlessNull edit) node = editContent (fun content => .done () content) node := by
    apply editContent_congr
    rw [unlessNull, if_pos (by rw [isNull_content, nodeIsNull])]
  rw [sameEdit]
  refine ⟨_, Outcome.eq_done (result_editContent _ node), ?_⟩
  rw [content_editContent]
  exact content_content node

theorem fieldsAt?_of_null
    {node : Node}
    (nodeIsNull : node.isNull = true)
    (parents : List String) :
    node.fieldsAt? parents = some [] := by
  have opens : node.openFields? = some [] := openFields?_eq_some.2 (Or.inr ⟨nodeIsNull, rfl⟩)
  cases parents with
  | nil => exact opens
  | cons parent rest => rw [fieldsAt?_cons opens, Fields.get?_nil, Option.getD_none, fieldsAt?_null]

theorem not_null_of_closed
    {node : Node}
    {parents : List String}
    (closed : node.fieldsAt? parents = none) :
    node.isNull = false := by
  cases nodeIsNull : node.isNull with
  | false => rfl
  | true =>
      rw [fieldsAt?_of_null nodeIsNull] at closed
      cases closed

/-- A change that has nothing to change is made by leaving the root fields alone. -/
theorem changed_of_same
    {parents : List String}
    {name : String}
    {change : List (String × Node) → List (String × Node)}
    {node next : Node}
    {fields top : List (String × Node)}
    (opensTop : node.openFields? = some top)
    (nextOpens : next.openFields? = some top)
    (opens : node.fieldsAt? parents = some fields)
    (same : change fields = fields) :
    Changed parents name change node next where
  inside := by
    intro others opensOthers
    cases opens.symm.trans opensOthers
    rw [same, ← opens]
    cases parents with
    | nil => rw [fieldsAt?, fieldsAt?, opensTop, nextOpens]
    | cons parent rest => rw [fieldsAt?_cons opensTop, fieldsAt?_cons nextOpens]
  beside := by
    intro other _
    rw [child?_of_open nextOpens, child?_of_open opensTop]
  stays := by
    intro other _ present
    rw [child?_of_open opensTop] at present
    rw [child?_of_open nextOpens]
    exact present

/-- From nothing, every removal has nothing to remove. -/
theorem clearField_of_null
    {node : Node}
    (nodeIsNull : node.isNull = true)
    (walked parents : List String)
    (name : String) :
    ∃ next,
      clearField walked parents name node = .done () next ∧
      next.isNull = node.isNull ∧
      Changed parents name (Fields.remove name) node next := by
  have opensTop : node.openFields? = some [] :=
    openFields?_eq_some.2 (Or.inr ⟨nodeIsNull, rfl⟩)
  have opens := fieldsAt?_of_null nodeIsNull parents
  have clears :
      ∃ edit, clearField walked parents name node = editContent (unlessNull edit) node := by
    cases parents with
    | nil => exact ⟨_, rfl⟩
    | cons parent rest => exact ⟨_, rfl⟩
  rcases clears with ⟨edit, isEdit⟩
  rcases editContent_unlessNull_of_null nodeIsNull edit with ⟨next, edits, sameContent⟩
  have nextOpens : next.openFields? = some [] := by
    rw [← opensTop, openFields?, openFields?, sameContent]
  refine ⟨next, isEdit.trans edits, ?_, changed_of_same opensTop nextOpens opens rfl⟩
  rw [isNull, isNull, sameContent]

/-- Where there are fields, a removal succeeds; nothing stays nothing. -/
theorem clearField_of_open
    (name : String)
    (parents : List String) :
    ∀ (walked : List String) (node : Node) (fields : List (String × Node)),
      node.fieldsAt? parents = some fields →
      ∃ next,
        clearField walked parents name node = .done () next ∧
        next.isNull = node.isNull ∧
        Changed parents name (Fields.remove name) node next := by
  induction parents with
  | nil =>
      intro walked node fields opens
      cases nodeIsNull : node.isNull with
      | true => exact nodeIsNull ▸ clearField_of_null nodeIsNull walked [] name
      | false =>
          rcases
              editContent_editFields opens walked fun fields =>
                .done () (Fields.remove name fields) with
            ⟨next, edits, isMapping⟩
          refine ⟨next, ?_, ?_, ?_⟩
          · rw [clearField, editContent_unlessNull_of_not_null nodeIsNull, edits]
            rfl
          · rw [isNull, isMapping]
          · apply changed_root opens (openFields?_of_content isMapping)
            intro other different
            exact Fields.get?_remove_other different fields
  | cons parent rest inductionHypothesis =>
      intro walked node fields opens
      cases nodeIsNull : node.isNull with
      | true => exact nodeIsNull ▸ clearField_of_null nodeIsNull walked (parent :: rest) name
      | false =>
          rcases Option.bind_eq_some_iff.1 opens with ⟨top, opensTop, _⟩
          have childOpens := (fieldsAt?_cons opensTop parent rest).symm.trans opens
          rcases
              editContent_editFields opensTop walked fun fields =>
                editField parent (clearField (walked ++ [parent]) rest name) fields with
            ⟨next, edits, isMapping⟩
          cases found : Fields.get? parent top with
          | none =>
              rw [editField_of_absent found] at edits isMapping
              have isEmpty : fields = [] := by
                rw [found, Option.getD_none, fieldsAt?_null] at childOpens
                exact (Option.some.inj childOpens).symm
              refine ⟨next, ?_, ?_, ?_⟩
              · rw [clearField, editContent_unlessNull_of_not_null nodeIsNull, edits]
                rfl
              · rw [isNull, isMapping]
              · apply changed_of_same opensTop (openFields?_of_content isMapping) opens
                rw [isEmpty]
                rfl
          | some child =>
              rw [found, Option.getD_some] at childOpens
              rcases inductionHypothesis (walked ++ [parent]) child fields childOpens with
                ⟨nextChild, childClears, _, childChanges⟩
              rw [editField_of_get? found, childClears] at edits isMapping
              refine ⟨next, ?_, ?_, ?_⟩
              · rw [clearField, editContent_unlessNull_of_not_null nodeIsNull, edits]
                rfl
              · rw [isNull, isMapping]
              · apply changed_below opensTop opens childOpens childChanges
                  (openFields?_of_content isMapping)
                · rw [Outcome.state_mapState, Fields.get?_modify_same, found]
                  rfl
                · intro other different
                  rw [Outcome.state_mapState, Fields.get?_modify_other different]

/-- Where there are no fields, a removal fails. -/
theorem clearField_of_closed
    (name : String)
    (parents : List String) :
    ∀ (walked : List String) (node : Node),
      node.fieldsAt? parents = none →
      ∃ error, (clearField walked parents name node).result = .error error := by
  induction parents with
  | nil =>
      intro walked node closed
      have notNull : node.isNull = false := not_null_of_closed closed
      rw [clearField, editContent_unlessNull_of_not_null notNull]
      exact result_editFields_of_closed closed walked _
  | cons parent rest inductionHypothesis =>
      intro walked node closed
      have notNull : node.isNull = false := not_null_of_closed closed
      rw [clearField, editContent_unlessNull_of_not_null notNull]
      cases opensTop : node.openFields? with
      | none => exact result_editFields_of_closed opensTop walked _
      | some top =>
          have childClosed := (fieldsAt?_cons opensTop parent rest).symm.trans closed
          cases found : Fields.get? parent top with
          | none =>
              rw [found, Option.getD_none, fieldsAt?_null] at childClosed
              cases childClosed
          | some child =>
              rw [found, Option.getD_some] at childClosed
              rcases inductionHypothesis (walked ++ [parent]) child childClosed with
                ⟨error, childFails⟩
              rcases
                  editContent_editFields opensTop walked fun fields =>
                    editField parent (clearField (walked ++ [parent]) rest name) fields with
                ⟨next, edits, _⟩
              rw [editField_of_get? found, Outcome.result_mapState, childFails] at edits
              exact ⟨error, congrArg Outcome.result edits⟩

end Manifest.Node
