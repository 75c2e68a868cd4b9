import Manifest.Proofs.Node.Fields
import Manifest.Proofs.Value.Write

/-!
# Values of edited documents

A document in which a field is written, or removed, decodes to the value with the content
of that field set, or removed.  The names before the field are walked as by a write of
values: what is absent is added by a write, and ends a removal.
-/

namespace Manifest

/-- Where one change after another succeeds, both of them do. -/
theorem Outcome.andThen_eq_done
    {ε σ α β : Type}
    {first : Outcome ε σ α}
    {next : α → σ → Outcome ε σ β}
    {result : β}
    {state : σ}
    (succeeds : first.andThen next = done result state) :
    ∃ found middle, first = done found middle ∧ next found middle = done result state := by
  cases found : first.result with
  | ok value =>
      rw [andThen_of_ok found] at succeeds
      exact ⟨value, first.state, eq_done found, succeeds⟩
  | error error =>
      rw [andThen_of_error found] at succeeds
      cases succeeds

/-- To do nothing behind a change is to make the change alone. -/
@[simp]
theorem Outcome.andThen_done_right
    {ε σ : Type}
    (outcome : Outcome ε σ Unit) :
    (outcome.andThen fun _ state => done () state) = outcome := by
  rcases outcome with ⟨_ | _, state⟩ <;> rfl

namespace Node

/-- A document whose fields are those of another one except at a name is altered there. -/
theorem toValue_eq_alter
    {node next : Node}
    {fields changed : List (String × Node)}
    {name : String}
    {change : Option Value → Option Value}
    (wellFormed : node.WellFormed)
    (nextWellFormed : next.WellFormed)
    (opens : node.openFields? = some fields)
    (isMapping : next.content = .mapping changed)
    (same :
      (Fields.get? name changed).map toValue = change ((Fields.get? name fields).map toValue))
    (others : ∀ other, other ≠ name → Fields.get? other changed = Fields.get? other fields)
    (staysMap : node.isNull = false ∨ (Fields.get? name changed).isSome) :
    next.toValue = Value.alter name change node.toValue := by
  have nextOpens := openFields?_of_content isMapping
  have atName : node.toValue.field? name = (Fields.get? name fields).map toValue := by
    rw [field?_toValue wellFormed, child?_of_open opens]
  apply Value.eq_alter (ascending_toValue node) (ascending_toValue next)
  · rw [toValue_of_mapping isMapping, Value.bare?_map, atName, ← same, Option.isSome_map]
    split
    · rfl
    · rename_i removed
      have notNull : node.isNull = false := staysMap.resolve_right removed
      rcases openFields?_eq_some.1 opens with nodeIsMapping | ⟨isNull, _⟩
      · rw [toValue_of_mapping nodeIsMapping, Value.bare?_map]
      · rw [isNull] at notNull
        cases notNull
  · rw [field?_toValue nextWellFormed, child?_of_open nextOpens, same, atName]
  · intro other different
    rw [field?_toValue nextWellFormed, field?_toValue wellFormed, child?_of_open nextOpens,
      child?_of_open opens, others other different]

theorem fieldsAt?_of_writeField
    {walked parents : List String}
    {name : String}
    {value node next : Node}
    (writes : writeField walked parents name value node = .done () next) :
    ∃ fields, node.fieldsAt? parents = some fields := by
  cases opens : node.fieldsAt? parents with
  | some fields => exact ⟨fields, rfl⟩
  | none =>
      rcases writeField_of_closed name value parents walked node opens with ⟨error, fails⟩
      rw [writes] at fails
      cases fails

theorem fieldsAt?_of_clearField
    {walked parents : List String}
    {name : String}
    {node next : Node}
    (clears : clearField walked parents name node = .done () next) :
    ∃ fields, node.fieldsAt? parents = some fields := by
  cases opens : node.fieldsAt? parents with
  | some fields => exact ⟨fields, rfl⟩
  | none =>
      rcases clearField_of_closed name parents walked node opens with ⟨error, fails⟩
      rw [clears] at fails
      cases fails

theorem WellFormed.of_writeField
    {walked parents : List String}
    {name : String}
    {value node next : Node}
    (wellFormed : node.WellFormed)
    (valueWellFormed : value.WellFormed)
    (writes : Node.writeField walked parents name value node = .done () next) :
    next.WellFormed := by
  have written : (Node.writeField walked parents name value node).state.WellFormed :=
    WellFormed.writeField valueWellFormed parents walked node wellFormed
  rw [writes] at written
  exact written

theorem WellFormed.of_clearField
    {walked parents : List String}
    {name : String}
    {node next : Node}
    (wellFormed : node.WellFormed)
    (clears : Node.clearField walked parents name node = .done () next) :
    next.WellFormed := by
  have cleared : (Node.clearField walked parents name node).state.WellFormed :=
    WellFormed.clearField parents walked node wellFormed
  rw [clears] at cleared
  exact cleared

theorem getD_toValue (child : Option Node) :
    (child.getD null).toValue = (child.map toValue).getD .null := by
  cases child <;> rfl

theorem WellFormedFields.getD_null
    {fields : List (String × Node)}
    (wellFormed : WellFormedFields fields)
    (name : String) :
    ((Fields.get? name fields).getD null).WellFormed := by
  cases found : Fields.get? name fields with
  | none => exact .scalar Scalar.null
  | some child => exact wellFormed.get? found

/-- A write sets the value of its field. -/
theorem toValue_writeField
    {name : String}
    {value : Node}
    (valueWellFormed : value.WellFormed)
    (parents : List String) :
    ∀ {walked : List String} {node next : Node},
      node.WellFormed →
      writeField walked parents name value node = .done () next →
      some next.toValue =
        Value.put (some value.toValue) (parents ++ [name]) (some node.toValue) := by
  induction parents with
  | nil =>
      intro walked node next wellFormed writes
      rcases fieldsAt?_of_writeField writes with ⟨fields, opens⟩
      rcases
          editContent_editFields opens walked fun fields =>
            .done () (Fields.set name value fields) with
        ⟨edited, edits, isMapping⟩
      cases (edits.symm.trans writes)
      have nextWellFormed := wellFormed.of_writeField valueWellFormed writes
      rw [List.nil_append, Value.put_cons_some, Option.some.injEq]
      apply toValue_eq_alter wellFormed nextWellFormed opens isMapping
      · rw [Outcome.done, Fields.get?_set_same]
        rfl
      · exact fun other different => Fields.get?_set_other different value fields
      · exact Or.inr (by rw [Outcome.done, Fields.get?_set_same]; rfl)
  | cons parent rest inductionHypothesis =>
      intro walked node next wellFormed writes
      rcases fieldsAt?_of_writeField writes with ⟨fields, opens⟩
      rcases Option.bind_eq_some_iff.1 opens with ⟨top, opensTop, _⟩
      have childOpens := (fieldsAt?_cons opensTop parent rest).symm.trans opens
      rcases writeField_of_open name value rest (walked ++ [parent]) _ fields childOpens with
        ⟨child, childWrites, _, _⟩
      have writesBelow :=
        editField_of_get? (Fields.get?_ensure_same parent null top)
          (writeField (walked ++ [parent]) rest name value)
      rcases
          editContent_editFields opensTop walked fun fields =>
            editField parent (writeField (walked ++ [parent]) rest name value)
              (Fields.ensure parent null fields) with
        ⟨edited, edits, isMapping⟩
      rw [writesBelow, childWrites] at edits isMapping
      cases (edits.symm.trans writes)
      have nextWellFormed := wellFormed.of_writeField valueWellFormed writes
      rw [List.cons_append, Value.put_cons_some, Option.some.injEq]
      have isChild :
          Fields.get? parent
              (Fields.modify parent (fun _ => child) (Fields.ensure parent null top)) =
            some child := by
        rw [Fields.get?_modify_same, Fields.get?_ensure_same]
        rfl
      apply toValue_eq_alter wellFormed nextWellFormed opensTop isMapping
      · rw [Outcome.state_mapState, Outcome.done, isChild, Option.map_some,
          inductionHypothesis ((wellFormed.fieldsAt? [] opensTop).getD_null parent) childWrites,
          getD_toValue, Value.put_some_getD]
      · intro other different
        rw [Outcome.state_mapState, Fields.get?_modify_other different,
          Fields.get?_ensure_other different]
      · exact Or.inr (by rw [Outcome.state_mapState, Outcome.done, isChild]; rfl)

/-- A removal from nothing leaves nothing. -/
theorem toValue_clearField_of_null
    {walked parents : List String}
    {name : String}
    {node next : Node}
    (isNull : node.isNull = true)
    (clears : clearField walked parents name node = .done () next) :
    some next.toValue = Value.put none (parents ++ [name]) (some node.toValue) := by
  rcases clearField_of_null isNull walked parents name with ⟨cleared, isCleared, nextIsNull, _⟩
  cases isCleared.symm.trans clears
  rw [toValue_of_null isNull, toValue_of_null (nextIsNull.trans isNull)]
  cases parents with
  | nil => rfl
  | cons parent rest => rw [List.cons_append, Value.put_cons_some, Value.alter_null_of_none]

/-- A removal removes the value of its field. -/
theorem toValue_clearField
    {name : String}
    (parents : List String) :
    ∀ {walked : List String} {node next : Node},
      node.WellFormed →
      clearField walked parents name node = .done () next →
      some next.toValue = Value.put none (parents ++ [name]) (some node.toValue) := by
  induction parents with
  | nil =>
      intro walked node next wellFormed clears
      cases isNull : node.isNull with
      | true => exact toValue_clearField_of_null isNull clears
      | false =>
          rcases fieldsAt?_of_clearField clears with ⟨fields, opens⟩
          have nextWellFormed := wellFormed.of_clearField clears
          rcases
              editContent_editFields opens walked fun fields =>
                .done () (Fields.remove name fields) with
            ⟨edited, edits, isMapping⟩
          rw [clearField, editContent_unlessNull_of_not_null isNull] at clears
          cases (edits.symm.trans clears)
          have distinct := (wellFormed.fieldsAt? [] opens).distinct
          rw [List.nil_append, Value.put_cons_some, Option.some.injEq]
          apply toValue_eq_alter wellFormed nextWellFormed opens isMapping
          · rw [Outcome.done, Fields.get?_remove_same distinct]
            rfl
          · exact fun other different => Fields.get?_remove_other different fields
          · exact Or.inl isNull
  | cons parent rest inductionHypothesis =>
      intro walked node next wellFormed clears
      cases isNull : node.isNull with
      | true => exact toValue_clearField_of_null isNull clears
      | false =>
          rcases fieldsAt?_of_clearField clears with ⟨fields, opens⟩
          rcases Option.bind_eq_some_iff.1 opens with ⟨top, opensTop, _⟩
          have childOpens := (fieldsAt?_cons opensTop parent rest).symm.trans opens
          have nextWellFormed := wellFormed.of_clearField clears
          rcases
              editContent_editFields opensTop walked fun fields =>
                editField parent (clearField (walked ++ [parent]) rest name) fields with
            ⟨edited, edits, isMapping⟩
          rw [clearField, editContent_unlessNull_of_not_null isNull] at clears
          rw [List.cons_append, Value.put_cons_some, Option.some.injEq]
          cases found : Fields.get? parent top with
          | none =>
              rw [editField_of_absent found] at edits isMapping
              cases (edits.symm.trans clears)
              apply toValue_eq_alter wellFormed nextWellFormed opensTop isMapping
              · rw [Outcome.done, found, Option.map_none, Value.put_none_none]
              · exact fun _ _ => rfl
              · exact Or.inl isNull
          | some child =>
              rw [found, Option.getD_some] at childOpens
              rcases clearField_of_open name rest (walked ++ [parent]) child fields childOpens with
                ⟨nextChild, childClears, _, _⟩
              rw [editField_of_get? found, childClears] at edits isMapping
              cases (edits.symm.trans clears)
              apply toValue_eq_alter wellFormed nextWellFormed opensTop isMapping
              · rw [Outcome.state_mapState, Fields.get?_modify_same, found]
                exact inductionHypothesis ((wellFormed.fieldsAt? [] opensTop).get? found)
                  childClears
              · intro other different
                rw [Outcome.state_mapState, Fields.get?_modify_other different]
              · exact Or.inl isNull

/-! ## Lists of writes and removals -/

/-- A content that is written at a field below some names, or the removal of that field. -/
structure Put where
  parents : List String
  name : String
  content : Option Node

namespace Put

/-- The names from the root to the field. -/
def path (put : Put) : List String :=
  put.parents ++ [put.name]

/-- What is done to the value of a document. -/
def write (put : Put) : Value.Write :=
  ⟨put.path, put.content.map toValue⟩

/-- What is written is well-formed. -/
def WellFormed (put : Put) : Prop :=
  ∀ value, put.content = some value → value.WellFormed

/-- Writes the field, or removes it. -/
def run (put : Put) (node : Node) : Edited Node :=
  match put.content with
  | some value => writeField [] put.parents put.name value node
  | none => clearField [] put.parents put.name node

variable
  {put : Put}
  {node next : Node}

theorem toValue_run
    (putWellFormed : put.WellFormed)
    (wellFormed : node.WellFormed)
    (runs : put.run node = .done () next) :
    some next.toValue = Value.put put.write.content put.write.path (some node.toValue) := by
  rcases put with ⟨parents, name, _ | value⟩
  · exact toValue_clearField parents wellFormed runs
  · exact toValue_writeField (putWellFormed value rfl) parents wellFormed runs

theorem wellFormed_run
    (putWellFormed : put.WellFormed)
    (wellFormed : node.WellFormed)
    (runs : put.run node = .done () next) :
    next.WellFormed := by
  rcases put with ⟨parents, name, _ | value⟩
  · exact wellFormed.of_clearField runs
  · exact wellFormed.of_writeField (putWellFormed value rfl) runs

/-- At the root, only the first name is touched. -/
theorem child?_run
    (runs : put.run node = .done () next)
    {other : String}
    (isOther : put.path.head? ≠ some other) :
    next.child? other = node.child? other := by
  have different : other ≠ put.parents.headD put.name := by
    rintro rfl
    apply isOther
    rw [path]
    cases put.parents <;> rfl
  rcases put with ⟨parents, name, _ | value⟩
  · rcases fieldsAt?_of_clearField runs with ⟨fields, opens⟩
    rcases clearField_of_open name parents [] node fields opens with ⟨_, clears, _, changes⟩
    cases clears.symm.trans runs
    exact changes.beside other different
  · rcases fieldsAt?_of_writeField runs with ⟨fields, opens⟩
    rcases writeField_of_open name value parents [] node fields opens with ⟨_, writes, _, changes⟩
    cases writes.symm.trans runs
    exact changes.beside other different

end Put

/-- Writes and removes fields, one after another. -/
def putAll : List Put → Node → Edited Node
  | [], node => .done () node
  | put :: rest, node => (put.run node).andThen fun _ edited => putAll rest edited

section

variable
  {puts : List Put}
  {node next : Node}

theorem orderedContents_writes
    (allWellFormed : ∀ put ∈ puts, put.WellFormed) :
    Value.OrderedContents (puts.map Put.write) := by
  intro write member
  rcases List.mem_map.1 member with ⟨put, isPut, rfl⟩
  intro value isValue
  rcases Option.map_eq_some_iff.1 isValue with ⟨content, isContent, rfl⟩
  exact (allWellFormed put isPut content isContent).ordered_toValue

theorem allApart_writes
    (apart : (puts.map Put.path).Pairwise Value.Apart) :
    Value.AllApart (puts.map Put.write) :=
  List.pairwise_map.2 (List.pairwise_map.1 apart)

theorem toValue_putAll
    (allWellFormed : ∀ put ∈ puts, put.WellFormed)
    (wellFormed : node.WellFormed)
    (runs : putAll puts node = .done () next) :
    some next.toValue = Value.putAll (puts.map Put.write) (some node.toValue) := by
  induction puts generalizing node with
  | nil =>
      cases runs
      rfl
  | cons put rest inductionHypothesis =>
      rw [List.forall_mem_cons] at allWellFormed
      rcases Outcome.andThen_eq_done runs with ⟨_, middle, runsFirst, runsRest⟩
      have middleWellFormed := Put.wellFormed_run allWellFormed.1 wellFormed runsFirst
      rw [inductionHypothesis allWellFormed.2 middleWellFormed runsRest,
        Put.toValue_run allWellFormed.1 wellFormed runsFirst]
      rfl

theorem wellFormed_putAll
    (allWellFormed : ∀ put ∈ puts, put.WellFormed)
    (wellFormed : node.WellFormed)
    (runs : putAll puts node = .done () next) :
    next.WellFormed := by
  induction puts generalizing node with
  | nil =>
      cases runs
      exact wellFormed
  | cons put rest inductionHypothesis =>
      rw [List.forall_mem_cons] at allWellFormed
      rcases Outcome.andThen_eq_done runs with ⟨_, middle, runsFirst, runsRest⟩
      exact inductionHypothesis allWellFormed.2
        (Put.wellFormed_run allWellFormed.1 wellFormed runsFirst) runsRest

theorem child?_putAll
    (runs : putAll puts node = .done () next)
    {other : String}
    (isOther : ∀ put ∈ puts, put.path.head? ≠ some other) :
    next.child? other = node.child? other := by
  induction puts generalizing node with
  | nil =>
      cases runs
      rfl
  | cons put rest inductionHypothesis =>
      rw [List.forall_mem_cons] at isOther
      rcases Outcome.andThen_eq_done runs with ⟨_, middle, runsFirst, runsRest⟩
      rw [inductionHypothesis runsRest isOther.2, Put.child?_run runsFirst isOther.1]

end

end Node

end Manifest
