import Manifest.Proofs.Fields
import Manifest.Value
import Mathlib.Data.List.Sort

/-!
# Fields of decoded values

Only a map has fields, and it has them in the order of their names.  So a value is
determined by what it is apart from its fields, and by what it holds under each name:
whatever is said of two values in the following is shown name by name.

A field is altered by a function from what is there to what is to be there, where the
absence of a content stands for the absence of the field.  A map keeps all other fields.
A value that is no map becomes one when it gets a field, and stays what it is otherwise.
-/

namespace Manifest

namespace Fields

variable {α : Type}

theorem mem_iff_get?
    {fields : List (String × α)}
    (distinct : Distinct fields)
    {field : String × α} :
    field ∈ fields ↔ get? field.1 fields = some field.2 :=
  ⟨get?_of_mem distinct, mem_of_get?⟩

/-- Fields in the order of their names are determined by what they hold under each name. -/
theorem Ascending.ext
    {left right : List (String × α)}
    (leftAscending : Ascending left)
    (rightAscending : Ascending right)
    (same : ∀ name, get? name left = get? name right) :
    left = right := by
  let before : String × α → String × α → Prop := fun first second => first.1 < second.1
  have irreflexive : Std.Irrefl before := ⟨fun field => String.lt_irrefl field.1⟩
  have antisymmetric : Std.Antisymm before :=
    ⟨fun _ _ below above => absurd above (String.lt_asymm below)⟩
  apply List.Pairwise.eq_of_mem_iff (r := before) leftAscending rightAscending
  intro field
  rw [mem_iff_get? leftAscending.distinct, mem_iff_get? rightAscending.distinct, same]

theorem Ascending.remove
    {fields : List (String × α)}
    (ascending : Ascending fields)
    (name : String) :
    Ascending (Fields.remove name fields) :=
  ascending.sublist (remove_sublist name fields)

theorem get?_append
    (name : String)
    (first second : List (String × α)) :
    get? name (first ++ second) = (get? name first).or (get? name second) := by
  induction first with
  | nil => rfl
  | cons head rest inductionHypothesis =>
      rcases head with ⟨other, content⟩
      rw [List.cons_append, get?, get?]
      split
      · rfl
      · exact inductionHypothesis

end Fields

namespace Value

/-- The fields of a value, of which only a map has any. -/
def fields (value : Value) : List (String × Value) :=
  value.map?.getD []

/-- The content of the field with a name. -/
def field? (name : String) (value : Value) : Option Value :=
  Fields.get? name value.fields

/-- A value that is no map; it has no fields. -/
def bare? : Value → Option Value
  | map _ => none
  | value => some value

@[simp]
theorem field?_map
    (name : String)
    (fields : List (String × Value)) :
    (map fields).field? name = Fields.get? name fields :=
  rfl

@[simp]
theorem bare?_map (fields : List (String × Value)) :
    (map fields).bare? = none :=
  rfl

/-- A value is a map of its fields, or it has none. -/
theorem shape_cases (value : Value) :
    (value = map value.fields ∧ value.bare? = none) ∨
      (value.fields = [] ∧ value.bare? = some value) := by
  cases value with
  | map fields => exact Or.inl ⟨rfl, rfl⟩
  | _ => exact Or.inr ⟨rfl, rfl⟩

theorem fields_of_bare
    {value : Value}
    (isBare : value.bare? = some value) :
    value.fields = [] := by
  rcases shape_cases value with ⟨_, isMap⟩ | ⟨noFields, _⟩
  · rw [isMap] at isBare
    cases isBare
  · exact noFields

/-- What is found along a chain of names is found from what is there at the first of them. -/
theorem getIn?_cons
    (name : String)
    (rest : List String)
    (value : Value) :
    value.getIn? (name :: rest) = (value.field? name).bind (getIn? · rest) := by
  cases value with
  | map fields =>
      rw [getIn?, field?_map]
      cases Fields.get? name fields <;> rfl
  | _ => rfl

/-! ## Values in order -/

/-- The fields of a value are in the order of their names, and so on in each of them. -/
inductive Ordered : Value → Prop where
  | intro
      {value : Value}
      (ascending : Fields.Ascending value.fields)
      (contents : ∀ name content, value.field? name = some content → Ordered content) :
      Ordered value

theorem Ordered.ascending
    {value : Value}
    (ordered : value.Ordered) :
    Fields.Ascending value.fields := by
  cases ordered with
  | intro ascending _ => exact ascending

theorem Ordered.field?
    {value content : Value}
    {name : String}
    (ordered : value.Ordered)
    (found : value.field? name = some content) :
    content.Ordered := by
  cases ordered with
  | intro _ contents => exact contents name content found

theorem ordered_of_bare
    {value : Value}
    (noFields : value.fields = []) :
    value.Ordered := by
  refine .intro ?_ ?_
  · rw [noFields]
    exact List.Pairwise.nil
  · intro name content found
    rw [Value.field?, noFields] at found
    cases found

@[simp]
theorem ordered_null : null.Ordered :=
  ordered_of_bare rfl

/-- Values whose fields are in order are equal if they are without fields and at each name. -/
theorem eq_of_fields
    {left right : Value}
    (leftAscending : Fields.Ascending left.fields)
    (rightAscending : Fields.Ascending right.fields)
    (sameBare : left.bare? = right.bare?)
    (sameFields : ∀ name, left.field? name = right.field? name) :
    left = right := by
  rcases shape_cases left with ⟨leftIsMap, leftBare⟩ | ⟨_, leftBare⟩
  · rcases shape_cases right with ⟨rightIsMap, _⟩ | ⟨_, rightBare⟩
    · rw [leftIsMap, rightIsMap, leftAscending.ext rightAscending sameFields]
    · rw [leftBare, rightBare] at sameBare
      cases sameBare
  · rcases shape_cases right with ⟨_, rightBare⟩ | ⟨_, rightBare⟩
    · rw [leftBare, rightBare] at sameBare
      cases sameBare
    · rw [leftBare, rightBare] at sameBare
      exact Option.some.inj sameBare

/-! ## Altering one field -/

/-- The value with one of its fields altered. -/
def alter
    (name : String)
    (change : Option Value → Option Value)
    (value : Value) :
    Value :=
  match change (value.field? name), value with
  | some content, value => map (Fields.insert name content value.fields)
  | none, map fields => map (Fields.remove name fields)
  | none, value => value

section

variable
  {name : String}
  {change : Option Value → Option Value}
  {value : Value}

/-- The three things that altering a field can do. -/
theorem alter_cases
    (name : String)
    (change : Option Value → Option Value)
    (value : Value) :
    (∃ content,
        change (value.field? name) = some content ∧
          alter name change value = map (Fields.insert name content value.fields)) ∨
      (change (value.field? name) = none ∧ value.bare? = none ∧
        alter name change value = map (Fields.remove name value.fields)) ∨
      (change (value.field? name) = none ∧ value.fields = [] ∧
        alter name change value = value) := by
  cases changed : change (value.field? name) with
  | some content => exact Or.inl ⟨content, rfl, by rw [alter.eq_def, changed]⟩
  | none =>
      rw [alter.eq_def, changed]
      cases value with
      | map fields => exact Or.inr (Or.inl ⟨rfl, rfl, rfl⟩)
      | _ => exact Or.inr (Or.inr ⟨rfl, rfl, rfl⟩)

theorem ascending_alter
    (ascending : Fields.Ascending value.fields)
    (name : String)
    (change : Option Value → Option Value) :
    Fields.Ascending (alter name change value).fields := by
  rcases alter_cases name change value with ⟨content, _, alters⟩ | ⟨_, _, alters⟩ | ⟨_, _, alters⟩
  · rw [alters]
    exact ascending.insert name content
  · rw [alters]
    exact ascending.remove name
  · rw [alters]
    exact ascending

/-- The altered field holds what the change gives. -/
theorem field?_alter_same
    (ascending : Fields.Ascending value.fields)
    (name : String)
    (change : Option Value → Option Value) :
    (alter name change value).field? name = change (value.field? name) := by
  rcases alter_cases name change value with
    ⟨content, changed, alters⟩ | ⟨changed, _, alters⟩ | ⟨changed, noFields, alters⟩
  · rw [alters, changed]
    exact Fields.get?_insert_same name content value.fields
  · rw [alters, changed]
    exact Fields.get?_remove_same ascending.distinct name
  · rw [alters, changed, field?, noFields]
    rfl

/-- Every other field stays. -/
theorem field?_alter_other
    {other : String}
    (different : other ≠ name)
    (change : Option Value → Option Value)
    (value : Value) :
    (alter name change value).field? other = value.field? other := by
  rcases alter_cases name change value with ⟨content, _, alters⟩ | ⟨_, _, alters⟩ | ⟨_, _, alters⟩
  · rw [alters]
    exact Fields.get?_insert_other different content value.fields
  · rw [alters]
    exact Fields.get?_remove_other different value.fields
  · rw [alters]

/-- What gets a field is a map; apart from that a value stays what it is. -/
theorem bare?_alter
    (name : String)
    (change : Option Value → Option Value)
    (value : Value) :
    (alter name change value).bare? =
      if (change (value.field? name)).isSome then none else value.bare? := by
  rcases alter_cases name change value with
    ⟨content, changed, alters⟩ | ⟨changed, isMap, alters⟩ | ⟨changed, _, alters⟩
  · rw [alters, changed]
    rfl
  · rw [alters, changed, isMap]
    rfl
  · rw [alters, changed]
    rfl

/-- To be the altered value, a value has to be altered at the name, and the same elsewhere. -/
theorem eq_alter
    {next : Value}
    (ascending : Fields.Ascending value.fields)
    (nextAscending : Fields.Ascending next.fields)
    (bare : next.bare? = if (change (value.field? name)).isSome then none else value.bare?)
    (same : next.field? name = change (value.field? name))
    (others : ∀ other, other ≠ name → next.field? other = value.field? other) :
    next = alter name change value := by
  apply eq_of_fields nextAscending (ascending_alter ascending name change)
  · rw [bare, bare?_alter]
  · intro other
    by_cases isName : other = name
    · rw [isName, same, field?_alter_same ascending]
    · rw [others other isName, field?_alter_other isName]

theorem alter_congr
    {another : Option Value → Option Value}
    (same : change (value.field? name) = another (value.field? name)) :
    alter name change value = alter name another value := by
  simp only [alter, same]

/-- To alter a field as it is changes nothing. -/
theorem alter_of_same
    (ascending : Fields.Ascending value.fields)
    (same : change (value.field? name) = value.field? name) :
    alter name change value = value := by
  refine (eq_alter ascending ascending ?_ same.symm fun _ _ => rfl).symm
  rw [same]
  rcases shape_cases value with ⟨_, isMap⟩ | ⟨noFields, _⟩
  · rw [isMap, ite_self]
  · rw [field?, noFields]
    rfl

/-- One alteration after another, of which the later does not take away what the first gave. -/
theorem alter_alter_same
    {later : Option Value → Option Value}
    (ascending : Fields.Ascending value.fields)
    (keeps :
      (change (value.field? name)).isSome → (later (change (value.field? name))).isSome) :
    alter name later (alter name change value) =
      alter name (fun found => later (change found)) value := by
  have middleAscending := ascending_alter ascending name change
  have middle := field?_alter_same ascending name change
  apply eq_alter ascending (ascending_alter middleAscending name later)
  · rw [bare?_alter, bare?_alter, middle]
    cases changed : (change (value.field? name)).isSome with
    | false => rfl
    | true => simp [keeps changed]
  · rw [field?_alter_same middleAscending, middle]
  · intro other different
    rw [field?_alter_other different, field?_alter_other different]

/-- Alterations of different fields can be made in any order. -/
theorem alter_comm
    {other : String}
    (different : other ≠ name)
    (ascending : Fields.Ascending value.fields)
    (change another : Option Value → Option Value) :
    alter other another (alter name change value) =
      alter name change (alter other another value) := by
  have leftAscending := ascending_alter ascending name change
  have rightAscending := ascending_alter ascending other another
  have atName :
      (alter other another value).field? name = value.field? name :=
    field?_alter_other (Ne.symm different) another value
  have atOther : (alter name change value).field? other = value.field? other :=
    field?_alter_other different change value
  apply eq_alter rightAscending (ascending_alter leftAscending other another)
  · rw [bare?_alter, bare?_alter, bare?_alter, atName, atOther]
    split <;> split <;> rfl
  · rw [field?_alter_other (Ne.symm different), field?_alter_same ascending, atName]
  · intro third notName
    by_cases isOther : third = other
    · rw [isOther, field?_alter_same leftAscending, field?_alter_same ascending, atOther]
    · rw [field?_alter_other isOther, field?_alter_other notName, field?_alter_other isOther]

theorem Ordered.alter
    (ordered : value.Ordered)
    (changed : ∀ content, change (value.field? name) = some content → content.Ordered) :
    (alter name change value).Ordered := by
  refine .intro (ascending_alter ordered.ascending name change) ?_
  intro other content found
  by_cases isName : other = name
  · rw [isName, field?_alter_same ordered.ascending] at found
    exact changed content found
  · rw [field?_alter_other isName] at found
    exact ordered.field? found

end

end Value

end Manifest
