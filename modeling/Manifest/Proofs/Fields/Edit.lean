import Manifest.Proofs.Fields
import Mathlib.Data.List.Nodup

/-!
# Runs of edits on fields

Fields stand for an ordered map: the content under each name, and the names in the order in
which they came.  An edit of fields is an edit of this map.  What it makes of the content under
a name is decided by that content alone; the names that still have a content keep their order,
and a new name goes last.

So the names of the fields that a run of edits gives are distinct, the content under a name is
the one that was last stored there, and a name that was never removed stands before all names
that came after it.
-/

namespace Manifest.Fields

variable {α : Type}

/-- What can be done to fields. -/
inductive Edit (α : Type) where
  | set (name : String) (content : α)
  | ensure (name : String) (content : α)
  | remove (name : String)
  | retain (keep : String → α → Bool)
  | modify (name : String) (change : α → α)
  | modifyAll (change : String → α → α)

/-- Contents by name, and an order of the names that have one. -/
@[ext]
structure OrderedMap (α : Type) where
  content : String → Option α
  order : List String

/-- The map without contents. -/
def OrderedMap.empty : OrderedMap α where
  content _ := none
  order := []

/-- The map that fields stand for. -/
def toMap (fields : List (String × α)) : OrderedMap α where
  content name := get? name fields
  order := names fields

namespace Edit

/-- Edits fields. -/
def apply : Edit α → List (String × α) → List (String × α)
  | set name content, fields => Fields.set name content fields
  | ensure name content, fields => Fields.ensure name content fields
  | remove name, fields => Fields.remove name fields
  | retain keep, fields => Fields.retain keep fields
  | modify name change, fields => Fields.modify name change fields
  | modifyAll change, fields => Fields.modifyAll change fields

/-- What an edit makes of the content under a name. -/
def contentAt (name : String) : Edit α → Option α → Option α
  | set other content, old => if other = name then some content else old
  | ensure other content, old => if other = name then some (old.getD content) else old
  | remove other, old => if other = name then none else old
  | retain keep, old => old.filter (keep name)
  | modify other change, old => if other = name then old.map change else old
  | modifyAll change, old => old.map (change name)

/-- The names that an edit adds where they are absent. -/
def added : Edit α → List String
  | set name _ => [name]
  | ensure name _ => [name]
  | _ => []

/-- Edits an ordered map: names that keep a content keep their order, and a new name goes last. -/
def onMap (edit : Edit α) (map : OrderedMap α) : OrderedMap α where
  content name := edit.contentAt name (map.content name)
  order :=
    (map.order.filter fun name => (edit.contentAt name (map.content name)).isSome) ++
      edit.added.filter fun name => (map.content name).isNone

/-- The edit leaves the content under a name. -/
def Spares (name : String) (edit : Edit α) : Prop :=
  ∀ old, edit.contentAt name old = old

end Edit

/-- Edits fields again and again. -/
def run (edits : List (Edit α)) (fields : List (String × α)) : List (String × α) :=
  edits.foldl (fun edited edit => edit.apply edited) fields

/-- There is a field with a name now, and after each of some edits. -/
def survives (name : String) : List (Edit α) → List (String × α) → Bool
  | [], fields => contains name fields
  | edit :: rest, fields => contains name fields && survives name rest (edit.apply fields)

/-! ## What one edit does -/

theorem isSome_get?
    {name : String}
    {fields : List (String × α)} :
    (get? name fields).isSome = true ↔ name ∈ names fields := by
  rw [← not_iff_not, ← get?_eq_none, Bool.not_eq_true, Option.isSome_eq_false_iff,
    Option.isNone_iff_eq_none]

@[simp]
theorem names_modifyAll
    (change : String → α → α)
    (fields : List (String × α)) :
    names (modifyAll change fields) = names fields := by
  rw [names, names, modifyAll, List.map_map]
  rfl

theorem get?_modifyAll
    (change : String → α → α)
    (name : String)
    (fields : List (String × α)) :
    get? name (modifyAll change fields) = (get? name fields).map (change name) := by
  induction fields with
  | nil => rfl
  | cons head rest inductionHypothesis =>
      rcases head with ⟨other, content⟩
      change get? name ((other, change other content) :: modifyAll change rest) = _
      by_cases same : other = name
      · rw [same, get?_cons_same, get?_cons_same, Option.map_some]
      · rw [get?_cons_other same, get?_cons_other same, inductionHypothesis]

theorem distinct_nil : Distinct ([] : List (String × α)) :=
  List.nodup_nil

theorem Distinct.of_names_eq
    {fields edited : List (String × α)}
    (distinct : Distinct fields)
    (sameNames : names edited = names fields) :
    Distinct edited := by
  rw [Distinct, sameNames]
  exact distinct

theorem Distinct.retain
    {fields : List (String × α)}
    (distinct : Distinct fields)
    (keep : String → α → Bool) :
    Distinct (Fields.retain keep fields) :=
  List.Nodup.sublist (List.filter_sublist.map Prod.fst) distinct

/-- Of distinct names, one is kept exactly if its content is. -/
theorem get?_retain
    {fields : List (String × α)}
    (distinct : Distinct fields)
    (keep : String → α → Bool)
    (name : String) :
    get? name (retain keep fields) = (get? name fields).filter (keep name) := by
  apply Option.ext
  intro content
  rw [Option.filter_eq_some_iff]
  constructor
  · intro found
    have member := List.mem_filter.1 (mem_of_get? found)
    exact ⟨get?_of_mem distinct member.1, member.2⟩
  · rintro ⟨found, kept⟩
    exact get?_of_mem (distinct.retain keep) (List.mem_filter.2 ⟨mem_of_get? found, kept⟩)

theorem names_retain
    {fields : List (String × α)}
    (distinct : Distinct fields)
    (keep : String → α → Bool) :
    names (retain keep fields) =
      (names fields).filter fun name => ((get? name fields).filter (keep name)).isSome := by
  rw [names, retain, names, List.filter_map]
  apply congrArg (List.map Prod.fst)
  apply List.filter_congr
  intro field member
  rw [Function.comp_apply, get?_of_mem distinct member, Option.filter_some]
  cases keep field.1 field.2 <;> rfl

theorem names_ensure
    (name : String)
    (content : α)
    (fields : List (String × α)) :
    names (ensure name content fields) =
      if name ∈ names fields then names fields else names fields ++ [name] := by
  rw [ensure, contains]
  by_cases member : name ∈ names fields
  · rw [if_pos (isSome_get?.2 member), if_pos member]
  · rw [if_neg fun present => member (isSome_get?.1 present), if_neg member, names,
      List.map_append]
    rfl

/-- An edit makes of the content under each name what it makes of it in the map. -/
theorem get?_apply
    {fields : List (String × α)}
    (distinct : Distinct fields)
    (edit : Edit α)
    (name : String) :
    get? name (edit.apply fields) = edit.contentAt name (get? name fields) := by
  cases edit with
  | set other content =>
      rw [Edit.apply, Edit.contentAt]
      by_cases same : other = name
      · rw [if_pos same, same, get?_set_same]
      · rw [if_neg same, get?_set_other (Ne.symm same)]
  | ensure other content =>
      rw [Edit.apply, Edit.contentAt]
      by_cases same : other = name
      · rw [if_pos same, same, get?_ensure_same]
      · rw [if_neg same, get?_ensure_other (Ne.symm same)]
  | remove other =>
      rw [Edit.apply, Edit.contentAt]
      by_cases same : other = name
      · rw [if_pos same, same, get?_remove_same distinct]
      · rw [if_neg same, get?_remove_other (Ne.symm same)]
  | retain keep => exact get?_retain distinct keep name
  | modify other change =>
      rw [Edit.apply, Edit.contentAt]
      by_cases same : other = name
      · rw [if_pos same, same, get?_modify_same]
      · rw [if_neg same, get?_modify_other (Ne.symm same)]
  | modifyAll change => exact get?_modifyAll change name fields

/-- An edit that empties no content keeps all names. -/
theorem filter_names_of_keeps
    {edit : Edit α}
    (keeps : ∀ name content, (edit.contentAt name (some content)).isSome = true)
    (fields : List (String × α)) :
    ((names fields).filter fun name => (edit.contentAt name (get? name fields)).isSome) =
      names fields := by
  apply List.filter_eq_self.2
  intro name member
  rcases Option.isSome_iff_exists.1 (isSome_get?.2 member) with ⟨content, found⟩
  rw [found]
  exact keeps name content

/-- An edit that adds a name keeps it in its place if it is there, and puts it last if not. -/
theorem order_onMap_of_added
    {edit : Edit α}
    {name : String}
    (adds : edit.added = [name])
    (keeps : ∀ other content, (edit.contentAt other (some content)).isSome = true)
    (fields : List (String × α)) :
    (edit.onMap (toMap fields)).order =
      if name ∈ names fields then names fields else names fields ++ [name] := by
  rw [Edit.onMap, toMap, filter_names_of_keeps keeps, adds]
  by_cases member : name ∈ names fields
  · rcases Option.isSome_iff_exists.1 (isSome_get?.2 member) with ⟨content, found⟩
    simp [member, found]
  · simp [member, get?_eq_none.2 member]

theorem order_onMap_of_not_added
    {edit : Edit α}
    (addsNone : edit.added = [])
    (keeps : ∀ name content, (edit.contentAt name (some content)).isSome = true)
    (fields : List (String × α)) :
    (edit.onMap (toMap fields)).order = names fields := by
  rw [Edit.onMap, toMap, filter_names_of_keeps keeps, addsNone, List.filter_nil, List.append_nil]

/-- An edit moves the names as it does in the map. -/
theorem names_apply
    {fields : List (String × α)}
    (distinct : Distinct fields)
    (edit : Edit α) :
    names (edit.apply fields) = (edit.onMap (toMap fields)).order := by
  cases edit with
  | set name content =>
      rw [order_onMap_of_added rfl (by intro other old; rw [Edit.contentAt]; split <;> rfl)]
      exact names_set name content fields
  | ensure name content =>
      rw [order_onMap_of_added rfl (by intro other old; rw [Edit.contentAt]; split <;> rfl)]
      exact names_ensure name content fields
  | remove name =>
      have kept :
          ∀ other ∈ names fields,
            (other != name) =
              ((Edit.remove name).contentAt other (get? other fields)).isSome := by
        intro other member
        rw [Edit.contentAt]
        by_cases same : name = other
        · simp [same]
        · simp [same, Ne.symm same, isSome_get?.2 member]
      rw [Edit.apply, names_remove, List.Nodup.erase_eq_filter distinct, List.filter_congr kept]
      exact (List.append_nil _).symm
  | retain keep =>
      rw [Edit.apply, names_retain distinct]
      exact (List.append_nil _).symm
  | modify name change =>
      rw [order_onMap_of_not_added rfl (by intro other old; rw [Edit.contentAt]; split <;> rfl)]
      exact names_modify name change fields
  | modifyAll change =>
      rw [order_onMap_of_not_added rfl fun _ _ => rfl]
      exact names_modifyAll change fields

theorem Distinct.apply
    {fields : List (String × α)}
    (distinct : Distinct fields)
    (edit : Edit α) :
    Distinct (edit.apply fields) := by
  cases edit with
  | set name content => exact distinct.set name content
  | ensure name content => exact distinct.ensure name content
  | remove name => exact distinct.remove name
  | retain keep => exact distinct.retain keep
  | modify name change => exact distinct.of_names_eq (names_modify name change fields)
  | modifyAll change => exact distinct.of_names_eq (names_modifyAll change fields)

/-- An edit of fields is an edit of the map that they stand for. -/
theorem toMap_apply
    {fields : List (String × α)}
    (distinct : Distinct fields)
    (edit : Edit α) :
    toMap (edit.apply fields) = edit.onMap (toMap fields) :=
  OrderedMap.ext (funext (get?_apply distinct edit)) (names_apply distinct edit)

/-! ## What a run of edits does -/

theorem run_cons
    (edit : Edit α)
    (edits : List (Edit α))
    (fields : List (String × α)) :
    run (edit :: edits) fields = run edits (edit.apply fields) :=
  rfl

theorem run_append
    (before after : List (Edit α))
    (fields : List (String × α)) :
    run (before ++ after) fields = run after (run before fields) :=
  List.foldl_append

theorem Distinct.run
    {fields : List (String × α)}
    (distinct : Distinct fields)
    (edits : List (Edit α)) :
    Distinct (Fields.run edits fields) := by
  induction edits generalizing fields with
  | nil => exact distinct
  | cons edit edits inductionHypothesis => exact inductionHypothesis (distinct.apply edit)

/-- A run of edits of fields is the run of edits of the map that they stand for. -/
theorem toMap_run
    {fields : List (String × α)}
    (distinct : Distinct fields)
    (edits : List (Edit α)) :
    toMap (run edits fields) = edits.foldl (fun map edit => edit.onMap map) (toMap fields) := by
  induction edits generalizing fields with
  | nil => rfl
  | cons edit edits inductionHypothesis =>
      rw [run_cons, List.foldl_cons, ← toMap_apply distinct edit,
        inductionHypothesis (distinct.apply edit)]

/-- Edits that spare a name leave its content. -/
theorem get?_run_of_spares
    {fields : List (String × α)}
    (distinct : Distinct fields)
    {name : String}
    {edits : List (Edit α)}
    (spare : ∀ edit ∈ edits, edit.Spares name) :
    get? name (run edits fields) = get? name fields := by
  induction edits generalizing fields with
  | nil => rfl
  | cons edit edits inductionHypothesis =>
      rw [run_cons,
        inductionHypothesis (distinct.apply edit) fun other member =>
          spare other (List.mem_cons_of_mem edit member),
        get?_apply distinct, spare edit List.mem_cons_self]

theorem contains_of_survives
    {name : String}
    {edits : List (Edit α)}
    {fields : List (String × α)}
    (survivor : survives name edits fields = true) :
    contains name fields = true := by
  cases edits with
  | nil => exact survivor
  | cons edit edits => exact (Bool.and_eq_true_iff.1 survivor).1

/-- The names that survive an edit stand before the names that it adds. -/
theorem filter_survives_cons_isPrefix
    {fields : List (String × α)}
    (distinct : Distinct fields)
    (edit : Edit α)
    (edits : List (Edit α)) :
    (names fields).filter (fun name => survives name (edit :: edits) fields) <+:
      (names (edit.apply fields)).filter fun name => survives name edits (edit.apply fields) := by
  have survivors :
      ∀ name ∈ names fields,
        survives name (edit :: edits) fields =
          (survives name edits (edit.apply fields) &&
            (edit.contentAt name (get? name fields)).isSome) := by
    intro name member
    have present : contains name fields = true := isSome_get?.2 member
    rw [survives, present, Bool.true_and, ← get?_apply distinct]
    cases survivor : survives name edits (edit.apply fields) with
    | false => rfl
    | true => exact (contains_of_survives survivor).symm
  rw [names_apply distinct, Edit.onMap, toMap, List.filter_append, List.filter_filter,
    List.filter_congr survivors]
  exact List.prefix_append _ _

/-- Names that are never removed keep their order, and stand before all others. -/
theorem filter_survives_isPrefix
    {fields : List (String × α)}
    (distinct : Distinct fields)
    (edits : List (Edit α)) :
    (names fields).filter (fun name => survives name edits fields) <+:
      names (run edits fields) := by
  induction edits generalizing fields with
  | nil =>
      have allStay : (names fields).filter (fun name => survives name [] fields) = names fields :=
        List.filter_eq_self.2 fun _ member => isSome_get?.2 member
      rw [allStay]
      exact List.prefix_rfl
  | cons edit edits inductionHypothesis =>
      exact (filter_survives_cons_isPrefix distinct edit edits).trans
        (inductionHypothesis (distinct.apply edit))

/-- The pairs of a list are stored one after the other. -/
theorem ofPairs_eq_run (pairs : List (String × α)) :
    ofPairs pairs = run (pairs.map fun pair => Edit.set pair.1 pair.2) [] := by
  rw [run, List.foldl_map]
  rfl

theorem set_of_not_mem
    {name : String}
    {fields : List (String × α)}
    (absent : name ∉ names fields)
    (content : α) :
    set name content fields = fields ++ [(name, content)] := by
  induction fields with
  | nil => rfl
  | cons head rest inductionHypothesis =>
      rcases head with ⟨other, old⟩
      rw [names_cons, List.mem_cons, not_or] at absent
      rw [set, if_neg (Ne.symm absent.1), inductionHypothesis absent.2, List.cons_append]

/-- Fields with distinct names are collected from themselves. -/
theorem ofPairs_of_distinct
    {fields : List (String × α)}
    (distinct : Distinct fields) :
    ofPairs fields = fields := by
  suffices general :
      ∀ (rest before : List (String × α)),
        Distinct (before ++ rest) →
          rest.foldl (fun fields pair => set pair.1 pair.2 fields) before = before ++ rest from
    general fields [] distinct
  intro rest
  induction rest with
  | nil =>
      intro before _
      exact (List.append_nil before).symm
  | cons pair rest inductionHypothesis =>
      intro before distinctAll
      have isNew : pair.1 ∉ names before := by
        intro member
        rw [Distinct, names, List.map_append, List.map_cons, List.nodup_append] at distinctAll
        exact distinctAll.2.2 pair.1 member pair.1 List.mem_cons_self rfl
      rw [List.append_cons] at distinctAll
      rw [List.foldl_cons, set_of_not_mem isNew, inductionHypothesis _ distinctAll,
        ← List.append_cons]

/-- Distinct names are all that edits of the empty fields guarantee of a list. -/
theorem distinct_iff_exists_run
    {fields : List (String × α)} :
    Distinct fields ↔ ∃ edits, run edits [] = fields := by
  constructor
  · intro distinct
    refine ⟨fields.map fun pair => Edit.set pair.1 pair.2, ?_⟩
    rw [← ofPairs_eq_run, ofPairs_of_distinct distinct]
  · rintro ⟨edits, rfl⟩
    exact distinct_nil.run edits

/-- What fields are after edits of the empty ones. -/
structure IsOrderedMap (edits : List (Edit α)) (fields : List (String × α)) : Prop where
  distinct : Distinct fields
  /-- The contents and their order are those of the edited map. -/
  map : toMap fields = edits.foldl (fun map edit => edit.onMap map) .empty
  /-- What was stored last is there, if no later edit is about its name. -/
  lastStored :
    ∀ before name content after,
      edits = before ++ Edit.set name content :: after →
        (∀ edit ∈ after, edit.Spares name) → get? name fields = some content
  /-- Names that stay keep their order, in front of all that come later. -/
  order :
    ∀ before after,
      edits = before ++ after →
        ((names (run before [])).filter fun name => survives name after (run before [])) <+:
          names fields

/-- Edits of the empty fields give an ordered map. -/
theorem isOrderedMap_run (edits : List (Edit α)) :
    IsOrderedMap edits (run edits []) where
  distinct := distinct_nil.run edits
  map := toMap_run distinct_nil edits
  lastStored := by
    rintro before name content after rfl spare
    have distinct := (distinct_nil.run before).apply (Edit.set name content)
    rw [run_append, run_cons, get?_run_of_spares distinct spare]
    exact get?_set_same name content _
  order := by
    rintro before after rfl
    rw [run_append]
    exact filter_survives_isPrefix (distinct_nil.run before) after

end Manifest.Fields
