import Manifest.StringMap

/-!
# Laws of named fields

What is read under a name after fields were set, removed, inserted or filtered.
Setting and inserting answer for any list; removal takes away the first field
with a name only, so it needs distinct names to be final.

A map of texts is determined by what it holds under each key, and reading its
entries back gives the map.
-/

namespace Manifest

namespace Fields

variable {α : Type}

@[simp]
theorem get?_nil (name : String) :
    get? name ([] : List (String × α)) = none :=
  rfl

@[simp]
theorem names_cons
    (name : String)
    (content : α)
    (rest : List (String × α)) :
    names ((name, content) :: rest) = name :: names rest :=
  rfl

theorem get?_cons_same
    (name : String)
    (content : α)
    (rest : List (String × α)) :
    get? name ((name, content) :: rest) = some content := by
  rw [get?, if_pos rfl]

theorem get?_cons_other
    {name other : String}
    (different : other ≠ name)
    (content : α)
    (rest : List (String × α)) :
    get? name ((other, content) :: rest) = get? name rest := by
  rw [get?, if_neg different]

theorem mem_of_get?
    {name : String}
    {content : α}
    {fields : List (String × α)}
    (found : get? name fields = some content) :
    (name, content) ∈ fields := by
  induction fields with
  | nil => cases found
  | cons head rest inductionHypothesis =>
      rcases head with ⟨other, old⟩
      rw [get?] at found
      split at found
      · rename_i same
        cases found
        rw [same]
        exact List.mem_cons_self
      · exact List.mem_cons_of_mem _ (inductionHypothesis found)

theorem get?_of_mem
    {field : String × α}
    {fields : List (String × α)}
    (distinct : Distinct fields)
    (member : field ∈ fields) :
    get? field.1 fields = some field.2 := by
  unfold Distinct at distinct
  induction fields with
  | nil => cases member
  | cons head rest inductionHypothesis =>
      rcases List.nodup_cons.1 distinct with ⟨headIsNew, restDistinct⟩
      rcases List.mem_cons.1 member with rfl | inRest
      · exact get?_cons_same field.1 field.2 rest
      · have different : head.1 ≠ field.1 := by
          intro same
          exact headIsNew (same ▸ List.mem_map_of_mem inRest)
        exact (get?_cons_other different head.2 rest).trans
          (inductionHypothesis restDistinct inRest)

theorem get?_eq_none
    {name : String}
    {fields : List (String × α)} :
    get? name fields = none ↔ name ∉ names fields := by
  induction fields with
  | nil => simp [names]
  | cons head rest inductionHypothesis =>
      rcases head with ⟨other, old⟩
      rw [names, List.map_cons, List.mem_cons, not_or, ← names, ← inductionHypothesis]
      by_cases same : other = name
      · subst same
        simp [get?_cons_same]
      · rw [get?_cons_other same]
        simp [Ne.symm same]

/-! ## Setting -/

@[simp]
theorem get?_set_same
    (name : String)
    (content : α)
    (fields : List (String × α)) :
    get? name (set name content fields) = some content := by
  induction fields with
  | nil => exact get?_cons_same name content []
  | cons head rest inductionHypothesis =>
      rcases head with ⟨other, old⟩
      rw [set]
      split
      · rename_i same
        rw [same, get?_cons_same]
      · rename_i different
        rw [get?_cons_other different, inductionHypothesis]

theorem get?_set_other
    {name other : String}
    (different : other ≠ name)
    (content : α)
    (fields : List (String × α)) :
    get? other (set name content fields) = get? other fields := by
  induction fields with
  | nil => exact get?_cons_other (Ne.symm different) content []
  | cons head rest inductionHypothesis =>
      rcases head with ⟨headName, old⟩
      rw [set]
      split
      · rename_i same
        rw [same, get?_cons_other (Ne.symm different), get?_cons_other (Ne.symm different)]
      · by_cases isHead : headName = other
        · rw [isHead, get?_cons_same, get?_cons_same]
        · rw [get?_cons_other isHead, get?_cons_other isHead, inductionHypothesis]

theorem mem_set
    {name : String}
    {content : α}
    {fields : List (String × α)}
    {field : String × α}
    (member : field ∈ set name content fields) :
    field = (name, content) ∨ field ∈ fields := by
  induction fields with
  | nil => simpa [set] using member
  | cons head rest inductionHypothesis =>
      rcases head with ⟨other, old⟩
      rw [set] at member
      split at member
      · rename_i same
        rcases List.mem_cons.1 member with isHead | inRest
        · exact Or.inl (isHead.trans (by rw [same]))
        · exact Or.inr (List.mem_cons_of_mem _ inRest)
      · rcases List.mem_cons.1 member with isHead | inRest
        · exact Or.inr (isHead ▸ List.mem_cons_self)
        · rcases inductionHypothesis inRest with isNew | inOld
          · exact Or.inl isNew
          · exact Or.inr (List.mem_cons_of_mem _ inOld)

theorem mem_names_set
    {name other : String}
    {content : α}
    {fields : List (String × α)} :
    other ∈ names (set name content fields) ↔ other = name ∨ other ∈ names fields := by
  have absent :
      other ∉ names (set name content fields) ↔ ¬(other = name ∨ other ∈ names fields) := by
    rw [← get?_eq_none, not_or, ← get?_eq_none]
    by_cases same : other = name
    · simp [same]
    · simp [same, get?_set_other same]
  exact Decidable.not_iff_not.1 absent

/-- Setting a field leaves the names, except that a new one goes last. -/
theorem names_set
    (name : String)
    (content : α)
    (fields : List (String × α)) :
    names (set name content fields) =
      if name ∈ names fields then names fields else names fields ++ [name] := by
  induction fields with
  | nil => simp [set, names]
  | cons head rest inductionHypothesis =>
      rcases head with ⟨other, old⟩
      rw [set]
      by_cases same : other = name
      · simp [same]
      · rw [if_neg same, names_cons, names_cons, inductionHypothesis]
        by_cases member : name ∈ names rest
        · simp [member]
        · simp [member, Ne.symm same]

/-- To set what is there changes nothing. -/
theorem set_of_get?
    {name : String}
    {content : α}
    {fields : List (String × α)}
    (found : get? name fields = some content) :
    set name content fields = fields := by
  induction fields with
  | nil => cases found
  | cons head rest inductionHypothesis =>
      rcases head with ⟨other, old⟩
      rw [get?] at found
      rw [Fields.set]
      split at found
      · rename_i same
        cases found
        rw [if_pos same]
      · rename_i different
        rw [if_neg different, inductionHypothesis found]

/-- Setting a field keeps the names distinct. -/
theorem Distinct.set
    {fields : List (String × α)}
    (distinct : Distinct fields)
    (name : String)
    (content : α) :
    Distinct (Fields.set name content fields) := by
  unfold Distinct at distinct ⊢
  induction fields with
  | nil => simp [Fields.set, names]
  | cons head rest inductionHypothesis =>
      rcases head with ⟨other, old⟩
      rcases List.nodup_cons.1 distinct with ⟨headIsNew, restDistinct⟩
      rw [Fields.set]
      split
      · exact distinct
      · rename_i different
        refine List.nodup_cons.2 ⟨?_, inductionHypothesis restDistinct⟩
        intro member
        rcases mem_names_set.1 member with same | inRest
        · exact different same
        · exact headIsNew inRest

/-! ## Ensuring and modifying -/

theorem get?_append_single
    (name other : String)
    (content : α)
    (fields : List (String × α)) :
    get? other (fields ++ [(name, content)]) =
      (get? other fields).or (if name = other then some content else none) := by
  induction fields with
  | nil => simp [get?]
  | cons head rest inductionHypothesis =>
      rcases head with ⟨headName, old⟩
      rw [List.cons_append]
      by_cases isHead : headName = other
      · rw [isHead, get?_cons_same, get?_cons_same, Option.some_or]
      · rw [get?_cons_other isHead, get?_cons_other isHead, inductionHypothesis]

theorem get?_ensure_same
    (name : String)
    (content : α)
    (fields : List (String × α)) :
    get? name (ensure name content fields) = some ((get? name fields).getD content) := by
  rw [ensure, contains]
  cases found : get? name fields with
  | none => simp [get?_append_single, found]
  | some old => simp [found]

theorem get?_ensure_other
    {name other : String}
    (different : other ≠ name)
    (content : α)
    (fields : List (String × α)) :
    get? other (ensure name content fields) = get? other fields := by
  rw [ensure]
  split
  · rfl
  · rw [get?_append_single, if_neg (Ne.symm different), Option.or_none]

theorem Distinct.ensure
    {fields : List (String × α)}
    (distinct : Distinct fields)
    (name : String)
    (content : α) :
    Distinct (Fields.ensure name content fields) := by
  rw [Fields.ensure]
  split
  · exact distinct
  · rename_i absent
    have isNew : name ∉ names fields := by
      rw [← get?_eq_none]
      simpa [contains] using absent
    rw [Distinct, names, List.map_append, List.nodup_append]
    refine ⟨distinct, by simp, ?_⟩
    intro member isMember other isName
    rw [List.map_singleton, List.mem_singleton] at isName
    rintro rfl
    rw [isName] at isMember
    exact isNew isMember

@[simp]
theorem names_modify
    (name : String)
    (change : α → α)
    (fields : List (String × α)) :
    names (modify name change fields) = names fields := by
  induction fields with
  | nil => rfl
  | cons head rest inductionHypothesis =>
      rcases head with ⟨other, old⟩
      rw [modify]
      split
      · rfl
      · exact congrArg (other :: ·) inductionHypothesis

theorem mem_modify
    {name : String}
    {change : α → α}
    {fields : List (String × α)}
    {field : String × α}
    (member : field ∈ modify name change fields) :
    (∃ old, get? name fields = some old ∧ field = (name, change old)) ∨ field ∈ fields := by
  induction fields with
  | nil => contradiction
  | cons head rest inductionHypothesis =>
      rcases head with ⟨other, old⟩
      rw [modify] at member
      split at member
      · rename_i same
        subst same
        rcases List.mem_cons.1 member with isHead | inRest
        · exact Or.inl ⟨old, get?_cons_same other old rest, isHead⟩
        · exact Or.inr (List.mem_cons_of_mem _ inRest)
      · rename_i different
        rcases List.mem_cons.1 member with isHead | inRest
        · exact Or.inr (isHead ▸ List.mem_cons_self)
        · rcases inductionHypothesis inRest with ⟨found, atName, changed⟩ | inOld
          · exact Or.inl ⟨found, by rw [get?_cons_other different, atName], changed⟩
          · exact Or.inr (List.mem_cons_of_mem _ inOld)

theorem get?_modify_same
    (name : String)
    (change : α → α)
    (fields : List (String × α)) :
    get? name (modify name change fields) = (get? name fields).map change := by
  induction fields with
  | nil => rfl
  | cons head rest inductionHypothesis =>
      rcases head with ⟨other, old⟩
      rw [modify]
      split
      · rename_i same
        rw [same, get?_cons_same, get?_cons_same, Option.map_some]
      · rename_i different
        rw [get?_cons_other different, get?_cons_other different, inductionHypothesis]

theorem get?_modify_other
    {name other : String}
    (different : other ≠ name)
    (change : α → α)
    (fields : List (String × α)) :
    get? other (modify name change fields) = get? other fields := by
  induction fields with
  | nil => rfl
  | cons head rest inductionHypothesis =>
      rcases head with ⟨headName, old⟩
      rw [modify]
      split
      · rename_i same
        rw [same, get?_cons_other (Ne.symm different), get?_cons_other (Ne.symm different)]
      · by_cases isHead : headName = other
        · rw [isHead, get?_cons_same, get?_cons_same]
        · rw [get?_cons_other isHead, get?_cons_other isHead, inductionHypothesis]

/-! ## Removing -/

theorem remove_sublist
    (name : String)
    (fields : List (String × α)) :
    (remove name fields).Sublist fields := by
  induction fields with
  | nil => exact List.Sublist.refl _
  | cons head rest inductionHypothesis =>
      rcases head with ⟨other, old⟩
      rw [remove]
      split
      · exact List.sublist_cons_self _ _
      · exact inductionHypothesis.cons_cons _

theorem names_remove
    (name : String)
    (fields : List (String × α)) :
    names (remove name fields) = (names fields).erase name := by
  induction fields with
  | nil => rfl
  | cons head rest inductionHypothesis =>
      rcases head with ⟨other, old⟩
      rw [remove, names_cons, List.erase_cons]
      by_cases same : other = name
      · simp [same]
      · simp [same, inductionHypothesis]

theorem Distinct.remove
    {fields : List (String × α)}
    (distinct : Distinct fields)
    (name : String) :
    Distinct (Fields.remove name fields) :=
  List.Nodup.sublist ((remove_sublist name fields).map Prod.fst) distinct

/-- Of distinct names, a removed one is gone. -/
theorem get?_remove_same
    {fields : List (String × α)}
    (distinct : Distinct fields)
    (name : String) :
    get? name (remove name fields) = none := by
  unfold Distinct at distinct
  induction fields with
  | nil => rfl
  | cons head rest inductionHypothesis =>
      rcases head with ⟨other, old⟩
      rcases List.nodup_cons.1 distinct with ⟨headIsNew, restDistinct⟩
      rw [remove]
      split
      · rename_i same
        rw [get?_eq_none]
        exact same ▸ headIsNew
      · rename_i different
        rw [get?_cons_other different]
        exact inductionHypothesis restDistinct

theorem get?_remove_other
    {name other : String}
    (different : other ≠ name)
    (fields : List (String × α)) :
    get? other (remove name fields) = get? other fields := by
  induction fields with
  | nil => rfl
  | cons head rest inductionHypothesis =>
      rcases head with ⟨headName, old⟩
      rw [remove]
      split
      · rename_i same
        rw [same, get?_cons_other (Ne.symm different)]
      · by_cases isHead : headName = other
        · rw [isHead, get?_cons_same, get?_cons_same]
        · rw [get?_cons_other isHead, get?_cons_other isHead, inductionHypothesis]

/-! ## Changing all contents -/

section

variable {β : Type}

/-- The fields with every content changed. -/
def mapContents (change : α → β) (fields : List (String × α)) : List (String × β) :=
  fields.map fun field => (field.1, change field.2)

@[simp]
theorem mapContents_cons
    (change : α → β)
    (name : String)
    (content : α)
    (rest : List (String × α)) :
    mapContents change ((name, content) :: rest) =
      (name, change content) :: mapContents change rest :=
  rfl

@[simp]
theorem names_mapContents
    (change : α → β)
    (fields : List (String × α)) :
    names (mapContents change fields) = names fields := by
  rw [names, names, mapContents, List.map_map]
  rfl

@[simp]
theorem get?_mapContents
    (change : α → β)
    (name : String)
    (fields : List (String × α)) :
    get? name (mapContents change fields) = (get? name fields).map change := by
  induction fields with
  | nil => rfl
  | cons head rest inductionHypothesis =>
      rcases head with ⟨other, content⟩
      rw [mapContents_cons]
      by_cases same : other = name
      · rw [same, get?_cons_same, get?_cons_same, Option.map_some]
      · rw [get?_cons_other same, get?_cons_other same, inductionHypothesis]

@[simp]
theorem contains_mapContents
    (change : α → β)
    (name : String)
    (fields : List (String × α)) :
    contains name (mapContents change fields) = contains name fields := by
  rw [contains, contains, get?_mapContents, Option.isSome_map]

theorem mapContents_set
    (change : α → β)
    (name : String)
    (content : α)
    (fields : List (String × α)) :
    mapContents change (set name content fields) =
      set name (change content) (mapContents change fields) := by
  induction fields with
  | nil => rfl
  | cons head rest inductionHypothesis =>
      rcases head with ⟨other, old⟩
      rw [set, mapContents_cons, set]
      split
      · rfl
      · rw [mapContents_cons, inductionHypothesis]

theorem mapContents_ensure
    (change : α → β)
    (name : String)
    (content : α)
    (fields : List (String × α)) :
    mapContents change (ensure name content fields) =
      ensure name (change content) (mapContents change fields) := by
  rw [ensure, ensure, contains_mapContents]
  split
  · rfl
  · rw [mapContents, List.map_append]
    rfl

theorem mapContents_remove
    (change : α → β)
    (name : String)
    (fields : List (String × α)) :
    mapContents change (remove name fields) = remove name (mapContents change fields) := by
  induction fields with
  | nil => rfl
  | cons head rest inductionHypothesis =>
      rcases head with ⟨other, old⟩
      rw [remove, mapContents_cons, remove]
      split
      · rfl
      · rw [mapContents_cons, inductionHypothesis]

end

/-! ## Fields in the order of their names -/

@[simp]
theorem get?_insert_same
    (name : String)
    (content : α)
    (fields : List (String × α)) :
    get? name (insert name content fields) = some content := by
  induction fields with
  | nil => exact get?_cons_same name content []
  | cons head rest inductionHypothesis =>
      rcases head with ⟨other, old⟩
      rw [insert]
      split
      · exact get?_cons_same name content _
      · split
        · exact get?_cons_same name content _
        · rename_i different
          rw [get?_cons_other different, inductionHypothesis]

theorem get?_insert_other
    {name other : String}
    (different : other ≠ name)
    (content : α)
    (fields : List (String × α)) :
    get? other (insert name content fields) = get? other fields := by
  induction fields with
  | nil => exact get?_cons_other (Ne.symm different) content []
  | cons head rest inductionHypothesis =>
      rcases head with ⟨headName, old⟩
      rw [insert]
      split
      · exact get?_cons_other (Ne.symm different) content _
      · split
        · rename_i same
          rw [same, get?_cons_other (Ne.symm different), get?_cons_other (Ne.symm different)]
        · by_cases isHead : headName = other
          · rw [isHead, get?_cons_same, get?_cons_same]
          · rw [get?_cons_other isHead, get?_cons_other isHead, inductionHypothesis]

/-- Below the names of some fields there is no field. -/
theorem get?_of_below
    {name : String}
    {fields : List (String × α)}
    (below : ∀ field ∈ fields, name < field.1) :
    get? name fields = none := by
  apply get?_eq_none.2
  intro member
  rcases List.mem_map.1 member with ⟨field, isField, rfl⟩
  exact String.lt_irrefl field.1 (below field isField)

/-- Before the first of some ascending names there is no field. -/
theorem get?_of_below_head
    {name other : String}
    {content : α}
    {rest : List (String × α)}
    (nameBelow : ∀ field ∈ rest, name < field.1)
    (below : other < name) :
    get? other ((name, content) :: rest) = none := by
  apply get?_of_below
  rw [List.forall_mem_cons]
  exact ⟨below, fun field member => String.lt_trans below (nameBelow field member)⟩

theorem Ascending.distinct
    {fields : List (String × α)}
    (ascending : Ascending fields) :
    Distinct fields := by
  rw [Distinct, names, List.Nodup, List.pairwise_map]
  exact ascending.imp fun below => String.ne_of_lt below

theorem get?_filter
    (keep : String → Bool)
    (name : String)
    (fields : List (String × α)) :
    get? name (fields.filter fun field => keep field.1) =
      if keep name then get? name fields else none := by
  induction fields with
  | nil => simp
  | cons head rest inductionHypothesis =>
      rcases head with ⟨other, old⟩
      by_cases isHead : other = name
      · subst isHead
        by_cases kept : keep other = true
        · simp [kept, get?_cons_same]
        · simp [kept, inductionHypothesis]
      · by_cases kept : keep other = true
        · simp [kept, get?_cons_other isHead, inductionHypothesis]
        · simp [kept, get?_cons_other isHead, inductionHypothesis]

/-- A field behind all others stays behind them. -/
theorem insert_of_all_below
    {name : String}
    {fields : List (String × α)}
    (allBelow : ∀ field ∈ fields, field.1 < name)
    (content : α) :
    insert name content fields = fields ++ [(name, content)] := by
  induction fields with
  | nil => rfl
  | cons head rest inductionHypothesis =>
      rcases head with ⟨other, old⟩
      have below : other < name := allBelow (other, old) List.mem_cons_self
      have restBelow : ∀ field ∈ rest, field.1 < name := by
        intro field member
        exact allBelow field (List.mem_cons_of_mem _ member)
      rw [insert, if_neg (String.lt_asymm below), if_neg (String.ne_of_lt below),
        inductionHypothesis restBelow]
      rfl

/-- Ascending pairs are their own fields. -/
theorem sortedOfPairs_of_ascending
    {fields : List (String × α)}
    (ascending : Ascending fields) :
    sortedOfPairs fields = fields := by
  suffices general :
      ∀ (before : List (String × α)),
        Ascending (before ++ fields) →
        fields.foldl (fun result pair => insert pair.1 pair.2 result) before =
          before ++ fields from
    general [] ascending
  clear ascending
  induction fields with
  | nil => simp
  | cons head rest inductionHypothesis =>
      intro before ascending
      have allBelow : ∀ field ∈ before, field.1 < head.1 := by
        intro field member
        exact (List.pairwise_append.1 ascending).2.2 field member head List.mem_cons_self
      rw [List.foldl_cons, insert_of_all_below allBelow,
        inductionHypothesis (before ++ [head]) (by simpa using ascending)]
      simp

/-- Where some pairs hold a content, inserting them sets it; elsewhere nothing changes. -/
theorem get?_insertPairs
    {pairs : List (String × α)}
    (distinct : Distinct pairs)
    (name : String) :
    ∀ start : List (String × α),
      get? name (pairs.foldl (fun result pair => insert pair.1 pair.2 result) start) =
        (get? name pairs).or (get? name start) := by
  unfold Distinct at distinct
  induction pairs with
  | nil => simp
  | cons head rest inductionHypothesis =>
      intro start
      rcases head with ⟨other, content⟩
      rcases List.nodup_cons.1 distinct with ⟨headIsNew, restDistinct⟩
      rw [List.foldl_cons, inductionHypothesis restDistinct]
      by_cases same : other = name
      · subst same
        have absent : get? other rest = none := get?_eq_none.2 headIsNew
        rw [absent, get?_cons_same, get?_insert_same]
        rfl
      · rw [get?_cons_other same, get?_insert_other (Ne.symm same)]

theorem get?_sortedOfPairs
    {pairs : List (String × α)}
    (distinct : Distinct pairs)
    (name : String) :
    get? name (sortedOfPairs pairs) = get? name pairs := by
  rw [sortedOfPairs, get?_insertPairs distinct, get?_nil, Option.or_none]

/-! ## Fields of pairs -/

/-- The fields of a list of pairs have distinct names, and each of them is one of the pairs. -/
theorem distinct_ofPairs (pairs : List (String × α)) :
    Distinct (ofPairs pairs) ∧ ∀ field ∈ ofPairs pairs, field ∈ pairs := by
  suffices general :
      ∀ (others start : List (String × α)),
        Distinct start →
        (∀ field ∈ start, field ∈ pairs) →
        (∀ pair ∈ others, pair ∈ pairs) →
        Distinct (others.foldl (fun fields pair => set pair.1 pair.2 fields) start) ∧
          ∀ field ∈ others.foldl (fun fields pair => set pair.1 pair.2 fields) start,
            field ∈ pairs from
    general pairs [] List.nodup_nil (by simp) fun _ member => member
  intro others
  induction others with
  | nil =>
      intro start distinct startInPairs _
      exact ⟨distinct, startInPairs⟩
  | cons head rest inductionHypothesis =>
      intro start distinct startInPairs othersInPairs
      rw [List.foldl_cons]
      apply inductionHypothesis _ (distinct.set head.1 head.2)
      · intro field member
        rcases mem_set member with rfl | old
        · exact othersInPairs head List.mem_cons_self
        · exact startInPairs field old
      · intro pair member
        exact othersInPairs pair (List.mem_cons_of_mem _ member)

end Fields

namespace StringMap

@[simp]
theorem get?_insert_same
    (map : StringMap)
    (key text : String) :
    (map.insert key text).get? key = some text :=
  Fields.get?_insert_same key text map.entries

theorem get?_insert_other
    {key other : String}
    (different : other ≠ key)
    (map : StringMap)
    (text : String) :
    (map.insert key text).get? other = map.get? other :=
  Fields.get?_insert_other different text map.entries

theorem get?_filterKeys
    (map : StringMap)
    (keep : String → Bool)
    (key : String) :
    (map.filterKeys keep).get? key = if keep key then map.get? key else none :=
  Fields.get?_filter keep key map.entries

/-- Where the other map holds a text, that text is set; elsewhere nothing changes. -/
theorem get?_insertAll
    (map other : StringMap)
    (key : String) :
    (map.insertAll other).get? key = (other.get? key).or (map.get? key) := by
  have sameEntries :
      (map.insertAll other).entries =
        other.entries.foldl (fun result entry => Fields.insert entry.1 entry.2 result)
          map.entries :=
    (List.foldl_hom entries fun _ _ => rfl).symm
  rw [get?, sameEntries]
  exact Fields.get?_insertPairs other.ascending.distinct key map.entries

/-- The map of pairs with distinct keys holds what the pairs hold. -/
theorem get?_ofPairs
    {pairs : List (String × String)}
    (distinct : Fields.Distinct pairs)
    (key : String) :
    (ofPairs pairs).get? key = Fields.get? key pairs :=
  Fields.get?_sortedOfPairs distinct key

/-- A map is the map of its own entries. -/
@[simp]
theorem ofPairs_entries (map : StringMap) :
    ofPairs map.entries = map :=
  ext (Fields.sortedOfPairs_of_ascending map.ascending)

end StringMap

end Manifest
