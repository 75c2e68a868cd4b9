/-!
# Named fields

Fields are pairs of a name and a content, in a list.  A document keeps its
fields in the order of their first appearance: setting a field that exists
keeps its place, a new field goes last.  A decoded map keeps its fields in the
order of their names.

`Distinct` says that no name occurs twice.  Every operation keeps it.
-/

namespace Manifest.Fields

variable {α : Type}

/-- The content of the first field with a name. -/
def get? (name : String) : List (String × α) → Option α
  | [] => none
  | (other, content) :: rest => if other = name then some content else get? name rest

/-- Whether there is a field with a name. -/
def contains (name : String) (fields : List (String × α)) : Bool :=
  (get? name fields).isSome

/-- The names, in order. -/
def names (fields : List (String × α)) : List String :=
  fields.map Prod.fst

/-- No name occurs twice. -/
def Distinct (fields : List (String × α)) : Prop :=
  (names fields).Nodup

/-- Sets a field: in its place if it exists, else at the end. -/
def set (name : String) (content : α) : List (String × α) → List (String × α)
  | [] => [(name, content)]
  | (other, old) :: rest =>
      if other = name then (other, content) :: rest
      else (other, old) :: set name content rest

/-- Adds a field at the end unless there is one with its name. -/
def ensure (name : String) (content : α) (fields : List (String × α)) : List (String × α) :=
  if contains name fields then fields else fields ++ [(name, content)]

/-- Removes the first field with a name. -/
def remove (name : String) : List (String × α) → List (String × α)
  | [] => []
  | (other, content) :: rest =>
      if other = name then rest else (other, content) :: remove name rest

/-- Changes the content of the first field with a name. -/
def modify (name : String) (change : α → α) : List (String × α) → List (String × α)
  | [] => []
  | (other, content) :: rest =>
      if other = name then (other, change content) :: rest
      else (other, content) :: modify name change rest

/-- Changes the contents of all fields. -/
def modifyAll (change : String → α → α) (fields : List (String × α)) : List (String × α) :=
  fields.map fun field => (field.1, change field.1 field.2)

/-- Keeps the fields that satisfy a condition. -/
def retain (keep : String → α → Bool) (fields : List (String × α)) : List (String × α) :=
  fields.filter fun field => keep field.1 field.2

/-- The fields of a list of pairs; a later pair overwrites an earlier one in its place. -/
def ofPairs (pairs : List (String × α)) : List (String × α) :=
  pairs.foldl (fun fields pair => set pair.1 pair.2 fields) []

/-- Sets a field in a list that is ordered by names. -/
def insert (name : String) (content : α) : List (String × α) → List (String × α)
  | [] => [(name, content)]
  | (other, old) :: rest =>
      if name < other then (name, content) :: (other, old) :: rest
      else if other = name then (name, content) :: rest
      else (other, old) :: insert name content rest

/-- The fields of a list of pairs, ordered by names; a later pair overwrites. -/
def sortedOfPairs (pairs : List (String × α)) : List (String × α) :=
  pairs.foldl (fun fields pair => insert pair.1 pair.2 fields) []

/-- The names ascend strictly. -/
def Ascending (fields : List (String × α)) : Prop :=
  fields.Pairwise fun first second => first.1 < second.1

theorem mem_insert
    {name : String}
    {content : α}
    {fields : List (String × α)}
    {field : String × α}
    (member : field ∈ insert name content fields) :
    field = (name, content) ∨ field ∈ fields := by
  induction fields with
  | nil => simpa [insert] using member
  | cons head rest inductionHypothesis =>
    rcases head with ⟨other, old⟩
    rw [insert] at member
    split at member
    · simpa using member
    · split at member
      · rcases List.mem_cons.1 member with isNew | inRest
        · exact Or.inl isNew
        · exact Or.inr (List.mem_cons_of_mem _ inRest)
      · rcases List.mem_cons.1 member with isHead | inRest
        · exact Or.inr (isHead ▸ List.mem_cons_self)
        · rcases inductionHypothesis inRest with isNew | inOld
          · exact Or.inl isNew
          · exact Or.inr (List.mem_cons_of_mem _ inOld)

private theorem lt_of_not_lt_of_ne
    {left right : String}
    (notLess : ¬ left < right)
    (different : right ≠ left) :
    right < left := by
  rcases String.le_total left right with below | above
  · exact absurd (String.le_antisymm (String.not_lt.1 notLess) below) different
  · exact String.not_le.1 fun below => different (String.le_antisymm above below)

/-- Inserting keeps the order of the names. -/
theorem Ascending.insert
    {fields : List (String × α)}
    (ascending : Ascending fields)
    (name : String)
    (content : α) :
    Ascending (Fields.insert name content fields) := by
  unfold Ascending at ascending ⊢
  induction fields with
  | nil => simp [Fields.insert]
  | cons head rest inductionHypothesis =>
    rcases head with ⟨other, old⟩
    rcases List.pairwise_cons.1 ascending with ⟨headBelow, restAscending⟩
    rw [Fields.insert]
    split
    · rename_i less
      refine List.pairwise_cons.2 ⟨?_, ascending⟩
      intro field member
      rcases List.mem_cons.1 member with rfl | inRest
      · exact less
      · exact String.lt_trans less (headBelow field inRest)
    · rename_i notLess
      split
      · rename_i same
        subst same
        exact List.pairwise_cons.2 ⟨headBelow, restAscending⟩
      · rename_i different
        refine List.pairwise_cons.2 ⟨?_, inductionHypothesis restAscending⟩
        intro field member
        rcases mem_insert member with rfl | inRest
        · exact lt_of_not_lt_of_ne notLess different
        · exact headBelow field inRest

/-- A list of pairs gives ascending fields. -/
theorem ascending_sortedOfPairs (pairs : List (String × α)) :
    Ascending (sortedOfPairs pairs) := by
  suffices general : ∀ (fields : List (String × α)), Ascending fields →
      Ascending (pairs.foldl (fun fields pair => Fields.insert pair.1 pair.2 fields) fields) from
    general [] List.Pairwise.nil
  induction pairs with
  | nil => intro fields ascending; exact ascending
  | cons pair rest inductionHypothesis =>
    intro fields ascending
    exact inductionHypothesis _ (ascending.insert pair.1 pair.2)

end Manifest.Fields
