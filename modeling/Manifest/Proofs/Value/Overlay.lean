import Manifest.Proofs.Value.Fields

/-!
# Overlays of values

The overlay of two values is their deep merge in favour of the right one.  Nothing on the
right keeps the left.  Two maps give the map with the names of both, in which a name of
both holds the overlay of what they hold, and a name of one holds what that one holds.
Anything else gives the right.

A value laid over what it was laid over before changes nothing: by induction on the right
value, since at each name the overlay of two contents meets the right one of them again.
-/

namespace Manifest

namespace Value

mutual

/-- The deep merge of two values in favour of the right one. -/
def overlay (left : Value) : Value → Value
  | null => left
  | map fields =>
      match left with
      | map leftFields =>
          map <| Fields.sortedOfPairs <|
            (leftFields.filter fun field => !Fields.contains field.1 fields) ++
              overlayFields leftFields fields
      | _ => map fields
  | right => right

/-- The fields on the right, each of them laid over the one with its name on the left. -/
def overlayFields (left : List (String × Value)) :
    List (String × Value) → List (String × Value)
  | [] => []
  | (name, right) :: rest =>
      (name,
        match Fields.get? name left with
        | some content => overlay content right
        | none => right) :: overlayFields left rest

end

/-- What an overlay holds where the two values hold optional contents. -/
def overlayAt : Option Value → Option Value → Option Value
  | left, none => left
  | none, some right => some right
  | some left, some right => some (left.overlay right)

@[simp]
theorem overlayAt_none_right (left : Option Value) :
    overlayAt left none = left := by
  cases left <;> rfl

@[simp]
theorem overlayAt_none_left (right : Option Value) :
    overlayAt none right = right := by
  cases right <;> rfl

@[simp]
theorem overlayAt_some
    (left right : Value) :
    overlayAt (some left) (some right) = some (left.overlay right) :=
  rfl

@[simp]
theorem overlay_null (left : Value) :
    left.overlay null = left := by
  rw [overlay]

/-- What is no map and not nothing takes the place of anything. -/
theorem overlay_of_bare
    {right : Value}
    (isBare : right.bare? = some right)
    (notNull : right ≠ null)
    (left : Value) :
    left.overlay right = right := by
  cases right with
  | null => exact absurd rfl notNull
  | map fields => cases isBare
  | _ => simp [overlay]

/-- A map takes the place of what is no map. -/
theorem overlay_map_of_bare
    {left : Value}
    (isBare : left.bare? = some left)
    (fields : List (String × Value)) :
    left.overlay (map fields) = map fields := by
  cases left with
  | map leftFields => cases isBare
  | _ => simp [overlay]

/-- Anything takes the place of nothing. -/
@[simp]
theorem null_overlay (right : Value) :
    null.overlay right = right := by
  cases right with
  | map fields => exact overlay_map_of_bare rfl fields
  | _ => simp [overlay]

/-! ## Fields -/

@[simp]
theorem names_overlayFields
    (left right : List (String × Value)) :
    Fields.names (overlayFields left right) = Fields.names right := by
  induction right with
  | nil => rw [overlayFields]
  | cons head rest inductionHypothesis =>
      rw [overlayFields, Fields.names_cons, inductionHypothesis, Fields.names_cons]

theorem get?_overlayFields
    (left right : List (String × Value))
    (name : String) :
    Fields.get? name (overlayFields left right) =
      (Fields.get? name right).bind fun content =>
        overlayAt (Fields.get? name left) (some content) := by
  induction right with
  | nil => rw [overlayFields, Fields.get?_nil, Option.bind_none]
  | cons head rest inductionHypothesis =>
      rcases head with ⟨other, content⟩
      rw [overlayFields]
      by_cases isHead : other = name
      · subst isHead
        rw [Fields.get?_cons_same, Fields.get?_cons_same, Option.bind_some]
        cases Fields.get? other left <;> rfl
      · rw [Fields.get?_cons_other isHead, Fields.get?_cons_other isHead, inductionHypothesis]

/-- The overlay of two maps holds at each name the overlay of what they hold there. -/
theorem field?_overlay_map
    {left : Value}
    {fields : List (String × Value)}
    (leftAscending : Fields.Ascending left.fields)
    (ascending : Fields.Ascending fields)
    (name : String) :
    (left.overlay (map fields)).field? name =
      overlayAt (left.field? name) (Fields.get? name fields) := by
  rcases shape_cases left with ⟨isMap, _⟩ | ⟨noFields, isBare⟩
  · have distinct :
        Fields.Distinct
          ((left.fields.filter fun field => !Fields.contains field.1 fields) ++
            overlayFields left.fields fields) := by
      rw [Fields.Distinct, Fields.names, List.map_append, List.nodup_append]
      refine ⟨Fields.Ascending.distinct (leftAscending.sublist List.filter_sublist), ?_, ?_⟩
      · rw [← Fields.names, names_overlayFields]
        exact ascending.distinct
      · intro other inLeft another inRight isOther
        rcases List.mem_map.1 inLeft with ⟨field, isField, rfl⟩
        rw [← Fields.names, names_overlayFields, ← isOther] at inRight
        have isNew : Fields.contains field.1 fields = false := by
          simpa using (List.mem_filter.1 isField).2
        rw [Fields.contains, Option.isSome_eq_false_iff, Option.isNone_iff_eq_none] at isNew
        exact Fields.get?_eq_none.1 isNew inRight
    rw [isMap, overlay, field?_map, Fields.get?_sortedOfPairs distinct, Fields.get?_append,
      Fields.get?_filter (fun name => !Fields.contains name fields), get?_overlayFields, field?_map,
      Fields.contains]
    cases Fields.get? name fields with
    | none => simp
    | some content => simp [overlayAt]
  · rw [overlay_map_of_bare isBare, field?_map, field?, noFields, Fields.get?_nil,
      overlayAt_none_left]

/-- A value is nothing, a map, or something else. -/
theorem kind_cases (value : Value) :
    value = null ∨ (∃ fields, value = map fields) ∨
      (value.bare? = some value ∧ value ≠ null) := by
  cases value with
  | null => exact Or.inl rfl
  | map fields => exact Or.inr (Or.inl ⟨fields, rfl⟩)
  | _ => exact Or.inr (Or.inr ⟨rfl, by simp⟩)

theorem bare?_overlay_map
    (left : Value)
    (fields : List (String × Value)) :
    (left.overlay (map fields)).bare? = none := by
  cases left <;> simp [overlay]

theorem ascending_overlay_map
    {fields : List (String × Value)}
    (ascending : Fields.Ascending fields)
    (left : Value) :
    Fields.Ascending (left.overlay (map fields)).fields := by
  rcases shape_cases left with ⟨isMap, _⟩ | ⟨_, isBare⟩
  · rw [isMap, overlay]
    exact Fields.ascending_sortedOfPairs _
  · rw [overlay_map_of_bare isBare]
    exact ascending

/-- The overlay of values in order is in order. -/
theorem Ordered.overlay
    {left right : Value}
    (leftOrdered : left.Ordered)
    (rightOrdered : right.Ordered) :
    (left.overlay right).Ordered := by
  induction rightOrdered generalizing left with
  | @intro right ascending contents inductionHypothesis =>
      rcases kind_cases right with rfl | ⟨fields, rfl⟩ | ⟨isBare, notNull⟩
      · rw [overlay_null]
        exact leftOrdered
      · have ascending : Fields.Ascending fields := ascending
        refine .intro (ascending_overlay_map ascending left) ?_
        intro name content found
        rw [field?_overlay_map leftOrdered.ascending ascending] at found
        cases rightFound : Fields.get? name fields with
        | none =>
            rw [rightFound, overlayAt_none_right] at found
            exact leftOrdered.field? found
        | some rightContent =>
            cases leftFound : left.field? name with
            | none =>
                rw [rightFound, leftFound, overlayAt_none_left] at found
                exact contents name content (rightFound.trans found)
            | some leftContent =>
                rw [rightFound, leftFound, overlayAt_some] at found
                cases found
                exact inductionHypothesis name rightContent rightFound
                  (leftOrdered.field? leftFound)
      · rw [overlay_of_bare isBare notNull]
        exact .intro ascending contents

/-- What is at an optional place is in order. -/
def OrderedAt (place : Option Value) : Prop :=
  ∀ value, place = some value → value.Ordered

theorem OrderedAt.overlayAt
    {left right : Option Value}
    (leftOrdered : OrderedAt left)
    (rightOrdered : OrderedAt right) :
    OrderedAt (Value.overlayAt left right) := by
  cases right with
  | none =>
      rw [overlayAt_none_right]
      exact leftOrdered
  | some right =>
      cases left with
      | none =>
          rw [overlayAt_none_left]
          exact rightOrdered
      | some left =>
          rintro _ ⟨⟩
          exact (leftOrdered left rfl).overlay (rightOrdered right rfl)

/-! ## Laying a value over again -/

/-- To lay the same value over again changes nothing. -/
theorem overlay_overlay_self
    {left right : Value}
    (leftOrdered : left.Ordered)
    (rightOrdered : right.Ordered) :
    (left.overlay right).overlay right = left.overlay right := by
  induction rightOrdered generalizing left with
  | @intro right ascending contents inductionHypothesis =>
      rcases kind_cases right with rfl | ⟨fields, rfl⟩ | ⟨isBare, notNull⟩
      · rw [overlay_null, overlay_null]
      · have ascending : Fields.Ascending fields := ascending
        have onceAscending := ascending_overlay_map ascending left
        apply eq_of_fields (ascending_overlay_map ascending _) onceAscending
        · rw [bare?_overlay_map, bare?_overlay_map]
        · intro name
          rw [field?_overlay_map onceAscending ascending,
            field?_overlay_map leftOrdered.ascending ascending]
          cases rightFound : Fields.get? name fields with
          | none => rw [overlayAt_none_right]
          | some content =>
              cases leftFound : left.field? name with
              | none =>
                  -- Over nothing, the first of two overlays gives the content itself.
                  have overNothing :=
                    inductionHypothesis name content rightFound ordered_null
                  rw [null_overlay] at overNothing
                  rw [overlayAt_none_left, overlayAt_some, overNothing]
              | some leftContent =>
                  rw [overlayAt_some, overlayAt_some,
                    inductionHypothesis name content rightFound (leftOrdered.field? leftFound)]
      · rw [overlay_of_bare isBare notNull, overlay_of_bare isBare notNull]

end Value

end Manifest
