import Manifest.Proofs.Value.Overlay
import Mathlib.Data.List.Infix

/-!
# Writes at a list of names

To write at a list of names is to set what is there, or to remove it.  A content that is
set adds what is absent on the way; a removal ends where something is absent.  The place
at the end of no names is the value itself, so that a write is one of an optional value.

Two lists of names are apart if neither of them continues the other one.  Writes that are
apart do not see each other: what is found at the one is not changed by the other, and they
can be made in any order.  A write that follows another one at the same names takes its
place, also if something was laid over the value in between.
-/

namespace Manifest

namespace Value

/-- The place at some names with its content set, or removed. -/
def put (content : Option Value) : List String → Option Value → Option Value
  | [], _ => content
  | name :: rest, place =>
      (if content.isSome then some (place.getD null) else place).map
        (alter name (put content rest))

/-- Neither of two lists of names continues the other one. -/
def Apart (first second : List String) : Prop :=
  ¬first <+: second ∧ ¬second <+: first

instance (first second : List String) : Decidable (Apart first second) :=
  inferInstanceAs (Decidable (_ ∧ _))

theorem Apart.symm
    {first second : List String}
    (apart : Apart first second) :
    Apart second first :=
  ⟨apart.2, apart.1⟩

theorem Apart.left_ne_nil
    {first second : List String}
    (apart : Apart first second) :
    first ≠ [] := by
  rintro rfl
  exact apart.1 List.nil_prefix

/-- Names that are apart differ in the first name, or they are apart behind it. -/
theorem Apart.cases_cons
    {name other : String}
    {rest others : List String}
    (apart : Apart (name :: rest) (other :: others)) :
    name ≠ other ∨ (name = other ∧ Apart rest others) := by
  by_cases same : name = other
  · subst same
    refine Or.inr ⟨rfl, ?_, ?_⟩
    · intro continues
      exact apart.1 (List.cons_prefix_cons.2 ⟨rfl, continues⟩)
    · intro continues
      exact apart.2 (List.cons_prefix_cons.2 ⟨rfl, continues⟩)
  · exact Or.inl same

section

variable
  {content earlier : Option Value}
  {path others : List String}
  {value : Value}

@[simp]
theorem put_nil
    (content place : Option Value) :
    put content [] place = content :=
  rfl

theorem put_cons_some
    (content : Option Value)
    (name : String)
    (rest : List String)
    (value : Value) :
    put content (name :: rest) (some value) = some (alter name (put content rest) value) := by
  rw [put]
  cases content <;> rfl

/-- To set a content below an absent place is to set it in nothing. -/
theorem put_some_none
    (content : Value)
    (name : String)
    (rest : List String) :
    put (some content) (name :: rest) none =
      some (alter name (put (some content) rest) null) :=
  rfl

/-- Where nothing is, nothing is removed. -/
@[simp]
theorem put_none_none (path : List String) :
    put none path none = none := by
  cases path <;> rfl

/-- A content is set in an absent place as in nothing. -/
theorem put_some_getD
    (content : Value)
    (path : List String)
    (place : Option Value) :
    put (some content) path (some (place.getD null)) = put (some content) path place := by
  cases path with
  | nil => rfl
  | cons name rest => cases place <;> rfl

theorem isSome_put
    (content : Option Value)
    (path : List String)
    (place : Option Value) :
    (put content path place).isSome = (content.isSome || (path ≠ [] && place.isSome)) := by
  cases path with
  | nil => simp
  | cons name rest => cases content <;> cases place <;> simp [put]

theorem OrderedAt.put
    {place : Option Value}
    (orderedContent : OrderedAt content)
    (ordered : OrderedAt place) :
    OrderedAt (Value.put content path place) := by
  induction path generalizing place with
  | nil => exact orderedContent
  | cons name rest inductionHypothesis =>
      have alters :
          ∀ value : Value, value.Ordered → (alter name (Value.put content rest) value).Ordered := by
        intro value valueOrdered
        apply valueOrdered.alter
        apply inductionHypothesis
        intro child found
        exact valueOrdered.field? found
      cases place with
      | some value =>
          rw [put_cons_some]
          rintro _ ⟨⟩
          exact alters value (ordered value rfl)
      | none =>
          cases content with
          | none =>
              rw [put_none_none]
              exact ordered
          | some child =>
              rintro _ ⟨⟩
              exact alters null ordered_null

/-! ## Apart writes -/

/-- What is found at other names is not changed. -/
theorem getIn?_put
    {place : Option Value}
    (ordered : OrderedAt place)
    (apart : Apart path others) :
    (put content path place).bind (getIn? · others) = place.bind (getIn? · others) := by
  induction path generalizing others place with
  | nil => exact absurd rfl apart.left_ne_nil
  | cons name rest inductionHypothesis =>
      cases others with
      | nil => exact absurd rfl apart.symm.left_ne_nil
      | cons other others =>
          have altered :
              ∀ value : Value, value.Ordered →
                getIn? (alter name (put content rest) value) (other :: others) =
                  value.getIn? (other :: others) := by
            intro value ordered
            rw [getIn?_cons, getIn?_cons]
            rcases apart.cases_cons with different | ⟨rfl, apartRest⟩
            · rw [field?_alter_other (Ne.symm different)]
            · rw [field?_alter_same ordered.ascending]
              exact inductionHypothesis (fun _ => ordered.field?) apartRest
          cases place with
          | some value =>
              rw [put_cons_some]
              exact altered value (ordered value rfl)
          | none =>
              cases content with
              | none => rw [put_none_none]
              | some content => exact altered null ordered_null

theorem alter_null_of_none
    (name : String)
    (rest : List String) :
    alter name (put none rest) null = null :=
  alter_of_same List.Pairwise.nil (put_none_none rest)

/-- Writes at names that are apart can be made in any order. -/
theorem put_comm
    {another place : Option Value}
    (ordered : OrderedAt place)
    (apart : Apart path others) :
    put another others (put content path place) = put content path (put another others place) := by
  induction path generalizing others place with
  | nil => exact absurd rfl apart.left_ne_nil
  | cons name rest inductionHypothesis =>
      cases others with
      | nil => exact absurd rfl apart.symm.left_ne_nil
      | cons other others =>
          have altered :
              ∀ value : Value, value.Ordered →
                alter other (put another others) (alter name (put content rest) value) =
                  alter name (put content rest) (alter other (put another others) value) := by
            intro value ordered
            rcases apart.cases_cons with different | ⟨rfl, apartRest⟩
            · exact alter_comm (Ne.symm different) ordered.ascending _ _
            · rw [alter_alter_same ordered.ascending, alter_alter_same ordered.ascending]
              · exact alter_congr (inductionHypothesis (fun _ => ordered.field?) apartRest)
              · intro isPresent
                simp [isSome_put, isPresent, apartRest.left_ne_nil]
              · intro isPresent
                simp [isSome_put, isPresent, apartRest.symm.left_ne_nil]
          have atNull := altered null ordered_null
          cases place with
          | some value =>
              simp only [put_cons_some]
              rw [altered value (ordered value rfl)]
          | none =>
              cases content with
              | none =>
                  cases another with
                  | none => simp only [put_none_none]
                  | some another =>
                      rw [alter_null_of_none] at atNull
                      rw [put_none_none, put_some_none, put_cons_some, ← atNull]
              | some content =>
                  cases another with
                  | none =>
                      rw [alter_null_of_none] at atNull
                      rw [put_none_none, put_some_none, put_cons_some, atNull]
                  | some another =>
                      simp only [put_some_none, put_cons_some]
                      rw [atNull]

/-! ## Later writes -/

/-- A later write at the same names takes the place of an earlier one that removes no more. -/
theorem put_put_same
    {place : Option Value}
    (ordered : OrderedAt place)
    (keeps : earlier.isSome → content.isSome) :
    put content path (put earlier path place) = put content path place := by
  induction path generalizing place with
  | nil => rfl
  | cons name rest inductionHypothesis =>
      have altered :
          ∀ value : Value, value.Ordered →
            alter name (put content rest) (alter name (put earlier rest) value) =
              alter name (put content rest) value := by
        intro value ordered
        rw [alter_alter_same ordered.ascending]
        · exact alter_congr (inductionHypothesis fun _ => ordered.field?)
        · intro isPresent
          rw [isSome_put, isPresent]
          cases earlier with
          | some earlier => rw [keeps rfl, Bool.true_or]
          | none =>
              rw [isSome_put] at isPresent
              simp at isPresent
              simp [isPresent.1]
      cases place with
      | some value =>
          simp only [put_cons_some]
          rw [altered value (ordered value rfl)]
      | none =>
          cases earlier with
          | none => rw [put_none_none]
          | some earlier =>
              cases content with
              | none => cases keeps rfl
              | some content =>
                  simp only [put_some_none, put_cons_some]
                  rw [altered null ordered_null]

/-- What is written again over an overlay does not see that it was written before. -/
theorem put_overlayAt_put
    {place upper : Option Value}
    (ordered : OrderedAt place)
    (upperOrdered : OrderedAt upper) :
    put content path (overlayAt (put content path place) upper) =
      put content path (overlayAt place upper) := by
  induction path generalizing place upper with
  | nil => rfl
  | cons name rest inductionHypothesis =>
      have altered :
          ∀ value right : Value, value.Ordered → right.Ordered →
            alter name (put content rest)
                ((alter name (put content rest) value).overlay right) =
              alter name (put content rest) (value.overlay right) := by
        intro value right ordered rightOrdered
        have alteredAscending := ascending_alter ordered.ascending name (put content rest)
        rcases kind_cases right with rfl | ⟨fields, rfl⟩ | ⟨isBare, notNull⟩
        · have valueOrdered : OrderedAt (some value) := by
            rintro _ ⟨⟩
            exact ordered
          have twice :
              put content (name :: rest) (put content (name :: rest) (some value)) =
                put content (name :: rest) (some value) :=
            put_put_same valueOrdered id
          simp only [put_cons_some, Option.some.injEq] at twice
          rw [overlay_null, overlay_null, twice]
        · have ascending : Fields.Ascending fields := rightOrdered.ascending
          have atName :
              put content rest
                  (((alter name (put content rest) value).overlay (map fields)).field? name) =
                put content rest ((value.overlay (map fields)).field? name) := by
            rw [field?_overlay_map alteredAscending ascending,
              field?_overlay_map ordered.ascending ascending,
              field?_alter_same ordered.ascending]
            exact inductionHypothesis (fun _ => ordered.field?) fun _ => rightOrdered.field?
          have overlaidAscending := ascending_overlay_map ascending value
          have againAscending :=
            ascending_overlay_map ascending (alter name (put content rest) value)
          apply eq_alter overlaidAscending (ascending_alter againAscending _ _)
          · rw [bare?_alter, atName, bare?_overlay_map, bare?_overlay_map]
          · rw [field?_alter_same againAscending, atName]
          · intro other different
            rw [field?_alter_other different, field?_overlay_map alteredAscending ascending,
              field?_overlay_map ordered.ascending ascending, field?_alter_other different]
        · rw [overlay_of_bare isBare notNull, overlay_of_bare isBare notNull]
      cases upper with
      | none => simp only [overlayAt_none_right, put_put_same ordered id]
      | some right =>
          have rightOrdered := upperOrdered right rfl
          cases place with
          | some value =>
              simp only [put_cons_some, overlayAt_some]
              rw [altered value right (ordered value rfl) rightOrdered]
          | none =>
              cases content with
              | none => rw [put_none_none]
              | some content =>
                  simp only [put_some_none, overlayAt_some, overlayAt_none_left, put_cons_some]
                  rw [altered null right ordered_null rightOrdered, null_overlay]

end

/-! ## Several writes -/

/-- A content to be set, or a removal, at some names. -/
structure Write where
  path : List String
  content : Option Value

/-- The place after some writes, one after another. -/
def putAll (writes : List Write) (place : Option Value) : Option Value :=
  writes.foldl (fun place write => put write.content write.path place) place

/-- Some writes are made at names that are apart. -/
def AllApart (writes : List Write) : Prop :=
  writes.Pairwise fun first second => Apart first.path second.path

section

variable
  {writes : List Write}
  {place upper : Option Value}

/-- The contents that some writes set are in order. -/
def OrderedContents (writes : List Write) : Prop :=
  ∀ write ∈ writes, OrderedAt write.content

@[simp]
theorem putAll_cons
    (write : Write)
    (rest : List Write)
    (place : Option Value) :
    putAll (write :: rest) place = putAll rest (put write.content write.path place) :=
  rfl

theorem putAll_append
    (first second : List Write)
    (place : Option Value) :
    putAll (first ++ second) place = putAll second (putAll first place) :=
  List.foldl_append

theorem OrderedAt.putAll
    (contents : OrderedContents writes)
    (ordered : OrderedAt place) :
    OrderedAt (Value.putAll writes place) := by
  induction writes generalizing place with
  | nil => exact ordered
  | cons write rest inductionHypothesis =>
      rw [OrderedContents, List.forall_mem_cons] at contents
      exact inductionHypothesis contents.2 (OrderedAt.put contents.1 ordered)

theorem getIn?_putAll
    {names : List String}
    (contents : OrderedContents writes)
    (ordered : OrderedAt place)
    (apart : ∀ write ∈ writes, Apart write.path names) :
    (putAll writes place).bind (getIn? · names) = place.bind (getIn? · names) := by
  induction writes generalizing place with
  | nil => rfl
  | cons write rest inductionHypothesis =>
      rw [OrderedContents, List.forall_mem_cons] at contents
      rw [List.forall_mem_cons] at apart
      rw [← getIn?_put ordered apart.1]
      exact inductionHypothesis contents.2 (OrderedAt.put contents.1 ordered) apart.2

/-- A write that is apart from all others can be made first or last. -/
theorem putAll_put
    {write : Write}
    (contents : OrderedContents writes)
    (ordered : OrderedAt place)
    (apart : ∀ other ∈ writes, Apart write.path other.path) :
    putAll writes (put write.content write.path place) =
      put write.content write.path (putAll writes place) := by
  induction writes generalizing place with
  | nil => rfl
  | cons other rest inductionHypothesis =>
      rw [OrderedContents, List.forall_mem_cons] at contents
      rw [List.forall_mem_cons] at apart
      rw [putAll_cons, putAll_cons, put_comm ordered apart.1]
      exact inductionHypothesis contents.2 (OrderedAt.put contents.1 ordered) apart.2

/-- Writes that are made again over an overlay do not see that they were made before. -/
theorem putAll_overlayAt_putAll
    (apart : AllApart writes)
    (contents : OrderedContents writes)
    (ordered : OrderedAt place)
    (upperOrdered : OrderedAt upper) :
    putAll writes (overlayAt (putAll writes place) upper) =
      putAll writes (overlayAt place upper) := by
  induction writes generalizing place with
  | nil => rfl
  | cons write rest inductionHypothesis =>
      rcases List.pairwise_cons.1 apart with ⟨writeApart, restApart⟩
      rw [OrderedContents, List.forall_mem_cons] at contents
      have restOrdered : OrderedAt (putAll rest place) := OrderedAt.putAll contents.2 ordered
      -- The first write is made last, so that it is one write and then the others.
      calc
        putAll (write :: rest) (overlayAt (putAll (write :: rest) place) upper) =
            putAll rest
              (put write.content write.path
                (overlayAt (put write.content write.path (putAll rest place)) upper)) := by
          rw [putAll_cons, putAll_cons, putAll_put contents.2 ordered writeApart]
        _ = putAll rest
              (put write.content write.path (overlayAt (putAll rest place) upper)) := by
          rw [put_overlayAt_put restOrdered upperOrdered]
        _ = put write.content write.path
              (putAll rest (overlayAt (putAll rest place) upper)) :=
          putAll_put contents.2 (restOrdered.overlayAt upperOrdered) writeApart
        _ = put write.content write.path (putAll rest (overlayAt place upper)) := by
          rw [inductionHypothesis restApart contents.2 ordered]
        _ = putAll (write :: rest) (overlayAt place upper) := by
          rw [putAll_cons, putAll_put contents.2 (ordered.overlayAt upperOrdered) writeApart]

/-- Later writes at the same names take the place of earlier ones. -/
theorem putAll_putAll
    {earlier : List Write}
    (apart : AllApart writes)
    (contents : OrderedContents writes)
    (earlierContents : OrderedContents earlier)
    (ordered : OrderedAt place)
    (samePaths : earlier.map Write.path = writes.map Write.path)
    (allSet : ∀ write ∈ writes, write.content.isSome) :
    putAll writes (putAll earlier place) = putAll writes place := by
  induction writes generalizing earlier place with
  | nil =>
      rw [List.map_nil, List.map_eq_nil_iff] at samePaths
      rw [samePaths]
      rfl
  | cons write rest inductionHypothesis =>
      cases earlier with
      | nil => cases samePaths
      | cons first others =>
          rw [List.map_cons, List.map_cons, List.cons.injEq] at samePaths
          rcases samePaths with ⟨samePath, sameRest⟩
          rcases List.pairwise_cons.1 apart with ⟨writeApart, restApart⟩
          rw [OrderedContents, List.forall_mem_cons] at contents earlierContents
          rw [List.forall_mem_cons] at allSet
          have firstOrdered : OrderedAt (put first.content write.path place) :=
            OrderedAt.put earlierContents.1 ordered
          have othersApart : ∀ other ∈ others, Apart write.path other.path := by
            intro other member
            have isPath : other.path ∈ rest.map Write.path :=
              sameRest ▸ List.mem_map_of_mem member
            rcases List.mem_map.1 isPath with ⟨same, inRest, isSame⟩
            exact isSame ▸ writeApart same inRest
          calc
            putAll (write :: rest) (putAll (first :: others) place) =
                putAll rest
                  (putAll others
                    (put write.content write.path (put first.content write.path place))) := by
              rw [putAll_cons, putAll_cons, samePath,
                ← putAll_put earlierContents.2 firstOrdered othersApart]
            _ = putAll rest (putAll others (put write.content write.path place)) := by
              rw [put_put_same ordered fun _ => allSet.1]
            _ = putAll (write :: rest) place :=
              inductionHypothesis restApart contents.2 earlierContents.2
                (OrderedAt.put contents.1 ordered) sameRest allSet.2

end

end Value

end Manifest
