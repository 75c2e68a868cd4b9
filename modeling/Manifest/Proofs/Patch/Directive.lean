import Mathlib.Tactic.SplitIfs
import Manifest.Patch.Directive
import Manifest.Proofs.Node.WellFormed

/-!
# Directives, and content without them

Reading the directive of a mapping gives none where there is none, the one that its
text names, or an error if it is not known; this is all that it can do, and what a
mapping asks for is read off it.

New content is stripped of directives field by field.
-/

namespace Manifest.Directive

/-! ## Texts -/

theorem ofText?_eq_delete
    {text : String} :
    ofText? text = some delete ↔ text = "delete" := by
  unfold ofText?
  split_ifs <;> simp [*]

theorem ofText?_eq_replace
    {text : String} :
    ofText? text = some replace ↔ text = "replace" := by
  unfold ofText?
  split_ifs <;> simp [*]

theorem ofText?_eq_merge
    {text : String} :
    ofText? text = some merge ↔ text = "merge" := by
  unfold ofText?
  split_ifs <;> simp [*]

theorem ofText?_eq_none
    {text : String} :
    ofText? text = none ↔ text ≠ "delete" ∧ text ≠ "replace" ∧ text ≠ "merge" := by
  unfold ofText?
  split_ifs <;> simp [*]

/-! ## Reading -/

section

variable
  {fields : List (String × Node)}
  {path : Path}

/-- A mapping has a directive that asks for nothing that is known. -/
def IsUnknown (fields : List (String × Node)) : Prop :=
  ∃ node,
    Fields.get? key fields = some node ∧
      ∀ leaf, node.scalar? = some leaf →
        leaf.text ≠ "delete" ∧ leaf.text ≠ "replace" ∧ leaf.text ≠ "merge"

/-- A mapping asks to be merged, or for nothing in particular. -/
def Merges (fields : List (String × Node)) : Prop :=
  Fields.get? key fields = none ∨ text? fields = some "merge"

/-- What reading the directive of a mapping can give. -/
inductive Reads (fields : List (String × Node)) (path : Path) :
    Except PatchError (Option Directive) → Prop where
  | absent
      (absent : Fields.get? key fields = none) :
      Reads fields path (.ok none)
  | known
      {text : String}
      {directive : Directive}
      (isText : text? fields = some text)
      (names : ofText? text = some directive) :
      Reads fields path (.ok (some directive))
  | unknown
      {text : String}
      (unknown : IsUnknown fields) :
      Reads fields path (.error (.unknownDirective path text))

theorem reads
    (fields : List (String × Node))
    (path : Path) :
    Reads fields path (read fields path) := by
  rw [read]
  split
  · rename_i absent
    exact .absent absent
  · rename_i node found
    split
    · rename_i noScalar
      exact .unknown ⟨node, found, by simp [noScalar]⟩
    · rename_i leaf isScalar
      split
      · rename_i directive names
        exact .known (by rw [text?, found, Option.bind_some, isScalar, Option.map_some]) names
      · rename_i noName
        refine .unknown ⟨node, found, ?_⟩
        intro other isOther
        rw [isScalar, Option.some.injEq] at isOther
        exact isOther ▸ ofText?_eq_none.1 noName

/-- A mapping whose directive is not known has no directive with a name. -/
theorem IsUnknown.ofText?_eq_none
    (unknown : IsUnknown fields)
    {text : String}
    (isText : text? fields = some text) :
    ofText? text = none := by
  rcases unknown with ⟨node, found, noneKnown⟩
  rw [text?, found, Option.bind_some] at isText
  rcases Option.map_eq_some_iff.1 isText with ⟨leaf, isScalar, rfl⟩
  exact Directive.ofText?_eq_none.2 (noneKnown leaf isScalar)

theorem IsUnknown.not_absent
    (unknown : IsUnknown fields) :
    Fields.get? key fields ≠ none := by
  rcases unknown with ⟨node, found, _⟩
  simp [found]

theorem read_of_absent
    (absent : Fields.get? key fields = none)
    (path : Path) :
    read fields path = .ok none := by
  rw [read, absent]

theorem text?_of_absent
    (absent : Fields.get? key fields = none) :
    text? fields = none := by
  rw [text?, absent, Option.bind_none, Option.map_none]

theorem deletes_of_absent
    (absent : Fields.get? key fields = none) :
    deletes fields = false := by
  rw [deletes, text?_of_absent absent]
  rfl

/-- The directive that is read is to delete exactly if the fields ask for deletion. -/
theorem deletes_of_read
    {directive : Option Directive}
    (isRead : read fields path = .ok directive) :
    deletes fields = true ↔ directive = some delete := by
  have outcome := reads fields path
  rw [isRead] at outcome
  cases outcome with
  | absent absent => simp [deletes_of_absent absent]
  | known isText names =>
      rw [deletes, isText, beq_iff_eq, Option.some.injEq, Option.some.injEq, ← ofText?_eq_delete,
        names, Option.some.injEq]

/-- Only a directive that is not known cannot be read. -/
theorem read_eq_error
    {error : PatchError}
    (fails : read fields path = .error error) :
    IsUnknown fields ∧ ∃ text, error = .unknownDirective path text := by
  have outcome := reads fields path
  rw [fails] at outcome
  cases outcome with
  | unknown unknown => exact ⟨unknown, _, rfl⟩

theorem IsUnknown.read
    (unknown : IsUnknown fields)
    (path : Path) :
    ∃ text, Directive.read fields path = .error (.unknownDirective path text) := by
  have outcome := reads fields path
  generalize Directive.read fields path = result at outcome
  cases outcome with
  | absent absent => exact absurd absent unknown.not_absent
  | known isText names => simp [unknown.ofText?_eq_none isText] at names
  | unknown => exact ⟨_, rfl⟩

theorem not_isUnknown_of_read
    {directive : Option Directive}
    (isRead : read fields path = .ok directive) :
    ¬ IsUnknown fields := by
  intro unknown
  rcases unknown.read path with ⟨text, fails⟩
  rw [isRead] at fails
  cases fails

theorem Merges.read
    (merges : Merges fields)
    (path : Path) :
    Directive.read fields path = .ok none ∨ Directive.read fields path = .ok (some merge) := by
  rcases merges with absent | isMerge
  · exact Or.inl (read_of_absent absent path)
  · have names : ofText? "merge" = some merge := ofText?_eq_merge.2 rfl
    have outcome := reads fields path
    generalize Directive.read fields path = result at outcome
    cases outcome with
    | absent => exact Or.inl rfl
    | known isText otherNames =>
        rw [isMerge, Option.some.injEq] at isText
        subst isText
        rw [names, Option.some.injEq] at otherNames
        exact Or.inr (by rw [otherNames])
    | unknown unknown => simp [unknown.ofText?_eq_none isMerge] at names

/-- What is read and is neither to delete nor to replace is to merge. -/
theorem merges_of_read
    {directive : Option Directive}
    (isRead : read fields path = .ok directive)
    (notDelete : directive ≠ some delete)
    (notReplace : directive ≠ some replace) :
    Merges fields := by
  have outcome := reads fields path
  rw [isRead] at outcome
  cases outcome with
  | absent absent => exact Or.inl absent
  | @known text named isText names =>
      cases named with
      | delete => exact absurd rfl notDelete
      | replace => exact absurd rfl notReplace
      | merge => exact Or.inr (isText.trans (congrArg some (ofText?_eq_merge.1 names)))

theorem merges_of_texts
    {directive : Option Directive}
    (isRead : read fields path = .ok directive)
    (notDelete : text? fields ≠ some "delete")
    (notReplace : text? fields ≠ some "replace") :
    Merges fields := by
  have outcome := reads fields path
  rw [isRead] at outcome
  cases outcome with
  | absent absent => exact Or.inl absent
  | known isText names =>
      apply merges_of_read isRead
      · rintro ⟨⟩
        exact notDelete (isText.trans (congrArg some (ofText?_eq_delete.1 names)))
      · rintro ⟨⟩
        exact notReplace (isText.trans (congrArg some (ofText?_eq_replace.1 names)))

theorem Merges.not_deletes
    (merges : Merges fields) :
    deletes fields = false := by
  rcases merges with absent | isMerge
  · exact deletes_of_absent absent
  · rw [deletes, isMerge]
    rfl

end

/-! ## Stripping -/

@[simp]
theorem strip_content (node : Node) :
    strip node.content = strip node :=
  Node.read_content (fun _ => by rw [strip]) (fun _ _ => by rw [strip]) node

theorem strip_of_scalar
    {node : Node}
    {leaf : Scalar}
    (isScalar : node.content = .scalar leaf) :
    strip node = some (.scalar leaf) := by
  rw [← strip_content, isScalar, strip]

theorem strip_of_sequence
    {node : Node}
    {items : List Node}
    (isSequence : node.content = .sequence items) :
    strip node = some (.sequence (stripItems items)) := by
  rw [← strip_content, isSequence, strip]

theorem strip_of_mapping
    {node : Node}
    {fields : List (String × Node)}
    (isMapping : node.content = .mapping fields) :
    strip node = if deletes fields then none else some (.mapping (stripFields fields)) := by
  rw [← strip_content, isMapping, strip]

/-- A mapping without a directive is kept, without the keys that belong to the patch. -/
theorem strip_of_absent
    {node : Node}
    {fields : List (String × Node)}
    (isMapping : node.content = .mapping fields)
    (absent : Fields.get? key fields = none) :
    strip node = some (.mapping (stripFields fields)) := by
  rw [strip_of_mapping isMapping, deletes_of_absent absent]
  rfl

theorem strip_eq_stripMapping
    {node : Node}
    {fields : List (String × Node)}
    (isMapping : node.content = .mapping fields) :
    strip node = (stripMapping fields).map .mapping := by
  rw [strip_of_mapping isMapping, stripMapping]
  cases deletes fields <;> rfl

theorem get?_stripFields
    {fields : List (String × Node)}
    (distinct : Fields.Distinct fields)
    {name : String}
    (noKey : isKey name = false) :
    Fields.get? name (stripFields fields) = (Fields.get? name fields).bind strip := by
  unfold Fields.Distinct at distinct
  induction fields with
  | nil => rfl
  | cons head rest inductionHypothesis =>
      rcases head with ⟨other, node⟩
      rcases List.nodup_cons.1 distinct with ⟨headIsNew, restDistinct⟩
      have inRest := inductionHypothesis restDistinct
      rw [stripFields]
      by_cases isHead : other = name
      · subst isHead
        have absent : Fields.get? other rest = none := Fields.get?_eq_none.2 headIsNew
        rw [if_neg (by rw [noKey]; decide), Fields.get?_cons_same, Option.bind_some]
        cases stripped : strip node with
        | none => rw [inRest, absent, Option.bind_none]
        | some result => exact Fields.get?_cons_same other result _
      · rw [Fields.get?_cons_other isHead]
        split
        · exact inRest
        · split
          · rw [Fields.get?_cons_other isHead, inRest]
          · exact inRest

theorem mem_stripFields
    {fields : List (String × Node)}
    {field : String × Node}
    (member : field ∈ stripFields fields) :
    ∃ node, (field.1, node) ∈ fields ∧ strip node = some field.2 := by
  induction fields with
  | nil => cases member
  | cons head rest inductionHypothesis =>
      rcases head with ⟨other, node⟩
      have fromRest :
          field ∈ stripFields rest →
            ∃ found, (field.1, found) ∈ (other, node) :: rest ∧ strip found = some field.2 := by
        intro inRest
        rcases inductionHypothesis inRest with ⟨found, isFound, strips⟩
        exact ⟨found, List.mem_cons_of_mem _ isFound, strips⟩
      rw [stripFields] at member
      split at member
      · exact fromRest member
      · split at member
        · rename_i stripped strips
          rcases List.mem_cons.1 member with rfl | inRest
          · exact ⟨node, List.mem_cons_self, strips⟩
          · exact fromRest inRest
        · exact fromRest member

theorem distinct_stripFields
    {fields : List (String × Node)}
    (distinct : Fields.Distinct fields) :
    Fields.Distinct (stripFields fields) := by
  unfold Fields.Distinct at distinct ⊢
  refine List.Nodup.sublist ?_ distinct
  clear distinct
  induction fields with
  | nil => exact List.Sublist.slnil
  | cons head rest inductionHypothesis =>
      rcases head with ⟨name, node⟩
      rw [stripFields]
      split
      · exact inductionHypothesis.cons name
      · split
        · exact inductionHypothesis.cons_cons name
        · exact inductionHypothesis.cons name

end Manifest.Directive
