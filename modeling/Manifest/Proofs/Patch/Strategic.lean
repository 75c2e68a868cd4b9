import Manifest.Patch.Strategic
import Manifest.Proofs.Patch.Directive
import Manifest.Proofs.Result

/-!
# What a strategic merge makes of a field

A mapping of a patch deletes what it is applied to, or takes its place, or is
merged into it field by field.  Which of these happens depends on its directive,
and on whether it finds a mapping; there are no other outcomes, whether it stands
at the root or in a field.

So a field of what comes out is one that the patch left alone, one of the patch
without its directives, or the merge of one of each.
-/

namespace Manifest

open StrategicPatch

namespace StrategicPatch

/-! ## A mapping of a patch -/

/-- What becomes of a content to which a mapping of a patch is applied. -/
inductive Applied (path : Path) (existing : Option Node) (patch : List (String × Node)) :
    Option Node → Prop where
  | deletes
      (asked : Directive.deletes patch = true) :
      Applied path existing patch none
  /-- The mapping takes the place of the content. -/
  | replaces
      (notAsked : Directive.deletes patch = false) :
      Applied path existing patch (some (.mapping (Directive.stripFields patch)))
  | merges
      {target merged : List (String × Node)}
      (notAsked : Directive.deletes patch = false)
      (isMapping : existing = some (.mapping target))
      (merges : mergeFields target path target patch = .ok merged) :
      Applied path existing patch (some (.mapping merged))

/-- What comes out is nothing if the patch asks for deletion, and else a mapping. -/
theorem Applied.outcome
    {path : Path}
    {existing result : Option Node}
    {patch : List (String × Node)}
    (applied : Applied path existing patch result) :
    (Directive.deletes patch = true ∧ result = none) ∨
      (Directive.deletes patch = false ∧ ∃ fields, result = some (.mapping fields)) := by
  cases applied with
  | deletes asked => exact Or.inl ⟨asked, rfl⟩
  | replaces notAsked => exact Or.inr ⟨notAsked, _, rfl⟩
  | merges notAsked => exact Or.inr ⟨notAsked, _, rfl⟩

/-- A mapping of a patch is applied to a mapping as its directive asks. -/
theorem applied_of_byDirective
    {path : Path}
    {target patch : List (String × Node)}
    {result : Option (List (String × Node))}
    (succeeds : byDirective patch path (mergeFields target path target patch) = .ok result) :
    Applied path (some (.mapping target)) patch (result.map .mapping) := by
  rw [byDirective] at succeeds
  split at succeeds
  · cases succeeds
  · rename_i reads
    cases succeeds
    exact .deletes ((Directive.deletes_of_read reads).2 rfl)
  · rename_i reads
    have notAsked : Directive.deletes patch = false := by
      rw [← Bool.not_eq_true, Directive.deletes_of_read reads]
      decide
    cases succeeds
    rw [Directive.stripMapping, if_neg (by rw [notAsked]; decide)]
    exact .replaces notAsked
  · rename_i directive notDelete _ reads
    have notAsked : Directive.deletes patch = false := by
      rw [← Bool.not_eq_true, Directive.deletes_of_read reads]
      exact notDelete
    rcases Result.map_eq_ok.1 succeeds with ⟨merged, merges, rfl⟩
    exact .merges notAsked rfl merges

theorem applied_of_withoutTarget
    {path : Path}
    {existing : Option Node}
    {patch : List (String × Node)}
    {result : Option (List (String × Node))}
    (succeeds : withoutTarget patch path = .ok result) :
    Applied path existing patch (result.map .mapping) := by
  rw [withoutTarget] at succeeds
  split at succeeds
  · cases succeeds
  · rename_i reads
    cases succeeds
    exact .deletes ((Directive.deletes_of_read reads).2 rfl)
  · rename_i directive notDelete reads
    have notAsked : Directive.deletes patch = false := by
      rw [← Bool.not_eq_true, Directive.deletes_of_read reads]
      exact notDelete
    cases succeeds
    rw [Directive.stripMapping, if_neg (by rw [notAsked]; decide)]
    exact .replaces notAsked

theorem applied_of_strip
    (path : Path)
    (existing : Option Node)
    {node : Node}
    {patch : List (String × Node)}
    (isMapping : node.content = .mapping patch) :
    Applied path existing patch (Directive.strip node) := by
  rw [Directive.strip_of_mapping isMapping]
  cases asked : Directive.deletes patch with
  | true => exact .deletes asked
  | false => exact .replaces asked

/-! ## A field of a patch -/

theorem mergeNode_content
    (field : String)
    (existing : Option Node)
    (path : Path)
    (node : Node) :
    mergeNode field existing path node.content = mergeNode field existing path node :=
  Node.read_content (fun _ => by rw [mergeNode]) (fun _ _ => by rw [mergeNode]) node

theorem mergeNode_of_scalar
    {node : Node}
    {leaf : Scalar}
    (isScalar : node.content = .scalar leaf)
    (field : String)
    (existing : Option Node)
    (path : Path) :
    mergeNode field existing path node = .ok (some (.scalar leaf)) := by
  rw [← mergeNode_content, isScalar, mergeNode]

/-- The merge of a mapping of a patch with what the target has in its place. -/
def mergeOnto
    (existing : Option Node)
    (patch : List (String × Node))
    (path : Path) :
    Except PatchError (Option (List (String × Node))) :=
  match existing with
  | some (.mapping target) => mergeMapping target patch path
  | _ => withoutTarget patch path

/-- A mapping that asks to be merged is merged into a mapping field by field. -/
theorem mergeOnto_of_merges
    {patch : List (String × Node)}
    (merges : Directive.Merges patch)
    (target : List (String × Node))
    (path : Path) :
    mergeOnto (some (.mapping target)) patch path =
      (mergeFields target path target patch).map some := by
  rw [mergeOnto, mergeMapping, byDirective]
  rcases merges.read path with reads | reads <;> rw [reads]

/-- A mapping without a directive is new content where the target has no mapping. -/
theorem mergeOnto_of_noMapping
    {patch : List (String × Node)}
    (noDirective : Fields.get? Directive.key patch = none)
    {existing : Option Node}
    (noMapping : ∀ target, existing ≠ some (.mapping target))
    (path : Path) :
    mergeOnto existing patch path = .ok (some (Directive.stripFields patch)) := by
  unfold mergeOnto
  split
  · exact absurd rfl (noMapping _)
  · rw [withoutTarget, Directive.read_of_absent noDirective]
    simp [Directive.stripMapping, Directive.deletes_of_absent noDirective]

/-- A mapping of a patch is merged in the same way in every field. -/
theorem mergeNode_of_mapping
    {node : Node}
    {patch : List (String × Node)}
    (isMapping : node.content = .mapping patch)
    (field : String)
    (existing : Option Node)
    (path : Path) :
    mergeNode field existing path node =
      (mergeOnto existing patch path).map (Option.map .mapping) := by
  rw [← mergeNode_content, isMapping, mergeNode.eq_def]
  cases existing with
  | none => rfl
  | some content => cases content <;> rfl

/-- A document is merged with a patch that is a mapping as the content of a field is. -/
theorem apply_of_mapping
    {patch : Node}
    {fields : List (String × Node)}
    (isMapping : patch.content = .mapping fields)
    (target : Node) :
    apply target patch = (mergeOnto (some target.content) fields []).map (Option.map .mapping) := by
  rw [apply, isMapping]
  cases target.content <;> rfl

theorem apply_eq_mergeNode
    {patch : Node}
    {fields : List (String × Node)}
    (isMapping : patch.content = .mapping fields)
    (target : Node) :
    apply target patch = mergeNode "" (some target.content) [] patch := by
  rw [apply_of_mapping isMapping, mergeNode_of_mapping isMapping]

/-- A patch that is nothing changes nothing. -/
theorem apply_of_null
    {patch : Node}
    (isNull : patch.isNull = true)
    (target : Node) :
    apply target patch = .ok (some target) := by
  rcases Node.isNull_eq_true.1 isNull with ⟨leaf, isScalar, leafIsNull⟩
  have contentIsNull : (Node.scalar leaf).isNull = true := leafIsNull
  rw [apply, isScalar]
  cases target.content <;> simp [contentIsNull]

/-- A patch that is no mapping takes the place of what is no mapping. -/
theorem apply_of_noMapping
    {patch : Node}
    (noMapping : ∀ fields, patch.content ≠ .mapping fields)
    (notNull : patch.isNull = false)
    (target : Node) :
    apply target patch =
      match target.content with
      | .mapping _ => .error (.notAMapping patch.content.kind)
      | _ => .ok (Directive.strip patch) := by
  have contentNotNull : patch.content.isNull = false := by
    rw [Node.isNull, Node.content_content]
    exact notNull
  rw [apply]
  rcases Node.content_cases patch with ⟨fields, isMapping⟩ | ⟨items, isSequence⟩ | ⟨leaf, isScalar⟩
  · exact absurd isMapping (noMapping fields)
  · rw [isSequence] at contentNotNull ⊢
    cases target.content <;> simp [contentNotNull]
  · rw [isScalar] at contentNotNull ⊢
    cases target.content <;> simp [contentNotNull]

theorem applied_of_mergeOnto
    {existing : Option Node}
    {patch : List (String × Node)}
    {path : Path}
    {result : Option (List (String × Node))}
    (succeeds : mergeOnto existing patch path = .ok result) :
    Applied path existing patch (result.map .mapping) := by
  unfold mergeOnto at succeeds
  split at succeeds
  · exact applied_of_byDirective succeeds
  · exact applied_of_withoutTarget succeeds

theorem applied_of_mergeNode
    {field : String}
    {existing result : Option Node}
    {path : Path}
    {node : Node}
    {patch : List (String × Node)}
    (isMapping : node.content = .mapping patch)
    (succeeds : mergeNode field existing path node = .ok result) :
    Applied path existing patch result := by
  rw [mergeNode_of_mapping isMapping] at succeeds
  rcases Result.map_eq_ok.1 succeeds with ⟨merged, merges, rfl⟩
  exact applied_of_mergeOnto merges

/-- What a merge of fields makes of a field with a name. -/
inductive FieldMerges (path : Path) (name : String) (target : Option Node) :
    Option Node → Option Node → Prop where
  /-- The patch does not mention the field. -/
  | stays : FieldMerges path name target none target
  | clears
      {node : Node}
      (isNull : node.isNull = true) :
      FieldMerges path name target (some node) none
  | merges
      {node : Node}
      {result : Option Node}
      (notNull : node.isNull = false)
      (merges :
        mergeNode name (target.map Node.content) (path.push (.field name)) node = .ok result) :
      FieldMerges path name target (some node) result

/-- What becomes of a field with a name, given what the target and the patch have there. -/
inductive FieldBecomes (path : Path) (name : String) (target : Option Node) :
    Option Node → Option Node → Prop where
  /-- The patch does not mention the field. -/
  | stays : FieldBecomes path name target none target
  /-- The patch does not mention the field of a mapping whose place it takes. -/
  | leaves : FieldBecomes path name target none none
  | clears
      {node : Node}
      (isNull : node.isNull = true) :
      FieldBecomes path name target (some node) none
  | strips
      (node : Node) :
      FieldBecomes path name target (some node) (Directive.strip node)
  | merges
      {node : Node}
      {result : Option Node}
      (notNull : node.isNull = false)
      (merges :
        mergeNode name (target.map Node.content) (path.push (.field name)) node = .ok result) :
      FieldBecomes path name target (some node) result

theorem FieldMerges.fieldBecomes
    {path : Path}
    {name : String}
    {target patch result : Option Node}
    (fieldMerges : FieldMerges path name target patch result) :
    FieldBecomes path name target patch result := by
  cases fieldMerges with
  | stays => exact .stays
  | clears isNull => exact .clears isNull
  | merges notNull merges => exact .merges notNull merges

theorem get?_putField_same
    {merged : List (String × Node)}
    (distinct : Fields.Distinct merged)
    (name : String)
    (result : Option Node) :
    Fields.get? name (putField name merged result) = result := by
  cases result with
  | none => exact Fields.get?_remove_same distinct name
  | some node => exact Fields.get?_set_same name node merged

theorem get?_putField_other
    {name other : String}
    (different : other ≠ name)
    (merged : List (String × Node))
    (result : Option Node) :
    Fields.get? other (putField name merged result) = Fields.get? other merged := by
  cases result with
  | none => exact Fields.get?_remove_other different merged
  | some node => exact Fields.get?_set_other different node merged

theorem distinct_putField
    {merged : List (String × Node)}
    (distinct : Fields.Distinct merged)
    (name : String)
    (result : Option Node) :
    Fields.Distinct (putField name merged result) := by
  cases result with
  | none => exact distinct.remove name
  | some node => exact distinct.set name node

theorem distinct_mergeFields
    {target patch : List (String × Node)}
    {path : Path} :
    ∀ {merged result : List (String × Node)},
      mergeFields target path merged patch = .ok result →
      Fields.Distinct merged →
      Fields.Distinct result := by
  induction patch with
  | nil =>
      intro merged result succeeds distinct
      rw [mergeFields] at succeeds
      cases succeeds
      exact distinct
  | cons head rest inductionHypothesis =>
      intro merged result succeeds distinct
      rcases head with ⟨name, node⟩
      rw [mergeFields] at succeeds
      split at succeeds
      · exact inductionHypothesis succeeds distinct
      · split at succeeds
        · exact inductionHypothesis succeeds (distinct.remove name)
        · split at succeeds
          · cases succeeds
          · exact inductionHypothesis succeeds (distinct_putField distinct name _)

/-- The fields of a patch do not mention a name, or only as a key that belongs to the patch. -/
def LeavesAlone (patch : List (String × Node)) (name : String) : Prop :=
  Fields.get? name patch = none ∨ Directive.isKey name = true

theorem LeavesAlone.tail
    {other name : String}
    {node : Node}
    {rest : List (String × Node)}
    (leaves : LeavesAlone ((other, node) :: rest) name) :
    LeavesAlone rest name := by
  rcases leaves with absent | isKey
  · rw [Fields.get?] at absent
    split at absent
    · cases absent
    · exact Or.inl absent
  · exact Or.inr isKey

theorem LeavesAlone.isKey_or_ne
    {other name : String}
    {node : Node}
    {rest : List (String × Node)}
    (leaves : LeavesAlone ((other, node) :: rest) name) :
    Directive.isKey other = true ∨ name ≠ other := by
  by_cases same : name = other
  · subst same
    rcases leaves with absent | isKey
    · rw [Fields.get?_cons_same] at absent
      cases absent
    · exact Or.inl isKey
  · exact Or.inr same

/-- A field that the rest of a patch leaves alone is what it was. -/
theorem get?_mergeFields_of_leavesAlone
    {target patch : List (String × Node)}
    {path : Path}
    {name : String} :
    ∀ {merged result : List (String × Node)},
      LeavesAlone patch name →
      mergeFields target path merged patch = .ok result →
      Fields.get? name result = Fields.get? name merged := by
  induction patch with
  | nil =>
      intro merged result _ succeeds
      rw [mergeFields] at succeeds
      cases succeeds
      rfl
  | cons head rest inductionHypothesis =>
      intro merged result leaves succeeds
      rcases head with ⟨other, node⟩
      have stays :
          ∀ {next : List (String × Node)},
            mergeFields target path next rest = .ok result →
            Fields.get? name result = Fields.get? name next :=
        inductionHypothesis leaves.tail
      rw [mergeFields] at succeeds
      split at succeeds
      · exact stays succeeds
      · rename_i noKey
        have different : name ≠ other := leaves.isKey_or_ne.resolve_left noKey
        split at succeeds
        · rw [stays succeeds, Fields.get?_remove_other different]
        · split at succeeds
          · cases succeeds
          · rw [stays succeeds, get?_putField_other different]

/-- A merge of fields makes of each field what its patch asks for. -/
theorem fieldMerges_of_mergeFields
    {target patch : List (String × Node)}
    {path : Path}
    {name : String}
    (noKey : Directive.isKey name = false)
    (patchDistinct : Fields.Distinct patch) :
    ∀ {merged result : List (String × Node)},
      mergeFields target path merged patch = .ok result →
      Fields.Distinct merged →
      Fields.get? name merged = Fields.get? name target →
      FieldMerges path name (Fields.get? name target) (Fields.get? name patch)
        (Fields.get? name result) := by
  unfold Fields.Distinct at patchDistinct
  induction patch with
  | nil =>
      intro merged result succeeds _ untouched
      rw [mergeFields] at succeeds
      cases succeeds
      rw [untouched]
      exact .stays
  | cons head rest inductionHypothesis =>
      intro merged result succeeds distinct untouched
      rcases head with ⟨other, node⟩
      rcases List.nodup_cons.1 patchDistinct with ⟨headIsNew, restDistinct⟩
      rw [mergeFields] at succeeds
      by_cases isHead : other = name
      · subst isHead
        have absent : Fields.get? other rest = none := Fields.get?_eq_none.2 headIsNew
        rw [if_neg (by rw [noKey]; decide)] at succeeds
        rw [Fields.get?_cons_same]
        split at succeeds
        · rename_i isNull
          rw [get?_mergeFields_of_leavesAlone (.inl absent) succeeds,
            Fields.get?_remove_same distinct]
          exact .clears isNull
        · rename_i notNull
          split at succeeds
          · cases succeeds
          · rename_i field merges
            rw [get?_mergeFields_of_leavesAlone (.inl absent) succeeds, get?_putField_same distinct]
            exact .merges (by simpa using notNull) merges
      · rw [Fields.get?_cons_other isHead]
        split at succeeds
        · exact inductionHypothesis restDistinct succeeds distinct untouched
        · split at succeeds
          · apply inductionHypothesis restDistinct succeeds (distinct.remove other)
            rw [Fields.get?_remove_other (Ne.symm isHead), untouched]
          · split at succeeds
            · cases succeeds
            · apply inductionHypothesis restDistinct succeeds (distinct_putField distinct _ _)
              rw [get?_putField_other (Ne.symm isHead), untouched]

/-- A field of a merge was there before, or it is what became of one of the patch. -/
theorem mem_mergeFields
    {target patch : List (String × Node)}
    {path : Path}
    {field : String × Node} :
    ∀ {merged result : List (String × Node)},
      mergeFields target path merged patch = .ok result →
      field ∈ result →
      field ∈ merged ∨
        ∃ node existing,
          (field.1, node) ∈ patch ∧
            mergeNode field.1 existing (path.push (.field field.1)) node =
              .ok (some field.2) := by
  induction patch with
  | nil =>
      intro merged result succeeds member
      rw [mergeFields] at succeeds
      cases succeeds
      exact Or.inl member
  | cons head rest inductionHypothesis =>
      intro merged result succeeds member
      rcases head with ⟨name, node⟩
      have fromRest :
          ∀ {next : List (String × Node)},
            mergeFields target path next rest = .ok result →
            field ∈ next ∨
              ∃ found existing,
                (field.1, found) ∈ (name, node) :: rest ∧
                  mergeNode field.1 existing (path.push (.field field.1)) found =
                    .ok (some field.2) := by
        intro next mergesRest
        rcases inductionHypothesis mergesRest member with inNext | ⟨found, existing, inRest, merges⟩
        · exact Or.inl inNext
        · exact Or.inr ⟨found, existing, List.mem_cons_of_mem _ inRest, merges⟩
      rw [mergeFields] at succeeds
      split at succeeds
      · exact fromRest succeeds
      · split at succeeds
        · rcases fromRest succeeds with inNext | isMerged
          · exact Or.inl ((Fields.remove_sublist name merged).subset inNext)
          · exact Or.inr isMerged
        · split at succeeds
          · cases succeeds
          · rename_i becomes merges
            rcases fromRest succeeds with inNext | isMerged
            · cases becomes with
              | none => exact Or.inl ((Fields.remove_sublist name merged).subset inNext)
              | some result =>
                  rcases Fields.mem_set inNext with rfl | inMerged
                  · exact Or.inr ⟨node, _, List.mem_cons_self, merges⟩
                  · exact Or.inl inMerged
            · exact Or.inr isMerged

/-- The field of an optional content. -/
def fieldOf (existing : Option Node) (name : String) : Option Node :=
  (existing.bind Node.mapping?).bind (Fields.get? name)

/-- Each field of what comes out is what becomes of the fields with its name. -/
theorem Applied.fieldBecomes
    {path : Path}
    {existing : Option Node}
    {patch result : List (String × Node)}
    (applied : Applied path existing patch (some (.mapping result)))
    (existingWellFormed : ∀ content, existing = some content → content.WellFormed)
    (patchDistinct : Fields.Distinct patch)
    {name : String}
    (noKey : Directive.isKey name = false) :
    FieldBecomes path name (fieldOf existing name) (Fields.get? name patch)
      (Fields.get? name result) := by
  cases applied with
  | replaces notAsked =>
      rw [Directive.get?_stripFields patchDistinct noKey]
      cases Fields.get? name patch with
      | none => exact .leaves
      | some node => exact .strips node
  | merges notAsked isMapping merges =>
      rename_i target
      subst isMapping
      have targetDistinct : Fields.Distinct target :=
        (Node.wellFormed_mapping.1 (existingWellFormed _ rfl)).distinct
      exact (fieldMerges_of_mergeFields noKey patchDistinct merges targetDistinct rfl).fieldBecomes

end StrategicPatch

end Manifest
