import Manifest.Proofs.Patch.Strategic

/-!
# What a merge leaves alone

A merge of two mappings touches only the fields that the patch names.  All others keep
their contents, and the fields of the target that are left keep their order; those that
are new follow them in the order of the patch.

This holds at the root, and at every list of names down to which both documents have
mappings that are merged.
-/

namespace Manifest

namespace StrategicPatch

/-! ## The order of names -/

/--
Names are those that are left of the first ones, in their order, and behind them new
ones in the order in which they were done.  A first one that was not done is still there.
-/
structure Arranged (first done names : List String) : Prop where
  parts :
    ∃ kept added,
      names = kept ++ added ∧
        kept.Sublist first ∧ added.Sublist done ∧ ∀ name ∈ added, name ∉ first
  stays : ∀ name ∈ first, name ∉ done → name ∈ names

namespace Arranged

variable {first done names : List String}

theorem refl (first done : List String) : Arranged first done first where
  parts := ⟨first, [], by simp⟩
  stays := fun _ member _ => member

theorem done_append
    (arranged : Arranged first done names)
    (name : String) :
    Arranged first (done ++ [name]) names := by
  rcases arranged with ⟨⟨kept, added, same, isKept, isAdded, isNew⟩, stays⟩
  refine ⟨⟨kept, added, same, isKept, isAdded.trans (List.sublist_append_left _ _), isNew⟩, ?_⟩
  intro other member notDone
  exact stays other member fun isDone => notDone (List.mem_append_left _ isDone)

theorem erase
    (arranged : Arranged first done names)
    (name : String) :
    Arranged first (done ++ [name]) (names.erase name) := by
  rcases arranged.done_append name with ⟨⟨kept, added, rfl, isKept, isAdded, isNew⟩, stays⟩
  constructor
  · rw [List.erase_append]
    split
    · exact ⟨kept.erase name, added, rfl, List.erase_sublist.trans isKept, isAdded, isNew⟩
    · refine ⟨kept, added.erase name, rfl, isKept, List.erase_sublist.trans isAdded, ?_⟩
      intro other member
      exact isNew other (List.mem_of_mem_erase member)
  · intro other member notDone
    have different : other ≠ name := by
      rintro rfl
      exact notDone (List.mem_append_right done (List.mem_singleton_self other))
    exact (List.mem_erase_of_ne different).2 (stays other member notDone)

/-- A name that was not done yet and is not there is none of the first ones. -/
theorem append
    (arranged : Arranged first done names)
    {name : String}
    (notDone : name ∉ done)
    (absent : name ∉ names) :
    Arranged first (done ++ [name]) (names ++ [name]) := by
  rcases arranged with ⟨⟨kept, added, rfl, isKept, isAdded, isNew⟩, stays⟩
  have notFirst : name ∉ first := fun member => absent (stays name member notDone)
  constructor
  · refine ⟨kept, added ++ [name], List.append_assoc .., isKept, ?_, ?_⟩
    · exact isAdded.append (List.Sublist.refl _)
    · intro other member
      rcases List.mem_append.1 member with old | new
      · exact isNew other old
      · rw [List.mem_singleton.1 new]
        exact notFirst
  · intro other member otherNotDone
    have staysThere := stays other member fun isDone =>
      otherNotDone (List.mem_append_left _ isDone)
    exact List.mem_append_left _ staysThere

/-- Putting a field that was not put yet keeps the names arranged. -/
theorem putField
    {merged : List (String × Node)}
    (arranged : Arranged first done (Fields.names merged))
    {name : String}
    (notDone : name ∉ done)
    (result : Option Node) :
    Arranged first (done ++ [name])
      (Fields.names (StrategicPatch.putField name merged result)) := by
  cases result with
  | none =>
      rw [StrategicPatch.putField, Fields.names_remove]
      exact arranged.erase name
  | some node =>
      rw [StrategicPatch.putField, Fields.names_set]
      split
      · exact arranged.done_append name
      · rename_i absent
        exact arranged.append notDone absent

end Arranged

theorem arranged_mergeFields
    {target patch : List (String × Node)}
    {path : Path}
    {first : List String} :
    ∀ {done : List String} {merged result : List (String × Node)},
      (done ++ Fields.names patch).Nodup →
      Arranged first done (Fields.names merged) →
      mergeFields target path merged patch = .ok result →
      Arranged first (done ++ Fields.names patch) (Fields.names result) := by
  induction patch with
  | nil =>
      intro done merged result _ arranged merges
      rw [mergeFields] at merges
      cases merges
      rw [Fields.names, List.map_nil, List.append_nil]
      exact arranged
  | cons head rest inductionHypothesis =>
      intro done merged result distinct arranged merges
      rcases head with ⟨name, node⟩
      -- Each step does one name more, whether it skips, removes or sets the field.
      have sameDone :
          done ++ Fields.names ((name, node) :: rest) = done ++ [name] ++ Fields.names rest :=
        List.append_cons done name (Fields.names rest)
      rw [sameDone] at distinct ⊢
      have notDone : name ∉ done := by
        intro isDone
        have firstDistinct := (List.nodup_append.1 distinct).1
        exact (List.nodup_append.1 firstDistinct).2.2 name isDone name
          (List.mem_singleton_self name) rfl
      rw [mergeFields] at merges
      split at merges
      · exact inductionHypothesis distinct (arranged.done_append name) merges
      · split at merges
        · exact inductionHypothesis distinct (arranged.putField notDone none) merges
        · split at merges
          · cases merges
          · exact inductionHypothesis distinct (arranged.putField notDone _) merges

/-! ## Merged mappings -/

/-- What comes out of a merge of mappings keeps what the patch leaves alone, and its order. -/
structure Frame (target patch result : List (String × Node)) : Prop where
  untouched :
    ∀ name, LeavesAlone patch name → Fields.get? name result = Fields.get? name target
  arranged : Arranged (Fields.names target) (Fields.names patch) (Fields.names result)

namespace Frame

theorem refl (target patch : List (String × Node)) : Frame target patch target where
  untouched := fun _ _ => rfl
  arranged := .refl _ _

end Frame

theorem frame_of_mergeFields
    {target patch result : List (String × Node)}
    {path : Path}
    (patchDistinct : Fields.Distinct patch)
    (merges : mergeFields target path target patch = .ok result) :
    Frame target patch result where
  untouched := fun _ leaves => get?_mergeFields_of_leavesAlone leaves merges
  arranged := by
    have noneDone : ([] ++ Fields.names patch).Nodup := patchDistinct
    exact arranged_mergeFields noneDone (.refl _ []) merges

/-! ## Mappings at a list of names -/

/-- The fields of the mapping at a list of names. -/
def mappingAt? : List String → Node → Option (List (String × Node))
  | [], node => node.mapping?
  | name :: rest, node => (node.mapping?.bind (Fields.get? name)).bind (mappingAt? rest)

theorem mappingAt?_cons
    {name : String}
    {rest : List String}
    {node : Node}
    {fields : List (String × Node)} :
    mappingAt? (name :: rest) node = some fields ↔
      ∃ own child,
        node.content = .mapping own ∧
          Fields.get? name own = some child ∧ mappingAt? rest child = some fields := by
  simp only [mappingAt?, Option.bind_eq_some_iff, Node.mapping?_eq_some]
  constructor
  · rintro ⟨child, ⟨own, isMapping, found⟩, below⟩
    exact ⟨own, child, isMapping, found, below⟩
  · rintro ⟨own, child, isMapping, found, below⟩
    exact ⟨child, ⟨own, isMapping, found⟩, below⟩

/-- Above a mapping there are only mappings. -/
theorem isMapping_of_mappingAt?
    {names : List String}
    {node : Node}
    {fields : List (String × Node)}
    (below : mappingAt? names node = some fields) :
    ∃ own, node.content = .mapping own := by
  cases names with
  | nil => exact ⟨fields, Node.mapping?_eq_some.1 below⟩
  | cons name rest =>
      rcases mappingAt?_cons.1 below with ⟨own, _, isMapping, _, _⟩
      exact ⟨own, isMapping⟩

/-- No mapping along a list of names asks for deletion or for replacement. -/
def KeepsTarget (names : List String) (patch : Node) : Prop :=
  ∀ before,
    before <+: names →
      ∀ fields,
        mappingAt? before patch = some fields →
          Directive.text? fields ≠ some "delete" ∧ Directive.text? fields ≠ some "replace"

theorem KeepsTarget.head
    {names : List String}
    {patch : Node}
    {fields : List (String × Node)}
    (keeps : KeepsTarget names patch)
    (isMapping : patch.content = .mapping fields) :
    Directive.text? fields ≠ some "delete" ∧ Directive.text? fields ≠ some "replace" :=
  keeps [] List.nil_prefix fields (Node.mapping?_eq_some.2 isMapping)

theorem KeepsTarget.tail
    {name : String}
    {rest : List String}
    {patch child : Node}
    {fields : List (String × Node)}
    (keeps : KeepsTarget (name :: rest) patch)
    (isMapping : patch.content = .mapping fields)
    (found : Fields.get? name fields = some child) :
    KeepsTarget rest child := by
  intro before isPrefix below belowChild
  apply keeps (name :: before) ((List.prefix_cons_inj name).2 isPrefix) below
  exact mappingAt?_cons.2 ⟨fields, child, isMapping, found, belowChild⟩

/-- A mapping that asks for nothing else is merged into a mapping field by field. -/
theorem mergeFields_of_mergeNode
    {field : String}
    {path : Path}
    {existing node : Node}
    {result : Option Node}
    {target patch : List (String × Node)}
    (targetMapping : existing.content = .mapping target)
    (patchMapping : node.content = .mapping patch)
    (notDelete : Directive.text? patch ≠ some "delete")
    (notReplace : Directive.text? patch ≠ some "replace")
    (succeeds : mergeNode field (some existing.content) path node = .ok result) :
    ∃ merged,
      result = some (.mapping merged) ∧ mergeFields target path target patch = .ok merged := by
  rw [mergeNode_of_mapping patchMapping, targetMapping] at succeeds
  rcases Result.map_eq_ok.1 succeeds with ⟨_, mergesOnto, rfl⟩
  cases reads : Directive.read patch path with
  | error error =>
      rw [mergeOnto, mergeMapping, byDirective, reads] at mergesOnto
      cases mergesOnto
  | ok directive =>
      rw [mergeOnto_of_merges (Directive.merges_of_texts reads notDelete notReplace)] at mergesOnto
      rcases Result.map_eq_ok.1 mergesOnto with ⟨merged, mergesFields, rfl⟩
      exact ⟨merged, rfl, mergesFields⟩

/-- A field that both mappings have is merged, unless it is nothing in the patch. -/
theorem mergeNode_of_get?
    {target patch merged : List (String × Node)}
    {path : Path}
    {name : String}
    {child node : Node}
    (targetDistinct : Fields.Distinct target)
    (patchDistinct : Fields.Distinct patch)
    (merges : mergeFields target path target patch = .ok merged)
    (noKey : Directive.isKey name = false)
    (targetFound : Fields.get? name target = some child)
    (patchFound : Fields.get? name patch = some node)
    (notNull : node.isNull = false) :
    mergeNode name (some child.content) (path.push (.field name)) node =
      .ok (Fields.get? name merged) := by
  have becomes := fieldMerges_of_mergeFields noKey patchDistinct merges targetDistinct rfl
  rw [targetFound, patchFound] at becomes
  generalize Fields.get? name merged = after at becomes ⊢
  cases becomes with
  | clears isNull => simp [notNull] at isNull
  | merges _ mergesChild => exact mergesChild

/--
Where both documents hold mappings, and the patch asks for none of them to be deleted or
replaced, there is a mapping in what a merge makes of them, and it has the frame of a
merge.  The induction is on the names; a name that belongs to the patch is not followed.
-/
theorem frame_mergeNode
    {names : List String}
    {target patch : List (String × Node)} :
    ∀ {field : String} {path : Path} {existing node : Node} {result : Option Node},
      existing.WellFormed →
      node.WellFormed →
      mappingAt? names existing = some target →
      mappingAt? names node = some patch →
      KeepsTarget names node →
      mergeNode field (some existing.content) path node = .ok result →
      ∃ after fields,
        result = some after ∧ mappingAt? names after = some fields ∧
          Frame target patch fields := by
  induction names with
  | nil =>
      intro field path existing node result _ isNode targetAt patchAt keeps merges
      have targetMapping := Node.mapping?_eq_some.1 targetAt
      have patchMapping := Node.mapping?_eq_some.1 patchAt
      rcases keeps.head patchMapping with ⟨notDelete, notReplace⟩
      rcases mergeFields_of_mergeNode targetMapping patchMapping notDelete notReplace merges with
        ⟨merged, rfl, mergesFields⟩
      have patchDistinct := (Node.wellFormed_mapping.1 (patchMapping ▸ isNode.content)).distinct
      exact ⟨_, merged, rfl, rfl, frame_of_mergeFields patchDistinct mergesFields⟩
  | cons name rest inductionHypothesis =>
      intro field path existing node result isExisting isNode targetAt patchAt keeps merges
      rcases mappingAt?_cons.1 targetAt with
        ⟨targetFields, targetChild, targetMapping, targetFound, targetBelow⟩
      rcases mappingAt?_cons.1 patchAt with
        ⟨patchFields, patchChild, patchMapping, patchFound, patchBelow⟩
      rcases keeps.head patchMapping with ⟨notDelete, notReplace⟩
      rcases mergeFields_of_mergeNode targetMapping patchMapping notDelete notReplace merges with
        ⟨merged, rfl, mergesFields⟩
      have isTarget := Node.wellFormed_mapping.1 (targetMapping ▸ isExisting.content)
      have isPatch := Node.wellFormed_mapping.1 (patchMapping ▸ isNode.content)
      by_cases isKey : Directive.isKey name = true
      · have found : Fields.get? name merged = some targetChild := by
          rw [get?_mergeFields_of_leavesAlone (.inr isKey) mergesFields, targetFound]
        exact ⟨_, target, rfl, mappingAt?_cons.2 ⟨merged, targetChild, rfl, found, targetBelow⟩,
          .refl target patch⟩
      · rcases isMapping_of_mappingAt? patchBelow with ⟨own, isMapping⟩
        have notNull : patchChild.isNull = false := by
          simp [Node.isNull, isMapping]
        have mergesChild :=
          mergeNode_of_get? isTarget.distinct isPatch.distinct mergesFields
            (Bool.eq_false_iff.2 isKey) targetFound patchFound notNull
        rcases inductionHypothesis (isTarget.get? targetFound) (isPatch.get? patchFound)
            targetBelow patchBelow (keeps.tail patchMapping patchFound) mergesChild with
          ⟨child, fields, found, below, frame⟩
        exact ⟨_, fields, rfl, mappingAt?_cons.2 ⟨merged, child, rfl, found, below⟩, frame⟩

/-! ## Patched documents -/

/--
At every list of names along which both documents hold mappings that are merged, the
patched document keeps what the patch leaves alone.  The fields that are left are in the
order of the target, and new ones follow in the order of the patch.
-/
theorem frame_apply
    {target patch result : Node}
    {names : List String}
    {targetFields patchFields : List (String × Node)}
    (targetWellFormed : target.WellFormed)
    (patchWellFormed : patch.WellFormed)
    (applies : apply target patch = .ok (some result))
    (targetAt : mappingAt? names target = some targetFields)
    (patchAt : mappingAt? names patch = some patchFields)
    (keeps : KeepsTarget names patch) :
    ∃ fields,
      mappingAt? names result = some fields ∧ Frame targetFields patchFields fields := by
  rcases isMapping_of_mappingAt? patchAt with ⟨own, isMapping⟩
  have isContent : mappingAt? names target.content = mappingAt? names target := by
    cases names <;> simp [mappingAt?, Node.mapping?]
  rw [apply_eq_mergeNode isMapping, ← Node.content_content] at applies
  rcases frame_mergeNode targetWellFormed.content patchWellFormed (isContent.trans targetAt)
      patchAt keeps applies with
    ⟨_, fields, ⟨⟩, below, frame⟩
  exact ⟨fields, below, frame⟩

/-- The fields of a section of a document. -/
def rolledOut : List (String × Node) :=
  [("paused", .ofText "no"), ("replicas", .ofText "2"),
    ("strategy", .mapping [("type", .ofText "Recreate")]), ("revisions", .ofText "3")]

/-- Fields of a patch: one is deleted, one merged, one replaced, and two are new. -/
def rollingOut : List (String × Node) :=
  [("minimum", .ofText "5"), ("revisions", .ofText "4"),
    ("strategy", .mapping [("limit", .ofText "1")]), ("$retainKeys", .null),
    ("paused", .null), ("deadline", .ofText "60")]

def rolled : Node :=
  .mapping [("kind", .ofText "Deployment"), ("spec", .mapping rolledOut)]

def rolling : Node :=
  .mapping [("spec", .mapping rollingOut)]

theorem keepsTarget_rolling :
    KeepsTarget ["spec"] rolling := by
  intro before isPrefix fields below
  rcases before with _ | ⟨name, rest⟩
  · cases below
    decide
  · rcases List.cons_prefix_cons.1 isPrefix with ⟨rfl, restPrefix⟩
    rw [List.prefix_nil.1 restPrefix] at below
    cases below
    decide

/-- What is left of a section is in its place, and what is new follows as in the patch. -/
theorem frame_apply_rolled :
    ∃ result fields,
      apply rolled rolling = .ok (some result) ∧
        mappingAt? ["spec"] result = some fields ∧
        Fields.names fields = ["replicas", "strategy", "revisions", "minimum", "deadline"] ∧
        Frame rolledOut rollingOut fields := by
  have targetWellFormed : rolled.WellFormed := by
    simp [rolled, rolledOut, Fields.names]
  have patchWellFormed : rolling.WellFormed := by
    have isNull : Node.null.WellFormed := .scalar _
    simp [rolling, rollingOut, isNull, Fields.names]
  have targetAt : mappingAt? ["spec"] rolled = some rolledOut := rfl
  have patchAt : mappingAt? ["spec"] rolling = some rollingOut := rfl
  rcases frame_apply targetWellFormed patchWellFormed rfl targetAt patchAt
      keepsTarget_rolling with
    ⟨fields, ⟨⟩, frame⟩
  exact ⟨_, _, rfl, rfl, rfl, frame⟩

end StrategicPatch

end Manifest
