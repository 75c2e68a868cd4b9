import Manifest.Proofs.Patch.Elements

/-!
# Directives that are not known

A patch is refused because of a directive where a merge meets a mapping with a
directive that is not known: at the root, in the fields of mappings that find a mapping
in the target, and in the elements of lists that find a list.

New content is not looked at in this way.  So a mapping as a target always meets the
root of a patch, and the mappings in its fields if the root is merged; whether one that
stands deeper is met depends on what the target has above it.
-/

namespace Manifest.StrategicPatch

/-! ## Where a merge fails -/

/-- A mapping is refused for its own directive, or in the merge that it asks for. -/
theorem mergeOnto_eq_error
    {existing : Option Node}
    {patch : List (String × Node)}
    {path : Path}
    {error : PatchError}
    (fails : mergeOnto existing patch path = .error error) :
    Directive.read patch path = .error error ∨
      Directive.Merges patch ∧
        ∃ target,
          existing = some (.mapping target) ∧
            mergeFields target path target patch = .error error := by
  unfold mergeOnto at fails
  split at fails
  · rename_i target
    rw [mergeMapping, byDirective] at fails
    split at fails
    · rename_i readFails
      cases fails
      exact Or.inl readFails
    · cases fails
    · cases fails
    · rename_i directive notDelete notReplace reads
      exact Or.inr ⟨Directive.merges_of_read reads notDelete notReplace, target, rfl,
        Result.map_eq_error.1 fails⟩
  · rw [withoutTarget] at fails
    split at fails
    · rename_i readFails
      cases fails
      exact Or.inl readFails
    · cases fails
    · cases fails

/-- A node is refused as a mapping, or as a list that is merged element by element. -/
theorem mergeNode_eq_error
    {field : String}
    {existing : Option Node}
    {path : Path}
    {node : Node}
    {error : PatchError}
    (fails : mergeNode field existing path node = .error error) :
    (∃ patch, node.content = .mapping patch ∧ mergeOnto existing patch path = .error error) ∨
      ∃ items elements keys,
        node.content = .sequence items ∧
          existing = some (.sequence elements) ∧
            listMode field items = .byKeys keys ∧
              mergeElements keys path 0 elements items = .error error := by
  rcases Node.content_cases node with ⟨patch, isMapping⟩ | ⟨items, isSequence⟩ | ⟨leaf, isScalar⟩
  · rw [mergeNode_of_mapping isMapping, Result.map_eq_error] at fails
    exact Or.inl ⟨patch, isMapping, fails⟩
  · rw [mergeNode_of_sequence isSequence] at fails
    split at fails
    · rename_i elements
      rw [Result.map_eq_error, mergeList] at fails
      split at fails
      · cases fails
      · rename_i keys byKeys
        exact Or.inr ⟨items, elements, keys, isSequence, rfl, byKeys, fails⟩
    · cases fails
  · rw [mergeNode_of_scalar isScalar] at fails
    cases fails

/-- Fields are refused where one of them is, whatever those before it gave. -/
theorem mergeFields_eq_error
    {target patch : List (String × Node)}
    {path : Path}
    {error : PatchError} :
    ∀ {merged : List (String × Node)},
      mergeFields target path merged patch = .error error →
      ∃ name node,
        (name, node) ∈ patch ∧
          Directive.isKey name = false ∧
            mergeNode name ((Fields.get? name target).map Node.content)
              (path.push (.field name)) node = .error error := by
  induction patch with
  | nil =>
      intro merged fails
      cases fails
  | cons head rest inductionHypothesis =>
      intro merged fails
      rcases head with ⟨name, node⟩
      have fromRest :
          ∀ {next : List (String × Node)},
            mergeFields target path next rest = .error error →
            ∃ found child,
              (found, child) ∈ (name, node) :: rest ∧
                Directive.isKey found = false ∧
                  mergeNode found ((Fields.get? found target).map Node.content)
                    (path.push (.field found)) child = .error error := by
        intro next failsRest
        rcases inductionHypothesis failsRest with ⟨found, child, inRest, noKey, failsChild⟩
        exact ⟨found, child, List.mem_cons_of_mem _ inRest, noKey, failsChild⟩
      rw [mergeFields] at fails
      split at fails
      · exact fromRest fails
      · rename_i noKey
        split at fails
        · exact fromRest fails
        · split at fails
          · rename_i failsNode
            cases fails
            exact ⟨name, node, List.mem_cons_self, by simpa using noKey, failsNode⟩
          · exact fromRest fails

/-- A field that is refused has the fields refused, though one before it may be reported. -/
theorem mergeFields_of_refused
    {target patch : List (String × Node)}
    {path : Path}
    {name : String}
    {node : Node}
    {error : PatchError}
    (member : (name, node) ∈ patch)
    (noKey : Directive.isKey name = false)
    (notNull : node.isNull = false)
    (fails :
      mergeNode name ((Fields.get? name target).map Node.content)
        (path.push (.field name)) node = .error error) :
    ∀ merged, ∃ reported, mergeFields target path merged patch = .error reported := by
  induction patch with
  | nil => cases member
  | cons head rest inductionHypothesis =>
      intro merged
      rcases List.mem_cons.1 member with rfl | inRest
      · refine ⟨error, ?_⟩
        rw [mergeFields, fails]
        simp [noKey, notNull]
      · have failsRest := inductionHypothesis inRest
        rcases head with ⟨other, child⟩
        rw [mergeFields]
        split
        · exact failsRest _
        · split
          · exact failsRest _
          · split
            · exact ⟨_, rfl⟩
            · exact failsRest _

/-! ## What a merge meets -/

/--
A mapping that a merge of fields comes upon: its place, what the target has for it, and
its fields.
-/
inductive Part (target patch : List (String × Node)) (path : Path) :
    Path → Option Node → List (String × Node) → Prop where
  | field
      {name : String}
      {node : Node}
      {inner : List (String × Node)}
      (member : (name, node) ∈ patch)
      (noKey : Directive.isKey name = false)
      (isMapping : node.content = .mapping inner) :
      Part target patch path (path.push (.field name))
        ((Fields.get? name target).map Node.content) inner
  /-- An element of a list that is merged with the list that the elements before it left. -/
  | element
      {name : String}
      {node item : Node}
      {before after elements current : List Node}
      {keys : List String}
      {inner : List (String × Node)}
      (member : (name, node) ∈ patch)
      (noKey : Directive.isKey name = false)
      (isSequence : node.content = .sequence (before ++ item :: after))
      (hasElements : (Fields.get? name target).map Node.content = some (.sequence elements))
      (byKeys : listMode name (before ++ item :: after) = .byKeys keys)
      (mergesBefore :
        mergeElements keys (path.push (.field name)) 0 elements before = .ok current)
      (isMapping : item.content = .mapping inner) :
      Part target patch path ((path.push (.field name)).push (.index before.length))
        (counterpart? keys inner current) inner

/-- The merge of a mapping of a patch meets a directive that is not known, at a place. -/
inductive MeetsUnknown :
    Path → Option Node → List (String × Node) → Path → Prop where
  | here
      {path : Path}
      {existing : Option Node}
      {patch : List (String × Node)}
      (unknown : Directive.IsUnknown patch) :
      MeetsUnknown path existing patch path
  | inside
      {path place final : Path}
      {target patch inner : List (String × Node)}
      {existing : Option Node}
      (merges : Directive.Merges patch)
      (part : Part target patch path place existing inner)
      (meets : MeetsUnknown place existing inner final) :
      MeetsUnknown path (some (.mapping target)) patch final

theorem Part.sizeOf_lt
    {target patch inner : List (String × Node)}
    {path place : Path}
    {existing : Option Node}
    (part : Part target patch path place existing inner) :
    sizeOf inner < sizeOf patch := by
  cases part with
  | @field name node _ member noKey isMapping =>
      have inPatch := List.sizeOf_lt_of_mem member
      have inNode := Node.sizeOf_content_le node
      simp only [isMapping, Node.mapping.sizeOf_spec, Prod.mk.sizeOf_spec] at inPatch inNode
      omega
  | @element name node item before after _ _ _ _ member noKey isSequence hasElements byKeys
      mergesBefore isMapping =>
      have inPatch := List.sizeOf_lt_of_mem member
      have inNode := Node.sizeOf_content_le node
      have inItems : sizeOf item < sizeOf (before ++ item :: after) :=
        List.sizeOf_lt_of_mem (List.mem_append_right before List.mem_cons_self)
      have inItem := Node.sizeOf_content_le item
      simp only [isSequence, isMapping, Node.mapping.sizeOf_spec, Node.sequence.sizeOf_spec,
        Prod.mk.sizeOf_spec] at inPatch inNode inItem
      omega

/-- A merge of fields that fails does so in a mapping that it comes upon. -/
theorem part_of_mergeFields
    {target patch merged : List (String × Node)}
    {path : Path}
    {error : PatchError}
    (fails : mergeFields target path merged patch = .error error) :
    ∃ place existing inner,
      Part target patch path place existing inner ∧
        mergeOnto existing inner place = .error error := by
  rcases mergeFields_eq_error fails with ⟨name, node, member, noKey, failsNode⟩
  rcases mergeNode_eq_error failsNode with
    ⟨inner, isMapping, failsInner⟩ |
      ⟨items, elements, keys, isSequence, hasElements, byKeys, failsItems⟩
  · exact ⟨_, _, inner, .field member noKey isMapping, failsInner⟩
  · rcases mergeElements_eq_error failsItems with
      ⟨before, item, after, current, rfl, mergesBefore, failsItem⟩
    rcases mapping_of_mergeElement failsItem with ⟨inner, isMapping, failsInner⟩
    rw [Nat.zero_add] at failsInner
    exact ⟨_, _, inner,
      .element member noKey isSequence hasElements byKeys mergesBefore isMapping, failsInner⟩

/-- If a mapping that a merge of fields comes upon is refused, the merge fails. -/
theorem mergeFields_of_part
    {target patch inner : List (String × Node)}
    {path place : Path}
    {existing : Option Node}
    {error : PatchError}
    (part : Part target patch path place existing inner)
    (fails : mergeOnto existing inner place = .error error)
    (merged : List (String × Node)) :
    ∃ reported, mergeFields target path merged patch = .error reported := by
  cases part with
  | @field name node _ member noKey isMapping =>
      have notNull : node.isNull = false := by
        simp [Node.isNull, isMapping]
      have failsNode :
          mergeNode name ((Fields.get? name target).map Node.content) (path.push (.field name))
            node = .error error := by
        rw [mergeNode_of_mapping isMapping, fails]
        rfl
      exact mergeFields_of_refused member noKey notNull failsNode merged
  | @element name node item before after elements current keys _ member noKey isSequence
      hasElements byKeys mergesBefore isMapping =>
      have notNull : node.isNull = false := by
        simp [Node.isNull, isSequence]
      have failsItem :
          mergeElement keys ((path.push (.field name)).push (.index (0 + before.length))) current
            item = .error error := by
        rw [mergeElement_of_mapping isMapping, Nat.zero_add, fails]
        rfl
      have failsItems :
          mergeElements keys (path.push (.field name)) 0 elements (before ++ item :: after) =
            .error error := by
        rw [mergeElements_append, mergesBefore]
        show mergeElements keys _ (0 + before.length) current (item :: after) = _
        rw [mergeElements, failsItem]
      have failsNode :
          mergeNode name ((Fields.get? name target).map Node.content) (path.push (.field name))
            node = .error error := by
        rw [mergeNode_of_sequence isSequence, hasElements]
        dsimp only
        rw [mergeList, byKeys]
        dsimp only
        rw [failsItems]
        rfl
      exact mergeFields_of_refused member noKey notNull failsNode merged

/-! ## What is met is refused, and nothing else is -/

/-- The reported place is one at which the merge meets a directive that is not known. -/
theorem meetsUnknown_of_mergeOnto
    {patch : List (String × Node)}
    {existing : Option Node}
    {path : Path}
    {error : PatchError}
    (fails : mergeOnto existing patch path = .error error) :
    ∃ place text,
      error = .unknownDirective place text ∧ MeetsUnknown path existing patch place := by
  rcases mergeOnto_eq_error fails with readFails | ⟨merges, target, rfl, mergeFails⟩
  · rcases Directive.read_eq_error readFails with ⟨unknown, text, rfl⟩
    exact ⟨path, text, rfl, .here unknown⟩
  · rcases part_of_mergeFields mergeFails with ⟨place, found, inner, part, failsInner⟩
    have smaller := part.sizeOf_lt
    rcases meetsUnknown_of_mergeOnto failsInner with ⟨final, text, rfl, meets⟩
    exact ⟨final, text, rfl, .inside merges part meets⟩
termination_by sizeOf patch

theorem MeetsUnknown.mergeOnto
    {path place : Path}
    {existing : Option Node}
    {patch : List (String × Node)}
    (meets : MeetsUnknown path existing patch place) :
    ∃ error, StrategicPatch.mergeOnto existing patch path = .error error := by
  induction meets with
  | @here path existing patch unknown =>
      rcases unknown.read path with ⟨text, reads⟩
      refine ⟨.unknownDirective path text, ?_⟩
      unfold StrategicPatch.mergeOnto
      split
      · rw [mergeMapping, byDirective, reads]
      · rw [withoutTarget, reads]
  | @inside path _ _ target _ _ _ merges part _ inductionHypothesis =>
      rcases inductionHypothesis with ⟨error, fails⟩
      rcases mergeFields_of_part part fails target with ⟨reported, failsFields⟩
      refine ⟨reported, ?_⟩
      rw [mergeOnto_of_merges merges, failsFields]
      rfl

/-- A document holds a directive that is not known, in no mapping that is to be deleted. -/
inductive HoldsUnknown : Node → Prop where
  | here
      {node : Node}
      {fields : List (String × Node)}
      (isMapping : node.content = .mapping fields)
      (unknown : Directive.IsUnknown fields) :
      HoldsUnknown node
  | field
      {node child : Node}
      {fields : List (String × Node)}
      {name : String}
      (isMapping : node.content = .mapping fields)
      (notDeleted : Directive.deletes fields = false)
      (member : (name, child) ∈ fields)
      (holds : HoldsUnknown child) :
      HoldsUnknown node
  | item
      {node item : Node}
      {items : List Node}
      (isSequence : node.content = .sequence items)
      (member : item ∈ items)
      (holds : HoldsUnknown item) :
      HoldsUnknown node

/-- What a merge meets is in the patch. -/
theorem MeetsUnknown.holdsUnknown
    {path place : Path}
    {existing : Option Node}
    {patch : List (String × Node)}
    (meets : MeetsUnknown path existing patch place) :
    ∀ {node : Node}, node.content = .mapping patch → HoldsUnknown node := by
  induction meets with
  | here unknown =>
      intro node isMapping
      exact .here isMapping unknown
  | inside merges part _ inductionHypothesis =>
      intro node isMapping
      cases part with
      | field member noKey isChild =>
          exact .field isMapping merges.not_deletes member (inductionHypothesis isChild)
      | @element _ _ item before after _ _ _ _ member noKey isSequence _ _ _ isItem =>
          have inItems : item ∈ before ++ item :: after :=
            List.mem_append_right before List.mem_cons_self
          exact .field isMapping merges.not_deletes member
            (.item isSequence inItems (inductionHypothesis isItem))

/-! ## Patches that are refused -/

/-- A patch is refused for a directive that is not known. -/
def Refuses (target patch : Node) : Prop :=
  ∃ place text, apply target patch = .error (.unknownDirective place text)

/-- The merge of a patch with a document meets a directive that is not known, at a place. -/
def MeetsUnknownAt (place : Path) (target patch : Node) : Prop :=
  ∃ fields, patch.content = .mapping fields ∧ MeetsUnknown [] (some target.content) fields place

/-- The root of a patch, or a mapping in a field of it, has a directive that is not known. -/
def UnknownOnTop (patch : Node) : Prop :=
  ∃ fields,
    patch.content = .mapping fields ∧
      (Directive.IsUnknown fields ∨
        Directive.Merges fields ∧
          ∃ name child inner,
            (name, child) ∈ fields ∧
              Directive.isKey name = false ∧
                child.content = .mapping inner ∧ Directive.IsUnknown inner)

/-- Only for a patch that is a mapping are directives read. -/
theorem mapping_of_apply
    {target patch : Node}
    {place : Path}
    {text : String}
    (fails : apply target patch = .error (.unknownDirective place text)) :
    ∃ fields, patch.content = .mapping fields := by
  rw [apply] at fails
  split at fails
  · rename_i fields _ isMapping
    exact ⟨fields, isMapping⟩
  · rename_i fields isMapping _
    exact ⟨fields, isMapping⟩
  · split at fails <;> cases fails
  · cases fails

theorem meetsUnknownAt_of_apply
    {target patch : Node}
    {place : Path}
    {text : String}
    (fails : apply target patch = .error (.unknownDirective place text)) :
    MeetsUnknownAt place target patch := by
  rcases mapping_of_apply fails with ⟨fields, isMapping⟩
  rw [apply_of_mapping isMapping, Result.map_eq_error] at fails
  rcases meetsUnknown_of_mergeOnto fails with ⟨_, _, same, meets⟩
  cases same
  exact ⟨fields, isMapping, meets⟩

theorem MeetsUnknownAt.refuses
    {place : Path}
    {target patch : Node}
    (meets : MeetsUnknownAt place target patch) :
    Refuses target patch := by
  rcases meets with ⟨fields, isMapping, meets⟩
  rcases meets.mergeOnto with ⟨error, fails⟩
  rcases meetsUnknown_of_mergeOnto fails with ⟨reported, text, rfl, _⟩
  refine ⟨reported, text, ?_⟩
  rw [apply_of_mapping isMapping, fails]
  rfl

/-- Only what stands on top of a patch is met whatever the fields of the target are. -/
theorem refuses_mapping_iff
    {patch : Node} :
    (∀ fields, Refuses (.mapping fields) patch) ↔ UnknownOnTop patch := by
  constructor
  · intro refuses
    -- Without fields, the target has nothing for the fields of the patch.
    rcases refuses [] with ⟨place, text, fails⟩
    rcases meetsUnknownAt_of_apply fails with ⟨fields, isMapping, meets⟩
    refine ⟨fields, isMapping, ?_⟩
    cases meets with
    | here unknown => exact Or.inl unknown
    | inside merges part meets =>
        cases part with
        | field member noKey isChild =>
            cases meets with
            | here unknown => exact Or.inr ⟨merges, _, _, _, member, noKey, isChild, unknown⟩
        | element _ _ _ hasElements => cases hasElements
  · rintro ⟨fields, isMapping, unknown | ⟨merges, _, _, _, member, noKey, isChild, unknown⟩⟩ target
    · exact MeetsUnknownAt.refuses ⟨fields, isMapping, .here unknown⟩
    · exact MeetsUnknownAt.refuses
        ⟨fields, isMapping, .inside merges (.field member noKey isChild) (.here unknown)⟩

/--
A patch is refused exactly if its merge meets a directive that is not known, which is
reported at a place where it is met.  Such a directive is in the patch, and all
mappings refuse the patch only if one stands on top of it.
-/
theorem refuses_iff_meetsUnknown (patch : Node) :
    (∀ target,
      (Refuses target patch ↔ ∃ place, MeetsUnknownAt place target patch) ∧
        (∀ place text, apply target patch = .error (.unknownDirective place text) →
          MeetsUnknownAt place target patch) ∧
          (Refuses target patch → HoldsUnknown patch)) ∧
      ((∀ fields, Refuses (.mapping fields) patch) ↔ UnknownOnTop patch) := by
  refine ⟨?_, refuses_mapping_iff⟩
  intro target
  refine ⟨⟨?_, ?_⟩, ?_, ?_⟩
  · rintro ⟨place, text, fails⟩
    exact ⟨place, meetsUnknownAt_of_apply fails⟩
  · rintro ⟨place, meets⟩
    exact meets.refuses
  · intro place text fails
    exact meetsUnknownAt_of_apply fails
  · rintro ⟨place, text, fails⟩
    rcases meetsUnknownAt_of_apply fails with ⟨fields, isMapping, meets⟩
    exact meets.holdsUnknown isMapping

/-- A patch with a directive that is not known, below two fields. -/
def exploding : Node :=
  .mapping [("spec", .mapping [("strategy", .mapping [(Directive.key, .ofText "explode")])])]

/-- The directive is an error where the target has the mapping above it, and else it is lost. -/
theorem refuses_exploding_only_below_spec :
    HoldsUnknown exploding ∧
      apply (.mapping [("spec", .mapping [])]) exploding =
        .error (.unknownDirective [.field "spec", .field "strategy"] "explode") ∧
      apply (.mapping []) exploding =
        .ok (some (.mapping [("spec", .mapping [("strategy", .mapping [])])])) := by
  have unknown : Directive.IsUnknown [(Directive.key, Node.ofText "explode")] := by
    refine ⟨.ofText "explode", rfl, ?_⟩
    rintro _ ⟨⟩
    decide
  have holds : HoldsUnknown exploding :=
    .field rfl rfl List.mem_cons_self
      (.field rfl rfl List.mem_cons_self (.here rfl unknown))
  exact ⟨holds, rfl, rfl⟩

/-- The directive stands too deep to be met in every mapping. -/
theorem meetsUnknown_exploding :
    (∃ place, MeetsUnknownAt place (.mapping [("spec", .mapping [])]) exploding) ∧
      HoldsUnknown exploding ∧ ¬UnknownOnTop exploding := by
  have byMerges := refuses_iff_meetsUnknown exploding
  have refuses : Refuses (.mapping [("spec", .mapping [])]) exploding := ⟨_, _, rfl⟩
  refine ⟨(byMerges.1 _).1.1 refuses, (byMerges.1 _).2.2 refuses, ?_⟩
  intro onTop
  rcases byMerges.2.2 onTop [] with ⟨place, text, fails⟩
  cases fails

end Manifest.StrategicPatch
