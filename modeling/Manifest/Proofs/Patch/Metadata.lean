import Manifest.Proofs.Patch.Strategic
import Manifest.Proofs.Resource.Merge

/-!
# Metadata of patched documents

A patch that was adapted to an id has the type, the name and the namespace of this
id in fields that are not nothing, so a merge sets them.  An empty namespace is no
field; then the target keeps its own one, which is empty as well.

All of this happens inside the section `metadata`, and the patch may ask for the
deletion of the section.  Then the type is all that is left of the id.
-/

namespace Manifest

/-! ## Documents that are adapted to an id -/

namespace Resource

/--
The fields at the root of a document bear an id in the mapping of their section,
which has given fields beside the name and the namespace.
-/
structure Bears
    (id : ResourceId)
    (beside top : List (String × Node))
    (child : Node)
    (inner : List (String × Node)) : Prop where
  distinct : Fields.Distinct top
  apiVersion : Fields.get? "apiVersion" top = some (.ofText id.gvk.apiVersion)
  kind : Fields.get? "kind" top = some (.ofText id.gvk.kind)
  atSection : Fields.get? "metadata" top = some child
  isMapping : child.content = .mapping inner
  innerDistinct : Fields.Distinct inner
  name : Fields.get? "name" inner = some (.ofText id.name)
  namespaceName :
    Fields.get? "namespace" inner =
      if id.namespaceName = "" then none else some (.ofText id.namespaceName)
  others :
    ∀ other, other ≠ "name" → other ≠ "namespace" →
      Fields.get? other inner = Fields.get? other beside

end Resource

namespace Node

/-- Setting the namespace makes it a field, unless it is empty, and leaves all others. -/
theorem setNamespace_of_open
    {node : Node}
    (wellFormed : node.WellFormed)
    {inner : List (String × Node)}
    (inside : node.fieldsAt? ["metadata"] = some inner)
    (namespaceName : String) :
    ∃ next change,
      node.setNamespace namespaceName = .done () next ∧
      Changed ["metadata"] "namespace" change node next ∧
      Fields.get? "namespace" (change inner) =
        (if namespaceName = "" then none else some (.ofText namespaceName)) ∧
      Metadata.AgreeBeside "namespace" inner (change inner) := by
  rw [setNamespace]
  split
  · rename_i isEmpty
    rcases clearField_of_open "namespace" ["metadata"] [] node inner inside with
      ⟨next, clears, _, changes⟩
    exact ⟨next, _, clears, changes,
      Fields.get?_remove_same (wellFormed.fieldsAt? _ inside).distinct _,
      Metadata.agreeBeside_remove _ _⟩
  · rename_i notEmpty
    rcases
        writeField_of_open "namespace" (ofText namespaceName) ["metadata"] [] node inner
          inside with
      ⟨next, writes, _, changes⟩
    exact ⟨next, _, writes, changes, Fields.get?_set_same _ _ _,
      Metadata.agreeBeside_set _ _ _⟩

/-- What has a field at a list of one name has a mapping there. -/
theorem child?_of_fieldsAt?
    {node field : Node}
    {parent name : String}
    {inner : List (String × Node)}
    (inside : node.fieldsAt? [parent] = some inner)
    (found : Fields.get? name inner = some field) :
    ∃ child, node.child? parent = some child ∧ child.content = .mapping inner := by
  rcases Option.bind_eq_some_iff.1 inside with ⟨top, opensTop, _⟩
  rw [fieldsAt?_cons opensTop, ← child?_of_open opensTop] at inside
  rcases openFields?_eq_some.1 inside with isMapping | ⟨_, isEmpty⟩
  · cases atParent : node.child? parent with
    | none =>
        rw [atParent] at isMapping
        cases isMapping
    | some child =>
        rw [atParent] at isMapping
        exact ⟨child, rfl, isMapping⟩
  · rw [isEmpty] at found
    cases found

end Node

namespace Resource

/-- A document that is adapted to an id bears it. -/
theorem bears_of_adapted
    {id : ResourceId}
    {node adapted : Node}
    {metadata : Metadata}
    {beside : List (String × Node)}
    (wellFormed : node.WellFormed)
    (reads : metadata.Reads node beside)
    (adapts : Resource.adapted id node = .ok adapted) :
    ∃ top child inner, adapted.content = .mapping top ∧ Bears id beside top child inner := by
  rcases reads.isMapping with ⟨fields, isMapping⟩
  rcases Node.setGvk_of_open (Node.openFields?_of_content isMapping) id.gvk with
    ⟨typed, setsGvk, _, readsKind, readsApiVersion, _, sameInside⟩
  have typedInside : typed.fieldsAt? ["metadata"] = some beside := sameInside.trans reads.inside
  rcases
      Node.writeField_of_open "name" (.ofText id.name) ["metadata"] [] typed beside
        typedInside with
    ⟨named, setsName, _, changesName⟩
  have namedInside := changesName.inside beside typedInside
  have typedWellFormed : typed.WellFormed :=
    Outcome.state_eq setsGvk ▸ wellFormed.setGvk id.gvk
  have namedWellFormed : named.WellFormed :=
    Outcome.state_eq setsName ▸ typedWellFormed.setName id.name
  rcases Node.setNamespace_of_open namedWellFormed namedInside id.namespaceName with
    ⟨placed, change, setsNamespace, changesNamespace, readsNamespace, agree⟩
  have placedWellFormed : placed.WellFormed :=
    Outcome.state_eq setsNamespace ▸ namedWellFormed.setNamespace id.namespaceName
  have isPlaced : adapted = placed := by
    rw [adapted_of_steps setsGvk setsName setsNamespace] at adapts
    exact (Except.ok.inj adapts).symm
  have placedInside := changesNamespace.inside _ namedInside
  have readsName :
      Fields.get? "name" (change (Fields.set "name" (.ofText id.name) beside)) =
        some (.ofText id.name) := by
    rw [agree "name" (by decide), Fields.get?_set_same]
  rcases Node.child?_of_fieldsAt? placedInside readsName with ⟨child, atSection, isSection⟩
  rcases Option.bind_eq_some_iff.1 atSection with ⟨top, isTop, _⟩
  rw [Node.mapping?_eq_some] at isTop
  have entries := Node.child?_of_open (Node.openFields?_of_content isTop)
  rw [isPlaced]
  refine ⟨top, child, _, isTop, ?_, ?_, ?_, ?_, isSection, ?_, readsName, readsNamespace, ?_⟩
  · exact (placedWellFormed.fieldsAt? [] (Node.openFields?_of_content isTop)).distinct
  · rw [← entries,
      changesNamespace.beside "apiVersion" (show "apiVersion" ≠ "metadata" by decide),
      changesName.beside "apiVersion" (show "apiVersion" ≠ "metadata" by decide),
      readsApiVersion]
  · rw [← entries, changesNamespace.beside "kind" (show "kind" ≠ "metadata" by decide),
      changesName.beside "kind" (show "kind" ≠ "metadata" by decide), readsKind]
  · rw [← entries, atSection]
  · exact (placedWellFormed.fieldsAt? _ placedInside).distinct
  · intro other notName notNamespace
    rw [agree other notNamespace, Fields.get?_set_other notName]

/-- The directive of the section is the one that it had. -/
theorem Bears.deletes_eq
    {id : ResourceId}
    {beside top inner : List (String × Node)}
    {child : Node}
    (bears : Bears id beside top child inner) :
    Directive.deletes inner = Directive.deletes beside := by
  rw [Directive.deletes, Directive.deletes, Directive.text?, Directive.text?,
    bears.others Directive.key (by decide) (by decide)]

end Resource

/-! ## Fields of patched documents -/

namespace StrategicPatch

section

variable
  {path : Path}
  {name field : String}
  {target result : Option Node}

/-- A text of the patch is the text of the field. -/
theorem FieldBecomes.scalarText_ofText
    {text : String}
    (becomes : FieldBecomes path name target (some (.ofText text)) result) :
    Metadata.scalarText field result = .ok text := by
  cases becomes with
  | clears isNull => cases isNull
  | strips => rfl
  | merges notNull merges =>
      rw [mergeNode_of_scalar rfl] at merges
      cases merges
      rfl

theorem FieldBecomes.isSome_of_ofText
    {text : String}
    (becomes : FieldBecomes path name target (some (.ofText text)) result) :
    result.isSome := by
  cases becomes with
  | clears isNull => cases isNull
  | strips => rfl
  | merges notNull merges =>
      rw [mergeNode_of_scalar rfl] at merges
      cases merges
      rfl

/-- A field that the patch does not mention reads as before, where it reads as empty. -/
theorem FieldBecomes.scalarText_of_absent
    (becomes : FieldBecomes path name target none result)
    (reads : Metadata.scalarText field target = .ok "") :
    Metadata.scalarText field result = .ok "" := by
  cases becomes with
  | stays => exact reads
  | leaves => rfl

theorem scalars_stripFields
    {fields : List (String × Node)}
    (scalars : ∀ entry ∈ fields, ∃ leaf, entry.2.content = .scalar leaf) :
    ∀ entry ∈ Directive.stripFields fields, ∃ leaf, entry.2.content = .scalar leaf := by
  intro entry member
  rcases Directive.mem_stripFields member with ⟨node, inFields, strips⟩
  rcases scalars _ inFields with ⟨leaf, isScalar⟩
  rw [Directive.strip_of_scalar isScalar] at strips
  exact ⟨leaf, Option.some.inj strips ▸ rfl⟩

theorem scalars_mergeFields
    {existing patch merged : List (String × Node)}
    (merges : mergeFields existing path existing patch = .ok merged)
    (existingScalars : ∀ entry ∈ existing, ∃ leaf, entry.2.content = .scalar leaf)
    (patchScalars : ∀ entry ∈ patch, ∃ leaf, entry.2.content = .scalar leaf) :
    ∀ entry ∈ merged, ∃ leaf, entry.2.content = .scalar leaf := by
  intro entry member
  rcases mem_mergeFields merges member with inExisting | ⟨node, _, inPatch, mergesEntry⟩
  · exact existingScalars entry inExisting
  · rcases patchScalars _ inPatch with ⟨leaf, isScalar⟩
    rw [mergeNode_of_scalar isScalar, Except.ok.injEq, Option.some.injEq] at mergesEntry
    exact ⟨leaf, mergesEntry ▸ rfl⟩

/-- Texts to which a mapping of texts is applied are texts. -/
theorem Applied.stringMap_eq_ok
    {existing : Option Node}
    {patch : List (String × Node)}
    (applied : Applied path existing patch result)
    (existingReads :
      ∀ fields, existing = some (.mapping fields) →
        ∀ entry ∈ fields, ∃ leaf, entry.2.content = .scalar leaf)
    (patchScalars : ∀ entry ∈ patch, ∃ leaf, entry.2.content = .scalar leaf) :
    ∃ map, Metadata.stringMap result field = .ok map := by
  rw [Metadata.stringMap_eq_ok]
  cases applied with
  | deletes asked => exact ⟨[], rfl, by simp⟩
  | replaces notAsked => exact ⟨_, rfl, scalars_stripFields patchScalars⟩
  | merges notAsked isMapping merges =>
      exact ⟨_, rfl, scalars_mergeFields merges (existingReads _ isMapping) patchScalars⟩

/-- Where the target and the patch have a map of texts, there is one after the patch. -/
theorem FieldBecomes.stringMap_eq_ok
    {patch : Option Node}
    {targetMap patchMap : StringMap}
    (becomes : FieldBecomes path name target patch result)
    (targetReads : Metadata.stringMap target field = .ok targetMap)
    (patchReads : Metadata.stringMap patch field = .ok patchMap) :
    ∃ map, Metadata.stringMap result field = .ok map := by
  have targetScalars :
      ∀ fields, target.map Node.content = some (.mapping fields) →
        ∀ entry ∈ fields, ∃ leaf, entry.2.content = .scalar leaf := by
    intro fields isMapping
    rcases Metadata.stringMap_eq_ok.1 ⟨targetMap, targetReads⟩ with ⟨others, opens, scalars⟩
    rcases Option.map_eq_some_iff.1 isMapping with ⟨node, rfl, isContent⟩
    rw [Option.getD_some, Node.openFields?_of_content isContent] at opens
    cases opens
    exact scalars
  cases patch with
  | none =>
      cases becomes with
      | stays => exact ⟨targetMap, targetReads⟩
      | leaves => exact ⟨.empty, rfl⟩
  | some node =>
      rcases Metadata.stringMap_eq_ok.1 ⟨patchMap, patchReads⟩ with ⟨fields, opens, scalars⟩
      rw [Option.getD_some] at opens
      rcases Node.openFields?_eq_some.1 opens with isMapping | ⟨isNull, _⟩
      · cases becomes with
        | clears _ => exact ⟨.empty, rfl⟩
        | strips =>
            exact (applied_of_strip path (target.map Node.content) isMapping).stringMap_eq_ok
              targetScalars scalars
        | merges _ merges =>
            exact (applied_of_mergeNode isMapping merges).stringMap_eq_ok targetScalars scalars
      · cases becomes with
        | clears _ => exact ⟨.empty, rfl⟩
        | strips =>
            rcases Node.isNull_eq_true.1 isNull with ⟨leaf, isScalar, leafIsNull⟩
            rw [Directive.strip_of_scalar isScalar, Metadata.stringMap_eq_ok]
            exact ⟨[], by simp [Node.openFields?, Node.content, leafIsNull], by simp⟩
        | merges notNull _ =>
            rw [isNull] at notNull
            cases notNull

end

/-- A field of the patch that is a mapping is applied to the field of the target. -/
theorem FieldBecomes.applied
    {path : Path}
    {name : String}
    {target result : Option Node}
    {node : Node}
    {patch : List (String × Node)}
    (becomes : FieldBecomes path name target (some node) result)
    (isMapping : node.content = .mapping patch) :
    Applied (path.push (.field name)) (target.map Node.content) patch result := by
  cases becomes with
  | clears isNull =>
      rw [Node.isNull, isMapping] at isNull
      cases isNull
  | strips => exact applied_of_strip _ _ isMapping
  | merges _ merges => exact applied_of_mergeNode isMapping merges

/-- The fields of a content in a field are those below its name. -/
theorem fieldOf_content
    {node : Node}
    {top inner : List (String × Node)}
    {parent : String}
    (isMapping : node.content = .mapping top)
    (inside : node.fieldsAt? [parent] = some inner)
    (name : String) :
    fieldOf ((Fields.get? parent top).map Node.content) name = Fields.get? name inner := by
  rw [Node.fieldsAt?_cons (Node.openFields?_of_content isMapping)] at inside
  have sameChild := Node.child?_of_open inside name
  cases atParent : Fields.get? parent top with
  | none =>
      rw [atParent] at sameChild
      exact sameChild
  | some child =>
      rw [atParent, Option.getD_some, Node.child?] at sameChild
      rw [← sameChild, fieldOf, Option.map_some, Option.bind_some]
      simp only [Node.mapping?, Node.content_content]

/-- A section that stays bears the id, and its maps of texts can be read. -/
theorem readsSection_of_stays
    {id : ResourceId}
    {path : Path}
    {existing : Option Node}
    {child : Node}
    {beside top inner targetInner fields : List (String × Node)}
    {targetMetadata patchMetadata : Metadata}
    (applied : Applied path existing inner (some (.mapping fields)))
    (existingWellFormed : ∀ content, existing = some content → content.WellFormed)
    (sameFields : ∀ name, fieldOf existing name = Fields.get? name targetInner)
    (targetParts : targetMetadata.ReadsSection targetInner)
    (sameNamespace : targetMetadata.namespaceName = id.namespaceName)
    (bears : Resource.Bears id beside top child inner)
    (patchParts : patchMetadata.ReadsSection beside) :
    ∃ labels annotations,
      Metadata.ReadsSection
        { name := id.name, namespaceName := id.namespaceName, labels, annotations } fields := by
  have becomes :
      ∀ name, Directive.isKey name = false →
        FieldBecomes path name (Fields.get? name targetInner) (Fields.get? name inner)
          (Fields.get? name fields) := by
    intro name noKey
    rw [← sameFields]
    exact applied.fieldBecomes existingWellFormed bears.innerDistinct noKey
  have name := becomes "name" (by decide)
  have namespaceName := becomes "namespace" (by decide)
  have labels := becomes "labels" (by decide)
  have annotations := becomes "annotations" (by decide)
  rw [bears.name] at name
  rw [bears.namespaceName] at namespaceName
  rw [bears.others "labels" (by decide) (by decide)] at labels
  rw [bears.others "annotations" (by decide) (by decide)] at annotations
  rcases labels.stringMap_eq_ok targetParts.labels patchParts.labels with ⟨_, readsLabels⟩
  rcases annotations.stringMap_eq_ok targetParts.annotations patchParts.annotations with
    ⟨_, readsAnnotations⟩
  refine ⟨_, _, name.scalarText_ofText, ?_, readsLabels, readsAnnotations⟩
  by_cases isEmpty : id.namespaceName = ""
  · have targetReads := targetParts.namespaceName
    rw [sameNamespace, isEmpty] at targetReads
    rw [if_pos isEmpty] at namespaceName
    rw [isEmpty]
    exact namespaceName.scalarText_of_absent targetReads
  · rw [if_neg isEmpty] at namespaceName
    exact namespaceName.scalarText_ofText

/-- A section that is deleted reads as empty, and every other one bears the id. -/
theorem readsSection_of_applied
    {id : ResourceId}
    {path : Path}
    {existing result : Option Node}
    {child : Node}
    {beside top inner targetInner : List (String × Node)}
    {targetMetadata patchMetadata : Metadata}
    (applied : Applied path existing inner result)
    (existingWellFormed : ∀ content, existing = some content → content.WellFormed)
    (sameFields : ∀ name, fieldOf existing name = Fields.get? name targetInner)
    (targetParts : targetMetadata.ReadsSection targetInner)
    (sameNamespace : targetMetadata.namespaceName = id.namespaceName)
    (bears : Resource.Bears id beside top child inner)
    (patchParts : patchMetadata.ReadsSection beside) :
    ∃ fields labels annotations,
      (result.getD Node.null).openFields? = some fields ∧
      Metadata.ReadsSection
        { name := if Directive.deletes beside then "" else id.name
          namespaceName := if Directive.deletes beside then "" else id.namespaceName
          labels, annotations } fields := by
  rw [← bears.deletes_eq]
  rcases applied.outcome with ⟨asked, rfl⟩ | ⟨notAsked, fields, rfl⟩
  · rw [asked]
    exact ⟨[], .empty, .empty, rfl, rfl, rfl, rfl, rfl⟩
  · rcases
        readsSection_of_stays applied existingWellFormed sameFields targetParts sameNamespace
          bears patchParts with
      ⟨labels, annotations, parts⟩
    rw [notAsked]
    exact ⟨fields, labels, annotations, rfl, parts⟩

/-- A patched mapping is what its patch makes of it. -/
theorem applied_of_apply
    {target patch patched : Node}
    {targetFields patchFields : List (String × Node)}
    (targetIsMapping : target.content = .mapping targetFields)
    (patchIsMapping : patch.content = .mapping patchFields)
    (applies : apply target patch = .ok (some patched)) :
    ∃ fields,
      patched = .mapping fields ∧
      Applied [] (some (.mapping targetFields)) patchFields (some (.mapping fields)) := by
  rw [apply, targetIsMapping, patchIsMapping] at applies
  rcases Result.map_eq_ok.1 applies with ⟨result, merges, isPatched⟩
  rcases Option.map_eq_some_iff.1 isPatched with ⟨fields, rfl, rfl⟩
  exact ⟨fields, rfl, applied_of_byDirective merges⟩

/-- The metadata of a mapping, from its fields and those of its section. -/
theorem metadata_of_fields
    {fields inner : List (String × Node)}
    {metadata : Metadata}
    (readsApiVersion :
      Metadata.scalarText "apiVersion" (Fields.get? "apiVersion" fields) =
        .ok metadata.apiVersion)
    (readsKind : Metadata.scalarText "kind" (Fields.get? "kind" fields) = .ok metadata.kind)
    (identified : (Fields.get? "kind" fields).isSome)
    (opens : ((Fields.get? "metadata" fields).getD Node.null).openFields? = some inner)
    (parts : metadata.ReadsSection inner) :
    (Node.mapping fields).metadata = .ok metadata := by
  have opensTop : (Node.mapping fields).openFields? = some fields := rfl
  have inside : (Node.mapping fields).fieldsAt? ["metadata"] = some inner := by
    rw [Node.fieldsAt?_cons opensTop]
    exact opens
  exact Node.metadata_eq_ok.2
    ⟨inner, ⟨fields, rfl⟩, Or.inr (Or.inl identified), readsApiVersion, readsKind, inside, parts⟩

/--
A document that stays after an adapted patch has metadata with the type of the id,
and with its name and its namespace unless the patch deletes the section.
-/
theorem metadata_of_apply
    {id : ResourceId}
    {target patch adapted patched : Node}
    {targetMetadata patchMetadata : Metadata}
    {beside : List (String × Node)}
    (targetWellFormed : target.WellFormed)
    (readsTarget : target.metadata = .ok targetMetadata)
    (sameNamespace : targetMetadata.namespaceName = id.namespaceName)
    (patchWellFormed : patch.WellFormed)
    (readsPatch : patchMetadata.Reads patch beside)
    (adapts : Resource.adapted id patch = .ok adapted)
    (applies : apply target adapted = .ok (some patched)) :
    ∃ metadata : Metadata,
      patched.metadata = .ok metadata ∧
      metadata.apiVersion = id.gvk.apiVersion ∧
      metadata.kind = id.gvk.kind ∧
      metadata.name = (if Directive.deletes beside then "" else id.name) ∧
      metadata.namespaceName = (if Directive.deletes beside then "" else id.namespaceName) := by
  rcases Resource.bears_of_adapted patchWellFormed readsPatch adapts with
    ⟨top, child, inner, isTop, bears⟩
  rcases Node.metadata_eq_ok.1 readsTarget with ⟨targetInner, targetReads⟩
  rcases targetReads.isMapping with ⟨targetTop, isTargetTop⟩
  have targetFields := Node.wellFormed_mapping.1 (isTargetTop ▸ targetWellFormed.content)
  rcases applied_of_apply isTargetTop isTop applies with ⟨fields, rfl, applied⟩
  have becomes :
      ∀ name, Directive.isKey name = false →
        FieldBecomes [] name (Fields.get? name targetTop) (Fields.get? name top)
          (Fields.get? name fields) := by
    intro name noKey
    refine applied.fieldBecomes ?_ bears.distinct noKey
    rintro _ ⟨⟩
    exact Node.wellFormed_mapping.2 targetFields
  have apiVersion := becomes "apiVersion" (by decide)
  have kind := becomes "kind" (by decide)
  have inSection := becomes "metadata" (by decide)
  rw [bears.apiVersion] at apiVersion
  rw [bears.kind] at kind
  rw [bears.atSection] at inSection
  have readsApiVersion :
      Metadata.scalarText "apiVersion" (Fields.get? "apiVersion" fields) =
        .ok id.gvk.apiVersion :=
    apiVersion.scalarText_ofText
  have readsKind :
      Metadata.scalarText "kind" (Fields.get? "kind" fields) = .ok id.gvk.kind :=
    kind.scalarText_ofText
  rcases
      readsSection_of_applied (inSection.applied bears.isMapping)
        (targetFields.content_get? "metadata")
        (fieldOf_content isTargetTop targetReads.inside) targetReads.parts sameNamespace bears
        readsPatch.parts with
    ⟨sectionFields, labels, annotations, opens, parts⟩
  exact
    ⟨{ apiVersion := id.gvk.apiVersion
       kind := id.gvk.kind
       name := if Directive.deletes beside then "" else id.name
       namespaceName := if Directive.deletes beside then "" else id.namespaceName
       labels, annotations },
      metadata_of_fields readsApiVersion readsKind kind.isSome_of_ofText opens
        ⟨parts.name, parts.namespaceName, parts.labels, parts.annotations⟩,
      rfl, rfl, rfl, rfl⟩

end StrategicPatch

end Manifest
