import Manifest.Proofs.Node.WellFormed
import Manifest.Proofs.Result

/-!
# Metadata and its setters

The metadata of a document is read off three fields at its root and four fields
of the section `metadata`, each of them on its own.  So a setter changes the part
of the metadata that it is for, and no other part.
-/

namespace Manifest

namespace Metadata

/-- The text of an optional scalar. -/
def scalarText (name : String) (node : Option Node) : Except DocumentError String :=
  match node.map Node.content with
  | none => .ok ""
  | some (.scalar leaf) => .ok leaf.text
  | some other => .error (.invalidMetadata (.fieldNotScalar name other.kind))

theorem scalarField_eq
    (fields : List (String × Node))
    (name : String) :
    scalarField fields name = scalarText name (Fields.get? name fields) :=
  rfl

@[simp]
theorem scalarText_ofText (name text : String) :
    scalarText name (some (.ofText text)) = .ok text :=
  rfl

theorem scalarText_eq_ok
    {name text : String}
    {node : Node}
    (reads : scalarText name (some node) = .ok text) :
    ∃ leaf, node.content = .scalar leaf ∧ leaf.text = text := by
  rw [scalarText, Option.map_some] at reads
  split at reads
  · contradiction
  · rename_i leaf isScalar
    cases reads
    exact ⟨leaf, Option.some.inj isScalar, rfl⟩
  · cases reads

theorem scalarText_of_scalar
    {node : Node}
    {leaf : Scalar}
    (isScalar : node.content = .scalar leaf)
    (name : String) :
    scalarText name (some node) = .ok leaf.text := by
  rw [scalarText, Option.map_some, isScalar]

/-- The parts of the metadata that the section holds. -/
structure ReadsSection (metadata : Metadata) (inner : List (String × Node)) : Prop where
  name : scalarText "name" (Fields.get? "name" inner) = .ok metadata.name
  namespaceName :
    scalarText "namespace" (Fields.get? "namespace" inner) = .ok metadata.namespaceName
  labels : stringMap (Fields.get? "labels" inner) "labels" = .ok metadata.labels
  annotations :
    stringMap (Fields.get? "annotations" inner) "annotations" = .ok metadata.annotations

/-- The document holds the parts of the metadata, those of the section in given fields. -/
structure Reads (metadata : Metadata) (node : Node) (inner : List (String × Node)) :
    Prop where
  isMapping : ∃ fields, node.content = .mapping fields
  /-- It has one of the fields that identify a resource. -/
  identified :
    (node.child? "apiVersion").isSome ∨ (node.child? "kind").isSome ∨
      (node.child? "metadata").isSome
  apiVersion : scalarText "apiVersion" (node.child? "apiVersion") = .ok metadata.apiVersion
  kind : scalarText "kind" (node.child? "kind") = .ok metadata.kind
  inside : node.fieldsAt? ["metadata"] = some inner
  parts : metadata.ReadsSection inner

theorem readSection_eq_ok
    {apiVersion kind : String}
    {inner : List (String × Node)}
    {metadata : Metadata} :
    readSection apiVersion kind inner = .ok metadata ↔
      metadata.apiVersion = apiVersion ∧ metadata.kind = kind ∧ metadata.ReadsSection inner := by
  simp only [readSection, Result.bind_eq_ok, scalarField_eq]
  constructor
  · rintro ⟨name, readsName, namespaceName, readsNamespace, labels, readsLabels, annotations,
      readsAnnotations, same⟩
    cases same
    exact ⟨rfl, rfl, readsName, readsNamespace, readsLabels, readsAnnotations⟩
  · rintro ⟨rfl, rfl, parts⟩
    exact ⟨_, parts.name, _, parts.namespaceName, _, parts.labels, _, parts.annotations, rfl⟩

/-- The section is given by its fields, if it has any. -/
theorem ofSection_eq_ok
    {apiVersion kind : String}
    {node : Option Node}
    {metadata : Metadata} :
    ofSection apiVersion kind node = .ok metadata ↔
      ∃ inner,
        (node.getD Node.null).openFields? = some inner ∧
          readSection apiVersion kind inner = .ok metadata := by
  have withoutFields :
      readSection apiVersion kind [] = .ok { apiVersion, kind } :=
    rfl
  cases node with
  | none =>
      rw [Option.getD_none, Node.openFields?_null]
      simp [ofSection, withoutFields]
  | some child =>
      rw [Option.getD_some, ofSection, Option.map_some, Node.openFields?]
      rcases Node.content_cases child with ⟨inner, isContent⟩ | ⟨items, isContent⟩ |
        ⟨leaf, isContent⟩
      · simp [isContent]
      · simp [isContent, Node.isNull, Node.content]
      · cases leafIsNull : leaf.isNull <;>
          simp [isContent, Node.isNull, Node.content, leafIsNull, withoutFields]

end Metadata

namespace Node

/-- The metadata is read exactly if the document holds all of its parts. -/
theorem metadata_eq_ok
    {node : Node}
    {metadata : Metadata} :
    node.metadata = .ok metadata ↔ ∃ inner, metadata.Reads node inner := by
  have sectionFields :
      ∀ {fields : List (String × Node)},
        node.content = .mapping fields →
        node.fieldsAt? ["metadata"] =
          ((Fields.get? "metadata" fields).getD null).openFields? := by
    intro fields isMapping
    exact fieldsAt?_cons (openFields?_of_content isMapping) "metadata" []
  have identifiedBy :
      ∀ {fields : List (String × Node)},
        node.content = .mapping fields →
        (Metadata.isIdentified fields = true ↔
          (node.child? "apiVersion").isSome ∨ (node.child? "kind").isSome ∨
            (node.child? "metadata").isSome) := by
    intro fields isMapping
    simp only [child?_of_open (openFields?_of_content isMapping), Metadata.isIdentified,
      Fields.contains, Bool.or_eq_true, or_assoc]
  constructor
  · intro reads
    rw [Node.metadata] at reads
    split at reads
    · rename_i fields isMapping
      have entries := child?_of_open (openFields?_of_content isMapping)
      rw [Metadata.ofFields] at reads
      split at reads
      · rename_i identified
        simp only [Result.bind_eq_ok, Metadata.ofSection_eq_ok] at reads
        rcases reads with ⟨apiVersion, readsApiVersion, kind, readsKind, inner, opensInner, reads⟩
        rcases Metadata.readSection_eq_ok.1 reads with ⟨rfl, rfl, parts⟩
        refine ⟨inner, ⟨fields, isMapping⟩, (identifiedBy isMapping).1 identified, ?_, ?_, ?_,
          parts⟩
        · rw [entries, ← Metadata.scalarField_eq]
          exact readsApiVersion
        · rw [entries, ← Metadata.scalarField_eq]
          exact readsKind
        · exact (sectionFields isMapping).trans opensInner
      · cases reads
    · cases reads
  · rintro ⟨inner, reads⟩
    rcases reads.isMapping with ⟨fields, isMapping⟩
    have entries := child?_of_open (openFields?_of_content isMapping)
    have readsApiVersion := reads.apiVersion
    have readsKind := reads.kind
    have inside := (sectionFields isMapping).symm.trans reads.inside
    rw [entries, ← Metadata.scalarField_eq] at readsApiVersion readsKind
    rw [Node.metadata, isMapping]
    dsimp only
    rw [Metadata.ofFields, if_pos ((identifiedBy isMapping).2 reads.identified)]
    simp only [Result.bind_eq_ok, Metadata.ofSection_eq_ok]
    exact ⟨_, readsApiVersion, _, readsKind, inner, inside,
      Metadata.readSection_eq_ok.2 ⟨rfl, rfl, reads.parts⟩⟩

end Node

/-! ## Parts of the section -/

namespace Metadata

/-- Maps of texts are read back from the mapping that they are written as. -/
@[simp]
theorem stringMap_ofStringMap
    (map : StringMap)
    (field : String) :
    stringMap (some (Node.ofStringMap map)) field = .ok map := by
  have entriesRead :
      ∀ entries : List (String × String),
        textEntries field (entries.map fun entry => (entry.1, Node.ofText entry.2)) =
          .ok entries := by
    intro entries
    induction entries with
    | nil => rfl
    | cons entry rest inductionHypothesis =>
        rw [List.map_cons, textEntries]
        simp only [Node.ofText, Node.content]
        simp only [Node.ofText] at inductionHypothesis
        rw [inductionHypothesis]
        rfl
  simp only [Node.ofStringMap, stringMap, Option.map_some, Node.content, entriesRead,
    Except.map, StringMap.ofPairs_entries]

/-- Two lists of fields agree at every name but one. -/
def AgreeBeside (key : String) (fields others : List (String × Node)) : Prop :=
  ∀ other, other ≠ key → Fields.get? other others = Fields.get? other fields

theorem agreeBeside_set
    (key : String)
    (value : Node)
    (fields : List (String × Node)) :
    AgreeBeside key fields (Fields.set key value fields) := by
  intro other different
  exact Fields.get?_set_other different value fields

theorem agreeBeside_remove
    (key : String)
    (fields : List (String × Node)) :
    AgreeBeside key fields (Fields.remove key fields) := by
  intro other different
  exact Fields.get?_remove_other different fields

namespace ReadsSection

variable
  {metadata : Metadata}
  {inner next : List (String × Node)}

theorem withName
    (parts : metadata.ReadsSection inner)
    (agree : AgreeBeside "name" inner next)
    {name : String}
    (reads : scalarText "name" (Fields.get? "name" next) = .ok name) :
    ReadsSection { metadata with name } next where
  name := reads
  namespaceName := by
    rw [agree "namespace" (by decide)]
    exact parts.namespaceName
  labels := by
    rw [agree "labels" (by decide)]
    exact parts.labels
  annotations := by
    rw [agree "annotations" (by decide)]
    exact parts.annotations

theorem withNamespace
    (parts : metadata.ReadsSection inner)
    (agree : AgreeBeside "namespace" inner next)
    {namespaceName : String}
    (reads : scalarText "namespace" (Fields.get? "namespace" next) = .ok namespaceName) :
    ReadsSection { metadata with namespaceName } next where
  name := by
    rw [agree "name" (by decide)]
    exact parts.name
  namespaceName := reads
  labels := by
    rw [agree "labels" (by decide)]
    exact parts.labels
  annotations := by
    rw [agree "annotations" (by decide)]
    exact parts.annotations

theorem withLabels
    (parts : metadata.ReadsSection inner)
    (agree : AgreeBeside "labels" inner next)
    {labels : StringMap}
    (reads : stringMap (Fields.get? "labels" next) "labels" = .ok labels) :
    ReadsSection { metadata with labels } next where
  name := by
    rw [agree "name" (by decide)]
    exact parts.name
  namespaceName := by
    rw [agree "namespace" (by decide)]
    exact parts.namespaceName
  labels := reads
  annotations := by
    rw [agree "annotations" (by decide)]
    exact parts.annotations

theorem withAnnotations
    (parts : metadata.ReadsSection inner)
    (agree : AgreeBeside "annotations" inner next)
    {annotations : StringMap}
    (reads : stringMap (Fields.get? "annotations" next) "annotations" = .ok annotations) :
    ReadsSection { metadata with annotations } next where
  name := by
    rw [agree "name" (by decide)]
    exact parts.name
  namespaceName := by
    rw [agree "namespace" (by decide)]
    exact parts.namespaceName
  labels := by
    rw [agree "labels" (by decide)]
    exact parts.labels
  annotations := reads

end ReadsSection

private theorem apiVersionBeside : "apiVersion" ≠ "metadata" := by
  decide

private theorem kindBeside : "kind" ≠ "metadata" := by
  decide

/-- A change in the section leaves the rest of the metadata as it is. -/
theorem Reads.of_changed
    {metadata changed : Metadata}
    {node next : Node}
    {inner : List (String × Node)}
    {key : String}
    {change : List (String × Node) → List (String × Node)}
    (reads : metadata.Reads node inner)
    (changes : Node.Changed ["metadata"] key change node next)
    (notNull : next.isNull = false)
    (sameApiVersion : changed.apiVersion = metadata.apiVersion)
    (sameKind : changed.kind = metadata.kind)
    (parts : changed.ReadsSection (change inner)) :
    changed.Reads next (change inner) where
  isMapping := by
    rcases Option.bind_eq_some_iff.1 (changes.inside inner reads.inside) with ⟨top, opensTop, _⟩
    rcases Node.openFields?_eq_some.1 opensTop with isMapping | ⟨isNull, _⟩
    · exact ⟨top, isMapping⟩
    · rw [notNull] at isNull
      cases isNull
  identified := by
    rw [changes.beside "apiVersion" apiVersionBeside, changes.beside "kind" kindBeside]
    rcases reads.identified with byApiVersion | byKind | byMetadata
    · exact Or.inl byApiVersion
    · exact Or.inr (Or.inl byKind)
    · exact Or.inr (Or.inr (changes.stays "metadata" rfl byMetadata))
  apiVersion := by
    rw [changes.beside "apiVersion" apiVersionBeside, sameApiVersion]
    exact reads.apiVersion
  kind := by
    rw [changes.beside "kind" kindBeside, sameKind]
    exact reads.kind
  inside := changes.inside inner reads.inside
  parts := parts

end Metadata

/-! ## Setters -/

namespace Node

variable
  {node : Node}
  {metadata : Metadata}

theorem notNull_of_metadata
    (reads : node.metadata = .ok metadata) :
    node.isNull = false := by
  rcases metadata_eq_ok.1 reads with ⟨_, reads⟩
  rcases reads.isMapping with ⟨fields, isMapping⟩
  rw [isNull, isMapping]

/-- Setting the name changes the name and nothing else of the metadata. -/
theorem metadata_setName
    (reads : node.metadata = .ok metadata)
    (name : String) :
    ∃ next,
      node.setName name = .done () next ∧ next.metadata = .ok { metadata with name } := by
  rcases metadata_eq_ok.1 reads with ⟨inner, reads⟩
  rcases writeField_of_open "name" (ofText name) ["metadata"] [] node inner reads.inside with
    ⟨next, writes, notNull, changes⟩
  refine ⟨next, writes, metadata_eq_ok.2 ⟨_, reads.of_changed changes notNull rfl rfl ?_⟩⟩
  apply reads.parts.withName (Metadata.agreeBeside_set _ _ _)
  rw [Fields.get?_set_same, Metadata.scalarText_ofText]

/-- Setting the namespace changes the namespace and nothing else of the metadata. -/
theorem metadata_setNamespace
    (wellFormed : node.WellFormed)
    (reads : node.metadata = .ok metadata)
    (namespaceName : String) :
    ∃ next,
      node.setNamespace namespaceName = .done () next ∧
        next.metadata = .ok { metadata with namespaceName } := by
  have notNullBefore := notNull_of_metadata reads
  rcases metadata_eq_ok.1 reads with ⟨inner, reads⟩
  rw [setNamespace]
  split
  · rename_i isEmpty
    rcases clearField_of_open "namespace" ["metadata"] [] node inner reads.inside with
      ⟨next, clears, sameNull, changes⟩
    refine ⟨next, clears, metadata_eq_ok.2
      ⟨_, reads.of_changed changes (sameNull.trans notNullBefore) rfl rfl ?_⟩⟩
    apply reads.parts.withNamespace (Metadata.agreeBeside_remove _ _)
    rw [Fields.get?_remove_same (wellFormed.fieldsAt? _ reads.inside).distinct, isEmpty]
    rfl
  · rcases
        writeField_of_open "namespace" (ofText namespaceName) ["metadata"] [] node inner
          reads.inside with
      ⟨next, writes, notNull, changes⟩
    refine ⟨next, writes, metadata_eq_ok.2 ⟨_, reads.of_changed changes notNull rfl rfl ?_⟩⟩
    apply reads.parts.withNamespace (Metadata.agreeBeside_set _ _ _)
    rw [Fields.get?_set_same, Metadata.scalarText_ofText]

/-- A map of texts that is written at a field can be read from it. -/
theorem writeStringMap_reads
    (wellFormed : node.WellFormed)
    (notNullBefore : node.isNull = false)
    {parents : List String}
    {inner : List (String × Node)}
    (inside : node.fieldsAt? parents = some inner)
    (key : String)
    (map : StringMap) :
    ∃ next change,
      writeStringMap parents key map node = .done () next ∧
      next.isNull = false ∧
      Changed parents key change node next ∧
      Metadata.AgreeBeside key inner (change inner) ∧
      Metadata.stringMap (Fields.get? key (change inner)) key = .ok map := by
  rw [writeStringMap]
  split
  · rename_i isEmpty
    rcases clearField_of_open key parents [] node inner inside with
      ⟨next, clears, sameNull, changes⟩
    refine ⟨next, _, clears, sameNull.trans notNullBefore, changes,
      Metadata.agreeBeside_remove key inner, ?_⟩
    rw [Fields.get?_remove_same (wellFormed.fieldsAt? _ inside).distinct]
    have sameMap : map = .empty := StringMap.ext (List.isEmpty_iff.1 isEmpty)
    rw [sameMap]
    rfl
  · rcases writeField_of_open key (ofStringMap map) parents [] node inner inside with
      ⟨next, writes, notNull, changes⟩
    refine ⟨next, _, writes, notNull, changes, Metadata.agreeBeside_set key _ inner, ?_⟩
    rw [Fields.get?_set_same, Metadata.stringMap_ofStringMap]

/-- Setting the labels changes the labels and nothing else of the metadata. -/
theorem metadata_setLabels
    (wellFormed : node.WellFormed)
    (reads : node.metadata = .ok metadata)
    (labels : StringMap) :
    ∃ next,
      node.setLabels labels = .done () next ∧ next.metadata = .ok { metadata with labels } := by
  have notNullBefore := notNull_of_metadata reads
  rcases metadata_eq_ok.1 reads with ⟨inner, reads⟩
  rcases writeStringMap_reads wellFormed notNullBefore reads.inside "labels" labels with
    ⟨next, change, writes, notNull, changes, agree, readsBack⟩
  exact ⟨next, writes, metadata_eq_ok.2
    ⟨_, reads.of_changed changes notNull rfl rfl (reads.parts.withLabels agree readsBack)⟩⟩

/-- Setting the annotations changes the annotations and nothing else of the metadata. -/
theorem metadata_setAnnotations
    (wellFormed : node.WellFormed)
    (reads : node.metadata = .ok metadata)
    (annotations : StringMap) :
    ∃ next,
      node.setAnnotations annotations = .done () next ∧
        next.metadata = .ok { metadata with annotations } := by
  have notNullBefore := notNull_of_metadata reads
  rcases metadata_eq_ok.1 reads with ⟨inner, reads⟩
  rcases writeStringMap_reads wellFormed notNullBefore reads.inside "annotations" annotations with
    ⟨next, change, writes, notNull, changes, agree, readsBack⟩
  exact ⟨next, writes, metadata_eq_ok.2
    ⟨_, reads.of_changed changes notNull rfl rfl (reads.parts.withAnnotations agree readsBack)⟩⟩

/-- Setting the type writes its two fields and leaves all others. -/
theorem setGvk_of_open
    {fields : List (String × Node)}
    (opens : node.openFields? = some fields)
    (gvk : Gvk) :
    ∃ next,
      node.setGvk gvk = .done () next ∧
      next.isNull = false ∧
      next.child? "kind" = some (ofText gvk.kind) ∧
      next.child? "apiVersion" = some (ofText gvk.apiVersion) ∧
      next.child? "metadata" = node.child? "metadata" ∧
      next.fieldsAt? ["metadata"] = node.fieldsAt? ["metadata"] := by
  rcases writeField_of_open "kind" (ofText gvk.kind) [] [] node fields opens with
    ⟨middle, writesKind, _, changesKind⟩
  have middleOpens := changesKind.inside fields opens
  rcases writeField_of_open "apiVersion" (ofText gvk.apiVersion) [] [] middle _ middleOpens with
    ⟨next, writesApiVersion, notNull, changesApiVersion⟩
  have nextOpens := changesApiVersion.inside _ middleOpens
  have sameSection : next.child? "metadata" = node.child? "metadata" := by
    rw [changesApiVersion.beside "metadata" (show "metadata" ≠ "apiVersion" by decide),
      changesKind.beside "metadata" (show "metadata" ≠ "kind" by decide)]
  refine ⟨next, ?_, notNull, ?_, ?_, sameSection, ?_⟩
  · rw [setGvk, writesKind, Outcome.andThen_done, writesApiVersion]
  · rw [changesApiVersion.beside "kind" (show "kind" ≠ "apiVersion" by decide),
      child?_of_open middleOpens, Fields.get?_set_same]
  · rw [child?_of_open nextOpens, Fields.get?_set_same]
  · rw [fieldsAt?_cons nextOpens, fieldsAt?_cons opens, ← child?_of_open nextOpens, sameSection,
      child?_of_open opens]

/-- Setting the type changes the type and nothing else of the metadata. -/
theorem metadata_setGvk
    (reads : node.metadata = .ok metadata)
    (gvk : Gvk) :
    ∃ next,
      node.setGvk gvk = .done () next ∧
        next.metadata = .ok { metadata with apiVersion := gvk.apiVersion, kind := gvk.kind } := by
  rcases metadata_eq_ok.1 reads with ⟨inner, reads⟩
  rcases reads.isMapping with ⟨top, isMapping⟩
  rcases setGvk_of_open (openFields?_of_content isMapping) gvk with
    ⟨next, sets, notNull, readsKind, readsApiVersion, _, sameInside⟩
  have inside : next.fieldsAt? ["metadata"] = some inner := sameInside.trans reads.inside
  have nextMapping : ∃ fields, next.content = .mapping fields := by
    rcases Option.bind_eq_some_iff.1 inside with ⟨fields, nextOpens, _⟩
    rcases openFields?_eq_some.1 nextOpens with isMapping | ⟨isNull, _⟩
    · exact ⟨_, isMapping⟩
    · rw [notNull] at isNull
      cases isNull
  refine ⟨next, sets, metadata_eq_ok.2 ⟨inner, nextMapping, ?_, ?_, ?_, inside, ?_⟩⟩
  · exact Or.inl (by rw [readsApiVersion, Option.isSome_some])
  · rw [readsApiVersion, Metadata.scalarText_ofText]
  · rw [readsKind, Metadata.scalarText_ofText]
  · exact
      { name := reads.parts.name
        namespaceName := reads.parts.namespaceName
        labels := reads.parts.labels
        annotations := reads.parts.annotations }

end Node

end Manifest
