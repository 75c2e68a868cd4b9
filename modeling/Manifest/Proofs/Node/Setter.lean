import Manifest.Proofs.Node.Metadata
import Manifest.Proofs.Node.Written

/-!
# Parts of a document and their setters

A document whose metadata can be read has six parts that can be set: its type, name,
namespace, labels, annotations and data.  Setting one of them always succeeds.  It gives
that part the new content, and leaves every other part and every other field as it was.
A second setting of the same part takes the place of the first one.

Each setter is a list of writes and removals at names that are apart.  So what it does to
the value of a document is what such writes do, and what it does to another part is decided
by the fields that the part is read from.
-/

namespace Manifest

/-- What can be set of a document as a whole. -/
inductive Part where
  | gvk
  | name
  | namespaceName
  | labels
  | annotations
  | data
deriving DecidableEq, Repr

namespace Part

/-- Writes a map of texts at a field, and removes the field for the empty map. -/
def mapPut (parents : List String) (name : String) (map : StringMap) : Node.Put :=
  ⟨parents, name, if map.isEmpty then none else some (.ofStringMap map)⟩

theorem wellFormed_mapPut
    (parents : List String)
    (name : String)
    (map : StringMap) :
    (mapPut parents name map).WellFormed := by
  intro value isValue
  rw [mapPut] at isValue
  split at isValue
  · cases isValue
  · cases isValue
    exact Node.wellFormed_ofStringMap map

theorem writeStringMap_eq_putAll
    (parents : List String)
    (name : String)
    (map : StringMap)
    (node : Node) :
    Node.writeStringMap parents name map node = Node.putAll [mapPut parents name map] node := by
  simp only [Node.writeStringMap, mapPut, Node.putAll, Node.Put.run, Outcome.andThen_done_right]
  split <;> rfl

/-- The contents that a part can have. -/
abbrev Content : Part → Type
  | gvk => Gvk
  | name => String
  | namespaceName => String
  | labels => StringMap
  | annotations => StringMap
  | data => StringMap

/-- The part of a document. -/
def read : (part : Part) → Node → Except DocumentError part.Content
  | gvk, node => node.metadata.map Metadata.gvk
  | name, node => node.metadata.map Metadata.name
  | namespaceName, node => node.metadata.map Metadata.namespaceName
  | labels, node => node.labels
  | annotations, node => node.annotations
  | data, node => node.dataMap

/-- Sets a part of a document. -/
def set : (part : Part) → part.Content → Node → Node.Edited Node
  | gvk, content, node => node.setGvk content
  | name, content, node => node.setName content
  | namespaceName, content, node => node.setNamespace content
  | labels, content, node => node.setLabels content
  | annotations, content, node => node.setAnnotations content
  | data, content, node => node.setDataMap content

/-- The metadata of a document with a part set. -/
def place : (part : Part) → part.Content → Metadata → Metadata
  | gvk, content, metadata =>
      { metadata with apiVersion := content.apiVersion, kind := content.kind }
  | name, content, metadata => { metadata with name := content }
  | namespaceName, content, metadata => { metadata with namespaceName := content }
  | labels, content, metadata => { metadata with labels := content }
  | annotations, content, metadata => { metadata with annotations := content }
  | data, _, metadata => metadata

/-- A content that is read from what it is written as: of types, not every one is. -/
def IsReadable : (part : Part) → part.Content → Prop
  | gvk, content => Gvk.ofApiVersion content.apiVersion content.kind = content
  | _, _ => True

/-- A content that is set by a removal. -/
def isRemoval : (part : Part) → part.Content → Bool
  | gvk, _ => false
  | name, _ => false
  | namespaceName, content => content == ""
  | labels, content => content.isEmpty
  | annotations, content => content.isEmpty
  | data, content => content.isEmpty

/-- The writes and removals that set a part. -/
def puts : (part : Part) → part.Content → List Node.Put
  | gvk, content =>
      [⟨[], "kind", some (.ofText content.kind)⟩,
        ⟨[], "apiVersion", some (.ofText content.apiVersion)⟩]
  | name, content => [⟨["metadata"], "name", some (.ofText content)⟩]
  | namespaceName, content =>
      [⟨["metadata"], "namespace", if content = "" then none else some (.ofText content)⟩]
  | labels, content => [mapPut ["metadata"] "labels" content]
  | annotations, content => [mapPut ["metadata"] "annotations" content]
  | data, content => [mapPut [] "data" content]

/-- The names at which a part stands in a document. -/
def paths : Part → List (List String)
  | gvk => [["kind"], ["apiVersion"]]
  | name => [["metadata", "name"]]
  | namespaceName => [["metadata", "namespace"]]
  | labels => [["metadata", "labels"]]
  | annotations => [["metadata", "annotations"]]
  | data => [["data"]]

theorem set_eq_putAll
    (part : Part)
    (content : part.Content)
    (node : Node) :
    part.set content node = Node.putAll (part.puts content) node := by
  cases part with
  | gvk =>
      simp only [set, Node.setGvk, puts, Node.putAll, Node.Put.run, Outcome.andThen_done_right]
  | name =>
      simp only [set, Node.setName, puts, Node.putAll, Node.Put.run, Outcome.andThen_done_right]
  | namespaceName =>
      simp only [set, Node.setNamespace, puts, Node.putAll, Node.Put.run,
        Outcome.andThen_done_right]
      split <;> rfl
  | labels => exact writeStringMap_eq_putAll _ _ _ _
  | annotations => exact writeStringMap_eq_putAll _ _ _ _
  | data => exact writeStringMap_eq_putAll _ _ _ _

theorem map_path_puts
    (part : Part)
    (content : part.Content) :
    (part.puts content).map Node.Put.path = part.paths := by
  cases part <;> rfl

theorem allApart_puts
    (part : Part)
    (content : part.Content) :
    Value.AllApart ((part.puts content).map Node.Put.write) := by
  have apart : part.paths.Pairwise Value.Apart := by
    cases part <;> decide
  exact Node.allApart_writes (part.map_path_puts content ▸ apart)

theorem wellFormed_puts
    (part : Part)
    (content : part.Content) :
    ∀ put ∈ part.puts content, put.WellFormed := by
  cases part with
  | gvk =>
      refine List.forall_mem_cons.2 ⟨?_, List.forall_mem_singleton.2 ?_⟩ <;> rintro _ ⟨⟩ <;>
        exact Node.wellFormed_ofText _
  | name =>
      refine List.forall_mem_singleton.2 ?_
      rintro _ ⟨⟩
      exact Node.wellFormed_ofText _
  | namespaceName =>
      refine List.forall_mem_singleton.2 ?_
      intro value isValue
      split at isValue
      · cases isValue
      · cases isValue
        exact Node.wellFormed_ofText _
  | labels => exact List.forall_mem_singleton.2 (wellFormed_mapPut _ _ _)
  | annotations => exact List.forall_mem_singleton.2 (wellFormed_mapPut _ _ _)
  | data => exact List.forall_mem_singleton.2 (wellFormed_mapPut _ _ _)

/-- What is not removed is set. -/
theorem isSome_content_of_kept
    {part : Part}
    {content : part.Content}
    (kept : part.isRemoval content = false) :
    ∀ put ∈ part.puts content, put.content.isSome := by
  have isSome_mapPut :
      ∀ {parents : List String} {name : String} {map : StringMap},
        map.isEmpty = false → (mapPut parents name map).content.isSome := by
    intro parents name map notEmpty
    rw [mapPut, notEmpty]
    rfl
  cases part with
  | gvk => exact List.forall_mem_cons.2 ⟨rfl, List.forall_mem_singleton.2 rfl⟩
  | name => exact List.forall_mem_singleton.2 rfl
  | namespaceName =>
      have notEmpty : content ≠ "" := by
        simpa [isRemoval] using kept
      exact List.forall_mem_singleton.2 (by rw [if_neg notEmpty]; rfl)
  | labels => exact List.forall_mem_singleton.2 (isSome_mapPut kept)
  | annotations => exact List.forall_mem_singleton.2 (isSome_mapPut kept)
  | data => exact List.forall_mem_singleton.2 (isSome_mapPut kept)

section

variable
  {part : Part}
  {content : part.Content}
  {node next : Node}
  {metadata : Metadata}

/-- Setting a part of a document makes its writes in the value of the document. -/
theorem toValue_set
    (wellFormed : node.WellFormed)
    (sets : part.set content node = .done () next) :
    some next.toValue =
      Value.putAll ((part.puts content).map Node.Put.write) (some node.toValue) :=
  Node.toValue_putAll (part.wellFormed_puts content) wellFormed
    (part.set_eq_putAll content node ▸ sets)

theorem wellFormed_set
    (wellFormed : node.WellFormed)
    (sets : part.set content node = .done () next) :
    next.WellFormed :=
  Node.wellFormed_putAll (part.wellFormed_puts content) wellFormed
    (part.set_eq_putAll content node ▸ sets)

/-! ## What is read after a part is set -/

/-- A change of another field at the root leaves the metadata as it is. -/
theorem metadata_of_changed
    {key : String}
    {change : List (String × Node) → List (String × Node)}
    (reads : node.metadata = .ok metadata)
    (changes : Node.Changed [] key change node next)
    (notNull : next.isNull = false)
    (outside : key ∉ ["apiVersion", "kind", "metadata"]) :
    next.metadata = .ok metadata := by
  rcases Node.metadata_eq_ok.1 reads with ⟨inner, reads⟩
  rcases reads.isMapping with ⟨top, isMapping⟩
  have opens := Node.openFields?_of_content isMapping
  have nextOpens : next.openFields? = some (change top) := changes.inside top opens
  have same :
      ∀ other ∈ ["apiVersion", "kind", "metadata"], next.child? other = node.child? other := by
    rintro other member
    apply changes.beside other
    rintro rfl
    exact outside member
  have sameApiVersion := same "apiVersion" (by simp)
  have sameKind := same "kind" (by simp)
  have sameSection := same "metadata" (by simp)
  refine Node.metadata_eq_ok.2 ⟨inner, ?_, ?_, ?_, ?_, ?_, reads.parts⟩
  · rcases Node.openFields?_eq_some.1 nextOpens with nextIsMapping | ⟨isNull, _⟩
    · exact ⟨_, nextIsMapping⟩
    · rw [notNull] at isNull
      cases isNull
  · rw [sameApiVersion, sameKind, sameSection]
    exact reads.identified
  · rw [sameApiVersion]
    exact reads.apiVersion
  · rw [sameKind]
    exact reads.kind
  · rw [Node.fieldsAt?_cons nextOpens, ← Node.child?_of_open nextOpens, sameSection,
      Node.child?_of_open opens, ← Node.fieldsAt?_cons opens]
    exact reads.inside

/-- Setting the data gives these data, and leaves the metadata as it is. -/
theorem metadata_setDataMap
    (wellFormed : node.WellFormed)
    (reads : node.metadata = .ok metadata)
    (map : StringMap) :
    ∃ next,
      node.setDataMap map = .done () next ∧ next.metadata = .ok metadata ∧
        next.dataMap = .ok map := by
  rcases Node.metadata_eq_ok.1 reads with ⟨inner, readsInner⟩
  rcases readsInner.isMapping with ⟨top, isMapping⟩
  have opens : node.fieldsAt? [] = some top := Node.openFields?_of_content isMapping
  rcases Node.writeStringMap_reads wellFormed (Node.notNull_of_metadata reads) opens "data" map with
    ⟨next, change, writes, notNull, changes, _, readsBack⟩
  refine ⟨next, writes, metadata_of_changed reads changes notNull (by decide), ?_⟩
  have nextOpens : next.openFields? = some (change top) := changes.inside top opens
  rw [← Node.child?_of_open nextOpens] at readsBack
  exact readsBack

/-- Setting a part succeeds, and changes the metadata at that part. -/
theorem metadata_set
    (wellFormed : node.WellFormed)
    (reads : node.metadata = .ok metadata)
    (part : Part)
    (content : part.Content) :
    ∃ next,
      part.set content node = .done () next ∧
        next.metadata = .ok (part.place content metadata) := by
  cases part with
  | gvk => exact Node.metadata_setGvk reads content
  | name => exact Node.metadata_setName reads content
  | namespaceName => exact Node.metadata_setNamespace wellFormed reads content
  | labels => exact Node.metadata_setLabels wellFormed reads content
  | annotations => exact Node.metadata_setAnnotations wellFormed reads content
  | data =>
      rcases metadata_setDataMap wellFormed reads content with ⟨next, sets, readsNext, _⟩
      exact ⟨next, sets, readsNext⟩

/-- No other setter touches the data. -/
theorem dataMap_set
    (notData : part ≠ data)
    (sets : part.set content node = .done () next) :
    next.dataMap = node.dataMap := by
  have sameChild : next.child? "data" = node.child? "data" := by
    have beside : ∀ path ∈ part.paths, path.head? ≠ some "data" := by
      cases part with
      | data => exact absurd rfl notData
      | _ => decide
    apply Node.child?_putAll (part.set_eq_putAll content node ▸ sets)
    intro put member
    exact beside _ (part.map_path_puts content ▸ List.mem_map_of_mem member)
  exact congrArg (Metadata.stringMap · "data") sameChild

/-- A part that is set is read back. -/
theorem read_set
    (readable : part.IsReadable content)
    (wellFormed : node.WellFormed)
    (reads : node.metadata = .ok metadata)
    (sets : part.set content node = .done () next)
    (readsNext : next.metadata = .ok (part.place content metadata)) :
    part.read next = .ok content := by
  cases part with
  | gvk =>
      rw [read, readsNext]
      exact congrArg Except.ok readable
  | data =>
      rcases metadata_setDataMap wellFormed reads content with ⟨_, setsData, _, readsData⟩
      cases setsData.symm.trans sets
      exact readsData
  | name => rw [read, readsNext]; rfl
  | namespaceName => rw [read, readsNext]; rfl
  | labels => rw [read, Node.labels, readsNext]; rfl
  | annotations => rw [read, Node.annotations, readsNext]; rfl

/-- All other parts are read as before. -/
theorem read_set_other
    {other : Part}
    (different : other ≠ part)
    (reads : node.metadata = .ok metadata)
    (sets : part.set content node = .done () next)
    (readsNext : next.metadata = .ok (part.place content metadata)) :
    other.read next = other.read node := by
  cases other with
  | data => exact dataMap_set different.symm sets
  | gvk =>
      rw [read, read, readsNext, reads]
      cases part with
      | gvk => exact absurd rfl different
      | _ => rfl
  | name =>
      rw [read, read, readsNext, reads]
      cases part with
      | name => exact absurd rfl different
      | _ => rfl
  | namespaceName =>
      rw [read, read, readsNext, reads]
      cases part with
      | namespaceName => exact absurd rfl different
      | _ => rfl
  | labels =>
      rw [read, read, Node.labels, Node.labels, readsNext, reads]
      cases part with
      | labels => exact absurd rfl different
      | _ => rfl
  | annotations =>
      rw [read, read, Node.annotations, Node.annotations, readsNext, reads]
      cases part with
      | annotations => exact absurd rfl different
      | _ => rfl

end

/-! ## Laws of the setters -/

/-- A part of a document was set, and nothing else happened to it. -/
structure IsSet (part : Part) (content : part.Content) (node next : Node) : Prop where
  /-- The part has the content. -/
  reads : part.read next = .ok content
  /-- The metadata are those of before with the content in its place. -/
  metadata : next.metadata = node.metadata.map (part.place content)
  /-- Every other part is read as before. -/
  keeps : ∀ other, other ≠ part → other.read next = other.read node
  /-- The values that do not contain the part, and are not in it, are those of before. -/
  frame :
    ∀ names, (∀ path ∈ part.paths, Value.Apart path names) →
      next.toValue.getIn? names = node.toValue.getIn? names
  /-- To set the part to anything that is not removed, gives what it gives without this. -/
  overwritten :
    ∀ again, part.isRemoval again = false →
      ∃ twice once,
        part.set again next = .done () twice ∧ part.set again node = .done () once ∧
          twice.toValue = once.toValue

/-- Every part of a document can be set alone. -/
theorem set_isSet
    {node : Node}
    {metadata : Metadata}
    (wellFormed : node.WellFormed)
    (reads : node.metadata = .ok metadata)
    (part : Part)
    {content : part.Content}
    (readable : part.IsReadable content) :
    ∃ next, part.set content node = .done () next ∧ part.IsSet content node next := by
  rcases metadata_set wellFormed reads part content with ⟨next, sets, readsNext⟩
  have ordered : Value.OrderedAt (some node.toValue) := by
    rintro _ ⟨⟩
    exact wellFormed.ordered_toValue
  have nextWellFormed := wellFormed_set wellFormed sets
  have contents :
      ∀ content : part.Content,
        Value.OrderedContents ((part.puts content).map Node.Put.write) :=
    fun content => Node.orderedContents_writes (part.wellFormed_puts content)
  refine ⟨next, sets, read_set readable wellFormed reads sets readsNext, ?_, ?_, ?_, ?_⟩
  · rw [readsNext, reads]
    rfl
  · exact fun other different => read_set_other different reads sets readsNext
  · intro names apart
    have writesApart :
        ∀ write ∈ (part.puts content).map Node.Put.write, Value.Apart write.path names := by
      intro write member
      rcases List.mem_map.1 member with ⟨put, isPut, rfl⟩
      exact apart _ (part.map_path_puts content ▸ List.mem_map_of_mem isPut)
    have found := Value.getIn?_putAll (contents content) ordered writesApart
    rw [← toValue_set wellFormed sets] at found
    exact found
  · intro again kept
    rcases metadata_set nextWellFormed readsNext part again with ⟨twice, setsTwice, _⟩
    rcases metadata_set wellFormed reads part again with ⟨once, setsOnce, _⟩
    refine ⟨twice, once, setsTwice, setsOnce, Option.some.inj ?_⟩
    rw [toValue_set nextWellFormed setsTwice, toValue_set wellFormed sets,
      toValue_set wellFormed setsOnce]
    apply Value.putAll_putAll (part.allApart_puts again) (contents again) (contents content) ordered
    · rw [List.map_map, List.map_map]
      exact (part.map_path_puts content).trans (part.map_path_puts again).symm
    · intro write member
      rcases List.mem_map.1 member with ⟨put, isPut, rfl⟩
      rw [Node.Put.write, Option.isSome_map]
      exact isSome_content_of_kept kept put isPut

/-- A document whose section is an alias, with data that are no map. -/
def aliased : Node :=
  .mapping
    [("kind", .ofText "Pod"),
      ("metadata", .reference "web" (.mapping [("name", .ofText "web"), ("labels", .null)])),
      ("data", .ofText "none")]

/-- A type in a group can be set, and the data stay unreadable. -/
theorem aliased_isSet_gvk :
    aliased.WellFormed ∧
      aliased.metadata = .ok { kind := "Pod", name := "web" } ∧
      IsReadable .gvk ⟨"apps", "v1", "Deployment"⟩ ∧
      ∃ next,
        set .gvk ⟨"apps", "v1", "Deployment"⟩ aliased = .done () next ∧
          IsSet .gvk ⟨"apps", "v1", "Deployment"⟩ aliased next := by
  have nothing : Node.null.WellFormed := .scalar Scalar.null
  have inner : (Node.mapping [("name", .ofText "web"), ("labels", .null)]).WellFormed := by
    simp [nothing, Fields.names]
  have wellFormed : aliased.WellFormed := by
    simp [aliased, Node.WellFormed.reference inner, Fields.names]
  have reads : aliased.metadata = .ok { kind := "Pod", name := "web" } := rfl
  have readable : IsReadable .gvk ⟨"apps", "v1", "Deployment"⟩ := by
    show Gvk.ofApiVersion _ _ = _
    decide
  exact ⟨wellFormed, reads, readable, set_isSet wellFormed reads .gvk readable⟩

end Part

end Manifest
