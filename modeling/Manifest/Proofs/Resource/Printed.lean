import Manifest.Proofs.Patch.Printed
import Manifest.Proofs.Resource.Equality
import Manifest.Proofs.Resource.Reload
import Manifest.Proofs.Yaml.Loaded

/-!
# Resources of printed documents

The printed form of a loaded document has a resource if the document has one,
but not always the same ids and annotations: these are read from the spelling of
scalars, and printing keeps values only.  What is kept is decided by a few
scalars, which have to be settled.

A scalar that is not settled stands for a truth value or a number.  Its two
texts have no commas and no slashes, so different texts of this kind are never
read alike.
-/

namespace Manifest

/-! ## Texts that differ for constants -/

/-- What tells constants apart tells a regular scalar from its printed form. -/
theorem Scalar.IsRegular.read_printed
    {α : Type}
    {read : String → α}
    {leaf : Scalar}
    (regular : leaf.IsRegular)
    (injective :
      ∀ {left right : String},
        Yaml.IsConstant left → Yaml.IsConstant right → read left = read right → left = right) :
    read leaf.printed.text = read leaf.text ↔ leaf.IsSettled := by
  rcases regular with settled | ⟨isConstant, printedIsConstant⟩
  · exact iff_of_true (congrArg read settled) settled
  · exact ⟨injective printedIsConstant isConstant, congrArg read⟩

namespace Node

theorem Loaded.readAt_printed
    {α : Type}
    {read : String → α}
    {node : Node}
    {names : List String}
    (loaded : node.Loaded)
    (injective :
      ∀ {left right : String},
        Yaml.IsConstant left → Yaml.IsConstant right → read left = read right → left = right) :
    read (node.printed.textAt names) = read (node.textAt names) ↔ node.SettledAt names := by
  cases found : node.leafAt? names with
  | none =>
      have settled : node.SettledAt names := settledAt_of_absent found
      exact iff_of_true (congrArg read (textAt_printed.2 settled)) settled
  | some leaf =>
      rw [settledAt_of_leaf found, textAt, textAt, leafAt?_printed, found]
      exact (loaded.regular names found).read_printed injective

end Node

theorem Gvk.splitApiVersion_injective
    {left right : String}
    (leftIsConstant : Yaml.IsConstant left)
    (rightIsConstant : Yaml.IsConstant right)
    (same : splitApiVersion left = splitApiVersion right) :
    left = right := by
  rw [leftIsConstant.splitApiVersion, rightIsConstant.splitApiVersion] at same
  exact congrArg Prod.snd same

namespace Metadata

/-! ## The oldest id -/

/-- The first entry of a list of texts. -/
def firstEntry (entries : String) : String :=
  (Text.split ',' entries).headD ""

theorem head?_split (entries : String) :
    (Text.split ',' entries).head? = some (firstEntry entries) := by
  rw [firstEntry, Text.split]
  cases pieces : Text.pieces ',' entries.toList with
  | nil => exact absurd pieces (Text.pieces_ne_nil ',' entries.toList)
  | cons piece rest => rfl

theorem firstEntry_injective
    {left right : String}
    (leftIsConstant : Yaml.IsConstant left)
    (rightIsConstant : Yaml.IsConstant right)
    (same : firstEntry left = firstEntry right) :
    left = right := by
  rw [firstEntry, firstEntry, leftIsConstant.split_comma, rightIsConstant.split_comma] at same
  exact same

/-- The annotations that note the earlier ids. -/
def previousIdKeys : List String :=
  [BuildNote.previousNames, BuildNote.previousNamespaces, BuildNote.previousKinds]

/-- The oldest id that is noted has the first entries, and the group and version of today. -/
theorem initialId_of_notes
    {metadata : Metadata}
    {names namespaces kinds : String}
    (hasNames : metadata.annotations.get? BuildNote.previousNames = some names)
    (hasNamespaces : metadata.annotations.get? BuildNote.previousNamespaces = some namespaces)
    (hasKinds : metadata.annotations.get? BuildNote.previousKinds = some kinds) :
    metadata.initialId =
      { gvk := { metadata.gvk with kind := firstEntry kinds }
        namespaceName := firstEntry namespaces
        name := firstEntry names } := by
  have splitNames := head?_split names
  have splitNamespaces := head?_split namespaces
  have splitKinds := head?_split kinds
  rw [List.head?_eq_some_iff] at splitNames splitNamespaces splitKinds
  rcases splitNames with ⟨otherNames, splitNames⟩
  rcases splitNamespaces with ⟨otherNamespaces, splitNamespaces⟩
  rcases splitKinds with ⟨otherKinds, splitKinds⟩
  simp [initialId, previousIds, hasNames, hasNamespaces, hasKinds, splitNames, splitNamespaces,
    splitKinds]

/-- Without one of the notes the initial id is that of today. -/
theorem initialId_of_absent
    {metadata : Metadata}
    {key : String}
    (isIdKey : key ∈ previousIdKeys)
    (absent : metadata.annotations.get? key = none) :
    metadata.initialId = metadata.resourceId := by
  have noIds : metadata.previousIds = [] := by
    rw [previousIds]
    simp only [previousIdKeys, List.mem_cons, List.not_mem_nil, or_false] at isIdKey
    rcases isIdKey with rfl | rfl | rfl
    · rw [absent]
    · cases metadata.annotations.get? BuildNote.previousNames with
      | none => rfl
      | some names => rw [absent]
    · cases metadata.annotations.get? BuildNote.previousNames with
      | none => rfl
      | some names =>
          cases metadata.annotations.get? BuildNote.previousNamespaces with
          | none => rfl
          | some namespaces => rw [absent]
  rw [initialId, noIds]
  rfl

end Metadata

/-! ## Build annotations -/

namespace BuildNote

/-- As many annotations are left as there were exactly if none is of the build. -/
theorem strip_size_eq
    {annotations : StringMap} :
    (strip annotations).size = annotations.size ↔
      ∀ key, isKey key = true → annotations.get? key = none := by
  constructor
  · intro sameSize key isBuildKey
    rw [← strip_of_size_eq sameSize, get?_strip, if_pos isBuildKey]
  · intro absent
    apply congrArg List.length
    apply List.filter_eq_self.2
    intro entry member
    cases isBuildKey : isKey entry.1 with
    | false => simp [isBuildKey]
    | true =>
        have found := Fields.get?_of_mem annotations.ascending.distinct member
        have missing := absent entry.1 isBuildKey
        rw [StringMap.get?, found] at missing
        cases missing

end BuildNote

namespace Resource

variable
  {resource : Resource}
  {metadata : Metadata}

/-- A document without build annotations is compared as it is. -/
theorem comparableNode_of_plain
    (reads : resource.node.metadata = .ok metadata)
    (plain : ∀ key, BuildNote.isKey key = true → metadata.annotations.get? key = none) :
    resource.comparableNode = .ok resource.node := by
  rw [comparableNode, removeBuildAnnotations, Node.annotations_of_metadata reads,
    Outcome.reading_ok]
  dsimp only
  rw [if_pos (BuildNote.strip_size_eq.2 plain)]
  rfl

/-- A document with build annotations is compared with the others written anew. -/
theorem comparableNode_of_noted
    {key text : String}
    {next : Node}
    (reads : resource.node.metadata = .ok metadata)
    (isBuildKey : BuildNote.isKey key = true)
    (found : metadata.annotations.get? key = some text)
    (sets :
      resource.node.setAnnotations (BuildNote.strip metadata.annotations) = .done () next) :
    resource.comparableNode = .ok next := by
  have smaller :
      (BuildNote.strip metadata.annotations).size ≠ metadata.annotations.size := by
    intro sameSize
    rw [BuildNote.strip_size_eq.1 sameSize key isBuildKey] at found
    cases found
  rw [comparableNode, removeBuildAnnotations, Node.annotations_of_metadata reads,
    Outcome.reading_ok]
  dsimp only
  rw [if_neg smaller, editNode, sets]
  rfl

end Resource

namespace Node

/-! ## Settled documents -/

/-- The document has an annotation. -/
def IsAnnotated (key : String) (node : Node) : Prop :=
  (node.leafAt? (annotationNames key)).isSome = true

/--
The scalars that the ids and the other annotations are read from are settled.
The notes of earlier ids count only if all of them are there, and the other
annotations only if they are written anew for a comparison, which a build
annotation brings about.
-/
structure IsSettled (node : Node) : Prop where
  apiVersion : node.SettledAt ["apiVersion"]
  kind : node.SettledAt ["kind"]
  name : node.SettledAt ["metadata", "name"]
  namespaceName : node.SettledAt ["metadata", "namespace"]
  previousIds :
    (∀ key ∈ Metadata.previousIdKeys, node.IsAnnotated key) →
      ∀ key ∈ Metadata.previousIdKeys, node.SettledAt (annotationNames key)
  annotations :
    (∃ key, BuildNote.isKey key = true ∧ node.IsAnnotated key) →
      ∀ key, BuildNote.isKey key = false → node.SettledAt (annotationNames key)

/-! ## Metadata before and after printing -/

theorem get?_annotations_printed
    {node : Node}
    {metadata : Metadata}
    (wellFormed : node.WellFormed)
    (readsPrinted : node.printed.metadata = .ok metadata)
    (key : String) :
    metadata.annotations.get? key =
      ((node.leafAt? (annotationNames key)).map Scalar.printed).map Scalar.text := by
  rw [get?_annotations wellFormed.printed readsPrinted, leafAt?_printed]

section Printed

variable
  {node : Node}
  {metadata next : Metadata}
  (loaded : node.Loaded)
  (reads : node.metadata = .ok metadata)
  (readsPrinted : node.printed.metadata = .ok next)

include loaded reads

theorem isAnnotated_iff
    {key : String} :
    node.IsAnnotated key ↔ ∃ text, metadata.annotations.get? key = some text := by
  rw [IsAnnotated, get?_annotations loaded.wellFormed reads]
  cases node.leafAt? (annotationNames key) with
  | none => simp
  | some leaf => simp

theorem not_isAnnotated_iff
    {key : String} :
    ¬node.IsAnnotated key ↔ metadata.annotations.get? key = none := by
  rw [isAnnotated_iff loaded reads, Option.eq_none_iff_forall_ne_some, not_exists]

include readsPrinted

theorem absent_printed_iff
    {key : String} :
    next.annotations.get? key = none ↔ metadata.annotations.get? key = none := by
  rw [get?_annotations_printed loaded.wellFormed readsPrinted,
    get?_annotations loaded.wellFormed reads]
  cases node.leafAt? (annotationNames key) <;> simp

/-- An annotation is read alike exactly if its scalar is settled. -/
theorem annotation_printed_iff
    {key : String} :
    metadata.annotations.get? key = next.annotations.get? key ↔
      node.SettledAt (annotationNames key) := by
  rw [get?_annotations_printed loaded.wellFormed readsPrinted,
    get?_annotations loaded.wellFormed reads]
  cases found : node.leafAt? (annotationNames key) with
  | none => exact iff_of_true rfl (settledAt_of_absent found)
  | some leaf =>
      rw [settledAt_of_leaf found, Option.map_some, Option.map_some, Option.map_some,
        Option.some_inj]
      exact eq_comm

/-- What tells constants apart tells annotations with different texts apart. -/
theorem annotation_texts
    {key text printedText : String}
    (found : metadata.annotations.get? key = some text)
    (foundPrinted : next.annotations.get? key = some printedText) :
    text = node.textAt (annotationNames key) ∧
      printedText = node.printed.textAt (annotationNames key) := by
  rw [get?_annotations loaded.wellFormed reads] at found
  rw [get?_annotations loaded.wellFormed.printed readsPrinted] at foundPrinted
  rw [textAt, textAt, found, foundPrinted]
  exact ⟨rfl, rfl⟩

theorem gvk_printed_iff :
    next.gvk = metadata.gvk ↔ node.SettledAt ["apiVersion"] ∧ node.SettledAt ["kind"] := by
  rw [← loaded.readAt_printed Gvk.splitApiVersion_injective, ← textAt_printed,
    ← apiVersion_eq_textAt reads, ← apiVersion_eq_textAt readsPrinted, ← kind_eq_textAt reads,
    ← kind_eq_textAt readsPrinted, Metadata.gvk, Metadata.gvk, Gvk.ofApiVersion,
    Gvk.ofApiVersion, Gvk.mk.injEq, Prod.ext_iff, and_assoc]

/-- The current id is kept exactly if its four scalars are settled. -/
theorem resourceId_printed_iff :
    next.resourceId = metadata.resourceId ↔
      node.SettledAt ["apiVersion"] ∧ node.SettledAt ["kind"] ∧
        node.SettledAt ["metadata", "name"] ∧ node.SettledAt ["metadata", "namespace"] := by
  rw [Metadata.resourceId, Metadata.resourceId, ResourceId.mk.injEq,
    gvk_printed_iff loaded reads readsPrinted, name_eq_textAt reads, name_eq_textAt readsPrinted,
    namespaceName_eq_textAt reads, namespaceName_eq_textAt readsPrinted, textAt_printed,
    textAt_printed, and_assoc, and_comm (a := node.SettledAt ["metadata", "namespace"])]

/-- A noted id is read alike exactly if its note is settled. -/
theorem firstEntry_printed
    {key : String}
    (isAnnotated : node.IsAnnotated key) :
    ∃ text printedText,
      metadata.annotations.get? key = some text ∧
      next.annotations.get? key = some printedText ∧
      (Metadata.firstEntry printedText = Metadata.firstEntry text ↔
        node.SettledAt (annotationNames key)) := by
  rcases (isAnnotated_iff loaded reads).1 isAnnotated with ⟨text, found⟩
  have present : next.annotations.get? key ≠ none := by
    rw [ne_eq, absent_printed_iff loaded reads readsPrinted, found]
    exact Option.some_ne_none text
  rcases Option.ne_none_iff_exists'.1 present with ⟨printedText, foundPrinted⟩
  rcases annotation_texts loaded reads readsPrinted found foundPrinted with
    ⟨isText, isPrintedText⟩
  refine ⟨text, printedText, found, foundPrinted, ?_⟩
  rw [isText, isPrintedText]
  exact loaded.readAt_printed Metadata.firstEntry_injective

/-- The initial id is kept exactly if the notes of earlier ids are settled, where they count. -/
theorem initialId_printed_iff
    (sameId : next.resourceId = metadata.resourceId) :
    next.initialId = metadata.initialId ↔
      ((∀ key ∈ Metadata.previousIdKeys, node.IsAnnotated key) →
        ∀ key ∈ Metadata.previousIdKeys, node.SettledAt (annotationNames key)) := by
  by_cases allNoted : ∀ key ∈ Metadata.previousIdKeys, node.IsAnnotated key
  · have entries :=
      fun key isIdKey => firstEntry_printed loaded reads readsPrinted (allNoted key isIdKey)
    rcases entries BuildNote.previousNames (by simp [Metadata.previousIdKeys]) with
      ⟨names, printedNames, hasNames, printedHasNames, namesSettled⟩
    rcases entries BuildNote.previousNamespaces (by simp [Metadata.previousIdKeys]) with
      ⟨namespaces, printedNamespaces, hasNamespaces, printedHasNamespaces, namespacesSettled⟩
    rcases entries BuildNote.previousKinds (by simp [Metadata.previousIdKeys]) with
      ⟨kinds, printedKinds, hasKinds, printedHasKinds, kindsSettled⟩
    have sameGvk : next.gvk = metadata.gvk := congrArg ResourceId.gvk sameId
    rw [Metadata.initialId_of_notes hasNames hasNamespaces hasKinds,
      Metadata.initialId_of_notes printedHasNames printedHasNamespaces printedHasKinds, sameGvk,
      forall_prop_of_true allNoted, ResourceId.mk.injEq, Gvk.mk.injEq, namesSettled,
      namespacesSettled, kindsSettled]
    simp only [Metadata.previousIdKeys, List.forall_mem_cons, List.not_mem_nil, false_implies,
      implies_true, true_and, and_true]
    constructor
    · rintro ⟨kindsIsSettled, namespacesIsSettled, namesIsSettled⟩
      exact ⟨namesIsSettled, namespacesIsSettled, kindsIsSettled⟩
    · rintro ⟨namesIsSettled, namespacesIsSettled, kindsIsSettled⟩
      exact ⟨kindsIsSettled, namespacesIsSettled, namesIsSettled⟩
  · refine iff_of_true ?_ fun noted => absurd noted allNoted
    simp only [not_forall] at allNoted
    rcases allNoted with ⟨key, isIdKey, notNoted⟩
    have absent := (not_isAnnotated_iff loaded reads).1 notNoted
    have absentPrinted := (absent_printed_iff loaded reads readsPrinted).2 absent
    rw [Metadata.initialId_of_absent isIdKey absent,
      Metadata.initialId_of_absent isIdKey absentPrinted, sameId]

/-- A behavior that the document names survives printing. -/
theorem behavior_printed
    {behavior : Behavior}
    (readsBehavior : metadata.behavior = .ok behavior) :
    next.behavior = .ok behavior := by
  rw [Metadata.behavior] at readsBehavior
  rw [Metadata.behavior]
  cases found : metadata.annotations.get? BuildNote.generatorBehavior with
  | none =>
      rw [found] at readsBehavior
      rw [(absent_printed_iff loaded reads readsPrinted).2 found]
      exact readsBehavior
  | some text =>
      have settled : node.SettledAt (annotationNames BuildNote.generatorBehavior) := by
        intro leaf isLeaf
        have sameText : leaf.text = text := by
          rw [get?_annotations loaded.wellFormed reads, isLeaf] at found
          exact Option.some.inj found
        rcases loaded.regular _ isLeaf with isSettled | ⟨isConstant, _⟩
        · exact isSettled
        · rw [found] at readsBehavior
          rw [sameText] at isConstant
          simp only [isConstant.parse_behavior] at readsBehavior
          cases readsBehavior
      rw [← (annotation_printed_iff loaded reads readsPrinted).2 settled, found]
      rw [found] at readsBehavior
      exact readsBehavior

/-- A document that stands for itself does so when it is printed. -/
theorem Standalone.printed
    (standalone : node.Standalone) :
    node.printed.Standalone where
  notNull := by
    rw [isNull_printed]
    exact standalone.notNull
  notList := by
    have notList := standalone.notList
    rw [isList_of_metadata reads, beq_eq_false_iff_ne, kind_eq_textAt reads] at notList
    rw [isList_of_metadata readsPrinted, beq_eq_false_iff_ne, kind_eq_textAt readsPrinted]
    cases found : node.leafAt? ["kind"] with
    | none =>
        rw [textAt_printed.2 (settledAt_of_absent found)]
        exact notList
    | some leaf =>
        rcases loaded.regular _ found with isSettled | ⟨_, isConstant⟩
        · rw [textAt_printed.2 ((settledAt_of_leaf found).2 isSettled)]
          exact notList
        · rw [textAt, leafAt?_printed, found]
          exact isConstant.ne_list

/-- Without the build annotations, the same ones are left exactly if they are settled. -/
theorem strip_printed_iff :
    (∀ key,
        (BuildNote.strip metadata.annotations).get? key =
          (BuildNote.strip next.annotations).get? key) ↔
      ∀ key, BuildNote.isKey key = false → node.SettledAt (annotationNames key) := by
  refine forall_congr' fun key => ?_
  rw [BuildNote.get?_strip, BuildNote.get?_strip]
  cases isBuildKey : BuildNote.isKey key with
  | true => simp
  | false =>
      rw [if_neg Bool.false_ne_true, if_neg Bool.false_ne_true,
        annotation_printed_iff loaded reads readsPrinted, forall_prop_of_true rfl]

end Printed

/-- Annotations are in a section of the document. -/
theorem hasSection_of_isAnnotated
    {node : Node}
    {key : String}
    (isAnnotated : node.IsAnnotated key) :
    ∃ fields inner, node.HasSection fields inner := by
  rcases Option.isSome_iff_exists.1 isAnnotated with ⟨leaf, isLeaf⟩
  rcases Option.bind_eq_some_iff.1 isLeaf with ⟨child, isChild, isLeaf⟩
  rcases Option.bind_eq_some_iff.1 isLeaf with ⟨annotations, areAnnotations, _⟩
  rcases child?_eq_some.1 isChild with ⟨fields, isMapping, found⟩
  rcases child?_eq_some.1 areAnnotations with ⟨inner, isSection, _⟩
  exact ⟨fields, inner, isMapping, child, found, isSection⟩

end Node

namespace Resource

/-! ## Resources that agree -/

/-- Two resources have the same ids, and a comparison finds no difference between them. -/
structure Agrees (left right : Resource) : Prop where
  currentId : right.currentId = left.currentId
  initialId : right.initialId = left.initialId
  content :
    ∃ comparison,
      Collection.compareResources left right = .ok comparison ∧ comparison.isSame = true

/-- What is compared without build annotations is alike. -/
theorem compareResources_of_plain
    {resource reprinted : Resource}
    {metadata next : Metadata}
    (loaded : resource.node.Loaded)
    (notNaN : resource.node.hasNaN = false)
    (isPrinted : reprinted.node = resource.node.printed)
    (reads : resource.node.metadata = .ok metadata)
    (readsPrinted : resource.node.printed.metadata = .ok next)
    (notNoted : ¬∃ key, BuildNote.isKey key = true ∧ resource.node.IsAnnotated key) :
    ∃ comparison,
      Collection.compareResources resource reprinted = .ok comparison ∧
        comparison.isSame = true := by
  have plain : ∀ key, BuildNote.isKey key = true → metadata.annotations.get? key = none := by
    intro key isBuildKey
    rw [← Node.not_isAnnotated_iff loaded reads]
    exact fun isAnnotated => notNoted ⟨key, isBuildKey, isAnnotated⟩
  have printedPlain : ∀ key, BuildNote.isKey key = true → next.annotations.get? key = none := by
    intro key isBuildKey
    exact (Node.absent_printed_iff loaded reads readsPrinted).2 (plain key isBuildKey)
  rw [← isPrinted] at readsPrinted
  refine ⟨_, compareResources_eq_ok (comparableNode_of_plain reads plain)
    (comparableNode_of_plain readsPrinted printedPlain), ?_⟩
  rw [isPrinted, Node.isSame_ofNodes]
  exact Node.alike_printed loaded.wellFormed notNaN

/-- Beside a build annotation the others are written anew, and have to be settled. -/
theorem compareResources_of_noted
    {resource reprinted : Resource}
    {metadata next : Metadata}
    {key : String}
    (loaded : resource.node.Loaded)
    (notNaN : resource.node.hasNaN = false)
    (isPrinted : reprinted.node = resource.node.printed)
    (reads : resource.node.metadata = .ok metadata)
    (readsPrinted : resource.node.printed.metadata = .ok next)
    (isBuildKey : BuildNote.isKey key = true)
    (isAnnotated : resource.node.IsAnnotated key) :
    ∃ comparison,
      Collection.compareResources resource reprinted = .ok comparison ∧
      (comparison.isSame = true ↔
        ∀ other, BuildNote.isKey other = false →
          resource.node.SettledAt (Node.annotationNames other)) := by
  rcases Node.hasSection_of_isAnnotated isAnnotated with ⟨fields, inner, hasSection⟩
  rcases Node.firstEntry_printed loaded reads readsPrinted isAnnotated with
    ⟨text, printedText, hasText, printedHasText, _⟩
  rcases
      Node.alike_setAnnotations loaded.wellFormed notNaN hasSection
        (BuildNote.strip metadata.annotations) (BuildNote.strip next.annotations) with
    ⟨left, right, setsLeft, setsRight, alike⟩
  rw [Node.strip_printed_iff loaded reads readsPrinted] at alike
  rw [← isPrinted] at setsRight readsPrinted
  refine ⟨_, compareResources_eq_ok (comparableNode_of_noted reads isBuildKey hasText setsLeft)
    (comparableNode_of_noted readsPrinted isBuildKey printedHasText setsRight), ?_⟩
  rw [Node.isSame_ofNodes, alike]

/--
A resource compares with that of its printed document, and no difference is found
exactly if the annotations are settled, where they are written anew.
-/
theorem compareResources_printed
    {resource reprinted : Resource}
    {metadata next : Metadata}
    (loaded : resource.node.Loaded)
    (notNaN : resource.node.hasNaN = false)
    (isPrinted : reprinted.node = resource.node.printed)
    (reads : resource.node.metadata = .ok metadata)
    (readsPrinted : resource.node.printed.metadata = .ok next) :
    ∃ comparison,
      Collection.compareResources resource reprinted = .ok comparison ∧
      (comparison.isSame = true ↔
        ((∃ key, BuildNote.isKey key = true ∧ resource.node.IsAnnotated key) →
          ∀ key, BuildNote.isKey key = false →
            resource.node.SettledAt (Node.annotationNames key))) := by
  by_cases isNoted : ∃ key, BuildNote.isKey key = true ∧ resource.node.IsAnnotated key
  · rw [forall_prop_of_true isNoted]
    rcases isNoted with ⟨key, isBuildKey, isAnnotated⟩
    exact compareResources_of_noted loaded notNaN isPrinted reads readsPrinted isBuildKey
      isAnnotated
  · rcases compareResources_of_plain loaded notNaN isPrinted reads readsPrinted isNoted with
      ⟨comparison, compares, isSame⟩
    exact ⟨comparison, compares, iff_of_true isSame fun noted => absurd noted isNoted⟩

/--
The printed form of a loaded document with a resource has a resource, and the two
agree exactly if the document is settled.
-/
theorem ofNode_printed
    {resource : Resource}
    (loaded : resource.node.Loaded)
    (notNaN : resource.node.hasNaN = false)
    (standalone : resource.node.Standalone)
    (builds : ofNode resource.node = .ok resource) :
    ∃ reprinted,
      ofNode resource.node.printed = .ok reprinted ∧
      resource.node.printed.Standalone ∧
      (resource.Agrees reprinted ↔ resource.node.IsSettled) := by
  rcases ofNode_eq_ok.1 builds with
    ⟨metadata, reads, readsBehavior, _, sameInitialId, sameCurrentId⟩
  rcases Node.metadata_printed reads with ⟨next, readsPrinted⟩
  let reprinted : Resource :=
    { node := resource.node.printed
      initialId := next.initialId
      currentId := next.resourceId
      behavior := resource.behavior }
  have buildsPrinted : ofNode resource.node.printed = .ok reprinted :=
    ofNode_eq_ok.2
      ⟨next, readsPrinted, Node.behavior_printed loaded reads readsPrinted readsBehavior, rfl, rfl,
        rfl⟩
  rcases
      @compareResources_printed resource reprinted metadata next loaded notNaN rfl reads
        readsPrinted with
    ⟨comparison, compares, isSame⟩
  refine ⟨reprinted, buildsPrinted, standalone.printed loaded reads readsPrinted, ?_⟩
  constructor
  · intro agrees
    have sameId : next.resourceId = metadata.resourceId := agrees.currentId.trans sameCurrentId
    rcases (Node.resourceId_printed_iff loaded reads readsPrinted).1 sameId with
      ⟨apiVersion, kind, name, namespaceName⟩
    rcases agrees.content with ⟨other, comparesOther, otherIsSame⟩
    rw [compares] at comparesOther
    cases comparesOther
    exact
      { apiVersion
        kind
        name
        namespaceName
        previousIds :=
          (Node.initialId_printed_iff loaded reads readsPrinted sameId).1
            (agrees.initialId.trans sameInitialId)
        annotations := isSame.1 otherIsSame }
  · intro settled
    have sameId : next.resourceId = metadata.resourceId :=
      (Node.resourceId_printed_iff loaded reads readsPrinted).2
        ⟨settled.apiVersion, settled.kind, settled.name, settled.namespaceName⟩
    exact
      { currentId := sameId.trans sameCurrentId.symm
        initialId :=
          ((Node.initialId_printed_iff loaded reads readsPrinted sameId).2
            settled.previousIds).trans sameInitialId.symm
        content := ⟨comparison, compares, isSame.2 settled.annotations⟩ }

end Resource

end Manifest
