import Manifest.Proofs.Node.Similar
import Manifest.Proofs.Patch.Repeated

/-!
# Patches that do what overlays do

A strategic merge and an overlay treat nothing, lists and new content in different ways:
a merge deletes where an overlay keeps, it merges some lists by keys, and it strips new
content of directives and of wrappers.  None of this shows where a patch has no
directives, nothing in it is nothing, and no field with merge keys holds a list.  Then
both set the same fields in the same order, whatever the target has in their places, and
what they set differs in its wrappers only.
-/

namespace Manifest

namespace Node

/-! ## Overlays of what is there -/

/-- The overlay on what is there, or all of the right where there is nothing. -/
def overlaid (existing : Option Node) (right : Node) : Node :=
  match existing with
  | some left => left.overlay right
  | none => right

theorem overlayFields_cons
    (left merged : List (String × Node))
    (name : String)
    (node : Node)
    (rest : List (String × Node)) :
    overlayFields left merged ((name, node) :: rest) =
      overlayFields left (Fields.set name (overlaid (Fields.get? name left) node) merged) rest := by
  rw [overlayFields]
  cases Fields.get? name left <;> rfl

/-- What is not merged takes the place of the left. -/
theorem unwrapped_overlay_of_apart
    {left right : Node}
    (notNull : right.isNull = false)
    (apart : left.mapping? = none ∨ right.mapping? = none) :
    (left.overlay right).unwrapped = right.unwrapped := by
  have contentNotNull : right.unwrapped.isNull = false := by
    rw [isNull_unwrapped, notNull]
  rw [overlay_unwrapped]
  rcases unwrapped_cases right with ⟨fields, isContent, isUnwrapped⟩ |
      ⟨items, isContent, isUnwrapped⟩ | ⟨leaf, isContent, isUnwrapped⟩ <;>
    rw [isUnwrapped] at contentNotNull ⊢
  · have noMapping : left.mapping? = none :=
      apart.resolve_right (by simp [mapping?, isContent])
    rw [overlay, content_unwrapped]
    rcases unwrapped_cases left with ⟨leftFields, isLeft, _⟩ | ⟨_, _, isUnwrapped⟩ |
        ⟨_, _, isUnwrapped⟩
    · simp [mapping?, isLeft] at noMapping
    · rw [isUnwrapped]
    · rw [isUnwrapped]
  · rw [overlay]
  · have leafNotNull : leaf.isNull = false := contentNotNull
    rw [overlay, leafNotNull]
    rfl

/-! ## The order of fields -/

/-- The names of the mapping at a path, in the order of its fields. -/
def namesAt (node : Node) (path : Path) : Except DocumentError (Option (List String)) :=
  (node.lookup path).map fun found => (found.bind mapping?).map Fields.names

theorem names_unwrapped (node : Node) :
    node.unwrapped.mapping?.map Fields.names = node.mapping?.map Fields.names := by
  rw [mapping?, mapping?, content_unwrapped]
  rcases unwrapped_cases node with ⟨fields, isContent, isUnwrapped⟩ |
      ⟨items, isContent, isUnwrapped⟩ | ⟨leaf, isContent, isUnwrapped⟩ <;>
    rw [isContent, isUnwrapped]
  rw [unwrappedFields_eq_mapContents, Option.map_some, Option.map_some, Fields.names_mapContents]

/-- Wrappers have no part in the names. -/
theorem namesAt_unwrapped
    (node : Node)
    (path : Path) :
    node.unwrapped.namesAt path = node.namesAt path := by
  rw [namesAt, namesAt, lookup_unwrapped]
  rcases node.lookup path with error | _ | found
  · rfl
  · rfl
  · exact congrArg Except.ok (names_unwrapped found)

theorem Similar.namesAt
    {left right : Node}
    (similar : Similar left right)
    (path : Path) :
    left.namesAt path = right.namesAt path := by
  rw [← namesAt_unwrapped, similar, namesAt_unwrapped]

end Node

namespace StrategicPatch

open Node

/-! ## Patches that merge no lists -/

/-- A node that is no list, unless lists are replaced in its field. -/
def ReplacesLists (field : String) (node : Node) : Prop :=
  mergeKeys field ≠ none → node.sequence? = none

/-- A patch without directives and without nothing, and without lists that are merged. -/
inductive Unkeyed : Node → Prop where
  | mapping
      {node : Node}
      {fields : List (String × Node)}
      (isMapping : node.content = .mapping fields)
      (noKeys : ∀ field ∈ fields, Directive.isKey field.1 = false)
      (replaces : ∀ field ∈ fields, ReplacesLists field.1 field.2)
      (contents : ∀ field ∈ fields, Unkeyed field.2) :
      Unkeyed node
  | sequence
      {node : Node}
      {items : List Node}
      (isSequence : node.content = .sequence items)
      (contents : ∀ item ∈ items, Unkeyed item) :
      Unkeyed node
  | scalar
      {node : Node}
      {leaf : Scalar}
      (isScalar : node.content = .scalar leaf)
      (notNull : leaf.isNull = false) :
      Unkeyed node

/-- Without lists that are merged, there are no elements to tell apart. -/
theorem Unkeyed.plain
    {node : Node}
    (unkeyed : Unkeyed node) :
    Plain node := by
  induction unkeyed with
  | mapping isMapping noKeys replaces _ inductionHypothesis =>
      refine .mapping isMapping noKeys ?_ inductionHypothesis
      intro field member key others items hasKeys isSequence
      have noList := replaces field member (by simp [hasKeys])
      simp [sequence?, isSequence] at noList
  | sequence isSequence _ inductionHypothesis => exact .sequence isSequence inductionHypothesis
  | scalar isScalar notNull => exact .scalar isScalar notNull

/-! ## New content -/

section

variable
  {fields : List (String × Node)}
  {items : List Node}

/-- Fields of which each is kept but for its wrappers are kept but for wrappers. -/
theorem unwrappedFields_stripFields
    (noKeys : ∀ field ∈ fields, Directive.isKey field.1 = false)
    (strips :
      ∀ field ∈ fields, ∃ stripped,
        Directive.strip field.2 = some stripped ∧ Node.Similar stripped field.2) :
    unwrappedFields (Directive.stripFields fields) = unwrappedFields fields := by
  induction fields with
  | nil => rfl
  | cons head rest inductionHypothesis =>
      rcases List.forall_mem_cons.1 noKeys with ⟨noKey, restNoKeys⟩
      rcases List.forall_mem_cons.1 strips with ⟨⟨stripped, stripsHead, similar⟩, restStrips⟩
      rcases head with ⟨name, node⟩
      dsimp only at stripsHead
      rw [Directive.stripFields, noKey, stripsHead]
      simp only [Bool.false_eq_true, if_false, unwrappedFields]
      rw [inductionHypothesis restNoKeys restStrips, similar]

theorem unwrappedItems_stripItems
    (noMarkers : ∀ item ∈ items, Directive.isReplaceMarker item = false)
    (strips :
      ∀ item ∈ items, ∃ stripped,
        Directive.strip item = some stripped ∧ Node.Similar stripped item) :
    unwrappedItems (Directive.stripItems items) = unwrappedItems items := by
  induction items with
  | nil => rfl
  | cons head rest inductionHypothesis =>
      rcases List.forall_mem_cons.1 noMarkers with ⟨noMarker, restNoMarkers⟩
      rcases List.forall_mem_cons.1 strips with ⟨⟨stripped, stripsHead, similar⟩, restStrips⟩
      rw [Directive.stripItems, noMarker, stripsHead]
      simp only [Bool.false_eq_true, if_false, unwrappedItems]
      rw [inductionHypothesis restNoMarkers restStrips, similar]

end

/-- New content is the patch without its wrappers. -/
theorem Plain.similar_strip
    {node : Node}
    (plain : Plain node) :
    ∃ stripped, Directive.strip node = some stripped ∧ Node.Similar stripped node := by
  induction plain with
  | @mapping node fields isMapping noKeys _ _ inductionHypothesis =>
      refine ⟨_, Directive.strip_of_absent isMapping (noDirective_of_noKeys noKeys), ?_⟩
      rw [Node.Similar, ← unwrapped_content node, isMapping, unwrapped, unwrapped,
        unwrappedFields_stripFields noKeys inductionHypothesis]
  | @sequence node items isSequence contents inductionHypothesis =>
      refine ⟨_, Directive.strip_of_sequence isSequence, ?_⟩
      rw [Node.Similar, ← unwrapped_content node, isSequence, unwrapped, unwrapped,
        unwrappedItems_stripItems (fun item member => (contents item member).not_isReplaceMarker)
          inductionHypothesis]
  | @scalar node leaf isScalar _ =>
      refine ⟨_, Directive.strip_of_scalar isScalar, ?_⟩
      rw [Node.Similar, ← unwrapped_content node, isScalar]

theorem Plain.similar_of_strip
    {node stripped : Node}
    (plain : Plain node)
    (strips : Directive.strip node = some stripped) :
    Node.Similar stripped node := by
  rcases plain.similar_strip with ⟨found, stripsTo, similar⟩
  rw [strips, Option.some.injEq] at stripsTo
  rw [stripsTo]
  exact similar

/-! ## Merges and overlays -/

/-- Whatever a node of a patch is merged with, the result is the overlay but for wrappers. -/
def Overlays (field : String) (patch : Node) : Prop :=
  ∀ existing path, ∃ result,
    mergeNode field (existing.map Node.content) path patch = .ok (some result) ∧
      Node.Similar result (overlaid existing patch)

/-- The merge and the overlay set the same fields in the same order. -/
theorem unwrappedFields_mergeFields
    {target fields : List (String × Node)}
    (path : Path)
    (noKeys : ∀ field ∈ fields, Directive.isKey field.1 = false)
    (notNull : ∀ field ∈ fields, field.2.isNull = false)
    (overlays : ∀ field ∈ fields, Overlays field.1 field.2) :
    ∀ {merged laid : List (String × Node)},
      unwrappedFields merged = unwrappedFields laid →
        ∃ result,
          mergeFields target path merged fields = .ok result ∧
            unwrappedFields result = unwrappedFields (overlayFields target laid fields) := by
  induction fields with
  | nil =>
      intro merged laid same
      exact ⟨merged, by rw [mergeFields], by rw [overlayFields, same]⟩
  | cons head rest inductionHypothesis =>
      intro merged laid same
      rcases List.forall_mem_cons.1 noKeys with ⟨noKey, restNoKeys⟩
      rcases List.forall_mem_cons.1 notNull with ⟨headNotNull, restNotNull⟩
      rcases List.forall_mem_cons.1 overlays with ⟨headOverlays, restOverlays⟩
      rcases head with ⟨name, node⟩
      rcases headOverlays (Fields.get? name target) (path.push (.field name)) with
        ⟨result, merges, similar⟩
      have sameNext :
          unwrappedFields (Fields.set name result merged) =
            unwrappedFields (Fields.set name (overlaid (Fields.get? name target) node) laid) := by
        rw [unwrappedFields_set, unwrappedFields_set, same, similar]
      rcases inductionHypothesis restNoKeys restNotNull restOverlays sameNext with
        ⟨final, mergesRest, sameFinal⟩
      refine ⟨final, ?_, ?_⟩
      · rw [mergeFields, noKey, headNotNull, merges]
        exact mergesRest
      · rw [overlayFields_cons]
        exact sameFinal

/-- What is the patch but for wrappers is the overlay as well, unless two mappings meet. -/
theorem Plain.similar_overlaid
    {patch result : Node}
    {existing : Option Node}
    (plain : Plain patch)
    (apart : ∀ left, existing = some left → left.mapping? = none ∨ patch.mapping? = none)
    (similar : Node.Similar result patch) :
    Node.Similar result (overlaid existing patch) := by
  cases existing with
  | none => exact similar
  | some left =>
      rw [Node.Similar, similar, overlaid,
        unwrapped_overlay_of_apart plain.notNull (apart left rfl)]

theorem overlays_mapping
    {node : Node}
    {fields : List (String × Node)}
    (isMapping : node.content = .mapping fields)
    (noKeys : ∀ field ∈ fields, Directive.isKey field.1 = false)
    (notNull : ∀ field ∈ fields, field.2.isNull = false)
    (plain : Plain node)
    (overlays : ∀ field ∈ fields, Overlays field.1 field.2)
    (field : String) :
    Overlays field node := by
  intro existing path
  have noDirective := noDirective_of_noKeys noKeys
  rw [mergeNode_of_mapping isMapping]
  by_cases hasMapping : ∃ target, existing.map Node.content = some (.mapping target)
  · rcases hasMapping with ⟨target, isTarget⟩
    rcases Option.map_eq_some_iff.1 isTarget with ⟨left, rfl, leftIsMapping⟩
    rcases unwrappedFields_mergeFields path noKeys notNull overlays
        (rfl : unwrappedFields target = _) with
      ⟨merged, merges, same⟩
    refine ⟨.mapping merged, ?_, ?_⟩
    · rw [isTarget, mergeOnto_of_merges (.inl noDirective), merges]
      rfl
    · rw [Node.Similar, overlaid, ← unwrapped_content (left.overlay node),
        content_overlay_of_mappings leftIsMapping isMapping, unwrapped, unwrapped, same]
  · have noMapping : ∀ target, existing.map Node.content ≠ some (.mapping target) :=
      not_exists.1 hasMapping
    have similar := plain.similar_of_strip (Directive.strip_of_absent isMapping noDirective)
    refine ⟨_, ?_, plain.similar_overlaid ?_ similar⟩
    · rw [mergeOnto_of_noMapping noDirective noMapping]
      rfl
    · rintro left rfl
      rw [Option.eq_none_iff_forall_ne_some]
      refine .inl fun target isTarget => noMapping target ?_
      rw [Option.map_some, mapping?_eq_some.1 isTarget]

/-- A list that is not merged takes the place of what is there. -/
theorem overlays_sequence
    {node : Node}
    {items : List Node}
    {field : String}
    (isSequence : node.content = .sequence items)
    (replaces : ReplacesLists field node)
    (plain : Plain node) :
    Overlays field node := by
  intro existing path
  have noKeys : mergeKeys field = none := by
    by_contra hasKeys
    have noList := replaces hasKeys
    simp [sequence?, isSequence] at noList
  have isReplaced :
      ∀ target, mergeList field target items path = .ok (Directive.stripItems items) := by
    intro target
    rw [mergeList, listMode, noKeys]
    split_ifs <;> rfl
  have similar := plain.similar_of_strip (Directive.strip_of_sequence isSequence)
  refine ⟨_, ?_, plain.similar_overlaid ?_ similar⟩
  · rw [mergeNode_of_sequence isSequence]
    split
    · rw [isReplaced]
      rfl
    · rfl
  · intro left _
    exact .inr (by rw [mapping?, isSequence])

/-- Whatever there is, the merge of such a patch is the overlay but for wrappers. -/
theorem Unkeyed.overlays
    {node : Node}
    (unkeyed : Unkeyed node) :
    ∀ field, ReplacesLists field node → Overlays field node := by
  induction unkeyed with
  | mapping isMapping noKeys replaces contents inductionHypothesis =>
      intro field _
      have plain := (Unkeyed.mapping isMapping noKeys replaces contents).plain
      have notNull := fun field member => (contents field member).plain.notNull
      have overlays := fun field member =>
        inductionHypothesis field member field.1 (replaces field member)
      exact overlays_mapping isMapping noKeys notNull plain overlays field
  | sequence isSequence contents =>
      intro field replaces
      exact overlays_sequence isSequence replaces (Unkeyed.sequence isSequence contents).plain
  | @scalar node leaf isScalar notNull =>
      intro field _ existing path
      have plain : Plain node := .scalar isScalar notNull
      have similar := plain.similar_of_strip (Directive.strip_of_scalar isScalar)
      refine ⟨_, mergeNode_of_scalar isScalar field _ path, plain.similar_overlaid ?_ similar⟩
      intro left _
      exact .inr (by rw [mapping?, isScalar])

/-! ## Patched documents -/

/--
A patch that is a mapping without directives, without nothing and without lists that are
merged by keys does to every document what the overlay does: the values are equal, and so
is the order of the fields of each mapping.
-/
theorem apply_agrees_with_overlay
    {patch : Node}
    {fields : List (String × Node)}
    (isMapping : patch.content = .mapping fields)
    (unkeyed : Unkeyed patch)
    (target : Node) :
    ∃ result,
      apply target patch = .ok (some result) ∧
        result.toValue = (target.overlay patch).toValue ∧
          ∀ path, result.namesAt path = (target.overlay patch).namesAt path := by
  have noList : ReplacesLists "" patch := by
    intro hasKeys
    exact absurd rfl hasKeys
  rcases unkeyed.overlays "" noList (some target) [] with ⟨result, merges, similar⟩
  refine ⟨result, ?_, (indistinguishable_of_similar similar).value, similar.namesAt⟩
  rw [apply_eq_mergeNode isMapping]
  exact merges

/-- A document whose labels are nothing. -/
def labelless : Node :=
  .mapping
    [("metadata", .mapping [("labels", .null), ("name", .ofText "web")]),
      ("spec", .mapping [("paths", .sequence [.ofText "old"]), ("class", .ofText "small")])]

/-- A patch with labels, of which one is an alias. -/
def labeling : Node :=
  .mapping
    [("spec", .mapping [("mode", .ofText "fast"), ("paths", .sequence [.ofText "new"])]),
      ("metadata",
        .mapping
          [("labels",
            .mapping [("tier", .ofText "front"), ("app", .reference "app" (.ofText "web"))])])]

/-- The document that the patch makes of it. -/
def labeled : Node :=
  .mapping
    [("metadata",
      .mapping
        [("labels", .mapping [("tier", .ofText "front"), ("app", .ofText "web")]),
          ("name", .ofText "web")]),
      ("spec",
        .mapping
          [("paths", .sequence [.ofText "new"]), ("class", .ofText "small"),
            ("mode", .ofText "fast")])]

theorem unkeyed_ofText (text : String) :
    Unkeyed (.ofText text) :=
  .scalar rfl rfl

/-- Fields without merge keys can hold lists. -/
theorem replacesLists_of_names
    {fields : List (String × Node)}
    (noKeys : ∀ name ∈ Fields.names fields, mergeKeys name = none) :
    ∀ field ∈ fields, ReplacesLists field.1 field.2 :=
  fun _ member hasKeys => absurd (noKeys _ (List.mem_map_of_mem member)) hasKeys

theorem unkeyed_labeling : Unkeyed labeling := by
  have aliased : Unkeyed (.reference "app" (.ofText "web")) := .scalar rfl rfl
  have paths : Unkeyed (.sequence [.ofText "new"]) :=
    .sequence rfl (by simp [unkeyed_ofText])
  have labels :
      Unkeyed (.mapping [("tier", .ofText "front"), ("app", .reference "app" (.ofText "web"))]) :=
    .mapping rfl (by decide) (replacesLists_of_names (by decide))
      (by simp [unkeyed_ofText, aliased])
  have spec :
      Unkeyed (.mapping [("mode", .ofText "fast"), ("paths", .sequence [.ofText "new"])]) :=
    .mapping rfl (by decide) (replacesLists_of_names (by decide))
      (by simp [unkeyed_ofText, paths])
  have metadata :
      Unkeyed
        (.mapping
          [("labels",
            .mapping [("tier", .ofText "front"), ("app", .reference "app" (.ofText "web"))])]) :=
    .mapping rfl (by decide) (replacesLists_of_names (by decide)) (by simp [labels])
  exact .mapping rfl (by decide) (replacesLists_of_names (by decide)) (by simp [spec, metadata])

/-- Labels are set where there was nothing, and the overlay alone keeps the alias. -/
theorem apply_labeling_agrees :
    apply labelless labeling = .ok (some labeled) ∧
      labeled ≠ labelless.overlay labeling ∧
        labeled.toValue = (labelless.overlay labeling).toValue ∧
          ∀ path, labeled.namesAt path = (labelless.overlay labeling).namesAt path := by
  have applies : apply labelless labeling = .ok (some labeled) := rfl
  have keepsAlias : labeled ≠ labelless.overlay labeling := by
    rintro ⟨⟩
  rcases apply_agrees_with_overlay rfl unkeyed_labeling labelless with ⟨result, isResult, agrees⟩
  rw [applies, Except.ok.injEq, Option.some.injEq] at isResult
  subst isResult
  exact ⟨applies, keepsAlias, agrees⟩

end StrategicPatch

end Manifest
