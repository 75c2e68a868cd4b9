import Manifest.Proofs.Patch.Keyed

/-!
# Patches that are applied twice

A patch that deletes nothing and asks for nothing in particular, and in which the
elements of keyed lists are told apart by texts, gives a document that it leaves alone.

A node is settled for a node of a patch if their merge gives the node back, whatever
the path.  Merging gives settled nodes: a mapping whose fields are settled for those of
the patch is settled, whether it was merged or is new content, and so is a list in
which the element under each text of the patch is.
-/

namespace Manifest.StrategicPatch

/-! ## Plain patches -/

/-- A list of mappings under a field with merge keys has texts apart under the first key. -/
def KeyedApart (field : String) (node : Node) : Prop :=
  ∀ key others items,
    mergeKeys field = some (key :: others) →
      node.content = .sequence items →
        (∀ item ∈ items, item.mapping?.isSome = true) →
          TextsApart key items

/-- A patch without directives and without nothing, whose keyed lists are told apart. -/
inductive Plain : Node → Prop where
  | mapping
      {node : Node}
      {fields : List (String × Node)}
      (isMapping : node.content = .mapping fields)
      (noKeys : ∀ field ∈ fields, Directive.isKey field.1 = false)
      (keyedApart : ∀ field ∈ fields, KeyedApart field.1 field.2)
      (contents : ∀ field ∈ fields, Plain field.2) :
      Plain node
  | sequence
      {node : Node}
      {items : List Node}
      (isSequence : node.content = .sequence items)
      (contents : ∀ item ∈ items, Plain item) :
      Plain node
  | scalar
      {node : Node}
      {leaf : Scalar}
      (isScalar : node.content = .scalar leaf)
      (notNull : leaf.isNull = false) :
      Plain node

theorem Plain.notNull
    {node : Node}
    (plain : Plain node) :
    node.isNull = false := by
  cases plain with
  | mapping isMapping => rw [Node.isNull, isMapping]
  | sequence isSequence => rw [Node.isNull, isSequence]
  | scalar isScalar notNull =>
      rw [Node.isNull, isScalar]
      exact notNull

theorem noDirective_of_noKeys
    {fields : List (String × Node)}
    (noKeys : ∀ field ∈ fields, Directive.isKey field.1 = false) :
    Fields.get? Directive.key fields = none := by
  rw [Fields.get?_eq_none, Fields.names, List.mem_map]
  rintro ⟨⟨name, node⟩, member, rfl⟩
  have isKey := noKeys _ member
  simp [Directive.isKey] at isKey

theorem Plain.not_isReplaceMarker
    {node : Node}
    (plain : Plain node) :
    Directive.isReplaceMarker node = false := by
  rw [Directive.isReplaceMarker, Node.mapping?]
  cases plain with
  | mapping isMapping noKeys =>
      simp [isMapping, Directive.text?, noDirective_of_noKeys noKeys]
  | sequence isSequence => rw [isSequence]
  | scalar isScalar => rw [isScalar]

theorem exists_mergeKeys
    {field : String}
    {keys : List String}
    (hasKeys : mergeKeys field = some keys) :
    ∃ key others, keys = key :: others := by
  unfold mergeKeys at hasKeys
  split at hasKeys <;> cases hasKeys <;> exact ⟨_, _, rfl⟩

/-- Lists are merged by the keys of their field, if all elements of the patch are mappings. -/
theorem mergeKeys_of_listMode
    {field : String}
    {items : List Node}
    {keys : List String}
    (byKeys : listMode field items = .byKeys keys) :
    mergeKeys field = some keys ∧ ∀ item ∈ items, item.mapping?.isSome = true := by
  rw [listMode] at byKeys
  split at byKeys
  · cases byKeys
  · split at byKeys
    · rename_i found hasKeys
      split at byKeys
      · rename_i allMappings
        cases byKeys
        exact ⟨hasKeys, List.all_eq_true.1 allMappings⟩
      · cases byKeys
    · cases byKeys

theorem keyedApart_empty
    {node : Node} :
    KeyedApart "" node := by
  intro key others items hasKeys
  cases hasKeys

/-! ## Settled nodes -/

/-- A node that its merge with a node of a patch gives back, with the texts of the patch. -/
structure Settled (field : String) (patch node : Node) : Prop where
  merges : ∀ path, mergeNode field (some node.content) path patch = .ok (some node)
  texts : ∀ key text, keyText? key patch = some text → keyText? key node = some text

theorem Settled.eq_of_scalar
    {field : String}
    {patch node : Node}
    {leaf : Scalar}
    (settled : Settled field patch node)
    (isScalar : patch.content = .scalar leaf) :
    node = .scalar leaf := by
  have merges := settled.merges []
  rw [mergeNode_of_scalar isScalar] at merges
  cases merges
  rfl

/-- What is no mapping carries no text. -/
theorem texts_of_noMapping
    {patch : Node}
    (noMapping : ∀ fields, patch.content ≠ .mapping fields)
    (node : Node) :
    ∀ key text, keyText? key patch = some text → keyText? key node = some text := by
  intro key text carriesText
  rcases keyText?_eq_some.1 carriesText with ⟨fields, _, _, isMapping, _⟩
  exact absurd isMapping (noMapping fields)

theorem settled_scalar
    {patch : Node}
    {leaf : Scalar}
    (isScalar : patch.content = .scalar leaf)
    (field : String) :
    Settled field patch (.scalar leaf) where
  merges := fun path => mergeNode_of_scalar isScalar field _ path
  texts := texts_of_noMapping (by simp [isScalar]) _

/-- Fields of which each is settled for that of a patch. -/
def SettledFields (patch merged : List (String × Node)) : Prop :=
  ∀ field ∈ patch,
    ∃ result, Fields.get? field.1 merged = some result ∧ Settled field.1 field.2 result

theorem mergeFields_of_settled
    {target patch : List (String × Node)}
    (noKeys : ∀ field ∈ patch, Directive.isKey field.1 = false)
    (notNull : ∀ field ∈ patch, field.2.isNull = false)
    (settled : SettledFields patch target)
    (path : Path) :
    mergeFields target path target patch = .ok target := by
  induction patch with
  | nil => rw [mergeFields]
  | cons head rest inductionHypothesis =>
      rcases List.forall_mem_cons.1 noKeys with ⟨noKey, restNoKeys⟩
      rcases List.forall_mem_cons.1 notNull with ⟨headNotNull, restNotNull⟩
      rcases List.forall_mem_cons.1 settled with ⟨⟨result, found, settledHead⟩, settledRest⟩
      rcases head with ⟨name, node⟩
      rw [mergeFields, noKey, headNotNull, found, Option.map_some, settledHead.merges]
      dsimp only
      rw [putField, Fields.set_of_get? found]
      exact inductionHypothesis restNoKeys restNotNull settledRest

/-- A mapping whose fields are settled for those of a patch is settled. -/
theorem settled_mapping
    {patch : Node}
    {fields merged : List (String × Node)}
    (isMapping : patch.content = .mapping fields)
    (noKeys : ∀ field ∈ fields, Directive.isKey field.1 = false)
    (notNull : ∀ field ∈ fields, field.2.isNull = false)
    (settled : SettledFields fields merged)
    (field : String) :
    Settled field patch (.mapping merged) where
  merges := by
    intro path
    show mergeNode field (some (.mapping merged)) path patch = _
    rw [mergeNode_of_mapping isMapping, mergeOnto_of_merges (.inl (noDirective_of_noKeys noKeys)),
      mergeFields_of_settled noKeys notNull settled]
    rfl
  texts := by
    intro key text carriesText
    rcases keyText?_eq_some.1 carriesText with ⟨_, node, leaf, isFields, found, isScalar, isText⟩
    rw [isMapping, Node.mapping.injEq] at isFields
    subst isFields
    rcases settled (key, node) (Fields.mem_of_get? found) with ⟨result, atKey, settledNode⟩
    rw [settledNode.eq_of_scalar isScalar] at atKey
    exact keyText?_eq_some.2 ⟨merged, .scalar leaf, leaf, rfl, atKey, rfl, isText⟩

/-- What took the place of a list is settled. -/
theorem settled_replaced
    {patch : Node}
    {items : List Node}
    {field : String}
    (isSequence : patch.content = .sequence items)
    (replaces : listMode field items = .replace) :
    Settled field patch (.sequence (Directive.stripItems items)) where
  merges := by
    intro path
    show mergeNode field (some (.sequence (Directive.stripItems items))) path patch = _
    rw [mergeNode_of_sequence isSequence]
    dsimp only
    rw [mergeList, replaces]
    rfl
  texts := texts_of_noMapping (by simp [isSequence]) _

/-- Elements of which the one under each text is settled for that of a patch. -/
def SettledElements (key : String) (items elements : List Node) : Prop :=
  ∀ item ∈ items, ∃ text result,
    keyText? key item = some text ∧
      find? key text elements = some result ∧ Settled "" item result

theorem mergeElements_of_settled
    {key : String}
    {items elements : List Node}
    (settled : SettledElements key items elements)
    (others : List String)
    (path : Path) :
    ∀ position, mergeElements (key :: others) path position elements items = .ok elements := by
  induction items with
  | nil =>
      intro position
      rw [mergeElements]
  | cons item rest inductionHypothesis =>
      intro position
      rcases List.forall_mem_cons.1 settled with
        ⟨⟨text, result, carriesText, found, settledItem⟩, settledRest⟩
      rcases keyText?_eq_some.1 carriesText with ⟨patch, _, _, isMapping, _⟩
      have merges := settledItem.merges (path.push (.index position))
      rw [mergeNode_of_mapping isMapping] at merges
      rcases Result.map_eq_ok.1 merges with ⟨_, mergesItem, same⟩
      rcases Option.map_eq_some_iff.1 same with ⟨fields, rfl, rfl⟩
      have placed :
          mergeElement (key :: others) (path.push (.index position)) elements item =
            .ok elements := by
        have mergesFound :
            mergeOnto ((find? key text elements).map Node.content) patch
              (path.push (.index position)) = .ok (some fields) := by
          rw [found]
          exact mergesItem
        rw [mergeElement_of_keyText? isMapping carriesText others _ mergesFound,
          place_of_find? found]
      rw [mergeElements, placed]
      exact inductionHypothesis settledRest (position + 1)

/-- A list in which the elements of a patch are settled is settled. -/
theorem settled_byKeys
    {patch : Node}
    {items elements : List Node}
    {field key : String}
    {others : List String}
    (isSequence : patch.content = .sequence items)
    (byKeys : listMode field items = .byKeys (key :: others))
    (settled : SettledElements key items elements) :
    Settled field patch (.sequence elements) where
  merges := by
    intro path
    show mergeNode field (some (.sequence elements)) path patch = _
    rw [mergeNode_of_sequence isSequence]
    dsimp only
    rw [mergeList, byKeys]
    dsimp only
    rw [mergeElements_of_settled settled]
    rfl
  texts := texts_of_noMapping (by simp [isSequence]) _

/-! ## What a merge gives is settled -/

/-- Whatever a node of a patch is merged with, the result is settled. -/
def Settles (field : String) (patch : Node) : Prop :=
  ∀ existing path,
    (∀ content, existing = some content → content.WellFormed) →
      ∃ result, mergeNode field existing path patch = .ok (some result) ∧ Settled field patch result

theorem Plain.mergeNode_none
    {node : Node}
    (plain : Plain node)
    (field : String)
    (path : Path) :
    mergeNode field none path node = .ok (Directive.strip node) := by
  cases plain with
  | mapping isMapping noKeys =>
      have noDirective := noDirective_of_noKeys noKeys
      rw [mergeNode_of_mapping isMapping, mergeOnto_of_noMapping noDirective (by simp),
        Directive.strip_of_absent isMapping noDirective]
      rfl
  | sequence isSequence =>
      rw [mergeNode_of_sequence isSequence, Directive.strip_of_sequence isSequence]
  | scalar isScalar =>
      rw [mergeNode_of_scalar isScalar, Directive.strip_of_scalar isScalar]

/-- New content is settled. -/
theorem Settles.strip
    {field : String}
    {node : Node}
    (settles : Settles field node)
    (plain : Plain node) :
    ∃ result, Directive.strip node = some result ∧ Settled field node result := by
  rcases settles none [] (by simp) with ⟨result, merges, settled⟩
  rw [plain.mergeNode_none, Except.ok.injEq] at merges
  exact ⟨result, merges, settled⟩

section

variable
  {fields target : List (String × Node)}
  {path : Path}

theorem exists_mergeFields
    (merges :
      ∀ field ∈ fields, ∃ result,
        mergeNode field.1 ((Fields.get? field.1 target).map Node.content)
          (path.push (.field field.1)) field.2 = .ok result) :
    ∀ merged, ∃ result, mergeFields target path merged fields = .ok result := by
  induction fields with
  | nil =>
      intro merged
      exact ⟨merged, by rw [mergeFields]⟩
  | cons head rest inductionHypothesis =>
      intro merged
      rcases List.forall_mem_cons.1 merges with ⟨⟨result, mergesNode⟩, restMerges⟩
      have mergesRest := inductionHypothesis restMerges
      rcases head with ⟨name, node⟩
      rw [mergeFields, mergesNode]
      split
      · exact mergesRest _
      · split
        · exact mergesRest _
        · exact mergesRest _

theorem settledFields_of_mergeFields
    {merged : List (String × Node)}
    (noKeys : ∀ field ∈ fields, Directive.isKey field.1 = false)
    (notNull : ∀ field ∈ fields, field.2.isNull = false)
    (distinct : Fields.Distinct fields)
    (targetFields : Node.WellFormedFields target)
    (settles : ∀ field ∈ fields, Settles field.1 field.2)
    (merges : mergeFields target path target fields = .ok merged) :
    SettledFields fields merged := by
  rintro ⟨name, node⟩ member
  have becomes :=
    fieldMerges_of_mergeFields (noKeys _ member) distinct merges targetFields.distinct rfl
  rw [Fields.get?_of_mem distinct member] at becomes
  dsimp only at becomes ⊢
  generalize Fields.get? name merged = after at becomes ⊢
  cases becomes with
  | clears isNull =>
      rw [notNull _ member] at isNull
      cases isNull
  | merges _ mergesNode =>
      rcases settles _ member _ (path.push (.field name)) (targetFields.content_get? name) with
        ⟨result, givesResult, settled⟩
      rw [mergesNode, Except.ok.injEq] at givesResult
      exact ⟨result, givesResult, settled⟩

theorem settledFields_stripFields
    (noKeys : ∀ field ∈ fields, Directive.isKey field.1 = false)
    (distinct : Fields.Distinct fields)
    (contents : ∀ field ∈ fields, Plain field.2)
    (settles : ∀ field ∈ fields, Settles field.1 field.2) :
    SettledFields fields (Directive.stripFields fields) := by
  intro field member
  rcases (settles field member).strip (contents field member) with ⟨result, strips, settled⟩
  refine ⟨result, ?_, settled⟩
  rw [Directive.get?_stripFields distinct (noKeys field member), Fields.get?_of_mem distinct member,
    Option.bind_some, strips]

theorem settles_mapping
    {node : Node}
    (isMapping : node.content = .mapping fields)
    (noKeys : ∀ field ∈ fields, Directive.isKey field.1 = false)
    (distinct : Fields.Distinct fields)
    (contents : ∀ field ∈ fields, Plain field.2)
    (settles : ∀ field ∈ fields, Settles field.1 field.2)
    (name : String) :
    Settles name node := by
  intro existing path existingWellFormed
  have noDirective := noDirective_of_noKeys noKeys
  have notNull : ∀ field ∈ fields, field.2.isNull = false := by
    intro field member
    exact (contents field member).notNull
  by_cases hasMapping : ∃ target, existing = some (.mapping target)
  · rcases hasMapping with ⟨target, rfl⟩
    have targetFields := Node.wellFormed_mapping.1 (existingWellFormed _ rfl)
    have mergesEach :
        ∀ field ∈ fields, ∃ result,
          mergeNode field.1 ((Fields.get? field.1 target).map Node.content)
            (path.push (.field field.1)) field.2 = .ok result := by
      intro field member
      rcases settles field member _ (path.push (.field field.1))
          (targetFields.content_get? field.1) with ⟨result, merges, _⟩
      exact ⟨_, merges⟩
    rcases exists_mergeFields mergesEach target with ⟨merged, merges⟩
    refine ⟨.mapping merged, ?_, ?_⟩
    · rw [mergeNode_of_mapping isMapping, mergeOnto_of_merges (.inl noDirective), merges]
      rfl
    · exact settled_mapping isMapping noKeys notNull
        (settledFields_of_mergeFields noKeys notNull distinct targetFields settles merges) name
  · have noMapping : ∀ target, existing ≠ some (.mapping target) := by
      intro target isTarget
      exact hasMapping ⟨target, isTarget⟩
    refine ⟨.mapping (Directive.stripFields fields), ?_, ?_⟩
    · rw [mergeNode_of_mapping isMapping, mergeOnto_of_noMapping noDirective noMapping]
      rfl
    · exact settled_mapping isMapping noKeys notNull
        (settledFields_stripFields noKeys distinct contents settles) name

end

section

variable
  {key : String}
  {items : List Node}

/-- In new content, the element under a text of a patch is the stripped one. -/
theorem find?_stripItems
    (noMarkers : ∀ item ∈ items, Directive.isReplaceMarker item = false)
    (strips :
      ∀ item ∈ items, ∃ result,
        Directive.strip item = some result ∧
          ∀ text, keyText? key item = some text → keyText? key result = some text)
    (apart : TextsApart key items)
    {item : Node}
    (member : item ∈ items)
    {text : String}
    (carriesText : keyText? key item = some text) :
    find? key text (Directive.stripItems items) = Directive.strip item := by
  induction items with
  | nil => cases member
  | cons head rest inductionHypothesis =>
      rcases List.forall_mem_cons.1 noMarkers with ⟨noMarker, restNoMarkers⟩
      rcases List.forall_mem_cons.1 strips with ⟨⟨result, stripsHead, keepsText⟩, restStrips⟩
      rcases apart.head with ⟨headText, headCarries, restCarryOthers⟩
      have resultCarries : keyText? key result = some headText := keepsText headText headCarries
      rw [Directive.stripItems, noMarker, stripsHead, if_neg (by decide)]
      dsimp only
      rcases List.mem_cons.1 member with rfl | inRest
      · rw [headCarries, Option.some.injEq] at carriesText
        rw [find?_cons_same (carriesText ▸ resultCarries), stripsHead]
      · have otherText : keyText? key result ≠ some text := by
          intro sameText
          exact restCarryOthers item inRest (carriesText.trans (sameText.symm.trans resultCarries))
        rw [find?_cons_other otherText]
        exact inductionHypothesis restNoMarkers restStrips apart.tail inRest

/-- What stands under the texts of a patch is settled in new content. -/
theorem settledElements_stripItems
    (contents : ∀ item ∈ items, Plain item)
    (settles : ∀ item ∈ items, Settles "" item)
    (apart : TextsApart key items) :
    SettledElements key items (Directive.stripItems items) := by
  have noMarkers : ∀ item ∈ items, Directive.isReplaceMarker item = false := by
    intro item member
    exact (contents item member).not_isReplaceMarker
  have strips :
      ∀ item ∈ items, ∃ result, Directive.strip item = some result ∧ Settled "" item result := by
    intro item member
    exact (settles item member).strip (contents item member)
  intro item member
  rcases strips item member with ⟨result, stripsItem, settled⟩
  rcases Option.isSome_iff_exists.1 (apart.carried item member) with ⟨text, carriesText⟩
  refine ⟨text, result, carriesText, ?_, settled⟩
  rw [find?_stripItems noMarkers ?_ apart member carriesText, stripsItem]
  intro other inItems
  rcases strips other inItems with ⟨stripped, stripsOther, settledOther⟩
  exact ⟨stripped, stripsOther, settledOther.texts key⟩

/-- An element of a patch is merged into one that is settled, and placed under its text. -/
theorem settled_of_mergeElement
    {item : Node}
    {text : String}
    (carriesText : keyText? key item = some text)
    (settles : Settles "" item)
    {elements : List Node}
    (wellFormed : ∀ element, find? key text elements = some element → element.WellFormed)
    (others : List String)
    (path : Path) :
    ∃ result,
      mergeElement (key :: others) path elements item = .ok (place key text result elements) ∧
        Settled "" item result := by
  rcases keyText?_eq_some.1 carriesText with ⟨patch, _, _, isMapping, _⟩
  have counterpartWellFormed :
      ∀ content, (find? key text elements).map Node.content = some content →
        content.WellFormed := by
    intro content isContent
    rcases Option.map_eq_some_iff.1 isContent with ⟨element, found, rfl⟩
    exact (wellFormed element found).content
  rcases settles _ path counterpartWellFormed with ⟨result, mergesNode, settled⟩
  rw [mergeNode_of_mapping isMapping] at mergesNode
  rcases Result.map_eq_ok.1 mergesNode with ⟨_, mergesItem, same⟩
  rcases Option.map_eq_some_iff.1 same with ⟨fields, rfl, rfl⟩
  exact ⟨.mapping fields, mergeElement_of_keyText? isMapping carriesText others path mergesItem,
    settled⟩

/--
What stands under the texts of a patch is settled when its elements were merged, and
what stands under other texts is what it was.
-/
theorem settledElements_of_mergeElements
    (settles : ∀ item ∈ items, Settles "" item)
    (apart : TextsApart key items)
    (others : List String)
    (path : Path) :
    ∀ position elements,
      (∀ item ∈ items, ∀ text element,
        keyText? key item = some text → find? key text elements = some element →
          element.WellFormed) →
      ∃ merged,
        mergeElements (key :: others) path position elements items = .ok merged ∧
          SettledElements key items merged ∧
            ∀ text, (∀ item ∈ items, keyText? key item ≠ some text) →
              find? key text merged = find? key text elements := by
  induction items with
  | nil =>
      intro position elements _
      exact ⟨elements, by rw [mergeElements], by simp [SettledElements], by simp⟩
  | cons item rest inductionHypothesis =>
      intro position elements wellFormed
      rcases List.forall_mem_cons.1 settles with ⟨settlesItem, settlesRest⟩
      rcases List.forall_mem_cons.1 wellFormed with ⟨itemWellFormed, restWellFormed⟩
      rcases apart.head with ⟨text, carriesText, restCarryOthers⟩
      rcases settled_of_mergeElement carriesText settlesItem
          (fun element => itemWellFormed text element carriesText) others
          (path.push (.index position)) with
        ⟨result, mergesItem, settled⟩
      have resultCarries := settled.texts key text carriesText
      -- Under the texts of the rest, the list is still what it was.
      have placedWellFormed :
          ∀ other ∈ rest, ∀ otherText element,
            keyText? key other = some otherText →
              find? key otherText (place key text result elements) = some element →
                element.WellFormed := by
        intro other member otherText element otherCarries found
        have different : otherText ≠ text := by
          rintro rfl
          exact restCarryOthers other member otherCarries
        rw [find?_place_other different resultCarries] at found
        exact restWellFormed other member otherText element otherCarries found
      rcases inductionHypothesis settlesRest apart.tail (position + 1) _ placedWellFormed with
        ⟨merged, mergesRest, settledRest, keeps⟩
      refine ⟨merged, ?_, ?_, ?_⟩
      · rw [mergeElements, mergesItem]
        exact mergesRest
      · refine List.forall_mem_cons.2 ⟨⟨text, result, carriesText, ?_, settled⟩, settledRest⟩
        rw [keeps text restCarryOthers, find?_place_same resultCarries]
      · intro other absent
        rcases List.forall_mem_cons.1 absent with ⟨itemCarriesOther, restAbsent⟩
        have different : other ≠ text := by
          rintro rfl
          exact itemCarriesOther carriesText
        rw [keeps other restAbsent, find?_place_other different resultCarries]

theorem settles_sequence
    {node : Node}
    {field : String}
    (isSequence : node.content = .sequence items)
    (keyedApart : KeyedApart field node)
    (contents : ∀ item ∈ items, Plain item)
    (settles : ∀ item ∈ items, Settles "" item) :
    Settles field node := by
  intro existing path existingWellFormed
  cases mode : listMode field items with
  | replace =>
      refine ⟨_, ?_, settled_replaced isSequence mode⟩
      rw [mergeNode_of_sequence isSequence]
      split
      · rw [mergeList, mode]
        rfl
      · rfl
  | byKeys keys =>
      rcases mergeKeys_of_listMode mode with ⟨hasKeys, areMappings⟩
      rcases exists_mergeKeys hasKeys with ⟨key, others, rfl⟩
      have apart := keyedApart key others items hasKeys isSequence areMappings
      by_cases hasList : ∃ elements, existing = some (.sequence elements)
      · rcases hasList with ⟨elements, rfl⟩
        have elementsWellFormed := Node.wellFormed_sequence.1 (existingWellFormed _ rfl)
        rcases
            settledElements_of_mergeElements settles apart others path 0 elements
              (fun _ _ _ _ _ found =>
                elementsWellFormed _ (List.mem_of_find?_eq_some found)) with
          ⟨merged, merges, settled, _⟩
        refine ⟨.sequence merged, ?_, settled_byKeys isSequence mode settled⟩
        rw [mergeNode_of_sequence isSequence]
        dsimp only
        rw [mergeList, mode]
        dsimp only
        rw [merges]
        rfl
      · refine
          ⟨.sequence (Directive.stripItems items), ?_, settled_byKeys isSequence mode ?_⟩
        · rw [mergeNode_of_sequence isSequence]
          split
          · exact absurd ⟨_, rfl⟩ hasList
          · rfl
        · exact settledElements_stripItems contents settles apart

end

theorem Plain.settles
    {node : Node}
    (plain : Plain node) :
    node.WellFormed → ∀ field, KeyedApart field node → Settles field node := by
  induction plain with
  | mapping isMapping noKeys keyedApart contents inductionHypothesis =>
      intro wellFormed field _
      have isFields := Node.wellFormed_mapping.1 (isMapping ▸ wellFormed.content)
      exact settles_mapping isMapping noKeys isFields.distinct contents
        (fun inner member =>
          inductionHypothesis inner member (isFields.contents inner member) inner.1
            (keyedApart inner member))
        field
  | @sequence node items isSequence contents inductionHypothesis =>
      intro wellFormed field keyedApart
      have itemsWellFormed := Node.wellFormed_sequence.1 (isSequence ▸ wellFormed.content)
      exact settles_sequence isSequence keyedApart contents fun item member =>
        inductionHypothesis item member (itemsWellFormed item member) "" keyedApart_empty
  | scalar isScalar =>
      intro _ field _ existing path _
      exact ⟨_, mergeNode_of_scalar isScalar field existing path, settled_scalar isScalar field⟩

/-! ## Patched documents -/

/-- What a patch that is no mapping put in the place of a document, it puts there again. -/
theorem apply_of_apply_of_noMapping
    {target patch result : Node}
    (noMapping : ∀ fields, patch.content ≠ .mapping fields)
    (notNull : patch.isNull = false)
    (applies : apply target patch = .ok (some result)) :
    apply result patch = .ok (some result) := by
  have appliesAgain := apply_of_noMapping noMapping notNull result
  rw [apply_of_noMapping noMapping notNull] at applies
  split at applies
  · cases applies
  · rcases Node.content_cases patch with
      ⟨fields, isMapping⟩ | ⟨items, isSequence⟩ | ⟨leaf, isScalar⟩
    · exact absurd isMapping (noMapping fields)
    · rw [Directive.strip_of_sequence isSequence] at applies appliesAgain
      cases applies
      exact appliesAgain
    · rw [Directive.strip_of_scalar isScalar] at applies appliesAgain
      cases applies
      exact appliesAgain

/--
A plain patch leaves alone what it gave.  If it is a mapping, it gives a document for
every target.
-/
theorem apply_of_apply
    {target patch : Node}
    (targetWellFormed : target.WellFormed)
    (patchWellFormed : patch.WellFormed)
    (plain : Plain patch) :
    (∀ result, apply target patch = .ok (some result) → apply result patch = .ok (some result)) ∧
      ((∃ fields, patch.content = .mapping fields) →
        ∃ result, apply target patch = .ok (some result)) := by
  have contentWellFormed : ∀ content, some target.content = some content → content.WellFormed := by
    rintro _ ⟨⟩
    exact targetWellFormed.content
  rcases plain.settles patchWellFormed "" keyedApart_empty _ [] contentWellFormed with
    ⟨result, merges, settled⟩
  by_cases hasFields : ∃ fields, patch.content = .mapping fields
  · rcases hasFields with ⟨fields, isMapping⟩
    rw [← apply_eq_mergeNode isMapping] at merges
    refine ⟨?_, fun _ => ⟨result, merges⟩⟩
    intro found applies
    rw [merges] at applies
    cases applies
    rw [apply_eq_mergeNode isMapping, settled.merges]
  · refine ⟨?_, fun isMapping => absurd isMapping hasFields⟩
    intro found applies
    have noMapping : ∀ fields, patch.content ≠ .mapping fields := by
      intro fields isMapping
      exact hasFields ⟨fields, isMapping⟩
    exact apply_of_apply_of_noMapping noMapping plain.notNull applies

/-- A document with two containers. -/
def deployed : Node :=
  .mapping
    [("containers",
      .sequence
        [.mapping [("name", .ofText "web")],
          .mapping [("name", .ofText "app"), ("image", .ofText "old")]])]

/-- A patch that changes the second container, and adds one and a field. -/
def upgrade : Node :=
  .mapping
    [("containers",
      .sequence
        [.mapping [("image", .ofText "new"), ("name", .ofText "app")],
          .mapping [("name", .ofText "log")]]),
      ("hosts", .sequence [.ofText "here"])]

/-- The document that comes out. -/
def upgraded : Node :=
  .mapping
    [("containers",
      .sequence
        [.mapping [("name", .ofText "web")],
          .mapping [("name", .ofText "app"), ("image", .ofText "new")],
          .mapping [("name", .ofText "log")]]),
      ("hosts", .sequence [.ofText "here"])]

theorem plain_ofText (text : String) :
    Plain (.ofText text) :=
  .scalar rfl rfl

theorem keyedApart_ofText
    (field text : String) :
    KeyedApart field (.ofText text) := by
  intro key others items _ isSequence
  cases isSequence

theorem plain_upgrade : Plain upgrade := by
  have app : Plain (.mapping [("image", .ofText "new"), ("name", .ofText "app")]) :=
    .mapping rfl (by decide) (by simp [keyedApart_ofText]) (by simp [plain_ofText])
  have log : Plain (.mapping [("name", .ofText "log")]) :=
    .mapping rfl (by decide) (by simp [keyedApart_ofText]) (by simp [plain_ofText])
  refine .mapping rfl (by decide) ?_ ?_
  · simp only [List.forall_mem_cons, List.not_mem_nil, false_implies, implies_true, and_true]
    constructor
    · rintro _ _ _ ⟨⟩ ⟨⟩ _
      exact ⟨by decide, by decide⟩
    · rintro _ _ _ ⟨⟩
  · simp only [List.forall_mem_cons, List.not_mem_nil, false_implies, implies_true, and_true]
    constructor
    · exact .sequence rfl (by simp [app, log])
    · exact .sequence rfl (by simp [plain_ofText])

/-- The containers that were merged, and the one that was added, are there only once. -/
theorem apply_upgrade_twice :
    apply deployed upgrade = .ok (some upgraded) ∧
      apply upgraded upgrade = .ok (some upgraded) := by
  have wellFormed : deployed.WellFormed := by
    simp [deployed, Node.wellFormed_sequence, Fields.names]
  have patchWellFormed : upgrade.WellFormed := by
    simp [upgrade, Node.wellFormed_sequence, Fields.names]
  have applies : apply deployed upgrade = .ok (some upgraded) := rfl
  exact ⟨applies, (apply_of_apply wellFormed patchWellFormed plain_upgrade).1 _ applies⟩

end Manifest.StrategicPatch
