import Manifest.Proofs.Patch.Keyed

/-!
# Keyed lists, merged at once

A list of a patch is merged into a list one element after another, each into what those
before it left.  Where the elements of both lists are told apart by texts, none of these
lists in between matters.  Every element of the target is merged with its partner, the
element of the patch under the same text, and what this merge gives takes its place; an
element without a partner stays.  The other elements of the patch follow in their order,
without their directives.
-/

namespace Manifest.StrategicPatch

/-! ## The outcome -/

/-- The fields of a node that is a mapping. -/
def fieldsOf (node : Node) : List (String × Node) :=
  node.mapping?.getD []

/-- The element of a patch that carries the text of an element, with its position. -/
def partner? (key : String) (element : Node) (items : List (Node × Nat)) :
    Option (Node × Nat) :=
  items.find? fun item => keyText? key item.1 == keyText? key element

/-- What becomes of an element: it is merged with its partner, or it stays. -/
def mergedWithPartner
    (key : String)
    (path : Path)
    (items : List (Node × Nat))
    (element : Node) :
    Except PatchError (Option Node) :=
  match partner? key element items with
  | none => .ok (some element)
  | some (item, position) =>
      (mergeMapping (fieldsOf element) (fieldsOf item) (path.push (.index position))).map
        (Option.map .mapping)

/-- The elements of a patch that carry texts that no element of the target carries. -/
def newItems (key : String) (target patch : List Node) : List Node :=
  patch.filter fun item => target.all fun element => keyText? key element != keyText? key item

/-- The elements of the target, each merged on its own, and the new ones of the patch. -/
def pairedMerge (key : String) (path : Path) (target patch : List Node) :
    Except PatchError (List Node) :=
  (target.filterMapM (mergedWithPartner key path patch.zipIdx)).map fun kept =>
    kept ++ (newItems key target patch).filterMap Directive.strip

theorem fieldsOf_of_content
    {node : Node}
    {fields : List (String × Node)}
    (isMapping : node.content = .mapping fields) :
    fieldsOf node = fields := by
  rw [fieldsOf, Node.mapping?, isMapping]
  rfl

theorem isKey_of_mergeKeys
    {field key : String}
    {others : List String}
    (hasKeys : mergeKeys field = some (key :: others)) :
    Directive.isKey key = false := by
  unfold mergeKeys at hasKeys
  split at hasKeys <;> cases hasKeys <;> decide

/-- An element that carries a text under a key is more than a marker of replacement. -/
theorem not_isReplaceMarker_of_keyText?
    {key text : String}
    {item : Node}
    (noKey : Directive.isKey key = false)
    (carriesText : keyText? key item = some text) :
    Directive.isReplaceMarker item = false := by
  rcases keyText?_eq_some.1 carriesText with ⟨fields, node, leaf, isMapping, found, _, _⟩
  rw [Directive.isReplaceMarker, Node.mapping?, isMapping]
  dsimp only
  rw [Bool.and_eq_false_iff]
  rcases fields with _ | ⟨⟨name, content⟩, _ | ⟨second, rest⟩⟩
  · cases found
  · have isName : name = key := by
      by_contra different
      rw [Fields.get?_cons_other different] at found
      cases found
    have different : name ≠ Directive.key := by
      intro isDirective
      rw [← isName, isDirective] at noKey
      simp [Directive.isKey] at noKey
    have absent : Fields.get? Directive.key [(name, content)] = none := by
      rw [Fields.get?_cons_other different, Fields.get?]
    exact Or.inr (by rw [Directive.text?_of_absent absent]; rfl)
  · exact Or.inl (by simp)

/-! ## Elements without a partner -/

/-- No element of a list carries a text. -/
def Lacks (key text : String) (elements : List Node) : Prop :=
  ∀ element ∈ elements, keyText? key element ≠ some text

/-- Each element of a list carries a text. -/
def Carry (key text : String) (elements : List Node) : Prop :=
  ∀ element ∈ elements, keyText? key element = some text

section

variable
  {key text : String}
  {path : Path}
  {position : Nat}
  {item element : Node}
  {rest elements : List Node}

theorem mergedWithPartner_cons_same
    (sameText : keyText? key item = keyText? key element) :
    mergedWithPartner key path ((item :: rest).zipIdx position) element =
      (mergeMapping (fieldsOf element) (fieldsOf item) (path.push (.index position))).map
        (Option.map .mapping) := by
  rw [mergedWithPartner, partner?, List.zipIdx_cons, List.find?_cons_of_pos (by simp [sameText])]

theorem mergedWithPartner_cons_other
    (otherText : keyText? key item ≠ keyText? key element) :
    mergedWithPartner key path ((item :: rest).zipIdx position) element =
      mergedWithPartner key path (rest.zipIdx (position + 1)) element := by
  rw [mergedWithPartner, partner?, List.zipIdx_cons, List.find?_cons_of_neg (by simp [otherText]),
    mergedWithPartner, partner?]

/-- An element stays if the patch has nothing under its text. -/
theorem mergedWithPartner_of_lacks
    (carriesText : keyText? key element = some text)
    (lacks : Lacks key text rest) :
    mergedWithPartner key path (rest.zipIdx position) element = .ok (some element) := by
  have noPartner : partner? key element (rest.zipIdx position) = none := by
    rw [partner?, List.find?_eq_none]
    intro indexed member
    rw [carriesText, beq_iff_eq]
    exact lacks indexed.1 (List.fst_mem_of_mem_zipIdx member)
  rw [mergedWithPartner, noPartner]

/-- Elements stay if the patch has nothing under the text that they carry. -/
theorem filterMapM_of_carries
    (carryText : Carry key text elements)
    (lacks : Lacks key text rest)
    (path : Path)
    (position : Nat) :
    elements.filterMapM (mergedWithPartner key path (rest.zipIdx position)) = .ok elements :=
  Result.filterMapM_of_some fun node member =>
    mergedWithPartner_of_lacks (carryText node member) lacks

/-- Elements without the text of an item are merged as if the item was not there. -/
theorem filterMapM_of_lacks
    (carriesText : keyText? key item = some text)
    (lacks : Lacks key text elements) :
    elements.filterMapM (mergedWithPartner key path ((item :: rest).zipIdx position)) =
      elements.filterMapM (mergedWithPartner key path (rest.zipIdx (position + 1))) := by
  refine Result.filterMapM_congr fun other member => mergedWithPartner_cons_other ?_
  rw [carriesText]
  exact (lacks other member).symm

/-- Elements that carry a text which the patch lacks have no part in what is new. -/
theorem newItems_of_lacks
    (before after : List Node)
    (carryText : Carry key text elements)
    (lacks : Lacks key text rest) :
    newItems key (before ++ elements ++ after) rest = newItems key (before ++ after) rest := by
  refine List.filter_congr fun other member => ?_
  have others : elements.all (fun node => keyText? key node != keyText? key other) = true := by
    rw [List.all_eq_true]
    intro node inElements
    rw [carryText node inElements, bne_iff_ne]
    exact (lacks other member).symm
  rw [List.all_append, List.all_append, List.all_append, others, Bool.and_true]

theorem newItems_cons_old
    (member : element ∈ elements)
    (sameText : keyText? key element = keyText? key item) :
    newItems key elements (item :: rest) = newItems key elements rest := by
  refine List.filter_cons_of_neg ?_
  rw [List.all_eq_true]
  intro allOther
  have other := allOther element member
  rw [sameText, bne_self_eq_false] at other
  cases other

theorem newItems_cons_new
    (carriesText : keyText? key item = some text)
    (lacks : Lacks key text elements) :
    newItems key elements (item :: rest) = item :: newItems key elements rest := by
  refine List.filter_cons_of_pos ?_
  rw [List.all_eq_true]
  intro element member
  rw [carriesText, bne_iff_ne]
  exact lacks element member

end

/-! ## One element of a patch -/

/-- New content is what is left without directives, if the directive is known. -/
theorem withoutTarget_eq_ok
    {patch : List (String × Node)}
    {path : Path}
    {result : Option (List (String × Node))} :
    withoutTarget patch path = .ok result ↔
      ¬ Directive.IsUnknown patch ∧ Directive.stripMapping patch = result := by
  rw [withoutTarget]
  cases reads : Directive.read patch path with
  | error error => simp [(Directive.read_eq_error reads).1]
  | ok directive =>
      have known := Directive.not_isUnknown_of_read reads
      have asked := Directive.deletes_of_read reads
      by_cases isDelete : directive = some .delete
      · subst isDelete
        simp [known, Directive.stripMapping, asked.2 rfl]
      · simp [known]

section

variable
  {key text : String}
  {item element : Node}
  {before after elements : List Node}

/-- An element of a patch whose text nothing carries is added at the end. -/
theorem mergeElement_of_lacks
    (carriesText : keyText? key item = some text)
    (lacks : Lacks key text elements)
    (others : List String)
    (path : Path)
    {next : List Node} :
    mergeElement (key :: others) path elements item = .ok next ↔
      ¬ Directive.IsUnknown (fieldsOf item) ∧
        elements ++ (Directive.strip item).toList = next := by
  rcases keyText?_eq_some.1 carriesText with ⟨patch, _, _, isMapping, _⟩
  have noPosition : position? (key :: others) patch elements = none := by
    rw [position?_of_keyText? isMapping carriesText, List.findIdx?_eq_none_iff]
    intro element member
    simpa using lacks element member
  have isNew : mergeOnto none patch path = withoutTarget patch path := rfl
  rw [mergeElement_of_mapping isMapping, counterpart?, noPosition, Option.map_none, isNew,
    Result.map_eq_ok, fieldsOf_of_content isMapping,
    Directive.strip_eq_stripMapping isMapping]
  simp only [withoutTarget_eq_ok]
  have added :
      ∀ stripped,
        settle none elements stripped = elements ++ (stripped.map Node.mapping).toList := by
    intro stripped
    cases stripped with
    | none => exact (List.append_nil elements).symm
    | some fields => rfl
  constructor
  · rintro ⟨_, ⟨known, rfl⟩, rfl⟩
    exact ⟨known, (added _).symm⟩
  · rintro ⟨known, rfl⟩
    exact ⟨_, ⟨known, rfl⟩, added _⟩

/-- An element of a patch is merged into the element that carries its text. -/
theorem mergeElement_of_carries
    (itemCarries : keyText? key item = some text)
    (elementCarries : keyText? key element = some text)
    (lacks : Lacks key text before)
    (others : List String)
    (path : Path) :
    mergeElement (key :: others) path (before ++ element :: after) item =
      (mergeMapping (fieldsOf element) (fieldsOf item) path).map fun merged =>
        before ++ (merged.map .mapping).toList ++ after := by
  rcases keyText?_eq_some.1 itemCarries with ⟨patch, _, _, isMapping, _⟩
  have atElement :
      position? (key :: others) patch (before ++ element :: after) = some before.length := by
    have notBefore :
        before.findIdx? (fun element => keyText? key element == some text) = none := by
      rw [List.findIdx?_eq_none_iff]
      intro element member
      simpa using lacks element member
    rw [position?_of_keyText? isMapping itemCarries, List.findIdx?_append, notBefore,
      List.findIdx?_cons]
    simp [elementCarries]
  have isElement : (before ++ element :: after)[before.length]? = some element := by simp
  rw [mergeElement_of_mapping isMapping, counterpart?, atElement, Option.map_some, isElement,
    fieldsOf_of_content isMapping]
  refine congrArg (fun change => Except.map change _) (funext fun merged => ?_)
  cases merged with
  | none => simp [settle, putElement, List.eraseIdx_append_of_length_le]
  | some fields => simp [settle, putElement]

/-- What a mapping of a patch gives carries the texts that the mapping carries. -/
theorem Applied.carry
    {key text : String}
    {path : Path}
    {existing result : Option Node}
    {item : Node}
    {patch : List (String × Node)}
    (applied : Applied path existing patch result)
    (existingWellFormed : ∀ content, existing = some content → content.WellFormed)
    (isMapping : item.content = .mapping patch)
    (itemWellFormed : item.WellFormed)
    (noKey : Directive.isKey key = false)
    (carriesText : keyText? key item = some text) :
    Carry key text result.toList := by
  rcases applied.outcome with ⟨_, rfl⟩ | ⟨_, fields, rfl⟩
  · simp [Carry]
  · have patchWellFormed := itemWellFormed.content
    rw [isMapping, Node.wellFormed_mapping] at patchWellFormed
    rcases keyText?_eq_some.1 carriesText with ⟨_, node, leaf, isFields, found, isScalar, isText⟩
    rw [isMapping, Node.mapping.injEq] at isFields
    subst isFields
    have becomes := applied.fieldBecomes existingWellFormed patchWellFormed.distinct noKey
    rw [found] at becomes
    have isThere : Fields.get? key fields = some (.scalar leaf) := by
      generalize Fields.get? key fields = after at becomes ⊢
      cases becomes with
      | clears isNull =>
          rw [Node.isNull, isScalar] at isNull
          simp [Scalar.isNull, isText] at isNull
      | strips => exact Directive.strip_of_scalar isScalar
      | merges _ merges =>
          rw [mergeNode_of_scalar isScalar, Except.ok.injEq] at merges
          exact merges.symm
    intro element isResult
    cases Option.mem_toList.1 isResult
    exact keyText?_eq_some.2 ⟨fields, .scalar leaf, leaf, rfl, isThere, rfl, isText⟩

/-- What is merged into an element with a text carries the text as well. -/
theorem carry_of_mergeMapping
    (noKey : Directive.isKey key = false)
    (itemWellFormed : item.WellFormed)
    (elementWellFormed : element.WellFormed)
    (itemCarries : keyText? key item = some text)
    (elementCarries : keyText? key element = some text)
    {path : Path}
    {merged : Option (List (String × Node))}
    (merges : mergeMapping (fieldsOf element) (fieldsOf item) path = .ok merged) :
    Carry key text (merged.map .mapping).toList := by
  rcases keyText?_eq_some.1 itemCarries with ⟨patch, _, _, isItem, _⟩
  rcases keyText?_eq_some.1 elementCarries with ⟨target, _, _, isElement, _⟩
  rw [fieldsOf_of_content isItem, fieldsOf_of_content isElement] at merges
  refine (applied_of_byDirective merges).carry ?_ isItem itemWellFormed noKey itemCarries
  rintro _ ⟨⟩
  rw [← isElement]
  exact elementWellFormed.content

/-- New content carries the text of the element that it is made of. -/
theorem carry_strip
    (noKey : Directive.isKey key = false)
    (itemWellFormed : item.WellFormed)
    (itemCarries : keyText? key item = some text) :
    Carry key text (Directive.strip item).toList := by
  rcases keyText?_eq_some.1 itemCarries with ⟨patch, _, _, isItem, _⟩
  exact (applied_of_strip [] none isItem).carry (by simp) isItem itemWellFormed noKey itemCarries

end

/-! ## The elements of a patch, one after another -/

/-- A list is what remains of its elements and of those that are left in a patch. -/
def IsPaired
    (key : String)
    (path : Path)
    (position : Nat)
    (elements items result : List Node) : Prop :=
  (∀ item ∈ newItems key elements items, ¬ Directive.IsUnknown (fieldsOf item)) ∧
    ∃ kept,
      elements.filterMapM (mergedWithPartner key path (items.zipIdx position)) = .ok kept ∧
        kept ++ (newItems key elements items).filterMap Directive.strip = result

section

variable
  {key text : String}
  {path : Path}
  {position : Nat}
  {item element : Node}
  {before after elements rest result : List Node}

theorem isPaired_nil :
    IsPaired key path position elements [] result ↔ elements = result := by
  have stay : elements.filterMapM (mergedWithPartner key path []) = .ok elements :=
    Result.filterMapM_of_some fun _ _ => rfl
  simp [IsPaired, newItems, stay]

/-- What is added under a text of its own stays as it is when the rest is merged. -/
theorem isPaired_cons_new
    (itemCarries : keyText? key item = some text)
    (elementsLack : Lacks key text elements)
    (restLacks : Lacks key text rest)
    (carries : Carry key text (Directive.strip item).toList) :
    IsPaired key path position elements (item :: rest) result ↔
      ¬ Directive.IsUnknown (fieldsOf item) ∧
        IsPaired key path (position + 1) (elements ++ (Directive.strip item).toList) rest
          result := by
  have sameNew := newItems_of_lacks elements [] carries restLacks
  rw [List.append_nil, List.append_nil] at sameNew
  have stay := filterMapM_of_carries carries restLacks path (position + 1)
  have firstNew :
      ∀ others : List Node,
        (item :: others).filterMap Directive.strip =
          (Directive.strip item).toList ++ others.filterMap Directive.strip := by
    intro others
    rw [List.filterMap_cons]
    cases Directive.strip item <;> rfl
  rw [IsPaired, IsPaired, newItems_cons_new itemCarries elementsLack,
    filterMapM_of_lacks itemCarries elementsLack, sameNew, firstNew, List.forall_mem_cons,
    and_assoc]
  simp only [Result.filterMapM_append_eq_ok]
  refine and_congr_right fun _ => and_congr_right fun _ => ?_
  constructor
  · rintro ⟨kept, keeps, rfl⟩
    exact ⟨_, ⟨kept, _, keeps, stay, rfl⟩, List.append_assoc _ _ _⟩
  · rintro ⟨_, ⟨kept, added, keeps, adds, rfl⟩, rfl⟩
    rw [stay, Except.ok.injEq] at adds
    subst adds
    exact ⟨kept, keeps, (List.append_assoc _ _ _).symm⟩

/-- What an element becomes under its text stays as it is when the rest is merged. -/
theorem isPaired_cons_old
    (itemCarries : keyText? key item = some text)
    (elementCarries : keyText? key element = some text)
    (beforeLacks : Lacks key text before)
    (afterLacks : Lacks key text after)
    (restLacks : Lacks key text rest)
    (carries :
      ∀ merged,
        mergeMapping (fieldsOf element) (fieldsOf item) (path.push (.index position)) =
            .ok merged →
          Carry key text (merged.map .mapping).toList) :
    IsPaired key path position (before ++ element :: after) (item :: rest) result ↔
      ∃ merged,
        mergeMapping (fieldsOf element) (fieldsOf item) (path.push (.index position)) =
            .ok merged ∧
          IsPaired key path (position + 1)
            (before ++ (merged.map .mapping).toList ++ after) rest result := by
  have isOld :
      newItems key (before ++ element :: after) (item :: rest) =
        newItems key (before ++ after) rest := by
    have alone :=
      newItems_of_lacks before after (List.forall_mem_singleton.2 elementCarries) restLacks
    rw [List.append_assoc, List.singleton_append] at alone
    rw [newItems_cons_old (by simp) (elementCarries.trans itemCarries.symm), alone]
  simp only [IsPaired, isOld, Result.filterMapM_append_eq_ok, Result.filterMapM_cons_eq_ok,
    filterMapM_of_lacks itemCarries beforeLacks, filterMapM_of_lacks itemCarries afterLacks,
    mergedWithPartner_cons_same (itemCarries.trans elementCarries.symm), Result.map_eq_ok]
  constructor
  · rintro
      ⟨known, _, ⟨firsts, _, keepsBefore, ⟨_, lasts, ⟨merged, merges, rfl⟩, keepsAfter, rfl⟩, rfl⟩,
        rfl⟩
    refine ⟨merged, merges, ?_⟩
    rw [newItems_of_lacks before after (carries merged merges) restLacks]
    have stay := filterMapM_of_carries (carries merged merges) restLacks path (position + 1)
    exact ⟨known, _, ⟨_, lasts, ⟨firsts, _, keepsBefore, stay, rfl⟩, keepsAfter, rfl⟩, by simp⟩
  · rintro
      ⟨merged, merges, known, _, ⟨_, lasts, ⟨firsts, others, keepsBefore, keeps, rfl⟩, keepsAfter,
        rfl⟩, rfl⟩
    have stay := filterMapM_of_carries (carries merged merges) restLacks path (position + 1)
    rw [stay, Except.ok.injEq] at keeps
    subst keeps
    rw [newItems_of_lacks before after (carries merged merges) restLacks] at known ⊢
    exact ⟨known, _, ⟨firsts, _, keepsBefore, ⟨_, lasts, ⟨merged, merges, rfl⟩, keepsAfter, rfl⟩,
      rfl⟩, by simp⟩

end

namespace TextsApart

variable
  {key text : String}
  {before after : List Node}

/-- The texts are apart in whatever order the elements stand. -/
theorem perm
    {items others : List Node}
    (apart : TextsApart key items)
    (sameItems : items.Perm others) :
    TextsApart key others where
  carried := fun item member => apart.carried item (sameItems.mem_iff.2 member)
  distinct := (sameItems.map _).nodup_iff.1 apart.distinct

theorem sublist
    {items fewer : List Node}
    (apart : TextsApart key items)
    (isSublist : fewer.Sublist items) :
    TextsApart key fewer where
  carried := fun item member => apart.carried item (isSublist.subset member)
  distinct := apart.distinct.sublist (isSublist.map _)

/-- An element carries a text that those around it lack. -/
theorem around
    {element : Node}
    (apart : TextsApart key (before ++ element :: after))
    (carriesText : keyText? key element = some text) :
    Lacks key text before ∧ Lacks key text after := by
  rcases (apart.perm List.perm_middle).head with ⟨carried, isCarried, others⟩
  rw [carriesText, Option.some.injEq] at isCarried
  subst isCarried
  exact List.forall_mem_append.1 others

/-- An element can stand among others under a text that they lack. -/
theorem insert
    (apart : TextsApart key (before ++ after))
    (beforeLacks : Lacks key text before)
    (afterLacks : Lacks key text after)
    {inserted : Option Node}
    (carryText : Carry key text inserted.toList) :
    TextsApart key (before ++ inserted.toList ++ after) := by
  cases inserted with
  | none => simpa using apart
  | some node =>
      have nodeCarries : keyText? key node = some text := carryText node (by simp)
      have isNew : keyText? key node ∉ (before ++ after).map (keyText? key) := by
        rw [nodeCarries, List.mem_map]
        rintro ⟨other, member, sameText⟩
        exact (List.mem_append.1 member).elim (beforeLacks other · sameText)
          (afterLacks other · sameText)
      have inFront : TextsApart key (node :: (before ++ after)) :=
        { carried := by
            refine List.forall_mem_cons.2 ⟨?_, apart.carried⟩
            rw [nodeCarries]
            rfl
          distinct := List.nodup_cons.2 ⟨isNew, apart.distinct⟩ }
      have sameItems : (node :: (before ++ after)).Perm (before ++ [node] ++ after) := by
        rw [List.append_assoc]
        exact List.perm_middle.symm
      exact inFront.perm sameItems

end TextsApart

/--
What holds of the lists in between: their texts are apart, and an element is well-formed
as long as it is to be merged.
-/
structure Pending (key : String) (items elements : List Node) : Prop where
  apart : TextsApart key elements
  wellFormed :
    ∀ element ∈ elements, ∀ item ∈ items,
      keyText? key element = keyText? key item → element.WellFormed

/-- What stands under the text of an item can be replaced before the rest is merged. -/
theorem Pending.replace
    {key text : String}
    {item : Node}
    {before after elements rest : List Node}
    (pending : Pending key (item :: rest) elements)
    (old : (before ++ after).Sublist elements)
    (beforeLacks : Lacks key text before)
    (afterLacks : Lacks key text after)
    (restLacks : Lacks key text rest)
    {replaced : Option Node}
    (carryText : Carry key text replaced.toList) :
    Pending key rest (before ++ replaced.toList ++ after) where
  apart := (pending.apart.sublist old).insert beforeLacks afterLacks carryText
  wellFormed := by
    intro element member other inRest sameText
    rw [List.append_assoc, List.mem_append, List.mem_append, or_left_comm, ← List.mem_append]
      at member
    rcases member with isReplaced | isOld
    · rw [carryText element isReplaced] at sameText
      exact absurd sameText.symm (restLacks other inRest)
    · exact pending.wellFormed element (old.subset isOld) other (List.mem_cons_of_mem _ inRest)
        sameText

/-- A list is merged if its first element is, and then the rest into what this gives. -/
theorem mergeElements_cons_eq_ok
    {keys : List String}
    {path : Path}
    {position : Nat}
    {item : Node}
    {elements rest result : List Node} :
    mergeElements keys path position elements (item :: rest) = .ok result ↔
      ∃ next,
        mergeElement keys (path.push (.index position)) elements item = .ok next ∧
          mergeElements keys path (position + 1) next rest = .ok result := by
  rw [mergeElements]
  cases mergeElement keys (path.push (.index position)) elements item <;> simp

/-- The elements of a patch that are merged one after another are merged at once. -/
theorem mergeElements_eq_ok
    {key : String}
    {items : List Node}
    {path : Path}
    {result : List Node}
    (noKey : Directive.isKey key = false)
    (itemsWellFormed : ∀ item ∈ items, item.WellFormed)
    (itemsApart : TextsApart key items)
    (others : List String) :
    ∀ position elements,
      Pending key items elements →
        (mergeElements (key :: others) path position elements items = .ok result ↔
          IsPaired key path position elements items result) := by
  induction items with
  | nil =>
      intro position elements _
      rw [mergeElements, isPaired_nil, Except.ok.injEq]
  | cons item rest inductionHypothesis =>
      intro position elements pending
      rcases List.forall_mem_cons.1 itemsWellFormed with ⟨itemWellFormed, restWellFormed⟩
      rcases itemsApart.head with ⟨text, itemCarries, restLacks⟩
      have mergesRest := inductionHypothesis restWellFormed itemsApart.tail (position + 1)
      rw [mergeElements_cons_eq_ok]
      by_cases isNew : Lacks key text elements
      · have carries := carry_strip noKey itemWellFormed itemCarries
        have nextPending :=
          pending.replace (by rw [List.append_nil]) isNew (by simp [Lacks]) restLacks carries
        rw [List.append_nil] at nextPending
        rw [isPaired_cons_new itemCarries isNew restLacks carries, ← mergesRest _ nextPending]
        simp only [mergeElement_of_lacks itemCarries isNew]
        constructor
        · rintro ⟨_, ⟨known, rfl⟩, merges⟩
          exact ⟨known, merges⟩
        · rintro ⟨known, merges⟩
          exact ⟨_, ⟨known, rfl⟩, merges⟩
      · have hasOld : ∃ element ∈ elements, keyText? key element = some text := by
          simpa [Lacks] using isNew
        rcases hasOld with ⟨element, member, elementCarries⟩
        have elementWellFormed :=
          pending.wellFormed element member item List.mem_cons_self
            (elementCarries.trans itemCarries.symm)
        rcases List.append_of_mem member with ⟨before, after, rfl⟩
        rcases pending.apart.around elementCarries with ⟨beforeLacks, afterLacks⟩
        have carries :
            ∀ merged,
              mergeMapping (fieldsOf element) (fieldsOf item) (path.push (.index position)) =
                  .ok merged →
                Carry key text (merged.map .mapping).toList := by
          intro merged merges
          exact carry_of_mergeMapping noKey itemWellFormed elementWellFormed itemCarries
            elementCarries merges
        have isShorter : (before ++ after).Sublist (before ++ element :: after) :=
          (List.sublist_cons_self element after).append_left before
        have nextPending := fun merged merges =>
          pending.replace isShorter beforeLacks afterLacks restLacks (carries merged merges)
        rw [isPaired_cons_old itemCarries elementCarries beforeLacks afterLacks restLacks carries]
        simp only [mergeElement_of_carries itemCarries elementCarries beforeLacks,
          Result.map_eq_ok]
        constructor
        · rintro ⟨_, ⟨merged, merges, rfl⟩, mergesNext⟩
          exact ⟨merged, merges, (mergesRest _ (nextPending merged merges)).1 mergesNext⟩
        · rintro ⟨merged, merges, isPaired⟩
          exact ⟨_, ⟨merged, merges, rfl⟩, (mergesRest _ (nextPending merged merges)).2 isPaired⟩

/-! ## Lists -/

/-- Lists whose elements carry texts under the first merge key are merged by the merge keys. -/
theorem listMode_of_textsApart
    {field key : String}
    {others : List String}
    (hasKeys : mergeKeys field = some (key :: others))
    {patch : List Node}
    (apart : TextsApart key patch) :
    listMode field patch = .byKeys (key :: others) := by
  have carried : ∀ item ∈ patch, ∃ text, keyText? key item = some text := by
    intro item member
    exact Option.isSome_iff_exists.1 (apart.carried item member)
  have noMarkers : patch.any Directive.isReplaceMarker = false := by
    rw [List.any_eq_false]
    intro item member
    rcases carried item member with ⟨text, carriesText⟩
    simp [not_isReplaceMarker_of_keyText? (isKey_of_mergeKeys hasKeys) carriesText]
  have areMappings : patch.all (·.mapping?.isSome) = true := by
    rw [List.all_eq_true]
    intro item member
    rcases carried item member with ⟨text, carriesText⟩
    rcases keyText?_eq_some.1 carriesText with ⟨fields, _, _, isMapping, _⟩
    rw [Node.mapping?_eq_some.2 isMapping]
    rfl
  rw [listMode, noMarkers, hasKeys, areMappings]
  rfl

/--
Where the elements of two lists are told apart by texts under the first merge key, the
merge is what becomes of each element of the target on its own, followed by the new
elements of the patch.  It is refused only where one of the elements is.
-/
theorem mergeList_eq_ok
    {field key : String}
    {others : List String}
    (hasKeys : mergeKeys field = some (key :: others))
    {target patch : List Node}
    (targetWellFormed : ∀ element ∈ target, element.WellFormed)
    (patchWellFormed : ∀ item ∈ patch, item.WellFormed)
    (targetApart : TextsApart key target)
    (patchApart : TextsApart key patch)
    (path : Path)
    {result : List Node} :
    mergeList field target patch path = .ok result ↔
      (∀ item ∈ newItems key target patch, ¬ Directive.IsUnknown (fieldsOf item)) ∧
        pairedMerge key path target patch = .ok result := by
  rw [mergeList, listMode_of_textsApart hasKeys patchApart, pairedMerge, Result.map_eq_ok]
  have pending : Pending key patch target :=
    { apart := targetApart
      wellFormed := fun element member _ _ _ => targetWellFormed element member }
  exact mergeElements_eq_ok (isKey_of_mergeKeys hasKeys) patchWellFormed patchApart others 0 target
    pending

/-- Containers of a document. -/
def running : List Node :=
  [.mapping [("name", .ofText "web")],
    .mapping [("name", .ofText "app"), ("image", .ofText "old")],
    .mapping [("name", .ofText "log")]]

/-- Changes to the containers: one is added, one deleted and one merged. -/
def changes : List Node :=
  [.mapping [("name", .ofText "cache"), ("$patch", .ofText "merge")],
    .mapping [("$patch", .ofText "delete"), ("name", .ofText "log")],
    .mapping [("image", .ofText "new"), ("name", .ofText "app")],
    .mapping [("name", .ofText "proxy"), ("$patch", .ofText "delete")]]

/-- What is in both lists stays in place, and what is not there is not deleted. -/
theorem mergeList_running :
    mergeList "containers" running changes [] =
      .ok
        [.mapping [("name", .ofText "web")],
          .mapping [("name", .ofText "app"), ("image", .ofText "new")],
          .mapping [("name", .ofText "cache")]] := by
  have runningWellFormed : ∀ element ∈ running, element.WellFormed := by
    simp [running, Fields.names]
  have changesWellFormed : ∀ item ∈ changes, item.WellFormed := by
    simp [changes, Fields.names]
  have noneUnknown :
      ∀ item ∈ newItems "name" running changes, ¬ Directive.IsUnknown (fieldsOf item) := by
    have areNew :
        newItems "name" running changes =
          [.mapping [("name", .ofText "cache"), ("$patch", .ofText "merge")],
            .mapping [("name", .ofText "proxy"), ("$patch", .ofText "delete")]] := by
      rfl
    rw [areNew, List.forall_mem_cons, List.forall_mem_singleton]
    constructor
    · exact Directive.not_isUnknown_of_read (rfl : Directive.read _ [] = .ok (some .merge))
    · exact Directive.not_isUnknown_of_read (rfl : Directive.read _ [] = .ok (some .delete))
  exact (mergeList_eq_ok rfl runningWellFormed changesWellFormed ⟨by decide, by decide⟩
    ⟨by decide, by decide⟩ []).2 ⟨noneUnknown, rfl⟩

end Manifest.StrategicPatch
