import Manifest.Proofs.Node.Leaf
import Manifest.Proofs.Patch.Elements

/-!
# Elements that are told apart by texts

Where each element of a patch carries a text under the first merge key, a merge finds
and places elements by this text, as it finds and sets fields by their names: what is
placed is found under its own text, and what is found under another text stays.
-/

namespace Manifest.StrategicPatch

/-- The text of a scalar that is a text. -/
def textOf? (leaf : Scalar) : Option String :=
  match leaf.value with
  | .text content => some content
  | _ => none

/-- The text that an element carries under a key. -/
def keyText? (key : String) (element : Node) : Option String :=
  ((element.mapping?.bind (Fields.get? key)).bind Node.scalar?).bind textOf?

/-- The first element that carries a text under a key. -/
def find? (key text : String) (elements : List Node) : Option Node :=
  elements.find? fun element => keyText? key element == some text

/-- Puts an element in the place of the first one with a text, or adds it at the end. -/
def place (key text : String) (node : Node) : List Node → List Node
  | [] => [node]
  | element :: rest =>
      if keyText? key element = some text then node :: rest
      else element :: place key text node rest

/-! ## Finding and placing -/

section

variable
  {key text : String}
  {node element : Node}
  {elements rest : List Node}

theorem find?_cons_same
    (carriesText : keyText? key element = some text)
    (rest : List Node) :
    find? key text (element :: rest) = some element := by
  rw [find?, List.find?_cons_of_pos (by simp [carriesText])]

theorem find?_cons_other
    (otherText : keyText? key element ≠ some text)
    (rest : List Node) :
    find? key text (element :: rest) = find? key text rest := by
  rw [find?, List.find?_cons_of_neg (by simp [otherText]), find?]

theorem find?_place_same
    (carriesText : keyText? key node = some text)
    (elements : List Node) :
    find? key text (place key text node elements) = some node := by
  induction elements with
  | nil => exact find?_cons_same carriesText []
  | cons element rest inductionHypothesis =>
      rw [place]
      split
      · exact find?_cons_same carriesText rest
      · rename_i otherText
        rw [find?_cons_other otherText, inductionHypothesis]

theorem find?_place_other
    {other : String}
    (different : other ≠ text)
    (carriesText : keyText? key node = some text)
    (elements : List Node) :
    find? key other (place key text node elements) = find? key other elements := by
  have notOther :
      ∀ {element : Node}, keyText? key element = some text → keyText? key element ≠ some other := by
    intro element isText isOther
    rw [isText, Option.some.injEq] at isOther
    exact different isOther.symm
  induction elements with
  | nil => exact find?_cons_other (notOther carriesText) []
  | cons element rest inductionHypothesis =>
      rw [place]
      split
      · rename_i isText
        rw [find?_cons_other (notOther carriesText), find?_cons_other (notOther isText)]
      · by_cases isOther : keyText? key element = some other
        · rw [find?_cons_same isOther, find?_cons_same isOther]
        · rw [find?_cons_other isOther, find?_cons_other isOther, inductionHypothesis]

/-- To place what is there changes nothing. -/
theorem place_of_find?
    (found : find? key text elements = some node) :
    place key text node elements = elements := by
  induction elements with
  | nil => cases found
  | cons element rest inductionHypothesis =>
      rw [place]
      split
      · rename_i isText
        rw [find?_cons_same isText, Option.some.injEq] at found
        rw [found]
      · rename_i otherText
        rw [find?_cons_other otherText] at found
        rw [inductionHypothesis found]

end

/-! ## Texts of an element -/

theorem textOf?_eq_some
    {leaf : Scalar}
    {text : String} :
    textOf? leaf = some text ↔ leaf.value = .text text := by
  rw [textOf?]
  cases leaf.value <;> simp

/-- A text is carried by a field that holds a scalar. -/
theorem keyText?_eq_some
    {key text : String}
    {element : Node} :
    keyText? key element = some text ↔
      ∃ fields node leaf,
        element.content = .mapping fields ∧
          Fields.get? key fields = some node ∧
            node.content = .scalar leaf ∧ leaf.value = .text text := by
  simp only [keyText?, Option.bind_eq_some_iff, Node.mapping?_eq_some, Node.scalar?_eq_some,
    textOf?_eq_some]
  constructor
  · rintro ⟨leaf, ⟨node, ⟨fields, isMapping, found⟩, isScalar⟩, isText⟩
    exact ⟨fields, node, leaf, isMapping, found, isScalar, isText⟩
  · rintro ⟨fields, node, leaf, isMapping, found, isScalar, isText⟩
    exact ⟨leaf, ⟨node, ⟨fields, isMapping, found⟩, isScalar⟩, isText⟩

/-- An element carries what another one does if it carries the same text. -/
theorem carries_of_text
    {value : Node}
    {leaf : Scalar}
    {text : String}
    (isScalar : value.content = .scalar leaf)
    (isText : leaf.value = .text text)
    (key : String)
    (element : Node) :
    carries key value element = (keyText? key element == some text) := by
  rw [carries, keyText?]
  cases element.mapping?.bind (Fields.get? key) with
  | none => rfl
  | some node =>
      dsimp only
      rw [isScalar, Option.bind_some, Node.scalar?]
      cases node.content with
      | scalar other =>
          rw [Node.same, Scalar.same, isText, Option.bind_some, textOf?]
          cases other.value <;> simp [ScalarValue.same]
      | _ => simp [Node.same]

/-- Each of some elements carries a text under a key, and no two carry the same. -/
structure TextsApart (key : String) (items : List Node) : Prop where
  carried : ∀ item ∈ items, (keyText? key item).isSome = true
  distinct : (items.map (keyText? key)).Nodup

namespace TextsApart

variable
  {key : String}
  {item : Node}
  {rest : List Node}

theorem tail
    (apart : TextsApart key (item :: rest)) :
    TextsApart key rest where
  carried := (List.forall_mem_cons.1 apart.carried).2
  distinct := (List.nodup_cons.1 apart.distinct).2

/-- The first element carries a text that no other one carries. -/
theorem head
    (apart : TextsApart key (item :: rest)) :
    ∃ text, keyText? key item = some text ∧ ∀ other ∈ rest, keyText? key other ≠ some text := by
  rcases Option.isSome_iff_exists.1 (apart.carried item List.mem_cons_self) with
    ⟨text, carriesText⟩
  refine ⟨text, carriesText, ?_⟩
  intro other inRest sameText
  apply (List.nodup_cons.1 apart.distinct).1
  rw [carriesText, ← sameText]
  exact List.mem_map_of_mem inRest

end TextsApart

/-! ## Merging an element -/

theorem position?_of_keyText?
    {key text : String}
    {item : Node}
    {patch : List (String × Node)}
    (isMapping : item.content = .mapping patch)
    (carriesText : keyText? key item = some text)
    (others : List String)
    (elements : List Node) :
    position? (key :: others) patch elements =
      elements.findIdx? fun element => keyText? key element == some text := by
  rcases keyText?_eq_some.1 carriesText with
    ⟨fields, value, leaf, isFields, found, isScalar, isText⟩
  rw [isMapping, Node.mapping.injEq] at isFields
  subst isFields
  have firstKey : elementKey? (key :: others) patch = some (key, value) := by
    simp [elementKey?, found]
  rw [position?, firstKey]
  dsimp only
  rw [funext (carries_of_text isScalar isText key)]

theorem counterpart?_of_keyText?
    {key text : String}
    {item : Node}
    {patch : List (String × Node)}
    (isMapping : item.content = .mapping patch)
    (carriesText : keyText? key item = some text)
    (others : List String)
    (elements : List Node) :
    counterpart? (key :: others) patch elements = (find? key text elements).map Node.content := by
  rw [counterpart?, position?_of_keyText? isMapping carriesText]
  induction elements with
  | nil => rfl
  | cons element rest inductionHypothesis =>
      rw [List.findIdx?_cons]
      split
      · rename_i isText
        rw [beq_iff_eq] at isText
        rcases keyText?_eq_some.1 isText with ⟨fields, _, _, isElement, _⟩
        rw [find?_cons_same isText]
        simp [Node.mapping?, isElement]
      · rename_i otherText
        rw [find?_cons_other (by simpa using otherText), ← inductionHypothesis, Option.map_map]
        rfl

theorem settle_of_keyText?
    (key text : String)
    (fields : List (String × Node))
    (elements : List Node) :
    settle (elements.findIdx? fun element => keyText? key element == some text) elements
        (some fields) =
      place key text (.mapping fields) elements := by
  induction elements with
  | nil => rfl
  | cons element rest inductionHypothesis =>
      rw [List.findIdx?_cons, place]
      by_cases isText : keyText? key element = some text
      · simp [isText, settle, putElement]
      · rw [if_neg (by simpa using isText), if_neg isText, ← inductionHypothesis]
        cases rest.findIdx? fun element => keyText? key element == some text <;> rfl

/-- An element is merged with what is found under its text, and placed under it. -/
theorem mergeElement_of_keyText?
    {key text : String}
    {item : Node}
    {patch : List (String × Node)}
    (isMapping : item.content = .mapping patch)
    (carriesText : keyText? key item = some text)
    (others : List String)
    (path : Path)
    {elements : List Node}
    {fields : List (String × Node)}
    (merges :
      mergeOnto ((find? key text elements).map Node.content) patch path = .ok (some fields)) :
    mergeElement (key :: others) path elements item =
      .ok (place key text (.mapping fields) elements) := by
  rw [mergeElement_of_mapping isMapping, counterpart?_of_keyText? isMapping carriesText, merges,
    position?_of_keyText? isMapping carriesText, ← settle_of_keyText?]
  rfl

end Manifest.StrategicPatch
