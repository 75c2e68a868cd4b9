import Manifest.Json.Printer
import Manifest.Node.Lookup
import Manifest.Node.Metadata
import Manifest.Proofs.Node.Decode
import Manifest.Yaml.Document

/-!
# Documents without their wrappers

A document can be a document node, and hold aliases, at any depth.  None of this is
seen by what reads a document: its value, its texts and its metadata are those of
the tree without the wrappers, and what is found along a path is found there too.

Everything that is read off a node in the same way, first through its wrappers and
then from what is read off its parts, is dealt with at once.
-/

namespace Manifest

namespace Node

mutual

/-- The document without its wrappers. -/
def unwrapped : Node → Node
  | document inner => inner.unwrapped
  | reference _ target => target.unwrapped
  | mapping fields => mapping (unwrappedFields fields)
  | sequence items => sequence (unwrappedItems items)
  | scalar leaf => scalar leaf

/-- Items without their wrappers. -/
def unwrappedItems : List Node → List Node
  | [] => []
  | item :: rest => item.unwrapped :: unwrappedItems rest

/-- Fields without their wrappers. -/
def unwrappedFields : List (String × Node) → List (String × Node)
  | [] => []
  | (name, node) :: rest => (name, node.unwrapped) :: unwrappedFields rest

end

theorem unwrappedItems_eq_map (items : List Node) :
    unwrappedItems items = items.map unwrapped := by
  induction items with
  | nil => rfl
  | cons item rest inductionHypothesis =>
      rw [unwrappedItems, inductionHypothesis, List.map_cons]

theorem unwrappedFields_eq_mapContents (fields : List (String × Node)) :
    unwrappedFields fields = Fields.mapContents unwrapped fields := by
  induction fields with
  | nil => rfl
  | cons field rest inductionHypothesis =>
      rw [unwrappedFields, inductionHypothesis, Fields.mapContents_cons]

@[simp]
theorem get?_unwrappedFields
    (name : String)
    (fields : List (String × Node)) :
    Fields.get? name (unwrappedFields fields) = (Fields.get? name fields).map unwrapped := by
  rw [unwrappedFields_eq_mapContents, Fields.get?_mapContents]

theorem unwrappedFields_set
    (name : String)
    (node : Node)
    (fields : List (String × Node)) :
    unwrappedFields (Fields.set name node fields) =
      Fields.set name node.unwrapped (unwrappedFields fields) := by
  simp only [unwrappedFields_eq_mapContents, Fields.mapContents_set]

theorem unwrappedFields_ensure
    (name : String)
    (node : Node)
    (fields : List (String × Node)) :
    unwrappedFields (Fields.ensure name node fields) =
      Fields.ensure name node.unwrapped (unwrappedFields fields) := by
  simp only [unwrappedFields_eq_mapContents, Fields.mapContents_ensure]

theorem unwrappedFields_remove
    (name : String)
    (fields : List (String × Node)) :
    unwrappedFields (Fields.remove name fields) =
      Fields.remove name (unwrappedFields fields) := by
  simp only [unwrappedFields_eq_mapContents, Fields.mapContents_remove]

@[simp]
theorem unwrapped_content (node : Node) :
    node.content.unwrapped = node.unwrapped :=
  read_content (fun _ => rfl) (fun _ _ => rfl) node

@[simp]
theorem content_unwrapped (node : Node) :
    node.unwrapped.content = node.unwrapped := by
  induction node using contentInduction with
  | document inner inductionHypothesis => exact inductionHypothesis
  | reference anchor target inductionHypothesis => exact inductionHypothesis
  | mapping fields => rfl
  | sequence items => rfl
  | scalar leaf => rfl

/-- A content without its wrappers has the same shape. -/
theorem unwrapped_cases (node : Node) :
    (∃ fields,
        node.content = .mapping fields ∧ node.unwrapped = .mapping (unwrappedFields fields)) ∨
      (∃ items,
        node.content = .sequence items ∧ node.unwrapped = .sequence (unwrappedItems items)) ∨
      ∃ leaf, node.content = .scalar leaf ∧ node.unwrapped = .scalar leaf := by
  rw [← unwrapped_content]
  rcases content_cases node with ⟨fields, isMapping⟩ | ⟨items, isSequence⟩ | ⟨leaf, isScalar⟩
  · exact Or.inl ⟨fields, isMapping, by rw [isMapping, unwrapped]⟩
  · exact Or.inr (Or.inl ⟨items, isSequence, by rw [isSequence, unwrapped]⟩)
  · exact Or.inr (Or.inr ⟨leaf, isScalar, by rw [isScalar, unwrapped]⟩)

@[simp]
theorem kind_unwrapped (node : Node) :
    node.unwrapped.kind = node.content.kind := by
  rcases unwrapped_cases node with ⟨_, isContent, isUnwrapped⟩ | ⟨_, isContent, isUnwrapped⟩ |
      ⟨_, isContent, isUnwrapped⟩ <;>
    rw [isContent, isUnwrapped] <;> rfl

@[simp]
theorem isNull_unwrapped (node : Node) :
    node.unwrapped.isNull = node.isNull := by
  rw [isNull, isNull, content_unwrapped]
  rcases unwrapped_cases node with ⟨_, isContent, isUnwrapped⟩ | ⟨_, isContent, isUnwrapped⟩ |
      ⟨_, isContent, isUnwrapped⟩ <;>
    rw [isContent, isUnwrapped]

/-! ## What is read off a node through its wrappers -/

/-- A reading sees no wrappers, and of the parts of a node only what it reads off them. -/
structure ReadsThrough {β : Type} (read : Node → β) : Prop where
  document : ∀ inner, read (.document inner) = read inner
  reference : ∀ anchor target, read (.reference anchor target) = read target
  mapping :
    ∀ {fields others},
      Fields.mapContents read fields = Fields.mapContents read others →
      read (.mapping fields) = read (.mapping others)
  sequence :
    ∀ {items others},
      items.map read = others.map read → read (.sequence items) = read (.sequence others)

namespace ReadsThrough

variable
  {β : Type}
  {read : Node → β}

mutual

/-- The same is read off a document without its wrappers. -/
theorem unwrapped (reads : ReadsThrough read) :
    ∀ node : Node, read node.unwrapped = read node
  | .document inner => (unwrapped reads inner).trans (reads.document inner).symm
  | .reference anchor target => (unwrapped reads target).trans (reads.reference anchor target).symm
  | .mapping fields => reads.mapping (unwrappedFields reads fields)
  | .sequence items => reads.sequence (unwrappedItems reads items)
  | .scalar _ => rfl

theorem unwrappedItems (reads : ReadsThrough read) :
    ∀ items : List Node, (Node.unwrappedItems items).map read = items.map read
  | [] => rfl
  | item :: rest => by
      rw [Node.unwrappedItems, List.map_cons, List.map_cons, unwrapped reads item,
        unwrappedItems reads rest]

theorem unwrappedFields (reads : ReadsThrough read) :
    ∀ fields : List (String × Node),
      Fields.mapContents read (Node.unwrappedFields fields) = Fields.mapContents read fields
  | [] => rfl
  | (name, node) :: rest => by
      rw [Node.unwrappedFields, Fields.mapContents_cons, Fields.mapContents_cons,
        unwrapped reads node, unwrappedFields reads rest]

end

end ReadsThrough

theorem readsThrough_toValue : ReadsThrough toValue where
  document := fun _ => rfl
  reference := fun _ _ => rfl
  mapping := by
    intro fields others same
    rw [toValue, toValue, fieldValues_eq_mapContents, fieldValues_eq_mapContents, same]
  sequence := by
    intro items others same
    rw [toValue, toValue, itemValues_eq_map, itemValues_eq_map, same]

theorem itemsToTrees_eq_map (items : List Node) :
    itemsToTrees items = items.map toTree := by
  induction items with
  | nil => rfl
  | cons item rest inductionHypothesis => rw [itemsToTrees, inductionHypothesis, List.map_cons]

/-- The entries of fields are those of their trees. -/
theorem fieldsToTrees_eq_map (fields : List (String × Node)) :
    fieldsToTrees fields =
      (Fields.mapContents toTree fields).map fun entry => (.ofText entry.1, entry.2) := by
  induction fields with
  | nil => rfl
  | cons field rest inductionHypothesis =>
      rw [fieldsToTrees, inductionHypothesis, Fields.mapContents_cons, List.map_cons]

theorem readsThrough_toTree : ReadsThrough toTree where
  document := fun _ => rfl
  reference := fun _ _ => rfl
  mapping := by
    intro fields others same
    rw [toTree, toTree, fieldsToTrees_eq_map, fieldsToTrees_eq_map, same]
  sequence := by
    intro items others same
    rw [toTree, toTree, itemsToTrees_eq_map, itemsToTrees_eq_map, same]

theorem itemsToJson_eq_map (items : List Node) :
    itemsToJson items = items.map toJson := by
  induction items with
  | nil => rfl
  | cons item rest inductionHypothesis => rw [itemsToJson, inductionHypothesis, List.map_cons]

theorem fieldsToJson_eq_mapContents (fields : List (String × Node)) :
    fieldsToJson fields = Fields.mapContents toJson fields := by
  induction fields with
  | nil => rfl
  | cons field rest inductionHypothesis =>
      rw [fieldsToJson, inductionHypothesis, Fields.mapContents_cons]

theorem readsThrough_toJson : ReadsThrough toJson where
  document := fun _ => rfl
  reference := fun _ _ => rfl
  mapping := by
    intro fields others same
    rw [toJson, toJson, fieldsToJson_eq_mapContents, fieldsToJson_eq_mapContents, same]
  sequence := by
    intro items others same
    rw [toJson, toJson, itemsToJson_eq_map, itemsToJson_eq_map, same]

/-! ## Looking up -/

/-- What one step meets, without its wrappers. -/
def StepResult.unwrapped : StepResult → StepResult
  | .found node => .found node.unwrapped
  | .absent => .absent
  | .mismatch expected => .mismatch expected

theorem StepResult.ofOption_map (node : Option Node) :
    ofOption (node.map Node.unwrapped) = (ofOption node).unwrapped := by
  cases node <;> rfl

theorem getElem?_unwrappedItems
    (items : List Node)
    (position : Nat) :
    (unwrappedItems items)[position]? = items[position]?.map unwrapped := by
  rw [unwrappedItems_eq_map, List.getElem?_map]

theorem step_unwrapped
    (next : Step)
    (node : Node) :
    step next node.unwrapped = (step next node.content).unwrapped := by
  rcases unwrapped_cases node with ⟨fields, isContent, isUnwrapped⟩ |
      ⟨items, isContent, isUnwrapped⟩ | ⟨leaf, isContent, isUnwrapped⟩ <;>
    rw [isContent, isUnwrapped]
  · cases next <;> rw [step, step, get?_unwrappedFields, StepResult.ofOption_map]
  · cases next with
    | index position => rw [step, step, getElem?_unwrappedItems, StepResult.ofOption_map]
    | field name =>
        rw [step, step]
        cases Text.position? name with
        | none => rfl
        | some position =>
            simp only [getElem?_unwrappedItems]
            exact StepResult.ofOption_map _
  · cases next <;> rfl

theorem walk_unwrapped
    (path : Path) :
    ∀ (walked : Path) (node : Node),
      walk walked node.unwrapped path =
        (walk walked node.content path).map (Option.map unwrapped) := by
  induction path with
  | nil =>
      intro walked node
      rw [walk, walk, ← unwrapped_content]
      rfl
  | cons next rest inductionHypothesis =>
      intro walked node
      rw [walk, walk, step_unwrapped, kind_unwrapped, isNull_unwrapped, isNull_content]
      split
      · rfl
      · cases step next node.content with
        | found child =>
            simp only [StepResult.unwrapped]
            rw [content_unwrapped, inductionHypothesis]
        | absent => rfl
        | mismatch expected => rfl

/-- What is found along a path is found without the wrappers, and as before otherwise. -/
theorem lookup_unwrapped
    (node : Node)
    (path : Path) :
    node.unwrapped.lookup path = (node.lookup path).map (Option.map unwrapped) := by
  rw [lookup, lookup, content_unwrapped, walk_unwrapped]

end Node

/-! ## Metadata -/

namespace Metadata

open Node

theorem scalarField_unwrapped
    (fields : List (String × Node))
    (name : String) :
    scalarField (unwrappedFields fields) name = scalarField fields name := by
  rw [scalarField, scalarField, get?_unwrappedFields]
  cases Fields.get? name fields with
  | none => rfl
  | some node =>
      simp only [Option.map_some, content_unwrapped]
      rcases unwrapped_cases node with ⟨_, isContent, isUnwrapped⟩ | ⟨_, isContent, isUnwrapped⟩ |
          ⟨_, isContent, isUnwrapped⟩ <;>
        rw [isContent, isUnwrapped] <;> rfl

theorem textEntries_unwrapped
    (field : String)
    (fields : List (String × Node)) :
    textEntries field (unwrappedFields fields) = textEntries field fields := by
  induction fields with
  | nil => rfl
  | cons head rest inductionHypothesis =>
      rcases head with ⟨key, node⟩
      rw [unwrappedFields, textEntries, textEntries, content_unwrapped, inductionHypothesis]
      rcases unwrapped_cases node with ⟨_, isContent, isUnwrapped⟩ | ⟨_, isContent, isUnwrapped⟩ |
          ⟨_, isContent, isUnwrapped⟩ <;>
        rw [isContent, isUnwrapped] <;> rfl

theorem stringMap_unwrapped
    (node : Option Node)
    (field : String) :
    stringMap (node.map unwrapped) field = stringMap node field := by
  cases node with
  | none => rfl
  | some node =>
      rw [stringMap, stringMap]
      simp only [Option.map_some, content_unwrapped]
      rcases unwrapped_cases node with ⟨fields, isContent, isUnwrapped⟩ |
          ⟨_, isContent, isUnwrapped⟩ | ⟨_, isContent, isUnwrapped⟩ <;>
        rw [isContent, isUnwrapped]
      · simp only [textEntries_unwrapped]
      · rfl

theorem readSection_unwrapped
    (apiVersion kind : String)
    (fields : List (String × Node)) :
    readSection apiVersion kind (unwrappedFields fields) = readSection apiVersion kind fields := by
  rw [readSection, readSection, scalarField_unwrapped, scalarField_unwrapped,
    get?_unwrappedFields, get?_unwrappedFields, stringMap_unwrapped, stringMap_unwrapped]

theorem ofSection_unwrapped
    (apiVersion kind : String)
    (node : Option Node) :
    ofSection apiVersion kind (node.map unwrapped) = ofSection apiVersion kind node := by
  cases node with
  | none => rfl
  | some node =>
      rw [ofSection, ofSection]
      simp only [Option.map_some, content_unwrapped]
      rcases unwrapped_cases node with ⟨fields, isContent, isUnwrapped⟩ |
          ⟨_, isContent, isUnwrapped⟩ | ⟨_, isContent, isUnwrapped⟩ <;>
        rw [isContent, isUnwrapped]
      · simp only [readSection_unwrapped]
      · rfl

theorem ofFields_unwrapped (fields : List (String × Node)) :
    ofFields (unwrappedFields fields) = ofFields fields := by
  have sameIdentified : isIdentified (unwrappedFields fields) = isIdentified fields := by
    simp only [isIdentified, unwrappedFields_eq_mapContents, Fields.contains_mapContents]
  rw [ofFields, ofFields, sameIdentified, scalarField_unwrapped, scalarField_unwrapped,
    get?_unwrappedFields]
  simp only [ofSection_unwrapped]

end Metadata

namespace Node

theorem metadata_unwrapped (node : Node) :
    node.unwrapped.metadata = node.metadata := by
  rw [metadata, metadata, content_unwrapped]
  rcases unwrapped_cases node with ⟨fields, isContent, isUnwrapped⟩ |
      ⟨_, isContent, isUnwrapped⟩ | ⟨_, isContent, isUnwrapped⟩ <;>
    rw [isContent, isUnwrapped]
  · exact Metadata.ofFields_unwrapped fields
  · rfl

end Node

end Manifest
