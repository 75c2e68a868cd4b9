import Manifest.Proofs.Node.Overlay

/-!
# Leaves at a list of names

Every part of the metadata is the text of the leaf at a list of names, or the
empty text where there is none.
-/

namespace Manifest

namespace Node

/-- The leaf at a list of names. -/
def leafAt? : List String → Node → Option Scalar
  | [], node => node.scalar?
  | name :: rest, node => (node.child? name).bind (leafAt? rest)

/-- The text of the leaf at a list of names; empty if there is none. -/
def textAt (names : List String) (node : Node) : String :=
  ((node.leafAt? names).map Scalar.text).getD ""

/-- The names at which the metadata has an annotation. -/
def annotationNames (key : String) : List String :=
  ["metadata", "annotations", key]

/-- Below some names the leaves are those of the fields there. -/
theorem leafAt?_append
    (parents : List String)
    (name : String)
    (rest : List String) :
    ∀ {node : Node} {fields : List (String × Node)},
      node.fieldsAt? parents = some fields →
      node.leafAt? (parents ++ name :: rest) =
        (Fields.get? name fields).bind (leafAt? rest) := by
  induction parents with
  | nil =>
      intro node fields opens
      rw [List.nil_append, leafAt?, child?_of_open opens]
  | cons parent parents inductionHypothesis =>
      intro node fields opens
      rcases Option.bind_eq_some_iff.1 opens with ⟨top, opensTop, _⟩
      rw [List.cons_append, leafAt?, child?_of_open opensTop]
      rw [fieldsAt?_cons opensTop] at opens
      cases found : Fields.get? parent top with
      | none =>
          rw [found, Option.getD_none, fieldsAt?_null] at opens
          cases opens
          rfl
      | some child =>
          rw [found, Option.getD_some] at opens
          exact inductionHypothesis opens

theorem leafAt?_section
    {node : Node}
    {inner : List (String × Node)}
    (inside : node.fieldsAt? ["metadata"] = some inner)
    (name : String)
    (rest : List String) :
    node.leafAt? ("metadata" :: name :: rest) = (Fields.get? name inner).bind (leafAt? rest) :=
  leafAt?_append ["metadata"] name rest inside

theorem scalar?_eq_some
    {node : Node}
    {leaf : Scalar} :
    node.scalar? = some leaf ↔ node.content = .scalar leaf := by
  rw [scalar?]
  cases node.content <;> simp

end Node

namespace Metadata

open Node

theorem scalarText_eq_leaf
    {name text : String}
    {node : Option Node}
    (reads : scalarText name node = .ok text) :
    text = ((node.bind (leafAt? [])).map Scalar.text).getD "" := by
  cases node with
  | none => exact (Except.ok.inj reads).symm
  | some child =>
      rcases scalarText_eq_ok reads with ⟨leaf, isScalar, sameText⟩
      rw [Option.bind_some, leafAt?, scalar?_eq_some.2 isScalar]
      exact sameText.symm

theorem get?_textEntries
    (field key : String)
    {fields : List (String × Node)} :
    ∀ {entries : List (String × String)},
      textEntries field fields = .ok entries →
      Fields.names entries = Fields.names fields ∧
        Fields.get? key entries =
          ((Fields.get? key fields).bind (leafAt? [])).map Scalar.text := by
  induction fields with
  | nil =>
      intro entries reads
      cases reads
      exact ⟨rfl, rfl⟩
  | cons head rest inductionHypothesis =>
      intro entries reads
      rcases head with ⟨name, node⟩
      rw [textEntries] at reads
      split at reads
      · rename_i leaf isScalar
        rcases Result.map_eq_ok.1 reads with ⟨others, readsRest, rfl⟩
        rcases inductionHypothesis readsRest with ⟨sameNames, sameTexts⟩
        constructor
        · exact congrArg (List.cons name) sameNames
        · by_cases same : name = key
          · rw [same, Fields.get?_cons_same, Fields.get?_cons_same, Option.bind_some, leafAt?,
              scalar?_eq_some.2 isScalar]
            rfl
          · rw [Fields.get?_cons_other same, Fields.get?_cons_other same, sameTexts]
      · cases reads

/-- An entry of a map of texts is the text of the leaf at its key. -/
theorem get?_stringMap
    {field key : String}
    {node : Option Node}
    {map : StringMap}
    (wellFormed : ∀ child, node = some child → child.WellFormed)
    (reads : stringMap node field = .ok map) :
    map.get? key = (node.bind (leafAt? [key])).map Scalar.text := by
  cases node with
  | none =>
      cases reads
      rfl
  | some child =>
      rw [stringMap, Option.map_some] at reads
      rw [Option.bind_some, leafAt?]
      rcases content_cases child with ⟨fields, isMapping⟩ | ⟨items, isSequence⟩ |
        ⟨leaf, isScalar⟩
      · rw [isMapping] at reads
        rcases Result.map_eq_ok.1 reads with ⟨entries, readsEntries, rfl⟩
        rcases get?_textEntries field key readsEntries with ⟨sameNames, sameTexts⟩
        have distinct : Fields.Distinct entries := by
          rw [Fields.Distinct, sameNames]
          exact ((wellFormed child rfl).fieldsAt? [] (openFields?_of_content isMapping)).distinct
        rw [StringMap.get?_ofPairs distinct, sameTexts,
          child?_of_open (openFields?_of_content isMapping)]
      · rw [isSequence] at reads
        cases reads
      · rw [isScalar] at reads
        dsimp only at reads
        split at reads
        · cases reads
          rw [child?, mapping?, isScalar]
          rfl
        · cases reads

end Metadata

namespace Node

/-! ## Metadata as texts of leaves -/

variable
  {node : Node}
  {metadata : Metadata}

theorem apiVersion_eq_textAt
    (reads : node.metadata = .ok metadata) :
    metadata.apiVersion = node.textAt ["apiVersion"] := by
  rcases metadata_eq_ok.1 reads with ⟨inner, reads⟩
  exact Metadata.scalarText_eq_leaf reads.apiVersion

theorem kind_eq_textAt
    (reads : node.metadata = .ok metadata) :
    metadata.kind = node.textAt ["kind"] := by
  rcases metadata_eq_ok.1 reads with ⟨inner, reads⟩
  exact Metadata.scalarText_eq_leaf reads.kind

theorem name_eq_textAt
    (reads : node.metadata = .ok metadata) :
    metadata.name = node.textAt ["metadata", "name"] := by
  rcases metadata_eq_ok.1 reads with ⟨inner, reads⟩
  rw [textAt, leafAt?_section reads.inside]
  exact Metadata.scalarText_eq_leaf reads.parts.name

theorem namespaceName_eq_textAt
    (reads : node.metadata = .ok metadata) :
    metadata.namespaceName = node.textAt ["metadata", "namespace"] := by
  rcases metadata_eq_ok.1 reads with ⟨inner, reads⟩
  rw [textAt, leafAt?_section reads.inside]
  exact Metadata.scalarText_eq_leaf reads.parts.namespaceName

theorem get?_annotations
    (wellFormed : node.WellFormed)
    (reads : node.metadata = .ok metadata)
    (key : String) :
    metadata.annotations.get? key = (node.leafAt? (annotationNames key)).map Scalar.text := by
  rcases metadata_eq_ok.1 reads with ⟨inner, reads⟩
  rw [annotationNames, leafAt?_section reads.inside]
  apply Metadata.get?_stringMap _ reads.parts.annotations
  intro child found
  exact (wellFormed.fieldsAt? ["metadata"] reads.inside).get? found

end Node

end Manifest
