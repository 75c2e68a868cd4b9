import Manifest.Collection.Query
import Manifest.Proofs.Node.Walk
import Manifest.Proofs.Result

/-!
# What a resource can refer to

Which resources can be referred to is decided resource by resource: by where the referrer
and the candidate live, and by the namespaces that a role binding names in its subjects.
The decision fails as a whole where these cannot be read, and in no other case.

The decision does not look at the collection.  So the subset is the collection without
the resources that are out of reach, and nothing is left out of it when it is taken again.
-/

namespace Manifest

namespace Collection

/-! ## Subjects -/

/-- The name of the field that lists the subjects of a role binding. -/
def subjectsField : String := "subjects"

/-- The list of subjects of a document has a mapping with a namespace. -/
def NamesNamespace (node : Node) (namespaceName : String) : Prop :=
  namespaceName ≠ "" ∧
    ∃ items, node.field? subjectsField = some (.sequence items) ∧
      ∃ subject ∈ items, ∃ fields, subject.toValue = .map fields ∧
        Fields.get? "namespace" fields = some (.text namespaceName)

/-- The subjects of a document are no list, or the document cannot have any. -/
inductive HidesSubjects (node : Node) : Prop where
  | field
      {content : Node}
      (present : node.field? subjectsField = some content)
      (noList : ∀ items, content ≠ .sequence items)
  | sequence
      {items : List Node}
      (isSequence : node.content = .sequence items)
  | scalar
      {leaf : Scalar}
      (isScalar : node.content = .scalar leaf)
      (notNull : leaf.isNull = false)

theorem parse_subjectsField :
    Path.parse subjectsField = [.field subjectsField] := by
  decide

theorem position?_subjectsField :
    Text.position? subjectsField = none := by
  decide

theorem lookup_subjects_of_offers
    {node child : Node}
    (offers : Node.Offers (.field subjectsField) node.content child) :
    node.lookup (Path.parse subjectsField) = .ok (some child.content) := by
  rw [parse_subjectsField, Node.lookup, Node.walk_of_offers offers, Node.walk]

theorem lookup_subjects_of_misses
    {node : Node}
    (misses : Node.Misses (.field subjectsField) node.content) :
    node.lookup (Path.parse subjectsField) = .ok none := by
  rw [parse_subjectsField, Node.lookup, Node.walk_of_misses misses]

/-- What the decoded field of the subjects says. -/
theorem subjectNamespaces_of_found
    {node found : Node}
    (finds : node.lookup (Path.parse subjectsField) = .ok (some found)) :
    (∃ items, found = .sequence items ∧
        subjectNamespaces node = .ok ((items.map Node.toValue).filterMap subjectNamespace?)) ∨
      (∀ items, found ≠ .sequence items) ∧
        ∃ error, subjectNamespaces node = .error error := by
  have isContent := Node.content_of_lookup finds
  have reads : node.getFieldValue subjectsField = .ok (Node.fieldValue found) := by
    rw [Node.getFieldValue, finds]
  rcases Node.content_cases found with ⟨fields, isMapping⟩ | ⟨items, isSequence⟩ | ⟨leaf, isScalar⟩
  · rw [isContent] at isMapping
    subst isMapping
    refine Or.inr ⟨by simp, ?_⟩
    rw [subjectNamespaces, ← subjectsField, Node.getList, reads]
    exact ⟨_, rfl⟩
  · rw [isContent] at isSequence
    subst isSequence
    refine Or.inl ⟨items, rfl, ?_⟩
    rw [subjectNamespaces, ← subjectsField, Node.getList, reads, Node.fieldValue, Node.toValue,
      Node.itemValues_eq_map]
    intro leaf isScalar
    cases isScalar
  · rw [isContent] at isScalar
    subst isScalar
    refine Or.inr ⟨by simp, ?_⟩
    rw [subjectNamespaces, ← subjectsField, Node.getList, reads]
    exact ⟨_, rfl⟩

theorem subjectNamespaces_of_absent
    {node : Node}
    (absent : node.lookup (Path.parse subjectsField) = .ok none) :
    subjectNamespaces node = .ok [] := by
  rw [subjectNamespaces, ← subjectsField, Node.getList, Node.getFieldValue, absent]
  rfl

theorem subjectNamespaces_of_rejects
    {node : Node}
    (rejects : Node.Rejects (.field subjectsField) node.content) :
    ∃ error, subjectNamespaces node = .error error := by
  rw [subjectNamespaces, ← subjectsField, Node.getList, Node.getFieldValue, parse_subjectsField,
    Node.lookup, Node.walk_of_rejects rejects]
  exact ⟨_, rfl⟩

/-- A list of subjects is read, no field for them says nothing, and all else is refused. -/
inductive ReadsSubjects (node : Node) : Except DocumentError (List String) → Prop where
  | list
      {items : List Node}
      (isList : node.field? subjectsField = some (.sequence items))
      (notHidden : ¬ HidesSubjects node) :
      ReadsSubjects node (.ok ((items.map Node.toValue).filterMap subjectNamespace?))
  | absent
      (noField : node.field? subjectsField = none)
      (notHidden : ¬ HidesSubjects node) :
      ReadsSubjects node (.ok [])
  | refused
      {error : DocumentError}
      (hides : HidesSubjects node) :
      ReadsSubjects node (.error error)

/-- Only what stands in the field can hide the subjects of a mapping. -/
theorem hidesSubjects_of_mapping
    {node : Node}
    {fields : List (String × Node)}
    (isMapping : node.content = .mapping fields) :
    HidesSubjects node ↔
      ∃ content, node.field? subjectsField = some content ∧ ∀ items, content ≠ .sequence items := by
  constructor
  · rintro (⟨present, noList⟩ | isSequence | ⟨isScalar, -⟩)
    · exact ⟨_, present, noList⟩
    · rw [isMapping] at isSequence
      cases isSequence
    · rw [isMapping] at isScalar
      cases isScalar
  · rintro ⟨content, present, noList⟩
    exact .field present noList

theorem readsSubjects_of_mapping
    {node : Node}
    {fields : List (String × Node)}
    (isMapping : node.content = .mapping fields) :
    ReadsSubjects node (subjectNamespaces node) := by
  have field? :
      node.field? subjectsField = (Fields.get? subjectsField fields).map Node.content := by
    rw [Node.field?, Node.mapping?_eq_some.2 isMapping, Option.bind_some]
  have hides := hidesSubjects_of_mapping isMapping
  cases present : Fields.get? subjectsField fields with
  | none =>
      have misses : Node.Misses (.field subjectsField) node.content := isMapping ▸ .field present
      rw [present, Option.map_none] at field?
      rw [subjectNamespaces_of_absent (lookup_subjects_of_misses misses)]
      exact .absent field? (by simp [hides, field?])
  | some child =>
      have offers : Node.Offers (.field subjectsField) node.content child :=
        isMapping ▸ .field present
      rw [present, Option.map_some] at field?
      rcases subjectNamespaces_of_found (lookup_subjects_of_offers offers) with
        ⟨items, isSequence, reads⟩ | ⟨noList, error, reads⟩
      · rw [isSequence] at field?
        rw [reads]
        exact .list field? (by simp [hides, field?])
      · rw [reads]
        exact .refused (.field field? noList)

/-- The subjects of any document are read so. -/
theorem readsSubjects (node : Node) :
    ReadsSubjects node (subjectNamespaces node) := by
  rcases Node.content_cases node with ⟨fields, isMapping⟩ | ⟨items, isSequence⟩ | ⟨leaf, isScalar⟩
  · exact readsSubjects_of_mapping isMapping
  · have rejects : Node.Rejects (.field subjectsField) node.content :=
      isSequence ▸ .sequence position?_subjectsField
    rcases subjectNamespaces_of_rejects rejects with ⟨error, reads⟩
    rw [reads]
    exact .refused (.sequence isSequence)
  · have noField : node.field? subjectsField = none := by
      rw [Node.field?, Node.mapping?, isScalar]
      rfl
    cases isNull : leaf.isNull with
    | true =>
        have misses : Node.Misses (.field subjectsField) node.content := isScalar ▸ .null isNull
        rw [subjectNamespaces_of_absent (lookup_subjects_of_misses misses)]
        refine .absent noField ?_
        rintro (⟨present, -⟩ | isSequence | ⟨isOther, notNull⟩)
        · rw [noField] at present
          cases present
        · rw [isScalar] at isSequence
          cases isSequence
        · rw [isScalar] at isOther
          cases isOther
          rw [isNull] at notNull
          cases notNull
    | false =>
        have rejects : Node.Rejects (.field subjectsField) node.content :=
          isScalar ▸ .scalar isNull
        rcases subjectNamespaces_of_rejects rejects with ⟨error, reads⟩
        rw [reads]
        exact .refused (.scalar isScalar isNull)

theorem subjectNamespace?_eq_some
    {subject : Value}
    {namespaceName : String} :
    subjectNamespace? subject = some namespaceName ↔
      namespaceName ≠ "" ∧
        ∃ fields, subject = .map fields ∧
          Fields.get? "namespace" fields = some (.text namespaceName) := by
  have map?_eq_some : ∀ {fields}, subject.map? = some fields ↔ subject = .map fields := by
    intro fields
    cases subject <;> simp [Value.map?]
  have text?_eq_some : ∀ {value : Value} {text}, value.text? = some text ↔ value = .text text := by
    intro value text
    cases value <;> simp [Value.text?]
  rw [subjectNamespace?, Option.filter_eq_some_iff, Option.bind_eq_some_iff]
  simp only [Option.bind_eq_some_iff, map?_eq_some, text?_eq_some, decide_eq_true_iff]
  constructor
  · rintro ⟨⟨_, ⟨fields, isMap, found⟩, rfl⟩, notEmpty⟩
    exact ⟨notEmpty, fields, isMap, found⟩
  · rintro ⟨notEmpty, fields, isMap, found⟩
    exact ⟨⟨_, ⟨fields, isMap, found⟩, rfl⟩, notEmpty⟩

/-- The namespaces that are read are those that the subjects name. -/
theorem mem_subjectNamespaces
    {node : Node}
    {namespaces : List String}
    (reads : subjectNamespaces node = .ok namespaces)
    (namespaceName : String) :
    namespaceName ∈ namespaces ↔ NamesNamespace node namespaceName := by
  have read := readsSubjects node
  rw [reads] at read
  cases read with
  | @list items isList =>
      rw [NamesNamespace, isList, List.mem_filterMap]
      simp only [subjectNamespace?_eq_some, List.mem_map]
      constructor
      · rintro ⟨_, ⟨subject, member, rfl⟩, notEmpty, names⟩
        exact ⟨notEmpty, items, rfl, subject, member, names⟩
      · rintro ⟨notEmpty, _, same, subject, member, names⟩
        cases same
        exact ⟨_, ⟨subject, member, rfl⟩, notEmpty, names⟩
  | absent noField =>
      rw [NamesNamespace, noField]
      simp

/-- Subjects are refused exactly where a document hides them. -/
theorem subjectNamespaces_isError_iff (node : Node) :
    (∃ error, subjectNamespaces node = .error error) ↔ HidesSubjects node := by
  have read := readsSubjects node
  generalize subjectNamespaces node = result at read
  cases read with
  | list _ notHidden => simp [notHidden]
  | absent _ notHidden => simp [notHidden]
  | refused hides => simp [hides]

/-! ## References -/

/-- A resource can refer to one with an id. -/
def MayReferTo (referrer : Resource) (id : ResourceId) : Prop :=
  referrer.currentId.isClusterScoped = true ∨ id.isClusterScoped = true ∨
    id.effectiveNamespace = referrer.currentId.effectiveNamespace ∨
      (referrer.currentId.gvk.kind = roleBindingKind ∧
        NamesNamespace referrer.node id.effectiveNamespace)

theorem isClusterScoped_of_roleBinding
    {id : ResourceId}
    (isBinding : id.gvk.kind = roleBindingKind) :
    id.isClusterScoped = false := by
  rw [ResourceId.isClusterScoped, Gvk.isClusterScoped, isBinding]
  decide

theorem mem_furtherNamespaces
    {referrer : Resource}
    {namespaces : List String}
    (reads : furtherNamespaces referrer = .ok namespaces)
    (namespaceName : String) :
    namespaceName ∈ namespaces ↔
      referrer.currentId.gvk.kind = roleBindingKind ∧
        NamesNamespace referrer.node namespaceName := by
  rw [furtherNamespaces] at reads
  split at reads
  · rename_i isBinding
    rw [mem_subjectNamespaces reads]
    exact (and_iff_right isBinding).symm
  · rename_i noBinding
    cases reads
    simp [noBinding]

/-- The condition that is decided is whether the referrer can refer to an id. -/
theorem reference_eq_ok
    {referrer : Resource}
    {holds : ResourceId → Bool}
    (decides : reference referrer = .ok holds)
    (id : ResourceId) :
    holds id = true ↔ MayReferTo referrer id := by
  rw [reference] at decides
  split at decides
  · rename_i everywhere
    cases decides
    exact iff_of_true rfl (Or.inl everywhere)
  · rw [Result.map_eq_ok] at decides
    rcases decides with ⟨namespaces, reads, rfl⟩
    have further := mem_furtherNamespaces (Result.mapError_eq_ok.1 reads) id.effectiveNamespace
    rw [canReferTo, MayReferTo, ← further]
    simp [ResourceId.sharesNamespace, or_assoc]

theorem reference_isError_iff (referrer : Resource) :
    (∃ error, reference referrer = .error error) ↔
      referrer.currentId.gvk.kind = roleBindingKind ∧ HidesSubjects referrer.node := by
  rw [reference, furtherNamespaces, ← subjectNamespaces_isError_iff]
  by_cases isBinding : referrer.currentId.gvk.kind = roleBindingKind
  · rw [isClusterScoped_of_roleBinding isBinding, if_neg Bool.false_ne_true, if_pos isBinding]
    cases reads : subjectNamespaces referrer.node with
    | ok namespaces => simp [Except.mapError, Except.map]
    | error error => simp [Except.mapError, Except.map, isBinding]
  · rw [if_neg isBinding]
    cases referrer.currentId.isClusterScoped <;> simp [Except.mapError, Except.map, isBinding]

/-! ## Subsets -/

/-- What is left of a collection for a referrer, and when there is no answer. -/
structure SelectsReferences (collection : Collection) (referrer : Resource) : Prop where
  fails_iff :
    (∃ error, collection.referencedBy referrer = .error error) ↔
      referrer.currentId.gvk.kind = roleBindingKind ∧ HidesSubjects referrer.node
  /-- The subset has the resources within reach, in order, and each as often as it was there. -/
  resources_eq : ∀ subset, collection.referencedBy referrer = .ok subset →
    ∃ isReached : Resource → Bool,
      (∀ resource, isReached resource = true ↔ MayReferTo referrer resource.currentId) ∧
        subset.resources = collection.resources.filter isReached
  again : ∀ subset, collection.referencedBy referrer = .ok subset →
    subset.referencedBy referrer = .ok subset

theorem referencedBy_eq_ok
    {collection subset : Collection}
    {referrer : Resource} :
    collection.referencedBy referrer = .ok subset ↔
      ∃ holds, reference referrer = .ok holds ∧
        { resources := collection.matchingCurrent holds } = subset := by
  rw [referencedBy, Result.map_eq_ok]

/--
The subset for a referrer has exactly the resources that it can refer to, fails only for a role
binding whose subjects cannot be read, and is its own subset.
-/
theorem selectsReferences (collection : Collection) (referrer : Resource) :
    SelectsReferences collection referrer where
  fails_iff := by
    rw [← reference_isError_iff]
    simp only [referencedBy, Result.map_eq_error]
  resources_eq := by
    intro subset succeeds
    rcases referencedBy_eq_ok.1 succeeds with ⟨holds, decides, rfl⟩
    refine ⟨fun resource => holds resource.currentId, ?_, rfl⟩
    exact fun resource => reference_eq_ok decides resource.currentId
  again := by
    intro subset succeeds
    rcases referencedBy_eq_ok.1 succeeds with ⟨holds, decides, rfl⟩
    refine referencedBy_eq_ok.2 ⟨holds, decides, ?_⟩
    rw [matchingCurrent, matchingCurrent, List.filter_filter]
    simp only [Bool.and_self]

end Collection

end Manifest
