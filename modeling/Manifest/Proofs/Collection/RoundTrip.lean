import Manifest.Node.Equality
import Manifest.Proofs.Collection.Reload
import Manifest.Proofs.Resource.Printed

/-!
# Reading the text of a collection

The text of a collection that was read from a text shows the values of scalars
in one form.  Read again, it gives a collection with the same ids and the same
contents exactly if all documents are settled.

The ids are read from the spelling of scalars and not from their values.  So two
resources whose names are different spellings of one number are written alike,
and the text of their collection cannot be read at all.
-/

namespace Manifest

/-! ## Documents of streams -/

namespace Node

theorem hereditary_loaded : Hereditary Loaded where
  document := by
    rintro inner ⟨⟩
  reference := by
    rintro anchor target ⟨⟩
  mapping := by
    rintro fields (⟨distinct, contents⟩)
    exact contents
  sequence := by
    rintro items (_ | ⟨isItems⟩)
    exact isItems

/-- Documents that say nothing stand for no documents. -/
theorem expandAll_filter (nodes : List Node) :
    expandAll (nodes.filter fun node => !node.isNull) = expandAll nodes := by
  induction nodes with
  | nil => rfl
  | cons node rest inductionHypothesis =>
      cases nodeIsNull : node.isNull with
      | true =>
          rw [List.filter_cons_of_neg (by simp [nodeIsNull]), inductionHypothesis, expandAll,
            expansion, if_pos nodeIsNull]
          cases expandAll rest <;> rfl
      | false =>
          rw [List.filter_cons_of_pos (by simp [nodeIsNull]), expandAll, expandAll,
            inductionHypothesis]

end Node

namespace Resource

/-! ## Resources in pairs -/

/-- Where agreement is decided pair by pair, it is for two lists. -/
theorem forall₂_iff_forall
    {α β : Type}
    {relates : α → β → Prop}
    {holds : α → Prop}
    {items : List α}
    {results : List β}
    (decided : List.Forall₂ (fun item result => relates item result ↔ holds item) items results) :
    List.Forall₂ relates items results ↔ ∀ item ∈ items, holds item := by
  induction decided with
  | nil => simp
  | cons decidedFirst _ inductionHypothesis =>
      rw [List.forall₂_cons, List.forall_mem_cons, decidedFirst, inductionHypothesis]

/-- Lists of resources that agree have the same ids, and are found equal in order. -/
theorem forall₂_agrees
    {left right : List Resource}
    {position : Nat} :
    List.Forall₂ Agrees left right ↔
      right.map currentId = left.map currentId ∧
      right.map initialId = left.map initialId ∧
      Collection.requireEqualPairs position left right = .ok () := by
  induction left generalizing right position with
  | nil =>
      cases right with
      | nil => simp [Collection.requireEqualPairs]
      | cons resource rest => simp
  | cons first leftRest inductionHypothesis =>
      cases right with
      | nil => simp
      | cons second rightRest =>
          rw [List.forall₂_cons, @inductionHypothesis rightRest (position + 1), List.map_cons,
            List.map_cons, List.map_cons, List.map_cons, List.cons.injEq, List.cons.injEq,
            Collection.requireEqualPairs, Result.bind_eq_ok]
          constructor
          · rintro ⟨⟨sameCurrentId, sameInitialId, comparison, compares, isSame⟩, currentIds,
              initialIds, pairs⟩
            refine ⟨⟨sameCurrentId, currentIds⟩, ⟨sameInitialId, initialIds⟩, comparison, compares,
              ?_⟩
            rw [if_pos isSame]
            exact pairs
          · rintro ⟨⟨sameCurrentId, currentIds⟩, ⟨sameInitialId, initialIds⟩, comparison, compares,
              pairs⟩
            split at pairs
            · rename_i isSame
              exact ⟨⟨sameCurrentId, sameInitialId, comparison, compares, isSame⟩, currentIds,
                initialIds, pairs⟩
            · cases pairs

end Resource

namespace Collection

/-! ## Collections that are read -/

variable
  {bytes : ByteArray}
  {collection : Collection}

/-- The resources of a text are those of its documents. -/
theorem ofYaml_eq_ok :
    ofYaml bytes = .ok collection ↔
      ∃ documents resources,
        Node.ofYamlStream bytes = .ok documents ∧
        Resource.ofNodes documents = .ok resources ∧
        ofResources resources = .ok collection := by
  rw [ofYaml, Result.bind_eq_ok]
  constructor
  · rintro ⟨resources, reads, appends⟩
    rw [Result.mapError_eq_ok, Resource.ofYamlStream, Result.bind_eq_ok] at reads
    rcases reads with ⟨documents, readsStream, builds⟩
    exact ⟨documents, resources, readsStream, builds, appends⟩
  · rintro ⟨documents, resources, readsStream, builds, appends⟩
    refine ⟨resources, ?_, appends⟩
    rw [Result.mapError_eq_ok, Resource.ofYamlStream, Result.bind_eq_ok]
    exact ⟨documents, readsStream, builds⟩

/-- The resources that are read from a text have loaded documents that say all about them. -/
theorem loaded_of_ofYaml
    (reads : ofYaml bytes = .ok collection) :
    ∀ resource ∈ collection.resources,
      resource.node.Loaded ∧ resource.node.Standalone ∧
        Resource.ofNode resource.node = .ok resource := by
  rcases ofYaml_eq_ok.1 reads with ⟨documents, resources, readsStream, builds, appends⟩
  rw [resources_of_ofResources appends]
  intro resource member
  rw [Resource.ofNodes, Result.bind_eq_ok] at builds
  rcases builds with ⟨expanded, expands, builds⟩
  rcases Result.exists_of_mem_mapM builds resource member with ⟨node, isExpanded, buildsOne⟩
  rcases
      Node.standalone_of_expandAll Node.hereditary_loaded
        (Node.loaded_of_ofYamlStream readsStream) expands node isExpanded with
    ⟨loaded, standalone⟩
  rcases Resource.ofNode_eq_ok.1 buildsOne with ⟨_, _, _, sameNode, _⟩
  rw [sameNode]
  exact ⟨loaded, standalone, buildsOne⟩

/-! ## Texts of collections -/

/-- Whether a number of a document is NaN. -/
def hasNaN (collection : Collection) : Bool :=
  collection.nodes.any Node.hasNaN

/--
Reading the text of the collection gives what was printed.  The text of the empty
collection is a document that says nothing.
-/
def ReadsBack (collection : Collection) : Prop :=
  ∃ documents,
    Node.ofYamlStream collection.toYaml.toUTF8 = .ok documents ∧
    (documents.filter fun document => !document.isNull) = collection.nodes.map Node.printed

/-- The text of the collection is read as a collection with the same ids and contents. -/
def RoundTrips (collection : Collection) : Prop :=
  ∃ other,
    ofYaml collection.toYaml.toUTF8 = .ok other ∧
    other.size = collection.size ∧
    other.ids = collection.ids ∧
    other.resources.map Resource.initialId = collection.resources.map Resource.initialId ∧
    collection.requireEqualLists other = .ok ()

/-- The documents of the text have resources, which agree where the documents are settled. -/
theorem reprinted_of_readsBack
    (reads : ofYaml bytes = .ok collection)
    (notNaN : collection.hasNaN = false)
    (readsBack : collection.ReadsBack) :
    ∃ documents resources,
      Node.ofYamlStream collection.toYaml.toUTF8 = .ok documents ∧
      Resource.ofNodes documents = .ok resources ∧
      List.Forall₂ (fun resource reprinted => resource.Agrees reprinted ↔ resource.node.IsSettled)
        collection.resources resources := by
  rcases readsBack with ⟨documents, readsStream, printed⟩
  have reprints :
      ∀ resource ∈ collection.resources, ∃ reprinted,
        Resource.ofNode resource.node.printed = .ok reprinted ∧
        resource.node.printed.Standalone ∧
        (resource.Agrees reprinted ↔ resource.node.IsSettled) := by
    intro resource member
    rcases loaded_of_ofYaml reads resource member with ⟨loaded, standalone, builds⟩
    have nodeNotNaN : resource.node.hasNaN = false := by
      rw [hasNaN, List.any_eq_false] at notNaN
      exact Bool.not_eq_true _ ▸ notNaN resource.node (List.mem_map_of_mem member)
    exact Resource.ofNode_printed loaded nodeNotNaN standalone builds
  have standalone : ∀ node ∈ collection.nodes.map Node.printed, node.Standalone := by
    intro node member
    rw [nodes, List.map_map] at member
    rcases List.mem_map.1 member with ⟨resource, isMember, rfl⟩
    rcases reprints resource isMember with ⟨_, _, isStandalone, _⟩
    exact isStandalone
  have rebuilds :
      ∀ resource ∈ collection.resources, ∃ reprinted,
        Resource.ofNode (Node.printed resource.node) = .ok reprinted ∧
        (resource.Agrees reprinted ↔ resource.node.IsSettled) := by
    intro resource member
    rcases reprints resource member with ⟨reprinted, builds, _, decided⟩
    exact ⟨reprinted, builds, decided⟩
  rcases Result.mapM_of_forall rebuilds with ⟨resources, buildsAll, decided⟩
  refine ⟨documents, resources, readsStream, ?_, decided⟩
  rw [Resource.ofNodes, ← Node.expandAll_filter, printed, Node.expandAll_of_standalone standalone,
    Result.bind_eq_ok]
  refine ⟨_, rfl, ?_⟩
  rw [nodes, List.map_map]
  exact buildsAll

/--
Of a collection that was read from a text and has no NaN, the text gives the
collection again exactly if its documents are settled.
-/
theorem roundTrips_iff_isSettled
    (reads : ofYaml bytes = .ok collection)
    (notNaN : collection.hasNaN = false)
    (readsBack : collection.ReadsBack) :
    collection.RoundTrips ↔ ∀ resource ∈ collection.resources, resource.node.IsSettled := by
  rcases reprinted_of_readsBack reads notNaN readsBack with
    ⟨documents, resources, readsStream, builds, decided⟩
  rw [← Resource.forall₂_iff_forall decided]
  constructor
  · rintro ⟨other, readsOther, _, sameIds, sameInitialIds, equalLists⟩
    rcases ofYaml_eq_ok.1 readsOther with
      ⟨otherDocuments, otherResources, readsOtherStream, buildsOther, appends⟩
    rw [readsStream] at readsOtherStream
    cases readsOtherStream
    rw [builds] at buildsOther
    cases buildsOther
    have sameResources := resources_of_ofResources appends
    rw [requireEqualLists, Result.bind_eq_ok] at equalLists
    rcases equalLists with ⟨_, _, equalPairs⟩
    rw [← sameResources, Resource.forall₂_agrees]
    exact ⟨sameIds, sameInitialIds, equalPairs⟩
  · intro allAgree
    rcases Resource.forall₂_agrees.1 allAgree with ⟨sameIds, sameInitialIds, equalPairs⟩
    have sameSize : resources.length = collection.resources.length := allAgree.length_eq.symm
    have distinct : IsDistinct { resources } := by
      rcases ofYaml_eq_ok.1 reads with ⟨_, _, _, _, appends⟩
      rw [IsDistinct, ids, sameIds]
      exact isDistinct_ofResources appends
    refine ⟨{ resources }, ?_, sameSize, sameIds, sameInitialIds, ?_⟩
    · exact ofYaml_eq_ok.2
        ⟨documents, resources, readsStream, builds, ofResources_of_distinct distinct⟩
    · rw [requireEqualLists, requireSameSize, size, size, if_pos sameSize.symm]
      exact equalPairs

/-- A collection is read from a text if its documents are. -/
theorem ofYaml_of_nodes
    {documents : List Node}
    (readsStream : Node.ofYamlStream bytes = .ok documents)
    (builds : ofNodes documents = .ok collection) :
    ofYaml bytes = .ok collection := by
  rw [ofNodes, Result.bind_eq_ok] at builds
  rcases builds with ⟨resources, buildsAll, appends⟩
  exact ofYaml_eq_ok.2
    ⟨documents, resources, readsStream, Result.mapError_eq_ok.1 buildsAll, appends⟩

theorem readsBack_of_printed
    (readsStream :
      Node.ofYamlStream collection.toYaml.toUTF8 = .ok (collection.nodes.map Node.printed))
    (notNull : ∀ node ∈ collection.nodes, node.isNull = false) :
    collection.ReadsBack := by
  refine ⟨_, readsStream, List.filter_eq_self.2 ?_⟩
  intro document member
  rcases List.mem_map.1 member with ⟨node, isNode, rfl⟩
  simp [notNull node isNode]

/-- A resource with a name and a size. -/
def disk (name size : Scalar) : Resource where
  node :=
    .mapping
      [("kind", .ofText "Disk"), ("metadata", .mapping [("name", .scalar name)]),
        ("size", .scalar size)]
  initialId := { gvk := .ofKind "Disk", name := name.text }
  currentId := { gvk := .ofKind "Disk", name := name.text }

/-- A resource with a size that is not settled. -/
def hexadecimalSize : Collection where
  resources := [disk (.ofText "a") ⟨.int 16, some "0x10"⟩]

/-- A size can be spelled in any way, since no id is read from it. -/
theorem roundTrips_hexadecimalSize :
    ofYaml "kind: Disk\nmetadata:\n  name: a\nsize: 0x10\n".toUTF8 = .ok hexadecimalSize ∧
      hexadecimalSize.hasNaN = false ∧ hexadecimalSize.ReadsBack ∧ hexadecimalSize.RoundTrips := by
  have reads :
      ofYaml "kind: Disk\nmetadata:\n  name: a\nsize: 0x10\n".toUTF8 = .ok hexadecimalSize :=
    ofYaml_of_nodes
      (show Node.ofYamlStream _ = .ok hexadecimalSize.nodes by decide +kernel)
      rfl
  have readsBack : hexadecimalSize.ReadsBack :=
    readsBack_of_printed (by decide +kernel) (by decide)
  have notNaN : hexadecimalSize.hasNaN = false := by decide
  refine ⟨reads, notNaN, readsBack, (roundTrips_iff_isSettled reads notNaN readsBack).2 ?_⟩
  intro resource member
  rw [List.mem_singleton.1 member]
  exact
    { apiVersion := by decide
      kind := by decide
      name := by decide
      namespaceName := by decide
      previousIds := fun noted => nomatch noted BuildNote.previousNames (by decide)
      annotations := fun ⟨_, _, noted⟩ => nomatch noted }

/-- Two resources whose names are spellings of one number. -/
def sameNumberTwice : Collection where
  resources :=
    [disk ⟨.int 16, some "0x10"⟩ ⟨.int 1, some "1"⟩,
      disk ⟨.int 16, some "16"⟩ ⟨.int 1, some "1"⟩]

/-- The text of two names that are spellings of one number has one name twice. -/
theorem not_roundTrips_sameNumberTwice :
    ofYaml
        ("kind: Disk\nmetadata:\n  name: 0x10\nsize: 1\n" ++
          "---\nkind: Disk\nmetadata:\n  name: 16\nsize: 1\n").toUTF8 =
        .ok sameNumberTwice ∧
      sameNumberTwice.hasNaN = false ∧ sameNumberTwice.ReadsBack ∧
      ¬sameNumberTwice.RoundTrips := by
  have readsStream :
      Node.ofYamlStream sameNumberTwice.toYaml.toUTF8 =
        .ok (sameNumberTwice.nodes.map Node.printed) := by
    decide +kernel
  refine ⟨?_, by decide, readsBack_of_printed readsStream (by decide), ?_⟩
  · exact ofYaml_of_nodes
      (show Node.ofYamlStream _ = .ok sameNumberTwice.nodes by decide +kernel)
      rfl
  · rintro ⟨other, reads, _⟩
    rcases ofYaml_eq_ok.1 reads with ⟨documents, resources, readsOther, builds, appends⟩
    rw [readsStream] at readsOther
    cases readsOther
    cases builds
    cases appends

end Collection

end Manifest
