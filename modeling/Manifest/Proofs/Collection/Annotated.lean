import Manifest.Proofs.Collection.Equality
import Manifest.Proofs.Resource.Annotated

/-!
# Collections with added build annotations

Build annotations are added to some resources of a collection.  Whether the two
collections are equal as lists is the same in both directions, and it is decided
resource by resource: a resource with a build annotation takes more of them, and any
other resource takes them exactly if its annotations are absent or texts.

So build annotations do not always go unnoticed: a number among the annotations is
written as a text beside them, and is compared with the number that it was.
-/

namespace Manifest

namespace Resource

/-- Build annotations are added to the document, or it stays as it is. -/
def MayAddNotes (before after : Resource) : Prop :=
  after.node = before.node ∨ before.node.AddsNotes after.node

/-- If build annotations are added, then to a document that is compared the same with them. -/
def TakesNotes (before after : Resource) : Prop :=
  before.node.AddsNotes after.node → before.node.IsNoted ∨ before.node.HasTextAnnotations

variable
  {before after : Resource}

/-- A resource is found equal to one with added build annotations exactly if it takes them. -/
theorem equates_iff_takesNotes
    (comparable : before.node.IsComparable)
    (afterWellFormed : after.node.WellFormed)
    (mayAdd : before.MayAddNotes after) :
    Equates before after ↔ before.TakesNotes after := by
  rcases mayAdd with same | adds
  · refine iff_of_true (equates_self comparable same) fun adds => Or.inl ?_
    rw [← same]
    exact adds.noted
  · rw [equates_iff_of_addsNotes comparable afterWellFormed adds, TakesNotes,
      forall_prop_of_true adds]

theorem equates_comm
    (leftWellFormed : before.node.WellFormed)
    (rightWellFormed : after.node.WellFormed) :
    Equates after before ↔ Equates before after :=
  ⟨fun equates => equates.symm rightWellFormed leftWellFormed,
    fun equates => equates.symm leftWellFormed rightWellFormed⟩

/-- Lists of resources are found equal, in both directions, if all take what is added. -/
theorem forall₂_equates_iff
    {left right : List Resource}
    (mayAdd : List.Forall₂ MayAddNotes left right)
    (comparable : ∀ resource ∈ left, resource.node.IsComparable)
    (wellFormed : ∀ resource ∈ right, resource.node.WellFormed) :
    (List.Forall₂ Equates left right ↔ List.Forall₂ TakesNotes left right) ∧
      (List.Forall₂ Equates right left ↔ List.Forall₂ TakesNotes left right) := by
  induction mayAdd with
  | nil => simp
  | cons addsFirst _ inductionHypothesis =>
      rw [List.forall_mem_cons] at comparable wellFormed
      rcases inductionHypothesis comparable.2 wellFormed.2 with ⟨forwards, backwards⟩
      have first := equates_iff_takesNotes comparable.1 wellFormed.1 addsFirst
      rw [List.forall₂_cons, List.forall₂_cons, List.forall₂_cons, forwards, backwards,
        equates_comm comparable.1.wellFormed wellFormed.1, first]
      exact ⟨Iff.rfl, Iff.rfl⟩

end Resource

namespace Collection

/-- Build annotations are added to some resources of a collection. -/
def MayAddNotes (left right : Collection) : Prop :=
  List.Forall₂ Resource.MayAddNotes left.resources right.resources

/-- Every resource takes the build annotations that are added to it. -/
def TakesNotes (left right : Collection) : Prop :=
  List.Forall₂ Resource.TakesNotes left.resources right.resources

/--
A collection whose metadata can be read, and that has no NaN, is equal to the one with
added build annotations exactly if every resource takes those that are added to it; and
so it is the other way round.
-/
theorem requireEqualLists_iff_takesNotes
    {left right : Collection}
    (comparable : ∀ resource ∈ left.resources, resource.node.IsComparable)
    (wellFormed : right.IsWellFormed)
    (mayAdd : left.MayAddNotes right) :
    (left.requireEqualLists right = .ok () ↔ left.TakesNotes right) ∧
      (right.requireEqualLists left = .ok () ↔ left.TakesNotes right) := by
  rw [requireEqualLists_eq_ok, requireEqualLists_eq_ok]
  exact Resource.forall₂_equates_iff mayAdd comparable wellFormed

/-- A document with given annotations. -/
def annotatedNode (annotations : List (String × Node)) : Node :=
  .mapping
    [("kind", .ofText "Disk"),
      ("metadata", .mapping [("name", .ofText "a"), ("annotations", .mapping annotations)])]

/-- A collection of the resource with given annotations. -/
def annotatedDisk (annotations : List (String × Node)) : Collection where
  resources :=
    [{ node := annotatedNode annotations
       initialId := { gvk := .ofKind "Disk", name := "a" }
       currentId := { gvk := .ofKind "Disk", name := "a" } }]

/-- The note of a text that was put in front of the name. -/
def prefixNote : String × Node :=
  (BuildNote.namePrefixes, .ofText "x")

theorem mayAddNotes_prefixNote
    {annotations : List (String × Node)}
    (absent : Fields.get? BuildNote.namePrefixes annotations = none) :
    (annotatedDisk annotations).MayAddNotes (annotatedDisk (annotations ++ [prefixNote])) := by
  have atKey (key : String) :=
    Fields.get?_append_single BuildNote.namePrefixes key (Node.ofText "x") annotations
  refine .cons (Or.inr ?_) .nil
  refine
    { beside := ?_
      within := ⟨_, _, rfl, rfl, ?_⟩
      entries := ⟨_, _, rfl, rfl, ?_⟩
      noted := ⟨BuildNote.namePrefixes, by decide, ?_⟩ }
  · intro name different
    simp [annotatedNode, Node.child?, Node.mapping?, Node.content, Fields.get?, different.symm]
  · intro name different
    simp [Fields.get?, different.symm]
  · intro key
    rw [prefixNote, atKey]
    by_cases isPrefix : BuildNote.namePrefixes = key
    · subst isPrefix
      refine Or.inr ⟨by decide, Node.ofText "x", "x", ?_, rfl⟩
      rw [absent, if_pos rfl, Option.none_or]
    · rw [if_neg isPrefix, Option.or_none]
      exact Or.inl rfl
  · have found := atKey BuildNote.namePrefixes
    rw [absent, if_pos rfl, Option.none_or] at found
    have isLeaf :
        (annotatedNode (annotations ++ [prefixNote])).leafAt?
            (Node.annotationNames BuildNote.namePrefixes) =
          some (.ofText "x") :=
      (Node.leafAt?_append ["metadata", "annotations"] BuildNote.namePrefixes [] rfl).trans
        (congrArg (Option.bind · (Node.leafAt? [])) found)
    exact congrArg Option.isSome isLeaf

theorem wellFormed_annotatedNode
    {annotations : List (String × Node)}
    (wellFormed : Node.WellFormedFields annotations) :
    (annotatedNode annotations).WellFormed := by
  simp [annotatedNode, Node.ofText, Node.wellFormed_mapping, Node.WellFormedFields.cons,
    Node.WellFormedFields.nil, Node.WellFormed.scalar, Fields.names, wellFormed]

/-- A resource with one scalar among its annotations can get a build annotation beside it. -/
theorem prefixed_annotatedDisk
    {name : String}
    {leaf : Scalar}
    (notPrefix : name ≠ BuildNote.namePrefixes)
    (notNaN : leaf.isNaN = false) :
    (∀ resource ∈ (annotatedDisk [(name, .scalar leaf)]).resources, resource.node.IsComparable) ∧
      (annotatedDisk [(name, .scalar leaf), prefixNote]).IsWellFormed ∧
      (annotatedDisk [(name, .scalar leaf)]).MayAddNotes
        (annotatedDisk [(name, .scalar leaf), prefixNote]) := by
  have absent : Fields.get? BuildNote.namePrefixes [(name, Node.scalar leaf)] = none := by
    simp [Fields.get?, notPrefix]
  have single : Node.WellFormedFields [(name, .scalar leaf)] := by
    simp [Node.WellFormedFields.cons, Node.WellFormedFields.nil, Node.WellFormed.scalar,
      Fields.names]
  have prefixed : Node.WellFormedFields [(name, .scalar leaf), prefixNote] := by
    simp [prefixNote, Node.ofText, Node.WellFormedFields.cons, Node.WellFormedFields.nil,
      Node.WellFormed.scalar, Fields.names, notPrefix]
  have textNotNaN (text : String) : (Scalar.ofText text).isNaN = false := rfl
  have hasNoNaN : (annotatedNode [(name, .scalar leaf)]).hasNaN = false := by
    simp [annotatedNode, Node.hasNaN, Node.fieldsHaveNaN, Node.ofText, notNaN, textNotNaN]
  refine ⟨?_, ?_, mayAddNotes_prefixNote absent⟩
  · intro resource member
    rw [List.mem_singleton.1 member]
    exact ⟨wellFormed_annotatedNode single, ⟨_, rfl⟩, hasNoNaN⟩
  · intro resource member
    rw [List.mem_singleton.1 member]
    exact wellFormed_annotatedNode prefixed

/-- An annotation that is a text. -/
def ownerNote : String × Node :=
  ("owner", .scalar (.ofText "x"))

/-- Beside a text, a build annotation does not count. -/
theorem requireEqualLists_ownerNote :
    (∀ resource ∈ (annotatedDisk [ownerNote]).resources, resource.node.IsComparable) ∧
      (annotatedDisk [ownerNote, prefixNote]).IsWellFormed ∧
      (annotatedDisk [ownerNote]).MayAddNotes (annotatedDisk [ownerNote, prefixNote]) ∧
      (annotatedDisk [ownerNote]).requireEqualLists (annotatedDisk [ownerNote, prefixNote]) =
        .ok () ∧
      (annotatedDisk [ownerNote, prefixNote]).requireEqualLists (annotatedDisk [ownerNote]) =
        .ok () := by
  rcases @prefixed_annotatedDisk "owner" (.ofText "x") (by decide) rfl with
    ⟨comparable, wellFormed, mayAdd⟩
  have takes : (annotatedDisk [ownerNote]).TakesNotes (annotatedDisk [ownerNote, prefixNote]) := by
    refine .cons (fun _ => Or.inr ⟨_, _, ⟨rfl, _, rfl, rfl⟩, ?_⟩) .nil
    intro annotations found
    cases found
    refine ⟨_, rfl, List.cons_ne_nil _ _, ?_⟩
    intro entry member
    rw [List.mem_singleton.1 member]
    exact ⟨_, rfl, rfl⟩
  have decided := requireEqualLists_iff_takesNotes comparable wellFormed mayAdd
  exact ⟨comparable, wellFormed, mayAdd, decided.1.2 takes, decided.2.2 takes⟩

/-- An annotation that is a number. -/
def sizeNote : String × Node :=
  ("size", .scalar ⟨.int 3, none⟩)

/-- Beside a number, a build annotation makes a difference in both directions. -/
theorem not_requireEqualLists_sizeNote :
    (∀ resource ∈ (annotatedDisk [sizeNote]).resources, resource.node.IsComparable) ∧
      (annotatedDisk [sizeNote, prefixNote]).IsWellFormed ∧
      (annotatedDisk [sizeNote]).MayAddNotes (annotatedDisk [sizeNote, prefixNote]) ∧
      (annotatedDisk [sizeNote]).requireEqualLists (annotatedDisk [sizeNote, prefixNote]) ≠
        .ok () ∧
      (annotatedDisk [sizeNote, prefixNote]).requireEqualLists (annotatedDisk [sizeNote]) ≠
        .ok () := by
  rcases @prefixed_annotatedDisk "size" ⟨.int 3, none⟩ (by decide) rfl with
    ⟨comparable, wellFormed, mayAdd⟩
  exact ⟨comparable, wellFormed, mayAdd, nofun, nofun⟩

end Collection

end Manifest
