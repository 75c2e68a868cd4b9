import Manifest.Proofs.Resource.Equality
import Manifest.Proofs.Resource.Printed

/-!
# Resources with added build annotations

A build annotation is taken out again before documents are compared, and then the
other annotations are written anew.  So a document with added build annotations is
compared with the document it was in one of two ways: if this one has a build
annotation itself, both are written anew; otherwise only one of them is, and the
other annotations have to be texts, as if they were written.
-/

namespace Manifest

/-- Annotations that agree on all others have the same ones left without those of the build. -/
theorem BuildNote.get?_strip_congr
    {annotations others : StringMap}
    (same : ∀ key, isKey key = false → annotations.get? key = others.get? key)
    (key : String) :
    (strip annotations).get? key = (strip others).get? key := by
  rw [get?_strip, get?_strip]
  split
  · rfl
  · rename_i notBuildKey
    exact same key (Bool.not_eq_true _ ▸ notBuildKey)

namespace Node

/-! ## Added build annotations -/

/-- The document has a build annotation. -/
def IsNoted (node : Node) : Prop :=
  ∃ key, BuildNote.isKey key = true ∧ node.IsAnnotated key

/-- Every annotation stays, or it is a text for a build annotation. -/
def KeepsOthers (annotations next : List (String × Node)) : Prop :=
  ∀ key,
    Fields.get? key next = Fields.get? key annotations ∨
      BuildNote.isKey key = true ∧
        ∃ node text, Fields.get? key next = some node ∧ node.content = .scalar (.ofText text)

/-- Build annotations are added to a document, and everything else in it stays. -/
structure AddsNotes (before after : Node) : Prop where
  /-- Outside the section nothing changes. -/
  beside : ∀ name, name ≠ "metadata" → after.child? name = before.child? name
  /-- In the section nothing but the annotations changes. -/
  within :
    ∃ inner next,
      before.fieldsAt? ["metadata"] = some inner ∧
        after.fieldsAt? ["metadata"] = some next ∧ Metadata.AgreeBeside "annotations" inner next
  /-- Of the annotations only those of the build change. -/
  entries :
    ∃ annotations next,
      before.fieldsAt? ["metadata", "annotations"] = some annotations ∧
        after.fieldsAt? ["metadata", "annotations"] = some next ∧ KeepsOthers annotations next
  /-- There is a build annotation then. -/
  noted : after.IsNoted

variable
  {node before after : Node}
  {metadata : Metadata}
  {fields inner : List (String × Node)}

theorem IsNoted.hasSection
    (noted : node.IsNoted) :
    ∃ fields inner, node.HasSection fields inner := by
  rcases noted with ⟨_, _, isAnnotated⟩
  exact hasSection_of_isAnnotated isAnnotated

/-- A document has a build annotation exactly if one is read from it. -/
theorem isNoted_iff
    (wellFormed : node.WellFormed)
    (reads : node.metadata = .ok metadata) :
    node.IsNoted ↔
      ∃ key text, BuildNote.isKey key = true ∧ metadata.annotations.get? key = some text := by
  simp only [IsNoted, IsAnnotated, get?_annotations wellFormed reads]
  refine exists_congr fun key => ?_
  cases node.leafAt? (annotationNames key) with
  | none => simp
  | some leaf => simp

theorem plain_of_not_isNoted
    (wellFormed : node.WellFormed)
    (reads : node.metadata = .ok metadata)
    (notNoted : ¬node.IsNoted)
    {key : String}
    (isBuildKey : BuildNote.isKey key = true) :
    metadata.annotations.get? key = none := by
  cases found : metadata.annotations.get? key with
  | none => rfl
  | some text =>
      exact absurd ((isNoted_iff wellFormed reads).2 ⟨key, text, isBuildKey, found⟩) notNoted

/-- A document with a section has its other annotations in it when build annotations are added. -/
theorem AddsNotes.becomes
    (adds : before.AddsNotes after)
    (hasSection : before.HasSection fields inner) :
    ∃ annotations, before.Becomes after annotations := by
  rcases adds.noted.hasSection with ⟨others, written, afterSection⟩
  refine ⟨_, fields, inner, others, written, hasSection, afterSection, ?_, ?_, rfl⟩
  · intro name different
    rw [← afterSection.child?, ← hasSection.child?]
    exact adds.beside name different
  · rcases adds.within with ⟨_, _, inside, nextInside, agree⟩
    cases inside.symm.trans hasSection.inside
    cases nextInside.symm.trans afterSection.inside
    exact agree

/-- The entries of annotations stay scalars when build annotations are added. -/
theorem KeepsOthers.areScalars
    {annotations next : List (String × Node)}
    (keeps : KeepsOthers annotations next)
    (distinct : Fields.Distinct next)
    (areScalars : ∀ entry ∈ annotations, ∃ leaf, entry.2.content = .scalar leaf) :
    ∀ entry ∈ next, ∃ leaf, entry.2.content = .scalar leaf := by
  intro entry member
  have found : Fields.get? entry.1 next = some entry.2 := Fields.get?_of_mem distinct member
  rcases keeps entry.1 with stays | ⟨_, node, text, isWritten, isText⟩
  · exact areScalars (entry.1, entry.2) (Fields.mem_of_get? (stays.symm.trans found))
  · cases found.symm.trans isWritten
    exact ⟨.ofText text, isText⟩

/-- Adding build annotations changes the annotations and nothing else of the metadata. -/
theorem AddsNotes.metadata_eq
    (adds : before.AddsNotes after)
    (afterWellFormed : after.WellFormed)
    (reads : before.metadata = .ok metadata) :
    ∃ annotations, after.metadata = .ok { metadata with annotations } := by
  rcases metadata_eq_ok.1 reads with ⟨inner, reads⟩
  rcases adds.within with ⟨_, nextInner, inside, nextInside, agree⟩
  cases inside.symm.trans reads.inside
  rcases adds.entries with ⟨entries, next, inEntries, inNext, keeps⟩
  have opens := (fieldsAt?_section inside "annotations").symm.trans inEntries
  have nextOpens := (fieldsAt?_section nextInside "annotations").symm.trans inNext
  have nextScalars : ∀ entry ∈ next, ∃ leaf, entry.2.content = .scalar leaf := by
    apply keeps.areScalars (afterWellFormed.fieldsAt? _ inNext).distinct
    rcases Metadata.stringMap_eq_ok.1 ⟨_, reads.parts.annotations⟩ with
      ⟨_, sameOpens, areScalars⟩
    cases opens.symm.trans sameOpens
    exact areScalars
  rcases Metadata.stringMap_eq_ok.2 ⟨next, nextOpens, nextScalars⟩ with
    ⟨annotations, readsAnnotations⟩
  rcases adds.noted.hasSection with ⟨others, written, afterSection⟩
  rcases afterSection.isSection with ⟨child, found, _⟩
  refine ⟨annotations, metadata_eq_ok.2 ⟨nextInner, ?_⟩⟩
  exact
    { isMapping := ⟨others, afterSection.isMapping⟩
      identified := Or.inr (Or.inr (by rw [afterSection.child?, found]; rfl))
      apiVersion := adds.beside "apiVersion" (by simp) ▸ reads.apiVersion
      kind := adds.beside "kind" (by simp) ▸ reads.kind
      inside := nextInside
      parts := reads.parts.withAnnotations agree readsAnnotations }

/-- The annotations that are not of the build are read as before. -/
theorem AddsNotes.get?_annotations
    {next : Metadata}
    (adds : before.AddsNotes after)
    (wellFormed : before.WellFormed)
    (afterWellFormed : after.WellFormed)
    (reads : before.metadata = .ok metadata)
    (readsAfter : after.metadata = .ok next)
    {key : String}
    (notBuildKey : BuildNote.isKey key = false) :
    next.annotations.get? key = metadata.annotations.get? key := by
  rcases adds.entries with ⟨entries, others, inEntries, inOthers, keeps⟩
  have sameEntry : Fields.get? key others = Fields.get? key entries := by
    rcases keeps key with stays | ⟨isBuildKey, _⟩
    · exact stays
    · rw [notBuildKey] at isBuildKey
      cases isBuildKey
  have leafBefore := leafAt?_append ["metadata", "annotations"] key [] inEntries
  have leafAfter := leafAt?_append ["metadata", "annotations"] key [] inOthers
  rw [sameEntry, ← leafBefore] at leafAfter
  rw [Node.get?_annotations wellFormed reads, Node.get?_annotations afterWellFormed readsAfter]
  exact congrArg (Option.map Scalar.text) leafAfter

/-- The document can be compared: its metadata can be read, and no number in it is NaN. -/
structure IsComparable (node : Node) : Prop where
  wellFormed : node.WellFormed
  readable : ∃ metadata, node.metadata = .ok metadata
  notNaN : node.hasNaN = false

/-- The section of the document is a mapping, and the annotations in it are absent or texts. -/
def HasTextAnnotations (node : Node) : Prop :=
  ∃ fields inner,
    node.HasSection fields inner ∧
      ∀ annotations, Fields.get? "annotations" inner = some annotations → annotations.IsTextMap

theorem HasSection.hasTextAnnotations_iff
    (hasSection : node.HasSection fields inner) :
    node.HasTextAnnotations ↔
      ∀ annotations,
        Fields.get? "annotations" inner = some annotations → annotations.IsTextMap := by
  constructor
  · rintro ⟨_, _, sameSection, areTexts⟩
    rcases hasSection.unique sameSection with ⟨rfl, rfl⟩
    exact areTexts
  · intro areTexts
    exact ⟨fields, inner, hasSection, areTexts⟩

/-- Annotations with the same texts are written alike into both documents. -/
theorem AddsNotes.alike_written
    {next nextAfter : Node}
    {map written : StringMap}
    (adds : before.AddsNotes after)
    (comparable : before.IsComparable)
    (becomes : before.Becomes next (writtenMap map))
    (afterBecomes : after.Becomes nextAfter (writtenMap written))
    (nextWellFormed : nextAfter.WellFormed)
    (sameTexts : ∀ key, written.get? key = map.get? key) :
    next.Alike nextAfter := by
  have alike := alike_self comparable.wellFormed comparable.notNaN
  have beforeBecomes := becomes
  rcases beforeBecomes with ⟨_, _, _, _, hasSection, _⟩
  rcases adds.becomes hasSection with ⟨_, becomesAfter⟩
  rw [becomes.alike_iff (becomesAfter.trans afterBecomes) alike comparable.wellFormed
    nextWellFormed, alikeAt_writtenMap]
  exact fun key => (sameTexts key).symm

/-- A document is alike one with the same annotations written exactly if they are texts. -/
theorem AddsNotes.alike_iff_hasTextAnnotations
    {nextAfter : Node}
    {written : StringMap}
    (adds : before.AddsNotes after)
    (comparable : before.IsComparable)
    (reads : before.metadata = .ok metadata)
    (afterBecomes : after.Becomes nextAfter (writtenMap written))
    (nextWellFormed : nextAfter.WellFormed)
    (sameTexts : ∀ key, written.get? key = metadata.annotations.get? key) :
    before.Alike nextAfter ↔ before.HasTextAnnotations := by
  have wellFormed := comparable.wellFormed
  have alike := alike_self wellFormed comparable.notNaN
  have decided {fields inner : List (String × Node)} (hasSection : before.HasSection fields inner) :
      before.Alike nextAfter ↔ before.HasTextAnnotations := by
    rcases adds.becomes hasSection with ⟨_, becomes⟩
    rcases metadata_eq_ok.1 reads with ⟨_, readsParts⟩
    cases readsParts.inside.symm.trans hasSection.inside
    rw [hasSection.hasTextAnnotations_iff,
      hasSection.becomes_self.alike_iff (becomes.trans afterBecomes) alike wellFormed
        nextWellFormed]
    apply alikeAt_writtenMap_iff _ readsParts.parts.annotations sameTexts
    intro node found
    exact (hasSection.wellFormedFields wellFormed).2.get? found
  -- On both sides there is a section: it is written into the second document.
  constructor
  · intro isAlike
    rcases afterBecomes with ⟨_, _, _, _, _, nextSection, _⟩
    rcases hasSection_of_alike isAlike nextWellFormed nextSection with ⟨_, _, hasSection⟩
    exact (decided hasSection).1 isAlike
  · intro hasTexts
    rcases hasTexts with ⟨fields, inner, hasSection, areTexts⟩
    exact (decided hasSection).2 ⟨fields, inner, hasSection, areTexts⟩

end Node

namespace Resource

variable
  {resource before after : Resource}
  {metadata : Metadata}

/-- A document with build annotations is compared with the others written anew. -/
theorem comparableNode_of_isNoted
    (wellFormed : resource.node.WellFormed)
    (reads : resource.node.metadata = .ok metadata)
    (noted : resource.node.IsNoted) :
    ∃ next,
      resource.comparableNode = .ok next ∧ next.WellFormed ∧
        resource.node.Becomes next (Node.writtenMap (BuildNote.strip metadata.annotations)) := by
  rcases noted.hasSection with ⟨fields, inner, hasSection⟩
  rcases
      hasSection.setAnnotations (hasSection.wellFormedFields wellFormed).2.distinct
        (BuildNote.strip metadata.annotations) with
    ⟨next, sets, becomes⟩
  rcases (Node.isNoted_iff wellFormed reads).1 noted with ⟨key, text, isBuildKey, found⟩
  have nextWellFormed := wellFormed.setAnnotations (BuildNote.strip metadata.annotations)
  rw [sets] at nextWellFormed
  exact ⟨next, comparableNode_of_noted reads isBuildKey found sets, nextWellFormed, becomes⟩

/-- A document without build annotations is compared as it is. -/
theorem comparableNode_of_not_isNoted
    (wellFormed : resource.node.WellFormed)
    (reads : resource.node.metadata = .ok metadata)
    (notNoted : ¬resource.node.IsNoted) :
    resource.comparableNode = .ok resource.node :=
  comparableNode_of_plain reads fun _ => Node.plain_of_not_isNoted wellFormed reads notNoted

/-- A resource is found equal to another one with the same document. -/
theorem equates_self
    (comparable : before.node.IsComparable)
    (same : after.node = before.node) :
    Equates before after := by
  rcases comparable.readable with ⟨metadata, reads⟩
  have wellFormed := comparable.wellFormed
  have alike := Node.alike_self wellFormed comparable.notNaN
  by_cases noted : before.node.IsNoted
  · rcases comparableNode_of_isNoted wellFormed reads noted with
      ⟨next, comparesBefore, nextWellFormed, becomes⟩
    rw [← same] at wellFormed reads noted
    rcases comparableNode_of_isNoted wellFormed reads noted with
      ⟨nextAfter, comparesAfter, nextAfterWellFormed, afterBecomes⟩
    rw [same] at wellFormed afterBecomes
    rw [equates_of_comparable comparesBefore comparesAfter,
      becomes.alike_iff afterBecomes alike wellFormed nextAfterWellFormed, Node.alikeAt_writtenMap]
    exact fun _ => rfl
  · have comparesBefore := comparableNode_of_not_isNoted wellFormed reads noted
    rw [← same] at wellFormed reads noted
    have comparesAfter := comparableNode_of_not_isNoted wellFormed reads noted
    rw [equates_of_comparable comparesBefore comparesAfter, same]
    exact alike

/--
A resource is found equal to one with added build annotations exactly if it has a build
annotation itself, or if its annotations are such as are written.
-/
theorem equates_iff_of_addsNotes
    (comparable : before.node.IsComparable)
    (afterWellFormed : after.node.WellFormed)
    (adds : before.node.AddsNotes after.node) :
    Equates before after ↔ before.node.IsNoted ∨ before.node.HasTextAnnotations := by
  rcases comparable.readable with ⟨metadata, reads⟩
  have wellFormed := comparable.wellFormed
  rcases adds.metadata_eq afterWellFormed reads with ⟨annotations, readsAfter⟩
  rcases comparableNode_of_isNoted afterWellFormed readsAfter adds.noted with
    ⟨nextAfter, comparesAfter, nextWellFormed, afterBecomes⟩
  have sameTexts :=
    BuildNote.get?_strip_congr fun _ =>
      adds.get?_annotations wellFormed afterWellFormed reads readsAfter
  by_cases noted : before.node.IsNoted
  · rcases comparableNode_of_isNoted wellFormed reads noted with
      ⟨next, comparesBefore, _, becomes⟩
    have alike : next.Alike nextAfter :=
      adds.alike_written comparable becomes afterBecomes nextWellFormed sameTexts
    exact
      iff_of_true ((equates_of_comparable comparesBefore comparesAfter).2 alike) (Or.inl noted)
  · have comparesBefore := comparableNode_of_not_isNoted wellFormed reads noted
    have unchanged (key : String) :
        (BuildNote.strip annotations).get? key = metadata.annotations.get? key := by
      rw [sameTexts, BuildNote.get?_strip]
      split
      · rename_i isBuildKey
        exact (Node.plain_of_not_isNoted wellFormed reads noted isBuildKey).symm
      · rfl
    rw [equates_of_comparable comparesBefore comparesAfter, or_iff_right noted]
    exact
      adds.alike_iff_hasTextAnnotations comparable reads afterBecomes nextWellFormed unchanged

end Resource

end Manifest
