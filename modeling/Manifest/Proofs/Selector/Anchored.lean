import Manifest.Proofs.Pattern.Anchored
import Manifest.Proofs.Result

/-!
# Patterns of fields

The pattern of a field is put as a text into a group between the marks for the start
and the end of the text.  The field then matches the texts that the pattern matches as
a whole, provided that the pattern stays inside its group: it neither closes the group
nor ends in a comment that reaches beyond it, and the marks make no difference for the
limits on nesting and memory.

The library of patterns accepts the text with the marks also where the pattern closes
the group, and refuses it where a comment swallows the end of the group.  These are
the patterns with which a field does something else.
-/

namespace Manifest.Selector

open Pattern (LeavesCommentOpen ClosesGroup Notation)

/-! ## Patterns that stay inside their group -/

section

/-- A pattern that means the same between the marks and by itself. -/
structure StaysInside (pattern : String) : Prop where
  endsOutsideComments : (Pattern.ofText? pattern).isSome → ¬LeavesCommentOpen pattern
  keepsGroupOpen : (Pattern.ofText? (anchored pattern)).isSome → ¬ClosesGroup pattern
  /-- The limits on nesting and memory refuse both the pattern and what stands between the marks,
  or neither. -/
  limitsAgree :
    ∀ inner found flags, Notation.ofText? pattern = some inner →
      inner.pattern? {} = some (found, flags) → ¬LeavesCommentOpen pattern →
      (found.isTooLarge = false ↔
        inner.depth + 2 ≤ Notation.depthLimit ∧ found.anchored.isTooLarge = false)

variable {pattern : String}

theorem isSome_ofText?_of_staysInside
    (stays : StaysInside pattern) :
    (Pattern.ofText? (anchored pattern)).isSome ↔ (Pattern.ofText? pattern).isSome := by
  constructor
  · intro accepted
    have inside := stays.keepsGroupOpen accepted
    rcases Option.isSome_iff_exists.1 accepted with ⟨whole, acceptsWhole⟩
    rcases (Pattern.ofText?_anchored_eq_some inside).1 acceptsWhole with
      ⟨closed, inner, found, flags, read, means, fits, _⟩
    have small := (stays.limitsAgree inner found flags read means closed).2 fits
    exact Option.isSome_iff_exists.2
      ⟨found, Pattern.ofText?_eq_some.2 ⟨inner, flags, read, means, small⟩⟩
  · intro accepted
    have closed := stays.endsOutsideComments accepted
    rcases Option.isSome_iff_exists.1 accepted with ⟨found, acceptsFound⟩
    rcases Pattern.ofText?_eq_some.1 acceptsFound with ⟨inner, flags, read, means, small⟩
    have fits := (stays.limitsAgree inner found flags read means closed).1 small
    have inside := Pattern.not_closesGroup_of_ofText? read
    exact Option.isSome_iff_exists.2
      ⟨found.anchored, (Pattern.ofText?_anchored_eq_some inside).2
        ⟨closed, inner, found, flags, read, means, fits, rfl⟩⟩

theorem staysInside_of_isSome_ofText?
    (same : (Pattern.ofText? (anchored pattern)).isSome ↔ (Pattern.ofText? pattern).isSome) :
    StaysInside pattern where
  endsOutsideComments accepted := by
    rcases Option.isSome_iff_exists.1 accepted with ⟨found, acceptsFound⟩
    rcases Pattern.ofText?_eq_some.1 acceptsFound with ⟨_, _, read, _, _⟩
    rcases Option.isSome_iff_exists.1 (same.2 accepted) with ⟨whole, acceptsWhole⟩
    have inside := Pattern.not_closesGroup_of_ofText? read
    exact ((Pattern.ofText?_anchored_eq_some inside).1 acceptsWhole).1
  keepsGroupOpen accepted := by
    rcases Option.isSome_iff_exists.1 (same.1 accepted) with ⟨found, acceptsFound⟩
    rcases Pattern.ofText?_eq_some.1 acceptsFound with ⟨_, _, read, _, _⟩
    exact Pattern.not_closesGroup_of_ofText? read
  limitsAgree inner found flags read means closed := by
    have inside := Pattern.not_closesGroup_of_ofText? read
    constructor
    · intro small
      have accepted : (Pattern.ofText? pattern).isSome := Option.isSome_iff_exists.2
        ⟨found, Pattern.ofText?_eq_some.2 ⟨inner, flags, read, means, small⟩⟩
      rcases Option.isSome_iff_exists.1 (same.2 accepted) with ⟨whole, acceptsWhole⟩
      rcases (Pattern.ofText?_anchored_eq_some inside).1 acceptsWhole with
        ⟨_, other, _, _, readOther, meansOther, fits, _⟩
      cases read.symm.trans readOther
      cases means.symm.trans meansOther
      exact fits
    · intro fits
      have accepted : (Pattern.ofText? (anchored pattern)).isSome := Option.isSome_iff_exists.2
        ⟨found.anchored, (Pattern.ofText?_anchored_eq_some inside).2
          ⟨closed, inner, found, flags, read, means, fits, rfl⟩⟩
      rcases Option.isSome_iff_exists.1 (same.1 accepted) with ⟨_, acceptsOther⟩
      rcases Pattern.ofText?_eq_some.1 acceptsOther with
        ⟨other, _, readOther, meansOther, small⟩
      cases read.symm.trans readOther
      cases means.symm.trans meansOther
      exact small

/-- Exactly the patterns that stay inside are accepted between the marks whenever they are accepted
by themselves. -/
theorem staysInside_iff :
    StaysInside pattern ↔
      ((Pattern.ofText? (anchored pattern)).isSome ↔ (Pattern.ofText? pattern).isSome) :=
  ⟨isSome_ofText?_of_staysInside, staysInside_of_isSome_ofText?⟩

example : StaysInside "Service|Deployment" :=
  staysInside_iff.2 (by decide +kernel)

/-- A pattern that is accepted in both places is found between the marks in the texts that it
matches as a whole. -/
theorem occursIn_of_ofText?_anchored
    {found whole : Pattern}
    (accepted : Pattern.ofText? pattern = some found)
    (acceptsWhole : Pattern.ofText? (anchored pattern) = some whole)
    (text : String) :
    whole.occursIn text = true ↔ found.Matches text.toList 0 text.toList.length := by
  rcases Pattern.ofText?_eq_some.1 accepted with ⟨inner, flags, read, means, _⟩
  have inside := Pattern.not_closesGroup_of_ofText? read
  rcases (Pattern.ofText?_anchored_eq_some inside).1 acceptsWhole with
    ⟨_, other, _, _, readOther, meansOther, _, rfl⟩
  cases read.symm.trans readOther
  cases means.symm.trans meansOther
  exact Pattern.occursIn_anchored found text

end

/-! ## Fields with patterns -/

/-- The fields of a selector that hold patterns. -/
inductive Field where
  | group
  | version
  | kind
  | name
  | namespaceName
deriving DecidableEq, Repr

namespace Field

/-- The name of the field in errors. -/
def label : Field → String
  | group => "group"
  | version => "version"
  | kind => "kind"
  | name => "name"
  | namespaceName => "namespace"

/-- The pattern that a selector has in the field. -/
def pattern : Field → Selector → String
  | group, selector => selector.group
  | version, selector => selector.version
  | kind, selector => selector.kind
  | name, selector => selector.name
  | namespaceName, selector => selector.namespaceName

/-- A selector with another pattern in the field. -/
def write (pattern : String) : Field → Selector → Selector
  | group, selector => { selector with group := pattern }
  | version, selector => { selector with version := pattern }
  | kind, selector => { selector with kind := pattern }
  | name, selector => { selector with name := pattern }
  | namespaceName, selector => { selector with namespaceName := pattern }

/-- The pattern of the field that has been read. -/
def compiled : Field → Compiled → Option Pattern
  | group, selector => selector.group
  | version, selector => selector.version
  | kind, selector => selector.kind
  | name, selector => selector.name
  | namespaceName, selector => selector.namespaceName

/-- The texts of a resource that the field looks at; one of them has to satisfy its pattern. -/
def values (initial current : ResourceId) : Field → List String
  | group => [current.gvk.group]
  | version => [current.gvk.version]
  | kind => [current.gvk.kind]
  | name => [initial.name, current.name]
  | namespaceName => [initial.effectiveNamespace, current.effectiveNamespace]

/-- Whether a text satisfies the pattern of the field. -/
def isSatisfied (field : Field) (selector : Compiled) (value : String) : Bool :=
  Compiled.satisfies (field.compiled selector) value

@[simp]
theorem pattern_write
    (field : Field)
    (text : String)
    (selector : Selector) :
    field.pattern (field.write text selector) = text := by
  cases field <;> rfl

theorem pattern_write_of_ne
    {field other : Field}
    (different : other ≠ field)
    (text : String)
    (selector : Selector) :
    other.pattern (field.write text selector) = other.pattern selector := by
  cases field <;> cases other <;> first | rfl | contradiction

@[simp]
theorem labels_write
    (field : Field)
    (text : String)
    (selector : Selector) :
    (field.write text selector).labels = selector.labels := by
  cases field <;> rfl

@[simp]
theorem annotations_write
    (field : Field)
    (text : String)
    (selector : Selector) :
    (field.write text selector).annotations = selector.annotations := by
  cases field <;> rfl

theorem values_ne_nil
    (field : Field)
    (initial current : ResourceId) :
    field.values initial current ≠ [] := by
  cases field <;> exact List.cons_ne_nil _ _

end Field

/-- The ids of a resource satisfy a selector if each field is satisfied by one of its texts. -/
theorem Compiled.matchesIds_iff
    {selector : Compiled}
    {initial current : ResourceId} :
    selector.matchesIds initial current = true ↔
      ∀ field : Field, ∃ value ∈ field.values initial current,
        field.isSatisfied selector value = true := by
  simp only [Compiled.matchesIds, Compiled.matchesGvk, Compiled.matchesNames,
    Compiled.matchesNamespaces, Compiled.matchesName, Compiled.matchesNamespace,
    Bool.and_eq_true, Bool.or_eq_true]
  constructor
  · rintro ⟨⟨⟨⟨group, version⟩, kind⟩, name⟩, namespaceName⟩ field
    cases field with
    | group => exact ⟨_, List.mem_singleton_self _, group⟩
    | version => exact ⟨_, List.mem_singleton_self _, version⟩
    | kind => exact ⟨_, List.mem_singleton_self _, kind⟩
    | name => simpa [Field.values, Field.isSatisfied, Field.compiled] using name
    | namespaceName => simpa [Field.values, Field.isSatisfied, Field.compiled] using namespaceName
  · intro satisfied
    have group := satisfied .group
    have version := satisfied .version
    have kind := satisfied .kind
    have name := satisfied .name
    have namespaceName := satisfied .namespaceName
    simp only [Field.values, List.mem_cons, List.not_mem_nil, or_false, exists_eq_or_imp,
      exists_eq_left] at group version kind name namespaceName
    exact ⟨⟨⟨⟨group, version⟩, kind⟩, name⟩, namespaceName⟩

/-! ## Reading the patterns of a selector -/

/-- A selector is read if its fields and expressions are. -/
theorem compile_eq_ok
    {selector : Selector}
    {compiled : Compiled} :
    selector.compile = .ok compiled ↔
      (∀ field : Field,
        compilePattern field.label (field.pattern selector) = .ok (field.compiled compiled)) ∧
      LabelSelector.parse selector.labels = .ok compiled.labels ∧
      LabelSelector.parse selector.annotations = .ok compiled.annotations := by
  simp only [compile, Result.bind_eq_ok]
  constructor
  · rintro ⟨_, group, _, version, _, kind, _, name, _, namespaceName,
      _, labels, _, annotations, same⟩
    cases same
    refine ⟨fun field => ?_, labels, annotations⟩
    cases field with
    | group => exact group
    | version => exact version
    | kind => exact kind
    | name => exact name
    | namespaceName => exact namespaceName
  · rintro ⟨fields, labels, annotations⟩
    exact ⟨_, fields .group, _, fields .version, _, fields .kind, _, fields .name,
      _, fields .namespaceName, _, labels, _, annotations, rfl⟩

/-- A selector that can be read. -/
def Compiles (selector : Selector) : Prop :=
  ∃ compiled, selector.compile = .ok compiled

theorem compiles_iff
    {selector : Selector} :
    selector.Compiles ↔
      (∀ field : Field, ∃ found,
        compilePattern field.label (field.pattern selector) = .ok found) ∧
      (∃ labels, LabelSelector.parse selector.labels = .ok labels) ∧
      ∃ annotations, LabelSelector.parse selector.annotations = .ok annotations := by
  constructor
  · rintro ⟨compiled, succeeds⟩
    rcases compile_eq_ok.1 succeeds with ⟨fields, labels, annotations⟩
    exact ⟨fun field => ⟨_, fields field⟩, ⟨_, labels⟩, _, annotations⟩
  · rintro ⟨fields, ⟨labels, parsesLabels⟩, annotations, parsesAnnotations⟩
    rcases Classical.axiomOfChoice fields with ⟨found, readFields⟩
    refine ⟨⟨found .group, found .version, found .kind, found .name, found .namespaceName,
      labels, annotations⟩, compile_eq_ok.2 ⟨fun field => ?_, parsesLabels, parsesAnnotations⟩⟩
    rw [readFields field]
    cases field <;> rfl

/-- Where the rest of a selector can be read, the pattern of one field decides. -/
theorem compiles_iff_of_others
    {field : Field}
    {selector : Selector}
    (others : (field.write "" selector).Compiles) :
    selector.Compiles ↔
      ∃ found, compilePattern field.label (field.pattern selector) = .ok found := by
  rw [compiles_iff, field.labels_write, field.annotations_write] at others
  rw [compiles_iff]
  constructor
  · rintro ⟨fields, _⟩
    exact fields field
  · intro reads
    refine ⟨fun other => ?_, others.2⟩
    by_cases same : other = field
    · rw [same]
      exact reads
    · have readsOther := others.1 other
      rwa [Field.pattern_write_of_ne same] at readsOther

theorem compilePattern_eq_ok
    {label pattern : String}
    {found : Option Pattern} :
    compilePattern label pattern = .ok found ↔
      pattern = "" ∧ found = none ∨
        pattern ≠ "" ∧ ∃ whole, Pattern.ofText? (anchored pattern) = some whole ∧
          found = some whole := by
  rw [compilePattern]
  by_cases isEmpty : pattern = ""
  · simp [isEmpty, eq_comm]
  · rw [if_neg isEmpty]
    cases Pattern.ofText? (anchored pattern) with
    | none => simp [isEmpty]
    | some whole => simp [isEmpty, eq_comm]

/-- The empty pattern is accepted with and without the marks. -/
theorem exists_compilePattern_iff
    {label pattern : String} :
    (∃ found, compilePattern label pattern = .ok found) ↔
      (Pattern.ofText? (anchored pattern)).isSome := by
  simp only [compilePattern_eq_ok]
  by_cases isEmpty : pattern = ""
  · have accepted : (Pattern.ofText? (anchored "")).isSome := by decide +kernel
    simp [isEmpty, accepted]
  · simp [isEmpty, Option.isSome_iff_exists]

/-! ## Matching a whole field -/

/-- A field with a pattern does what it promises: it accepts the patterns of the library, and it is
satisfied by the texts that the pattern matches as a whole, or by all if the pattern is empty. -/
structure MatchesWholeField (field : Field) (pattern : String) : Prop where
  accepts_iff :
    ∀ selector : Selector, field.pattern selector = pattern →
      (field.write "" selector).Compiles →
      (selector.Compiles ↔ (Pattern.ofText? pattern).isSome)
  satisfies_iff :
    ∀ (selector : Selector) (compiled : Compiled), field.pattern selector = pattern →
      selector.compile = .ok compiled →
      ∀ value, field.isSatisfied compiled value = true ↔
        pattern = "" ∨
          ∃ found, Pattern.ofText? pattern = some found ∧
            found.Matches value.toList 0 value.toList.length

theorem matchesWholeField_of_staysInside
    {pattern : String}
    (field : Field)
    (stays : StaysInside pattern) :
    MatchesWholeField field pattern := by
  have same := isSome_ofText?_of_staysInside stays
  constructor
  · intro selector holds others
    rw [compiles_iff_of_others others, holds, exists_compilePattern_iff, same]
  · intro selector compiled holds succeeds value
    have reads := (compile_eq_ok.1 succeeds).1 field
    rw [holds, compilePattern_eq_ok] at reads
    rw [Field.isSatisfied]
    rcases reads with ⟨isEmpty, isNone⟩ | ⟨notEmpty, whole, acceptsWhole, isWhole⟩
    · rw [isNone]
      exact iff_of_true rfl (Or.inl isEmpty)
    · have accepted : (Pattern.ofText? pattern).isSome := same.1 (by rw [acceptsWhole]; rfl)
      rcases Option.isSome_iff_exists.1 accepted with ⟨found, acceptsFound⟩
      rw [isWhole, or_iff_right notEmpty]
      change whole.occursIn value = true ↔ _
      rw [occursIn_of_ofText?_anchored acceptsFound acceptsWhole, acceptsFound]
      simp

/-- A field of a selector matches whole texts exactly if its pattern stays inside the group that it
is put into. -/
theorem matchesWholeField_iff
    (field : Field)
    (pattern : String) :
    MatchesWholeField field pattern ↔ StaysInside pattern := by
  constructor
  · -- A selector with no other patterns leaves the decision to this one.
    intro promised
    have others : (field.write "" (field.write pattern {})).Compiles := by
      cases field <;> exact ⟨{}, rfl⟩
    rw [staysInside_iff, ← promised.accepts_iff _ (field.pattern_write pattern {}) others,
      compiles_iff_of_others others, field.pattern_write, exists_compilePattern_iff]
  · exact matchesWholeField_of_staysInside field

/-- The closing sign of this pattern ends the group, and its opening sign starts another one. -/
theorem not_matchesWholeField_twoGroups :
    ¬MatchesWholeField .name "a)|(b" := by
  intro promised
  have others : (Field.name.write "" { name := "a)|(b" }).Compiles := ⟨{}, rfl⟩
  have accepted : (Pattern.ofText? (anchored "a)|(b")).isSome := by decide +kernel
  have refused : (Pattern.ofText? "a)|(b").isSome = false := by decide +kernel
  have compiles := (compiles_iff_of_others others).2 (exists_compilePattern_iff.2 accepted)
  have valid := (promised.accepts_iff _ rfl others).1 compiles
  rw [refused] at valid
  cases valid

/-- A selector whose patterns stay inside picks the ids in which each of them that is not empty
matches one of the texts of its field as a whole. -/
theorem matchesIds_iff_of_staysInside
    {selector : Selector}
    {compiled : Compiled}
    {initial current : ResourceId}
    (stay : ∀ field : Field, StaysInside (field.pattern selector))
    (succeeds : selector.compile = .ok compiled) :
    compiled.matchesIds initial current = true ↔
      ∀ field : Field, field.pattern selector = "" ∨
        ∃ value ∈ field.values initial current, ∃ found,
          Pattern.ofText? (field.pattern selector) = some found ∧
            found.Matches value.toList 0 value.toList.length := by
  rw [Compiled.matchesIds_iff]
  refine forall_congr' fun field => ?_
  have matchesField := matchesWholeField_of_staysInside field (stay field)
  have satisfied := matchesField.satisfies_iff selector compiled rfl succeeds
  simp only [satisfied]
  constructor
  · rintro ⟨value, isValue, isEmpty | isMatch⟩
    · exact Or.inl isEmpty
    · exact Or.inr ⟨value, isValue, isMatch⟩
  · rintro (isEmpty | ⟨value, isValue, isMatch⟩)
    · rcases List.exists_mem_of_ne_nil _ (field.values_ne_nil initial current) with
        ⟨value, isValue⟩
      exact ⟨value, isValue, Or.inl isEmpty⟩
    · exact ⟨value, isValue, Or.inr isMatch⟩

end Manifest.Selector
