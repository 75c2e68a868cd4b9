import Manifest.Proofs.Pattern.AnchoredReading
import Manifest.Proofs.Pattern.Matching

/-!
# Patterns between marks

A sequence of patterns matches what its patterns match one after the other, in whatever
way it is brought into its normal form.  So a pattern between the conditions for the
start and the end of the text is found in a text exactly if the pattern matches the
whole of it.
-/

namespace Manifest.Pattern

variable {text : List Char} {first last : Nat}

/-! ## Sequences -/

theorem matchesAll_append
    {before after : List Pattern} :
    MatchesAll text (before ++ after) first last ↔
      ∃ middle, MatchesAll text before first middle ∧ MatchesAll text after middle last := by
  induction before generalizing first with
  | nil => simp [MatchesAll]
  | cons part before inductionHypothesis =>
      simp only [List.cons_append, MatchesAll, inductionHypothesis]
      constructor
      · rintro ⟨between, matchesPart, middle, others, behind⟩
        exact ⟨middle, ⟨between, matchesPart, others⟩, behind⟩
      · rintro ⟨middle, ⟨between, matchesPart, others⟩, behind⟩
        exact ⟨between, matchesPart, middle, others, behind⟩

theorem matchesAll_singleton
    {pattern : Pattern} :
    MatchesAll text [pattern] first last ↔ Matches text pattern first last := by
  simp [MatchesAll]

theorem matchesAll_parts
    (pattern : Pattern) :
    MatchesAll text pattern.parts first last ↔ Matches text pattern first last := by
  cases pattern with
  | empty => rfl
  | concat parts => rfl
  | _ => exact matchesAll_singleton

theorem matchesAll_flatMap_parts
    (patterns : List Pattern) :
    MatchesAll text (patterns.flatMap parts) first last ↔ MatchesAll text patterns first last := by
  induction patterns generalizing first with
  | nil => rfl
  | cons pattern patterns inductionHypothesis =>
      rw [List.flatMap_cons, matchesAll_append]
      simp only [matchesAll_parts, inductionHypothesis, MatchesAll]

theorem append_prefix_drop_iff
    {chars others : List Char} :
    chars ++ others <+: text.drop first ↔
      chars <+: text.drop first ∧ others <+: text.drop (first + chars.length) := by
  rw [← List.drop_drop]
  constructor
  · rintro ⟨behind, same⟩
    rw [← same, List.append_assoc]
    refine ⟨List.prefix_append _ _, ?_⟩
    rw [List.drop_left]
    exact List.prefix_append _ _
  · rintro ⟨⟨behind, same⟩, starts⟩
    rw [← same, List.drop_left] at starts
    rw [← same]
    exact (List.prefix_append_right_inj chars).2 starts

/-- Texts that follow each other are one text. -/
theorem matchesAll_prepend
    (pattern : Pattern)
    (patterns : List Pattern) :
    MatchesAll text (prepend pattern patterns) first last ↔
      MatchesAll text (pattern :: patterns) first last := by
  unfold prepend
  split
  · rename_i chars others rest
    simp only [MatchesAll, Matches, List.length_append]
    constructor
    · rintro ⟨middle, ⟨starts, rfl⟩, behind⟩
      rw [append_prefix_drop_iff] at starts
      exact ⟨_, ⟨starts.1, rfl⟩, _, ⟨starts.2, Nat.add_assoc _ _ _⟩, behind⟩
    · rintro ⟨_, ⟨startsBefore, rfl⟩, middle, ⟨startsBehind, rfl⟩, behind⟩
      exact ⟨_, ⟨append_prefix_drop_iff.2 ⟨startsBefore, startsBehind⟩, (Nat.add_assoc _ _ _).symm⟩,
        behind⟩
  · rfl

theorem matches_sequence
    (patterns : List Pattern) :
    Matches text (sequence patterns) first last ↔ MatchesAll text patterns first last := by
  have prepended (found : List Pattern) : ∀ first,
      MatchesAll text (found.foldr prepend []) first last ↔ MatchesAll text found first last := by
    induction found with
    | nil => exact fun first => Iff.rfl
    | cons pattern found inductionHypothesis =>
        intro first
        rw [List.foldr_cons, matchesAll_prepend]
        simp only [MatchesAll, inductionHypothesis]
  rw [← matchesAll_flatMap_parts, ← prepended, sequence]
  split
  · rename_i noParts
    rw [noParts]
    rfl
  · rename_i only onePart
    rw [onePart, matchesAll_singleton]
  · rfl

/-! ## Marks for the start and the end -/

theorem matches_anchored
    {pattern : Pattern}
    (within : first ≤ text.length) :
    Matches text pattern.anchored first last ↔
      first = 0 ∧ last = text.length ∧ Matches text pattern 0 text.length := by
  have atStart : (Assertion.textStart.between (charBefore text first) text[first]? = true) ↔
      first = 0 := by
    cases first with
    | zero => simp [Assertion.between, charBefore]
    | succ before =>
        simp only [Assertion.between, charBefore, Option.isNone_iff_eq_none,
          List.getElem?_eq_none_iff]
        omega
  have atEnd (last : Nat) : (Assertion.textEnd.between (charBefore text last) text[last]? = true) ↔
      text.length ≤ last := by
    simp [Assertion.between]
  rw [anchored, matches_sequence]
  simp only [MatchesAll, Matches, atStart, atEnd]
  constructor
  · rintro ⟨_, ⟨rfl, rfl⟩, middle, isMatch, _, ⟨behind, rfl⟩, rfl⟩
    have inside := (progresses_matches pattern 0 middle isMatch within).2
    obtain rfl := Nat.le_antisymm inside behind
    exact ⟨rfl, rfl, isMatch⟩
  · rintro ⟨rfl, rfl, isMatch⟩
    exact ⟨0, ⟨rfl, rfl⟩, _, isMatch, _, ⟨Nat.le_refl _, rfl⟩, rfl⟩

/-- A pattern between marks is found in a text if it matches the whole of the text. -/
theorem occursIn_anchored
    (pattern : Pattern)
    (text : String) :
    pattern.anchored.occursIn text = true ↔
      pattern.Matches text.toList 0 text.toList.length := by
  rw [occursIn_iff]
  constructor
  · rintro ⟨first, last, within, isMatch⟩
    exact ((matches_anchored within).1 isMatch).2.2
  · intro isMatch
    exact ⟨0, _, Nat.zero_le _, (matches_anchored (Nat.zero_le _)).2 ⟨rfl, rfl, isMatch⟩⟩

/-! ## Texts between marks -/

theorem ofText?_eq_some
    {text : String}
    {found : Pattern} :
    ofText? text = some found ↔
      ∃ inner flags, Notation.ofText? text = some inner ∧ inner.pattern? {} = some (found, flags) ∧
        found.isTooLarge = false := by
  rw [ofText?]
  constructor
  · intro accepted
    split at accepted
    · rename_i pattern flags means
      rcases Option.bind_eq_some_iff.1 means with ⟨inner, read, means⟩
      split at accepted
      · cases accepted
      · rename_i small
        cases accepted
        exact ⟨inner, flags, read, means, Bool.eq_false_iff.2 small⟩
    · cases accepted
  · rintro ⟨inner, flags, read, means, small⟩
    simp [read, means, small]

/-- A text that is read by itself does not close the group between the marks. -/
theorem not_closesGroup_of_ofText?
    {pattern : String}
    {inner : Notation}
    (read : Notation.ofText? pattern = some inner) :
    ¬ClosesGroup pattern := by
  intro closes
  rw [ofText?_of_closesGroup closes] at read
  cases read

/-- A text that does not close the group between the marks is accepted there if it is read by
itself, does not end in a comment, and the marks leave it within the limits. -/
theorem ofText?_anchored_eq_some
    {pattern : String}
    {whole : Pattern}
    (inside : ¬ClosesGroup pattern) :
    ofText? (Selector.anchored pattern) = some whole ↔
      ¬LeavesCommentOpen pattern ∧
        ∃ inner found flags, Notation.ofText? pattern = some inner ∧
          inner.pattern? {} = some (found, flags) ∧
          (inner.depth + 2 ≤ Notation.depthLimit ∧ found.anchored.isTooLarge = false) ∧
          whole = found.anchored := by
  rw [ofText?_eq_some]
  constructor
  · rintro ⟨outer, _, readOuter, meansOuter, small⟩
    rcases ofText?_of_anchored readOuter inside with ⟨inner, read, closed, fits, rfl⟩
    rw [pattern?_anchored] at meansOuter
    rcases Option.map_eq_some_iff.1 meansOuter with ⟨⟨found, flags⟩, means, same⟩
    cases same
    exact ⟨closed, inner, found, flags, read, means, ⟨fits, small⟩, rfl⟩
  · rintro ⟨closed, inner, found, flags, read, means, ⟨fits, small⟩, rfl⟩
    refine ⟨inner.anchored, {}, ofText?_anchored_of_ofText? read closed fits, ?_, small⟩
    rw [pattern?_anchored, means]
    rfl

end Manifest.Pattern
