import Manifest.Proofs.Pattern.Positions
import Mathlib.Data.List.Forall2

/-!
# What patterns match

The meaning of a pattern is a relation between the positions of a text: a pattern leads
from a position to the positions behind the stretches that it matches there.  The
relation is defined along the pattern and says nothing about how matches are found.

Matching with sets of positions decides this relation.  The bounded number of rounds
that it gives to a repetition suffices: rounds never lead back, so among more rounds
than the text has positions one stays where it is, and such a round can be left out or
done once more.
-/

namespace Manifest.Pattern

variable {text : List Char}

/-- A step that is done a number of times. -/
def Rounds (step : Nat → Nat → Prop) : Nat → Nat → Nat → Prop
  | 0, first, last => first = last
  | count + 1, first, last => ∃ middle, step first middle ∧ Rounds step count middle last

theorem rounds_add
    {step : Nat → Nat → Prop}
    (count : Nat)
    {more first last : Nat} :
    Rounds step (count + more) first last ↔
      ∃ middle, Rounds step count first middle ∧ Rounds step more middle last := by
  induction count generalizing first with
  | zero => simp [Rounds]
  | succ count inductionHypothesis =>
      rw [Nat.succ_add]
      simp only [Rounds, inductionHypothesis]
      constructor
      · rintro ⟨between, leads, middle, others, behind⟩
        exact ⟨middle, ⟨between, leads, others⟩, behind⟩
      · rintro ⟨middle, ⟨between, leads, others⟩, behind⟩
        exact ⟨between, leads, middle, others, behind⟩

/-- The character before a position. -/
def charBefore (text : List Char) : Nat → Option Char
  | 0 => none
  | position + 1 => text[position]?

mutual

/-- From the first position of a text to the last one there is a stretch that a pattern matches. -/
def Matches (text : List Char) : Pattern → Nat → Nat → Prop
  | empty, first, last => first = last
  | literal chars, first, last => chars <+: text.drop first ∧ first + chars.length = last
  | one set, first, last =>
      (∃ char, text[first]? = some char ∧ set.has char = true) ∧ first + 1 = last
  | assertion condition, first, last =>
      condition.between (charBefore text first) text[first]? = true ∧ first = last
  | repeated inner least most _, first, last =>
      ∃ further, (∀ bound, most = some bound → further ≤ bound - least) ∧
        Rounds (Matches text inner) (least + further) first last
  | capture _ inner, first, last => Matches text inner first last
  | concat parts, first, last => MatchesAll text parts first last
  | alternate branches, first, last => MatchesAny text branches first last

/-- Some patterns match stretches that follow each other. -/
def MatchesAll (text : List Char) : List Pattern → Nat → Nat → Prop
  | [], first, last => first = last
  | part :: parts, first, last =>
      ∃ middle, Matches text part first middle ∧ MatchesAll text parts middle last

/-- One of some patterns matches the stretch. -/
def MatchesAny (text : List Char) : List Pattern → Nat → Nat → Prop
  | [], _, _ => False
  | branch :: branches, first, last =>
      Matches text branch first last ∨ MatchesAny text branches first last

end

/-! ## Matches lie in the text -/

/-- A step that leads to no position before it and to none behind the text. -/
def Progresses (text : List Char) (step : Nat → Nat → Prop) : Prop :=
  ∀ first last, step first last → first ≤ text.length → first ≤ last ∧ last ≤ text.length

theorem Progresses.rounds
    {step : Nat → Nat → Prop}
    (progresses : Progresses text step)
    (count : Nat) :
    Progresses text (Rounds step count) := by
  induction count with
  | zero =>
      rintro first last rfl within
      exact ⟨Nat.le_refl first, within⟩
  | succ count inductionHypothesis =>
      rintro first last ⟨middle, stepFirst, others⟩ within
      rcases progresses first middle stepFirst within with ⟨forth, withinMiddle⟩
      rcases inductionHypothesis middle last others withinMiddle with ⟨further, withinLast⟩
      exact ⟨Nat.le_trans forth further, withinLast⟩

mutual

theorem progresses_matches :
    ∀ pattern : Pattern, Progresses text (Matches text pattern)
  | empty => by
      rintro first last rfl within
      exact ⟨Nat.le_refl first, within⟩
  | literal chars => by
      rintro first last ⟨starts, rfl⟩ within
      have short := starts.length_le
      rw [List.length_drop] at short
      omega
  | one set => by
      rintro first last ⟨⟨char, found, _⟩, rfl⟩ _
      have inside := (List.getElem?_eq_some_iff.1 found).1
      omega
  | assertion condition => by
      rintro first last ⟨_, rfl⟩ within
      exact ⟨Nat.le_refl first, within⟩
  | repeated inner least most isGreedy => by
      rintro first last ⟨further, _, rounds⟩ within
      exact (progresses_matches inner).rounds _ first last rounds within
  | capture index inner => progresses_matches inner
  | concat parts => progresses_matchesAll parts
  | alternate branches => progresses_matchesAny branches

theorem progresses_matchesAll :
    ∀ parts : List Pattern, Progresses text (MatchesAll text parts)
  | [] => by
      rintro first last rfl within
      exact ⟨Nat.le_refl first, within⟩
  | part :: parts => by
      rintro first last ⟨middle, matchesPart, others⟩ within
      rcases progresses_matches part first middle matchesPart within with ⟨forth, withinMiddle⟩
      rcases progresses_matchesAll parts middle last others withinMiddle with ⟨further, withinLast⟩
      exact ⟨Nat.le_trans forth further, withinLast⟩

theorem progresses_matchesAny :
    ∀ branches : List Pattern, Progresses text (MatchesAny text branches)
  | [] => fun _ _ impossible => impossible.elim
  | branch :: branches => by
      rintro first last (matchesBranch | others) within
      · exact progresses_matches branch first last matchesBranch within
      · exact progresses_matchesAny branches first last others within

end

/-! ## How many rounds suffice -/

section Bound

variable {step : Nat → Nat → Prop} (progresses : Progresses text step)

include progresses

/-- Rounds that are more than the positions ahead can be one less. -/
theorem Progresses.cut
    {count first last : Nat}
    (within : first ≤ text.length)
    (many : text.length < first + count)
    (rounds : Rounds step (count + 1) first last) :
    Rounds step count first last := by
  induction count generalizing first with
  | zero => omega
  | succ count inductionHypothesis =>
      rcases rounds with ⟨middle, stepFirst, others⟩
      rcases progresses first middle stepFirst within with ⟨forth, withinMiddle⟩
      rcases Nat.eq_or_lt_of_le forth with rfl | forth
      · exact others
      · exact ⟨middle, stepFirst, inductionHypothesis withinMiddle (by omega) others⟩

/-- Rounds that are more than the positions ahead can be one more. -/
theorem Progresses.prolong
    {count first last : Nat}
    (within : first ≤ text.length)
    (many : text.length < first + count)
    (rounds : Rounds step count first last) :
    Rounds step (count + 1) first last := by
  induction count generalizing first with
  | zero => omega
  | succ count inductionHypothesis =>
      rcases rounds with ⟨middle, stepFirst, others⟩
      rcases progresses first middle stepFirst within with ⟨forth, withinMiddle⟩
      rcases Nat.eq_or_lt_of_le forth with rfl | forth
      · exact ⟨first, stepFirst, first, stepFirst, others⟩
      · exact ⟨middle, stepFirst, inductionHypothesis withinMiddle (by omega) others⟩

/-- As many rounds as the text has positions lead wherever more of them lead. -/
theorem Progresses.rounds_iff
    {first last : Nat}
    (within : first ≤ text.length)
    (count : Nat) :
    Rounds step count first last ↔ Rounds step (min count (roundBound text)) first last := by
  rcases Nat.le_total count (roundBound text) with short | long
  · rw [Nat.min_eq_left short]
  · rw [Nat.min_eq_right long]
    obtain ⟨more, rfl⟩ := Nat.exists_eq_add_of_le long
    clear long
    induction more with
    | zero => rfl
    | succ more inductionHypothesis =>
        have many : text.length < first + (roundBound text + more) := by
          rw [roundBound]
          omega
        rw [← inductionHypothesis]
        exact ⟨progresses.cut within many, progresses.prolong within many⟩

end Bound

/-! ## Images of sets of positions -/

/-- A set of positions of a text. -/
def Within (text : List Char) (set : Positions) : Prop :=
  ∀ position, set.has position = true → position ≤ text.length

/-- A set of the positions that a step leads to from the members of another set. -/
def IsImage (step : Nat → Nat → Prop) (set image : Positions) : Prop :=
  ∀ last, image.has last = true ↔ ∃ first, set.has first = true ∧ step first last

theorem IsImage.within
    {step : Nat → Nat → Prop}
    {set image : Positions}
    (isImage : IsImage step set image)
    (progresses : Progresses text step)
    (within : Within text set) :
    Within text image := by
  intro last isMember
  rcases (isImage last).1 isMember with ⟨first, isFirst, leads⟩
  exact (progresses first last leads (within first isFirst)).2

/-- The image of an image. -/
theorem IsImage.trans
    {before after : Nat → Nat → Prop}
    {set middle image : Positions}
    (first : IsImage before set middle)
    (second : IsImage after middle image) :
    IsImage (fun first last => ∃ between, before first between ∧ after between last) set image := by
  intro last
  rw [second last]
  constructor
  · rintro ⟨between, isMiddle, leads⟩
    rcases (first between).1 isMiddle with ⟨start, isStart, leadsBefore⟩
    exact ⟨start, isStart, between, leadsBefore, leads⟩
  · rintro ⟨start, isStart, between, leadsBefore, leads⟩
    exact ⟨between, (first between).2 ⟨start, isStart, leadsBefore⟩, leads⟩

theorem IsImage.refl
    (set : Positions) :
    IsImage (fun first last => first = last) set set := by
  intro last
  simp

theorem IsImage.congr
    {step other : Nat → Nat → Prop}
    {set image : Positions}
    (isImage : IsImage step set image)
    (same : ∀ first last, set.has first = true → (step first last ↔ other first last)) :
    IsImage other set image := by
  intro last
  rw [isImage last]
  exact exists_congr fun first => and_congr_right fun isFirst => same first last isFirst

theorem has_standing
    {set : Text.CodeSet}
    {position : Nat} :
    (standing text set).has position = true ↔
      ∃ char, text[position]? = some char ∧ set.has char = true := by
  rw [standing, Positions.has_ofFlags, List.getElem?_map, Option.map_eq_some_iff]

theorem isImage_standing
    (set : Text.CodeSet)
    (positions : Positions) :
    IsImage (fun first last =>
        (∃ char, text[first]? = some char ∧ set.has char = true) ∧ first + 1 = last)
      positions (positions.intersection (standing text set)).next := by
  intro last
  rw [Positions.has_next]
  simp only [Positions.has_intersection, Bool.and_eq_true, has_standing]
  constructor
  · rintro ⟨first, ⟨isFirst, stands⟩, rfl⟩
    exact ⟨first, isFirst, stands, rfl⟩
  · rintro ⟨first, isFirst, stands, rfl⟩
    exact ⟨first, ⟨isFirst, stands⟩, rfl⟩

theorem has_single_iff
    {char other : Char} :
    (Text.CodeSet.single char.toNat).has other = true ↔ other = char := by
  rw [← Char.toNat_inj]
  simp only [Text.CodeSet.has, Text.CodeSet.hasCode, Text.CodeSet.single, Text.CodeSet.insideAt]
  split
  · simp only [Bool.false_eq_true, false_iff]
    omega
  · split
    · simp only [Bool.not_false, true_iff]
      omega
    · simp only [Bool.not_true, Bool.not_false, Bool.false_eq_true, false_iff]
      omega

theorem cons_prefix_drop_iff
    {char : Char}
    {chars : List Char}
    {first : Nat} :
    char :: chars <+: text.drop first ↔
      text[first]? = some char ∧ chars <+: text.drop (first + 1) := by
  rw [← List.drop_drop, ← List.head?_drop]
  cases text.drop first with
  | nil => simp
  | cons found others => simp [List.cons_prefix_cons, eq_comm]

theorem isImage_behindLiteral
    (chars : List Char) :
    ∀ positions,
      IsImage (fun first last => chars <+: text.drop first ∧ first + chars.length = last) positions
        (behindLiteral text positions chars) := by
  induction chars with
  | nil =>
      intro positions last
      simp [behindLiteral]
  | cons char chars inductionHypothesis =>
      intro positions
      rw [behindLiteral]
      refine ((isImage_standing (.single char.toNat) positions).trans
        (inductionHypothesis _)).congr ?_
      intro first last _
      simp only [has_single_iff, cons_prefix_drop_iff, List.length_cons]
      constructor
      · rintro ⟨between, ⟨⟨_, found, rfl⟩, rfl⟩, starts, rfl⟩
        exact ⟨⟨found, starts⟩, by omega⟩
      · rintro ⟨⟨found, starts⟩, rfl⟩
        exact ⟨first + 1, ⟨⟨char, found, rfl⟩, rfl⟩, starts, by omega⟩

theorem getElem?_flagsBetween
    (condition : Assertion)
    (text : List Char) :
    ∀ before position,
      (flagsBetween condition before text)[position]? =
        if position ≤ text.length then
          some (condition.between (if position = 0 then before else charBefore text position)
            text[position]?)
        else none := by
  induction text with
  | nil =>
      intro before position
      cases position <;> simp [flagsBetween]
  | cons char rest inductionHypothesis =>
      intro before position
      cases position with
      | zero => simp [flagsBetween]
      | succ position =>
          rw [flagsBetween, List.getElem?_cons_succ, inductionHypothesis]
          cases position <;> simp [charBefore]

theorem has_holding
    {condition : Assertion}
    {position : Nat} :
    (holding text condition).has position = true ↔
      position ≤ text.length ∧
        condition.between (charBefore text position) text[position]? = true := by
  have before : (if position = 0 then none else charBefore text position) =
      charBefore text position := by
    cases position <;> rfl
  rw [holding, Positions.has_ofFlags, getElem?_flagsBetween, before]
  split <;> simp [*]

/-! ## Rounds of images -/

section Steps

variable {step : Nat → Nat → Prop} {steps : List Positions}

/-- The images of the sets of one position each. -/
def AreSteps (text : List Char) (step : Nat → Nat → Prop) (steps : List Positions) : Prop :=
  List.Forall₂ (IsImage step) (origins text) steps

theorem isImage_select
    (areSteps : AreSteps text step steps)
    {positions : Positions}
    (within : Within text positions) :
    IsImage step positions (positions.select steps) := by
  have lengths : steps.length = text.length + 1 := by
    rw [← areSteps.length_eq, origins, List.length_map, List.length_range]
  have has_steps {first : Nat} {image : Positions} (found : steps[first]? = some image)
      (last : Nat) :
      image.has last = true ↔ step first last := by
    rcases List.getElem?_eq_some_iff.1 found with ⟨inside, rfl⟩
    have inOrigins : first < (origins text).length := areSteps.length_eq ▸ inside
    have isImage := (List.forall₂_iff_get.1 areSteps).2 first inOrigins inside
    have origin : (origins text).get ⟨first, inOrigins⟩ = Positions.single first := by
      simp [origins]
    rw [origin] at isImage
    exact (isImage last).trans (by simp)
  intro last
  rw [Positions.has_select]
  constructor
  · rintro ⟨first, image, isFirst, found, isLast⟩
    exact ⟨first, isFirst, (has_steps found last).1 isLast⟩
  · rintro ⟨first, isFirst, leads⟩
    have inside : first < steps.length := by
      have := within first isFirst
      omega
    exact ⟨first, steps[first], isFirst, List.getElem?_eq_getElem inside,
      (has_steps (List.getElem?_eq_getElem inside) last).2 leads⟩

variable (areSteps : AreSteps text step steps) (progresses : Progresses text step)

include areSteps progresses

theorem isImage_walk
    (count : Nat) :
    ∀ positions, Within text positions →
      IsImage (Rounds step count) positions (walk steps count positions) := by
  induction count with
  | zero =>
      intro positions _ last
      simp [walk, Rounds]
  | succ count inductionHypothesis =>
      intro positions within
      rw [walk]
      split
      · rename_i noPositions
        intro last
        simp [noPositions]
      · have isImage := isImage_select areSteps within
        exact isImage.trans (inductionHypothesis _ (isImage.within progresses within))

omit areSteps progresses in
/-- Positions that lead to none but themselves hold all that rounds lead to. -/
theorem rounds_inside
    {reached : Positions}
    (closed : ∀ first last, reached.has first = true → step first last → reached.has last = true)
    (count : Nat) :
    ∀ first last, reached.has first = true → Rounds step count first last →
      reached.has last = true := by
  induction count with
  | zero =>
      rintro first last isFirst rfl
      exact isFirst
  | succ count inductionHypothesis =>
      rintro first last isFirst ⟨middle, leads, others⟩
      exact inductionHypothesis middle last (closed first middle isFirst leads) others

omit areSteps progresses in
/-- Positions that have been reached, of which all but the recent ones lead to nothing new. -/
structure Frontier (text : List Char) (step : Nat → Nat → Prop) (reached recent : Positions) :
    Prop where
  within : Within text reached
  areReached : ∀ position, recent.has position = true → reached.has position = true
  leadsOn : ∀ first last, reached.has first = true → step first last →
    recent.has first = true ∨ reached.has last = true

/-- The positions that are reached from the recent ones for the first time. -/
def further (steps : List Positions) (reached recent : Positions) : Positions :=
  (recent.select steps).difference reached

omit progresses in
theorem has_further
    {reached recent : Positions}
    (frontier : Frontier text step reached recent)
    (position : Nat) :
    (further steps reached recent).has position = true ↔
      (∃ first, recent.has first = true ∧ step first position) ∧ reached.has position = false := by
  have isImage := isImage_select areSteps fun position isRecent =>
    frontier.within position (frontier.areReached position isRecent)
  rw [further, Positions.has_difference, Bool.and_eq_true, isImage position, Bool.not_eq_true']

omit progresses in
theorem has_union_further
    {reached recent : Positions}
    (frontier : Frontier text step reached recent)
    (position : Nat) :
    (reached.union (further steps reached recent)).has position = true ↔
      reached.has position = true ∨ ∃ first, recent.has first = true ∧ step first position := by
  rw [Positions.has_union, Bool.or_eq_true, has_further areSteps frontier]
  cases reached.has position <;> simp

theorem Frontier.next
    {reached recent : Positions}
    (frontier : Frontier text step reached recent) :
    Frontier text step (reached.union (further steps reached recent))
      (further steps reached recent) where
  within := by
    intro position isMember
    rcases (has_union_further areSteps frontier position).1 isMember with
      isReached | ⟨first, isRecent, leads⟩
    · exact frontier.within position isReached
    · exact (progresses first position leads
        (frontier.within first (frontier.areReached first isRecent))).2
  areReached := by
    intro position isFurther
    rw [Positions.has_union, isFurther, Bool.or_true]
  leadsOn := by
    intro first last isMember leads
    cases isReached : reached.has first with
    | false =>
        rcases (has_union_further areSteps frontier first).1 isMember with isReached' | fromRecent
        · rw [isReached] at isReached'
          cases isReached'
        · exact Or.inl ((has_further areSteps frontier first).2 ⟨fromRecent, isReached⟩)
    | true =>
        refine Or.inr ((has_union_further areSteps frontier last).2 ?_)
        rcases frontier.leadsOn first last isReached leads with isRecent | isReachedLast
        · exact Or.inr ⟨first, isRecent, leads⟩
        · exact Or.inl isReachedLast

/-- Spreading reaches what some rounds lead to. -/
theorem has_spread
    (count : Nat) :
    ∀ reached recent, Frontier text step reached recent →
      ∀ last, (spread steps count reached recent).has last = true ↔
        ∃ rounds ≤ count, ∃ first, reached.has first = true ∧ Rounds step rounds first last := by
  induction count with
  | zero =>
      intro reached recent _ last
      rw [spread]
      constructor
      · exact fun isLast => ⟨0, Nat.le_refl 0, last, isLast, rfl⟩
      · rintro ⟨rounds, atMost, first, isFirst, leads⟩
        obtain rfl := Nat.le_zero.1 atMost
        exact leads ▸ isFirst
  | succ count inductionHypothesis =>
      intro reached recent frontier last
      rw [spread]
      split
      · rename_i noRecent
        have closed (first last : Nat) (isFirst : reached.has first = true)
            (leads : step first last) : reached.has last = true :=
          (frontier.leadsOn first last isFirst leads).resolve_left (by simp [noRecent])
        constructor
        · exact fun isLast => ⟨0, Nat.zero_le _, last, isLast, rfl⟩
        · rintro ⟨rounds, _, first, isFirst, leads⟩
          exact rounds_inside closed rounds first last isFirst leads
      · change (spread steps count (reached.union (further steps reached recent))
          (further steps reached recent)).has last = true ↔ _
        rw [inductionHypothesis _ _ (frontier.next areSteps progresses)]
        have has_both := has_union_further areSteps frontier
        constructor
        · rintro ⟨rounds, atMost, first, isMember, leads⟩
          rcases (has_both first).1 isMember with isReached | ⟨start, isRecent, leadsFirst⟩
          · exact ⟨rounds, Nat.le_succ_of_le atMost, first, isReached, leads⟩
          · exact ⟨rounds + 1, Nat.succ_le_succ atMost, start, frontier.areReached start isRecent,
              first, leadsFirst, leads⟩
        · rintro ⟨rounds, atMost, first, isReached, leads⟩
          cases rounds with
          | zero => exact ⟨0, Nat.zero_le _, first, (has_both first).2 (Or.inl isReached), leads⟩
          | succ rounds =>
              rcases leads with ⟨middle, leadsFirst, others⟩
              refine ⟨rounds, Nat.le_of_succ_le_succ atMost, middle, (has_both middle).2 ?_, others⟩
              rcases frontier.leadsOn first middle isReached leadsFirst with isRecent | isReached
              · exact Or.inr ⟨first, isRecent, leadsFirst⟩
              · exact Or.inl isReached

/-- What a repetition leads to. -/
theorem isImage_repeatedly
    (least : Nat)
    (most : Option Nat)
    {positions : Positions}
    (within : Within text positions) :
    IsImage
      (fun first last => ∃ further, (∀ bound, most = some bound → further ≤ bound - least) ∧
        Rounds step (least + further) first last)
      positions (repeatedly text steps least most positions) := by
  have started := isImage_walk areSteps progresses (min least (roundBound text)) positions within
  have frontier : Frontier text step (walk steps (min least (roundBound text)) positions)
      (walk steps (min least (roundBound text)) positions) :=
    ⟨started.within (progresses.rounds _) within, fun _ => id, fun _ _ isFirst _ => Or.inl isFirst⟩
  have sameRounds {first last count other : Nat} (isFirst : positions.has first = true)
      (same : min count (roundBound text) = min other (roundBound text))
      (rounds : Rounds step count first last) : Rounds step other first last := by
    rw [progresses.rounds_iff (within first isFirst), same] at rounds
    exact (progresses.rounds_iff (within first isFirst) other).2 rounds
  intro last
  rw [repeatedly, has_spread areSteps progresses _ _ _ frontier]
  constructor
  · rintro ⟨rounds, atMost, middle, isStart, leads⟩
    rcases (started middle).1 isStart with ⟨first, isFirst, leadsFirst⟩
    have together : Rounds step (min least (roundBound text) + rounds) first last :=
      (rounds_add _).2 ⟨middle, leadsFirst, leads⟩
    refine ⟨first, isFirst, rounds, ?_, sameRounds isFirst (by omega) together⟩
    rintro bound rfl
    exact Nat.le_trans atMost (Nat.min_le_left _ _)
  · rintro ⟨first, isFirst, further, atMost, leads⟩
    have together : Rounds step (min least (roundBound text) + min further (roundBound text))
        first last :=
      sameRounds isFirst (by omega) leads
    rcases (rounds_add _).1 together with ⟨middle, leadsFirst, leadsOn⟩
    refine ⟨min further (roundBound text), ?_, middle,
      (started middle).2 ⟨first, isFirst, leadsFirst⟩, leadsOn⟩
    cases most with
    | none => exact Nat.min_le_right _ _
    | some bound =>
        have := atMost bound rfl
        change _ ≤ min (bound - least) (roundBound text)
        omega

end Steps

/-! ## Matching decides what patterns match -/

theorem forall₂_map
    {α β : Type}
    {relation : α → β → Prop}
    {change : α → β}
    {values : List α}
    (related : ∀ value ∈ values, relation value (change value)) :
    List.Forall₂ relation values (values.map change) := by
  rw [List.forall₂_map_right_iff, List.forall₂_same]
  exact related

theorem forall₂_trans
    {before after : Nat → Nat → Prop}
    {sets middles images : List Positions}
    (first : List.Forall₂ (IsImage before) sets middles)
    (second : List.Forall₂ (IsImage after) middles images) :
    List.Forall₂
      (IsImage fun first last => ∃ between, before first between ∧ after between last)
      sets images := by
  induction first generalizing images with
  | nil =>
      cases second
      exact .nil
  | cons isFirst _ inductionHypothesis =>
      cases second with
      | cons isSecond others => exact .cons (isFirst.trans isSecond) (inductionHypothesis others)

theorem forall₂_within
    {step : Nat → Nat → Prop}
    {sets images : List Positions}
    (progresses : Progresses text step)
    (related : List.Forall₂ (IsImage step) sets images)
    (within : ∀ set ∈ sets, Within text set) :
    ∀ image ∈ images, Within text image := by
  induction related with
  | nil => exact within
  | cons isImage _ inductionHypothesis =>
      rw [List.forall_mem_cons] at within ⊢
      exact ⟨isImage.within progresses within.1, inductionHypothesis within.2⟩

theorem forall₂_union
    {first second : Nat → Nat → Prop}
    {sets firstImages secondImages : List Positions}
    (firstRelated : List.Forall₂ (IsImage first) sets firstImages)
    (secondRelated : List.Forall₂ (IsImage second) sets secondImages) :
    List.Forall₂ (IsImage fun start last => first start last ∨ second start last) sets
      (List.zipWith Positions.union firstImages secondImages) := by
  induction firstRelated generalizing secondImages with
  | nil =>
      cases secondRelated
      exact .nil
  | cons isFirst _ inductionHypothesis =>
      cases secondRelated with
      | cons isSecond others =>
          refine .cons (fun last => ?_) (inductionHypothesis others)
          rw [Positions.has_union, Bool.or_eq_true, isFirst last, isSecond last, ← exists_or]
          exact exists_congr fun start => and_or_left.symm

theorem within_origins :
    ∀ set ∈ origins text, Within text set := by
  intro set member position isMember
  rcases List.mem_map.1 member with ⟨origin, inRange, rfl⟩
  rw [Positions.has_single, decide_eq_true_eq] at isMember
  rw [← isMember]
  exact Nat.le_of_lt_succ (List.mem_range.1 inRange)

mutual

/-- Matching with sets of positions gives the positions behind the matches. -/
theorem isImage_advance :
    ∀ (pattern : Pattern) (sets : List Positions), (∀ set ∈ sets, Within text set) →
      List.Forall₂ (IsImage (Matches text pattern)) sets (advance text pattern sets)
  | empty, sets, _ => by
      rw [advance]
      exact List.forall₂_same.2 fun set _ => .refl set
  | literal chars, sets, _ => by
      rw [advance]
      exact forall₂_map fun set _ => isImage_behindLiteral chars set
  | one set, sets, _ => by
      rw [advance]
      exact forall₂_map fun positions _ => isImage_standing set positions
  | assertion condition, sets, within => by
      rw [advance]
      refine forall₂_map fun positions member last => ?_
      rw [Positions.has_intersection, Bool.and_eq_true, has_holding]
      constructor
      · rintro ⟨isMember, _, holds⟩
        exact ⟨last, isMember, holds, rfl⟩
      · rintro ⟨first, isMember, holds, rfl⟩
        exact ⟨isMember, within positions member first isMember, holds⟩
  | repeated inner least most isGreedy, sets, within => by
      rw [advance]
      exact forall₂_map fun positions member =>
        isImage_repeatedly (isImage_advance inner (origins text) within_origins)
          (progresses_matches inner) least most (within positions member)
  | capture index inner, sets, within => by
      rw [advance]
      exact isImage_advance inner sets within
  | concat parts, sets, within => by
      rw [advance]
      exact isImage_advanceAll parts sets within
  | alternate branches, sets, within => by
      rw [advance]
      exact isImage_advanceAny branches sets within

theorem isImage_advanceAll :
    ∀ (parts : List Pattern) (sets : List Positions), (∀ set ∈ sets, Within text set) →
      List.Forall₂ (IsImage (MatchesAll text parts)) sets (advanceAll text parts sets)
  | [], sets, _ => by
      rw [advanceAll]
      exact List.forall₂_same.2 fun set _ => .refl set
  | part :: parts, sets, within => by
      rw [advanceAll]
      have first := isImage_advance part sets within
      exact forall₂_trans first
        (isImage_advanceAll parts _ (forall₂_within (progresses_matches part) first within))

theorem isImage_advanceAny :
    ∀ (branches : List Pattern) (sets : List Positions), (∀ set ∈ sets, Within text set) →
      List.Forall₂ (IsImage (MatchesAny text branches)) sets (advanceAny text branches sets)
  | [], sets, _ => by
      rw [advanceAny]
      refine forall₂_map fun set _ last => ?_
      simp [MatchesAny]
  | branch :: branches, sets, within => by
      rw [advanceAny]
      exact forall₂_union (isImage_advance branch sets within)
        (isImage_advanceAny branches sets within)

end

theorem isImage_ends
    (pattern : Pattern)
    {positions : Positions}
    (within : Within text positions) :
    IsImage (Matches text pattern) positions (pattern.ends text positions) := by
  have single : ∀ set ∈ [positions], Within text set :=
    List.forall_mem_singleton.2 within
  have related := isImage_advance pattern [positions] single
  intro last
  rw [ends]
  cases images : pattern.advance text [positions] with
  | nil =>
      rw [images] at related
      cases related
  | cons image others =>
      rw [images] at related
      cases related with
      | cons isImage rest =>
          cases rest
          simp [isImage last]

theorem has_everywhere
    {count position : Nat} :
    (Positions.ofFlags (List.replicate count true)).has position = true ↔ position < count := by
  rw [Positions.has_ofFlags, List.getElem?_replicate]
  simp

/-- A pattern is found in a text if it matches a stretch of it. -/
theorem occursIn_iff
    (pattern : Pattern)
    (text : String) :
    pattern.occursIn text = true ↔
      ∃ first last, first ≤ text.toList.length ∧ pattern.Matches text.toList first last := by
  have within :
      Within text.toList (.ofFlags (List.replicate (text.toList.length + 1) true)) :=
    fun position isMember => Nat.le_of_lt_succ (has_everywhere.1 isMember)
  have isImage := isImage_ends pattern within
  rw [occursIn, bne_iff_ne, Ne, Positions.eq_none_iff, not_forall]
  constructor
  · rintro ⟨last, isLast⟩
    rw [Bool.not_eq_false] at isLast
    rcases (isImage last).1 isLast with ⟨first, isFirst, isMatch⟩
    exact ⟨first, last, Nat.le_of_lt_succ (has_everywhere.1 isFirst), isMatch⟩
  · rintro ⟨first, last, within, isMatch⟩
    refine ⟨last, ?_⟩
    rw [Bool.not_eq_false]
    exact (isImage last).2 ⟨first, has_everywhere.2 (Nat.lt_succ_of_le within), isMatch⟩

/-- A pattern matches the whole of a text if it leads from its start to its end. -/
theorem matchesWhole_iff
    (pattern : Pattern)
    (text : String) :
    pattern.matchesWhole text = true ↔ pattern.Matches text.toList 0 text.toList.length := by
  have within : Within text.toList (.single 0) := by
    intro position isMember
    rw [Positions.has_single, decide_eq_true_eq] at isMember
    exact isMember ▸ Nat.zero_le _
  exact (isImage_ends pattern within _).trans (by simp)

end Manifest.Pattern
