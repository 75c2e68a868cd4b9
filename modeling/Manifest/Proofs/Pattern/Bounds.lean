import Manifest.Proofs.Pattern.FramedGroups

/-!
# Reading does not depend on the bounds

What is read with some bounds on the characters and on the levels is read with any other bounds
that are large enough for the text and for what is read.
-/

namespace Manifest.Pattern

namespace Notation

theorem depthOf_append
    (first second : List Notation) :
    depthOf (first ++ second) = max (depthOf first) (depthOf second) := by
  induction first with
  | nil => simp [depthOf]
  | cons part rest inductionHypothesis =>
      rw [List.cons_append, depthOf, depthOf, inductionHypothesis, Nat.max_assoc]

theorem depthOf_reverse
    (parts : List Notation) :
    depthOf parts.reverse = depthOf parts := by
  induction parts with
  | nil => rfl
  | cons part rest inductionHypothesis =>
      rw [List.reverse_cons, depthOf_append, inductionHypothesis, depthOf, depthOf, depthOf,
        Nat.max_zero, Nat.max_comm]

theorem depthOf_le_depth_ofParts
    (parts : List Notation) :
    depthOf parts ≤ (ofParts parts).depth := by
  match parts with
  | [] => exact Nat.le_refl 0
  | [only] => exact Nat.le_of_eq (Nat.max_zero only.depth)
  | _ :: _ :: _ => exact Nat.le_succ _

theorem depthOf_le_depth_ofBranches
    (branches : List Notation) :
    depthOf branches ≤ (ofBranches branches).depth := by
  match branches with
  | [] => exact Nat.le_succ _
  | [only] => exact Nat.le_of_eq (Nat.max_zero only.depth)
  | _ :: _ :: _ => exact Nat.le_succ _

theorem depthOf_le_cons
    (part : Notation)
    (parts : List Notation) :
    depthOf parts ≤ depthOf (part :: parts) :=
  Nat.le_max_right part.depth _

end Notation

namespace Read

variable {α β : Type} {least limit : Nat} {allowed : α → Prop}

/-- On texts of at least `least` and less than `limit` characters the second reader does what the
first one does, if that gives an allowed value. -/
def Repeats (least limit : Nat) (allowed : α → Prop) (first second : Read α) : Prop :=
  ∀ state value final, least ≤ state.rest.length → state.rest.length < limit →
    first.run state = some (value, final) → allowed value →
    second.run state = some (value, final)

/-- What is read satisfies a condition. -/
def Yields (reader : Read α) (condition : α → Prop) : Prop :=
  ∀ state value final, reader.run state = some (value, final) → condition value

namespace Yields

theorem of_forall
    {reader : Read α}
    {condition : α → Prop}
    (holds : ∀ value, condition value) :
    Yields reader condition :=
  fun _ value _ _ => holds value

theorem pure
    {condition : α → Prop}
    {value : α}
    (holds : condition value) :
    Yields (Pure.pure value) condition := by
  intro state found final run
  cases run
  exact holds

theorem failure
    {condition : α → Prop} :
    Yields (Alternative.failure : Read α) condition := by
  intro state found final run
  cases run

theorem bind
    {reader : Read α}
    {continuation : α → Read β}
    {first : α → Prop}
    {second : β → Prop}
    (yields : Yields reader first)
    (goesOn : ∀ value, first value → Yields (continuation value) second) :
    Yields (reader >>= continuation) second := by
  intro state value final run
  rcases run_bind_eq_some.1 run with ⟨found, middle, runFirst, runSecond⟩
  exact goesOn found (yields state found middle runFirst) middle value final runSecond

/-- What the second step makes of anything. -/
theorem bind_right
    {reader : Read α}
    {continuation : α → Read β}
    {condition : β → Prop}
    (yields : ∀ value, Yields (continuation value) condition) :
    Yields (reader >>= continuation) condition := by
  have anything : Yields reader fun _ => True := of_forall fun _ => trivial
  exact anything.bind fun value _ => yields value

end Yields

namespace Repeats

theorem refl
    (reader : Read α) :
    Repeats least limit allowed reader reader :=
  fun _ _ _ _ _ run _ => run

/-- Two steps after each other, if what the second step allows is allowed for the first one. -/
theorem bind
    {count limitAfter : Nat}
    {allowedAfter : β → Prop}
    {first second : Read α}
    {firstRest secondRest : α → Read β}
    (repeats : Repeats least limit allowed first second)
    (takes : Takes least count first)
    (limitLe : limit ≤ limitAfter + count)
    (goesOn : ∀ value, Repeats 0 limitAfter allowedAfter (firstRest value) (secondRest value))
    (yields : ∀ value, Yields (firstRest value) fun found => allowedAfter found → allowed value) :
    Repeats least limit allowedAfter (first >>= firstRest) (second >>= secondRest) := by
  intro state value final enough short run isAllowed
  rcases run_bind_eq_some.1 run with ⟨found, middle, runFirst, runRest⟩
  have shortAfter : middle.rest.length < limitAfter := by
    have := takes.length_add_le enough runFirst
    omega
  exact run_bind_eq_some.2 ⟨found, middle,
    repeats state found middle enough short runFirst
      (yields found middle value final runRest isAllowed),
    goesOn found middle value final (Nat.zero_le _) shortAfter runRest isAllowed⟩

/-- The same first step. -/
theorem bind_left
    {count limitAfter : Nat}
    {allowedAfter : β → Prop}
    {reader : Read α}
    {firstRest secondRest : α → Read β}
    (takes : Takes least count reader)
    (limitLe : limit ≤ limitAfter + count)
    (goesOn : ∀ value, Repeats 0 limitAfter allowedAfter (firstRest value) (secondRest value)) :
    Repeats least limit allowedAfter (reader >>= firstRest) (reader >>= secondRest) := by
  have same : Repeats least limit (fun _ => True) reader reader := refl reader
  exact same.bind takes limitLe goesOn fun _ => .of_forall fun _ _ => trivial

/-- The same second step. -/
theorem bind_right
    {allowedAfter : β → Prop}
    {first second : Read α}
    (repeats : Repeats least limit allowed first second)
    (rest : α → Read β)
    (yields : ∀ value, Yields (rest value) fun found => allowedAfter found → allowed value) :
    Repeats least limit allowedAfter (first >>= rest) (second >>= rest) := by
  intro state value final enough short run isAllowed
  rcases run_bind_eq_some.1 run with ⟨found, middle, runFirst, runRest⟩
  exact run_bind_eq_some.2 ⟨found, middle, repeats state found middle enough short runFirst
    (yields found middle value final runRest isAllowed), runRest⟩

theorem get_bind
    {allowedAfter : β → Prop}
    {firstRest secondRest : ReadState → Read β}
    (repeats : ∀ state, Repeats least limit allowedAfter (firstRest state) (secondRest state)) :
    Repeats least limit allowedAfter (get >>= firstRest) (get >>= secondRest) :=
  fun state value final enough short run isAllowed =>
    repeats state state value final enough short run isAllowed

end Repeats

/-! ## Brackets -/

/-- Reading of something that may be missing takes characters where it is not missing. -/
def Shortens (reader : Read (Option α)) : Prop :=
  ∀ state value final, reader.run state = some (some value, final) →
    final.rest.length < state.rest.length

/-- The same first step, which takes characters where it does not read anything else. -/
theorem Repeats.bind_option
    {allowedAfter : β → Prop}
    {reader : Read (Option α)}
    {firstRest secondRest : Option α → Read β}
    (takes : Takes 0 0 reader)
    (shortens : Shortens reader)
    (onNone : Repeats 0 (limit + 1) allowedAfter (firstRest none) (secondRest none))
    (onSome : ∀ value,
      Repeats 0 limit allowedAfter (firstRest (some value)) (secondRest (some value))) :
    Repeats least (limit + 1) allowedAfter (reader >>= firstRest) (reader >>= secondRest) := by
  intro state value final _ short run isAllowed
  rcases run_bind_eq_some.1 run with ⟨found, middle, runFirst, runRest⟩
  refine run_bind_eq_some.2 ⟨found, middle, runFirst, ?_⟩
  cases found with
  | none =>
      have := takes.length_add_le (Nat.zero_le _) runFirst
      exact onNone middle value final (Nat.zero_le _) (by omega) runRest isAllowed
  | some found =>
      have := shortens state found middle runFirst
      exact onSome found middle value final (Nat.zero_le _) (by omega) runRest isAllowed

theorem length_drop_lt_of_isPrefixOf
    {word : String}
    {text : List Char}
    (positive : 0 < word.length)
    (starts : word.toList.isPrefixOf text = true) :
    (text.drop word.length).length < text.length := by
  have short := (List.isPrefixOf_iff_prefix.1 starts).length_le
  rw [String.length_toList] at short
  rw [List.length_drop]
  omega

theorem shortens_namedClass? :
    Shortens namedClass? := by
  intro state named final run
  rw [run_namedClass?] at run
  cases found : namedClassAt? state.rest with
  | none =>
      rw [found] at run
      cases run
  | some result =>
      rw [found] at run
      cases run
      rw [namedClassAt?] at found
      split at found
      · rename_i starts
        have inside : result.2 <:+ state.rest.drop "[:".length := by
          dsimp only at found
          split at found
          · exact (nameAt?_suffix found).trans (List.drop_suffix _ _)
          · exact nameAt?_suffix found
        exact Nat.lt_of_le_of_lt inside.length_le (length_drop_lt_of_isPrefixOf (by decide) starts)
      · cases found

theorem shortens_take_bind
    {word : String}
    {value : α}
    {others : Read (Option α)}
    (positive : 0 < word.length)
    (shortens : Shortens others) :
    Shortens (take word >>= fun taken => if taken then pure (some value) else others) := by
  intro state found final run
  rw [run_bind_of_eq (run_take word state)] at run
  cases starts : word.toList.isPrefixOf state.rest with
  | false =>
      rw [starts] at run
      exact shortens _ found final run
  | true =>
      rw [starts] at run
      cases run
      exact length_drop_lt_of_isPrefixOf positive starts

theorem shortens_classOperation? :
    Shortens classOperation? := by
  refine shortens_take_bind (by decide) (shortens_take_bind (by decide)
    (shortens_take_bind (by decide) ?_))
  intro state found final run
  cases run

section Brackets

variable {nested : Nat → Read ClassNotation}
  (framed : ∀ bound, Framed 0 0 (nested bound))
  (takes : ∀ bound, Takes 0 1 (nested bound))
  (repeats : ∀ first second,
    Repeats 0 (second + 1) (fun _ => True) (nested first) (nested second))

include takes repeats

theorem repeats_classStep
    {first second : Nat}
    (repeatsBody : ∀ items left, Repeats 0 second (fun _ => True)
      (classBody nested first items left) (classBody nested second items left))
    (items : List ClassNotation)
    (left : Option (ClassOperation × ClassNotation))
    (char : Char) :
    Repeats 1 (second + 1) (fun _ => True) (classStep nested first items left char)
      (classStep nested second items left char) := by
  unfold classStep
  split
  · refine .bind_option (framed_namedClass?.takes_zero 0) shortens_namedClass? ?_
      fun named => repeatsBody _ left
    exact (repeats first second).bind (takes first) (Nat.le_refl _) (fun _ => repeatsBody _ left)
      fun _ => .of_forall fun _ _ => trivial
  · exact .refl _
  · refine .bind_option (framed_classOperation?.takes_zero 0) shortens_classOperation? ?_
      fun kind => repeatsBody [] _
    exact .bind_left takes_classRange (Nat.le_refl _) fun _ => repeatsBody _ left

theorem repeats_classBody
    (first : Nat) :
    ∀ second items left, Repeats 0 second (fun _ => True) (classBody nested first items left)
      (classBody nested second items left) := by
  induction first with
  | zero =>
      intro second items left state value final _ _ run
      cases run
  | succ first inductionHypothesis =>
      intro second items left
      cases second with
      | zero => exact fun state _ _ _ short => absurd short (Nat.not_lt_zero _)
      | succ second =>
          rw [classBody_succ, classBody_succ]
          refine .bind_left (framed_skipSpace.takes_zero 0) (Nat.le_refl _) fun _ => ?_
          intro state value final _ short run _
          cases found : state.rest with
          | nil =>
              rw [run_bind_of_none (run_peek_nil found)] at run
              cases run
          | cons char others =>
              rw [run_peek_bind found] at run ⊢
              exact repeats_classStep takes repeats (inductionHypothesis second) items left char
                state value final (by simp [found]) short run trivial

end Brackets

theorem repeats_bracketed
    (depth : Nat) :
    ∀ first second,
      Repeats 0 (second + 1) (fun _ => True) (bracketed depth first) (bracketed depth second) := by
  induction depth with
  | zero =>
      intro first second state value final _ _ run
      cases run
  | succ depth inductionHypothesis =>
      intro first second
      refine .bind_left takes_nextSpaced (Nat.le_refl _) fun _ => ?_
      refine .bind_left (framed_classStart.takes_zero 0) (Nat.le_refl _) fun start => ?_
      exact (repeats_classBody (takes_bracketed depth) inductionHypothesis first second start.2
        none).bind_right _ fun _ => .of_forall fun _ _ => trivial

/-! ## Levels -/

section Depth

open Notation

theorem yields_repeatLast
    (parts : List Notation)
    (repeats : Nat)
    (most : Option Nat)
    (isLazy : Bool) :
    Yields (repeatLast parts repeats most isLazy) fun found => depthOf parts ≤ depthOf found := by
  unfold repeatLast
  split
  · rename_i last before
    split
    · refine .pure ?_
      simp only [depthOf, depth]
      omega
    · exact .failure
  · exact .failure

/-- No part gets lost. -/
theorem yields_part
    (nested : Read Notation)
    (bound : Nat)
    (parts : List Notation)
    (char : Char) :
    Yields (part nested bound parts char) fun found => depthOf parts ≤ depthOf found := by
  have oneMore (found : Notation) :
      Yields (pure (found :: parts)) fun found => depthOf parts ≤ depthOf found :=
    .pure (depthOf_le_cons found parts)
  unfold part
  split
  · exact .bind_right fun _ => oneMore _
  · exact .bind_right fun _ => oneMore _
  · exact .bind_right fun _ => .bind_right fun _ => yields_repeatLast parts _ _ _
  · exact .bind_right fun _ => .bind_right fun _ => yields_repeatLast parts _ _ _
  · exact .bind_right fun _ => .bind_right fun _ => yields_repeatLast parts _ _ _
  · exact .bind_right fun _ => .bind_right fun _ => .bind_right fun _ => .bind_right fun _ =>
      yields_repeatLast parts _ _ _
  · exact .bind_right fun _ => .bind_right fun _ => oneMore _
  all_goals exact .bind_right fun _ => oneMore _

theorem yields_sequence
    (nested : Nat → Read Notation)
    (bound : Nat) :
    ∀ parts, Yields (sequence nested bound parts) fun found => depthOf parts ≤ depthOf found := by
  induction bound with
  | zero => exact fun parts => .failure
  | succ bound inductionHypothesis =>
      intro parts
      rw [sequence_succ]
      refine .bind_right fun _ => .bind_right fun char? => ?_
      unfold sequenceStep
      split
      · exact .pure (Nat.le_refl _)
      · split
        · exact .pure (Nat.le_refl _)
        · exact (yields_part _ _ parts _).bind fun found oneMore state others final run =>
            oneMore.trans (inductionHypothesis found state others final run)

theorem alternatives_succ
    (nested : Nat → Read Notation)
    (bound : Nat)
    (found : List Notation) :
    alternatives nested (bound + 1) found =
      sequence nested (bound + 1) [] >>= fun parts => take "|" >>= fun isMore =>
        if isMore then alternatives nested bound (ofParts parts.reverse :: found)
        else pure (ofParts parts.reverse :: found) := by
  rw [alternatives]

theorem yields_alternatives
    (nested : Nat → Read Notation)
    (bound : Nat) :
    ∀ found, Yields (alternatives nested bound found) fun others =>
      depthOf found ≤ depthOf others := by
  induction bound with
  | zero => exact fun found => .failure
  | succ bound inductionHypothesis =>
      intro found
      rw [alternatives_succ]
      refine .bind_right fun parts => .bind_right fun isMore => ?_
      split
      · exact fun state others final run =>
          (depthOf_le_cons _ found).trans (inductionHypothesis _ state others final run)
      · exact .pure (depthOf_le_cons _ found)

/-- The parts of an alternative are in all that is found. -/
theorem yields_further
    (nested : Nat → Read Notation)
    (bound : Nat)
    (parts found : List Notation) :
    Yields
      (take "|" >>= fun isMore =>
        if isMore then alternatives nested bound (ofParts parts.reverse :: found)
        else pure (ofParts parts.reverse :: found))
      fun others => depthOf parts ≤ depthOf others := by
  have inside : depthOf parts ≤ depthOf (ofParts parts.reverse :: found) := by
    have reversed := depthOf_le_depth_ofParts parts.reverse
    rw [depthOf_reverse] at reversed
    exact reversed.trans (Nat.le_max_left _ _)
  refine .bind_right fun isMore => ?_
  split
  · exact fun state others final run =>
      inside.trans (yields_alternatives nested bound _ state others final run)
  · exact .pure inside

end Depth

/-! ## Groups -/

section Groups

open Notation

variable {levels : Nat}

/-- What is inside a group has one level less. -/
theorem yields_closing
    (kind : GroupKind)
    (outer : Bool)
    (inner : Notation) :
    Yields (closing kind outer inner) fun found => found.depth ≤ levels → inner.depth < levels := by
  rw [closing_eq]
  refine .bind_right fun char => ?_
  split
  · refine .bind_right fun _ => .pure fun within => ?_
    rwa [depth] at within
  · exact .failure

theorem takes_modify
    {change : ReadState → ReadState}
    (sameText : ∀ state, (change state).rest = state.rest) :
    Takes 0 0 (modify change : Read Unit) where
  length_add_le := by
    intro state value final _ run
    cases run
    rw [sameText]
    exact Nat.le_refl _

theorem repeats_parenthesis
    {first second : Read Notation}
    (repeats : Repeats 0 limit (fun inner => inner.depth < levels) first second) :
    Repeats 1 (limit + 1) (fun found => found.depth ≤ levels) (parenthesis first)
      (parenthesis second) := by
  have inside (kind : GroupKind) (outer : Bool) :
      Repeats 0 limit (fun found => found.depth ≤ levels) (first >>= closing kind outer)
        (second >>= closing kind outer) :=
    repeats.bind_right _ (yields_closing kind outer)
  refine .bind_left (takes_drop 1) (Nat.le_refl _) fun _ => .get_bind fun state => ?_
  refine .bind_left (framed_opening.takes_zero 0) (Nat.le_refl _) fun found => ?_
  split
  · exact .refl _
  · dsimp only
    split
    · exact .bind_left (takes_modify fun _ => rfl) (Nat.le_refl _) fun _ => inside _ _
    · exact inside _ _

variable {firstNested secondNested : Nat → Read Notation}
  (framed : ∀ bound, Framed 0 0 (firstNested bound))
  (repeats : ∀ first second, Repeats 0 second (fun inner => inner.depth < levels)
    (firstNested first) (secondNested second))

include repeats

theorem repeats_part
    (first second : Nat)
    (parts : List Notation)
    (char : Char) :
    Repeats 1 (second + 1) (fun found => depthOf found ≤ levels)
      (part (firstNested first) first parts char)
      (part (secondNested second) second parts char) := by
  unfold part
  split
  · refine (repeats_parenthesis (repeats first second)).bind_right _ fun found =>
      .pure fun within => ?_
    exact (Nat.le_max_left found.depth _).trans within
  · have same : Repeats 0 (second + 1) (fun found => depthOf found ≤ levels)
        (bracketed depthLimit first >>= fun found => pure (.oneOf found :: parts))
        (bracketed depthLimit second >>= fun found => pure (.oneOf found :: parts)) :=
      (repeats_bracketed depthLimit first second).bind_right _ fun _ =>
        .of_forall fun _ _ => trivial
    exact fun state value final _ => same state value final (Nat.zero_le _)
  all_goals exact .refl _

include framed

theorem repeats_sequence
    (first : Nat) :
    ∀ second parts, Repeats 0 second (fun found => depthOf found ≤ levels)
      (sequence firstNested first parts) (sequence secondNested second parts) := by
  induction first with
  | zero =>
      intro second parts state value final _ _ run
      cases run
  | succ first inductionHypothesis =>
      intro second parts
      cases second with
      | zero => exact fun state _ _ _ short => absurd short (Nat.not_lt_zero _)
      | succ second =>
          rw [sequence_succ, sequence_succ]
          refine .bind_left (framed_skipSpace.takes_zero 0) (Nat.le_refl _) fun _ => ?_
          intro state value final _ short run within
          rw [run_peek?_bind] at run ⊢
          cases found : state.rest with
          | nil => rwa [found] at run
          | cons char others =>
              rw [found] at run
              rw [List.head?_cons, sequenceStep] at run ⊢
              split at run
              · rename_i ends
                rwa [if_pos ends]
              · rename_i ends
                rw [if_neg ends]
                refine (repeats_part repeats first second parts char).bind
                  (takes_part framed first parts char) (Nat.le_refl _)
                  (fun found => inductionHypothesis second found) (fun found => ?_)
                  state value final (by simp [found]) short run within
                exact fun state others final run within =>
                  (yields_sequence firstNested first found state others final run).trans within

omit framed repeats in
/-- Behind the sign for a further alternative there are less characters. -/
theorem repeats_further
    {first second : Nat}
    (repeats : ∀ found, Repeats 0 second (fun others => depthOf others ≤ levels)
      (alternatives firstNested first found) (alternatives secondNested second found))
    (found : List Notation) :
    Repeats 0 (second + 1) (fun others => depthOf others ≤ levels)
      (take "|" >>= fun isMore =>
        if isMore then alternatives firstNested first found else pure found)
      (take "|" >>= fun isMore =>
        if isMore then alternatives secondNested second found else pure found) := by
  intro state value final _ short run within
  rw [run_bind_of_eq (run_take "|" state)] at run ⊢
  cases starts : "|".toList.isPrefixOf state.rest with
  | false =>
      have stays : ¬false = true := Bool.false_ne_true
      rw [starts, if_neg stays, if_neg stays] at run
      rw [if_neg stays, if_neg stays]
      exact run
  | true =>
      rw [starts, if_pos rfl, if_pos rfl] at run
      rw [if_pos rfl, if_pos rfl]
      refine repeats found _ value final (Nat.zero_le _) ?_ run within
      exact Nat.lt_of_lt_of_le (length_drop_lt_of_isPrefixOf (by decide) starts)
        (Nat.le_of_lt_succ short)

theorem repeats_alternatives
    (first : Nat) :
    ∀ second found, Repeats 0 second (fun others => depthOf others ≤ levels)
      (alternatives firstNested first found) (alternatives secondNested second found) := by
  induction first with
  | zero =>
      intro second found state value final _ _ run
      cases run
  | succ first inductionHypothesis =>
      intro second found
      cases second with
      | zero => exact fun state _ _ _ short => absurd short (Nat.not_lt_zero _)
      | succ second =>
          rw [alternatives_succ, alternatives_succ]
          refine (repeats_sequence framed repeats (first + 1) (second + 1) []).bind
            (takes_sequence framed (first + 1) []) (Nat.le_refl _)
            (fun parts => repeats_further (fun found => inductionHypothesis second found) _)
            fun parts => ?_
          exact fun state others final run within =>
            (yields_further firstNested first parts found state others final run).trans within

end Groups

/-- The inside of a group is the same with all bounds that are large enough. -/
theorem repeats_groupBody
    (firstDepth : Nat) :
    ∀ secondDepth first second,
      Repeats 0 second (fun found => found.depth < secondDepth) (groupBody firstDepth first)
        (groupBody secondDepth second) := by
  induction firstDepth with
  | zero =>
      intro secondDepth first second state value final _ _ run
      cases run
  | succ firstDepth inductionHypothesis =>
      intro secondDepth first second
      cases secondDepth with
      | zero => exact fun _ _ _ _ _ _ within => absurd within (Nat.not_lt_zero _)
      | succ secondDepth =>
          refine (repeats_alternatives (framed_groupBody firstDepth)
            (inductionHypothesis secondDepth) first second []).bind_right _ fun found =>
              .pure fun within => ?_
          have inside := Notation.depthOf_le_depth_ofBranches found.reverse
          rw [Notation.depthOf_reverse] at inside
          omega

end Read

end Manifest.Pattern
