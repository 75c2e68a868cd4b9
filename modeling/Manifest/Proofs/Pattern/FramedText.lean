import Manifest.Proofs.Pattern.Frame
import Mathlib.Data.List.Find

/-!
# Frames of the reading of characters

Reading a character, a given text or a stretch of characters is framed.  A stretch of
characters that the closing sign does not belong to ends in front of it; any other
stretch is framed where something is left behind it.
-/

namespace Manifest.Pattern.Read

variable {α β : Type} {least slack : Nat}

/-! ## Single characters -/

theorem run_peek_nil
    {state : ReadState}
    (atEnd : state.rest = []) :
    peek.run state = none := by
  rw [peek, run_get_bind]
  simp only [atEnd]
  rfl

theorem run_peek_cons
    {state : ReadState}
    {char : Char}
    {others : List Char}
    (found : state.rest = char :: others) :
    peek.run state = some (char, state) := by
  rw [peek, run_get_bind]
  simp only [found]
  rfl

theorem run_peek_bind
    {state : ReadState}
    {char : Char}
    {others : List Char}
    (found : state.rest = char :: others)
    (continuation : Char → Read β) :
    (peek >>= continuation).run state = (continuation char).run state := by
  rw [StateT.run_bind, run_peek_cons found]
  rfl

theorem rest_followedBy_cons
    {state : ReadState}
    {char : Char}
    {others : List Char}
    (found : state.rest = char :: others)
    (tail : List Char) :
    (state.followedBy tail).rest = char :: (others ++ tail) := by
  rw [ReadState.rest_followedBy, found, List.cons_append]

/-- Readers that do the same in front of a closing sign are framed alike. -/
theorem Continues.congr
    {first second : Read α}
    {firstState secondState final : ReadState}
    {value : α}
    (same : ∀ tail, Closes tail →
      first.run (firstState.followedBy tail) = second.run (secondState.followedBy tail))
    (outcome : Continues first firstState value final ∨ Swallows first firstState value final) :
    Continues second secondState value final ∨ Swallows second secondState value final := by
  rcases outcome with continues | swallows
  · exact Or.inl fun tail closes => (same tail closes).symm.trans (continues tail closes)
  · exact Or.inr
      ⟨swallows.atEnd, fun tail closes inLine =>
        (same tail closes).symm.trans (swallows.sameEnd tail closes inLine),
        fun tail other last closes run =>
          swallows.shorter tail other last closes ((same tail closes).trans run)⟩

/-- What is done with the next character may look at the closing sign, if it takes that sign then
or something has to be left. -/
theorem framed_peek_bind
    {count : Nat}
    {continuation : Char → Read β}
    (framed : ∀ char, Framed 1 slack (continuation char))
    (takes : Takes 1 count (continuation ')'))
    (enough : 1 ≤ slack + count) :
    Framed 0 slack (peek >>= continuation) where
  suffix := by
    intro state value final run
    cases found : state.rest with
    | nil =>
        rw [StateT.run_bind, run_peek_nil found] at run
        cases run
    | cons char others =>
        rw [run_peek_bind found] at run
        rw [← found]
        exact (framed char).suffix run
  forward := by
    intro state value final _ left run
    cases found : state.rest with
    | nil =>
        rw [StateT.run_bind, run_peek_nil found] at run
        cases run
    | cons char others =>
        rw [run_peek_bind found] at run
        have notEmpty : 1 ≤ state.rest.length := by simp [found]
        refine Continues.congr (fun tail _ => ?_) ((framed char).forward notEmpty left run)
        rw [run_peek_bind (rest_followedBy_cons found tail)]
  backward := by
    intro state tail value final closes _ left run
    cases found : state.rest with
    | nil =>
        rcases closes with ⟨behind, rfl⟩
        have atTail : (state.followedBy (')' :: behind)).rest = ')' :: behind := by simp [found]
        rw [run_peek_bind atTail] at run
        have taken := takes.length_add_le (by rw [atTail]; simp) run
        rw [atTail] at taken
        omega
    | cons char others =>
        rw [run_peek_bind (rest_followedBy_cons found tail)] at run
        have notEmpty : 1 ≤ state.rest.length := by simp [found]
        rcases (framed char).backward closes notEmpty left run with ⟨before, same, runBefore⟩
        exact ⟨before, same, (run_peek_bind found continuation).trans runBefore⟩

/-- Looking at a character that must be there: something has to be left. -/
theorem framed_peek :
    Framed 0 1 peek := by
  have unread (char : Char) : Framed 1 1 (pure char : Read Char) := .pure char
  rw [← bind_pure peek]
  exact framed_peek_bind unread ((unread ')').takes_zero 1) (Nat.le_refl 1)

theorem run_peek?_bind
    (continuation : Option Char → Read β)
    (state : ReadState) :
    (peek? >>= continuation).run state = (continuation state.rest.head?).run state :=
  rfl

/-- What is done with the next character, if there is one, is done with the closing sign as at the
end of a text. -/
theorem framed_peek?_bind
    {continuation : Option Char → Read β}
    (framedNone : Framed 0 slack (continuation none))
    (framedSome : ∀ char, Framed 1 slack (continuation (some char)))
    (same : continuation (some ')') = continuation none) :
    Framed 0 slack (peek? >>= continuation) := by
  have run_tail {state : ReadState} {tail : List Char} (closes : Closes tail) :
      (peek? >>= continuation).run (state.followedBy tail) =
        (continuation state.rest.head?).run (state.followedBy tail) := by
    rw [run_peek?_bind, ReadState.rest_followedBy]
    cases state.rest with
    | nil =>
        rcases closes with ⟨behind, rfl⟩
        exact congrArg (fun reader => StateT.run reader _) same
    | cons char others => rfl
  have framed (state : ReadState) : ∃ least ≤ state.rest.length,
      Framed least slack (continuation state.rest.head?) := by
    cases state.rest with
    | nil => exact ⟨0, Nat.le_refl 0, framedNone⟩
    | cons char others => exact ⟨1, Nat.le_add_left 1 _, framedSome char⟩
  refine ⟨fun {state value final} run => ?_, fun {state value final} _ left run => ?_,
    fun {state tail value final} closes _ left run => ?_⟩
  · rcases framed state with ⟨least, _, frame⟩
    exact frame.suffix run
  · rcases framed state with ⟨least, enough, frame⟩
    exact Continues.congr (fun tail closes => (run_tail closes).symm)
      (frame.forward enough left run)
  · rcases framed state with ⟨least, enough, frame⟩
    rw [run_tail closes] at run
    exact frame.backward closes enough left run

theorem takes_peek?_bind
    {count : Nat}
    {continuation : Option Char → Read β}
    (takesNone : Takes 0 count (continuation none))
    (takesSome : ∀ char, Takes 1 count (continuation (some char))) :
    Takes 0 count (peek? >>= continuation) where
  length_add_le := by
    intro state value final _ run
    rw [run_peek?_bind] at run
    cases found : state.rest with
    | nil =>
        rw [found] at run
        rw [← found]
        exact takesNone.length_add_le (Nat.zero_le _) run
    | cons char others =>
        rw [found] at run
        rw [← found]
        exact (takesSome char).length_add_le (by simp [found]) run

/-! ## Reading that does not fail -/

/-- What a reader that does not fail does to a text on which it is framed: it leaves what follows
alone, or it leaves too little of the text, or it runs into a comment. -/
inductive Leaves (slack : Nat) (step : List Char → α × List Char) (text : List Char) : Prop where
  | alone
      (same : ∀ tail, Closes tail → step (text ++ tail) = ((step text).1, (step text).2 ++ tail))
  | tooLittle
      (short : (step text).2.length < slack)
      (shorter : ∀ tail, Closes tail → (step (text ++ tail)).2.length < tail.length + slack)
  | nothing
      (atEnd : (step text).2 = [])
      (same : ∀ tail, Closes tail → '\n' ∉ tail → step (text ++ tail) = step text)
      (shorter : ∀ tail, Closes tail → (step (text ++ tail)).2.length < tail.length)

theorem Leaves.map
    {step : List Char → α × List Char}
    {text : List Char}
    (leaves : Leaves slack step text)
    (change : α → β) :
    Leaves slack (fun text => (change (step text).1, (step text).2)) text := by
  cases leaves with
  | alone same => exact .alone fun tail closes => by rw [same tail closes]
  | tooLittle short shorter => exact .tooLittle short shorter
  | nothing atEnd same shorter =>
      exact .nothing atEnd (fun tail closes inLine => by rw [same tail closes inLine]) shorter

/-- Reading that a function of the text tells. -/
theorem Framed.of_step
    {reader : Read α}
    (step : Bool → List Char → α × List Char)
    (run_eq : ∀ state, reader.run state =
      some ((step state.isVerbose state.rest).1,
        { state with rest := (step state.isVerbose state.rest).2 }))
    (suffix : ∀ isVerbose text, (step isVerbose text).2 <:+ text)
    (leaves : ∀ isVerbose text, least ≤ text.length → Leaves slack (step isVerbose) text) :
    Framed least slack reader where
  suffix := by
    intro state value final run
    rw [run_eq] at run
    cases run
    exact suffix state.isVerbose state.rest
  forward := by
    intro state value final enough left run
    rw [run_eq] at run
    cases run
    have run_tail (tail : List Char) := run_eq (state.followedBy tail)
    simp only [ReadState.isVerbose_followedBy, ReadState.rest_followedBy] at run_tail
    cases leaves state.isVerbose state.rest enough with
    | alone same =>
        refine Or.inl fun tail closes => ?_
        rw [run_tail, same tail closes]
        rfl
    | tooLittle short _ => exact absurd left (Nat.not_le_of_lt short)
    | nothing atEnd same shorter =>
        refine Or.inr ⟨atEnd, fun tail closes inLine => ?_, fun tail other last closes run => ?_⟩
        · rw [run_tail, same tail closes inLine]
          rfl
        · rw [run_tail] at run
          cases run
          exact shorter tail closes
  backward := by
    intro state tail value final closes enough left run
    rw [run_eq] at run
    cases run
    simp only [ReadState.isVerbose_followedBy, ReadState.rest_followedBy] at left ⊢
    cases leaves state.isVerbose state.rest enough with
    | alone same =>
        rw [same tail closes]
        exact ⟨_, rfl, run_eq state⟩
    | tooLittle _ shorter =>
        have := shorter tail closes
        omega
    | nothing _ _ shorter =>
        have := shorter tail closes
        omega

theorem run_drop
    (count : Nat)
    (state : ReadState) :
    (drop count).run state = some ((), { state with rest := state.rest.drop count }) :=
  rfl

theorem framed_drop
    (count : Nat) :
    Framed count 0 (drop count) :=
  .of_step (fun _ text => ((), text.drop count)) (run_drop count)
    (fun _ text => List.drop_suffix count text) fun _ text enough =>
      .alone fun tail _ => by rw [List.drop_append_of_le_length enough]

theorem takes_drop
    (count : Nat) :
    Takes count count (drop count) where
  length_add_le := by
    intro state value final enough run
    cases run
    rw [List.length_drop]
    omega

/-- What looks at the next character takes what is taken where there is one. -/
theorem takes_peek_bind
    {count : Nat}
    {continuation : Char → Read β}
    (takes : ∀ char, Takes 1 count (continuation char)) :
    Takes 0 count (peek >>= continuation) where
  length_add_le := by
    intro state value final _ run
    cases found : state.rest with
    | nil =>
        rw [StateT.run_bind, run_peek_nil found] at run
        cases run
    | cons char others =>
        rw [run_peek_bind found] at run
        rw [← found]
        exact (takes char).length_add_le (by simp [found]) run

theorem takes_drop_bind_pure
    (char : Char) :
    Takes 1 1 (drop 1 >>= fun _ => (pure char : Read Char)) :=
  (takes_drop 1).bind_framed 0 fun _ => .pure char

theorem run_next_nil
    {state : ReadState}
    (atEnd : state.rest = []) :
    next.run state = none :=
  run_bind_of_none (run_peek_nil atEnd) _

theorem run_next_cons
    {state : ReadState}
    {char : Char}
    {others : List Char}
    (found : state.rest = char :: others) :
    next.run state = some (char, { state with rest := others }) := by
  rw [next, run_peek_bind found, run_bind_of_eq (run_drop 1 state), found]
  rfl

theorem framed_next :
    Framed 0 0 next :=
  framed_peek_bind (fun char => (framed_drop 1).bind fun _ => .pure char)
    (takes_drop_bind_pure ')') (Nat.le_refl 1)

theorem takes_next :
    Takes 0 1 next :=
  takes_peek_bind takes_drop_bind_pure

/-- A step in front of the reading of a character leaves that character behind. -/
theorem Framed.bind_next
    {reader : Read α}
    {continuation : α → Char → Read β}
    (first : Framed least 1 reader)
    (framed : ∀ value char, Framed 0 slack (continuation value char)) :
    Framed least slack (reader >>= fun value => next >>= continuation value) :=
  first.bind_of_takes (fun value => framed_next.weaken.bind (framed value))
    (fun value => takes_next.bind_framed slack (framed value)) (Nat.le_add_left 1 slack)

/-! ## Given texts -/

/-- Whether a text starts with a word does not depend on what follows it, unless that continues the
word. -/
theorem isPrefixOf_append_closing
    {word tail : List Char}
    (apart : ')' ∉ word)
    (closes : Closes tail)
    (text : List Char) :
    word.isPrefixOf (text ++ tail) = word.isPrefixOf text := by
  rcases closes with ⟨behind, rfl⟩
  induction word generalizing text with
  | nil => simp
  | cons char word inductionHypothesis =>
      rw [List.mem_cons, not_or] at apart
      cases text with
      | nil => simp [List.isPrefixOf, Ne.symm apart.1]
      | cons first others =>
          simp only [List.cons_append, List.isPrefixOf]
          rw [inductionHypothesis apart.2 others]

theorem drop_append_of_isPrefixOf
    {word : String}
    {text : List Char}
    (starts : word.toList.isPrefixOf text = true)
    (tail : List Char) :
    (text ++ tail).drop word.length = text.drop word.length ++ tail := by
  rw [List.drop_append_of_le_length]
  rw [← String.length_toList]
  exact (List.isPrefixOf_iff_prefix.1 starts).length_le

theorem run_take
    (word : String)
    (state : ReadState) :
    (take word).run state =
      some (word.toList.isPrefixOf state.rest,
        { state with
          rest := if word.toList.isPrefixOf state.rest then state.rest.drop word.length
            else state.rest }) := by
  rw [take, run_get_bind]
  cases starts : word.toList.isPrefixOf state.rest with
  | false => simp
  | true => rfl

theorem framed_take
    {word : String}
    (apart : ')' ∉ word.toList) :
    Framed 0 0 (take word) := by
  refine .of_step (fun _ text => (word.toList.isPrefixOf text,
    if word.toList.isPrefixOf text then text.drop word.length else text)) (run_take word) ?_ ?_
  · intro _ text
    dsimp only
    split
    · exact List.drop_suffix _ text
    · exact List.suffix_rfl
  · intro _ text _
    refine .alone fun tail closes => ?_
    rw [isPrefixOf_append_closing apart closes]
    split
    · rename_i starts
      rw [drop_append_of_isPrefixOf starts]
    · rfl

theorem framed_takeAny
    {words : List String}
    (apart : ∀ word ∈ words, ')' ∉ word.toList) :
    Framed 0 0 (takeAny words) := by
  refine .get_bind ?_ ?_
  · intro state tail closes
    have same : words.find? (fun word => word.toList.isPrefixOf (state.rest ++ tail)) =
        words.find? fun word => word.toList.isPrefixOf state.rest :=
      List.find?_congr fun word member =>
        isPrefixOf_append_closing (apart word member) closes state.rest
    simp only [ReadState.rest_followedBy, same]
  · intro state
    dsimp only
    split
    · rename_i word found
      exact framed_take (apart word (List.mem_of_find?_eq_some found))
    · exact .pure false

/-! ## Stretches of characters -/

theorem run_takeWhile
    (condition : Char → Bool)
    (state : ReadState) :
    (takeWhile condition).run state =
      some (state.rest.takeWhile condition,
        { state with rest := state.rest.drop (state.rest.takeWhile condition).length }) :=
  rfl

theorem framed_takeWhile
    {condition : Char → Bool}
    (stops : condition ')' = false) :
    Framed 0 0 (takeWhile condition) := by
  refine .of_step (fun _ text =>
    (text.takeWhile condition, text.drop (text.takeWhile condition).length))
    (run_takeWhile condition) (fun _ text => List.drop_suffix _ text) fun _ text _ => .alone fun tail closes => ?_
  have same : (text ++ tail).takeWhile condition = text.takeWhile condition := by
    rcases closes with ⟨behind, rfl⟩
    rw [List.takeWhile_append, List.takeWhile_cons_of_neg (by rw [stops]; decide)]
    split
    · rename_i whole
      rw [List.append_nil, (List.takeWhile_prefix condition).eq_of_length whole]
    · rfl
  rw [same, List.drop_append_of_le_length (List.takeWhile_prefix condition).length_le]

/-- Any stretch of characters ends in a text of which something is left. -/
theorem framed_takeWhile_slack
    (condition : Char → Bool) :
    Framed 0 1 (takeWhile condition) := by
  refine .of_step (fun _ text =>
    (text.takeWhile condition, text.drop (text.takeWhile condition).length))
    (run_takeWhile condition) (fun _ text => List.drop_suffix _ text) fun _ text _ => ?_
  by_cases whole : (text.takeWhile condition).length = text.length
  · refine .tooLittle ?_ fun tail _ => ?_
    · rw [whole, List.drop_length]
      exact Nat.zero_lt_one
    · rw [List.takeWhile_append, if_pos whole, List.length_drop]
      simp
      omega
  · refine .alone fun tail _ => ?_
    rw [List.takeWhile_append, if_neg whole,
      List.drop_append_of_le_length (List.takeWhile_prefix condition).length_le]

/-- A stretch with blanks and comments in it ends inside the text, whatever follows, or it goes on
behind the text as it does from some place. -/
theorem spanSpaced_append
    (condition : Char → Bool)
    (isVerbose : Bool)
    (text : List Char) :
    ∀ isBehind inComment : Bool,
      (∀ tail, spanSpaced condition isVerbose isBehind inComment (text ++ tail) =
        ((spanSpaced condition isVerbose isBehind inComment text).1,
          (spanSpaced condition isVerbose isBehind inComment text).2 ++ tail)) ∨
      ((spanSpaced condition isVerbose isBehind inComment text).2 = [] ∧
        ∃ isBehindLast inCommentLast, ∀ tail,
          spanSpaced condition isVerbose isBehind inComment (text ++ tail) =
            ((spanSpaced condition isVerbose isBehind inComment text).1 ++
              (spanSpaced condition isVerbose isBehindLast inCommentLast tail).1,
            (spanSpaced condition isVerbose isBehindLast inCommentLast tail).2)) := by
  induction text with
  | nil =>
      intro isBehind inComment
      refine Or.inr ⟨?_, isBehind, inComment, fun tail => ?_⟩
      · cases inComment <;> rfl
      · cases inComment <;> simp [spanSpaced]
  | cons char text inductionHypothesis =>
      intro isBehind inComment
      cases inComment with
      | true =>
          simp only [List.cons_append, spanSpaced]
          exact inductionHypothesis isBehind (char != '\n')
      | false =>
          simp only [List.cons_append, spanSpaced]
          split
          · exact inductionHypothesis true false
          · split
            · exact inductionHypothesis true true
            · split
              · rcases inductionHypothesis true false with
                  alone | ⟨atEnd, isBehindLast, inCommentLast, goesOn⟩
                · refine Or.inl fun tail => ?_
                  rw [alone tail]
                · refine Or.inr ⟨atEnd, isBehindLast, inCommentLast, fun tail => ?_⟩
                  rw [goesOn tail, List.cons_append]
              · exact Or.inl fun tail => rfl

theorem spanSpaced_suffix
    (condition : Char → Bool)
    (isVerbose : Bool)
    (text : List Char) :
    ∀ isBehind inComment : Bool,
      (spanSpaced condition isVerbose isBehind inComment text).2 <:+ text := by
  induction text with
  | nil =>
      intro isBehind inComment
      cases inComment <;> exact List.suffix_rfl
  | cons char text inductionHypothesis =>
      intro isBehind inComment
      have longer {rest : List Char} (shorter : rest <:+ text) : rest <:+ char :: text :=
        shorter.trans (List.suffix_cons char text)
      cases inComment with
      | true =>
          rw [spanSpaced]
          exact longer (inductionHypothesis isBehind _)
      | false =>
          rw [spanSpaced]
          split
          · exact longer (inductionHypothesis true false)
          · split
            · exact longer (inductionHypothesis true true)
            · split
              · exact longer (inductionHypothesis true false)
              · exact List.suffix_rfl

theorem spanSpaced_comment_of_not_mem
    {condition : Char → Bool}
    {isVerbose isBehind : Bool}
    {text : List Char}
    (inLine : '\n' ∉ text) :
    spanSpaced condition isVerbose isBehind true text = ([], []) := by
  induction text with
  | nil => rfl
  | cons char text inductionHypothesis =>
      rw [List.mem_cons, not_or] at inLine
      rw [spanSpaced, bne_iff_ne.2 (Ne.symm inLine.1)]
      exact inductionHypothesis inLine.2

/-- Inside a comment the closing sign has no meaning. -/
theorem spanSpaced_comment_shorter
    {condition : Char → Bool}
    {isVerbose isBehind : Bool}
    {tail : List Char}
    (closes : Closes tail) :
    (spanSpaced condition isVerbose isBehind true tail).2.length < tail.length := by
  rcases closes with ⟨behind, rfl⟩
  rw [spanSpaced, List.length_cons]
  exact Nat.lt_succ_of_le (spanSpaced_suffix condition isVerbose behind isBehind _).length_le

theorem spanSpaced_of_closes
    {condition : Char → Bool}
    {isVerbose isBehind : Bool}
    {tail : List Char}
    (stops : condition ')' = false)
    (closes : Closes tail) :
    spanSpaced condition isVerbose isBehind false tail = ([], tail) := by
  rcases closes with ⟨behind, rfl⟩
  have visible : Text.isBlank ')' = false := by decide
  simp [spanSpaced, visible, stops]

theorem leaves_spanSpaced
    {condition : Char → Bool}
    (stops : condition ')' = false)
    (isVerbose isBehind inComment : Bool)
    (text : List Char) :
    Leaves 0 (spanSpaced condition isVerbose isBehind inComment) text := by
  rcases spanSpaced_append condition isVerbose text isBehind inComment with
    alone | ⟨atEnd, isBehindLast, inCommentLast, goesOn⟩
  · exact .alone fun tail _ => alone tail
  · cases inCommentLast with
    | false =>
        refine .alone fun tail closes => ?_
        rw [goesOn, spanSpaced_of_closes stops closes, atEnd, List.append_nil, List.nil_append]
    | true =>
        refine .nothing atEnd (fun tail _ inLine => ?_) fun tail closes => ?_
        · rw [goesOn, spanSpaced_comment_of_not_mem inLine, List.append_nil, ← atEnd]
        · rw [goesOn]
          exact spanSpaced_comment_shorter closes

theorem run_takeSpaced
    (condition : Char → Bool)
    (state : ReadState) :
    (takeSpaced condition).run state =
      some ((spanSpaced condition state.isVerbose false false state.rest).1,
        { state with rest := (spanSpaced condition state.isVerbose false false state.rest).2 }) :=
  rfl

theorem framed_takeSpaced
    {condition : Char → Bool}
    (stops : condition ')' = false) :
    Framed 0 0 (takeSpaced condition) :=
  .of_step (fun isVerbose => spanSpaced condition isVerbose false false)
    (run_takeSpaced condition)
    (fun isVerbose text => spanSpaced_suffix condition isVerbose text false false)
    fun isVerbose text _ => leaves_spanSpaced stops isVerbose false false text

/-- Any stretch of characters ends in a text of which something is left, blanks and comments
included. -/
theorem framed_takeSpaced_slack
    (condition : Char → Bool) :
    Framed 0 1 (takeSpaced condition) := by
  refine .of_step (fun isVerbose => spanSpaced condition isVerbose false false)
    (run_takeSpaced condition)
    (fun isVerbose text => spanSpaced_suffix condition isVerbose text false false)
    fun isVerbose text _ => ?_
  rcases spanSpaced_append condition isVerbose text false false with
    alone | ⟨atEnd, isBehindLast, inCommentLast, goesOn⟩
  · exact .alone fun tail _ => alone tail
  · refine .tooLittle ?_ fun tail _ => ?_
    · rw [atEnd]
      exact Nat.zero_lt_one
    · rw [goesOn]
      exact Nat.lt_succ_of_le
        (spanSpaced_suffix condition isVerbose tail isBehindLast inCommentLast).length_le

/-! ## Blanks and comments -/

/-- Blanks and comments are what a stretch without characters goes over. -/
theorem spanSpaced_none
    (text : List Char) :
    ∀ inComment : Bool,
      spanSpaced (fun _ => false) true true inComment text = ([], behindSpace inComment text) := by
  induction text with
  | nil =>
      intro inComment
      cases inComment <;> rfl
  | cons char text inductionHypothesis =>
      intro inComment
      cases inComment with
      | true => exact inductionHypothesis (char != '\n')
      | false =>
          simp only [spanSpaced, behindSpace, Bool.true_and, decide_eq_true_eq]
          split
          · exact inductionHypothesis false
          · split
            · exact inductionHypothesis true
            · rfl

/-- The text behind its leading blanks and comments, where these do not count. -/
def visibleRest (isVerbose : Bool) (text : List Char) : List Char :=
  if isVerbose then behindSpace false text else text

theorem run_skipSpace
    (state : ReadState) :
    skipSpace.run state =
      some ((), { state with rest := visibleRest state.isVerbose state.rest }) := by
  change some ((), if state.isVerbose then _ else _) = _
  rw [visibleRest]
  split <;> rfl

theorem visibleRest_suffix
    (isVerbose : Bool)
    (text : List Char) :
    visibleRest isVerbose text <:+ text := by
  rw [visibleRest]
  split
  · have suffix := spanSpaced_suffix (fun _ => false) true text true false
    rwa [spanSpaced_none] at suffix
  · exact List.suffix_rfl

theorem leaves_visibleRest
    (isVerbose : Bool)
    (text : List Char) :
    Leaves 0 (fun text => ((), visibleRest isVerbose text)) text := by
  cases isVerbose with
  | false => exact .alone fun tail _ => rfl
  | true =>
      have leaves : Leaves 0 (spanSpaced (fun _ => false) true true false) text :=
        leaves_spanSpaced rfl true true false text
      have same : spanSpaced (fun _ => false) true true false =
          fun text => ([], behindSpace false text) :=
        funext fun text => spanSpaced_none text false
      rw [same] at leaves
      exact leaves.map fun _ => ()

/-- Blanks and comments that end inside a text end there in front of a closing sign. -/
theorem visibleRest_append_of_cons
    {isVerbose : Bool}
    {text others tail : List Char}
    {char : Char}
    (visible : visibleRest isVerbose text = char :: others)
    (closes : Closes tail) :
    visibleRest isVerbose (text ++ tail) = char :: (others ++ tail) := by
  cases leaves_visibleRest isVerbose text with
  | alone same =>
      have sameRest : visibleRest isVerbose (text ++ tail) = visibleRest isVerbose text ++ tail :=
        congrArg Prod.snd (same tail closes)
      rw [sameRest, visible, List.cons_append]
  | tooLittle short _ => exact absurd short (Nat.not_lt_zero _)
  | nothing atEnd _ _ =>
      rw [visible] at atEnd
      cases atEnd

/-- Blanks and comments up to the end of a text end at the closing sign, or go beyond it. -/
theorem visibleRest_append_of_nil
    {isVerbose : Bool}
    {text tail : List Char}
    (visible : visibleRest isVerbose text = [])
    (closes : Closes tail) :
    visibleRest isVerbose (text ++ tail) = tail ∨
      (visibleRest isVerbose (text ++ tail)).length < tail.length := by
  cases leaves_visibleRest isVerbose text with
  | alone same =>
      have sameRest : visibleRest isVerbose (text ++ tail) = visibleRest isVerbose text ++ tail :=
        congrArg Prod.snd (same tail closes)
      rw [sameRest, visible]
      exact Or.inl (List.nil_append tail)
  | tooLittle short _ => exact absurd short (Nat.not_lt_zero _)
  | nothing _ _ shorter => exact Or.inr (shorter tail closes)

theorem framed_skipSpace :
    Framed 0 0 skipSpace :=
  .of_step (fun isVerbose text => ((), visibleRest isVerbose text)) run_skipSpace
    visibleRest_suffix fun isVerbose text _ => leaves_visibleRest isVerbose text

theorem framed_nextSpaced :
    Framed 0 0 nextSpaced :=
  framed_next.bind fun _ => framed_skipSpace.bind fun _ => .pure _

theorem takes_nextSpaced :
    Takes 0 1 nextSpaced :=
  takes_next.bind_framed 0 fun _ => framed_skipSpace.bind fun _ => .pure _

end Manifest.Pattern.Read
