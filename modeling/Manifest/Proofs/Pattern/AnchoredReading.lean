import Manifest.Proofs.Pattern.Bounds
import Manifest.Pattern.OfText
import Manifest.Selector.Basic

/-!
# Reading a pattern between marks for the start and the end

The text of a pattern stands in a group between the marks.  The group ends where reading
the inside of a group ends, which is in front of the first closing sign that is not a
part of what is read.  If this is the sign behind the pattern, then the pattern is
read by itself as it is read in the group.  If it comes before, the pattern closes the
group; it is no pattern then, because a closing sign that closes nothing cannot be
read.  And if the pattern ends in a comment, it takes the sign behind it into the comment.
-/

namespace Manifest.Pattern

open Read

/-- A text of which nothing has been read. -/
def ReadState.start (text : List Char) : ReadState :=
  { rest := text }

theorem Notation.ofText?_eq_some
    {text : String}
    {found : Notation} :
    Notation.ofText? text = some found ↔
      ∃ final, (groupBody (Notation.depthLimit + 1) (text.length + 1)).run (.start text.toList) =
        some (found, final) ∧ final.rest = [] ∧ found.depth ≤ Notation.depthLimit := by
  rw [Notation.ofText?, ReadState.start]
  cases (groupBody (Notation.depthLimit + 1) (text.length + 1)).run { rest := text.toList } with
  | none => simp
  | some result =>
      simp only [Bool.and_eq_true, List.isEmpty_iff, decide_eq_true_eq, Option.some.injEq]
      constructor
      · intro same
        split at same
        · rename_i whole
          cases same
          exact ⟨result.2, rfl, whole⟩
        · cases same
      · rintro ⟨final, rfl, whole⟩
        exact if_pos whole

theorem toList_anchored
    (pattern : String) :
    (Selector.anchored pattern).toList =
      '^' :: '(' :: '?' :: ':' :: (pattern.toList ++ [')', '$']) := by
  simp [Selector.anchored]

theorem run_opening_plain
    (text : List Char) :
    opening.run (.start ('?' :: ':' :: text)) = some (.group (.flagged []), .start text) :=
  rfl

theorem run_skipSpace_plain
    {state : ReadState}
    (plain : state.isVerbose = false) :
    skipSpace.run state = some ((), state) := by
  cases state
  cases plain
  rfl

theorem run_sequence_nil
    {nested : Nat → Read Notation}
    {bound : Nat}
    {parts : List Notation}
    {state : ReadState}
    (plain : state.isVerbose = false)
    (atEnd : state.rest = []) :
    (Read.sequence nested (bound + 1) parts).run state = some (parts, state) := by
  rw [sequence_succ, run_bind_of_eq (run_skipSpace_plain plain), run_peek?_bind, atEnd]
  rfl

theorem run_sequence_cons
    {nested : Nat → Read Notation}
    {bound : Nat}
    {parts : List Notation}
    {state : ReadState}
    {char : Char}
    {others : List Char}
    (plain : state.isVerbose = false)
    (found : state.rest = char :: others)
    (goesOn : endsSequence char = false) :
    (Read.sequence nested (bound + 1) parts).run state =
      (part (nested bound) bound parts char >>= Read.sequence nested bound).run state := by
  rw [sequence_succ, run_bind_of_eq (run_skipSpace_plain plain), run_peek?_bind, found,
    List.head?_cons, sequenceStep, goesOn]
  rfl

theorem run_parenthesis_plain
    (nested : Read Notation)
    (text : List Char) :
    (parenthesis nested).run (.start ('(' :: '?' :: ':' :: text)) =
      (nested >>= closing (.flagged []) false).run (.start text) := by
  rw [parenthesis, run_bind_of_eq (run_drop 1 _)]
  change (get >>= _ : Read Notation).run (.start ('?' :: ':' :: text)) = _
  rw [run_get_bind, run_bind_of_eq (run_opening_plain text)]
  rfl

theorem run_closing_cons
    {kind : GroupKind}
    {outer : Bool}
    {inner : Notation}
    {state : ReadState}
    {others : List Char}
    (closed : state.rest = ')' :: others) :
    (closing kind outer inner).run state =
      some (.group kind inner, { state with rest := others, isVerbose := outer }) := by
  rw [closing_eq, run_bind_of_eq (run_next_cons closed), if_pos rfl]
  rfl

/-- A group ends only with its closing sign. -/
theorem closed_of_run_closing
    {kind : GroupKind}
    {outer : Bool}
    {inner found : Notation}
    {state final : ReadState}
    (run : (closing kind outer inner).run state = some (found, final)) :
    found = .group kind inner ∧ ∃ behind, state.rest = ')' :: behind := by
  rw [closing_eq] at run
  cases text : state.rest with
  | nil =>
      rw [run_bind_of_none (run_next_nil text)] at run
      cases run
  | cons char others =>
      rw [run_bind_of_eq (run_next_cons text)] at run
      split at run
      · rename_i isClosing
        cases run
        exact ⟨rfl, others, by rw [isClosing]⟩
      · cases run

/-- The sign for the end of the text is the last part of a sequence. -/
theorem run_sequence_dollar
    {nested : Nat → Read Notation}
    {bound : Nat}
    {parts : List Notation}
    {state : ReadState}
    (plain : state.isVerbose = false)
    (atDollar : state.rest = ['$']) :
    (Read.sequence nested (bound + 2) parts).run state =
      some (.mark .dollar :: parts, { state with rest := [] }) := by
  rw [run_sequence_cons plain atDollar (by decide)]
  change (drop 1 >>= fun _ =>
    Read.sequence nested (bound + 1) (.mark .dollar :: parts)).run state = _
  rw [run_bind_of_eq (run_drop 1 state), atDollar]
  exact run_sequence_nil plain rfl

/-- Reading between the marks reads the inside of the group and goes on behind it. -/
theorem run_sequence_anchored
    (nested : Nat → Read Notation)
    (bound : Nat)
    (text : List Char) :
    (Read.sequence nested (bound + 2) []).run (.start ('^' :: '(' :: '?' :: ':' :: text)) =
      (nested bound >>= fun inner => closing (.flagged []) false inner >>= fun group =>
        Read.sequence nested bound [group, .mark .caret]).run (.start text) := by
  rw [run_sequence_cons rfl rfl (by decide)]
  change (Read.sequence nested (bound + 1) [.mark .caret]).run
    (.start ('(' :: '?' :: ':' :: text)) = _
  rw [run_sequence_cons rfl rfl (by decide)]
  change ((parenthesis (nested bound) >>= fun found => pure (found :: [.mark .caret])) >>=
    Read.sequence nested bound).run _ = _
  rw [bind_assoc, run_bind_congr (run_parenthesis_plain (nested bound) text)]
  simp only [bind_assoc, pure_bind]

/-! ## What ends a group -/

/-- A pattern whose end is in a comment: what follows it belongs to the comment. -/
def LeavesCommentOpen (pattern : String) : Prop :=
  (Notation.ofText? pattern).isSome ∧ (Notation.ofText? (pattern ++ ")")).isSome

/-- A text that ends the group that it is put into before its own end. -/
def ClosesGroup (pattern : String) : Prop :=
  ∃ front back, pattern = front ++ ")" ++ back ∧ (Notation.ofText? front).isSome ∧
    ¬LeavesCommentOpen front

theorem closes_cons
    (behind : List Char) :
    Closes (')' :: behind) :=
  ⟨behind, rfl⟩

/-- A text that is read as a pattern is read so as the inside of a group too, and the group goes on
behind it if it is in a comment there. -/
theorem run_groupBody_of_ofText?
    {text : String}
    {found : Notation}
    {depth bound : Nat}
    (read : Notation.ofText? text = some found)
    (deep : found.depth < depth)
    (long : text.length < bound) :
    ∃ final, final.rest = [] ∧
      (groupBody depth bound).run (.start text.toList) = some (found, final) ∧
      (¬LeavesCommentOpen text ∧
          Continues (groupBody depth bound) (.start text.toList) found final ∨
        LeavesCommentOpen text ∧
          Swallows (groupBody depth bound) (.start text.toList) found final) := by
  rcases Notation.ofText?_eq_some.1 read with ⟨final, run, atEnd, within⟩
  have runHere : (groupBody depth bound).run (.start text.toList) = some (found, final) :=
    repeats_groupBody _ _ _ _ _ found final (Nat.zero_le _)
      (by rwa [ReadState.start, String.length_toList]) run deep
  refine ⟨final, atEnd, runHere, ?_⟩
  have closing : Closes [')'] := closes_cons []
  -- Another bound on the levels makes no difference for the text with a closing sign.
  have readAgain {last : ReadState}
      (runClosing : (groupBody depth bound).run ((ReadState.start text.toList).followedBy [')']) =
        some (found, last)) :
      (groupBody (Notation.depthLimit + 1) ((text ++ ")").length + 1)).run
        (.start (text ++ ")").toList) = some (found, last) := by
    have same : (text ++ ")").toList = text.toList ++ [')'] := by simp
    rw [same]
    refine repeats_groupBody _ _ _ _ _ found last (Nat.zero_le _) ?_ runClosing
      (Nat.lt_succ_of_le within)
    rw [← String.length_toList (s := text ++ ")"), same]
    exact Nat.lt_succ_self _
  rcases (framed_groupBody depth bound).forward (Nat.zero_le _) (Nat.zero_le _) runHere with
    continues | swallows
  · refine Or.inl ⟨fun opens => ?_, continues⟩
    rcases Option.isSome_iff_exists.1 opens.2 with ⟨other, readClosing⟩
    rcases Notation.ofText?_eq_some.1 readClosing with ⟨last, runLast, lastAtEnd, _⟩
    rw [readAgain (continues [')'] closing)] at runLast
    cases runLast
    simp [ReadState.followedBy] at lastAtEnd
  · refine Or.inr ⟨⟨by rw [read]; rfl, ?_⟩, swallows⟩
    have runLast := readAgain (swallows.sameEnd [')'] closing (by decide))
    rw [Notation.ofText?_eq_some.2 ⟨final, runLast, atEnd, within⟩]
    rfl

/-! ## Patterns between marks -/

/-- A pattern between the marks for the start and the end of the text. -/
def Notation.anchored (inner : Notation) : Notation :=
  .concat [.mark .caret, .group (.flagged []) inner, .mark .dollar]

theorem Notation.depth_anchored
    (inner : Notation) :
    inner.anchored.depth = inner.depth + 2 := by
  simp [Notation.anchored, Notation.depth, Notation.depthOf]

/-- A text that closes the group that it is put into is no pattern by itself. -/
theorem ofText?_of_closesGroup
    {pattern : String}
    (closes : ClosesGroup pattern) :
    Notation.ofText? pattern = none := by
  rcases closes with ⟨front, back, rfl, isRead, closed⟩
  rcases Option.isSome_iff_exists.1 isRead with ⟨inner, read⟩
  have text : (front ++ ")" ++ back).toList = front.toList ++ ')' :: back.toList := by simp
  rcases Notation.ofText?_eq_some.1 read with ⟨_, _, _, within⟩
  have long : front.length < (front ++ ")" ++ back).length + 1 := by
    rw [← String.length_toList (s := front ++ ")" ++ back), text, List.length_append,
      String.length_toList]
    omega
  rcases run_groupBody_of_ofText? read (Nat.lt_succ_of_le within) long with
    ⟨final, atEnd, run, ⟨_, continues⟩ | ⟨opens, _⟩⟩
  · rw [Option.eq_none_iff_forall_ne_some]
    intro other readAll
    rcases Notation.ofText?_eq_some.1 readAll with ⟨last, runLast, lastAtEnd, _⟩
    rw [text] at runLast
    have runClosing := continues (')' :: back.toList) (closes_cons _)
    change (groupBody _ _).run (.start (front.toList ++ ')' :: back.toList)) = _ at runClosing
    rw [runClosing] at runLast
    cases runLast
    rw [ReadState.rest_followedBy, atEnd] at lastAtEnd
    cases lastAtEnd
  · exact absurd opens closed

theorem length_anchored
    (pattern : String) :
    (Selector.anchored pattern).length = pattern.length + 6 := by
  rw [← String.length_toList, toList_anchored, ← String.length_toList (s := pattern)]
  simp only [List.length_cons, List.length_append, List.length_nil]

/-- What is between the marks is read as the inside of a group. -/
theorem ofText?_anchored_of_run
    {pattern : String}
    {inner found : Notation}
    {middle : ReadState}
    (run : (groupBody Notation.depthLimit (pattern.length + 5)).run
      (.start (pattern.toList ++ [')', '$'])) = some (inner, middle))
    (closed : middle.rest = [')', '$']) :
    Notation.ofText? (Selector.anchored pattern) = some found ↔
      inner.depth + 2 ≤ Notation.depthLimit ∧ inner.anchored = found := by
  have runSequence : (Read.sequence (groupBody Notation.depthLimit) (pattern.length + 5 + 2) []).run
      (.start ('^' :: '(' :: '?' :: ':' :: (pattern.toList ++ [')', '$']))) =
      some ([.mark .dollar, .group (.flagged []) inner, .mark .caret],
        { middle with rest := [], isVerbose := false }) := by
    rw [run_sequence_anchored, run_bind_of_eq run, run_bind_of_eq (run_closing_cons closed)]
    change (Read.sequence (groupBody Notation.depthLimit) (pattern.length + 3 + 2) _).run
      { middle with rest := ['$'], isVerbose := false } = _
    rw [run_sequence_dollar rfl rfl]
  have runAll : (groupBody (Notation.depthLimit + 1) ((Selector.anchored pattern).length + 1)).run
      (.start (Selector.anchored pattern).toList) =
      some (inner.anchored, { middle with rest := [], isVerbose := false }) := by
    rw [length_anchored, toList_anchored, groupBody, alternatives_succ, bind_assoc,
      run_bind_of_eq runSequence]
    rfl
  rw [Notation.ofText?_eq_some, runAll, ← Notation.depth_anchored]
  constructor
  · rintro ⟨final, same, _, within⟩
    cases same
    exact ⟨within, rfl⟩
  · rintro ⟨within, rfl⟩
    exact ⟨_, rfl, rfl, within⟩

theorem of_ofText?_anchored
    {pattern : String}
    {found : Notation}
    (read : Notation.ofText? (Selector.anchored pattern) = some found) :
    ∃ inner middle behind,
      (groupBody Notation.depthLimit (pattern.length + 5)).run
        (.start (pattern.toList ++ [')', '$'])) = some (inner, middle) ∧
      middle.rest = ')' :: behind ∧ inner.depth < Notation.depthLimit := by
  rcases Notation.ofText?_eq_some.1 read with ⟨final, run, _, within⟩
  rw [length_anchored, toList_anchored, groupBody, alternatives_succ] at run
  rcases run_bind_eq_some.1 run with ⟨branches, _, runBranches, runPure⟩
  cases runPure
  rcases run_bind_eq_some.1 runBranches with ⟨parts, _, runParts, runFurther⟩
  change (Read.sequence _ (pattern.length + 5 + 2) []).run _ = _ at runParts
  rw [run_sequence_anchored] at runParts
  rcases run_bind_eq_some.1 runParts with ⟨inner, middle, runInner, runBehind⟩
  rcases run_bind_eq_some.1 runBehind with ⟨group, _, runClosing, runRest⟩
  rcases closed_of_run_closing runClosing with ⟨rfl, behind, closed⟩
  refine ⟨inner, middle, behind, runInner, closed, ?_⟩
  have inParts := yields_sequence _ _ _ _ _ _ runRest
  have inBranches := yields_further _ _ _ _ _ _ _ runFurther
  have inFound := Notation.depthOf_le_depth_ofBranches branches.reverse
  rw [Notation.depthOf_reverse] at inFound
  simp only [Notation.depthOf, Notation.depth] at inParts
  omega

/-- A pattern that is not left in a comment is read between the marks, if the levels suffice. -/
theorem ofText?_anchored_of_ofText?
    {pattern : String}
    {inner : Notation}
    (read : Notation.ofText? pattern = some inner)
    (closed : ¬LeavesCommentOpen pattern)
    (fits : inner.depth + 2 ≤ Notation.depthLimit) :
    Notation.ofText? (Selector.anchored pattern) = some inner.anchored := by
  have long : pattern.length < pattern.length + 5 := Nat.lt_add_of_pos_right (by decide)
  rcases run_groupBody_of_ofText? read (Nat.lt_of_succ_lt fits) long with
    ⟨final, atEnd, _, ⟨_, continues⟩ | ⟨opens, _⟩⟩
  · refine (ofText?_anchored_of_run (continues [')', '$'] (closes_cons _)) ?_).2 ⟨fits, rfl⟩
    rw [ReadState.rest_followedBy, atEnd, List.nil_append]
  · exact absurd opens closed

/-- What is read in front of a closing sign is a pattern that is not left in a comment. -/
theorem ofText?_of_run
    {front tail : List Char}
    {inner : Notation}
    {middle : ReadState}
    {bound : Nat}
    (run : (groupBody Notation.depthLimit bound).run (.start (front ++ tail)) =
      some (inner, middle))
    (closes : Closes tail)
    (rest : middle.rest = tail)
    (long : front.length < bound)
    (within : inner.depth < Notation.depthLimit) :
    Notation.ofText? (String.ofList front) = some inner ∧
      ¬LeavesCommentOpen (String.ofList front) := by
  change (groupBody _ bound).run ((ReadState.start front).followedBy tail) = _ at run
  rcases (framed_groupBody _ bound).backward closes (Nat.zero_le _)
    (Nat.le_of_eq (congrArg List.length rest).symm) run with ⟨before, rfl, runFront⟩
  have atEnd : before.rest = [] := List.append_left_eq_self.1 rest
  have read : Notation.ofText? (String.ofList front) = some inner := by
    refine Notation.ofText?_eq_some.2 ⟨before, ?_, atEnd, Nat.le_of_lt within⟩
    rw [String.toList_ofList, String.length_ofList]
    exact repeats_groupBody _ _ _ _ _ inner before (Nat.zero_le _) (Nat.lt_succ_self _) runFront
      (Nat.lt_succ_of_lt within)
  refine ⟨read, ?_⟩
  rcases run_groupBody_of_ofText? read within (by rwa [String.length_ofList]) with
    ⟨_, _, _, ⟨closed, _⟩ | ⟨_, swallows⟩⟩
  · exact closed
  · rw [String.toList_ofList] at swallows
    have short := swallows.shorter tail inner _ closes run
    rw [rest] at short
    exact absurd short (Nat.lt_irrefl _)

/-- What is read between the marks closes the group, or it is a pattern by itself. -/
theorem ofText?_of_anchored
    {pattern : String}
    {found : Notation}
    (read : Notation.ofText? (Selector.anchored pattern) = some found)
    (inside : ¬ClosesGroup pattern) :
    ∃ inner, Notation.ofText? pattern = some inner ∧ ¬LeavesCommentOpen pattern ∧
      inner.depth + 2 ≤ Notation.depthLimit ∧ found = inner.anchored := by
  rcases of_ofText?_anchored read with ⟨inner, middle, behind, run, closing, within⟩
  rcases (framed_groupBody _ _).suffix run with ⟨front, text⟩
  change front ++ middle.rest = pattern.toList ++ [')', '$'] at text
  have short : front.length < pattern.length + 5 := by
    have lengths := congrArg List.length text
    rw [List.length_append, List.length_append, String.length_toList, closing] at lengths
    simp only [List.length_cons, List.length_nil] at lengths
    omega
  have runFront := run
  rw [← text] at runFront
  rcases ofText?_of_run runFront (closing ▸ closes_cons behind) rfl short within with
    ⟨readFront, closed⟩
  rw [closing] at text
  have whole (same : front = pattern.toList) :
      ∃ inner, Notation.ofText? pattern = some inner ∧ ¬LeavesCommentOpen pattern ∧
        inner.depth + 2 ≤ Notation.depthLimit ∧ found = inner.anchored := by
    rw [same, String.ofList_toList] at readFront closed
    rw [same, List.append_cancel_left_eq] at text
    rcases (ofText?_anchored_of_run run (closing.trans text)).1 read with ⟨fits, sameFound⟩
    exact ⟨inner, readFront, closed, fits, sameFound.symm⟩
  rcases List.append_eq_append_iff.1 text with ⟨more, patternIs, signIs⟩ | ⟨more, frontIs, signIs⟩
  · cases more with
    | nil => exact whole (by rw [patternIs, List.append_nil])
    | cons char others =>
        cases signIs
        refine absurd ⟨String.ofList front, String.ofList others, ?_, ?_, closed⟩ inside
        · rw [← String.toList_inj, patternIs]
          simp
        · rw [readFront]
          rfl
  · -- The sign for the end does not close a group, so it is not behind what has been read.
    match more with
    | [] => exact whole (by rw [frontIs, List.append_nil])
    | [_] => cases signIs
    | _ :: _ :: _ => simp at signIs

/-! ## The pattern between marks -/

/-- A pattern between the conditions for the start and the end of the text. -/
def anchored (pattern : Pattern) : Pattern :=
  sequence [.assertion .textStart, pattern, .assertion .textEnd]

theorem pattern?_anchored
    (inner : Notation) :
    inner.anchored.pattern? {} =
      (inner.pattern? {}).map fun found => (anchored found.1, {}) := by
  cases found : inner.pattern? {} with
  | none => simp [Notation.anchored, Notation.pattern?, Notation.patterns?, Flags.changeAll, found]
  | some found =>
      simp [Notation.anchored, Notation.pattern?, Notation.patterns?, Flags.changeAll, found,
        anchored, Mark.assertion]

end Manifest.Pattern
