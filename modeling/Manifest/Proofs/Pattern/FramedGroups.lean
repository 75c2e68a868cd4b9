import Manifest.Proofs.Pattern.FramedBrackets

/-!
# Frames of groups

The parts of a group are read one by one up to the closing sign or the end of the text.
In front of a closing sign they are the same as at the end, so the inside of a group is
framed.
-/

namespace Manifest.Pattern.Read

variable {α β : Type} {least slack : Nat}

/-- Framed reading that takes the next character off a text. -/
structure Advances (reader : Read α) : Prop where
  framed : Framed 1 0 reader
  takes : Takes 1 1 reader

namespace Advances

theorem drop_bind
    {continuation : Unit → Read β}
    (framed : Framed 0 0 (continuation ())) :
    Advances (drop 1 >>= continuation) where
  framed := (framed_drop 1).bind fun _ => framed
  takes := (takes_drop 1).bind_framed 0 fun _ => framed

theorem bind
    {reader : Read α}
    {continuation : α → Read β}
    (advances : Advances reader)
    (framed : ∀ value, Framed 0 0 (continuation value)) :
    Advances (reader >>= continuation) where
  framed := advances.framed.bind framed
  takes := advances.takes.bind_framed 0 framed

end Advances

/-! ## Repetitions -/

theorem spanSpaced_length
    (condition : Char → Bool)
    (isVerbose : Bool)
    (text : List Char) :
    ∀ isBehind inComment : Bool,
      (spanSpaced condition isVerbose isBehind inComment text).2.length +
        (spanSpaced condition isVerbose isBehind inComment text).1.length ≤ text.length := by
  induction text with
  | nil =>
      intro isBehind inComment
      cases inComment <;> exact Nat.le_refl 0
  | cons char text inductionHypothesis =>
      intro isBehind inComment
      have longer {count : Nat} (shorter : count ≤ text.length) : count ≤ (char :: text).length :=
        Nat.le_succ_of_le shorter
      cases inComment with
      | true =>
          rw [spanSpaced]
          exact longer (inductionHypothesis isBehind _)
      | false =>
          rw [spanSpaced]
          split
          · exact longer (inductionHypothesis true false)
          · split
            · exact longer (inductionHypothesis true true)
            · split
              · have := inductionHypothesis true false
                simp only [List.length_cons]
                omega
              · simp

/-- The number that some digits stand for, with the blanks behind it. -/
def countOf (digits : List Char) : Read Nat := do
  let _ ← takeSpaced Text.isBlank
  match Text.decimal? digits with
  | some value => if value < 0x100000000 then return value else failure
  | none => failure

theorem count_eq :
    count = takeWhile Text.isBlank >>= fun _ => takeSpaced Char.isDigit >>= countOf :=
  rfl

theorem framed_countOf
    (digits : List Char) :
    Framed 0 0 (countOf digits) := by
  refine (framed_takeSpaced (by decide)).bind fun _ => ?_
  split
  · split
    · exact .pure _
    · exact .failure
  · exact .failure

theorem framed_count :
    Framed 0 0 count :=
  (framed_takeWhile (by decide)).bind fun _ => (framed_takeSpaced (by decide)).bind framed_countOf

/-- A number has digits. -/
theorem takes_count :
    Takes 0 1 count := by
  rw [count_eq]
  refine .framed_bind (framed_takeWhile (by decide)) fun _ => ⟨fun {state value final} _ run => ?_⟩
  rw [run_bind_of_eq (run_takeSpaced _ state)] at run
  have spent := spanSpaced_length Char.isDigit state.isVerbose state.rest false false
  have short := (framed_countOf _).length_le run
  cases digits : (spanSpaced Char.isDigit state.isVerbose false false state.rest).1 with
  | nil =>
      have noDigits (place : ReadState) : (countOf []).run place = none :=
        run_bind_fails (fun _ _ => rfl) (takeSpaced Text.isBlank) place
      rw [digits, noDigits] at run
      cases run
  | cons digit others =>
      simp only [digits, List.length_cons] at spent short
      omega

/-- The bounds of a repetition behind the first number. -/
def boundsFrom (least : Nat) : Read (Nat × Option Nat) := do
  if ← take "," then
    skipSpace
    if (← peek) = '\x7d' then
      drop 1
      return (least, none)
    let most ← count
    closeBrace
    if most < least then failure
    return (least, some most)
  closeBrace
  return (least, some least)

theorem bounds_eq :
    bounds = skipSpace >>= fun _ => count >>= boundsFrom :=
  rfl

theorem framed_boundsFrom
    (least : Nat) :
    Framed 0 0 (boundsFrom least) := by
  have ordered (most : Nat) : Framed 0 0 (closeBrace >>= fun _ =>
      if most < least then (failure : Read Unit) >>= fun _ => pure (least, some most)
      else (pure (least, some most) : Read (Nat × Option Nat))) := by
    refine framed_closeBrace.bind fun _ => ?_
    split
    · exact .bind .failure fun _ => .pure _
    · exact .pure _
  refine (framed_take (by decide)).bind fun hasMost => ?_
  split
  · refine framed_skipSpace.bind fun _ => framed_peek_bind (fun char => ?_)
      ((takes_count.bind_framed 0 ordered).mono (Nat.zero_le 1) (Nat.le_refl 1)) (Nat.le_refl 1)
    split
    · exact (framed_drop 1).bind fun _ => .pure _
    · exact framed_count.weaken.bind ordered
  · exact framed_closeBrace.bind fun _ => .pure _

theorem framed_repeatLast
    (parts : List Notation)
    (repeats : Nat)
    (most : Option Nat)
    (isLazy : Bool) :
    Framed least slack (repeatLast parts repeats most isLazy) := by
  unfold repeatLast
  split
  · split
    · exact .pure _
    · exact .failure
  · exact .failure

theorem advances_repeatBySign
    (parts : List Notation)
    (repeats : Nat)
    (most : Option Nat) :
    Advances (repeatBySign parts repeats most) :=
  .drop_bind ((framed_take (by decide)).bind fun isLazy =>
    framed_repeatLast parts repeats most isLazy)

/-- The repetition of the last of some parts with some bounds, behind the brace. -/
def repeatWithin (parts : List Notation) (within : Nat × Option Nat) : Read (List Notation) := do
  skipSpace
  let isLazy ← take "?"
  repeatLast parts within.1 within.2 isLazy

theorem repeatByCount_eq
    (parts : List Notation) :
    repeatByCount parts = drop 1 >>= fun _ => skipSpace >>= fun _ =>
      count >>= fun repeats => boundsFrom repeats >>= repeatWithin parts := by
  rw [repeatByCount, bounds_eq]
  simp only [bind_assoc]
  rfl

theorem framed_repeatWithin
    (parts : List Notation)
    (within : Nat × Option Nat) :
    Framed 0 0 (repeatWithin parts within) :=
  framed_skipSpace.bind fun _ => (framed_take (by decide)).bind fun isLazy =>
    framed_repeatLast parts within.1 within.2 isLazy

theorem advances_repeatByCount
    (parts : List Notation) :
    Advances (repeatByCount parts) := by
  rw [repeatByCount_eq]
  exact .drop_bind (framed_skipSpace.bind fun _ => framed_count.bind fun repeats =>
    (framed_boundsFrom repeats).bind (framed_repeatWithin parts))

/-- A repetition in braces goes beyond the blanks behind the opening one. -/
theorem passesBrace_repeatByCount
    (parts : List Notation) :
    PassesBrace (repeatByCount parts) := by
  intro state text value final brace run
  rw [repeatByCount_eq, run_bind_of_eq (run_drop 1 state), run_bind_of_eq (run_skipSpace _)] at run
  simp only [brace, List.drop_succ_cons, List.drop_zero] at run
  have takes : Takes 0 1 (count >>= fun repeats => boundsFrom repeats >>= repeatWithin parts) :=
    takes_count.bind_framed 0 fun repeats =>
      (framed_boundsFrom repeats).bind (framed_repeatWithin parts)
  exact takes.length_add_le (Nat.zero_le _) run

/-! ## What a parenthesis opens -/

/-- Notes the name of a group, which no other group has. -/
def noteName (name : String) : Read Unit := do
  if (← get).names.contains name then failure
  modify fun state => { state with names := name :: state.names }

theorem framed_noteName
    (name : String) :
    Framed 0 0 (noteName name) := by
  refine .get_bind (fun _ _ _ => rfl) fun state => ?_
  dsimp only
  split
  · exact .bind .failure fun _ => .modify (fun _ => rfl) fun _ _ => rfl
  · exact .modify (fun _ => rfl) fun _ _ => rfl

theorem framed_groupName :
    Framed 0 0 groupName := by
  refine (framed_takeWhile_slack _).bind_next fun name _ => ?_
  split
  · exact .failure
  · dsimp only
    split
    · exact .bind .failure fun _ => framed_noteName _
    · exact framed_noteName _

theorem framed_numbered :
    Framed 0 0 numbered :=
  .bind (.modify (fun _ => rfl) fun _ _ => rfl) fun _ =>
    .get_bind (fun _ _ _ => rfl) fun _ => .pure _

/-- What a parenthesis opens that looks neither ahead nor behind. -/
def plainOpening : Read Opening := do
  if ← takeAny ["?P<", "?<"] then
    groupName
    numbered
  else if ← take "?" then
    let letters ← takeWhile fun char => char != ':' && char != ')'
    let changes ← ofOption (flagChanges? true letters)
    if (← next) = ':' then return .group (.flagged changes)
    else if letters.isEmpty then failure
    else return .flags changes
  else numbered

theorem framed_plainOpening :
    Framed 0 0 plainOpening := by
  refine (framed_takeAny (by decide)).bind fun isNamed => ?_
  split
  · exact framed_groupName.bind fun _ => framed_numbered
  · refine (framed_take (by decide)).bind fun hasFlags => ?_
    split
    · refine (framed_takeWhile (by decide)).bind fun letters =>
        (Framed.ofOption _).bind fun changes => framed_next.bind fun sign => ?_
      split
      · exact .pure _
      · split
        · exact .failure
        · exact .pure _
    · exact framed_numbered

theorem framed_opening :
    Framed 0 0 opening := by
  refine framed_skipSpace.bind fun _ => (framed_takeAny (by decide)).bind fun isRefused => ?_
  dsimp only
  split
  · exact .bind .failure fun _ => framed_plainOpening
  · exact framed_plainOpening

/-- What stands behind the inside of a group; the flags inside of it end there. -/
def closing (kind : GroupKind) (outer : Bool) (inner : Notation) : Read Notation := do
  if !(← take ")") then failure
  modify fun state => { state with isVerbose := outer }
  return .group kind inner

/-- The closing sign, which must be there, is the next character. -/
theorem closing_eq
    (kind : GroupKind)
    (outer : Bool)
    (inner : Notation) :
    closing kind outer inner =
      (next >>= fun char =>
        if char = ')' then
          modify (fun state => { state with isVerbose := outer }) >>= fun _ =>
            pure (.group kind inner)
        else failure) := by
  refine StateT.ext fun state => ?_
  rw [closing]
  rw [run_bind_of_eq (run_take _ state)]
  cases text : state.rest with
  | nil =>
      rw [run_bind_of_none (run_next_nil text)]
      rfl
  | cons char others =>
      rw [run_bind_of_eq (run_next_cons text)]
      by_cases isClosing : char = ')'
      · subst isClosing
        rfl
      · rw [if_neg isClosing]
        have other : ")".toList.isPrefixOf (char :: others) = false := by
          simp [List.isPrefixOf, Ne.symm isClosing]
        rw [other]
        rfl

theorem framed_closing
    (kind : GroupKind)
    (outer : Bool)
    (inner : Notation) :
    Framed 0 0 (closing kind outer inner) := by
  rw [closing_eq]
  refine framed_next.bind fun char => ?_
  split
  · exact .bind (.modify (fun _ => rfl) fun _ _ => rfl) fun _ => .pure _
  · exact .failure

theorem advances_parenthesis
    {nested : Read Notation}
    (framed : Framed 0 0 nested) :
    Advances (parenthesis nested) := by
  have inside (kind : GroupKind) (outer : Bool) : Framed 0 0 (nested >>= closing kind outer) :=
    framed.bind (framed_closing kind outer)
  refine .drop_bind (.get_bind (fun _ _ _ => rfl) fun state => ?_)
  refine framed_opening.bind fun found => ?_
  split
  · exact .bind (.modify (fun _ => rfl) fun _ _ => rfl) fun _ => .pure _
  · dsimp only
    split
    · exact .bind (.modify (fun _ => rfl) fun _ _ => rfl) fun _ => inside _ _
    · exact inside _ _

/-! ## Sequences -/

/-- The parts with one more, which starts with a character. -/
def part (nested : Read Notation) (bound : Nat) (parts : List Notation) :
    Char → Read (List Notation)
  | '(' => return (← parenthesis nested) :: parts
  | '[' => return .oneOf (← bracketed Notation.depthLimit bound) :: parts
  | '*' => repeatBySign parts 0 none
  | '+' => repeatBySign parts 1 none
  | '?' => repeatBySign parts 0 (some 1)
  | '\x7b' => repeatByCount parts
  | '\\' => do
      drop 1
      return (← escape).toNotation :: parts
  | '.' => do
      drop 1
      return .dot :: parts
  | '^' => do
      drop 1
      return .mark .caret :: parts
  | '$' => do
      drop 1
      return .mark .dollar :: parts
  | char => do
      drop 1
      return .literal { char } :: parts

/-- Whether a sign ends a sequence. -/
def endsSequence (char : Char) : Bool :=
  char = ')' || char = '|'

/-- What is done in a sequence with the next character, if there is one. -/
def sequenceStep (nested : Nat → Read Notation) (bound : Nat) (parts : List Notation) :
    Option Char → Read (List Notation)
  | none => return parts
  | some char =>
      if endsSequence char then return parts
      else part (nested bound) bound parts char >>= sequence nested bound

theorem sequence_succ
    (nested : Nat → Read Notation)
    (bound : Nat)
    (parts : List Notation) :
    sequence nested (bound + 1) parts =
      skipSpace >>= fun _ => peek? >>= sequenceStep nested bound parts := by
  have goesOn {char : Char} (continues : endsSequence char = false) :
      sequenceStep nested bound parts (some char) =
        part (nested bound) bound parts char >>= sequence nested bound := by
    rw [sequenceStep, continues]
    rfl
  rw [sequence]
  congr 1
  funext _
  congr 1
  funext char?
  split
  case h_1 | h_2 | h_3 => rfl
  case h_14 =>
    rw [goesOn (by simp_all [endsSequence]), part, bind_assoc, pure_bind]
    all_goals assumption
  all_goals
    rw [goesOn (by decide)]
    simp only [part, bind_assoc, pure_bind]

section Nested

variable {nested : Nat → Read Notation} (framed : ∀ bound, Framed 0 0 (nested bound))

include framed

theorem takes_part
    (bound : Nat)
    (parts : List Notation)
    (char : Char) :
    Takes 1 1 (part (nested bound) bound parts char) := by
  have unread (found : Notation) : Advances (drop 1 >>= fun _ =>
      (pure (found :: parts) : Read (List Notation))) :=
    .drop_bind (.pure _)
  unfold part
  split
  · exact ((advances_parenthesis (framed bound)).bind fun _ => .pure _).takes
  · exact ((takes_bracketed _ bound).bind_left fun _ => .pure _).mono (Nat.zero_le 1)
      (Nat.le_refl 1)
  · exact (advances_repeatBySign parts 0 none).takes
  · exact (advances_repeatBySign parts 1 none).takes
  · exact (advances_repeatBySign parts 0 (some 1)).takes
  · exact (advances_repeatByCount parts).takes
  · refine (takes_drop 1).bind_left fun _ => ?_
    exact (takes_escape.bind_left fun _ => .pure _).mono (Nat.le_refl 0) (Nat.zero_le 1)
  all_goals exact (unread _).takes

theorem takes_sequence
    (bound : Nat) :
    ∀ parts, Takes 0 0 (sequence nested bound parts) := by
  induction bound with
  | zero => exact fun parts => .failure
  | succ bound inductionHypothesis =>
      intro parts
      rw [sequence_succ]
      refine .framed_bind framed_skipSpace fun _ => takes_peek?_bind (.pure _) fun char => ?_
      rw [sequenceStep]
      split
      · exact .pure _
      · exact ((takes_part framed bound parts char).bind_left fun found =>
          inductionHypothesis found).mono (Nat.le_refl 1) (Nat.zero_le 1)

/-- A sequence that starts with a brace goes beyond the blanks behind it. -/
theorem passesBrace_sequence
    (bound : Nat)
    (parts : List Notation) :
    PassesBrace (sequence nested bound parts) := by
  intro state text value final brace run
  cases bound with
  | zero => cases run
  | succ bound =>
      have visible : visibleRest state.isVerbose ('\x7b' :: text) = '\x7b' :: text := by
        cases state.isVerbose <;> rfl
      rw [sequence_succ, run_bind_of_eq (run_skipSpace state), brace, visible, ← brace] at run
      change (peek? >>= sequenceStep nested bound parts).run state = _ at run
      rw [run_peek?_bind, brace] at run
      rcases run_bind_eq_some.1 run with ⟨found, middle, runPart, runRest⟩
      have passes := passesBrace_repeatByCount parts state text found middle brace runPart
      have short := (takes_sequence framed bound found).length_add_le (Nat.zero_le _) runRest
      omega

theorem framed_part_bind
    {bound : Nat}
    {continuation : List Notation → Read β}
    (framedRest : ∀ parts, Framed 0 0 (continuation parts))
    (passes : ∀ parts, PassesBrace (continuation parts))
    (parts : List Notation)
    (char : Char) :
    Framed 1 0 (part (nested bound) bound parts char >>= continuation) := by
  have unread (found : Notation) : Framed 1 0 ((drop 1 >>= fun _ =>
      (pure (found :: parts) : Read (List Notation))) >>= continuation) :=
    (Framed.bind (framed_drop 1) fun _ => .pure _).bind framedRest
  unfold part
  split
  · exact ((advances_parenthesis (framed bound)).framed.bind fun _ => .pure _).bind framedRest
  · exact ((framed_bracketed _ bound).weaken.bind fun _ => .pure _).bind framedRest
  · exact (advances_repeatBySign parts 0 none).framed.bind framedRest
  · exact (advances_repeatBySign parts 1 none).framed.bind framedRest
  · exact (advances_repeatBySign parts 0 (some 1)).framed.bind framedRest
  · exact (advances_repeatByCount parts).framed.bind framedRest
  · simp only [bind_assoc, pure_bind]
    exact (framed_drop 1).bind fun _ =>
      framed_escape_bind (fun _ => framedRest _) (passes _)
  all_goals exact unread _

theorem framed_sequence
    (bound : Nat) :
    ∀ parts, Framed 0 0 (sequence nested bound parts) := by
  induction bound with
  | zero => exact fun parts => .failure
  | succ bound inductionHypothesis =>
      intro parts
      rw [sequence_succ]
      refine framed_skipSpace.bind fun _ => framed_peek?_bind (.pure _) (fun char => ?_) rfl
      rw [sequenceStep]
      split
      · exact .pure _
      · exact framed_part_bind framed inductionHypothesis
          (passesBrace_sequence framed bound) parts char

theorem framed_alternatives
    (bound : Nat) :
    ∀ found, Framed 0 0 (alternatives nested bound found) := by
  induction bound with
  | zero => exact fun found => .failure
  | succ bound inductionHypothesis =>
      intro found
      refine (framed_sequence framed (bound + 1) []).bind fun parts =>
        (framed_take (by decide)).bind fun isMore => ?_
      split
      · exact inductionHypothesis _
      · exact .pure _

end Nested

/-- The inside of a group is the same in front of the closing sign and at the end of the text. -/
theorem framed_groupBody
    (depth : Nat) :
    ∀ bound, Framed 0 0 (groupBody depth bound) := by
  induction depth with
  | zero => exact fun bound => .failure
  | succ depth inductionHypothesis =>
      intro bound
      exact (framed_alternatives inductionHypothesis bound []).bind fun _ => .pure _

end Manifest.Pattern.Read
