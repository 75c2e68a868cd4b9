import Manifest.Proofs.Pattern.FramedEscapes

/-!
# Frames of brackets

Inside brackets the closing sign of a group is a character as others are.  What ends in
front of it there has not come to the closing bracket, so it is read further or not at
all; this is why the parts of brackets are framed where something is left behind
them.
-/

namespace Manifest.Pattern.Read

variable {α β : Type} {least slack : Nat}

/-! ## Items and ranges -/

/-- What is done with an item fails if that is a condition. -/
theorem framed_classItem_bind
    {continuation : Primitive → Read β}
    (framed : ∀ found, Framed 0 slack (continuation found))
    (fails : ∀ mark state, (continuation (.mark mark)).run state = none) :
    Framed 0 slack (classItem >>= continuation) := by
  rw [classItem, bind_assoc]
  refine framed_next.weaken.bind fun char => ?_
  split
  · refine framed_escape_bind framed ?_
    intro state text value final _ run
    rw [fails] at run
    cases run
  · exact framed _

theorem takes_classItem :
    Takes 0 1 classItem := by
  refine takes_next.bind_left fun char => ?_
  split
  · exact takes_escape.mono (Nat.le_refl 0) (Nat.zero_le 1)
  · exact .pure _

/-- Whether the next character is a dash that belongs to a range, and what comes behind. -/
def isRangeDash (isVerbose : Bool) : List Char → Bool
  | '-' :: rest => lookAhead isVerbose rest != some ']' && lookAhead isVerbose rest != some '-'
  | _ => false

theorem run_atRangeDash
    (state : ReadState) :
    atRangeDash.run state = some (isRangeDash state.isVerbose state.rest, state) := by
  rw [atRangeDash, run_get_bind]
  split
  · rename_i rest same
    rw [same]
    rfl
  · rename_i other
    rw [isRangeDash]
    · rfl
    · exact other

/-- What a dash finds ahead of it where there is nothing else is neither a bracket nor a dash. -/
theorem head?_ne_of_visible
    {rest : List Char}
    {char : Char}
    (visible : Text.isBlank char = false)
    (absent : char ∉ rest.filter fun char => !Text.isBlank char) :
    rest.head? ≠ some char := by
  intro found
  refine absent (List.mem_filter.2 ⟨List.mem_of_mem_head? found, ?_⟩)
  rw [visible]
  rfl

/-- A dash looks ahead for the same characters whether the closing sign follows or not. -/
theorem lookAhead_append_eq_some
    {tail : List Char}
    {char : Char}
    (visible : Text.isBlank char = false)
    (notSign : char ≠ '#')
    (notClosing : char ≠ ')')
    (closes : Closes tail)
    (isVerbose : Bool)
    (rest : List Char) :
    lookAhead isVerbose (rest ++ tail) = some char ↔ lookAhead isVerbose rest = some char := by
  rcases closes with ⟨behind, rfl⟩
  have closingVisible : Text.isBlank ')' = false := by decide
  cases isVerbose with
  | false =>
      cases rest with
      | nil => simp [lookAhead, Ne.symm notClosing]
      | cons first others => rfl
  | true =>
      simp only [lookAhead, if_true, List.filter_append, List.filter_cons, closingVisible,
        Bool.not_false]
      cases found : rest.filter fun char => !Text.isBlank char with
      | nil =>
          have absent := head?_ne_of_visible visible (by rw [found]; exact List.not_mem_nil)
          simp [absent, Ne.symm notClosing]
      | cons first others =>
          by_cases isSign : first = '#'
          · subst isSign
            cases others with
            | nil =>
                have absent := head?_ne_of_visible visible (by rw [found]; simpa using notSign)
                simp [absent, Ne.symm notClosing]
            | cons second others => rfl
          · simp [isSign]

theorem isRangeDash_append
    {tail : List Char}
    (closes : Closes tail)
    (isVerbose : Bool)
    (text : List Char) :
    isRangeDash isVerbose (text ++ tail) = isRangeDash isVerbose text := by
  cases text with
  | nil =>
      rcases closes with ⟨behind, rfl⟩
      rfl
  | cons first rest =>
      by_cases isDash : first = '-'
      · subst isDash
        have bracket := lookAhead_append_eq_some (by decide : Text.isBlank ']' = false) (by decide)
          (by decide) closes isVerbose rest
        have dash := lookAhead_append_eq_some (by decide : Text.isBlank '-' = false) (by decide)
          (by decide) closes isVerbose rest
        simp only [List.cons_append, isRangeDash]
        rw [Bool.eq_iff_iff]
        simp only [Bool.and_eq_true, bne_iff_ne, ne_eq, bracket, dash]
      · simp [isRangeDash, isDash]

theorem framed_atRangeDash :
    Framed 0 0 atRangeDash := by
  refine .of_step (fun isVerbose text => (isRangeDash isVerbose text, text)) run_atRangeDash
    (fun _ text => List.suffix_rfl) fun isVerbose text _ => .alone fun tail closes => ?_
  rw [isRangeDash_append closes]

/-- An item or a range. There has to be a character behind an item. -/
theorem framed_classRange :
    Framed 0 1 classRange := by
  rw [classRange]
  refine framed_classItem_bind (fun first => ?_) fun mark state => ?_
  · refine .bind framed_skipSpace.weaken fun _ =>
      framed_peek.bind fun _ =>
        .bind framed_atRangeDash.weaken fun isRange => ?_
    split
    · refine .bind framed_nextSpaced.weaken fun _ =>
        framed_classItem_bind (fun last => ?_) fun mark state => ?_
      · refine (Framed.ofOption _).bind fun low => (Framed.ofOption _).bind fun high => ?_
        split
        · exact .pure _
        · exact .failure
      · exact run_bind_fails (fun _ _ => rfl) _ state
    · exact .ofOption _
  · refine run_bind_fails (fun _ => run_bind_fails (fun _ =>
      run_bind_fails (fun isRange state => ?_) _) _) _ state
    split
    · exact run_bind_fails (fun _ => run_bind_fails (fun _ _ => rfl) _) _ state
    · rfl

theorem takes_classRange :
    Takes 0 1 classRange := by
  refine takes_classItem.bind_left fun first => ?_
  refine .framed_bind framed_skipSpace fun _ => .framed_bind framed_peek fun _ =>
    .framed_bind framed_atRangeDash fun isRange => ?_
  split
  · refine .framed_bind framed_nextSpaced fun _ => ?_
    refine (takes_classItem.mono (Nat.le_refl 0) (Nat.zero_le 1)).bind_framed 0 fun last => ?_
    refine (Framed.ofOption _).bind fun low => (Framed.ofOption _).bind fun high => ?_
    split
    · exact .pure _
    · exact .failure
  · have unread : Framed 0 0 (ofOption first.toClass?) := .ofOption _
    exact unread.takes_zero 0

/-! ## Classes with a name -/

/-- The class whose name stands at the start of a text, and the text behind it. -/
def nameAt? (isNegated : Bool) (text : List Char) : Option (ClassNotation × List Char) :=
  let name := text.takeWhile (· != ':')
  match asciiClass? (String.ofList name), ":]".toList.isPrefixOf (text.drop name.length) with
  | some kind, true => some (.named kind isNegated, (text.drop name.length).drop ":]".length)
  | _, _ => none

/-- The class with a name at the start of a text, brackets included. -/
def namedClassAt? (text : List Char) : Option (ClassNotation × List Char) :=
  if "[:".toList.isPrefixOf text then
    let inside := text.drop "[:".length
    if "^".toList.isPrefixOf inside then nameAt? true (inside.drop "^".length)
    else nameAt? false inside
  else none

/-- What is found, and the text behind it or, if nothing is found, the whole text. -/
def foundOrAll (text : List Char) : Option (α × List Char) → Option α × List Char
  | some (found, rest) => (some found, rest)
  | none => (none, text)

theorem run_name
    (isNegated : Bool)
    (place state : ReadState) :
    (takeWhile (· != ':') >>= fun name => take ":]" >>= fun closed =>
      match asciiClass? (String.ofList name), closed with
      | some kind, true => pure (some (.named kind isNegated))
      | _, _ => set place >>= fun _ => pure none : Read (Option ClassNotation)).run state =
      match nameAt? isNegated state.rest with
      | some (found, rest) => some (some found, { state with rest })
      | none => some (none, place) := by
  rw [run_bind_of_eq (run_takeWhile _ state), run_bind_of_eq (run_take _ _), nameAt?]
  dsimp only
  cases asciiClass? (String.ofList (state.rest.takeWhile (· != ':'))) with
  | none => rfl
  | some kind =>
      cases ":]".toList.isPrefixOf
        (state.rest.drop (state.rest.takeWhile (· != ':')).length) with
      | false => rfl
      | true => rfl

theorem run_namedClass?
    (state : ReadState) :
    namedClass?.run state =
      some ((foundOrAll state.rest (namedClassAt? state.rest)).1,
        { state with rest := (foundOrAll state.rest (namedClassAt? state.rest)).2 }) := by
  rw [namedClass?, run_get_bind, run_bind_of_eq (run_take _ state), namedClassAt?]
  cases "[:".toList.isPrefixOf state.rest with
  | false => rfl
  | true =>
      rw [if_neg (by decide), run_bind_of_eq (run_take _ _)]
      refine (run_name _ _ _).trans ?_
      simp only [if_true]
      cases "^".toList.isPrefixOf (state.rest.drop "[:".length) with
      | false =>
          simp only [Bool.false_eq_true, if_false]
          cases nameAt? false (state.rest.drop "[:".length) <;> rfl
      | true =>
          simp only [if_true]
          cases nameAt? true ((state.rest.drop "[:".length).drop "^".length) <;> rfl

/-- The closing sign of a group belongs to no name. -/
theorem asciiClass?_of_mem
    {name : List Char}
    (mem : ')' ∈ name) :
    asciiClass? (String.ofList name) = none := by
  unfold asciiClass?
  split
  case h_15 => rfl
  all_goals
    rename_i same
    have spelled := congrArg String.toList same
    rw [String.toList_ofList] at spelled
    rw [spelled] at mem
    exact absurd mem (by decide)

theorem nameAt?_append
    {tail : List Char}
    (closes : Closes tail)
    (isNegated : Bool)
    (text : List Char) :
    nameAt? isNegated (text ++ tail) =
      (nameAt? isNegated text).map fun found => (found.1, found.2 ++ tail) := by
  rw [nameAt?, nameAt?, List.takeWhile_append]
  by_cases whole : (text.takeWhile (· != ':')).length = text.length
  · rw [if_pos whole, whole, List.drop_length]
    rcases closes with ⟨behind, rfl⟩
    have noName :
        asciiClass? (String.ofList (text ++ (')' :: behind).takeWhile (· != ':'))) = none :=
      asciiClass?_of_mem (List.mem_append_right text (by simp))
    rw [noName]
    cases asciiClass? (String.ofList (text.takeWhile (· != ':'))) <;> rfl
  · rw [if_neg whole,
      List.drop_append_of_le_length (List.takeWhile_prefix (· != ':')).length_le,
      isPrefixOf_append_closing (by decide) closes]
    cases asciiClass? (String.ofList (text.takeWhile (· != ':'))) with
    | none => rfl
    | some kind =>
        cases closed : ":]".toList.isPrefixOf
          (text.drop (text.takeWhile (· != ':')).length) with
        | false => rfl
        | true =>
            dsimp only
            rw [drop_append_of_isPrefixOf closed]
            rfl

theorem namedClassAt?_append
    {tail : List Char}
    (closes : Closes tail)
    (text : List Char) :
    namedClassAt? (text ++ tail) =
      (namedClassAt? text).map fun found => (found.1, found.2 ++ tail) := by
  rw [namedClassAt?, namedClassAt?, isPrefixOf_append_closing (by decide) closes]
  cases starts : "[:".toList.isPrefixOf text with
  | false => rfl
  | true =>
      simp only [if_true]
      rw [drop_append_of_isPrefixOf starts, isPrefixOf_append_closing (by decide) closes]
      cases sign : "^".toList.isPrefixOf (text.drop "[:".length) with
      | false => exact nameAt?_append closes false _
      | true =>
          simp only [if_true]
          rw [drop_append_of_isPrefixOf sign]
          exact nameAt?_append closes true _

theorem nameAt?_suffix
    {isNegated : Bool}
    {text rest : List Char}
    {found : ClassNotation}
    (named : nameAt? isNegated text = some (found, rest)) :
    rest <:+ text := by
  rw [nameAt?] at named
  split at named
  · cases named
    exact (List.drop_suffix _ _).trans (List.drop_suffix _ text)
  · cases named

theorem namedClassAt?_suffix
    {text rest : List Char}
    {found : ClassNotation}
    (named : namedClassAt? text = some (found, rest)) :
    rest <:+ text := by
  rw [namedClassAt?] at named
  split at named
  · dsimp only at named
    split at named
    · exact (nameAt?_suffix named).trans ((List.drop_suffix _ _).trans (List.drop_suffix _ text))
    · exact (nameAt?_suffix named).trans (List.drop_suffix _ text)
  · cases named

theorem framed_namedClass? :
    Framed 0 0 namedClass? := by
  refine .of_step (fun _ text => foundOrAll text (namedClassAt? text)) run_namedClass? ?_ ?_
  · intro _ text
    cases named : namedClassAt? text with
    | none => exact List.suffix_rfl
    | some found => exact namedClassAt?_suffix named
  · intro _ text _
    refine .alone fun tail closes => ?_
    rw [namedClassAt?_append closes]
    cases namedClassAt? text <;> rfl

/-! ## Brackets -/

theorem framed_classOperation? :
    Framed 0 0 classOperation? := by
  refine (framed_take (by decide)).bind fun _ => ?_
  split
  · exact .pure _
  · refine (framed_take (by decide)).bind fun _ => ?_
    split
    · exact .pure _
    · refine (framed_take (by decide)).bind fun _ => ?_
      split
      · exact .pure _
      · exact .pure _

/-- The first characters in brackets, which are read as literals whatever they are elsewhere. -/
def firstItems (isNegated : Bool) : Read (Bool × List ClassNotation) := do
  let dashes ← takeSpaced (· = '-')
  let first ← peek
  if dashes.isEmpty && first = ']' then
    let _ ← nextSpaced
    let _ ← peek
    return (isNegated, [.literal { char := ']' }])
  else return (isNegated, dashes.map fun dash => .literal { char := dash })

theorem framed_firstItems
    (isNegated : Bool) :
    Framed 0 1 (firstItems isNegated) := by
  refine (framed_takeSpaced (by decide)).weaken.bind fun dashes =>
    framed_peek.bind fun first => ?_
  split
  · exact framed_nextSpaced.weaken.bind fun _ => framed_peek.bind fun _ => .pure _
  · exact .pure _

/-- The start of brackets. There has to be a character behind it. -/
theorem framed_classStart :
    Framed 0 1 classStart := by
  refine framed_peek.bind fun sign => ?_
  dsimp only
  split
  · exact framed_nextSpaced.weaken.bind fun _ => framed_firstItems _
  · exact framed_firstItems _

/-- What is done inside brackets with the next character, which is not blank. -/
def classStep (nested : Nat → Read ClassNotation) (bound : Nat) (items : List ClassNotation)
    (left : Option (ClassOperation × ClassNotation)) : Char → Read ClassNotation
  | '[' => do
      match ← namedClass? with
      | some named => classBody nested bound (named :: items) left
      | none =>
          let inner ← nested bound
          classBody nested bound (inner :: items) left
  | ']' => do
      drop 1
      return withLeft left items
  | _ => do
      match ← classOperation? with
      | some kind => classBody nested bound [] (some (kind, withLeft left items))
      | none =>
          let item ← classRange
          classBody nested bound (item :: items) left

theorem classBody_succ
    (nested : Nat → Read ClassNotation)
    (bound : Nat)
    (items : List ClassNotation)
    (left : Option (ClassOperation × ClassNotation)) :
    classBody nested (bound + 1) items left =
      skipSpace >>= fun _ => peek >>= classStep nested bound items left :=
  rfl

section Nested

variable {nested : Nat → Read ClassNotation} (framed : ∀ bound, Framed 0 0 (nested bound))

include framed

theorem takes_classStep
    {bound : Nat}
    (takes : ∀ items left, Takes 0 1 (classBody nested bound items left))
    (items : List ClassNotation)
    (left : Option (ClassOperation × ClassNotation))
    (char : Char) :
    Takes 1 1 (classStep nested bound items left char) := by
  unfold classStep
  split
  · refine .framed_bind framed_namedClass? fun named => ?_
    split
    · exact takes _ left
    · exact .framed_bind (framed bound) fun _ => takes _ left
  · exact (takes_drop 1).bind_left fun _ => .pure _
  · refine .framed_bind framed_classOperation? fun found => ?_
    split
    · exact takes [] _
    · exact .framed_bind framed_classRange fun _ => takes _ left

/-- The inside of brackets ends with the closing bracket. -/
theorem takes_classBody
    (bound : Nat) :
    ∀ items left, Takes 0 1 (classBody nested bound items left) := by
  induction bound with
  | zero => exact fun items left => .failure
  | succ bound inductionHypothesis =>
      intro items left
      rw [classBody_succ]
      exact .framed_bind framed_skipSpace fun _ =>
        takes_peek_bind (takes_classStep framed inductionHypothesis items left)

theorem framed_classBody
    (bound : Nat) :
    ∀ items left, Framed 0 0 (classBody nested bound items left) := by
  induction bound with
  | zero => exact fun items left => .failure
  | succ bound inductionHypothesis =>
      intro items left
      have takes := takes_classBody framed bound
      have step (char : Char) : Framed 1 0 (classStep nested bound items left char) := by
        unfold classStep
        split
        · refine framed_namedClass?.weaken.bind fun named => ?_
          split
          · exact inductionHypothesis _ left
          · exact (framed bound).bind fun _ => inductionHypothesis _ left
        · exact (framed_drop 1).bind fun _ => .pure _
        · refine framed_classOperation?.weaken.bind fun found => ?_
          split
          · exact inductionHypothesis [] _
          · exact framed_classRange.bind_of_takes (fun _ => inductionHypothesis _ left)
              (fun _ => takes _ left) (Nat.le_refl 1)
      rw [classBody_succ]
      exact framed_skipSpace.bind fun _ =>
        framed_peek_bind step (takes_classStep framed takes items left ')') (Nat.le_refl 1)

end Nested

theorem framed_bracketed
    (depth : Nat) :
    ∀ bound, Framed 0 0 (bracketed depth bound) := by
  induction depth with
  | zero => exact fun bound => .failure
  | succ depth inductionHypothesis =>
      intro bound
      have body (items : List ClassNotation) (isNegated : Bool) :
          Framed 0 0 (classBody (bracketed depth) bound items none >>= fun inner =>
            (pure (.bracketed inner isNegated) : Read ClassNotation)) :=
        (framed_classBody inductionHypothesis bound items none).bind fun _ => .pure _
      have takes (items : List ClassNotation) (isNegated : Bool) :
          Takes 0 1 (classBody (bracketed depth) bound items none >>= fun inner =>
            (pure (.bracketed inner isNegated) : Read ClassNotation)) :=
        (takes_classBody inductionHypothesis bound items none).bind_left fun _ => .pure _
      exact framed_nextSpaced.bind fun _ => framed_classStart.bind_of_takes
        (fun start => body start.2 start.1) (fun start => takes start.2 start.1) (Nat.le_refl 1)

theorem takes_bracketed
    (depth bound : Nat) :
    Takes 0 1 (bracketed depth bound) := by
  cases depth with
  | zero => exact .failure
  | succ depth =>
      refine takes_nextSpaced.bind_framed 1 fun _ => framed_classStart.bind fun start => ?_
      exact .weaken
        ((framed_classBody (framed_bracketed depth) bound start.2 none).bind fun _ => .pure _)

end Manifest.Pattern.Read
