import Manifest.Proofs.Pattern.FramedText

/-!
# Frames of escapes and brackets
-/

namespace Manifest.Pattern.Read

variable {α β : Type} {least slack : Nat}

/-! ## Code points and names -/

theorem framed_closeBrace :
    Framed 0 0 closeBrace := by
  refine framed_next.bind fun char => ?_
  split
  · exact .failure
  · exact .pure ()

theorem takes_closeBrace :
    Takes 0 1 closeBrace := by
  refine takes_next.bind_framed 0 fun char => ?_
  split
  · exact .failure
  · exact .pure ()

theorem framed_hexChar
    (digits : List Char) :
    Framed least slack (hexChar digits) := by
  rw [hexChar]
  split
  · split
    · exact .pure _
    · exact .failure
  · exact .failure

theorem framed_takeExactly
    (condition : Char → Bool)
    (count : Nat) :
    Framed 0 0 (takeExactly condition count) := by
  induction count with
  | zero => exact .pure []
  | succ count inductionHypothesis =>
      refine framed_nextSpaced.bind fun char => ?_
      split
      · exact .bind .failure fun _ => inductionHypothesis.bind fun _ => .pure _
      · exact inductionHypothesis.bind fun _ => .pure _

theorem takes_takeExactly
    (condition : Char → Bool)
    {count : Nat}
    (positive : 0 < count) :
    Takes 0 1 (takeExactly condition count) := by
  obtain ⟨count, rfl⟩ := Nat.exists_eq_add_one.2 positive
  refine takes_nextSpaced.bind_framed 0 fun char => ?_
  split
  · exact .bind .failure fun _ => (framed_takeExactly condition count).bind fun _ => .pure _
  · exact (framed_takeExactly condition count).bind fun _ => .pure _

theorem framed_codePoint
    {width : Nat}
    (positive : 0 < width) :
    Framed 0 0 (codePoint width) := by
  have fixed : ∀ digits, Framed 0 0 (hexChar digits >>= fun char =>
      (pure { char, isByte := width = 2 } : Read Literal)) :=
    fun digits => (framed_hexChar digits).bind fun _ => .pure _
  refine framed_skipSpace.bind fun _ => framed_peek_bind (fun char => ?_) ?_
    (show 1 ≤ 0 + 1 from Nat.le_refl 1)
  · refine Framed.weaken ?_
    split
    · refine framed_nextSpaced.bind fun _ => (framed_takeSpaced (by decide)).bind fun digits => ?_
      exact framed_closeBrace.bind fun _ => framed_skipSpace.bind fun _ =>
        (framed_hexChar digits).bind fun _ => .pure _
    · exact (framed_takeExactly isHexDigit width).bind fixed
  · rw [if_neg (by decide)]
    exact ((takes_takeExactly isHexDigit positive).bind_framed 0 fixed).mono (Nat.zero_le 1)
      (Nat.le_refl 1)

theorem framed_propertyName :
    Framed 0 0 propertyName := by
  have letter : ∀ char : Char, Framed 0 0 (if char = '\\' then
      ((failure : Read Unit) >>= fun _ => pure [char]) else pure [char] : Read (List Char)) := by
    intro char
    split
    · exact .bind .failure fun _ => .pure _
    · exact .pure _
  refine framed_skipSpace.bind fun _ => framed_peek_bind (fun char => ?_) ?_
    (show 1 ≤ 0 + 1 from Nat.le_refl 1)
  · refine Framed.weaken ?_
    split
    · refine framed_nextSpaced.bind fun _ => ?_
      -- The closing sign can belong to a name, so the brace behind the name is needed.
      exact (framed_takeSpaced_slack _).bind_of_takes
        (fun name => framed_closeBrace.bind fun _ => .pure _)
        (fun name => takes_closeBrace.bind_framed 0 fun _ => .pure _) (Nat.le_refl 1)
    · exact framed_next.bind letter
  · rw [if_neg (by decide)]
    exact (takes_next.bind_framed 0 letter).mono (Nat.zero_le 1) (Nat.le_refl 1)

/-! ## Boundaries of words -/

/-- Reading that goes beyond the blanks and comments behind a brace, if that comes next. -/
def PassesBrace (reader : Read α) : Prop :=
  ∀ state text value final, state.rest = '\x7b' :: text →
    reader.run state = some (value, final) →
    final.rest.length < (visibleRest state.isVerbose text).length

/-- The name of a boundary in braces, behind the opening one. -/
def boundaryName : Read Mark := do
  let name ← takeSpaced isBoundaryChar
  closeBrace
  match String.ofList name with
  | "start" => return .wordStart
  | "end" => return .wordEnd
  | "start-half" => return .noWordBefore
  | "end-half" => return .noWordAfter
  | _ => failure

theorem framed_boundaryName :
    Framed 0 0 boundaryName := by
  refine (framed_takeSpaced (by decide)).bind fun name => framed_closeBrace.bind fun _ => ?_
  split
  · exact .pure _
  · exact .pure _
  · exact .pure _
  · exact .pure _
  · exact .failure

theorem run_wordBoundary_of_ne
    {state : ReadState}
    (noBrace : "\x7b".toList.isPrefixOf state.rest = false)
    (continuation : Mark → Read β) :
    (wordBoundary >>= continuation).run state = (continuation .boundary).run state := by
  refine run_bind_of_eq ?_ continuation
  rw [wordBoundary, run_get_bind, run_bind_of_eq (run_take _ state), noBrace]
  rfl

/-- Behind a brace the next character decides: it starts a name, or there is none. -/
theorem run_wordBoundary_of_eq
    {state : ReadState}
    {text : List Char}
    (brace : state.rest = '\x7b' :: text)
    (continuation : Mark → Read β) :
    (wordBoundary >>= continuation).run state =
      match visibleRest state.isVerbose text with
      | [] => none
      | char :: others =>
          if isBoundaryChar char then
            (boundaryName >>= continuation).run { state with rest := char :: others }
          else (continuation .boundary).run state := by
  have starts : "\x7b".toList.isPrefixOf state.rest = true := by
    rw [brace]
    rfl
  rw [wordBoundary, bind_assoc, run_get_bind, bind_assoc, run_bind_of_eq (run_take _ state), starts,
    if_pos rfl, if_pos rfl, bind_assoc, run_bind_of_eq (run_skipSpace _), bind_assoc]
  simp only [brace]
  change StateT.run (peek >>= _) { state with rest := visibleRest state.isVerbose text } = _
  cases visible : visibleRest state.isVerbose text with
  | nil => rw [run_bind_of_none (run_peek_nil rfl)]
  | cons char others =>
      rw [run_peek_bind rfl]
      cases isName : isBoundaryChar char with
      | false =>
          simp only [isName]
          rfl
      | true =>
          simp only [isName]
          rfl

theorem brace_or_not
    (state : ReadState) :
    "\x7b".toList.isPrefixOf state.rest = false ∨ ∃ text, state.rest = '\x7b' :: text := by
  cases starts : "\x7b".toList.isPrefixOf state.rest with
  | false => exact Or.inl rfl
  | true =>
      rcases List.isPrefixOf_iff_prefix.1 starts with ⟨text, same⟩
      exact Or.inr ⟨text, same.symm⟩

theorem isPrefixOf_brace_followedBy
    {tail : List Char}
    (closes : Closes tail)
    (state : ReadState) :
    "\x7b".toList.isPrefixOf (state.followedBy tail).rest = "\x7b".toList.isPrefixOf state.rest :=
  isPrefixOf_append_closing (by decide) closes state.rest

section

variable {continuation : Mark → Read β}

theorem framed_boundaryName_bind
    (framed : ∀ mark, Framed 0 slack (continuation mark)) :
    Framed 0 slack (boundaryName >>= continuation) :=
  framed_boundaryName.weaken.bind framed

theorem wordBoundary_bind_suffix
    (framed : ∀ mark, Framed 0 slack (continuation mark))
    {state final : ReadState}
    {value : β}
    (run : (wordBoundary >>= continuation).run state = some (value, final)) :
    final.rest <:+ state.rest := by
  rcases brace_or_not state with noBrace | ⟨text, brace⟩
  · rw [run_wordBoundary_of_ne noBrace] at run
    exact (framed .boundary).suffix run
  · rw [run_wordBoundary_of_eq brace] at run
    split at run
    · cases run
    · rename_i char others visible
      split at run
      · have inText : char :: others <:+ text :=
          visible ▸ visibleRest_suffix state.isVerbose text
        rw [brace]
        exact ((framed_boundaryName_bind framed).suffix run).trans
          (inText.trans (List.suffix_cons _ text))
      · exact (framed .boundary).suffix run

theorem wordBoundary_bind_forward
    (framed : ∀ mark, Framed 0 slack (continuation mark))
    {state final : ReadState}
    {value : β}
    (left : slack ≤ final.rest.length)
    (run : (wordBoundary >>= continuation).run state = some (value, final)) :
    Continues (wordBoundary >>= continuation) state value final ∨
      Swallows (wordBoundary >>= continuation) state value final := by
  rcases brace_or_not state with noBrace | ⟨text, brace⟩
  · rw [run_wordBoundary_of_ne noBrace] at run
    refine Continues.congr (fun tail closes => ?_)
      ((framed .boundary).forward (Nat.zero_le _) left run)
    rw [run_wordBoundary_of_ne ((isPrefixOf_brace_followedBy closes state).trans noBrace)]
  · rw [run_wordBoundary_of_eq brace] at run
    split at run
    · cases run
    · rename_i char others visible
      have run_tail (tail : List Char) (closes : Closes tail) :=
        run_wordBoundary_of_eq (rest_followedBy_cons brace tail) continuation
      simp only [ReadState.isVerbose_followedBy] at run_tail
      split at run
      · rename_i isName
        refine Continues.congr (fun tail closes => ?_)
          ((framed_boundaryName_bind framed).forward (Nat.zero_le _) left run)
        rw [run_tail tail closes, visibleRest_append_of_cons visible closes]
        exact (if_pos isName).symm
      · rename_i isName
        refine Continues.congr (fun tail closes => ?_)
          ((framed .boundary).forward (Nat.zero_le _) left run)
        rw [run_tail tail closes, visibleRest_append_of_cons visible closes]
        exact (if_neg isName).symm

/-- If nothing visible stands between a brace and the end of the text, what is read behind it goes
beyond the end. -/
theorem length_lt_of_brace_at_end
    (framed : ∀ mark, Framed 0 slack (continuation mark))
    (passes : PassesBrace (continuation .boundary))
    {state final : ReadState}
    {text tail : List Char}
    {value : β}
    (brace : state.rest = '\x7b' :: text)
    (blank : visibleRest state.isVerbose text = [])
    (closes : Closes tail)
    (run : (wordBoundary >>= continuation).run (state.followedBy tail) = some (value, final)) :
    final.rest.length < tail.length := by
  have braceTail := rest_followedBy_cons brace tail
  rw [run_wordBoundary_of_eq braceTail, ReadState.isVerbose_followedBy] at run
  have behind := visibleRest_append_of_nil blank closes
  split at run
  · cases run
  · rename_i char others visible
    rw [visible] at behind
    split at run
    · rename_i isName
      rcases behind with same | shorter
      · -- The closing sign is no character of a name.
        rcases closes with ⟨_, rfl⟩
        cases same
        exact absurd isName (by decide)
      · have short : final.rest.length ≤ (char :: others).length :=
          (framed_boundaryName_bind framed).length_le run
        exact Nat.lt_of_le_of_lt short shorter
    · have beyond := passes _ _ _ _ braceTail run
      rw [ReadState.isVerbose_followedBy, visible] at beyond
      rcases behind with same | shorter
      · rwa [same] at beyond
      · exact Nat.lt_trans beyond shorter

theorem wordBoundary_bind_backward
    (framed : ∀ mark, Framed 0 slack (continuation mark))
    (passes : PassesBrace (continuation .boundary))
    {state final : ReadState}
    {tail : List Char}
    {value : β}
    (closes : Closes tail)
    (left : tail.length + slack ≤ final.rest.length)
    (run : (wordBoundary >>= continuation).run (state.followedBy tail) = some (value, final)) :
    ∃ before, final = before.followedBy tail ∧
      (wordBoundary >>= continuation).run state = some (value, before) := by
  rcases brace_or_not state with noBrace | ⟨text, brace⟩
  · rw [run_wordBoundary_of_ne ((isPrefixOf_brace_followedBy closes state).trans noBrace)] at run
    rw [run_wordBoundary_of_ne noBrace]
    exact (framed .boundary).backward closes (Nat.zero_le _) left run
  · cases visible : visibleRest state.isVerbose text with
    | nil =>
        have beyond := length_lt_of_brace_at_end framed passes brace visible closes run
        omega
    | cons char others =>
        rw [run_wordBoundary_of_eq (rest_followedBy_cons brace tail),
          ReadState.isVerbose_followedBy, visibleRest_append_of_cons visible closes] at run
        rw [run_wordBoundary_of_eq brace, visible]
        dsimp only at run ⊢
        split at run
        · rename_i isName
          let atName : ReadState := { state with rest := char :: others }
          change (boundaryName >>= continuation).run (atName.followedBy tail) = _ at run
          rw [if_pos isName]
          exact (framed_boundaryName_bind framed).backward closes (Nat.zero_le _) left run
        · rename_i isName
          rw [if_neg isName]
          exact (framed .boundary).backward closes (Nat.zero_le _) left run

/-- What is done with a boundary may see a brace behind it that is not closed, if it goes beyond
what such a brace is looked at for. -/
theorem framed_wordBoundary_bind
    (framed : ∀ mark, Framed 0 slack (continuation mark))
    (passes : PassesBrace (continuation .boundary)) :
    Framed 0 slack (wordBoundary >>= continuation) where
  suffix := wordBoundary_bind_suffix framed
  forward := fun _ => wordBoundary_bind_forward framed
  backward := fun closes _ => wordBoundary_bind_backward framed passes closes

end

/-! ## Escapes -/

/-- What is done with an escape may see a brace behind a boundary that is not closed. -/
theorem framed_escape_bind
    {continuation : Primitive → Read β}
    (framed : ∀ found, Framed 0 slack (continuation found))
    (passes : PassesBrace (continuation (.mark .boundary))) :
    Framed 0 slack (escape >>= continuation) := by
  have step {reader : Read Primitive} (first : Framed 0 0 reader) :
      Framed 0 slack (reader >>= continuation) :=
    first.weaken.bind framed
  rw [escape, bind_assoc]
  refine framed_next.weaken.bind fun char => ?_
  split
  case h_20 =>
    rw [bind_assoc]
    exact framed_wordBoundary_bind (fun mark => framed (.mark mark)) passes
  case h_24 char =>
    split
    · exact step (.pure _)
    · exact step .failure
  all_goals first
    | exact step (.pure _)
    | exact step ((framed_codePoint (by decide)).bind fun _ => .pure _)
    | exact step (framed_propertyName.bind fun _ => .pure _)

theorem takes_wordBoundary :
    Takes 0 0 wordBoundary where
  length_add_le := by
    intro state mark final _ run
    rw [← bind_pure wordBoundary] at run
    rcases brace_or_not state with noBrace | ⟨text, brace⟩
    · rw [run_wordBoundary_of_ne noBrace] at run
      cases run
      exact Nat.le_refl _
    · rw [run_wordBoundary_of_eq brace] at run
      split at run
      · cases run
      · rename_i char others visible
        have inText : (char :: others).length ≤ text.length :=
          visible ▸ (visibleRest_suffix state.isVerbose text).length_le
        split at run
        · rw [bind_pure] at run
          have short : final.rest.length ≤ (char :: others).length :=
            framed_boundaryName.length_le run
          rw [brace, List.length_cons]
          omega
        · cases run
          exact Nat.le_refl _

theorem takes_escape :
    Takes 0 1 escape := by
  refine takes_next.bind_left fun char => ?_
  have step {reader : Read Primitive} (framed : Framed 0 0 reader) : Takes 0 0 reader :=
    framed.takes_zero 0
  split
  case h_20 => exact takes_wordBoundary.bind_framed 0 fun _ => .pure _
  case h_24 char =>
    split
    · exact step (.pure _)
    · exact step .failure
  all_goals first
    | exact step (.pure _)
    | exact step ((framed_codePoint (by decide)).bind fun _ => .pure _)
    | exact step (framed_propertyName.bind fun _ => .pure _)

end Manifest.Pattern.Read
