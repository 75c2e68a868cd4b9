import Manifest.Text.Pieces

/-!
# Laws of pieces

Splitting a text at every separator undoes joining texts that do not have it, and what is
split at the first separator is put together again by it.
-/

namespace Manifest.Text

/-! ## The first separator -/

/-- A text that splits is put together again by the separator. -/
theorem splitFirst?_eq_some
    {separator : Char}
    {chars : List Char} :
    ∀ {before after : List Char},
      splitFirst? separator chars = some (before, after) →
      chars = before ++ separator :: after := by
  induction chars with
  | nil =>
      intro before after splits
      cases splits
  | cons char rest inductionHypothesis =>
      intro before after splits
      rw [splitFirst?] at splits
      split at splits
      · rename_i isSeparator
        cases splits
        rw [isSeparator, List.nil_append]
      · rcases Option.map_eq_some_iff.1 splits with ⟨⟨beforeRest, afterRest⟩, splitsRest, same⟩
        cases same
        rw [inductionHypothesis splitsRest, List.cons_append]

theorem splitFirst?_of_not_mem
    {separator : Char}
    {chars : List Char}
    (absent : separator ∉ chars) :
    splitFirst? separator chars = none := by
  induction chars with
  | nil => rfl
  | cons char rest inductionHypothesis =>
      simp only [List.mem_cons, not_or] at absent
      rw [splitFirst?, if_neg (Ne.symm absent.1), inductionHypothesis absent.2]
      rfl

/-- What stands before the first separator does not have it. -/
theorem not_mem_of_splitFirst?
    {separator : Char}
    {chars : List Char} :
    ∀ {before after : List Char},
      splitFirst? separator chars = some (before, after) → separator ∉ before := by
  induction chars with
  | nil =>
      intro before after splits
      cases splits
  | cons char rest inductionHypothesis =>
      intro before after splits
      rw [splitFirst?] at splits
      split at splits
      · cases splits
        exact List.not_mem_nil
      · rename_i different
        rcases Option.map_eq_some_iff.1 splits with ⟨⟨beforeRest, afterRest⟩, splitsRest, same⟩
        cases same
        rw [List.mem_cons, not_or]
        exact ⟨Ne.symm different, inductionHypothesis splitsRest⟩

/-- A text is split where the first separator is put. -/
theorem splitFirst?_append_cons
    {separator : Char}
    {before : List Char}
    (absent : separator ∉ before)
    (after : List Char) :
    splitFirst? separator (before ++ separator :: after) = some (before, after) := by
  induction before with
  | nil => exact if_pos rfl
  | cons char before inductionHypothesis =>
      simp only [List.mem_cons, not_or] at absent
      rw [List.cons_append, splitFirst?, if_neg (Ne.symm absent.1),
        inductionHypothesis absent.2]
      rfl

/-! ## Every separator -/

/-- The pieces on both sides of a separator are those of the whole. -/
theorem pieces_append_cons
    (separator : Char)
    (front back : List Char) :
    pieces separator (front ++ separator :: back) =
      pieces separator front ++ pieces separator back := by
  induction front with
  | nil =>
      rw [List.nil_append]
      exact if_pos rfl
  | cons char front inductionHypothesis =>
      rw [List.cons_append, pieces, pieces, inductionHypothesis]
      by_cases isSeparator : char = separator
      · rw [if_pos isSeparator, if_pos isSeparator, List.cons_append]
      · rw [if_neg isSeparator, if_neg isSeparator]
        cases found : pieces separator front with
        | nil => exact absurd found (pieces_ne_nil separator front)
        | cons piece others => rfl

/-- A text without the separator prolongs the last piece of the text before it. -/
theorem pieces_append_of_not_mem
    {separator : Char}
    {back : List Char}
    (absent : separator ∉ back) :
    ∀ {front : List Char} {others : List (List Char)} {last : List Char},
      pieces separator front = others ++ [last] →
      pieces separator (front ++ back) = others ++ [last ++ back] := by
  intro front
  induction front with
  | nil =>
      intro others last splits
      rcases List.append_eq_singleton_iff.1 splits.symm with ⟨rfl, isLast⟩ | ⟨-, isEmpty⟩
      · cases isLast
        exact pieces_of_not_mem absent
      · cases isEmpty
  | cons char front inductionHypothesis =>
      intro others last splits
      rw [pieces] at splits
      rw [List.cons_append, pieces]
      by_cases isSeparator : char = separator
      · rw [if_pos isSeparator] at splits ⊢
        cases others with
        | nil => exact absurd (List.cons.inj splits).2 (pieces_ne_nil separator front)
        | cons first others =>
            rcases List.cons.inj splits with ⟨rfl, splitsFront⟩
            rw [inductionHypothesis splitsFront]
            rfl
      · rw [if_neg isSeparator] at splits ⊢
        cases found : pieces separator front with
        | nil => exact absurd found (pieces_ne_nil separator front)
        | cons piece rest =>
            rw [found] at splits
            cases others with
            | nil =>
                rcases List.cons.inj splits with ⟨rfl, rfl⟩
                have further := @inductionHypothesis [] _ found
                rw [further]
                rfl
            | cons first others =>
                rcases List.cons.inj splits with ⟨rfl, rfl⟩
                have further := @inductionHypothesis (piece :: others) _ found
                rw [further]
                rfl

theorem split_append (left right : String) :
    split ',' (left ++ "," ++ right) = split ',' left ++ split ',' right := by
  have chars : (left ++ "," ++ right).toList = left.toList ++ ',' :: right.toList := by
    simp
  rw [split, chars, pieces_append_cons, List.map_append, split, split]

theorem split_of_not_mem
    {text : String}
    (absent : ',' ∉ text.toList) :
    split ',' text = [text] := by
  rw [split, pieces_of_not_mem absent, List.map_singleton, String.ofList_toList]

theorem join_cons_cons
    (between first second : String)
    (others : List String) :
    join between (first :: second :: others) =
      first ++ between ++ join between (second :: others) :=
  rfl

/-- Texts without commas, also empty ones, are read back from a row of them. -/
theorem split_join
    {texts : List String}
    (notEmpty : texts ≠ [])
    (absent : ∀ text ∈ texts, ',' ∉ text.toList) :
    split ',' (join "," texts) = texts := by
  induction texts with
  | nil => contradiction
  | cons text rest inductionHypothesis =>
      rcases List.forall_mem_cons.1 absent with ⟨notInText, notInRest⟩
      cases rest with
      | nil => rw [join, split_of_not_mem notInText]
      | cons second others =>
          rw [join_cons_cons, split_append, split_of_not_mem notInText,
            inductionHypothesis (List.cons_ne_nil second others) notInRest, List.singleton_append]

theorem join_append_singleton
    {texts : List String}
    (notEmpty : texts ≠ [])
    (text : String) :
    join "," (texts ++ [text]) = join "," texts ++ "," ++ text := by
  induction texts with
  | nil => contradiction
  | cons first rest inductionHypothesis =>
      cases rest with
      | nil => rfl
      | cons second others =>
          have joined := inductionHypothesis (List.cons_ne_nil second others)
          rw [List.cons_append] at joined
          rw [List.cons_append, List.cons_append, join_cons_cons, joined, join_cons_cons]
          simp only [String.append_assoc]

end Manifest.Text
