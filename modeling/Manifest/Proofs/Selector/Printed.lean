import Manifest.Proofs.Selector.Grammar

/-!
# Selectors and their texts

The words of an expression hold neither blanks nor punctuation, and they are not
empty.  So a word that is written before something else than a character of words is
scanned as the same word again, and a missing value leaves no trace.

A selector that was read is therefore written with the tokens it was read from, up to
blanks and the doubled equals sign, which are no tokens of their own.  Reading its
text gives it back.
-/

namespace Manifest.Selector

namespace Token

/-! ## Characters of words -/

/-- The punctuation of label expressions. -/
def isMark (char : Char) : Bool :=
  char == '=' || char == '!' || char == ',' || char == '(' || char == ')' ||
    char == '<' || char == '>'

/-- A character that words can hold. -/
def isWordChar (char : Char) : Bool :=
  !isMark char && !Text.isBlank char

/-- A text that stands as one word in an expression. -/
structure IsWord (text : String) : Prop where
  notEmpty : text ≠ ""
  chars : ∀ char ∈ text.toList, isWordChar char = true

/-- Every word among tokens can stand as one word in an expression. -/
def AreWords (tokens : List Token) : Prop :=
  ∀ text, word text ∈ tokens → IsWord text

/-- The places at which a word ends: at the end, and before any other character. -/
def EndsWord : List Char → Prop
  | [] => True
  | char :: _ => isWordChar char = false

@[simp]
theorem endWord_nil (tokens : List Token) :
    endWord [] tokens = tokens :=
  rfl

theorem scanFrom_of_isWordChar
    {char : Char}
    (inWord : isWordChar char = true)
    (pending rest : List Char) :
    scanFrom pending (char :: rest) = scanFrom (char :: pending) rest := by
  rw [isWordChar, Bool.and_eq_true, Bool.not_eq_true', Bool.not_eq_true'] at inWord
  rw [scanFrom.eq_def]
  split <;> simp_all [isMark]

/-- Where a word ends, it is a token before the tokens of what follows. -/
theorem scanFrom_of_endsWord
    {rest : List Char}
    (ends : EndsWord rest)
    (pending : List Char) :
    scanFrom pending rest = endWord pending (scanFrom [] rest) := by
  cases rest with
  | nil => rfl
  | cons char rest =>
      rw [scanFrom.eq_def, scanFrom.eq_def]
      split <;> simp_all [EndsWord, isWordChar, isMark]

/-! ## Words that were scanned -/

theorem areWords_endWord
    {pending : List Char}
    (chars : ∀ char ∈ pending, isWordChar char = true)
    {tokens : List Token}
    (areWords : AreWords tokens) :
    AreWords (endWord pending tokens) := by
  intro text member
  rw [endWord] at member
  split at member
  · exact areWords text member
  · rename_i notEmpty
    rcases List.mem_cons.1 member with isPending | inTokens
    · cases isPending
      constructor
      · simpa using notEmpty
      · simpa using chars
    · exact areWords text inTokens

theorem AreWords.cons
    {token : Token}
    {tokens : List Token}
    (noWord : ∀ text, word text ≠ token)
    (areWords : AreWords tokens) :
    AreWords (token :: tokens) := by
  intro text member
  rcases List.mem_cons.1 member with isToken | inTokens
  · exact absurd isToken (noWord text)
  · exact areWords text inTokens

theorem AreWords.tail
    {token : Token}
    {tokens : List Token}
    (areWords : AreWords (token :: tokens)) :
    AreWords tokens :=
  fun text member => areWords text (List.mem_cons_of_mem token member)

/-- The words of an expression hold characters of words only, and they are not empty. -/
theorem areWords_scanFrom
    {pending chars : List Char}
    (pendingChars : ∀ char ∈ pending, isWordChar char = true) :
    AreWords (scanFrom pending chars) := by
  induction pending, chars using scanFrom.induct with
  | case1 pending => exact areWords_endWord pendingChars (by simp [AreWords])
  | case11 pending char rest _ _ _ _ _ _ _ _ _ isBlank inductionHypothesis =>
      rw [scanFrom, if_pos isBlank]
      · exact areWords_endWord pendingChars (inductionHypothesis (by simp))
      all_goals assumption
  | case12 pending char rest _ _ _ _ _ _ _ _ _ notBlank inductionHypothesis =>
      have inWord : isWordChar char = true := by
        simp_all [isWordChar, isMark]
      rw [scanFrom_of_isWordChar inWord]
      exact inductionHypothesis (List.forall_mem_cons.2 ⟨inWord, pendingChars⟩)
  -- All other cases are punctuation, which ends the pending word.
  | _ pending rest =>
      rename_i inductionHypothesis
      rw [scanFrom]
      · exact areWords_endWord pendingChars ((inductionHypothesis (by simp)).cons nofun)
      all_goals assumption

theorem areWords_scan (expression : String) :
    AreWords (scan expression) :=
  areWords_scanFrom (by simp)

/-! ## Words that are scanned again -/

theorem scanFrom_append
    {chars : List Char}
    (inWord : ∀ char ∈ chars, isWordChar char = true)
    (pending rest : List Char) :
    scanFrom pending (chars ++ rest) = scanFrom (chars.reverse ++ pending) rest := by
  induction chars generalizing pending with
  | nil => rfl
  | cons char chars inductionHypothesis =>
      rcases List.forall_mem_cons.1 inWord with ⟨charInWord, charsInWord⟩
      rw [List.cons_append, scanFrom_of_isWordChar charInWord, inductionHypothesis charsInWord]
      simp

/-- A word before a place where words end is scanned as this word. -/
theorem scan_word
    {text : String}
    (isWord : IsWord text)
    {rest : List Char}
    (ends : EndsWord rest) :
    scanFrom [] (text.toList ++ rest) = word text :: scanFrom [] rest := by
  have notEmpty : text.toList ≠ [] := by
    simpa using isWord.notEmpty
  rw [scanFrom_append isWord.chars, scanFrom_of_endsWord ends]
  simp [endWord, notEmpty]

/-- An equals sign is a token by itself unless another one follows it. -/
theorem scan_equals
    {rest : List Char}
    (single : rest.head? ≠ some '=') :
    scanFrom [] ('=' :: rest) = equals :: scanFrom [] rest := by
  rw [scanFrom]
  · rfl
  · rintro others rfl
    exact single rfl

theorem scan_not
    {rest : List Char}
    (single : rest.head? ≠ some '=') :
    scanFrom [] ('!' :: rest) = not :: scanFrom [] rest := by
  rw [scanFrom]
  · rfl
  · rintro others rfl
    exact single rfl

/-- The places at which a requirement ends: at the end, and before a comma. -/
inductive EndsPart : List Char → Prop where
  | atEnd : EndsPart []
  | atComma (rest : List Char) : EndsPart (',' :: rest)

theorem EndsPart.endsWord
    {rest : List Char}
    (ends : EndsPart rest) :
    EndsWord rest := by
  cases ends with
  | atEnd => trivial
  | atComma rest => rfl

/-- No equals sign stands at the beginning of a word. -/
theorem IsWord.head?_ne
    {text : String}
    (isWord : IsWord text)
    (rest : List Char) :
    (text.toList ++ rest).head? ≠ some '=' := by
  have inWord := isWord.chars
  cases chars : text.toList with
  | nil => exact absurd (by simpa using chars) isWord.notEmpty
  | cons char others =>
      intro isEquals
      cases isEquals
      rw [chars] at inWord
      exact absurd (inWord '=' List.mem_cons_self) (by decide)

end Token

open Token

/-! ## Texts of parts -/

section

variable
  {tokens : List Token}
  {rest : List Char}

/-- A missing value is written as nothing, and every other value as a word. -/
theorem scan_value
    {value : String}
    (derives : DerivesValue tokens value)
    (areWords : AreWords tokens)
    (ends : EndsWord rest) :
    scanFrom [] (value.toList ++ rest) = tokens ++ scanFrom [] rest := by
  cases derives with
  | missing => rfl
  | word => exact scan_word (areWords value (by simp)) ends

theorem head?_value
    {value : String}
    (derives : DerivesValue tokens value)
    (areWords : AreWords tokens)
    (ends : EndsPart rest) :
    (value.toList ++ rest).head? ≠ some '=' := by
  cases derives with
  | missing => cases ends <;> simp
  | word => exact (areWords value (by simp)).head?_ne rest

theorem toList_intercalate_cons
    {texts : List String}
    (notEmpty : texts ≠ [])
    (text : String)
    (rest : List Char) :
    (",".intercalate (text :: texts)).toList ++ rest =
      text.toList ++ ',' :: ((",".intercalate texts).toList ++ rest) := by
  rw [String.intercalate_cons_of_ne_nil notEmpty]
  simp

/-- The members of a value set are written with a comma between neighbours. -/
theorem scan_members
    {values : List String}
    (derives : DerivesMembers tokens values)
    (areWords : AreWords tokens)
    (ends : EndsWord rest) :
    scanFrom [] ((",".intercalate values).toList ++ rest) = tokens ++ scanFrom [] rest := by
  induction derives with
  | last value =>
      rw [String.intercalate_singleton]
      exact scan_word (areWords value (by simp)) ends
  | @cons value tokens values others inductionHypothesis =>
      have othersAreWords : AreWords tokens := by
        intro text member
        exact areWords text (by simp [member])
      have notEmpty : values ≠ [] := by
        cases others <;> simp
      have commaEnds : EndsWord (',' :: ((",".intercalate values).toList ++ rest)) := rfl
      rw [toList_intercalate_cons notEmpty, scan_word (areWords value (by simp)) commaEnds,
        List.cons_append, List.cons_append, ← inductionHypothesis othersAreWords]
      rfl

/-! ## Texts of requirements and selectors -/

/-- A text that is written for the token of an operator, in front of no equals sign. -/
structure Writes (mark : String) (operator : Token) : Prop where
  endsWord : ∀ after, EndsWord (mark.toList ++ after)
  scans :
    ∀ after, after.head? ≠ some '=' →
      scanFrom [] (mark.toList ++ after) = operator :: scanFrom [] after

/-- A key with an operator and one value, which may be missing. -/
theorem scan_single
    {key mark value : String}
    {operator : Token}
    (isKey : IsWord key)
    (writes : Writes mark operator)
    (hasValue : DerivesValue tokens value)
    (areWords : AreWords tokens)
    (ends : EndsPart rest) :
    scanFrom [] ((key ++ mark ++ String.join [value]).toList ++ rest) =
      word key :: operator :: (tokens ++ scanFrom [] rest) := by
  simp only [String.toList_append, List.append_assoc, String.join_cons, String.join_nil,
    String.append_empty]
  rw [scan_word isKey (writes.endsWord _), writes.scans _ (head?_value hasValue areWords ends),
    scan_value hasValue areWords ends.endsWord]

/-- A key with a value set, which stands behind the word of its operator. -/
theorem scan_choice
    {key operator : String}
    {values : List String}
    (isKey : IsWord key)
    (isOperator : IsWord operator)
    (members : DerivesMembers tokens values)
    (areWords : AreWords tokens)
    (rest : List Char) :
    scanFrom []
        (key.toList ++ ' ' :: (operator.toList ++ ' ' :: '(' ::
          ((",".intercalate values).toList ++ ')' :: rest))) =
      word key :: word operator :: openParen :: (tokens ++ closeParen :: scanFrom [] rest) := by
  have scansMembers :
      scanFrom [] ((",".intercalate values).toList ++ ')' :: rest) =
        tokens ++ closeParen :: scanFrom [] rest :=
    scan_members members areWords (by rfl)
  rw [scan_word isKey (by rfl), ← scansMembers]
  congr 1
  show scanFrom [] (operator.toList ++ _) = _
  rw [scan_word isOperator (by rfl)]
  rfl

/-- A requirement is written with the tokens it was read from. -/
theorem scan_requirement
    {requirement : Requirement}
    (derives : DerivesRequirement tokens requirement)
    (areWords : AreWords tokens)
    (ends : EndsPart rest) :
    scanFrom [] (requirement.text.toList ++ rest) = tokens ++ scanFrom [] rest := by
  cases derives with
  | «exists» key => exact scan_word (areWords key (by simp)) ends.endsWord
  | doesNotExist key =>
      have isKey : IsWord key := areWords key (by simp)
      simp only [Requirement.text, String.toList_append, List.append_assoc]
      show scanFrom [] ('!' :: (key.toList ++ rest)) = _
      rw [scan_not (isKey.head?_ne rest), scan_word isKey ends.endsWord]
      rfl
  | @equals key tokens value hasValue =>
      have writes : Writes "=" .equals := ⟨fun _ => rfl, fun _ single => scan_equals single⟩
      exact scan_single (areWords key (by simp)) writes hasValue areWords.tail.tail ends
  | @notEquals key tokens value hasValue =>
      have writes : Writes "!=" .notEquals := ⟨fun _ => rfl, fun _ _ => rfl⟩
      exact scan_single (areWords key (by simp)) writes hasValue areWords.tail.tail ends
  | @greaterThan key bound isInteger =>
      have writes : Writes ">" .greaterThan := ⟨fun _ => rfl, fun _ _ => rfl⟩
      exact scan_single (areWords key (by simp)) writes (.word bound) areWords.tail.tail ends
  | @lessThan key bound isInteger =>
      have writes : Writes "<" .lessThan := ⟨fun _ => rfl, fun _ _ => rfl⟩
      exact scan_single (areWords key (by simp)) writes (.word bound) areWords.tail.tail ends
  | @isIn key tokens values members =>
      have membersAreWords : AreWords tokens := by
        intro text member
        exact areWords text (by simp [member])
      have scansChoice :=
        scan_choice (areWords key (by simp)) (areWords "in" (by simp)) members membersAreWords rest
      simpa [Requirement.text] using scansChoice
  | @notIn key tokens values members =>
      have membersAreWords : AreWords tokens := by
        intro text member
        exact areWords text (by simp [member])
      have scansChoice :=
        scan_choice (areWords key (by simp)) (areWords "notin" (by simp)) members membersAreWords
          rest
      simpa [Requirement.text] using scansChoice

end

theorem scan_requirements
    {tokens : List Token}
    {requirements : List Requirement}
    (derives : DerivesRequirements tokens requirements)
    (areWords : AreWords tokens) :
    scan (",".intercalate (requirements.map Requirement.text)) = tokens := by
  induction derives with
  | @last tokens requirement only =>
      have scansOnly := scan_requirement only areWords .atEnd
      rw [List.append_nil] at scansOnly
      rw [List.map_singleton, String.intercalate_singleton, scan, scansOnly]
      exact List.append_nil tokens
  | @cons tokens others requirement requirements first derivesOthers inductionHypothesis =>
      have firstIsWords : AreWords tokens := by
        intro text member
        exact areWords text (by simp [member])
      have othersAreWords : AreWords others := by
        intro text member
        exact areWords text (by simp [member])
      have notEmpty : requirements.map Requirement.text ≠ [] := by
        cases derivesOthers <;> simp
      have separated := toList_intercalate_cons notEmpty requirement.text []
      rw [List.append_nil, List.append_nil] at separated
      rw [List.map_cons, scan, separated, scan_requirement first firstIsWords (.atComma _),
        ← inductionHypothesis othersAreWords]
      rfl

theorem scan_expression
    {tokens : List Token}
    {requirements : List Requirement}
    (derives : DerivesExpression tokens requirements)
    (areWords : AreWords tokens) :
    scan (LabelSelector.text { requirements }) = tokens := by
  cases derives with
  | everything => rfl
  | requirements listed => exact scan_requirements listed areWords

namespace LabelSelector

/-- The text of a selector has the tokens of the expression it was read from. -/
theorem scan_text
    {expression : String}
    {selector : LabelSelector}
    (parses : parse expression = .ok selector) :
    scan selector.text = scan expression := by
  rw [parse, Result.mapError_eq_ok] at parses
  exact scan_expression (ofTokens_eq_ok.1 parses) (areWords_scan expression)

/-- A selector that was read is read again from its text. -/
theorem parse_text
    {expression : String}
    {selector : LabelSelector}
    (parses : parse expression = .ok selector) :
    parse selector.text = .ok selector := by
  have sameTokens : scan selector.text = scan expression := scan_text parses
  rw [parse, Result.mapError_eq_ok] at parses ⊢
  rw [sameTokens]
  exact parses

/-- Blanks and doubled equals signs are not kept, and missing values stay missing. -/
theorem parse_text_spaced :
    ∃ selector,
      parse "tier == front , !in,x= ,in notin ( a , in ), n > -1" = .ok selector ∧
      selector.text = "tier=front,!in,x=,in notin (a,in),n>-1" ∧
      parse selector.text = .ok selector := by
  refine ⟨⟨[⟨"tier", .equals, ["front"]⟩, ⟨"in", .doesNotExist, []⟩, ⟨"x", .equals, [""]⟩,
    ⟨"in", .notIn, ["a", "in"]⟩, ⟨"n", .greaterThan, ["-1"]⟩]⟩, ?_, ?_, ?_⟩
  · decide
  · decide
  · exact parse_text (by decide : parse "tier == front , !in,x= ,in notin ( a , in ), n > -1" = _)

end LabelSelector

end Manifest.Selector
