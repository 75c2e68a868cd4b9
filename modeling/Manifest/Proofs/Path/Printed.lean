import Manifest.Path
import Manifest.Proofs.Text
import Mathlib.Data.List.Induction

/-!
# Paths and their texts

Brackets are signs of positions and ordinary characters of names at once.  A text is
read from the right end of each segment, where groups of digits are taken off as long
as there are any.  So the positions of a path are read back as they were written, and
reading stops at a name, unless the name ends in such a group itself.

The text of a path of these names is read as the path again.  The proof follows the path
from its start: a name starts a new segment, and a position is one more group at the
end of the last segment.
-/

namespace Manifest

namespace Path

/-! ## Groups of digits -/

/-- The characters of a position in brackets. -/
def bracketed (digits : List Char) : List Char :=
  '[' :: digits ++ [']']

/-- Some digits denote a position. -/
structure AreDigits (digits : List Char) : Prop where
  notEmpty : digits ≠ []
  allDigits : ∀ char ∈ digits, char.isDigit = true
  fits : Text.decimalValue digits < Text.positionBound

/-- A text ends in a position in brackets. -/
def EndsInPosition (chars : List Char) : Prop :=
  ∃ front digits, AreDigits digits ∧ chars = front ++ bracketed digits

theorem digitsPosition?_eq_some
    {digits : List Char}
    {position : Nat} :
    Text.digitsPosition? digits = some position ↔
      AreDigits digits ∧ Text.decimalValue digits = position := by
  rw [Text.digitsPosition?, Option.filter_eq_some_iff, decide_eq_true_iff, Text.decimal?]
  constructor
  · rintro ⟨reads, fits⟩
    split at reads
    · rename_i areDigits
      rw [Bool.and_eq_true, Bool.not_eq_true', List.isEmpty_eq_false_iff, List.all_eq_true]
        at areDigits
      cases reads
      exact ⟨⟨areDigits.1, areDigits.2, fits⟩, rfl⟩
    · cases reads
  · rintro ⟨areDigits, rfl⟩
    refine ⟨if_pos ?_, areDigits.fits⟩
    rw [Bool.and_eq_true, Bool.not_eq_true', List.isEmpty_eq_false_iff, List.all_eq_true]
    exact ⟨areDigits.notEmpty, areDigits.allDigits⟩

theorem AreDigits.bracket_not_mem
    {digits : List Char}
    (areDigits : AreDigits digits) :
    '[' ∉ digits :=
  fun member => absurd (areDigits.allDigits '[' member) (by decide)

theorem AreDigits.dot_not_mem_bracketed
    {digits : List Char}
    (areDigits : AreDigits digits) :
    '.' ∉ bracketed digits := by
  have notDigit : '.' ∉ digits :=
    fun member => absurd (areDigits.allDigits '.' member) (by decide)
  simp [bracketed, notDigit]

/-- The decimal digits of a position are read as the position. -/
theorem decimalValue_toDigits (position : Nat) :
    Text.decimalValue (Nat.toDigits 10 position) = position := by
  have sameSteps :
      (fun value digit => value * 10 + Text.digitValue digit) =
        fun (value : Nat) (digit : Char) => 10 * value + (digit.toNat - '0'.toNat) := by
    funext value digit
    rw [Nat.mul_comm value 10]
    rfl
  rw [Text.decimalValue, sameSteps]
  exact Nat.ofDigitChars_toDigits (by decide) (by decide)

theorem areDigits_toDigits
    {position : Nat}
    (fits : position < Text.positionBound) :
    AreDigits (Nat.toDigits 10 position) where
  notEmpty := Nat.toDigits_ne_nil
  allDigits := fun _ member => Nat.isDigit_of_mem_toDigits (by decide) (by decide) member
  fits := by
    rw [decimalValue_toDigits]
    exact fits

/-! ## Taking groups off -/

/-- One group is taken off the end of a text. -/
theorem peelPositions_bracketed
    {digits : List Char}
    (areDigits : AreDigits digits)
    (fuel : Nat)
    (backwards : List Char)
    (found : List Nat) :
    peelPositions (fuel + 1) ((bracketed digits).reverse ++ backwards) found =
      peelPositions fuel backwards (Text.decimalValue digits :: found) := by
  have digitsOnly : ∀ char ∈ digits.reverse, (char != '[') = true := by
    intro char member
    rw [bne_iff_ne]
    rintro rfl
    exact areDigits.bracket_not_mem (List.mem_reverse.1 member)
  have shape :
      (bracketed digits).reverse ++ backwards = ']' :: (digits.reverse ++ '[' :: backwards) := by
    simp [bracketed]
  have inside :
      (digits.reverse ++ '[' :: backwards).takeWhile (· != '[') = digits.reverse := by
    rw [List.takeWhile_append_of_pos digitsOnly]
    simp
  have behind :
      (digits.reverse ++ '[' :: backwards).dropWhile (· != '[') = '[' :: backwards := by
    rw [List.dropWhile_append_of_pos digitsOnly]
    simp
  have reads : Text.digitsPosition? digits = some (Text.decimalValue digits) :=
    digitsPosition?_eq_some.2 ⟨areDigits, rfl⟩
  rw [shape, peelPositions]
  simp only [inside, behind, List.reverse_reverse, reads]

/-- Nothing is taken off a text that does not end in a group. -/
theorem peelPositions_of_not_endsInPosition
    {chars : List Char}
    (notAtEnd : ¬ EndsInPosition chars)
    (fuel : Nat)
    (found : List Nat) :
    peelPositions fuel chars.reverse found = (chars.reverse, found) := by
  cases fuel with
  | zero => rfl
  | succ fuel =>
      rw [peelPositions.eq_def]
      dsimp only
      split
      · rename_i inside closes
        split
        · rename_i front opens
          split
          · rename_i position reads
            rcases digitsPosition?_eq_some.1 reads with ⟨areDigits, -⟩
            refine absurd ⟨front.reverse, _, areDigits, ?_⟩ notAtEnd
            have whole := congrArg List.reverse
              (List.takeWhile_append_dropWhile (p := (· != '[')) (l := inside))
            rw [opens, List.reverse_append, List.reverse_cons] at whole
            have opened := congrArg List.reverse closes
            rw [List.reverse_reverse, List.reverse_cons, ← whole] at opened
            rw [opened]
            simp [bracketed]
          · rfl
        · rfl
      · rfl

/-- Any text is one that does not end in a group, with groups behind it. -/
theorem exists_groups (chars : List Char) :
    ∃ (name : List Char) (groups : List (List Char)),
      ¬ EndsInPosition name ∧ (∀ digits ∈ groups, AreDigits digits) ∧
        chars = name ++ groups.flatMap bracketed := by
  induction size : chars.length using Nat.strongRecOn generalizing chars with
  | ind length inductionHypothesis =>
    by_cases atEnd : EndsInPosition chars
    · rcases atEnd with ⟨front, digits, areDigits, rfl⟩
      have shorter : front.length < length := by
        rw [← size, bracketed]
        simp
      rcases inductionHypothesis front.length shorter front rfl with
        ⟨name, groups, notAtEnd, areGroups, rfl⟩
      refine ⟨name, groups ++ [digits], notAtEnd, ?_, by simp⟩
      intro group member
      rcases List.mem_append.1 member with inGroups | isLast
      · exact areGroups group inGroups
      · rw [List.mem_singleton.1 isLast]
        exact areDigits
    · exact ⟨chars, [], atEnd, by simp, by simp⟩

/-- All groups at the end of a text are taken off. -/
theorem peelPositions_groups
    {name : List Char}
    (notAtEnd : ¬ EndsInPosition name)
    {groups : List (List Char)}
    (areGroups : ∀ digits ∈ groups, AreDigits digits)
    {fuel : Nat}
    (enough : groups.length ≤ fuel)
    (found : List Nat) :
    peelPositions fuel (name ++ groups.flatMap bracketed).reverse found =
      (name.reverse, groups.map Text.decimalValue ++ found) := by
  induction groups using List.reverseRecOn generalizing fuel found with
  | nil =>
      rw [List.flatMap_nil, List.append_nil]
      exact peelPositions_of_not_endsInPosition notAtEnd fuel found
  | append_singleton groups digits inductionHypothesis =>
      rw [List.length_append, List.length_singleton] at enough
      obtain ⟨fuel, rfl⟩ : ∃ less, fuel = less + 1 := ⟨fuel - 1, by omega⟩
      have earlier := fun group member => areGroups group (List.mem_append_left [digits] member)
      have isLast := areGroups digits (by simp)
      rw [List.flatMap_append, List.flatMap_singleton, ← List.append_assoc, List.reverse_append,
        peelPositions_bracketed isLast, inductionHypothesis earlier (by omega)]
      simp

/-! ## Segments -/

theorem length_le_length_append_groups
    (name : List Char)
    (groups : List (List Char)) :
    groups.length ≤ (name ++ groups.flatMap bracketed).length := by
  rw [List.length_append]
  induction groups with
  | nil => exact Nat.zero_le _
  | cons digits rest inductionHypothesis =>
      rw [List.flatMap_cons, List.length_append, List.length_cons, bracketed]
      simp only [List.length_append, List.length_cons, List.length_nil]
      omega

/-- The steps of a segment are its name, unless only positions are left, and its positions. -/
theorem segmentSteps_groups
    {name : List Char}
    (notAtEnd : ¬ EndsInPosition name)
    {groups : List (List Char)}
    (areGroups : ∀ digits ∈ groups, AreDigits digits) :
    segmentSteps (name ++ groups.flatMap bracketed) =
      (if name = [] ∧ groups ≠ [] then [] else [.field (String.ofList name)]) ++
        groups.map fun digits => .index (Text.decimalValue digits) := by
  rw [segmentSteps,
    peelPositions_groups notAtEnd areGroups (length_le_length_append_groups name groups)]
  simp [List.map_map, Function.comp_def]

/-- A text without a group at its end is a name. -/
theorem segmentSteps_of_not_endsInPosition
    {chars : List Char}
    (notAtEnd : ¬ EndsInPosition chars) :
    segmentSteps chars = [.field (String.ofList chars)] := by
  have noGroups : ∀ digits ∈ ([] : List (List Char)), AreDigits digits := by simp
  simpa using segmentSteps_groups notAtEnd noGroups

/-- Whether a text ends in a position is found out by taking positions off. -/
theorem endsInPosition_iff (chars : List Char) :
    EndsInPosition chars ↔ (peelPositions chars.length chars.reverse []).2 ≠ [] := by
  rcases exists_groups chars with ⟨name, groups, notAtEnd, areGroups, rfl⟩
  rw [peelPositions_groups notAtEnd areGroups (length_le_length_append_groups name groups)]
  rcases List.eq_nil_or_concat groups with rfl | ⟨others, digits, rfl⟩
  · simpa using notAtEnd
  · have areDigits : AreDigits digits := areGroups digits (by simp)
    refine iff_of_true ⟨name ++ others.flatMap bracketed, digits, areDigits, ?_⟩ (by simp)
    simp

instance (chars : List Char) : Decidable (EndsInPosition chars) :=
  decidable_of_iff _ (endsInPosition_iff chars).symm

/-- A position alone is a segment without a name. -/
theorem segmentSteps_bracketed
    {digits : List Char}
    (areDigits : AreDigits digits) :
    segmentSteps (bracketed digits) = [.index (Text.decimalValue digits)] := by
  have notAtEnd : ¬ EndsInPosition [] := by
    rintro ⟨front, inside, -, same⟩
    simp [bracketed] at same
  have areGroups : ∀ group ∈ [digits], AreDigits group := List.forall_mem_singleton.2 areDigits
  simpa using segmentSteps_groups notAtEnd areGroups

/-- One more group at the end of a segment is one more position. -/
theorem segmentSteps_append_bracketed
    {segment : List Char}
    (notEmpty : segment ≠ [])
    {digits : List Char}
    (areDigits : AreDigits digits) :
    segmentSteps (segment ++ bracketed digits) =
      segmentSteps segment ++ [.index (Text.decimalValue digits)] := by
  rcases exists_groups segment with ⟨name, groups, notAtEnd, areGroups, rfl⟩
  have withLast : ∀ group ∈ groups ++ [digits], AreDigits group := by
    intro group member
    rcases List.mem_append.1 member with inGroups | isLast
    · exact areGroups group inGroups
    · rw [List.mem_singleton.1 isLast]
      exact areDigits
  have extended :
      name ++ groups.flatMap bracketed ++ bracketed digits =
        name ++ (groups ++ [digits]).flatMap bracketed := by
    simp
  rw [extended, segmentSteps_groups notAtEnd withLast, segmentSteps_groups notAtEnd areGroups,
    List.map_append, List.append_assoc]
  -- Without a name there are groups already, since the segment is not empty.
  have sameName : (name = [] ∧ groups ++ [digits] ≠ []) ↔ (name = [] ∧ groups ≠ []) := by
    constructor
    · rintro ⟨rfl, -⟩
      refine ⟨rfl, ?_⟩
      rintro rfl
      exact notEmpty rfl
    · rintro ⟨noName, -⟩
      exact ⟨noName, by simp⟩
  simp only [sameName, List.map_cons, List.map_nil]

/-! ## Texts of paths -/

theorem parse_eq_flatMap (text : String) :
    parse text = (Text.pieces '.' text.toList).flatMap segmentSteps :=
  rfl

theorem text_singleton_field (name : String) :
    text [.field name] = name := by
  simp [text, tailText]

theorem text_singleton_index (position : Nat) :
    (text [.index position]).toList = bracketed (Nat.toDigits 10 position) := by
  simp [text, tailText, Step.text, bracketed, Nat.toString_eq_repr, Nat.toList_repr]

theorem tailText_append (left right : List Step) :
    tailText (left ++ right) = tailText left ++ tailText right := by
  simp [tailText]

/-- The text of a path that has steps is prolonged by the text of the next step. -/
theorem text_append_singleton
    {path : Path}
    (notEmpty : path ≠ [])
    (step : Step) :
    text (path ++ [step]) = text path ++ step.text := by
  have single : tailText [step] = step.text := by simp [tailText]
  cases path with
  | nil => contradiction
  | cons first rest =>
      cases first with
      | field name =>
          change name ++ tailText (rest ++ [step]) = name ++ tailText rest ++ step.text
          rw [tailText_append, single, String.append_assoc]
      | index position =>
          change tailText ((.index position :: rest) ++ [step]) =
            tailText (.index position :: rest) ++ step.text
          rw [tailText_append, single]

/-! ## Reading texts of paths -/

/-- A name that is told apart from what surrounds it in the text of a path. -/
structure IsName (name : String) : Prop where
  notEmpty : name ≠ ""
  noDot : '.' ∉ name.toList
  noPosition : ¬ EndsInPosition name.toList

/-- A step that a text can tell: its name is one, or its position is not too large. -/
def IsWritable : Step → Prop
  | .field name => IsName name
  | .index position => position < Text.positionBound

instance (name : String) : Decidable (IsName name) :=
  decidable_of_iff (name ≠ "" ∧ '.' ∉ name.toList ∧ ¬ EndsInPosition name.toList)
    ⟨fun ⟨notEmpty, noDot, noPosition⟩ => ⟨notEmpty, noDot, noPosition⟩,
      fun isName => ⟨isName.notEmpty, isName.noDot, isName.noPosition⟩⟩

instance : DecidablePred IsWritable
  | .field name => inferInstanceAs (Decidable (IsName name))
  | .index position => inferInstanceAs (Decidable (position < Text.positionBound))

theorem segmentSteps_name
    {name : String}
    (isName : IsName name) :
    segmentSteps name.toList = [.field name] := by
  rw [segmentSteps_of_not_endsInPosition isName.noPosition, String.ofList_toList]

/-- A path of one step is read back. -/
theorem parse_singleton
    {step : Step}
    (writable : IsWritable step) :
    parse (text [step]) = [step] := by
  cases step with
  | field name =>
      have isName : IsName name := writable
      rw [parse_eq_flatMap, text_singleton_field, Text.pieces_of_not_mem isName.noDot,
        List.flatMap_singleton, segmentSteps_name isName]
  | index position =>
      have areDigits := areDigits_toDigits writable
      rw [parse_eq_flatMap, text_singleton_index,
        Text.pieces_of_not_mem areDigits.dot_not_mem_bracketed, List.flatMap_singleton,
        segmentSteps_bracketed areDigits, decimalValue_toDigits]

/-- A name behind a dot is one more step. -/
theorem parse_append_field
    {name : String}
    (isName : IsName name)
    (text : String) :
    parse (text ++ (Step.field name).text) = parse text ++ [.field name] := by
  have chars : (text ++ (Step.field name).text).toList = text.toList ++ '.' :: name.toList := by
    simp [Step.text]
  rw [parse_eq_flatMap, chars, Text.pieces_append_cons, List.flatMap_append,
    Text.pieces_of_not_mem isName.noDot, List.flatMap_singleton, segmentSteps_name isName,
    parse_eq_flatMap]

/-- A position in brackets is one more step, unless the text ends in a name without characters. -/
theorem parse_append_index
    {position : Nat}
    (fits : position < Text.positionBound)
    {text : String}
    (notEmpty : .field "" ∉ parse text) :
    parse (text ++ (Step.index position).text) = parse text ++ [.index position] := by
  have areDigits := areDigits_toDigits fits
  have chars :
      (text ++ (Step.index position).text).toList =
        text.toList ++ bracketed (Nat.toDigits 10 position) := by
    simp [Step.text, bracketed, Nat.toString_eq_repr, Nat.toList_repr]
  rcases List.eq_nil_or_concat (Text.pieces '.' text.toList) with isEmpty | ⟨others, last, splits⟩
  · exact absurd isEmpty (Text.pieces_ne_nil '.' text.toList)
  · rw [List.concat_eq_append] at splits
    rw [parse_eq_flatMap, splits] at notEmpty
    have lastNotEmpty : last ≠ [] := by
      rintro rfl
      exact notEmpty (by simp [segmentSteps, peelPositions])
    rw [parse_eq_flatMap, parse_eq_flatMap, chars,
      Text.pieces_append_of_not_mem areDigits.dot_not_mem_bracketed splits, splits,
      List.flatMap_append, List.flatMap_append, List.flatMap_singleton, List.flatMap_singleton,
      segmentSteps_append_bracketed lastNotEmpty areDigits, decimalValue_toDigits,
      List.append_assoc]

/--
The text of a path is read as the path again, if the path has steps, and if its names are
not empty, hold no dots and do not end in positions.
-/
theorem parse_text_of_writable
    {path : Path}
    (notEmpty : path ≠ [])
    (writable : ∀ step ∈ path, IsWritable step) :
    parse (text path) = path := by
  induction path using List.reverseRecOn with
  | nil => contradiction
  | append_singleton before step inductionHypothesis =>
      have isLast : IsWritable step := writable step (by simp)
      by_cases alone : before = []
      · rw [alone, List.nil_append, parse_singleton isLast]
      · have earlier : ∀ other ∈ before, IsWritable other :=
          fun other member => writable other (List.mem_append_left [step] member)
        have readsBefore := inductionHypothesis alone earlier
        rw [text_append_singleton alone]
        cases step with
        | field name => rw [parse_append_field isLast, readsBefore]
        | index position =>
            have noEmptyName : .field "" ∉ parse (text before) := by
              rw [readsBefore]
              intro member
              exact (earlier _ member).notEmpty rfl
            rw [parse_append_index isLast noEmptyName, readsBefore]

/-- Names with brackets that are no positions: a letter inside, too many digits, and no pair. -/
def bracketPath : Path :=
  [.field "a[x]", .index 2, .index 18446744073709551615, .field "b[18446744073709551616]",
    .index 0, .field "]["]

theorem parse_text_bracketPath :
    bracketPath ≠ [] ∧ (∀ step ∈ bracketPath, IsWritable step) ∧
      parse (text bracketPath) = bracketPath := by
  have notEmpty : bracketPath ≠ [] := by decide
  have writable : ∀ step ∈ bracketPath, IsWritable step := by decide
  exact ⟨notEmpty, writable, parse_text_of_writable notEmpty writable⟩

end Path

end Manifest
