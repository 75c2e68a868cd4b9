import Manifest.Proofs.Yaml.Constant
import Manifest.Yaml.Atom

/-!
# Constants that are read

A scalar that is read as neither nothing nor a text is written as a constant,
whether it stands without quotes or under a tag of the standard.
-/

namespace Manifest

namespace Text

/-- A decimal number is read from digits. -/
theorem digits_of_decimal?
    {chars : List Char}
    {value : Nat}
    (reads : decimal? chars = some value) :
    chars ≠ [] ∧ ∀ char ∈ chars, char.isDigit = true := by
  rw [decimal?] at reads
  split at reads
  · rename_i isDecimal
    simpa using isDecimal
  · cases reads

theorem isAlphanum_of_digitValue?
    {base value : Nat}
    {char : Char}
    (reads : digitValue? base char = some value) :
    char.isAlphanum = true := by
  rw [digitValue?, Option.filter_eq_some_iff] at reads
  rcases reads with ⟨reads, _⟩
  split at reads
  · rename_i isDigit
    unfold Char.isAlphanum
    rw [isDigit, Bool.or_true]
  · split at reads
    · rename_i inRange
      simp only [Bool.and_eq_true, decide_eq_true_eq] at inRange
      have belowZ : char ≤ 'z' := Char.le_trans inRange.2 (by decide)
      have isLower : char.isLower = true := by
        unfold Char.isLower
        rw [Bool.and_eq_true, decide_eq_true_eq, decide_eq_true_eq]
        exact ⟨inRange.1, belowZ⟩
      unfold Char.isAlphanum Char.isAlpha
      rw [isLower, Bool.or_true, Bool.true_or]
    · split at reads
      · rename_i inRange
        simp only [Bool.and_eq_true, decide_eq_true_eq] at inRange
        have belowZ : char ≤ 'Z' := Char.le_trans inRange.2 (by decide)
        have isUpper : char.isUpper = true := by
          unfold Char.isUpper
          rw [decide_eq_true_eq]
          exact ⟨inRange.1, belowZ⟩
        unfold Char.isAlphanum Char.isAlpha
        rw [isUpper, Bool.true_or, Bool.true_or]
      · cases reads

/-- A number in a base is read from letters and digits. -/
theorem isAlphanum_of_radix?
    {base value : Nat}
    {chars : List Char}
    (reads : radix? base chars = some value) :
    ∀ char ∈ chars, char.isAlphanum = true := by
  suffices general :
      ∀ start : Nat,
        (chars.foldlM (fun value char => (digitValue? base char).map (value * base + ·)) start) =
            some value →
          ∀ char ∈ chars, char.isAlphanum = true by
    rw [radix?] at reads
    split at reads
    · cases reads
    · exact general 0 reads
  clear reads
  induction chars with
  | nil => simp
  | cons first rest inductionHypothesis =>
      intro start reads
      rw [List.foldlM_cons] at reads
      rcases Option.bind_eq_some_iff.1 reads with ⟨next, readsFirst, readsRest⟩
      rcases Option.map_eq_some_iff.1 readsFirst with ⟨digit, readsDigit, _⟩
      intro char member
      rcases List.mem_cons.1 member with rfl | inRest
      · exact isAlphanum_of_digitValue? readsDigit
      · exact inductionHypothesis next readsRest char inRest

end Text

namespace Yaml

theorem isNumberChar_of_isAlphanum
    {char : Char}
    (isAlphanum : char.isAlphanum = true) :
    isNumberChar char = true := by
  simp [isNumberChar, isAlphanum]

theorem isNumberChar_of_isDigit
    {char : Char}
    (isDigit : char.isDigit = true) :
    isNumberChar char = true :=
  isNumberChar_of_isAlphanum (by simp [Char.isAlphanum, isDigit])

namespace IsNumber

theorem of_digits
    {digits : List Char}
    (notEmpty : digits ≠ [])
    (allDigits : ∀ char ∈ digits, char.isDigit = true) :
    IsNumber digits where
  chars := fun char member => isNumberChar_of_isDigit (allDigits char member)
  start := by
    cases digits with
    | nil => contradiction
    | cons first rest => simp [isNumberStart, allDigits first List.mem_cons_self]

theorem append
    {first second : List Char}
    (isNumber : IsNumber first)
    (chars : ∀ char ∈ second, isNumberChar char = true) :
    IsNumber (first ++ second) where
  chars := by
    intro char member
    rcases List.mem_append.1 member with inFirst | inSecond
    · exact isNumber.chars char inFirst
    · exact chars char inSecond
  start := by
    have start := isNumber.start
    cases first with
    | nil => contradiction
    | cons head rest => exact start

theorem cons
    {first : Char}
    {rest : List Char}
    (start : isNumberStart first = true)
    (isChar : isNumberChar first = true)
    (chars : ∀ char ∈ rest, isNumberChar char = true) :
    IsNumber (first :: rest) where
  chars := by
    intro char member
    rcases List.mem_cons.1 member with rfl | inRest
    · exact isChar
    · exact chars char inRest
  start := by simp [start]

end IsNumber

namespace Atom

theorem isNumber_of_natural?
    {chars : List Char}
    {value : Nat}
    (reads : natural? chars = some value) :
    IsNumber chars := by
  have marked :
      ∀ {mark : Char} {base : Nat} {digits : List Char},
        isNumberChar mark = true →
        Text.radix? base digits = some value →
        IsNumber ('0' :: mark :: digits) := by
    intro mark base digits isMark readsDigits
    apply IsNumber.cons (by decide) (by decide)
    intro char member
    rcases List.mem_cons.1 member with rfl | inDigits
    · exact isMark
    · exact isNumberChar_of_isAlphanum (Text.isAlphanum_of_radix? readsDigits char inDigits)
  rw [natural?.eq_def] at reads
  split at reads
  · exact marked (by decide) reads
  · exact marked (by decide) reads
  · exact marked (by decide) reads
  · split at reads
    · cases reads
    · rcases Text.digits_of_decimal? reads with ⟨notEmpty, allDigits⟩
      exact .of_digits notEmpty allDigits

theorem isNumber_of_integer?
    {chars : List Char}
    {value : Int}
    (reads : integer? chars = some value) :
    IsNumber chars := by
  rw [integer?.eq_def] at reads
  split at reads
  · rcases Option.map_eq_some_iff.1 reads with ⟨_, readsRest, _⟩
    exact .cons (by decide) (by decide) (isNumber_of_natural? readsRest).chars
  · rcases Option.map_eq_some_iff.1 reads with ⟨_, readsRest, _⟩
    exact .cons (by decide) (by decide) (isNumber_of_natural? readsRest).chars
  · rcases Option.map_eq_some_iff.1 reads with ⟨_, readsRest, _⟩
    exact isNumber_of_natural? readsRest

end Atom

end Yaml

namespace Decimal

open Yaml

theorem isNumberChar_of_exponentPart?
    {chars : List Char}
    {exponent : Int}
    (reads : exponentPart? chars = some exponent) :
    ∀ char ∈ chars, isNumberChar char = true := by
  have digitsRead :
      ∀ {digits : List Char} {change : Nat → Int},
        (Text.decimal? digits).map change = some exponent →
        ∀ char ∈ digits, isNumberChar char = true := by
    intro digits change readsDigits char member
    rcases Option.map_eq_some_iff.1 readsDigits with ⟨_, readsDigits, _⟩
    exact isNumberChar_of_isDigit ((Text.digits_of_decimal? readsDigits).2 char member)
  rw [exponentPart?.eq_def] at reads
  split at reads
  · simp
  · rename_i mark rest
    split at reads
    · rename_i isMark
      have markIsChar : isNumberChar mark = true := by
        simp only [Bool.or_eq_true, decide_eq_true_eq] at isMark
        rcases isMark with rfl | rfl <;> decide
      intro char member
      rcases List.mem_cons.1 member with rfl | inRest
      · exact markIsChar
      · split at reads
        · rcases List.mem_cons.1 inRest with rfl | inDigits
          · decide
          · exact digitsRead reads char inDigits
        · rcases List.mem_cons.1 inRest with rfl | inDigits
          · decide
          · exact digitsRead reads char inDigits
        · exact digitsRead reads char inRest
    · cases reads

/-- The part behind the point and what follows it make up the text. -/
theorem fractionPart_cases (chars : List Char) :
    (∃ rest,
        chars = '.' :: rest ∧
          fractionPart chars = (rest.takeWhile Char.isDigit, rest.dropWhile Char.isDigit)) ∨
      fractionPart chars = ([], chars) := by
  rw [fractionPart.eq_def]
  split
  · rename_i rest
    exact Or.inl ⟨rest, rfl, rfl⟩
  · exact Or.inr rfl

theorem isNumber_of_unsigned?
    {negative : Bool}
    {chars : List Char}
    {decimal : Decimal}
    (reads : unsigned? negative chars = some decimal) :
    IsNumber chars := by
  have wholeDigits : ∀ char ∈ chars.takeWhile Char.isDigit, char.isDigit = true := by
    intro char member
    exact List.all_eq_true.1 List.all_takeWhile char member
  rw [unsigned?] at reads
  rcases fractionPart_cases (chars.dropWhile Char.isDigit) with
    ⟨rest, afterWhole, parts⟩ | parts
  · rw [parts] at reads
    dsimp only at reads
    split at reads
    · cases reads
    · rcases Option.map_eq_some_iff.1 reads with ⟨exponent, readsExponent, _⟩
      have restChars : ∀ char ∈ rest, isNumberChar char = true := by
        rw [← List.takeWhile_append_dropWhile (p := Char.isDigit) (l := rest)]
        intro char member
        rcases List.mem_append.1 member with inFraction | inExponent
        · exact isNumberChar_of_isDigit (List.all_eq_true.1 List.all_takeWhile char inFraction)
        · exact isNumberChar_of_exponentPart? readsExponent char inExponent
      have pointed : IsNumber ('.' :: rest) := .cons (by decide) (by decide) restChars
      rw [← List.takeWhile_append_dropWhile (p := Char.isDigit) (l := chars), afterWhole]
      by_cases wholeEmpty : chars.takeWhile Char.isDigit = []
      · rw [wholeEmpty]
        exact pointed
      · exact (IsNumber.of_digits wholeEmpty wholeDigits).append pointed.chars
  · rw [parts] at reads
    dsimp only at reads
    split at reads
    · cases reads
    · rename_i notEmpty
      rcases Option.map_eq_some_iff.1 reads with ⟨exponent, readsExponent, _⟩
      have wholeNotEmpty : chars.takeWhile Char.isDigit ≠ [] := by
        intro isEmpty
        apply notEmpty
        rw [isEmpty]
        rfl
      rw [← List.takeWhile_append_dropWhile (p := Char.isDigit) (l := chars)]
      exact (IsNumber.of_digits wholeNotEmpty wholeDigits).append
        (isNumberChar_of_exponentPart? readsExponent)

theorem isNumber_of_ofChars?
    {chars : List Char}
    {decimal : Decimal}
    (reads : ofChars? chars = some decimal) :
    IsNumber chars := by
  rw [ofChars?.eq_def] at reads
  split at reads
  · exact .cons (by decide) (by decide) (isNumber_of_unsigned? reads).chars
  · exact .cons (by decide) (by decide) (isNumber_of_unsigned? reads).chars
  · exact isNumber_of_unsigned? reads

end Decimal

namespace Yaml.Atom

/-- Whether an atom is nothing or a text. -/
def isTextual : Atom → Bool
  | null => true
  | text _ => true
  | _ => false

theorem isConstant_of_bool?
    {content : String}
    {truth : Bool}
    (reads : bool? content = some truth) :
    IsConstant content := by
  apply IsConstant.truth
  rw [bool?] at reads
  split at reads
  · rename_i isTrue
    exact List.mem_append_left ["false", "False", "FALSE"] isTrue
  · split at reads
    · rename_i isFalse
      exact List.mem_append_right ["true", "True", "TRUE"] isFalse
    · cases reads

theorem isConstant_of_float?
    {content : String}
    {number : Binary64}
    (reads : float? content = some number) :
    IsConstant content := by
  have ofWord :
      ∀ words : List String,
        (∀ word ∈ words, IsNumber word.toList) → content ∈ words → IsConstant content := by
    intro words allNumbers isWord
    exact .number (allNumbers content isWord)
  rw [float?] at reads
  split at reads
  · rename_i isWord
    exact ofWord _ (by decide) isWord
  · split at reads
    · rename_i isWord
      exact ofWord _ (by decide) isWord
    · split at reads
      · rename_i isWord
        exact ofWord _ (by decide) isWord
      · rw [finite?, Option.filter_eq_some_iff] at reads
        rcases Option.map_eq_some_iff.1 reads.1 with ⟨decimal, readsDecimal, _⟩
        exact .number (Decimal.isNumber_of_ofChars? readsDecimal)

theorem isConstant_of_ofWord
    {content : String}
    (notTextual : (ofWord content).isTextual = false) :
    IsConstant content := by
  rw [ofWord] at notTextual
  split at notTextual
  · cases notTextual
  · split at notTextual
    · rename_i readsFloat
      exact isConstant_of_float? readsFloat
    · cases notTextual

/-- A scalar without quotes that is neither nothing nor a text is a constant. -/
theorem isConstant_of_ofPlain?
    {content : String}
    {atom : Atom}
    (reads : ofPlain? content = some atom)
    (notTextual : atom.isTextual = false) :
    IsConstant content := by
  rw [ofPlain?] at reads
  split at reads
  · cases reads
    cases notTextual
  · split at reads
    · rename_i readsBool
      exact isConstant_of_bool? readsBool
    · split at reads
      · rename_i readsInteger
        exact .number (isNumber_of_integer? readsInteger)
      · cases reads
        exact isConstant_of_ofWord notTextual

/-- A scalar under a tag that is neither nothing nor a text is a constant. -/
theorem isConstant_of_ofTagged?
    {tag : Tag}
    {content : String}
    {atom : Atom}
    (reads : ofTagged? tag content = some atom)
    (notTextual : atom.isTextual = false) :
    IsConstant content := by
  rw [ofTagged?] at reads
  split at reads
  · rcases Option.map_eq_some_iff.1 reads with ⟨_, readsBool, _⟩
    exact isConstant_of_bool? readsBool
  · split at reads
    · rw [ofIntegerText?] at reads
      split at reads
      · rename_i readsInteger
        exact .number (isNumber_of_integer? readsInteger)
      · cases reads
    · split at reads
      · rcases Option.map_eq_some_iff.1 reads with ⟨_, readsFloat, _⟩
        exact isConstant_of_float? readsFloat
      · split at reads
        · split at reads
          · cases reads
            cases notTextual
          · cases reads
        · cases reads
          cases notTextual

end Yaml.Atom

end Manifest
