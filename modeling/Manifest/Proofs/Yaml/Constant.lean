import Manifest.Identity.Gvk
import Manifest.Proofs.Text
import Manifest.Resource.Behavior

/-!
# Texts of truth values and numbers

A constant is a word for a truth value, or a number, which starts with a digit,
a sign or a point and holds letters, digits, signs and points alone.  The class
is wider than that of the numbers that are read; all that counts is what it
excludes.

A constant never names a behavior or the kind of a list, and it is one piece
where commas or slashes split texts.
-/

namespace Manifest

namespace Yaml

/-- The characters of numbers. -/
def isNumberChar (char : Char) : Bool :=
  char.isAlphanum || char = '+' || char = '-' || char = '.'

/-- The characters that numbers start with. -/
def isNumberStart (char : Char) : Bool :=
  char.isDigit || char = '+' || char = '-' || char = '.'

/-- What a number can be written as. -/
structure IsNumber (text : List Char) : Prop where
  chars : ∀ char ∈ text, isNumberChar char = true
  start : text.head?.any isNumberStart = true

instance (text : List Char) : Decidable (IsNumber text) :=
  decidable_of_iff (text.all isNumberChar = true ∧ text.head?.any isNumberStart = true)
    ⟨fun ⟨chars, start⟩ => ⟨List.all_eq_true.1 chars, start⟩,
      fun ⟨chars, start⟩ => ⟨List.all_eq_true.2 chars, start⟩⟩

/-- The words for truth values. -/
def truthWords : List String := ["true", "True", "TRUE", "false", "False", "FALSE"]

/-- A text that a truth value or a number can be written as. -/
inductive IsConstant (text : String) : Prop where
  | truth (isWord : text ∈ truthWords)
  | number (isNumber : IsNumber text.toList)

/-! ## What constants are not -/

/-- What a number starts with is no blank and is its own lower case. -/
theorem plain_of_numberStart
    {char : Char}
    (start : isNumberStart char = true) :
    Text.isBlank char = false ∧ char.toLower = char := by
  simp only [isNumberStart, Bool.or_eq_true, decide_eq_true_eq] at start
  rcases start with ((isDigit | rfl) | rfl) | rfl
  · have bounds : 48 ≤ char.toNat ∧ char.toNat ≤ 57 := by
      simpa [Char.isDigit, UInt32.le_iff_toNat_le] using isDigit
    constructor
    · simp only [Text.isBlank, Text.inRanges, Text.blankRanges, List.any_cons, List.any_nil,
        Bool.or_eq_false_iff, Bool.and_eq_false_iff, decide_eq_false_iff_not, and_true]
      omega
    · unfold Char.toLower
      rw [dif_neg]
      rintro ⟨isUpper, _⟩
      have above : 65 ≤ char.toNat := UInt32.le_iff_toNat_le.1 isUpper
      omega
  · decide
  · decide
  · decide

/-- A number stays a number when blanks around it and upper case are removed. -/
theorem IsNumber.start_of_trimmed
    {text : String}
    (isNumber : IsNumber text.toList) :
    (Text.asciiLower (Text.trim text)).toList.head?.any isNumberStart = true := by
  cases chars : text.toList with
  | nil =>
      have start := isNumber.start
      rw [chars] at start
      contradiction
  | cons first rest =>
      have start : isNumberStart first = true := by
        simpa [chars] using isNumber.start
      rcases plain_of_numberStart start with ⟨notBlank, sameLower⟩
      have trimmed : ∃ others, (Text.trim text).toList = first :: others := by
        refine ⟨(rest.reverse.dropWhile Text.isBlank).reverse, ?_⟩
        rw [Text.trim, String.toList_ofList, chars, Text.trimStart, List.dropWhile_cons,
          if_neg (by simp [notBlank]), Text.trimEnd, Text.trimStart, List.reverse_cons,
          List.dropWhile_append]
        split
        · rename_i isEmpty
          rw [List.isEmpty_iff.1 isEmpty, List.dropWhile_cons, if_neg (by simp [notBlank])]
          rfl
        · simp
      rcases trimmed with ⟨others, sameChars⟩
      simp [Text.asciiLower, sameChars, sameLower, start]

namespace IsConstant

variable {text : String}

theorem chars
    (isConstant : IsConstant text) :
    ∀ char ∈ text.toList, isNumberChar char = true := by
  cases isConstant with
  | truth isWord =>
      have allWords : ∀ word ∈ truthWords, word.toList.all isNumberChar = true := by
        decide
      exact List.all_eq_true.1 (allWords text isWord)
  | number isNumber => exact isNumber.chars

/-- A constant is one piece where a comma splits texts. -/
theorem split_comma
    (isConstant : IsConstant text) :
    Text.split ',' text = [text] := by
  have absent : ',' ∉ text.toList := by
    intro member
    exact absurd (isConstant.chars ',' member) (by decide)
  exact Text.split_of_not_mem absent

/-- A constant is no name of a behavior. -/
theorem parse_behavior
    (isConstant : IsConstant text) :
    Behavior.parse? text = none := by
  cases isConstant with
  | truth isWord =>
      have allWords : ∀ word ∈ truthWords, Behavior.parse? word = none := by
        decide +kernel
      exact allWords text isWord
  | number isNumber =>
      have noName :
          ∀ name : String,
            name.toList.head?.any isNumberStart = true →
              (if name = "" then some Behavior.unspecified else Behavior.ofName? name) = none := by
        intro name start
        have differs :
            ∀ other : String, other.toList.head?.any isNumberStart = false → name ≠ other := by
          rintro other noStart rfl
          rw [start] at noStart
          contradiction
        have notEmpty : name ≠ "" := differs "" (by decide)
        have notUnspecified : name ≠ "unspecified" := differs "unspecified" (by decide)
        have notCreate : name ≠ "create" := differs "create" (by decide)
        have notMerge : name ≠ "merge" := differs "merge" (by decide)
        have notReplace : name ≠ "replace" := differs "replace" (by decide)
        rw [if_neg notEmpty, Behavior.ofName?, if_neg notUnspecified, if_neg notCreate,
          if_neg notMerge, if_neg notReplace]
      rw [Behavior.parse?]
      exact noName (Text.asciiLower (Text.trim text)) isNumber.start_of_trimmed

/-- A constant is not the kind of a list. -/
theorem ne_list
    (isConstant : IsConstant text) :
    text ≠ "List" := by
  rintro rfl
  cases isConstant with
  | truth isWord => exact absurd isWord (by decide)
  | number isNumber => exact absurd isNumber.start (by decide)

end IsConstant

end Yaml

/-- A constant is a version without a group. -/
theorem Yaml.IsConstant.splitApiVersion
    {text : String}
    (isConstant : Yaml.IsConstant text) :
    Gvk.splitApiVersion text = ("", text) := by
  have absent : '/' ∉ text.toList := by
    intro member
    exact absurd (isConstant.chars '/' member) (by decide)
  rw [Gvk.splitApiVersion, Text.splitFirst?_of_not_mem absent]

end Manifest
