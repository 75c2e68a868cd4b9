import Manifest.Proofs.Yaml.Constant.Reading
import Manifest.Yaml.Printer

/-!
# Constants that are printed

What is printed for an atom that is neither nothing nor a text is a constant, and
so is the literal of such a value.
-/

namespace Manifest

namespace Yaml

theorem isNumber_natText (number : Nat) :
    IsNumber (toString number).toList := by
  rw [Nat.toString_eq_repr, Nat.toList_repr]
  exact .of_digits Nat.toDigits_ne_nil fun char member =>
    Nat.isDigit_of_mem_toDigits (by decide) (by decide) member

theorem isNumber_intText (number : Int) :
    IsNumber (toString number).toList := by
  rw [Int.toString_eq_repr, Int.repr_eq_if]
  split
  · exact isNumber_natText number.toNat
  · rw [String.toList_append]
    exact .cons (by decide) (by decide) (isNumber_natText (-number).toNat).chars

end Yaml

namespace FloatText

open Yaml

theorem isNumber_signText
    {text : String}
    (isNumber : IsNumber text.toList)
    (negative : Bool) :
    IsNumber (signText negative ++ text).toList := by
  rw [String.toList_append]
  cases negative with
  | true => exact .cons (by decide) (by decide) isNumber.chars
  | false => exact isNumber

theorem isNumberChar_zeros (count : Nat) :
    ∀ char ∈ (zeros count).toList, isNumberChar char = true := by
  intro char member
  rw [zeros, String.toList_ofList] at member
  rw [(List.mem_replicate.1 member).2]
  decide

/-- Digits with a point among them or around them are a number. -/
theorem isNumber_pointed
    {digits : List Char}
    (allDigits : ∀ char ∈ digits, char.isDigit = true)
    (whole : Nat) :
    IsNumber (pointed digits whole).toList := by
  have partDigits :
      ∀ {part : List Char}, (∀ char ∈ part, char ∈ digits) →
        ∀ char ∈ part, char.isDigit = true := by
    intro part isPart char member
    exact allDigits char (isPart char member)
  have fraction : IsNumber ('.' :: digits.drop whole) := by
    apply IsNumber.cons (by decide) (by decide)
    intro char member
    exact isNumberChar_of_isDigit (partDigits (fun _ => List.mem_of_mem_drop) char member)
  simp only [pointed, String.toList_append, String.toList_ofList, List.append_assoc]
  change IsNumber (digits.take whole ++ '.' :: digits.drop whole)
  by_cases wholeEmpty : digits.take whole = []
  · rw [wholeEmpty]
    exact fraction
  · exact (IsNumber.of_digits wholeEmpty
      (partDigits fun _ => List.mem_of_mem_take)).append fraction.chars

theorem isDigit_of_mem_digits
    (number : Nat) :
    ∀ char ∈ Nat.toDigits 10 number, char.isDigit = true :=
  fun _ member => Nat.isDigit_of_mem_toDigits (by decide) (by decide) member

theorem isNumber_positional (decimal : Decimal) :
    IsNumber (positional decimal).toList := by
  have digits : IsNumber (Nat.toDigits 10 decimal.digits) :=
    .of_digits Nat.toDigits_ne_nil (isDigit_of_mem_digits decimal.digits)
  rw [positional]
  split
  · simp only [String.toList_append, String.toList_ofList]
    exact (digits.append (isNumberChar_zeros _)).append (List.all_eq_true.1 (by decide))
  · split
    · exact isNumber_pointed (isDigit_of_mem_digits decimal.digits) _
    · simp only [String.toList_append, String.toList_ofList]
      have zero : IsNumber "0.".toList := by decide
      exact (zero.append (isNumberChar_zeros _)).append digits.chars

theorem isNumberChar_exponentText
    {format : FloatText}
    (plainExponent : format.positiveExponent = "")
    (exponent : Int) :
    ∀ char ∈ (format.exponentText exponent).toList, isNumberChar char = true := by
  have number := isNumber_natText exponent.natAbs
  rw [exponentText, plainExponent]
  split
  · rw [String.toList_append]
    exact List.forall_mem_append.2 ⟨List.all_eq_true.1 (by decide), number.chars⟩
  · rw [String.toList_append]
    exact List.forall_mem_append.2 ⟨List.all_eq_true.1 (by decide), number.chars⟩

theorem isNumber_scientific
    {format : FloatText}
    (plainExponent : format.positiveExponent = "")
    (decimal : Decimal) :
    IsNumber (format.scientific decimal).toList := by
  have allDigits := isDigit_of_mem_digits decimal.digits
  rw [scientific, String.toList_append]
  apply IsNumber.append _ (isNumberChar_exponentText plainExponent _)
  split
  · rw [String.toList_ofList]
    exact .of_digits Nat.toDigits_ne_nil allDigits
  · exact isNumber_pointed allDigits 1

/-- A printed floating point number is a number, also where it is infinite or none. -/
theorem isNumber_render (number : Binary64) :
    IsNumber (Yaml.floatText.render number).toList := by
  rw [render]
  split
  · decide
  · split
    · split <;> decide
    · split
      · exact isNumber_signText (by decide) _
      · apply isNumber_signText
        split
        · exact isNumber_positional _
        · exact isNumber_scientific rfl _

theorem isNumber_literal (number : Binary64) :
    IsNumber (literal number).toList := by
  rw [literal]
  split
  · decide
  · split
    · split <;> decide
    · split
      · rw [String.append_assoc]
        apply isNumber_signText
        rw [String.toList_append]
        exact (isNumber_natText _).append (List.all_eq_true.1 (by decide))
      · exact isNumber_signText (isNumber_positional _) _

end FloatText

namespace Yaml

theorem isConstant_truthText (truth : Bool) :
    IsConstant (if truth then "true" else "false") := by
  cases truth <;> exact .truth (by decide)

/-- What is printed for an atom that is neither nothing nor a text is a constant. -/
theorem Atom.isConstant_content
    {atom : Atom}
    (notTextual : atom.isTextual = false) :
    IsConstant atom.content := by
  cases atom with
  | null => cases notTextual
  | bool truth => exact isConstant_truthText truth
  | int number => exact .number (isNumber_intText number)
  | float number => exact .number (FloatText.isNumber_render number)
  | text content => cases notTextual

end Yaml

/-- The literal of a value that is neither nothing nor a text is a constant. -/
theorem ScalarValue.isConstant_literal
    {value : ScalarValue}
    (notTextual : value.toAtom.isTextual = false) :
    Yaml.IsConstant value.literal := by
  cases value with
  | null => cases notTextual
  | bool truth => exact Yaml.isConstant_truthText truth
  | int number => exact .number (Yaml.isNumber_intText number.toInt)
  | float number => exact .number (FloatText.isNumber_literal number)
  | text content => cases notTextual

end Manifest
