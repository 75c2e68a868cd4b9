/-!
# Decimal numerals

Reading of the numbers that occur inside names and expressions: positions in
a sequence, and the integers that label expressions compare.
-/

namespace Manifest.Text

/-- The value of a digit of base ten. -/
def digitValue (char : Char) : Nat :=
  char.toNat - 48

/-- The number that a list of decimal digits denotes. -/
def decimalValue (digits : List Char) : Nat :=
  digits.foldl (fun value digit => value * 10 + digitValue digit) 0

/-- A non-empty list of decimal digits as a number. -/
def decimal? (chars : List Char) : Option Nat :=
  if !chars.isEmpty && chars.all Char.isDigit then some (decimalValue chars) else none

/-- The value of a digit in a base of at most sixteen. -/
def digitValue? (base : Nat) (char : Char) : Option Nat :=
  let value? :=
    if char.isDigit then some (digitValue char)
    else if 'a' ≤ char && char ≤ 'f' then some (char.toNat - 87)
    else if 'A' ≤ char && char ≤ 'F' then some (char.toNat - 55)
    else none
  value?.filter (· < base)

/-- A non-empty list of digits in a base as a number. -/
def radix? (base : Nat) (chars : List Char) : Option Nat :=
  if chars.isEmpty then none
  else chars.foldlM (fun value char => (digitValue? base char).map (value * base + ·)) 0

/-- Positions are below this bound, `2 ^ 64`. -/
def positionBound : Nat :=
  0x10000000000000000

/-- A list of digits as a position, unless it is too large for one. -/
def digitsPosition? (chars : List Char) : Option Nat :=
  (decimal? chars).filter (· < positionBound)

/-- A text as a position; a plus sign may precede the digits. -/
def position? (text : String) : Option Nat :=
  match text.toList with
  | '+' :: digits => digitsPosition? digits
  | digits => digitsPosition? digits

/-- A text as an integer of 64 bits, with an optional sign. -/
def integer? (text : String) : Option Int :=
  match text.toList with
  | '+' :: digits => (decimal? digits).bind fun value =>
      if value < 0x8000000000000000 then some (Int.ofNat value) else none
  | '-' :: digits => (decimal? digits).bind fun value =>
      if value ≤ 0x8000000000000000 then some (-Int.ofNat value) else none
  | digits => (decimal? digits).bind fun value =>
      if value < 0x8000000000000000 then some (Int.ofNat value) else none

example : integer? "-9223372036854775808" = some (-9223372036854775808) := by decide

example : position? "+7" = some 7 := by decide

end Manifest.Text
