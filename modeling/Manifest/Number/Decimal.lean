import Manifest.Number.Binary64
import Manifest.Text.Numeral

/-!
# Decimal numbers

A decimal number is a natural number times a power of ten, with a sign.  This
module reads the usual notation of floating point constants, such as `-1.5e3`,
and rounds a decimal number to the nearest `Binary64`.
-/

namespace Manifest

/-- A natural number of digits times a power of ten, with a sign. -/
structure Decimal where
  negative : Bool
  digits : Nat
  exponent : Int
deriving DecidableEq, Repr

namespace Decimal

/-- The number of decimal digits of a natural number. -/
def digitCount (number : Nat) : Nat :=
  (Nat.toDigits 10 number).length

/--
The nearest floating point number.  Decimal numbers far outside the range of
floating point numbers are settled by their order of magnitude.
-/
def toBinary64 (decimal : Decimal) : Binary64 :=
  if decimal.digits = 0 then Binary64.zero decimal.negative
  else
    let order := decimal.exponent + Int.ofNat (digitCount decimal.digits)
    if order > 400 then Binary64.infinity decimal.negative
    else if order < -400 then Binary64.zero decimal.negative
    else if 0 ≤ decimal.exponent then
      Binary64.ofRatio decimal.negative (decimal.digits * Nat.pow 10 decimal.exponent.toNat) 1
    else
      Binary64.ofRatio decimal.negative decimal.digits (Nat.pow 10 (-decimal.exponent).toNat)

/-- The exponent part of a constant; nothing at all is the exponent zero. -/
def exponentPart? : List Char → Option Int
  | [] => some 0
  | mark :: rest =>
      if mark = 'e' || mark = 'E' then
        match rest with
        | '-' :: digits => (Text.decimal? digits).map fun value => -Int.ofNat value
        | '+' :: digits => (Text.decimal? digits).map Int.ofNat
        | digits => (Text.decimal? digits).map Int.ofNat
      else none

/-- The digits after the point, together with what follows them. -/
def fractionPart : List Char → List Char × List Char
  | '.' :: rest => (rest.takeWhile Char.isDigit, rest.dropWhile Char.isDigit)
  | rest => ([], rest)

/-- A constant without its sign: digits on at least one side of an optional point. -/
def unsigned? (negative : Bool) (chars : List Char) : Option Decimal :=
  let whole := chars.takeWhile Char.isDigit
  match fractionPart (chars.dropWhile Char.isDigit) with
  | (fraction, rest) =>
      if whole.isEmpty && fraction.isEmpty then none
      else
        (exponentPart? rest).map fun exponent =>
          { negative := negative
            digits := Text.decimalValue (whole ++ fraction)
            exponent := exponent - Int.ofNat fraction.length }

/-- The decimal number that a floating point constant denotes. -/
def ofChars? : List Char → Option Decimal
  | '-' :: rest => unsigned? true rest
  | '+' :: rest => unsigned? false rest
  | chars => unsigned? false chars

example : ofChars? "-1.5e3".toList = some ⟨true, 15, 2⟩ := by decide

end Decimal

end Manifest
