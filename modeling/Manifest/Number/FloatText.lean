import Manifest.Number.Shortest

/-!
# Texts of floating point numbers

Three texts are in use.  Printed documents write the shortest digits, with an
exponent outside a middle range; they differ in the sign of a positive exponent
and in the words for what is no finite number.  The literal of a scalar is
always positional, and a whole number shows all of its digits and one place.
-/

namespace Manifest

/-- How a document format writes floating point numbers. -/
structure FloatText where
  positiveExponent : String
  nan : String
  infinity : String
  negativeInfinity : String

namespace FloatText

/-- Numbers below one keep the positional notation down to this order. -/
def leastPositional : Int := -5

/-- Numbers keep the positional notation up to this order. -/
def greatestPositional : Int := 16

/-- A minus sign or nothing. -/
def signText (negative : Bool) : String :=
  if negative then "-" else ""

/-- As many zeros as asked for. -/
def zeros (count : Nat) : String :=
  String.ofList (List.replicate count '0')

/-- An exponent with its sign. -/
def exponentText (format : FloatText) (exponent : Int) : String :=
  if exponent < 0 then "e-" ++ toString exponent.natAbs
  else "e" ++ format.positiveExponent ++ toString exponent.natAbs

/-- Digits with a point after the first `whole` of them. -/
def pointed (digits : List Char) (whole : Nat) : String :=
  String.ofList (digits.take whole) ++ "." ++ String.ofList (digits.drop whole)

/-- Positional notation, with at least one place after the point. -/
def positional (decimal : Decimal) : String :=
  let digits := Nat.toDigits 10 decimal.digits
  let order := decimal.exponent + Int.ofNat digits.length
  if 0 ≤ decimal.exponent then
    String.ofList digits ++ zeros decimal.exponent.toNat ++ ".0"
  else if 0 < order then pointed digits order.toNat
  else "0." ++ zeros (-order).toNat ++ String.ofList digits

/-- Scientific notation: one digit before the point. -/
def scientific (format : FloatText) (decimal : Decimal) : String :=
  let digits := Nat.toDigits 10 decimal.digits
  let exponent := decimal.exponent + Int.ofNat digits.length - 1
  let mantissa :=
    if digits.length = 1 then String.ofList digits else pointed digits 1
  mantissa ++ format.exponentText exponent

/-- The text of a floating point number in a document. -/
def render (format : FloatText) (number : Binary64) : String :=
  if number.isNaN then format.nan
  else if number.isInfinite then
    if number.isNegative then format.negativeInfinity else format.infinity
  else if number.isZero then signText number.isNegative ++ "0.0"
  else
    let decimal := Shortest.ofBinary64 number
    let order := decimal.exponent + Int.ofNat (Decimal.digitCount decimal.digits)
    signText number.isNegative ++
      (if leastPositional < order && order ≤ greatestPositional then positional decimal
        else format.scientific decimal)

/-- The literal of a floating point scalar that was built in memory. -/
def literal (number : Binary64) : String :=
  if number.isNaN then ".nan"
  else if number.isInfinite then if number.isNegative then "-.inf" else ".inf"
  else if number.isIntegral then
    signText number.isNegative ++ toString (number.units / Binary64.unitsPerOne) ++ ".0"
  else signText number.isNegative ++ positional (Shortest.ofBinary64 number)

end FloatText

end Manifest
