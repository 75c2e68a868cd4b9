/-!
# Binary floating point numbers

A `Binary64` is a word of sixty-four bits read as a floating point number: a
sign, eleven bits of exponent and fifty-two bits of fraction.  The magnitude of
a finite number is its `significand` times `2 ^ scale`, in units of
`2 ^ (-1074)`.

`ofRatio` rounds a quotient of natural numbers to the nearest number, a tie to
the even neighbour.  Everything is computed in exact natural arithmetic.
-/

namespace Manifest

/-- A floating point number of sixty-four bits. -/
structure Binary64 where
  bits : UInt64
deriving DecidableEq, Repr, Inhabited

namespace Binary64

/-- The weight of the lowest bit of the exponent, `2 ^ 52`. -/
def fractionBound : Nat := 0x10000000000000

/-- The weight of the sign, `2 ^ 63`. -/
def signBound : Nat := 0x8000000000000000

/-- The exponent field that marks infinities and the values that are no number. -/
def topExponent : Nat := 2047

/-- The lowest unit, `2 ^ (-1074)`, divides one this many times. -/
def unitsPerOne : Nat := Nat.pow 2 1074

/-- The bits without the sign. -/
def magnitudeBits (number : Binary64) : Nat :=
  number.bits.toNat % signBound

/-- Whether the sign is set. -/
def isNegative (number : Binary64) : Bool :=
  signBound ≤ number.bits.toNat

/-- The eleven bits of the exponent. -/
def exponentField (number : Binary64) : Nat :=
  number.magnitudeBits / fractionBound

/-- The fifty-two bits of the fraction. -/
def fraction (number : Binary64) : Nat :=
  number.magnitudeBits % fractionBound

/-- A value that is no number. -/
def isNaN (number : Binary64) : Bool :=
  number.exponentField == topExponent && number.fraction != 0

/-- One of the two infinities. -/
def isInfinite (number : Binary64) : Bool :=
  number.exponentField == topExponent && number.fraction == 0

/-- Neither an infinity nor a value that is no number. -/
def isFinite (number : Binary64) : Bool :=
  number.exponentField != topExponent

/-- One of the two zeros. -/
def isZero (number : Binary64) : Bool :=
  number.magnitudeBits == 0

/-- The integer factor of the magnitude. -/
def significand (number : Binary64) : Nat :=
  if number.exponentField = 0 then number.fraction else fractionBound + number.fraction

/-- The power of two that scales the significand, in units of `2 ^ (-1074)`. -/
def scale (number : Binary64) : Nat :=
  number.exponentField - 1

/-- The magnitude of a finite number, in units of `2 ^ (-1074)`. -/
def units (number : Binary64) : Nat :=
  number.significand * Nat.pow 2 number.scale

/-- Whether a finite number is a whole number. -/
def isIntegral (number : Binary64) : Bool :=
  number.units % unitsPerOne == 0

/--
Equality of numbers: the two zeros are equal, and a value that is no number
equals nothing, not even itself.
-/
def same (left right : Binary64) : Bool :=
  !left.isNaN && !right.isNaN && (left == right || (left.isZero && right.isZero))

/-- Bits with a sign in front. -/
def withSign (negative : Bool) (magnitude : Nat) : Binary64 :=
  ⟨UInt64.ofNat (if negative then signBound + magnitude else magnitude)⟩

/-- The infinity with a sign. -/
def infinity (negative : Bool) : Binary64 :=
  withSign negative (topExponent * fractionBound)

/-- The zero with a sign. -/
def zero (negative : Bool) : Binary64 :=
  withSign negative 0

/-- A value that is no number, with a clear sign. -/
def nan : Binary64 :=
  withSign false (topExponent * fractionBound + fractionBound / 2)

/-- The quotient rounded to the nearest natural number, a tie to the even one. -/
def roundedQuotient (numerator denominator : Nat) : Nat :=
  let quotient := numerator / denominator
  let twice := 2 * (numerator % denominator)
  if twice < denominator then quotient
  else if denominator < twice then quotient + 1
  else quotient + quotient % 2

/--
The number nearest to a quotient.  Below `2 ^ 53` units the units themselves
are the grid; above, the grid keeps fifty-three bits.  A carry out of the
fraction moves into the exponent by itself.
-/
def ofRatio (negative : Bool) (numerator denominator : Nat) : Binary64 :=
  let scaled := numerator * unitsPerOne
  let shift := Nat.log2 (scaled / denominator) - 52
  let magnitude := shift * fractionBound + roundedQuotient scaled (denominator * Nat.pow 2 shift)
  if topExponent * fractionBound ≤ magnitude then infinity negative
  else withSign negative magnitude

/-- The number nearest to a natural number. -/
def ofNat (number : Nat) : Binary64 :=
  ofRatio false number 1

/-- The number nearest to an integer. -/
def ofInt (number : Int) : Binary64 :=
  ofRatio (number < 0) number.natAbs 1

/-- The product of a finite number and a natural number, rounded. -/
def scaleUp (number : Binary64) (factor : Nat) : Binary64 :=
  ofRatio number.isNegative (number.units * factor) unitsPerOne

/-- The quotient of a finite number and a positive natural number, rounded. -/
def scaleDown (number : Binary64) (divisor : Nat) : Binary64 :=
  ofRatio number.isNegative number.units (unitsPerOne * divisor)

example : (ofRatio false 1 10).bits = 0x3fb999999999999a := by decide +kernel

end Binary64

end Manifest
