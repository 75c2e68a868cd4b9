import Manifest.Json.Basic
import Manifest.Text.Numeral

/-!
# Numbers of JSON texts

A numeral is a number as it is written.  To find its value, digits are collected
into a significand of 64 bits.  When the next digit does not fit any more, the
remaining digits only move the decimal exponent.  An integer that fits stays an
integer; every other number is the significand rounded to a floating point
number and then scaled by one power of ten, which is rounded once more.  A
result beyond the largest finite number is refused.
-/

namespace Manifest.Json

/-- Significands stay below this bound, `2 ^ 64`. -/
def significandBound : Nat := 0x10000000000000000

/-- Exponents that do not fit below this bound, `2 ^ 31`, are settled by their sign. -/
def exponentBound : Int := 0x80000000

/-- The greatest power of ten that is a floating point number. -/
def topPower : Nat := 308

/-- The floating point number nearest to a power of ten, which is a whole number. -/
def powerOfTen (exponent : Nat) : Nat :=
  (Binary64.ofNat (Nat.pow 10 exponent)).units / Binary64.unitsPerOne

/--
A magnitude scaled by a power of ten.  A very small number takes several steps,
each of which divides by the greatest power of ten.
-/
def scaled? : Nat → Binary64 → Int → Option Binary64
  | 0, magnitude, _ => some magnitude
  | fuel + 1, magnitude, exponent =>
      if exponent.natAbs ≤ topPower then
        if 0 ≤ exponent then
          let result := magnitude.scaleUp (powerOfTen exponent.natAbs)
          if result.isInfinite then none else some result
        else some (magnitude.scaleDown (powerOfTen exponent.natAbs))
      else if magnitude.isZero then some magnitude
      else if 0 ≤ exponent then none
      else scaled? fuel (magnitude.scaleDown (powerOfTen topPower)) (exponent + topPower)

/-- A number with its sign. -/
def signed (negative : Bool) (magnitude : Binary64) : Binary64 :=
  Binary64.withSign negative magnitude.magnitudeBits

/-- The floating point number of a significand and an exponent. -/
def floatOfParts? (negative : Bool) (significand : Nat) (exponent : Int) : Option Json :=
  (scaled? 8 (Binary64.ofNat significand) exponent).map fun magnitude =>
    float (signed negative magnitude)

/-- Digits after which a significand would not fit are dropped; their number is kept. -/
def takeDigits (significand : Nat) : List Char → Nat × Nat × List Char
  | [] => (significand, 0, [])
  | digit :: rest =>
      if significand * 10 + Text.digitValue digit < significandBound then
        takeDigits (significand * 10 + Text.digitValue digit) rest
      else (significand, rest.length + 1, digit :: rest)

/-- The exponent written after its mark and sign; the second part says whether it overflows. -/
def exponentValue : List Char → Int → Int × Bool
  | [], value => (value, false)
  | digit :: rest, value =>
      let next := value * 10 + Int.ofNat (Text.digitValue digit)
      if next < exponentBound then exponentValue rest next else (value, true)

/-- The exponent of a numeral. -/
structure Exponent where
  negative : Bool
  digits : List Char
deriving Repr

/-- A number as it is written. -/
structure Numeral where
  negative : Bool
  /-- The digits of the whole part; several do not start with a zero. -/
  whole : List Char
  fraction : List Char
  exponent : Option Exponent
deriving Repr

namespace Numeral

/-- A significand without its sign, scaled by the exponent of the numeral and one of its own. -/
def scaledBy? (numeral : Numeral) (significand : Nat) (scale : Int) : Option Json :=
  match numeral.exponent with
  | none => floatOfParts? numeral.negative significand scale
  | some exponent =>
      match exponentValue exponent.digits 0 with
      | (_, true) =>
          if significand != 0 && !exponent.negative then none
          else some (float (Binary64.zero numeral.negative))
      | (value, false) =>
          let total := if exponent.negative then scale - value else scale + value
          floatOfParts? numeral.negative significand total

/-- A number without fraction and exponent that fits the significand. -/
def integer (negative : Bool) (significand : Nat) : Json :=
  if !negative then int (Int.ofNat significand)
  else if significand = 0 || 0x8000000000000000 < significand then
    float (signed true (Binary64.ofNat significand))
  else int (-Int.ofNat significand)

/-- The number that a numeral denotes, unless it is too large. -/
def value? (numeral : Numeral) : Option Json :=
  match takeDigits 0 numeral.whole with
  | (significand, dropped, _) =>
      if numeral.fraction.isEmpty then
        if dropped = 0 && numeral.exponent.isNone then
          some (integer numeral.negative significand)
        else numeral.scaledBy? significand (Int.ofNat dropped)
      else
        match takeDigits significand numeral.fraction with
        | (longer, droppedBehind, _) =>
            numeral.scaledBy? longer
              (Int.ofNat dropped - Int.ofNat (numeral.fraction.length - droppedBehind))

end Numeral

/-- The digits at the start of a text, of which there must be one, and what follows them. -/
def digits? (chars : List Char) : Option (List Char × List Char) :=
  let digits := chars.takeWhile Char.isDigit
  if digits.isEmpty then none else some (digits, chars.dropWhile Char.isDigit)

/-- The exponent behind its letter, and what follows it. -/
def exponent? : List Char → Option (Exponent × List Char)
  | '+' :: rest => (digits? rest).map fun found => (⟨false, found.1⟩, found.2)
  | '-' :: rest => (digits? rest).map fun found => (⟨true, found.1⟩, found.2)
  | rest => (digits? rest).map fun found => (⟨false, found.1⟩, found.2)

/-- A numeral once all its digits are read, and what follows it. -/
def withExponent? (numeral : Numeral) : List Char → Option (Numeral × List Char)
  | 'e' :: rest =>
      (exponent? rest).map fun found => ({ numeral with exponent := some found.1 }, found.2)
  | 'E' :: rest =>
      (exponent? rest).map fun found => ({ numeral with exponent := some found.1 }, found.2)
  | rest => some (numeral, rest)

/-- A numeral once its whole part is read, and what follows it. -/
def withFraction? (numeral : Numeral) : List Char → Option (Numeral × List Char)
  | '.' :: rest =>
      match digits? rest with
      | none => none
      | some (digits, after) => withExponent? { numeral with fraction := digits } after
  | rest => withExponent? numeral rest

/-- A numeral once its sign is read, and what follows it. -/
def unsignedNumeral? (negative : Bool) (chars : List Char) : Option (Numeral × List Char) :=
  match digits? chars with
  | none => none
  | some (digits, after) =>
      if digits.head? == some '0' && 1 < digits.length then none
      else withFraction? ⟨negative, digits, [], none⟩ after

/-- The numeral at the start of a text, and what follows it. -/
def numeral? : List Char → Option (Numeral × List Char)
  | '-' :: rest => unsignedNumeral? true rest
  | chars => unsignedNumeral? false chars

end Manifest.Json
