import Manifest.Number.Decimal

/-!
# Shortest decimal numbers

The shortest decimal number of a floating point number has the fewest digits
that are read back as the same number, and among those it is the nearest one.

The reals that round to a finite number form an interval around it, whose ends
belong to it when the significand is even.  For one digit, two digits, and so
on, the two neighbours of the number on that decimal grid are tried against
the interval; the first grid with a hit gives the answer.
-/

namespace Manifest.Shortest

/-- The reals that round to one number, as counts of a common unit. -/
structure Interval where
  low : Nat
  centre : Nat
  high : Nat
  closed : Bool
  unit : Nat
deriving Repr

/--
The interval of a finite number.  Below a power of two the grid of numbers is
twice as fine, so that the lower end is nearer than the upper one.
-/
def interval (number : Binary64) : Interval :=
  let step := Nat.pow 2 number.scale
  let centre := 4 * number.units
  { low := centre -
      (if number.significand = Binary64.fractionBound && 0 < number.scale then step
        else 2 * step)
    centre := centre
    high := centre + 2 * step
    closed := number.significand % 2 == 0
    unit := 4 * Binary64.unitsPerOne }

/-- Whether `digits * numerator / denominator` lies in an interval. -/
def Interval.holds (span : Interval) (digits numerator denominator : Nat) : Bool :=
  let point := digits * numerator * span.unit
  if span.closed then span.low * denominator ≤ point && point ≤ span.high * denominator
  else span.low * denominator < point && point < span.high * denominator

/-- The neighbour of the centre on one decimal grid that the interval holds, if any. -/
def Interval.onGrid? (span : Interval) (numerator denominator : Nat) : Option Nat :=
  let below := span.centre * denominator / (numerator * span.unit)
  let above := below + 1
  let lowFits := span.holds below numerator denominator
  let highFits := span.holds above numerator denominator
  if lowFits && highFits then
    let fromBelow := span.centre * denominator - below * numerator * span.unit
    let fromAbove := above * numerator * span.unit - span.centre * denominator
    if fromBelow < fromAbove then some below
    else if fromAbove < fromBelow then some above
    else some (below + below % 2)
  else if lowFits then some below
  else if highFits then some above
  else none

/-- The least `places` for which `units * 10 ^ places` reaches one, as far as the fuel goes. -/
def leadingPlaces : Nat → Nat → Nat → Nat
  | 0, _, _ => 0
  | fuel + 1, units, one => if one ≤ units then 0 else leadingPlaces fuel (units * 10) one + 1

/-- The decimal order: `10 ^ (order - 1) ≤ magnitude < 10 ^ order`. -/
def order (span : Interval) : Int :=
  let whole := span.centre / span.unit
  if whole = 0 then 1 - Int.ofNat (leadingPlaces 400 span.centre span.unit)
  else Int.ofNat (Decimal.digitCount whole)

/-- A number of digits and an exponent without trailing zeros in the digits. -/
def stripZeros : Nat → Nat → Int → Nat × Int
  | 0, digits, exponent => (digits, exponent)
  | fuel + 1, digits, exponent =>
      if digits % 10 = 0 && digits != 0 then stripZeros fuel (digits / 10) (exponent + 1)
      else (digits, exponent)

/-- The first grid with a hit, from `count` digits on. -/
def search (span : Interval) : Nat → Nat → Nat × Int
  | 0, _ => (0, 0)
  | fuel + 1, count =>
      let exponent := order span - Int.ofNat count
      let hit :=
        if 0 ≤ exponent then span.onGrid? (Nat.pow 10 exponent.toNat) 1
        else span.onGrid? 1 (Nat.pow 10 (-exponent).toNat)
      match hit with
      | some digits => stripZeros 20 digits exponent
      | none => search span fuel (count + 1)

/-- The shortest decimal number of a finite floating point number. -/
def ofBinary64 (number : Binary64) : Decimal :=
  if number.isZero then ⟨number.isNegative, 0, 0⟩
  else
    match search (interval number) 17 1 with
    | (digits, exponent) => ⟨number.isNegative, digits, exponent⟩

example : ofBinary64 ⟨0x3fb999999999999a⟩ = ⟨false, 1, -1⟩ := by decide +kernel

end Manifest.Shortest
