import Flowdesk.Decimal.Binary64

/-!
# The fewest digits that read back

A finite value owns the interval of real numbers that round to it; the ends
belong to it when its significand is even. Its text has the fewest decimal digits
that name a number of the interval, and of the numbers with that many digits the
one nearest to the value. It is enough to try the two neighbours of the value on
each decimal grid: if any point of a grid lies in the interval, one of these does.
-/

namespace Flowdesk.Decimal

/-- Decimal digits with the place of the point: `0.digits * 10 ^ point`. -/
structure Digits where
  digits : List Char
  point : Int
  deriving DecidableEq, Repr

/-- A positive value with the interval that rounds to it, all three in the same
unit, which is a ratio. -/
structure Cell where
  below : Nat
  value : Nat
  above : Nat
  closed : Bool
  unitNumerator : Nat
  unitDenominator : Nat

/-- The interval of a significand and an exponent, in quarters of the last place.
Below a power of two the values lie twice as dense, so the lower half is halved. -/
def cell (significand : Nat) (exponent : Int) : Cell :=
  let narrow := significand = Nat.pow 2 52 ∧ exponent > leastExponent
  let power := exponent - 2
  { below := if narrow then 4 * significand - 1 else 4 * significand - 2
    value := 4 * significand
    above := 4 * significand + 2
    closed := significand % 2 = 0
    unitNumerator := Nat.pow 2 power.toNat
    unitDenominator := Nat.pow 2 (-power).toNat }

/-- Whether a point of a decimal grid lies in the interval. The grid's unit is a
ratio too. -/
def Cell.holds (c : Cell) (point gridNumerator gridDenominator : Nat) : Bool :=
  let place := point * gridNumerator * c.unitDenominator
  let low := c.below * c.unitNumerator * gridDenominator
  let high := c.above * c.unitNumerator * gridDenominator
  (low < place && place < high) || (c.closed && (place == low || place == high))

/-- The least power of ten that is at least one when it multiplies the ratio,
tried upwards. -/
private def leadingZeros (numerator denominator : Nat) : Nat → Nat → Nat
  | 0, power => power
  | fuel + 1, power =>
      if denominator ≤ numerator then power
      else leadingZeros (numerator * 10) denominator fuel (power + 1)

/-- The place of the point: `10 ^ (place - 1) ≤ value < 10 ^ place`. No positive
value of the format needs more than 324 steps. -/
def pointPlace (numerator denominator : Nat) : Int :=
  if denominator ≤ numerator then digitCount (numerator / denominator)
  else 1 - (leadingZeros numerator denominator 400 0 : Int)

/-- The nearest neighbour of the value on the grid of the given digit count, if
one of the two neighbours reads back. -/
def neighbour? (c : Cell) (place : Int) (count : Nat) : Option Nat :=
  let power := place - count
  let gridNumerator := Nat.pow 10 power.toNat
  let gridDenominator := Nat.pow 10 (-power).toNat
  let scaled := c.value * c.unitNumerator * gridDenominator
  let step := gridNumerator * c.unitDenominator
  let lower := scaled / step
  let upper := lower + 1
  let lowerHolds := c.holds lower gridNumerator gridDenominator
  let upperHolds := c.holds upper gridNumerator gridDenominator
  if lowerHolds && (!upperHolds || 2 * (scaled % step) ≤ step) then some lower
  else if upperHolds then some upper
  else none

/-- The digits of a point without its trailing zeros. -/
private def significantDigits (point : Nat) : List Char :=
  ((Nat.toDigits 10 point).reverse.dropWhile (· == '0')).reverse

/-- Try ever finer grids. Seventeen digits always read back. A point that reaches
the next power of ten moves the place of the point. -/
def search (c : Cell) (place : Int) : Nat → Nat → Digits
  | 0, _ => ⟨[], place⟩
  | fuel + 1, count =>
      match neighbour? c place count with
      | some point => ⟨significantDigits point, place + (digitCount point - count : Int)⟩
      | none => search c place fuel (count + 1)

/-- The shortest digits of a positive significand times a power of two. -/
def shortest (significand : Nat) (exponent : Int) : Digits :=
  let c := cell significand exponent
  search c (pointPlace (c.value * c.unitNumerator) c.unitDenominator) 17 1

/-- Three tenths as a sum of one and two tenths needs all seventeen digits. -/
example :
    shortest 5404319552844596 (-54) = ⟨"30000000000000004".toList, 0⟩ := by decide +kernel

end Flowdesk.Decimal
