/-!
# Binary floating point, exactly

A finite value of the 64-bit format is a sign and a natural number times a power
of two. Decoding reads those off the bits. Encoding rounds a ratio of natural
numbers to the nearest value, and of two equally near ones takes that with the
even significand. All of it is arithmetic on natural numbers, so it can be
reasoned about without an account of the machine's own operations.
-/

namespace Flowdesk.Decimal

/-- What the bits of a floating-point value say. -/
inductive Binary where
  /-- No number. -/
  | nan
  /-- Beyond every finite value. -/
  | infinite (negative : Bool)
  /-- The significand times two to the exponent. -/
  | finite (negative : Bool) (significand : Nat) (exponent : Int)
  deriving DecidableEq, Repr

/-- The least exponent of the format; values below `2 ^ 52` times its power are
written with fewer significant bits. -/
def leastExponent : Int := -1074

/-- Read the sign, the eleven exponent bits and the fifty-two fraction bits. -/
def Binary.ofBits (bits : Nat) : Binary :=
  let negative := bits / Nat.pow 2 63 % 2 == 1
  let biased : Nat := bits / Nat.pow 2 52 % 2048
  let fraction : Nat := bits % Nat.pow 2 52
  if biased = 2047 then if fraction = 0 then .infinite negative else .nan
  else if biased = 0 then .finite negative fraction leastExponent
  else .finite negative (Nat.pow 2 52 + fraction) (biased - 1075)

/-- The parts of a floating-point value. -/
def Binary.of (value : Float) : Binary := .ofBits value.toBits.toNat

/-- The quotient of two natural numbers, rounded to the nearest; a half goes to
the even neighbour. -/
def roundedQuotient (numerator denominator : Nat) : Nat :=
  let floor := numerator / denominator
  let twice := 2 * (numerator % denominator)
  if twice < denominator then floor
  else if denominator < twice then floor + 1
  else floor + floor % 2

/-- The ratio times two to the `-exponent`, rounded. -/
private def significandAt (numerator denominator : Nat) (exponent : Int) : Nat :=
  if exponent < 0 then roundedQuotient (numerator * Nat.pow 2 (-exponent).toNat) denominator
  else roundedQuotient numerator (denominator * Nat.pow 2 exponent.toNat)

/-- Whether the ratio is at least two to the power. -/
private def reaches (numerator denominator : Nat) (power : Int) : Bool :=
  if power < 0 then denominator ≤ numerator * Nat.pow 2 (-power).toNat
  else denominator * Nat.pow 2 power.toNat ≤ numerator

/-- The bits of positive infinity. -/
def infinityBits : Nat := 2047 * Nat.pow 2 52

/-- The bits of the nonnegative value nearest to a ratio. A significand that
rounds up to a power of two carries into the exponent by itself, because the
exponent bits stand directly above the fraction bits. -/
def nearestBits (numerator denominator : Nat) : Nat :=
  if numerator = 0 ∨ denominator = 0 then 0
  else
    let estimate : Int := (Nat.log2 numerator : Int) - Nat.log2 denominator
    let magnitude := if reaches numerator denominator estimate then estimate else estimate - 1
    let exponent := max (magnitude - 52) leastExponent
    let significand := significandAt numerator denominator exponent
    let bits :=
      if significand < Nat.pow 2 52 then significand
      else (exponent + 1075).toNat * Nat.pow 2 52 + (significand - Nat.pow 2 52)
    min bits infinityBits

/-- How many decimal digits a natural number has; zero has one. -/
def digitCount (value : Nat) : Nat := (Nat.toDigits 10 value).length

/-- The bits of the nonnegative value nearest to `digits * 10 ^ power`. Powers
that lead beyond the format on either side are not computed. -/
def decimalBits (digits : Nat) (power : Int) : Nat :=
  let magnitude := (digitCount digits : Int) + power
  if digits = 0 then 0
  else if magnitude > 310 then infinityBits
  else if magnitude < -330 then 0
  else if power < 0 then nearestBits digits (Nat.pow 10 (-power).toNat)
  else nearestBits (digits * Nat.pow 10 power.toNat) 1

/-- The floating-point value nearest to `± digits * 10 ^ power`. -/
def nearest (negative : Bool) (digits : Nat) (power : Int) : Float :=
  let bits := decimalBits digits power
  Float.ofBits (UInt64.ofNat (if negative then Nat.pow 2 63 + bits else bits))

/-- The rounded quotient is within half a unit of the ratio. -/
theorem rounded_quotient_near (numerator denominator : Nat) (positive : 0 < denominator) :
    2 * numerator ≤ (2 * roundedQuotient numerator denominator + 1) * denominator ∧
      2 * roundedQuotient numerator denominator * denominator ≤ 2 * numerator + denominator := by
  have split : denominator * (numerator / denominator) + numerator % denominator = numerator :=
    Nat.div_add_mod numerator denominator
  have small : numerator % denominator < denominator := Nat.mod_lt _ positive
  have product : ∀ extra : Nat, 2 * (numerator / denominator + extra) * denominator =
      2 * (denominator * (numerator / denominator)) + 2 * extra * denominator := by
    intro extra
    rw [Nat.mul_add, Nat.add_mul, Nat.mul_assoc, Nat.mul_comm (numerator / denominator)]
  have bounds : ∀ extra : Nat, extra ≤ 1 →
      (extra = 0 → 2 * (numerator % denominator) ≤ denominator) →
      (extra = 1 → denominator ≤ 2 * (numerator % denominator)) →
      2 * numerator ≤ (2 * (numerator / denominator + extra) + 1) * denominator ∧
        2 * (numerator / denominator + extra) * denominator ≤ 2 * numerator + denominator := by
    intro extra least below above
    rw [Nat.add_mul (2 * _) 1, Nat.one_mul, product extra]
    rcases Nat.le_one_iff_eq_zero_or_eq_one.mp least with rfl | rfl
    · have := below rfl
      omega
    · have := above rfl
      omega
  simp only [roundedQuotient]
  split
  · exact bounds 0 (by omega) (by omega) (by omega)
  · split
    · exact bounds 1 (by omega) (by omega) (by omega)
    · exact bounds _ (by omega) (by omega) (by omega)

/-- A half goes to the even significand on either side of it. -/
example :
    Binary.ofBits (decimalBits 9007199254740993 0) = .finite false (Nat.pow 2 52) 1 ∧
      Binary.ofBits (decimalBits 9007199254740995 0) = .finite false (Nat.pow 2 52 + 2) 1 := by
  decide +kernel

end Flowdesk.Decimal
