import Flowdesk.Sync.Backoff
import Mathlib.Data.Nat.Digits.Defs

/-!
# How delays grow

The delay before a retry is meant to be a tenth of a second that doubles with every attempt
until it reaches two seconds. It is, for every attempt whose number fits into a signed word.
The power of two is taken of a signed exponent, so for the attempts of the other half of the
range the exponent is negative, and the delay is at most a quarter of the first one.
-/

namespace Flowdesk.Sync

open Decimal

/-- A tenth of a second, doubled with every attempt after the first, but no more than two
seconds, in nanoseconds. -/
def doubledNanos (attempt : Nat) : Nat := min (100000000 * 2 ^ (attempt - 1)) 2000000000

/-- After five doublings the limit is reached. -/
theorem doubledNanos_of_late {attempt : Nat} (late : 5 ≤ attempt - 1) :
    doubledNanos attempt = 2000000000 := by
  have grown : 2 ^ 5 ≤ 2 ^ (attempt - 1) := Nat.pow_le_pow_right (by decide) late
  apply Nat.min_eq_right
  omega

/-- No delay is meant to be shorter than the first one. -/
theorem least_doubledNanos (attempt : Nat) : 100000000 ≤ doubledNanos attempt := by
  have positive : 0 < 2 ^ (attempt - 1) := Nat.two_pow_pos _
  apply Nat.le_min.mpr
  constructor
  · omega
  · decide

section Exponent

variable {attempt : UInt32}

/-- The exponent of an attempt in the lower half of the range. -/
theorem delayExponent_of_le (low : attempt.toNat ≤ 2 ^ 31) :
    delayExponent attempt = (attempt.toNat - 1 : Nat) := by
  unfold delayExponent UInt32.size
  rw [Int.bmod_def]
  omega

/-- The exponent of an attempt in the upper half of the range has wrapped around. -/
theorem delayExponent_of_gt (high : 2 ^ 31 < attempt.toNat) :
    delayExponent attempt ≤ -2 := by
  have bounded := attempt.toNat_lt
  unfold delayExponent UInt32.size
  rw [Int.bmod_def]
  omega

/-- The powers below the limit are few enough to be looked at one by one. -/
theorem roundedQuotient_of_early : ∀ power < 5,
    min (longestDelay * nanosPerSecond)
      (roundedQuotient (firstDelay.1 * Nat.pow 2 power * nanosPerSecond)
        (Nat.pow 2 firstDelay.2)) = min (100000000 * 2 ^ power) 2000000000 := by
  decide

/-- In the lower half of the range delays are what they are meant to be. -/
theorem backoffNanos_of_le (low : attempt.toNat ≤ 2 ^ 31) :
    backoffNanos attempt = doubledNanos attempt.toNat := by
  have exponent := delayExponent_of_le low
  have nonnegative : (0 : Int) ≤ (attempt.toNat - 1 : Nat) := Int.natCast_nonneg _
  unfold backoffNanos
  simp only [exponent, if_pos nonnegative, Int.toNat_natCast]
  by_cases late : 5 ≤ attempt.toNat - 1
  · rw [if_pos (by omega), doubledNanos_of_late late]
    rfl
  · rw [if_neg (by omega)]
    exact roundedQuotient_of_early _ (Nat.not_le.mp late)

/-- A delay that was halved twice or more is a quarter of the first one, or less. The rounding
is to the nearest, and the first delay is a little more than a tenth of a second. -/
theorem roundedQuotient_of_halved {power : Nat} (halved : 2 ≤ power) :
    roundedQuotient (firstDelay.1 * nanosPerSecond) (Nat.pow 2 (firstDelay.2 + power)) ≤
      25000000 := by
  obtain ⟨more, rfl⟩ := Nat.exists_eq_add_of_le halved
  have split : Nat.pow 2 (firstDelay.2 + (2 + more)) = 2 ^ 57 * 2 ^ more := by
    rw [Nat.pow_eq, ← Nat.add_assoc, Nat.pow_add]
    rfl
  have positive : 0 < 2 ^ more := Nat.two_pow_pos more
  rw [split]
  generalize 2 ^ more = scale at positive
  have near := (rounded_quotient_near (firstDelay.1 * nanosPerSecond) (2 ^ 57 * scale)
    (Nat.mul_pos (by decide) positive)).2
  generalize roundedQuotient (firstDelay.1 * nanosPerSecond) (2 ^ 57 * scale) = quotient at near
  apply Nat.le_of_not_lt
  intro above
  have scaled : 25000001 * scale ≤ quotient * scale := Nat.mul_le_mul_right scale above
  have product : 2 * quotient * (2 ^ 57 * scale) = 2 * 2 ^ 57 * (quotient * scale) := by
    rw [Nat.mul_comm 2 quotient, Nat.mul_assoc, ← Nat.mul_assoc 2, Nat.mul_left_comm]
  rw [product] at near
  simp only [firstDelay, nanosPerSecond] at near
  omega

/-- In the upper half no delay comes near the first one. -/
theorem backoffNanos_of_gt (high : 2 ^ 31 < attempt.toNat) :
    backoffNanos attempt ≤ 25000000 := by
  have exponent := delayExponent_of_gt high
  unfold backoffNanos
  simp only
  rw [if_neg (by omega)]
  split
  · exact Nat.zero_le _
  · exact roundedQuotient_of_halved (by omega)

/-- Delays are what they are meant to be in the lower half of the range and nowhere else. -/
theorem backoffNanos_eq_iff (attempt : UInt32) :
    backoffNanos attempt = doubledNanos attempt.toNat ↔ attempt.toNat ≤ 2 ^ 31 := by
  constructor
  · intro same
    apply Nat.le_of_not_lt
    intro high
    have short := backoffNanos_of_gt high
    have long := least_doubledNanos attempt.toNat
    omega
  · exact backoffNanos_of_le

/-- The delays of the lower half of the range are whole milliseconds. -/
theorem backoffMillis_of_le (low : attempt.toNat ≤ 2 ^ 31) :
    backoffMillis attempt = min (100 * 2 ^ (attempt.toNat - 1)) 2000 := by
  rw [backoffMillis, backoffNanos_of_le low, doubledNanos]
  omega

theorem backoffMillis_of_gt (high : 2 ^ 31 < attempt.toNat) : backoffMillis attempt ≤ 25 := by
  have short := backoffNanos_of_gt high
  unfold backoffMillis
  omega

end Exponent

end Flowdesk.Sync
