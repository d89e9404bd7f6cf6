import Flowdesk.Decimal.Binary64

/-!
# Waiting between attempts

The first retry waits a tenth of a second, each further one twice as long, up to
two seconds. The tenth is the floating-point value nearest to it, the power of two
is taken of a signed 32-bit exponent, and the delay is rounded to nanoseconds, a
half to the even one. An attempt number beyond the signed range therefore has a
negative exponent, and a delay that shrinks again.
-/

namespace Flowdesk.Sync

/-- The first delay in seconds, as significand and binary exponent: the value
nearest to one tenth. -/
def firstDelay : Nat × Nat := (3602879701896397, 55)

/-- The longest delay, in seconds. -/
def longestDelay : Nat := 2

/-- Nanoseconds in a second. -/
def nanosPerSecond : Nat := 1000000000

/-- The exponent of an attempt, counted from one: one less, as a signed number of
32 bits. Attempt zero counts as the first. -/
def delayExponent (attempt : UInt32) : Int :=
  Int.bmod (attempt.toNat - 1 : Nat) UInt32.size

/-- The delay before a retry, in nanoseconds. Powers too great to matter are cut off
at the longest delay, and powers below the format's range are zero. -/
def backoffNanos (attempt : UInt32) : Nat :=
  let exponent := delayExponent attempt
  if 0 ≤ exponent then
    if 5 ≤ exponent then longestDelay * nanosPerSecond
    else
      min (longestDelay * nanosPerSecond)
        (Decimal.roundedQuotient (firstDelay.1 * Nat.pow 2 exponent.toNat * nanosPerSecond)
          (Nat.pow 2 firstDelay.2))
  else if exponent ≤ -1024 then 0
  else
    Decimal.roundedQuotient (firstDelay.1 * nanosPerSecond)
      (Nat.pow 2 (firstDelay.2 + (-exponent).toNat))

/-- The delay before a retry in whole milliseconds, rounded up: the resolution of
the clock. -/
def backoffMillis (attempt : UInt32) : Nat := (backoffNanos attempt + 999999) / 1000000

/-- The delay doubles up to its limit. -/
example :
    [1, 2, 3, 4, 5, 6, 7].map (fun attempt => backoffMillis attempt) =
      [100, 200, 400, 800, 1600, 2000, 2000] := by decide

end Flowdesk.Sync
