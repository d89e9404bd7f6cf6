/-!
# Durations in messages

A duration is shown in seconds when it has at least one, with as many decimal
places as its milliseconds need; below a second it is shown in milliseconds, and no
time at all in nanoseconds.
-/

namespace Flowdesk.Text

/-- The decimal places of a number of thousandths, without trailing zeros. -/
def thousandths (value : Nat) : List Char :=
  let digits := Nat.toDigits 10 value
  let padded := List.replicate (3 - digits.length) '0' ++ digits
  (padded.reverse.dropWhile (· == '0')).reverse

/-- A number of milliseconds, as messages show it. -/
def duration (millis : Nat) : String :=
  if millis = 0 then "0ns"
  else if millis < 1000 then toString millis ++ "ms"
  else if millis % 1000 = 0 then toString (millis / 1000) ++ "s"
  else toString (millis / 1000) ++ "." ++ String.ofList (thousandths (millis % 1000)) ++ "s"

/-- The places of a duration end with a digit other than zero. -/
example : thousandths 50 = ['0', '5'] ∧ thousandths 1 = ['0', '0', '1'] := by
  decide

end Flowdesk.Text
