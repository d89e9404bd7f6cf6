import Flowdesk.Decimal.Shortest

/-!
# Laying out a number

The digits of a number are written positionally from `0.00001` up to, and not
including, `1e16`; a number beyond these is written with one digit before the
point and an exponent. A positional text always has a point with a digit on
either side of it. An exponent has a sign only when it is negative, and a single
digit takes no point before it.
-/

namespace Flowdesk.Decimal

/-- The greatest place of the point that is written positionally. -/
def greatestPlace : Int := 16

/-- Below the point, at most this many zeros come before the first digit. -/
def mostLeadingZeros : Int := 4

/-- Decimal digits of an integer, with a minus sign when it is negative. -/
def integerDigits (value : Int) : List Char :=
  if value < 0 then '-' :: Nat.toDigits 10 value.natAbs else Nat.toDigits 10 value.natAbs

/-- The text of nonempty digits. -/
def layOut (number : Digits) : List Char :=
  let count : Int := number.digits.length
  let zeros (many : Int) : List Char := List.replicate many.toNat '0'
  if number.point ≤ greatestPlace ∧ -mostLeadingZeros ≤ number.point then
    if number.point ≤ 0 then '0' :: '.' :: zeros (-number.point) ++ number.digits
    else if count ≤ number.point then number.digits ++ zeros (number.point - count) ++ ['.', '0']
    else number.digits.take number.point.toNat ++ '.' :: number.digits.drop number.point.toNat
  else
    match number.digits with
    | [] => []
    | first :: rest =>
        let fraction := if rest = [] then [] else '.' :: rest
        first :: fraction ++ 'e' :: integerDigits (number.point - 1)

/-- The text of the magnitude of a finite value. -/
def magnitudeText (significand : Nat) (exponent : Int) : List Char :=
  if significand = 0 then ['0', '.', '0'] else layOut (shortest significand exponent)

/-- The text of a finite value, with a minus sign also before a negative zero;
nothing for an infinity or for what is no number. -/
def finiteText? (value : Float) : Option (List Char) :=
  match Binary.of value with
  | .finite negative significand exponent =>
      some (if negative then '-' :: magnitudeText significand exponent
        else magnitudeText significand exponent)
  | .infinite _ | .nan => none

/-- Positional notation ends between these two places. -/
example :
    layOut ⟨['1'], 16⟩ = "1000000000000000.0".toList ∧ layOut ⟨['1'], 17⟩ = "1e16".toList ∧
      layOut ⟨['1'], -4⟩ = "0.00001".toList ∧ layOut ⟨['1', '2', '5'], -6⟩ = "1.25e-7".toList := by
  decide +kernel

end Flowdesk.Decimal
