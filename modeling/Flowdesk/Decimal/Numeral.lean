import Flowdesk.Decimal.Binary64

/-!
# Reading a decimal numeral

A numeral is digits with at most one point among or beside them and at least one
digit in all, then perhaps an exponent. Its value is exact until the last step
rounds it once. Integers are read with a bound instead: a numeral that names a
number beyond it has no reading.
-/

namespace Flowdesk.Decimal

/-- The value of a decimal digit. -/
def digit? (c : Char) : Option Nat :=
  if '0' ≤ c ∧ c ≤ '9' then some (c.toNat - '0'.toNat) else none

/-- The value of a digit in any radix up to sixteen, in either case. -/
def radixDigit? (radix : Nat) (c : Char) : Option Nat :=
  let value? :=
    if '0' ≤ c ∧ c ≤ '9' then some (c.toNat - '0'.toNat)
    else if 'a' ≤ c ∧ c ≤ 'f' then some (c.toNat - 'a'.toNat + 10)
    else if 'A' ≤ c ∧ c ≤ 'F' then some (c.toNat - 'A'.toNat + 10)
    else none
  value?.filter (· < radix)

/-- The number that a run of digits names, most significant digit first; nothing
when one of the characters is no digit. -/
def natural? (radix : Nat) (digits : List Char) : Option Nat :=
  digits.foldlM (fun total c => (radixDigit? radix c).map (total * radix + ·)) 0

/-- A nonempty run of digits. -/
def positiveLength? (radix : Nat) (digits : List Char) : Option Nat :=
  if digits = [] then none else natural? radix digits

/-- Digits scaled by a power of ten. -/
structure Numeral where
  digits : Nat
  power : Int
  deriving DecidableEq, Repr

/-- The longest run of decimal digits, and what follows it. -/
def digitRun (chars : List Char) : List Char × List Char :=
  (chars.takeWhile fun c => (digit? c).isSome, chars.dropWhile fun c => (digit? c).isSome)

/-- An exponent: a sign, at most one, and digits up to the end. -/
def exponent? (chars : List Char) : Option Int :=
  match chars with
  | '+' :: rest => (positiveLength? 10 rest).map Int.ofNat
  | '-' :: rest => (positiveLength? 10 rest).map fun value => -(value : Int)
  | rest => (positiveLength? 10 rest).map Int.ofNat

/-- Read an unsigned numeral that fills the whole text. -/
def numeral? (chars : List Char) : Option Numeral :=
  let (whole, rest) := digitRun chars
  let (fraction, rest) :=
    match rest with
    | '.' :: more => digitRun more
    | _ => ([], rest)
  if whole = [] ∧ fraction = [] then none
  else do
    let digits ← natural? 10 (whole ++ fraction)
    let power ←
      match rest with
      | [] => some 0
      | mark :: more => if mark = 'e' ∨ mark = 'E' then exponent? more else none
    some ⟨digits, power - fraction.length⟩

/-- A finite value named by a numeral with a sign, at most one. A numeral beyond
the format names none. -/
def finite? (chars : List Char) : Option Float :=
  let (negative, unsigned) :=
    match chars with
    | '-' :: rest => (true, rest)
    | '+' :: rest => (false, rest)
    | _ => (false, chars)
  (numeral? unsigned).bind fun number =>
    let value := nearest negative number.digits number.power
    if value.isFinite then some value else none

/-- A natural number up to a bound, from digits after at most a plus sign. -/
def boundedNatural? (bound : Nat) (chars : List Char) : Option Nat :=
  let unsigned :=
    match chars with
    | '+' :: rest => rest
    | _ => chars
  (positiveLength? 10 unsigned).filter (· ≤ bound)

/-- A point may open or close the digits, and cannot stand without any. -/
example :
    numeral? ['.', '5'] = some ⟨5, -1⟩ ∧ numeral? ['5', '.'] = some ⟨5, 0⟩ ∧
      numeral? ['.'] = none ∧ numeral? "12.5e-3".toList = some ⟨125, -4⟩ := by decide

end Flowdesk.Decimal
