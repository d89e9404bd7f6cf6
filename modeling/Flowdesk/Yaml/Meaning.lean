import Flowdesk.Decimal.Numeral

/-!
# What plain scalars say

A plain scalar may name null, a truth value or a number. A text that would be taken
for one of these when it is written plainly has to be quoted; so has one of digits
with a leading zero, which some readers take for a number.
-/

namespace Flowdesk.Yaml

/-- Whether characters spell one of some words. -/
def isOneOf (words : List String) (text : List Char) : Bool :=
  words.any fun word => text == word.toList

/-- Whether a text says null. -/
def saysNull (text : List Char) : Bool := isOneOf ["null", "Null", "NULL", "~"] text

/-- The truth value that a text names. -/
def truthOf? (text : List Char) : Option Bool :=
  if isOneOf ["true", "True", "TRUE"] text then some true
  else if isOneOf ["false", "False", "FALSE"] text then some false
  else none

/-- The floating-point number that a text names. An integer in another radix than
ten names none. -/
def floatOf? (text : List Char) : Option Float :=
  let unsigned? :=
    match text with
    | '+' :: '+' :: _ | '+' :: '-' :: _ => none
    | '+' :: rest => some rest
    | _ => some text
  match unsigned? with
  | none => none
  | some unsigned =>
      if isOneOf [".inf", ".Inf", ".INF"] unsigned then some (1 / 0)
      else if isOneOf ["-.inf", "-.Inf", "-.INF"] text then some (-1 / 0)
      else if isOneOf [".nan", ".NaN", ".NAN"] text then some (0 / 0)
      else Decimal.finite? unsigned

/-- The number that digits after a mark of their radix name. -/
def markedNatural? : List Char → Option Nat
  | '0' :: 'x' :: digits => Decimal.positiveLength? 16 digits
  | '0' :: 'o' :: digits => Decimal.positiveLength? 8 digits
  | '0' :: 'b' :: digits => Decimal.positiveLength? 2 digits
  | _ => none

/-- Whether a text names an integer of 128 bits in another radix than ten. -/
def namesMarkedInteger (text : List Char) : Bool :=
  match text with
  | '-' :: rest => (markedNatural? rest).any (· ≤ Nat.pow 2 127)
  | '+' :: rest => (markedNatural? rest).any (· < Nat.pow 2 128)
  | _ => (markedNatural? text).any (· < Nat.pow 2 128)

/-- Whether a text is digits with a zero before them, after at most one sign. -/
def hasLeadingZero (text : List Char) : Bool :=
  let unsigned :=
    match text with
    | '-' :: rest | '+' :: rest => rest
    | _ => text
  match unsigned with
  | '0' :: next :: rest => (next :: rest).all Char.isDigit
  | _ => false

/-- Whether a text would not be taken for a text when written plainly. -/
def misleads (text : List Char) : Bool :=
  text.isEmpty || saysNull text || (truthOf? text).isSome || namesMarkedInteger text ||
    hasLeadingZero text || (floatOf? text).isSome

end Flowdesk.Yaml
