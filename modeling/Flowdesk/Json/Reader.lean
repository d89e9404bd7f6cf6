import Flowdesk.Json.Value
import Flowdesk.Decimal.Numeral
import Flowdesk.Text.Units

/-!
# Reading JSON

The grammar is the strict one: no trailing commas, no comments, no control
character inside a text, surrogates only in pairs, no leading zero before another
digit, and lists and objects at most 127 deep.

An integer that fits in 64 bits, signed or not, is kept as one. Any other number
becomes floating point: its leading digits as far as they fit in 64 bits are
multiplied or divided by the power of ten that the rest amounts to, with one
rounding for each step. A number that leaves the format breaks the grammar.
-/

namespace Flowdesk.Json

/-- What reading leaves: the tree, and the text after it unless the tree ends in a
fault. -/
abbrev Partway (τ : Type) := τ × Option (List Char)

/-- White space of the format. -/
def isGap (c : Char) : Bool := c == ' ' || c == '\n' || c == '\t' || c == '\r'

/-- The text after any white space. -/
def skipGap (chars : List Char) : List Char := chars.dropWhile isGap

/-- The number of four hexadecimal digits. -/
def fourDigits? (a b c d : Char) : Option Nat := Decimal.natural? 16 [a, b, c, d]

/-- What a single letter after a backslash stands for. -/
def shortEscape? : Char → Option Char
  | '"' => some '"'
  | '\\' => some '\\'
  | '/' => some '/'
  | 'b' => some '\x08'
  | 'f' => some '\x0c'
  | 'n' => some '\n'
  | 'r' => some '\r'
  | 't' => some '\t'
  | _ => none

/-- The characters up to the closing quote, and the text after it. -/
def textBody? : List Char → Option (List Char × List Char)
  | [] => none
  | '"' :: rest => some ([], rest)
  | '\\' :: 'u' :: a :: b :: c :: d :: rest => do
      let high ← fourDigits? a b c d
      if 0xD800 ≤ high ∧ high < 0xDC00 then
        match rest with
        | '\\' :: 'u' :: e :: f :: g :: h :: rest => do
            let low ← fourDigits? e f g h
            if 0xDC00 ≤ low ∧ low < 0xE000 then
              let (body, after) ← textBody? rest
              some (Text.ofSurrogates high low :: body, after)
            else none
        | _ => none
      else if 0xDC00 ≤ high ∧ high < 0xE000 then none
      else
        let (body, after) ← textBody? rest
        some (Char.ofNat high :: body, after)
  | '\\' :: letter :: rest => do
      let c ← shortEscape? letter
      let (body, after) ← textBody? rest
      some (c :: body, after)
  | c :: rest =>
      if c.toNat < 0x20 ∨ c = '\\' then none
      else do
        let (body, after) ← textBody? rest
        some (c :: body, after)

/-- The digits of a number in 64 bits, the power of ten they are scaled by, and
whether the number is written as an integer that fits. -/
structure Scaled where
  significand : Nat
  power : Int
  exact : Bool

/-- Take digits as long as they fit in 64 bits. Gives the significand, how many
digits were taken, and the digits left over. -/
def fitDigits (significand : Nat) : List Char → Nat × Nat × List Char
  | [] => (significand, 0, [])
  | c :: rest =>
      let next := significand * 10 + (c.toNat - '0'.toNat)
      if next < UInt64.size then
        let (whole, count, left) := fitDigits next rest
        (whole, count + 1, left)
      else (significand, 0, c :: rest)

/-- The significand and the power of ten of a number, from the digits before the
point, those after it and the exponent. Digits that do not fit before the point
scale the number up; after it they are dropped. -/
def scale (whole fraction : List Char) (exponent : Int) : Nat × Int :=
  let (leading, _, dropped) := fitDigits 0 whole
  let (significand, count, _) := fitDigits leading fraction
  (significand, exponent + dropped.length - count)

/-- The greatest power of ten of the format. -/
def greatestPower : Nat := 308

/-- A significand times a power of ten, one rounding for each step; nothing when
the value leaves the format. Two divisions by the greatest power already lead to
zero, so the steps are bounded. -/
def scaledValue? : Nat → Float → Int → Option Float
  | 0, _, _ => some 0
  | fuel + 1, value, power =>
      if power.natAbs ≤ greatestPower then
        let factor := Decimal.nearest false 1 power.natAbs
        if 0 ≤ power then
          let product := value * factor
          if product.isFinite then some product else none
        else some (value / factor)
      else if value == 0 then some value
      else if 0 ≤ power then none
      else scaledValue? fuel (value / Decimal.nearest false 1 greatestPower) (power + greatestPower)

/-- The exponents a number may write; beyond them it is zero or too large. -/
def greatestExponent : Int := Nat.pow 2 31 - 1

/-- The value of a number that is not an integer of 64 bits. -/
def realValue? (negative : Bool) (whole fraction : List Char) (exponent : Int) : Option Float :=
  let (significand, power) := scale whole fraction 0
  let signed (value : Float) : Float := if negative then -value else value
  if greatestExponent < exponent ∧ significand ≠ 0 then none
  else if exponent.natAbs > greatestExponent.natAbs then some (signed 0)
  else
    let bounded := max (min (power + exponent) greatestExponent) (-greatestExponent)
    (scaledValue? 8 (Decimal.nearest false significand 0) bounded).map signed

/-- The exponent of a number, if it has one, and the text after it; nothing when
the mark stands without digits. -/
def exponent? (chars : List Char) : Option (Option Int × List Char) :=
  let digits (sign : Int) (rest : List Char) : Option (Option Int × List Char) :=
    let (run, after) := Decimal.digitRun rest
    (Decimal.positiveLength? 10 run).map fun value => (some (sign * value), after)
  match chars with
  | mark :: rest =>
      if mark = 'e' ∨ mark = 'E' then
        match rest with
        | '+' :: more => digits 1 more
        | '-' :: more => digits (-1) more
        | _ => digits 1 rest
      else some (none, chars)
  | [] => some (none, [])

/-- The digits after a point, if there is one, and the text after them; nothing
when the point stands without digits. -/
def fraction? (chars : List Char) : Option (Option (List Char) × List Char) :=
  match chars with
  | '.' :: rest =>
      let (run, after) := Decimal.digitRun rest
      if run = [] then none else some (some run, after)
  | _ => some (none, chars)

/-- An integer, kept when it fits in 64 bits. A negative zero is no integer. -/
def integerValue? (negative : Bool) (whole : List Char) : Option Json := do
  let value ← Decimal.natural? 10 whole
  if negative then
    if 0 < value ∧ value ≤ Nat.pow 2 63 then some (.integer (-(value : Int)))
    else (realValue? true whole [] 0).map .real
  else if value < UInt64.size then some (.integer value)
  else (realValue? false whole [] 0).map .real

/-- A number without its sign, and the text after it. -/
def number? (negative : Bool) (chars : List Char) : Option (Json × List Char) := do
  let (run, rest) := Decimal.digitRun chars
  let whole ←
    match run with
    | [] => none
    | '0' :: _ :: _ => none
    | _ => some run
  let (fraction, rest) ← fraction? rest
  let (exponent, rest) ← exponent? rest
  let value ←
    match fraction, exponent with
    | none, none => integerValue? negative whole
    | _, _ => (realValue? negative whole (fraction.getD []) (exponent.getD 0)).map .real
  some (value, rest)

/-- How deep lists and objects may stand inside one another. -/
def greatestDepth : Nat := 127

mutual

/-- Read a value. The first argument bounds the steps; the second is how much
deeper lists and objects may go. -/
def readValue : Nat → Nat → List Char → Partway Json
  | 0, _, _ => (.fault, none)
  | fuel + 1, depth, chars =>
      match skipGap chars with
      | 'n' :: 'u' :: 'l' :: 'l' :: rest => (.null, some rest)
      | 't' :: 'r' :: 'u' :: 'e' :: rest => (.boolean true, some rest)
      | 'f' :: 'a' :: 'l' :: 's' :: 'e' :: rest => (.boolean false, some rest)
      | '"' :: rest =>
          match textBody? rest with
          | some (body, after) => (.text (String.ofList body), some after)
          | none => (.fault, none)
      | '[' :: rest =>
          match depth with
          | 0 => (.fault, none)
          | deeper + 1 =>
              match skipGap rest with
              | ']' :: after => (.list [], some after)
              | _ =>
                  let (items, after) := readItems fuel deeper rest
                  (.list items, after)
      | '\x7b' :: rest =>
          match depth with
          | 0 => (.fault, none)
          | deeper + 1 =>
              match skipGap rest with
              | '\x7d' :: after => (.object [], some after)
              | _ =>
                  let (members, after) := readMembers fuel deeper rest
                  (.object members, after)
      | '-' :: rest =>
          match number? true rest with
          | some (value, after) => (value, some after)
          | none => (.fault, none)
      | rest =>
          match number? false rest with
          | some (value, after) => (value, some after)
          | none => (.fault, none)

/-- Read the items of a list up to its end. -/
def readItems : Nat → Nat → List Char → Partway (List Json)
  | 0, _, _ => ([.fault], none)
  | fuel + 1, depth, chars =>
      match readValue fuel depth chars with
      | (item, none) => ([item], none)
      | (item, some rest) =>
          match skipGap rest with
          | ']' :: after => ([item], some after)
          | ',' :: after =>
              let (items, after) := readItems fuel depth after
              (item :: items, after)
          | _ => ([item, .fault], none)

/-- Read the members of an object up to its end. A fault at the place of a name is
kept as the value of a member without one. -/
def readMembers : Nat → Nat → List Char → Partway (List (String × Json))
  | 0, _, _ => ([("", .fault)], none)
  | fuel + 1, depth, chars =>
      match skipGap chars with
      | '"' :: rest =>
          match textBody? rest with
          | none => ([("", .fault)], none)
          | some (body, rest) =>
              let name := String.ofList body
              match skipGap rest with
              | ':' :: rest =>
                  match readValue fuel depth rest with
                  | (value, none) => ([(name, value)], none)
                  | (value, some rest) =>
                      match skipGap rest with
                      | '\x7d' :: after => ([(name, value)], some after)
                      | ',' :: after =>
                          let (members, after) := readMembers fuel depth after
                          ((name, value) :: members, after)
                      | _ => ([(name, value), ("", .fault)], none)
              | _ => ([(name, .fault)], none)
      | _ => ([("", .fault)], none)

end

/-- The tree of a text, and whether nothing but white space follows it. Each
character is looked at by at most two nested steps. -/
def read (text : String) : Json × Bool :=
  let chars := text.toList
  match readValue (2 * chars.length + 2) greatestDepth chars with
  | (tree, none) => (tree, false)
  | (tree, some rest) => (tree, (skipGap rest).isEmpty)

/-- The tree of a text without faults. -/
def read? (text : String) : Option Json :=
  match read text with
  | (tree, true) => some tree
  | (_, false) => none

end Flowdesk.Json
