import Flowdesk.Json.Reader
import Flowdesk.Json.Writer
import Flowdesk.Proofs.Decimal.Digit

/-!
# A number is read as it was written

An integer that fits in 64 bits is written with the digits that name it. Of any other number
nothing is said but that what follows it does not change what is read: a number ends before
a comma or a bracket, just as it ends where the text does.
-/

namespace Flowdesk.Json

open Decimal

/-- The characters that may follow a value inside another one. -/
def closers : List Char := [',', ']', '\x7d']

/-- What may follow a value: nothing, or one of those characters. -/
def Follows (rest : List Char) : Prop := ∀ c, rest.head? = some c → c ∈ closers

theorem follows_nil : Follows [] := nofun

theorem follows_cons {c : Char} (member : c ∈ closers) (rest : List Char) :
    Follows (c :: rest) := by
  rintro _ ⟨⟩
  exact member

/-- What follows a value is no part of a number. -/
theorem Follows.foreign {rest : List Char} (follows : Follows rest) {c : Char}
    (head : rest.head? = some c) :
    digit? c = none ∧ c ≠ '.' ∧ c ≠ 'e' ∧ c ≠ 'E' ∧ isGap c = false := by
  have all : closers.all fun c =>
      digit? c = none ∧ c ≠ '.' ∧ c ≠ 'e' ∧ c ≠ 'E' ∧ isGap c = false := by decide
  exact of_decide_eq_true (List.all_eq_true.mp all c (follows c head))

/-- What follows a number begins with no gap. -/
theorem Follows.skipGap_eq {rest : List Char} (follows : Follows rest) :
    skipGap rest = rest := by
  cases rest with
  | nil => rfl
  | cons c rest => simp [skipGap, (follows.foreign rfl).2.2.2.2]

/-- White space before what follows a value is skipped with it. -/
theorem skipGap_append (chars : List Char) {rest : List Char} (follows : Follows rest) :
    skipGap (chars ++ rest) = skipGap chars ++ rest := by
  simp only [skipGap, List.dropWhile_append]
  split
  · next empty =>
    rw [List.isEmpty_iff.mp empty]
    exact follows.skipGap_eq
  · rfl

section Parts

variable {chars left rest : List Char}

/-- A run of digits ends where what follows begins. -/
theorem digitRun_follows (follows : Follows rest) (chars : List Char) :
    digitRun (chars ++ rest) = ((digitRun chars).1, (digitRun chars).2 ++ rest) :=
  digitRun_append chars fun _ head => (follows.foreign head).1

/-- So does a fraction. -/
theorem fraction?_append (follows : Follows rest) {fraction : Option (List Char)}
    (read : fraction? chars = some (fraction, left)) :
    fraction? (chars ++ rest) = some (fraction, left ++ rest) := by
  cases chars with
  | nil =>
    cases read
    cases rest with
    | nil => rfl
    | cons c rest =>
      have noPoint := (follows.foreign rfl).2.1
      simp [fraction?, noPoint]
  | cons c chars =>
    by_cases point : c = '.'
    · subst point
      simp only [fraction?, List.cons_append, digitRun_follows follows] at read ⊢
      split at read
      · exact nomatch read
      · next filled =>
        rw [if_neg filled]
        cases read
        rfl
    · have whole : fraction? (c :: chars) = some (none, c :: chars) := by simp [fraction?, point]
      rw [whole] at read
      cases read
      simp [fraction?, point]

/-- The digits of an exponent with its sign. -/
def exponentDigits? (sign : Int) (chars : List Char) : Option (Option Int × List Char) :=
  (positiveLength? 10 (digitRun chars).1).map fun value => (some (sign * value), (digitRun chars).2)

/-- So do the digits of an exponent. -/
theorem exponentDigits?_append (follows : Follows rest) {sign : Int} {exponent : Option Int}
    (read : exponentDigits? sign chars = some (exponent, left)) :
    exponentDigits? sign (chars ++ rest) = some (exponent, left ++ rest) := by
  obtain ⟨value, named, same⟩ := Option.map_eq_some_iff.mp read
  cases same
  simp only [exponentDigits?, digitRun_follows follows, named, Option.map_some]

/-- What follows the mark of an exponent. -/
theorem exponent?_mark {mark : Char} (marks : mark = 'e' ∨ mark = 'E') (chars : List Char) :
    exponent? (mark :: chars) =
      match chars with
      | '+' :: more => exponentDigits? 1 more
      | '-' :: more => exponentDigits? (-1) more
      | _ => exponentDigits? 1 chars := by
  simp only [exponent?, if_pos marks]
  rfl

/-- There is no exponent without its mark. -/
theorem exponent?_none {c : Char} (unmarked : ¬(c = 'e' ∨ c = 'E')) (chars : List Char) :
    exponent? (c :: chars) = some (none, c :: chars) := by
  unfold exponent?
  exact if_neg unmarked

/-- An exponent ends there too, or there is none. -/
theorem exponent?_append (follows : Follows rest) {exponent : Option Int}
    (read : exponent? chars = some (exponent, left)) :
    exponent? (chars ++ rest) = some (exponent, left ++ rest) := by
  cases chars with
  | nil =>
    cases read
    cases rest with
    | nil => rfl
    | cons c rest =>
      obtain ⟨-, -, lower, upper, -⟩ := follows.foreign rfl
      exact exponent?_none (not_or.mpr ⟨lower, upper⟩) rest
  | cons mark chars =>
    by_cases marks : mark = 'e' ∨ mark = 'E'
    · rw [exponent?_mark marks] at read
      rw [List.cons_append, exponent?_mark marks]
      split at read
      · exact exponentDigits?_append follows read
      · exact exponentDigits?_append follows read
      · next plus minus =>
        cases chars with
        | nil => exact nomatch read
        | cons c chars =>
          have signless := exponentDigits?_append follows read
          split
          · next same => exact absurd (List.cons.inj same).1 fun sign => plus chars (by rw [sign])
          · next same => exact absurd (List.cons.inj same).1 fun sign => minus chars (by rw [sign])
          · exact signless
    · rw [exponent?_none marks] at read
      cases read
      exact exponent?_none marks _

/-- The digits before the point, unless a zero stands before others. -/
def wholeDigits? (run : List Char) : Option (List Char) :=
  match run with
  | [] => none
  | '0' :: _ :: _ => none
  | _ => some run

/-- The value of a number whose parts were read. -/
def partsValue? (negative : Bool) (whole : List Char) (fraction : Option (List Char))
    (exponent : Option Int) : Option Json :=
  match fraction, exponent with
  | none, none => integerValue? negative whole
  | _, _ => (realValue? negative whole (fraction.getD []) (exponent.getD 0)).map .real

/-- What is read after the digits before the point. -/
theorem parts_eq (negative : Bool) (whole rest : List Char) :
    (do
      let (fraction, rest) ← fraction? rest
      let (exponent, rest) ← exponent? rest
      let value ←
        match fraction, exponent with
        | none, none => integerValue? negative whole
        | _, _ => (realValue? negative whole (fraction.getD []) (exponent.getD 0)).map .real
      some (value, rest)) =
    (fraction? rest).bind fun fraction =>
      (exponent? fraction.2).bind fun exponent =>
        (partsValue? negative whole fraction.1 exponent.1).map fun value =>
          (value, exponent.2) := by
  cases fraction? rest with
  | none => rfl
  | some fraction =>
    obtain ⟨fraction, rest⟩ := fraction
    simp only [Option.bind_eq_bind, Option.bind_some]
    cases exponent? rest with
    | none => rfl
    | some exponent =>
      obtain ⟨exponent, rest⟩ := exponent
      simp only [Option.bind_some, partsValue?]
      cases fraction <;> cases exponent <;> exact Option.map_eq_bind.symm

/-- A number is read part by part. -/
theorem number?_eq (negative : Bool) (chars : List Char) :
    number? negative chars =
      (wholeDigits? (digitRun chars).1).bind fun whole =>
        (fraction? (digitRun chars).2).bind fun fraction =>
          (exponent? fraction.2).bind fun exponent =>
            (partsValue? negative whole fraction.1 exponent.1).map fun value =>
              (value, exponent.2) := by
  unfold number?
  generalize digitRun chars = run
  obtain ⟨run, rest⟩ := run
  dsimp only
  split
  · rfl
  · rfl
  · next filled leading =>
    have whole : wholeDigits? run = some run := by
      unfold wholeDigits?
      split
      · exact absurd rfl filled
      · exact absurd rfl (leading _ _)
      · rfl
    rw [whole]
    exact parts_eq negative run rest

/-- A number is read off the front of whatever follows it. -/
theorem number?_append (follows : Follows rest) {negative : Bool} {value : Json}
    (read : number? negative chars = some (value, left)) :
    number? negative (chars ++ rest) = some (value, left ++ rest) := by
  rw [number?_eq] at read ⊢
  obtain ⟨whole, first, read⟩ := Option.bind_eq_some_iff.mp read
  obtain ⟨fraction, second, read⟩ := Option.bind_eq_some_iff.mp read
  obtain ⟨exponent, third, read⟩ := Option.bind_eq_some_iff.mp read
  obtain ⟨number, last, same⟩ := Option.map_eq_some_iff.mp read
  cases same
  simp only [digitRun_follows follows, first, Option.bind_some, fraction?_append follows second,
    exponent?_append follows third, last, Option.map_some]

end Parts

section Value

variable {chars unsigned left rest : List Char} {value : Json} (fuel depth : Nat)

/-- A number starts with a digit. -/
theorem number?_first {negative : Bool} (read : number? negative chars = some (value, left)) :
    ∃ first more, chars = first :: more ∧ (digit? first).isSome := by
  rw [number?_eq] at read
  obtain ⟨whole, first, -⟩ := Option.bind_eq_some_iff.mp read
  obtain ⟨digits, joins⟩ := digitRun_eq chars
  cases run : (digitRun chars).1 with
  | nil =>
    rw [run] at first
    exact nomatch first
  | cons c more =>
    rw [run] at digits joins
    exact ⟨c, _, joins, digits c List.mem_cons_self⟩

/-- A digit starts a number. -/
theorem readValue_digit {first : Char} {more : List Char} (start : skipGap chars = first :: more)
    (digit : (digit? first).isSome) :
    readValue (fuel + 1) depth chars =
      match number? false (first :: more) with
      | some (value, after) => (value, some after)
      | none => (.fault, none) := by
  have member := mem_digits digit
  simp only [List.mem_cons, List.not_mem_nil, or_false] at member
  rw [readValue, start]
  rcases member with rfl | rfl | rfl | rfl | rfl | rfl | rfl | rfl | rfl | rfl <;> rfl

/-- Where a number without a sign starts, it is read. -/
theorem readValue_unsigned (start : skipGap chars = unsigned)
    (read : number? false unsigned = some (value, left)) :
    readValue (fuel + 1) depth chars = (value, some left) := by
  obtain ⟨first, more, rfl, digit⟩ := number?_first read
  rw [readValue_digit fuel depth start digit, read]

/-- So is one after a minus sign. -/
theorem readValue_negative (start : skipGap chars = '-' :: unsigned)
    (read : number? true unsigned = some (value, left)) :
    readValue (fuel + 1) depth chars = (value, some left) := by
  rw [readValue, start]
  simp only [read]

/-- Nothing but a number is read as one. -/
theorem number_of_readValue {x : Float}
    (read : readValue (fuel + 1) depth chars = (.real x, some left)) :
    ∃ unsigned, skipGap chars = unsigned ∧ number? false unsigned = some (.real x, left) ∨
      skipGap chars = '-' :: unsigned ∧ number? true unsigned = some (.real x, left) := by
  rw [readValue] at read
  split at read
  · exact nomatch read
  · exact nomatch read
  · exact nomatch read
  · split at read <;> exact nomatch read
  iterate 2
    split at read
    · exact nomatch read
    · split at read <;> exact nomatch read
  · next more start =>
    split at read
    · next number =>
      cases read
      exact ⟨more, .inr ⟨start, number⟩⟩
    · exact nomatch read
  · split at read
    · next number =>
      cases read
      exact ⟨_, .inl ⟨rfl, number⟩⟩
    · exact nomatch read

section Integer

/-- Whether an integer is kept as one. -/
def Fits (value : Int) : Prop := -(Nat.pow 2 63 : Int) ≤ value ∧ value < UInt64.size

/-- The digits of a number are read up to what follows them. -/
theorem number?_toDigits (follows : Follows rest) {negative : Bool} {number : Nat}
    (read : integerValue? negative (Nat.toDigits 10 number) = some value) :
    number? negative (Nat.toDigits 10 number ++ rest) = some (value, rest) := by
  have alone : number? negative (Nat.toDigits 10 number) = some (value, []) := by
    have whole : wholeDigits? (Nat.toDigits 10 number) = some (Nat.toDigits 10 number) := by
      unfold wholeDigits?
      split
      · next empty => exact absurd empty Nat.toDigits_ne_nil
      · next leading => exact nomatch toDigits_leading_zero leading
      · rfl
    rw [number?_eq, digitRun_of_digits fun _ => digit_of_mem_toDigits, whole]
    simp only [Option.bind_some, fraction?, exponent?, partsValue?, read, Option.map_some]
  exact number?_append follows alone

/-- The digits of a number that a word can hold are read as an integer. -/
theorem integerValue?_natural {number : Nat} (fits : number < UInt64.size) :
    integerValue? false (Nat.toDigits 10 number) = some (.integer number) := by
  have named : natural? 10 (Nat.toDigits 10 number) = some number :=
    natural?_toDigits (by decide) (by decide) number
  simp only [integerValue?, named, Option.bind_eq_bind, Option.bind_some, if_pos fits]
  rfl

/-- So are those after a sign, down to the least signed word. -/
theorem integerValue?_negative {number : Nat} (positive : 0 < number)
    (fits : number ≤ Nat.pow 2 63) :
    integerValue? true (Nat.toDigits 10 number) = some (.integer (-(number : Int))) := by
  have named : natural? 10 (Nat.toDigits 10 number) = some number :=
    natural?_toDigits (by decide) (by decide) number
  simp only [integerValue?, named, Option.bind_eq_bind, Option.bind_some, if_true,
    if_pos (And.intro positive fits)]

theorem skipGap_toDigits (number : Nat) (rest : List Char) :
    skipGap (Nat.toDigits 10 number ++ rest) = Nat.toDigits 10 number ++ rest := by
  have all : ['0', '1', '2', '3', '4', '5', '6', '7', '8', '9'].all fun c => isGap c = false := by
    decide
  cases digits : Nat.toDigits 10 number with
  | nil => exact absurd digits Nat.toDigits_ne_nil
  | cons c more =>
    have digit : (digit? c).isSome := digit_of_mem_toDigits (digits ▸ List.mem_cons_self)
    have solid : isGap c = false := of_decide_eq_true (List.all_eq_true.mp all c (mem_digits digit))
    simp [skipGap, solid]

/-- An integer that fits is read as itself. -/
theorem readValue_integer {number : Int} (fits : Fits number) (follows : Follows rest) :
    readValue (fuel + 1) depth (integerDigits number ++ rest) = (.integer number, some rest) := by
  obtain ⟨least, greatest⟩ := fits
  unfold integerDigits
  split
  · next below =>
    have smallest : number.natAbs ≤ Nat.pow 2 63 := by omega
    have read := number?_toDigits follows (integerValue?_negative (by omega) smallest)
    have same : -(number.natAbs : Int) = number := by omega
    rw [same] at read
    exact readValue_negative fuel depth rfl read
  · next above =>
    have small : number.natAbs < UInt64.size := by omega
    have read := number?_toDigits follows (integerValue?_natural small)
    have same : (number.natAbs : Int) = number := by omega
    rw [same] at read
    exact readValue_unsigned fuel depth (skipGap_toDigits _ rest) read

end Integer

/-- The number of a value that is one, and no integer. -/
def real? : Json → Option Float
  | .real value => some value
  | _ => none

/-- Whether the text of a number that is no integer names it. -/
def Prints (x : Float) : Prop := (read? (write (.real x))).bind real? = some x

instance (x : Float) : Decidable (Prints x) :=
  inferInstanceAs (Decidable ((read? (write (.real x))).bind real? = some x))

/-- What names a number is read as one, with nothing but white space left. -/
theorem readValue_of_prints {x : Float} (prints : Prints x) :
    ∃ steps left, readValue (steps + 1) greatestDepth (Json.real x).chars = (.real x, some left) ∧
      skipGap left = [] := by
  obtain ⟨tree, whole, same⟩ := Option.bind_eq_some_iff.mp prints
  have named : tree = .real x := by
    cases tree with
    | real value => exact congrArg Json.real (Option.some.inj same)
    | _ => exact nomatch same
  subst named
  rw [read?, read, write, String.toList_ofList] at whole
  refine ⟨2 * (Json.real x).chars.length + 1, ?_⟩
  cases result : readValue (2 * (Json.real x).chars.length + 2) greatestDepth
      (Json.real x).chars with
  | mk tree after =>
    rw [result] at whole
    cases after with
    | none => exact nomatch whole
    | some left =>
      cases blank : (skipGap left).isEmpty with
      | false =>
        simp only [blank] at whole
        exact nomatch whole
      | true =>
        simp only [blank, Option.some.injEq] at whole
        exact ⟨left, by rw [whole], List.isEmpty_iff.mp blank⟩

/-- A number that names itself is read as itself wherever it stands. -/
theorem readValue_real {x : Float} (prints : Prints x) (follows : Follows rest) :
    ∃ after, readValue (fuel + 1) depth ((Json.real x).chars ++ rest) = (.real x, some after) ∧
      skipGap after = rest := by
  obtain ⟨steps, left, alone, blank⟩ := readValue_of_prints prints
  refine ⟨left ++ rest, ?_, by rw [skipGap_append left follows, blank, List.nil_append]⟩
  have skipped := skipGap_append (Json.real x).chars follows
  obtain ⟨unsigned, ⟨start, number⟩ | ⟨start, number⟩⟩ :=
    number_of_readValue steps greatestDepth alone
  · rw [start] at skipped
    exact readValue_unsigned fuel depth skipped (number?_append follows number)
  · rw [start] at skipped
    exact readValue_negative fuel depth skipped (number?_append follows number)

end Value

end Flowdesk.Json
