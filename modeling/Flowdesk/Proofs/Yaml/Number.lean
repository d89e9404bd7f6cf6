import Flowdesk.Proofs.Decimal.Digit
import Flowdesk.Proofs.Yaml.Form

/-!
# Texts that name numbers can be written plainly

A text that names a number has digits, points, signs and the mark of an exponent, or is one
of a few words. None of these characters ends a plain scalar, and such a text does not start
with what starts something else.
-/

namespace Flowdesk.Yaml

/-- Whether a character may stand anywhere in a plain scalar. -/
def isSolid (c : Char) : Bool := isPrintable c && !isGap c && c != ':' && c != '#'

/-- A text of such characters is plain if it starts as one. -/
theorem plainText_of_solid {text : List Char} (filled : text ≠ [])
    (solid : ∀ c ∈ text, isSolid c = true) (starts : startsOtherwise text = false) :
    PlainText text := by
  have each : ∀ c ∈ text, isPrintable c = true ∧ isGap c = false ∧ c ≠ ':' ∧ c ≠ '#' := by
    intro c member
    have safe := solid c member
    simp only [isSolid, Bool.and_eq_true, Bool.not_eq_true', bne_iff_ne] at safe
    exact ⟨safe.1.1.1, safe.1.1.2, safe.1.2, safe.2⟩
  have noSpace : ' ' ∉ text := fun member => absurd (each ' ' member).2.1 (by decide)
  refine ⟨filled, fun c member => (each c member).1,
    fun c member => (Bool.or_eq_false_iff.mp (each c member).2.1).2,
    fun head => noSpace (List.mem_of_head? head), fun last => noSpace (List.mem_of_getLast? last),
    starts, ?_⟩
  have inside : ∀ {chars : List Char} (afterGap : Bool),
      (∀ c ∈ chars, c ≠ ':' ∧ c ≠ '#') → endsInside afterGap chars = false := by
    intro chars
    induction chars with
    | nil => exact fun _ _ => rfl
    | cons c chars inductionHypothesis =>
      intro afterGap safe
      obtain ⟨colon, comment⟩ := safe c List.mem_cons_self
      have rest := inductionHypothesis (isGap c) fun other member =>
        safe other (List.mem_cons_of_mem c member)
      simp [endsInside, colon, comment, rest]
  exact inside true fun c member => (each c member).2.2

/-- A character of a numeral. -/
def isNumeral (c : Char) : Bool := (Decimal.digit? c).isSome || ".+-eE".toList.contains c

theorem numeral_solid {c : Char} (numeral : isNumeral c = true) : isSolid c = true := by
  rcases Bool.or_eq_true_iff.mp numeral with digit | mark
  · have all : ['0', '1', '2', '3', '4', '5', '6', '7', '8', '9'].all isSolid = true := by decide
    exact List.all_eq_true.mp all c (Decimal.mem_digits digit)
  · have member : c ∈ ['.', '+', '-', 'e', 'E'] := by simpa using mark
    have all : ['.', '+', '-', 'e', 'E'].all isSolid = true := by decide
    exact List.all_eq_true.mp all c member

theorem numeral_of_digit {c : Char} (digit : (Decimal.digit? c).isSome) : isNumeral c = true := by
  simp [isNumeral, digit]

/-- An exponent is digits after at most one sign. -/
theorem numeral_of_exponent? {chars : List Char} {power : Int}
    (named : Decimal.exponent? chars = some power) : ∀ c ∈ chars, isNumeral c = true := by
  have digits : ∀ {chars : List Char}, (Decimal.positiveLength? 10 chars).isSome →
      ∀ c ∈ chars, isNumeral c = true := by
    intro chars some' c member
    unfold Decimal.positiveLength? at some'
    split at some'
    · exact nomatch some'
    · obtain ⟨value, same⟩ := Option.isSome_iff_exists.mp some'
      exact numeral_of_digit (Decimal.digits_of_natural? same c member)
  intro c member
  unfold Decimal.exponent? at named
  split at named
  · rcases List.mem_cons.mp member with rfl | later
    · rfl
    · refine digits ?_ c later
      cases read : Decimal.positiveLength? 10 _ with
      | none => rw [read] at named; exact nomatch named
      | some => rfl
  · rcases List.mem_cons.mp member with rfl | later
    · rfl
    · refine digits ?_ c later
      cases read : Decimal.positiveLength? 10 _ with
      | none => rw [read] at named; exact nomatch named
      | some => rfl
  · refine digits ?_ c member
    cases read : Decimal.positiveLength? 10 _ with
    | none => rw [read] at named; exact nomatch named
    | some => rfl

/-- What follows the digits before a point: those after it, if there is one, and the rest. -/
def fractionRun (rest : List Char) : List Char × List Char :=
  match rest with
  | '.' :: more => Decimal.digitRun more
  | _ => ([], rest)

/-- The power that the end of a numeral stands for. -/
def power? (rest : List Char) : Option Int :=
  match rest with
  | [] => some 0
  | mark :: more => if mark = 'e' ∨ mark = 'E' then Decimal.exponent? more else none

/-- A numeral is digits before a point, digits after it, and a power. -/
theorem numeral?_eq (chars : List Char) :
    Decimal.numeral? chars =
      let whole := (Decimal.digitRun chars).1
      let tail := fractionRun (Decimal.digitRun chars).2
      if whole = [] ∧ tail.1 = [] then none
      else (Decimal.natural? 10 (whole ++ tail.1)).bind fun digits =>
        (power? tail.2).map fun power => ⟨digits, power - tail.1.length⟩ := by
  unfold Decimal.numeral?
  generalize Decimal.digitRun chars = run
  obtain ⟨whole, rest⟩ := run
  change (if whole = [] ∧ (fractionRun rest).1 = [] then none
    else (Decimal.natural? 10 (whole ++ (fractionRun rest).1)).bind fun digits =>
      match (fractionRun rest).2 with
      | [] => (some 0).bind fun power =>
          some (⟨digits, power - (fractionRun rest).1.length⟩ : Decimal.Numeral)
      | mark :: more =>
          if mark = 'e' ∨ mark = 'E' then (Decimal.exponent? more).bind fun power =>
            some ⟨digits, power - (fractionRun rest).1.length⟩
          else none) = _
  generalize fractionRun rest = tail
  obtain ⟨fraction, more⟩ := tail
  cases more with
  | nil => rfl
  | cons mark more =>
    dsimp only [power?]
    split
    · rfl
    · split
      · cases Decimal.exponent? more with
        | none => rfl
        | some => rfl
      · rfl

/-- What is left after the digits that follow a point. -/
theorem fractionRun_eq (rest : List Char) :
    (∀ c ∈ (fractionRun rest).1, (Decimal.digit? c).isSome) ∧
      (rest = '.' :: ((fractionRun rest).1 ++ (fractionRun rest).2) ∨
        rest = (fractionRun rest).2 ∧ (fractionRun rest).1 = []) := by
  unfold fractionRun
  split
  · next more =>
    obtain ⟨digits, joins⟩ := Decimal.digitRun_eq more
    exact ⟨digits, .inl (congrArg ('.' :: ·) joins)⟩
  · exact ⟨nofun, .inr ⟨rfl, rfl⟩⟩

/-- What stands for a power consists of characters of numerals. -/
theorem numeral_of_power? {rest : List Char} {power : Int} (named : power? rest = some power) :
    ∀ c ∈ rest, isNumeral c = true := by
  intro c member
  cases rest with
  | nil => exact nomatch member
  | cons mark more =>
    rw [power?] at named
    split at named
    · next exponent =>
      rcases List.mem_cons.mp member with rfl | later
      · rcases exponent with rfl | rfl <;> rfl
      · exact numeral_of_exponent? named c later
    · exact nomatch named

/-- What a numeral without a sign consists of, and what it starts with. -/
theorem of_numeral? {chars : List Char} {number : Decimal.Numeral}
    (named : Decimal.numeral? chars = some number) :
    (∀ c ∈ chars, isNumeral c = true) ∧ ∃ first rest, chars = first :: rest ∧
      ((Decimal.digit? first).isSome ∨
        first = '.' ∧ ∃ second more, rest = second :: more ∧ (Decimal.digit? second).isSome) := by
  obtain ⟨wholeDigits, joins⟩ := Decimal.digitRun_eq chars
  rw [numeral?_eq] at named
  dsimp only at named
  generalize (Decimal.digitRun chars).1 = whole at *
  obtain ⟨fractionDigits, between⟩ := fractionRun_eq (Decimal.digitRun chars).2
  generalize (Decimal.digitRun chars).2 = rest at *
  generalize (fractionRun rest).1 = fraction at *
  generalize (fractionRun rest).2 = more at *
  subst joins
  split at named
  · exact nomatch named
  · next filled =>
    obtain ⟨digits, -, named⟩ := Option.bind_eq_some_iff.mp named
    obtain ⟨power, read, -⟩ := Option.map_eq_some_iff.mp named
    have exponent := numeral_of_power? read
    have tail : ∀ c ∈ rest, isNumeral c = true := by
      rcases between with rfl | ⟨rfl, -⟩
      · intro c member
        rcases List.mem_cons.mp member with rfl | member
        · rfl
        · rcases List.mem_append.mp member with inFraction | inMore
          · exact numeral_of_digit (fractionDigits c inFraction)
          · exact exponent c inMore
      · exact exponent
    refine ⟨?_, ?_⟩
    · intro c member
      rcases List.mem_append.mp member with inWhole | inRest
      · exact numeral_of_digit (wholeDigits c inWhole)
      · exact tail c inRest
    · cases whole with
      | cons first whole =>
        exact ⟨first, _, rfl, .inl (wholeDigits first List.mem_cons_self)⟩
      | nil =>
        rcases between with rfl | ⟨rfl, rfl⟩
        · cases fraction with
          | nil => exact absurd ⟨rfl, rfl⟩ filled
          | cons second fraction =>
            exact ⟨'.', _, rfl, .inr ⟨rfl, second, _, rfl,
              fractionDigits second List.mem_cons_self⟩⟩
        · exact absurd ⟨rfl, rfl⟩ filled

/-- A text that starts as a numeral without a sign does not start as something else, with a
sign before it or without one. -/
theorem starts_numeral {first : Char} {rest : List Char}
    (start : (Decimal.digit? first).isSome ∨
      first = '.' ∧ ∃ second more, rest = second :: more ∧ (Decimal.digit? second).isSome) :
    startsOtherwise (first :: rest) = false ∧ startsOtherwise ('-' :: first :: rest) = false ∧
      startsOtherwise ('+' :: first :: rest) = false := by
  rcases start with digit | ⟨rfl, second, more, rfl, digit⟩
  · have member := Decimal.mem_digits digit
    simp only [List.mem_cons, List.not_mem_nil, or_false] at member
    rcases member with rfl | rfl | rfl | rfl | rfl | rfl | rfl | rfl | rfl | rfl <;>
      exact ⟨rfl, rfl, rfl⟩
  · have member := Decimal.mem_digits digit
    simp only [List.mem_cons, List.not_mem_nil, or_false] at member
    rcases member with rfl | rfl | rfl | rfl | rfl | rfl | rfl | rfl | rfl | rfl <;>
      exact ⟨rfl, rfl, rfl⟩

/-- A text that is one of some words, with something before it, can be written plainly if
all of them can. -/
theorem plainText_of_isOneOf {words : List String} {text : List Char} (front : List Char)
    (one : isOneOf words text = true)
    (plain : ∀ word ∈ words, front ++ word.toList ≠ [] ∧
      (front ++ word.toList).all isSolid = true ∧
      startsOtherwise (front ++ word.toList) = false) : PlainText (front ++ text) := by
  obtain ⟨word, member, same⟩ := List.any_eq_true.mp one
  obtain ⟨filled, solid, starts⟩ := plain word member
  rw [beq_iff_eq.mp same]
  exact plainText_of_solid filled (List.all_eq_true.mp solid) starts

/-- A numeral can be written plainly, after at most one sign. -/
theorem plainText_of_numeral? {chars : List Char} {number : Decimal.Numeral}
    (named : Decimal.numeral? chars = some number) :
    PlainText chars ∧ PlainText ('-' :: chars) ∧ PlainText ('+' :: chars) := by
  obtain ⟨numerals, first, rest, rfl, start⟩ := of_numeral? named
  have solid : ∀ c ∈ first :: rest, isSolid c = true := fun c member =>
    numeral_solid (numerals c member)
  obtain ⟨bare, minus, plus⟩ := starts_numeral start
  exact ⟨plainText_of_solid (List.cons_ne_nil first rest) solid bare,
    plainText_of_solid (List.cons_ne_nil '-' _) (List.forall_mem_cons.mpr ⟨by decide, solid⟩) minus,
    plainText_of_solid (List.cons_ne_nil '+' _) (List.forall_mem_cons.mpr ⟨by decide, solid⟩) plus⟩

/-- What names a number is a word or a numeral; after a plus sign there is no other sign. -/
theorem of_floatOf? {text : List Char} {value : Float} (named : floatOf? text = some value) :
    ∃ unsigned, (text = unsigned ∨ text = '+' :: unsigned ∧ unsigned.head? ≠ some '-' ∧
        unsigned.head? ≠ some '+') ∧
      (isOneOf [".inf", ".Inf", ".INF"] unsigned ∨ isOneOf ["-.inf", "-.Inf", "-.INF"] text ∨
        isOneOf [".nan", ".NaN", ".NAN"] text ∨ Decimal.finite? unsigned = some value) := by
  have words : ∀ {unsigned : List Char},
      (if isOneOf [".inf", ".Inf", ".INF"] unsigned then some (1 / 0)
        else if isOneOf ["-.inf", "-.Inf", "-.INF"] text then some (-1 / 0)
        else if isOneOf [".nan", ".NaN", ".NAN"] text then some (0 / 0)
        else Decimal.finite? unsigned) = some value →
      isOneOf [".inf", ".Inf", ".INF"] unsigned ∨ isOneOf ["-.inf", "-.Inf", "-.INF"] text ∨
        isOneOf [".nan", ".NaN", ".NAN"] text ∨ Decimal.finite? unsigned = some value := by
    intro unsigned named
    split at named
    · next infinite => exact .inl infinite
    · split at named
      · next negative => exact .inr (.inl negative)
      · split at named
        · next nothing => exact .inr (.inr (.inl nothing))
        · exact .inr (.inr (.inr named))
  unfold floatOf? at named
  split at named
  · exact nomatch named
  · exact nomatch named
  · next rest plus minus =>
    refine ⟨rest, .inr ⟨rfl, fun head => ?_, fun head => ?_⟩, words named⟩
    · obtain ⟨more, rfl⟩ := List.head?_eq_some_iff.mp head
      exact minus more rfl
    · obtain ⟨more, rfl⟩ := List.head?_eq_some_iff.mp head
      exact plus more rfl
  · exact ⟨text, .inl rfl, words named⟩

/-- A text that names a number can be written plainly. -/
theorem plainText_of_floatOf? {text : List Char} {value : Float}
    (named : floatOf? text = some value) : PlainText text := by
  have finite : ∀ {chars : List Char}, Decimal.finite? chars = some value →
      PlainText chars ∧ (chars.head? ≠ some '-' → chars.head? ≠ some '+' →
        PlainText ('+' :: chars)) := by
    intro chars named
    unfold Decimal.finite? at named
    obtain ⟨number, named, -⟩ := Option.bind_eq_some_iff.mp named
    split at named
    · exact ⟨(plainText_of_numeral? named).2.1, fun minus => absurd rfl minus⟩
    · exact ⟨(plainText_of_numeral? named).2.2, fun _ plus => absurd rfl plus⟩
    · exact ⟨(plainText_of_numeral? named).1, fun _ _ => (plainText_of_numeral? named).2.2⟩
  obtain ⟨unsigned, sign, infinite | negative | nothing | numeral⟩ := of_floatOf? named
  · rcases sign with rfl | ⟨rfl, -⟩
    · exact plainText_of_isOneOf [] infinite (by decide)
    · exact plainText_of_isOneOf ['+'] infinite (by decide)
  · exact plainText_of_isOneOf [] negative (by decide)
  · exact plainText_of_isOneOf [] nothing (by decide)
  · rcases sign with rfl | ⟨rfl, minus, plus⟩
    · exact (finite numeral).1
    · exact (finite numeral).2 minus plus

end Flowdesk.Yaml
