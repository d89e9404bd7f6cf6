import Flowdesk.Decimal.Layout
import Flowdesk.Decimal.Numeral

/-!
# Decimal digits

The digits that a natural number is written with name it again, and none of them is a zero
that could be left out. A run of digits is read up to what is no digit, so what follows a
number does not change what is read of it.
-/

namespace Flowdesk.Decimal

theorem mem_digits {c : Char} (digit : (digit? c).isSome) :
    c ∈ ['0', '1', '2', '3', '4', '5', '6', '7', '8', '9'] := by
  have range : '0' ≤ c ∧ c ≤ '9' := by
    unfold digit? at digit
    grind
  have code : 0x30 ≤ c.toNat ∧ c.toNat ≤ 0x39 := by
    simp only [Char.le_def, UInt32.le_iff_toNat_le] at range
    exact range
  have same : Char.ofNat (0x30 + (c.toNat - 0x30)) = c := by
    rw [Nat.add_sub_cancel' code.1, Char.ofNat_toNat]
  have all : ∀ place : Fin 10, Char.ofNat (0x30 + place) ∈
      ['0', '1', '2', '3', '4', '5', '6', '7', '8', '9'] := by decide
  have here := all ⟨c.toNat - 0x30, by omega⟩
  rwa [same] at here

/-- Only digits name a natural number in radix ten. -/
theorem digits_of_natural? {digits : List Char} {value : Nat}
    (named : natural? 10 digits = some value) :
    ∀ c ∈ digits, (digit? c).isSome := by
  have digit : ∀ {c : Char}, (radixDigit? 10 c).isSome → (digit? c).isSome := by
    intro c some'
    unfold radixDigit? at some'
    unfold digit?
    grind
  have folded : ∀ (chars : List Char) (total : Nat) {value : Nat},
      chars.foldlM (fun total c => (radixDigit? 10 c).map (total * 10 + ·)) total =
        some value → ∀ c ∈ chars, (digit? c).isSome := by
    intro chars
    induction chars with
    | nil => exact fun _ _ _ => nofun
    | cons first chars inductionHypothesis =>
      intro total value named c member
      rw [List.foldlM_cons] at named
      cases here : radixDigit? 10 first with
      | none =>
        rw [here] at named
        exact nomatch named
      | some number =>
        rw [here] at named
        rcases List.mem_cons.mp member with rfl | later
        · exact digit (by rw [here]; rfl)
        · exact inductionHypothesis _ named c later
  exact folded digits 0 named

section Run

/-- The longest run of digits is of digits, and nothing is lost. -/
theorem digitRun_eq (chars : List Char) :
    (∀ c ∈ (digitRun chars).1, (digit? c).isSome) ∧
      chars = (digitRun chars).1 ++ (digitRun chars).2 :=
  ⟨fun c member => List.all_eq_true.mp List.all_takeWhile c member,
    List.takeWhile_append_dropWhile.symm⟩

/-- What does not start with a digit does not change the run before it. -/
theorem digitRun_append (chars : List Char) {after : List Char}
    (ends : ∀ c, after.head? = some c → digit? c = none) :
    digitRun (chars ++ after) = ((digitRun chars).1, (digitRun chars).2 ++ after) := by
  induction chars with
  | nil =>
    cases after with
    | nil => rfl
    | cons c after =>
      have stops : (digit? c).isSome = false := by rw [ends c rfl]; rfl
      simp [digitRun, stops]
  | cons c chars inductionHypothesis =>
    simp only [digitRun, Prod.mk.injEq] at inductionHypothesis ⊢
    cases digit : (digit? c).isSome with
    | true => simp [digit, inductionHypothesis]
    | false => simp [digit]

/-- A run that is of digits throughout. -/
theorem digitRun_of_digits {digits : List Char} (all : ∀ c ∈ digits, (digit? c).isSome) :
    digitRun digits = (digits, []) := by
  induction digits with
  | nil => rfl
  | cons c digits inductionHypothesis =>
    have rest := inductionHypothesis fun other member => all other (List.mem_cons_of_mem c member)
    simp only [digitRun, Prod.mk.injEq] at rest ⊢
    simp [all c List.mem_cons_self, rest]

end Run

section Written

/-- The digits of a number name it, in any radix that has digits. -/
theorem natural?_toDigits {radix : Nat} (least : 1 < radix) (most : radix ≤ 16) (value : Nat) :
    natural? radix (Nat.toDigits radix value) = some value := by
  have sixteen : ∀ digit : Fin 16, radixDigit? 16 (Nat.digitChar digit) = some digit.val := by
    decide
  have single : ∀ digit, digit < radix → radixDigit? radix (Nat.digitChar digit) = some digit := by
    intro digit small
    have named := sixteen ⟨digit, Nat.lt_of_lt_of_le small most⟩
    obtain ⟨found, _⟩ := Option.filter_eq_some_iff.mp named
    exact Option.filter_eq_some_iff.mpr ⟨found, decide_eq_true small⟩
  induction value using Nat.strongRecOn with
  | _ value inductionHypothesis =>
    have last : value % radix < radix := Nat.mod_lt value (Nat.zero_lt_of_lt least)
    rw [Nat.toDigits_eq_if least]
    split
    · next small =>
      rw [natural?, List.foldlM_cons, single value small]
      simp
    · next large =>
      have before := inductionHypothesis (value / radix)
        (Nat.div_lt_self (Nat.zero_lt_of_lt (Nat.lt_of_lt_of_le least (Nat.not_lt.mp large))) least)
      rw [natural?] at before ⊢
      rw [List.foldlM_append, before, Option.bind_eq_bind, Option.bind_some, List.foldlM_cons,
        single (value % radix) last]
      simp only [Option.map_some, Option.bind_eq_bind, Option.bind_some, List.foldlM_nil,
        Option.pure_def, Nat.div_add_mod']

/-- They are digits. -/
theorem digit_of_mem_toDigits {value : Nat} {c : Char} (member : c ∈ Nat.toDigits 10 value) :
    (digit? c).isSome :=
  digits_of_natural? (natural?_toDigits (by decide) (by decide) value) c member

/-- The first of them is a zero only if there are no others. -/
theorem toDigits_leading_zero {value : Nat} {rest : List Char}
    (zero : Nat.toDigits 10 value = '0' :: rest) : rest = [] := by
  induction value using Nat.strongRecOn generalizing rest with
  | _ value inductionHypothesis =>
    rw [Nat.toDigits_eq_if (by decide)] at zero
    split at zero
    · exact (List.cons.inj zero).2.symm
    · next large =>
      cases front : Nat.toDigits 10 (value / 10) with
      | nil => exact absurd front Nat.toDigits_ne_nil
      | cons first more =>
        rw [front, List.cons_append, List.cons.injEq] at zero
        obtain ⟨rfl, -⟩ := zero
        have none := inductionHypothesis (value / 10) (by omega) front
        subst none
        -- A lone zero would name the number of all digits but the last.
        have named : natural? 10 (Nat.toDigits 10 (value / 10)) = some (value / 10) :=
          natural?_toDigits (by decide) (by decide) (value / 10)
        rw [front] at named
        have nothing : value / 10 = 0 := (Option.some.inj named).symm
        omega

end Written

end Flowdesk.Decimal
