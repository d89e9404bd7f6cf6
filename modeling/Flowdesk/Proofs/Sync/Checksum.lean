import Flowdesk.Proofs.Decimal.Digit
import Flowdesk.Sync.Checksum
import Mathlib.Data.Int.ModEq
import Mathlib.Data.List.Induction
import Mathlib.Data.Nat.Digits.Defs

/-!
# What a checksum tells apart

A text hashes to the number that its code units name in radix thirty-one, the first unit
being the most significant, as far as 32 bits can hold it. So the hash of two texts in a row
is told by their hashes and the length of the second, and as thirty-one has an inverse modulo
the size of a word, what follows an edit cannot hide it: two texts that differ in one code
unit, or by two neighbouring ones that have changed places, hash to different numbers. The
checksum names the hash, so it differs as well.
-/

namespace Flowdesk.Sync

open Text

/-- The number of different hashes. -/
def hashCount : Nat := 2 ^ 32

/-- The units of a text are turned into those of another one of the same length by as little
as possible: by another unit in one place, or by two neighbours that change places. -/
inductive SmallestEdit : List Nat → List Nat → Prop where
  | change (before after : List Nat) {old new : Nat} (different : old ≠ new) :
      SmallestEdit (before ++ old :: after) (before ++ new :: after)
  | exchange (before after : List Nat) {first second : Nat} (different : first ≠ second) :
      SmallestEdit (before ++ first :: second :: after) (before ++ second :: first :: after)

section Weight

/-- The number that code units name in radix thirty-one. -/
def weight (units : List Nat) : Nat := Nat.ofDigits 31 units.reverse

theorem weight_append (before after : List Nat) :
    weight (before ++ after) = weight before * 31 ^ after.length + weight after := by
  rw [weight, List.reverse_append, Nat.ofDigits_append, List.length_reverse, Nat.add_comm,
    Nat.mul_comm]
  rfl

theorem weight_cons (unit : Nat) (after : List Nat) :
    weight (unit :: after) = unit * 31 ^ after.length + weight after := by
  rw [← List.singleton_append, weight_append]
  simp [weight]

/-- A hash is what a word holds of the weight. -/
theorem toNat_hashUnits (units : List Nat) :
    (hashUnits units).toNat = weight units % hashCount := by
  induction units using List.reverseRecOn with
  | nil => rfl
  | append_singleton units last inductionHypothesis =>
    have step : hashUnits (units ++ [last]) = hashUnit (hashUnits units) last :=
      List.foldl_append
    have weighed : weight (units ++ [last]) = weight units * 31 + last := by
      rw [weight_append, weight_cons]
      simp [weight]
    have factor : hashFactor.toNat = 31 := rfl
    rw [step, weighed, hashUnit, UInt32.toNat_add, UInt32.toNat_mul, inductionHypothesis, factor,
      UInt32.toNat_ofNat', hashCount, Nat.add_mod_mod, Nat.mod_add_mod, Nat.add_mod,
      Nat.mod_mul_mod, ← Nat.add_mod]

/-- What follows in two texts does not make their weights agree. -/
theorem modEq_of_append {left right after : List Nat}
    (same : weight (left ++ after) ≡ weight (right ++ after) [MOD hashCount]) :
    weight left ≡ weight right [MOD hashCount] := by
  have invertible : Nat.gcd hashCount (31 ^ after.length) = 1 :=
    Nat.Coprime.pow_right after.length (by decide)
  rw [weight_append, weight_append] at same
  exact (Nat.ModEq.add_right_cancel' _ same).cancel_right_of_coprime invertible

/-- Neither does what comes before, if the texts are of one length. -/
theorem modEq_of_prepend {left right before : List Nat} (length : left.length = right.length)
    (same : weight (before ++ left) ≡ weight (before ++ right) [MOD hashCount]) :
    weight left ≡ weight right [MOD hashCount] := by
  rw [weight_append, weight_append, length] at same
  exact Nat.ModEq.add_left_cancel' _ same

end Weight

/-- A smallest edit changes the hash. -/
theorem SmallestEdit.hash_ne {units edited : List Nat} (edit : SmallestEdit units edited)
    (bound : ∀ unit ∈ units, unit < 0x10000) (editedBound : ∀ unit ∈ edited, unit < 0x10000) :
    hashUnits units ≠ hashUnits edited := by
  intro agree
  have same : weight units ≡ weight edited [MOD hashCount] := by
    have words := congrArg UInt32.toNat agree
    rwa [toNat_hashUnits, toNat_hashUnits] at words
  cases edit with
  | @change before after old new different =>
    have oldBound : old < 0x10000 := bound old (by simp)
    have newBound : new < 0x10000 := editedBound new (by simp)
    rw [List.append_cons, List.append_cons before new] at same
    have single : old ≡ new [MOD hashCount] := by
      simpa [weight] using modEq_of_prepend (by rfl) (modEq_of_append same)
    exact different (single.eq_of_lt_of_lt (by unfold hashCount; omega)
      (by unfold hashCount; omega))
  | @exchange before after first second different =>
    have firstBound : first < 0x10000 := bound first (by simp)
    have secondBound : second < 0x10000 := editedBound second (by simp)
    have split (one other : Nat) :
        before ++ one :: other :: after = before ++ [one, other] ++ after := by simp
    rw [split, split] at same
    have pair : first * 31 + second ≡ second * 31 + first [MOD hashCount] := by
      simpa [weight, Nat.ofDigits, Nat.mul_comm, Nat.add_comm] using
        modEq_of_prepend (by rfl) (modEq_of_append same)
    have equal := pair.eq_of_lt_of_lt (by unfold hashCount; omega) (by unfold hashCount; omega)
    omega

section Text

theorem textUnits_append (first second : String) :
    textUnits (first ++ second) = textUnits first ++ textUnits second := by
  rw [textUnits, String.toList_append, List.flatMap_append]
  rfl

theorem textUnits_bound (text : String) : ∀ unit ∈ textUnits text, unit < 0x10000 := by
  intro unit member
  obtain ⟨c, _, among⟩ := List.mem_flatMap.mp member
  exact units_bound c unit among

/-- The hash of two texts in a row. -/
theorem toNat_hash_append (first second : String) :
    (hash (first ++ second)).toNat =
      ((hash first).toNat * 31 ^ (textUnits second).length + (hash second).toNat) % hashCount := by
  have shifted : weight (textUnits first) * 31 ^ (textUnits second).length ≡
      (hash first).toNat * 31 ^ (textUnits second).length [MOD hashCount] := by
    rw [hash, toNat_hashUnits]
    exact (Nat.mod_modEq _ _).symm.mul_right _
  have rest : weight (textUnits second) ≡ (hash second).toNat [MOD hashCount] := by
    rw [hash, toNat_hashUnits]
    exact (Nat.mod_modEq _ _).symm
  rw [hash, toNat_hashUnits, textUnits_append, weight_append]
  exact shifted.add rest

/-- The checksum of a text names its hash in hexadecimal digits. -/
theorem hash_named (text : String) :
    Decimal.natural? 16 (checksum text).toList = some (hash text).toNat := by
  rw [checksum, String.toList_ofList]
  exact Decimal.natural?_toDigits (by decide) (by decide) _

/-- The digits of a checksum are in lower case. -/
theorem lowercase_of_mem_checksum {text : String} {c : Char} (member : c ∈ (checksum text).toList) :
    '0' ≤ c ∧ c ≤ '9' ∨ 'a' ≤ c ∧ c ≤ 'f' := by
  have digits : ∀ digit : Fin 16, '0' ≤ Nat.digitChar digit ∧ Nat.digitChar digit ≤ '9' ∨
      'a' ≤ Nat.digitChar digit ∧ Nat.digitChar digit ≤ 'f' := by decide
  rw [checksum, String.toList_ofList] at member
  generalize (hash text).toNat = value at member
  induction value using Nat.strongRecOn with
  | _ value inductionHypothesis =>
    rw [Nat.toDigits_eq_if (by decide)] at member
    split at member
    · next small => exact List.mem_singleton.mp member ▸ digits ⟨value, small⟩
    · rcases List.mem_append.mp member with earlier | last
      · exact inductionHypothesis (value / 16) (by omega) earlier
      · exact List.mem_singleton.mp last ▸ digits ⟨value % 16, Nat.mod_lt value (by decide)⟩

end Text

/-- A checksum names a hash in lower-case hexadecimal digits. The hash of two texts in a row
is told by their hashes and the length of the second one, and no smallest edit of a text
leaves its checksum as it is.

Proof: the hash is what a word holds of the number whose digits in radix thirty-one are the units.
A smallest edit leaves what stands before and after it, and a power of the radix can be cancelled
against the modulus. What is left is one unit or two neighbours, which would have to name the same
number as others below the modulus. -/
theorem checksum_tells_smallest_edits (text other : String) :
    Decimal.natural? 16 (checksum text).toList = some (hash text).toNat ∧
    (∀ c ∈ (checksum text).toList, '0' ≤ c ∧ c ≤ '9' ∨ 'a' ≤ c ∧ c ≤ 'f') ∧
    (hash (text ++ other)).toNat =
      ((hash text).toNat * 31 ^ (textUnits other).length + (hash other).toNat) % 2 ^ 32 ∧
    (SmallestEdit (textUnits text) (textUnits other) → checksum text ≠ checksum other) := by
  refine ⟨hash_named text, fun c member => lowercase_of_mem_checksum member,
    toNat_hash_append text other, fun edit same => ?_⟩
  have named := hash_named other
  rw [← same, hash_named text] at named
  exact edit.hash_ne (textUnits_bound text) (textUnits_bound other)
    (UInt32.toNat_inj.mp (Option.some.inj named))

/-- The second half of a surrogate pair shows in the checksum. -/
theorem low_surrogate_shows_in_checksum :
    SmallestEdit (textUnits "a😀b") (textUnits "a😁b") ∧ checksum "a😀b" ≠ checksum "a😁b" := by
  have edit : SmallestEdit (textUnits "a😀b") (textUnits "a😁b") :=
    .change [0x61, 0xD83D] [0x62] (by decide : 0xDE00 ≠ 0xDE01)
  exact ⟨edit, (checksum_tells_smallest_edits "a😀b" "a😁b").2.2.2 edit⟩

end Flowdesk.Sync
