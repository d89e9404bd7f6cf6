/-!
# Durations

A duration is so many seconds, of which a word of 64 bits holds the number, and so many
milliseconds below a second. All that is set to a duration here is set to a whole number of
milliseconds, so nothing finer is told apart.

A duration may have more milliseconds than a word of 64 bits can count. The number that is
written for it then lacks the bits above the lowest 64, and what is read back is another
duration.
-/

namespace Flowdesk.Data

/-- A span of time of whole milliseconds. -/
structure Duration where
  seconds : UInt64
  /-- The milliseconds below a second. -/
  rest : Fin 1000
  deriving DecidableEq, Repr

namespace Duration

/-- The duration of a number of milliseconds, if a word holds the number of its seconds. -/
protected def ofNat (count : Nat) : Duration :=
  ⟨UInt64.ofNat (count / 1000), ⟨count % 1000, Nat.mod_lt _ (by decide)⟩⟩

/-- The duration of a number of milliseconds that is held by a word. -/
def ofMillis (millis : UInt64) : Duration := .ofNat millis.toNat

instance : Coe UInt64 Duration := ⟨ofMillis⟩

instance (count : Nat) : OfNat Duration count := ⟨.ofNat count⟩

/-- How many milliseconds there are in a duration. -/
def toNat (duration : Duration) : Nat := duration.seconds.toNat * 1000 + duration.rest.val

/-- The number of milliseconds as it is written: the lowest 64 bits of it. -/
def millis (duration : Duration) : UInt64 := UInt64.ofNat duration.toNat

/-- What is left of a duration whose number of milliseconds was written as a word. -/
def kept (duration : Duration) : Duration := ofMillis duration.millis

/-- A duration that is given by a word has as many milliseconds as the word says. -/
theorem toNat_ofMillis (millis : UInt64) : (ofMillis millis).toNat = millis.toNat := by
  have few : millis.toNat / 1000 < UInt64.size :=
    Nat.lt_of_le_of_lt (Nat.div_le_self _ _) millis.toNat_lt_size
  have seconds : (UInt64.ofNat (millis.toNat / 1000)).toNat = millis.toNat / 1000 :=
    UInt64.toNat_ofNat_of_lt' few
  rw [toNat, ofMillis, Duration.ofNat, seconds]
  exact Nat.div_add_mod' millis.toNat 1000

/-- Durations of as many milliseconds are the same one. -/
theorem toNat_injective {first second : Duration} (same : first.toNat = second.toNat) :
    first = second := by
  obtain ⟨firstSeconds, firstRest⟩ := first
  obtain ⟨secondSeconds, secondRest⟩ := second
  simp only [toNat] at same
  have seconds : firstSeconds.toNat = secondSeconds.toNat := by omega
  have rest : firstRest.val = secondRest.val := by omega
  rw [UInt64.toNat_inj.mp seconds, Fin.ext rest]

/-- A duration is kept as it is exactly when a word can count its milliseconds. -/
theorem kept_eq_iff (duration : Duration) :
    duration.kept = duration ↔ duration.toNat < UInt64.size := by
  have counted : duration.kept.toNat = duration.toNat % UInt64.size :=
    (toNat_ofMillis _).trans UInt64.toNat_ofNat
  constructor
  · intro same
    rw [← same, counted]
    exact Nat.mod_lt _ (by decide)
  · intro small
    exact toNat_injective (counted.trans (Nat.mod_eq_of_lt small))

end Duration

end Flowdesk.Data
