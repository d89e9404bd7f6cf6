import Flowdesk.Data.Table

/-!
# Debouncing

A debounced call waits until its key has been left alone for a while, and only the
latest call of a key is carried out. Every call gets a number of its own; a call
whose number is no longer the one kept under its key has been overtaken or
cancelled.
-/

namespace Flowdesk

open Data

/-- The latest waiting call of each key. -/
structure Debouncer (κ : Type) where
  /-- How long a key must be left alone, in milliseconds. -/
  delay : Nat
  latest : Table κ Nat
  /-- The number of the next call. It has no bound here: the counter of 64 bits that it stands
  for would start over only after more calls than any run makes. -/
  next : Nat

namespace Debouncer

variable {κ : Type} [DecidableEq κ]

/-- The debouncer without calls. -/
def create (delay : Nat) : Debouncer κ := ⟨delay, .empty, 0⟩

/-- Register a call, which overtakes those before it, and give its number. -/
def call (debouncer : Debouncer κ) (key : κ) : Nat × Debouncer κ :=
  (debouncer.next, { debouncer with
    latest := debouncer.latest.put key debouncer.next
    next := debouncer.next + 1 })

/-- Forget the waiting call of a key. -/
def cancel (debouncer : Debouncer κ) (key : κ) : Debouncer κ :=
  { debouncer with latest := debouncer.latest.erase key }

/-- Whether a call of a key is waiting. -/
def pending (debouncer : Debouncer κ) (key : κ) : Bool := debouncer.latest.contains key

/-- The debouncer after the wait of a call has ended, if the call is to be carried
out. -/
def expire? (debouncer : Debouncer κ) (key : κ) (number : Nat) : Option (Debouncer κ) :=
  if debouncer.latest.get? key = some number then some (debouncer.cancel key) else none

end Debouncer

end Flowdesk
