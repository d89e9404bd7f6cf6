import Flowdesk.Agenda
import Flowdesk.Debounce.Basic

/-!
# Debounced calls on a clock

A debouncer with a clock: each call waits on the agenda from the moment it is
taken up, and whatever is carried out is noted with its time.
-/

namespace Flowdesk

/-- One debounced call. -/
structure Call (κ α : Type) where
  key : κ
  content : α
  number : Nat

/-- What remains to be done about a call. -/
inductive CallTask (κ α : Type) where
  /-- Let its wait begin. -/
  | begin (call : Call κ α)
  /-- Carry it out, unless something overtook it. -/
  | expire (call : Call κ α)

/-- A call that was carried out, with its time. -/
structure Carried (κ α : Type) where
  key : κ
  content : α
  time : Nat

/-- A debouncer with the calls that wait and those that were carried out, latest
first. -/
structure Calls (κ α : Type) where
  debouncer : Debouncer κ
  agenda : Agenda (CallTask κ α)
  carried : List (Carried κ α)

namespace Calls

variable {κ α : Type} [DecidableEq κ]

/-- No calls, for a debouncer of a delay. -/
def create (delay : Nat) : Calls κ α := ⟨.create delay, .empty, []⟩

/-- The calls after the wait of one has ended. -/
def expire (calls : Calls κ α) (call : Call κ α) : Calls κ α :=
  match calls.debouncer.expire? call.key call.number with
  | some debouncer =>
      { calls with
        debouncer
        carried := ⟨call.key, call.content, calls.agenda.now⟩ :: calls.carried }
  | none => calls

/-- The calls after one task. A wait of no length has ended when it begins. -/
def perform (calls : Calls κ α) : CallTask κ α → Calls κ α
  | .begin call =>
      if calls.debouncer.delay = 0 then calls.expire call
      else { calls with agenda := calls.agenda.putOff calls.debouncer.delay (.expire call) }
  | .expire call => calls.expire call

instance : Busy (Calls κ α) (CallTask κ α) where
  agenda := agenda
  setAgenda calls agenda := { calls with agenda }
  perform := perform

/-- Make a call. -/
def call (calls : Calls κ α) (key : κ) (content : α) : Calls κ α :=
  let (number, debouncer) := calls.debouncer.call key
  { calls with debouncer, agenda := calls.agenda.add (.begin ⟨key, content, number⟩) }

/-- Make a call on the clock or away from it, where nothing can wait and the call is lost. -/
def callFrom (calls : Calls κ α) (clocked : Bool) (key : κ) (content : α) : Calls κ α :=
  if clocked then calls.call key content else calls

/-- Cancel the waiting call of a key. -/
def cancel (calls : Calls κ α) (key : κ) : Calls κ α :=
  { calls with debouncer := calls.debouncer.cancel key }

/-- What was carried out since it was last asked, in order. -/
def collect (calls : Calls κ α) : List (Carried κ α) × Calls κ α :=
  (calls.carried.reverse, { calls with carried := [] })

end Calls

end Flowdesk
