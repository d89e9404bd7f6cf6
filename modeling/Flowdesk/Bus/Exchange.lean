import Flowdesk.Bus.Basic
import Flowdesk.Data.Table

/-!
# Exchanges

An exchange is a bus whose listeners have names and may answer an event with
commands: to drop a listener, to let another one listen, to emit an event of their
own, or to do what depends on what was received so far. An event emitted in answer
to another is delivered to the end before the first one goes on. A listener that
takes a name in use is heard first and the other one dropped then; a listener
dropped while an event is being delivered still receives that event.

Whoever subscribes a listener has a handle of its subscription (`Subscription`), and to
drop the listener is to drop the handle. A handle may be given to a listener, which keeps
it from then on. A listener lasts as long as it is subscribed or an emission still has to
do with it; when it goes, the handles it keeps are dropped. If it goes because it is
being removed from the bus, that is while the bus is being changed, so that nothing comes
of it: the subscriptions of these handles stay, and nobody can drop them any more.

An exchange keeps a record of what happens on it. Listeners that answer one another
without end leave nothing behind: an emission that nests deeper than any useful one
has no outcome.
-/

namespace Flowdesk

open Data

mutual

/-- Who listens under a name, which events it accepts, and how it answers them. -/
inductive Listener (ε : Type) where
  | mk (name : String) (accepts : ε → Bool) (answer : ε → List (Command ε))

/-- What a listener may do in answer to an event. -/
inductive Command (ε : Type) where
  | drop (name : String)
  | subscribe (listener : Listener ε)
  | emit (event : ε)
  /-- Give the handle of a listener to another one. -/
  | entrust (name keeper : String)
  /-- Do what depends on who received which event so far. -/
  | consider (decide : List (String × ε) → List (Command ε))

end

namespace Listener

variable {ε : Type}

/-- The name of a listener. -/
def name : Listener ε → String
  | .mk name _ _ => name

/-- Whether a listener accepts an event. -/
def accepts : Listener ε → ε → Bool
  | .mk _ accepts _ => accepts

/-- How a listener answers an event. -/
def answer : Listener ε → ε → List (Command ε)
  | .mk _ _ answer => answer

end Listener

/-- What happens on an exchange. An emission goes by how much had happened before it. -/
inductive Happening (ε : Type) where
  /-- A listener was subscribed, under a number. -/
  | subscribed (subscription : Nat × Listener ε)
  /-- The handle of a subscription was dropped, and its listener removed if it could be. -/
  | dropped (number : Nat) (removed : Bool)
  /-- The handle of a subscription was given to the listener of another one. -/
  | entrusted (number keeper : Nat)
  | emitted (event : ε)
  /-- The event of an emission was delivered to a listener. -/
  | received (emission : Nat) (subscription : Nat × Listener ε) (event : ε)

/-- Who received which event, if that is what happened. -/
def Happening.receipt? {ε : Type} : Happening ε → Option (String × ε)
  | .received _ subscription event => some (subscription.2.name, event)
  | _ => none

/-- A bus of named listeners, and what happened on it. -/
structure Exchange (ε : Type) where
  bus : Bus (Listener ε)
  /-- The number of the subscription of each name whose handle is not kept by a listener. -/
  numbers : Table String Nat
  /-- The numbers of the handles that listeners keep, each after that of its keeper. -/
  kept : List (Nat × Nat)
  /-- The listeners that emissions still have to do with, once for each such emission. -/
  held : List Nat
  /-- All that happened, latest first. -/
  record : List (Happening ε)
  /-- How much of the record has been told. -/
  told : Nat

namespace Exchange

variable {ε : Type}

/-- The exchange without listeners. -/
def empty : Exchange ε := ⟨.empty, .empty, [], [], [], 0⟩

instance : Inhabited (Exchange ε) := ⟨empty⟩

/-- All that happened, in order. -/
def history (exchange : Exchange ε) : List (Happening ε) := exchange.record.reverse

/-- Who received which event so far, in order. -/
def receipts (exchange : Exchange ε) : List (String × ε) :=
  exchange.history.filterMap Happening.receipt?

/-- The exchange with one more happening on record. -/
def note (exchange : Exchange ε) (happening : Happening ε) : Exchange ε :=
  { exchange with record := happening :: exchange.record }

/-- The exchange after the handle of a subscription was dropped, whatever the listener that
goes with it keeps. -/
def dropHandle (exchange : Exchange ε) (number : Nat) : Exchange ε :=
  { exchange.note (.dropped number !exchange.bus.writing) with bus := exchange.bus.drop number }

/-- The numbers of the handles that a listener keeps. -/
def keptBy (exchange : Exchange ε) (keeper : Nat) : List Nat :=
  (exchange.kept.filter (·.1 = keeper)).map (·.2)

/-- The exchange after a listener has gone and each handle it kept was dropped. -/
def bury (drop : Exchange ε → Nat → Exchange ε) (exchange : Exchange ε) (keeper : Nat) :
    Exchange ε :=
  (exchange.keptBy keeper).foldl drop
    { exchange with kept := exchange.kept.filter (·.1 ≠ keeper) }

/-- The exchange while its bus is being changed, or again when that is over. -/
def setWriting (exchange : Exchange ε) (writing : Bool) : Exchange ε :=
  { exchange with bus := { exchange.bus with writing } }

/-- The exchange after the handle of a subscription was dropped. If no emission has to do
with the listener any more, it goes while it is being removed. -/
def dropNumber (exchange : Exchange ε) (number : Nat) : Exchange ε :=
  let removed := exchange.dropHandle number
  if number ∈ exchange.held then removed
  else ((removed.setWriting true).bury dropHandle number).setWriting false

/-- The exchange after an emission is done with a listener, which goes with that if it was
removed meanwhile. -/
def letGo (exchange : Exchange ε) (number : Nat) : Exchange ε :=
  let after := { exchange with held := exchange.held.erase number }
  if after.bus.has number ∨ number ∈ after.held then after else after.bury dropNumber number

/-- The exchange without the listener of a name. -/
def drop (exchange : Exchange ε) (name : String) : Exchange ε :=
  match exchange.numbers.get? name with
  | some number => { exchange with numbers := exchange.numbers.erase name }.dropNumber number
  | none => exchange

/-- The exchange with one more listener, in place of the one of the same name. -/
def subscribe (exchange : Exchange ε) (listener : Listener ε) : Exchange ε :=
  let (number, bus) := exchange.bus.subscribe listener
  let heard := { exchange.note (.subscribed (number, listener)) with
    bus, numbers := exchange.numbers.put listener.name number }
  match exchange.numbers.get? listener.name with
  | some old => heard.dropNumber old
  | none => heard

/-- The exchange after the handle of a listener was given to another one. -/
def entrust (exchange : Exchange ε) (name keeper : String) : Exchange ε :=
  match exchange.numbers.get? name, exchange.numbers.get? keeper with
  | some number, some holder =>
      { exchange.note (.entrusted number holder) with
        numbers := exchange.numbers.erase name, kept := (holder, number) :: exchange.kept }
  | _, _ => exchange

mutual

/-- The exchange after a command, given what emitting does. -/
def obey (emit : Exchange ε → ε → Option (Exchange ε)) :
    Command ε → Exchange ε → Option (Exchange ε)
  | .drop name, exchange => some (exchange.drop name)
  | .subscribe listener, exchange => some (exchange.subscribe listener)
  | .emit event, exchange => emit exchange event
  | .entrust name keeper, exchange => some (exchange.entrust name keeper)
  | .consider decide, exchange => obeyAll emit (decide exchange.receipts) exchange

/-- The exchange after commands, given what emitting does. -/
def obeyAll (emit : Exchange ε → ε → Option (Exchange ε)) :
    List (Command ε) → Exchange ε → Option (Exchange ε)
  | [], exchange => some exchange
  | command :: rest, exchange => (obey emit command exchange).bind (obeyAll emit rest)

end

/-- The exchange after the event of an emission came to a subscription, given what
emitting does. The emission is done with the listener then. -/
def deliver (emit : Exchange ε → ε → Option (Exchange ε)) (emission : Nat) (event : ε)
    (exchange : Exchange ε) (subscription : Nat × Listener ε) : Option (Exchange ε) :=
  let answered :=
    if subscription.2.accepts event then
      obeyAll emit (subscription.2.answer event)
        (exchange.note (.received emission subscription event))
    else some exchange
  answered.map (·.letGo subscription.1)

/-- The exchange at the beginning of an emission, which has to do with all who listen. -/
def beginEmission (exchange : Exchange ε) (event : ε) : Exchange ε :=
  { exchange.note (.emitted event) with
    held := exchange.bus.subscriptions.map (·.1) ++ exchange.held }

/-- The exchange after an event was delivered to all who listened when it was
emitted, unless answers nest deeper than the first argument allows. -/
def emitWithin : Nat → Exchange ε → ε → Option (Exchange ε)
  | 0, _, _ => none
  | depth + 1, exchange, event =>
      exchange.bus.subscriptions.foldlM
        (deliver (emitWithin depth) exchange.record.length event) (exchange.beginEmission event)

/-- How deep answers may nest. -/
def greatestDepth : Nat := 4096

/-- The exchange after an event. -/
def emit (exchange : Exchange ε) (event : ε) : Exchange ε :=
  (emitWithin greatestDepth exchange event).getD exchange

/-- What was received since it was last asked, in order. -/
def collect (exchange : Exchange ε) : List (String × ε) × Exchange ε :=
  let untold := exchange.record.take (exchange.record.length - exchange.told)
  (untold.reverse.filterMap Happening.receipt?,
    { exchange with told := exchange.record.length })

end Exchange

end Flowdesk
