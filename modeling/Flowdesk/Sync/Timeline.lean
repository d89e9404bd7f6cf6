import Flowdesk.Agenda
import Flowdesk.Sync.Attempt

/-!
# Syncs over time

A timeline is a coordinator with a clock and the syncs that run on it. A run is
given the attempts it would make, and either reports how it went or is abandoned.
A run that finds another one of its document under way reports at once that it did
nothing.
-/

namespace Flowdesk.Sync

open Data

/-- One sync, with the attempts it would make in turn. -/
structure Run where
  uri : String
  direction : Direction
  /-- Each attempt comes to a number of actions; the last one is repeated. -/
  attempts : List (Attempt Nat)
  /-- When the run was asked for. -/
  asked : Nat
  /-- How many attempts were begun. -/
  made : Nat
  /-- How many of them were repetitions. -/
  repeated : UInt32

namespace Run

/-- An attempt that succeeds at once with no actions. -/
def trivialAttempt : Attempt Nat := ⟨0, .ok 0⟩

/-- The attempt whose turn it is. -/
def attempt (run : Run) : Attempt Nat :=
  (run.attempts[run.made]? <|> run.attempts.getLast?).getD trivialAttempt

end Run

/-- How a run went. -/
structure Report where
  actions : Nat
  /-- How many attempts were begun. -/
  calls : Nat
  /-- How long it took, in milliseconds. -/
  elapsed : Nat
  deriving DecidableEq, Repr

/-- What remains to be done about a run. -/
inductive RunTask where
  | start (number : Nat)
  | attempt (number : Nat)
  | judge (number : Nat) (outcome : Except Failure Nat)

/-- A coordinator with a clock, and its runs by number. -/
structure Timeline where
  coordinator : Coordinator
  agenda : Agenda RunTask
  running : Table Nat Run
  reports : Table Nat Report
  /-- The number of the next run. -/
  next : Nat

namespace Timeline

/-- The timeline at the start of time. -/
def create (settings : Settings) : Timeline := ⟨.create settings, .empty, .empty, .empty, 0⟩

/-- The timeline with a change made to its coordinator. -/
def coordinate (timeline : Timeline) (change : Coordinator → Coordinator) : Timeline :=
  { timeline with coordinator := change timeline.coordinator }

/-- The time as timestamps tell it. -/
def timestamp (timeline : Timeline) : UInt64 := UInt64.ofNat timeline.agenda.now

/-- The timeline with a task that is done after a while, or next if there is no
while. -/
def later (timeline : Timeline) (delay : Nat) (task : RunTask) : Timeline :=
  { timeline with
    agenda := if delay = 0 then timeline.agenda.add task else timeline.agenda.putOff delay task }

/-- Ask for a run, and give its number. -/
def ask (timeline : Timeline) (uri : String) (direction : Direction)
    (attempts : List (Attempt Nat)) : Nat × Timeline :=
  (timeline.next, { timeline with
    agenda := timeline.agenda.add (.start timeline.next)
    running := timeline.running.put timeline.next
      ⟨uri, direction, attempts, timeline.agenda.now, 0, 0⟩
    next := timeline.next + 1 })

/-- The timeline after a run has come to an end with a number of actions. -/
def conclude (timeline : Timeline) (number : Nat) (run : Run) (actions : Nat) : Timeline :=
  { timeline with
    running := timeline.running.erase number
    reports := timeline.reports.put number ⟨actions, run.made, timeline.agenda.now - run.asked⟩ }

/-- The timeline after a run began its next attempt. -/
def begin (timeline : Timeline) (number : Nat) (run : Run) : Timeline :=
  let attempt := run.attempt.within run.uri timeline.coordinator.settings.timeout
  { timeline with running := timeline.running.put number { run with made := run.made + 1 } }.later
    attempt.duration (.judge number attempt.outcome)

/-- The timeline after a run ended in some way. -/
def finish (timeline : Timeline) (number : Nat) (run : Run) (ending : Ending) (actions : Nat) :
    Timeline :=
  (timeline.coordinate (·.finish run.uri run.direction ending timeline.timestamp)).conclude number
    run actions

/-- The timeline after an attempt of a run came to an end. -/
def proceed (timeline : Timeline) (number : Nat) (run : Run) (outcome : Except Failure Nat) :
    Timeline :=
  match judge timeline.coordinator.settings.maxRetries run.repeated outcome with
  | .succeed actions => timeline.finish number run .carried actions
  | .wait => timeline.finish number run .deferred 0
  | .giveUp => timeline.finish number run .failed 0
  | .again delay =>
      { timeline with
        running := timeline.running.put number { run with repeated := run.repeated + 1 } }.later
        delay (.attempt number)

/-- The timeline after one task. Nothing remains to be done about an abandoned run. -/
def perform (timeline : Timeline) (task : RunTask) : Timeline :=
  let number := match task with
    | .start number | .attempt number | .judge number _ => number
  match timeline.running.get? number with
  | none => timeline
  | some run =>
      match task with
      | .start _ =>
          match timeline.coordinator.start? run.uri with
          | none => timeline.conclude number run 0
          | some coordinator => { timeline with coordinator }.begin number run
      | .attempt _ => timeline.begin number run
      | .judge _ outcome => timeline.proceed number run outcome

instance : Busy Timeline RunTask where
  agenda := agenda
  setAgenda timeline agenda := { timeline with agenda }
  perform := perform

/-- The timeline after a run was abandoned. -/
def abandon (timeline : Timeline) (number : Nat) : Timeline :=
  match timeline.running.get? number with
  | none => timeline
  | some run =>
      let without := { timeline with running := timeline.running.erase number }
      if run.made = 0 then without else without.coordinate (·.release run.uri)

/-- The timeline at its next point in time, if there is one and a run has not come to an
end. -/
def goOn? (number : Nat) (timeline : Timeline) : Option Timeline :=
  if (timeline.running.get? number).isNone then none
  else timeline.agenda.next?.map fun due => Busy.settle (Busy.plan timeline (·.moveTo due))

/-- The timeline once a run has come to an end. -/
def await (timeline : Timeline) (number : Nat) : Timeline :=
  exhaust (goOn? number) (Busy.settle timeline)

end Timeline

end Flowdesk.Sync
