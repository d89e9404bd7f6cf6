/-!
# Agendas

An agenda holds the tasks of a simulated day: those that are ready, in the order in
which they became so, and those that wait for a point in time, in the order in
which they were put off. Time moves only from one such point to the next. At each,
the tasks that are due become ready in the order in which they were put off, and
all ready tasks are done, together with those they make ready, before time moves
on. A task is done whole: tasks are cooperative, and none is interrupted by another.
-/

namespace Flowdesk

/-- Tasks that are ready or wait for a point in time, in milliseconds. -/
structure Agenda (τ : Type) where
  now : Nat
  ready : List τ
  /-- The tasks that wait, each with its point in time. -/
  waiting : List (Nat × τ)

namespace Agenda

variable {τ : Type}

/-- The agenda without tasks, at the start of time. -/
def empty : Agenda τ := ⟨0, [], []⟩

instance : Inhabited (Agenda τ) := ⟨empty⟩

/-- The agenda with one more ready task, behind the others. -/
def add (agenda : Agenda τ) (task : τ) : Agenda τ :=
  { agenda with ready := agenda.ready ++ [task] }

/-- The agenda with a task put off for a while. -/
def putOff (agenda : Agenda τ) (delay : Nat) (task : τ) : Agenda τ :=
  { agenda with waiting := agenda.waiting ++ [(agenda.now + delay, task)] }

/-- The next point in time that a task waits for. -/
def next? (agenda : Agenda τ) : Option Nat := (agenda.waiting.map (·.1)).min?

/-- The agenda at a later point in time, where what is due has become ready. -/
def moveTo (agenda : Agenda τ) (time : Nat) : Agenda τ where
  now := time
  ready := agenda.ready ++ (agenda.waiting.filter (·.1 ≤ time)).map (·.2)
  waiting := agenda.waiting.filter (time < ·.1)

end Agenda

section Exhaust

variable {σ : Type} (step? : σ → Option σ)

/-- What a state becomes when steps are taken from it for as long as there is a next one.
Steps without end lead nowhere. -/
def exhaust (state : σ) : σ :=
  match step? state with
  | none => state
  | some after => by
      apply exhaust
      exact after
partial_fixpoint

variable {step?} {state after : σ}

/-- A state without a next step stays as it is. -/
theorem exhaust_of_none (last : step? state = none) : exhaust step? state = state := by
  rw [exhaust, last]

/-- A step can be taken beforehand. -/
theorem exhaust_of_some (next : step? state = some after) :
    exhaust step? state = exhaust step? after := by
  rw [exhaust, next]

end Exhaust

/-- A state with an agenda, and what doing one of its tasks makes of it. -/
class Busy (σ : Type) (τ : outParam Type) where
  agenda : σ → Agenda τ
  setAgenda : σ → Agenda τ → σ
  /-- The state after a task that has been taken from the agenda. -/
  perform : σ → τ → σ

namespace Busy

variable {σ τ : Type} [Busy σ τ]

/-- The state with a change made to its agenda. -/
def plan (state : σ) (change : Agenda τ → Agenda τ) : σ :=
  setAgenda state (change (agenda state))

/-- The time of a state. -/
def now (state : σ) : Nat := (agenda state).now

/-- The state after its first ready task, if there is one. -/
def step? (state : σ) : Option σ :=
  match (agenda state).ready with
  | [] => none
  | task :: rest => some (perform (setAgenda state { agenda state with ready := rest }) task)

/-- The state once no task is ready. Tasks that make one another ready without end are
never done. -/
def settle (state : σ) : σ := exhaust step? state

/-- The state once what is due first has become ready in turn, if that is no later than a
point in time. -/
def advance? (time : Nat) (state : σ) : Option σ :=
  match (agenda state).next? with
  | none => none
  | some due => if due ≤ time then some (settle (plan state (·.moveTo due))) else none

/-- The state at a point in time, after all that was due before it or at it became
ready in turn. -/
def reach (time : Nat) (state : σ) : σ := plan (exhaust (advance? time) state) (·.moveTo time)

/-- The state after a while. -/
def sleep (state : σ) (delay : Nat) : σ := settle (reach (now state + delay) state)

/-- A state without ready tasks is settled. -/
theorem settle_of_idle (state : σ) (idle : (agenda state).ready = []) : settle state = state := by
  have last : step? state = none := by simp only [step?, idle]
  exact exhaust_of_none last

/-- Settling does the first ready task and goes on from there. -/
theorem settle_of_ready (state : σ) {task : τ} {rest : List τ}
    (ready : (agenda state).ready = task :: rest) :
    settle state = settle (perform (setAgenda state { agenda state with ready := rest }) task) := by
  apply exhaust_of_some
  simp only [step?, ready]

/-- Time moves at once to a point before which nothing is due. -/
theorem reach_of_late (time : Nat) (state : σ)
    (late : ∀ due ∈ (agenda state).next?, time < due) :
    reach time state = plan state (·.moveTo time) := by
  have last : advance? time state = none := by
    rw [advance?]
    split
    · rfl
    · next due next => rw [if_neg (Nat.not_le.mpr (late due next))]
  rw [reach, exhaust_of_none last]

/-- Time stops first at the next point at which something is due. -/
theorem reach_of_due {time due : Nat} (state : σ) (next : (agenda state).next? = some due)
    (early : due ≤ time) :
    reach time state = reach time (settle (plan state (·.moveTo due))) := by
  have step : advance? time state = some (settle (plan state (·.moveTo due))) := by
    simp only [advance?, next, if_pos early]
  rw [reach, exhaust_of_some step, reach]

end Busy

end Flowdesk
