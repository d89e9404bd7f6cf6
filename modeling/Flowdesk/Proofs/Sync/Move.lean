import Flowdesk.Proofs.Sync.Course
import Flowdesk.Sync.Timeline
import Mathlib.Data.List.Perm.Basic
import Mathlib.Data.List.Perm.Subperm

/-!
# Moves of a timeline

A move is one thing that may happen to a timeline from outside: something is asked of
its coordinator, a run is asked for or abandoned, a ready task is carried out, or time
goes by. Ready tasks are carried out in any order, so a list of moves is an interleaving
of all the runs that are asked for in it, with whatever else happens meanwhile.

A task about a run that goes on comes to one of five turns. For every run that goes on
at most one task is planned, and it is the one that the run is up to: its start as long
as no attempt was begun, and an attempt or the judgement of one after that.
-/

namespace Flowdesk

open Data

namespace Agenda

variable {τ : Type}

/-- The tasks of an agenda, ready or not. -/
def planned (agenda : Agenda τ) : List τ := agenda.ready ++ agenda.waiting.map (·.2)

theorem planned_add (agenda : Agenda τ) (task : τ) :
    (agenda.add task).planned.Perm (task :: agenda.planned) := by
  unfold planned add
  rw [List.append_assoc]
  exact List.perm_middle

theorem planned_putOff (agenda : Agenda τ) (delay : Nat) (task : τ) :
    (agenda.putOff delay task).planned.Perm (task :: agenda.planned) := by
  unfold planned putOff
  rw [List.map_append, ← List.append_assoc]
  exact List.perm_append_singleton task _

/-- Time that goes by changes nothing about what is planned. -/
theorem planned_moveTo (agenda : Agenda τ) (time : Nat) :
    (agenda.moveTo time).planned.Perm agenda.planned := by
  unfold planned moveTo
  rw [List.append_assoc, ← List.map_append]
  have later : agenda.waiting.filter (time < ·.1) =
      agenda.waiting.filter (fun waits => !decide (waits.1 ≤ time)) := by
    refine List.filter_congr ?_
    intro waits _
    simp only [← Nat.not_le, decide_not]
  rw [later]
  exact ((List.filter_append_perm _ _).map _).append_left agenda.ready

end Agenda

namespace Sync

/-- The number of the run that a task is about. -/
def RunTask.number : RunTask → Nat
  | .start number | .attempt number | .judge number _ => number

/-- Whether a task is one that a run is up to. -/
def RunTask.Suits : RunTask → Run → Prop
  | .start _, run => run.made = 0
  | .attempt _, run | .judge .., run => 0 < run.made

/-- How a run ends after an attempt, unless another attempt follows. -/
def Verdict.ending? {α : Type} : Verdict α → Option Ending
  | .succeed _ => some .carried
  | .wait => some .deferred
  | .giveUp => some .failed
  | .again _ => none

namespace Timeline

/-- What may happen to a timeline. -/
inductive Move where
  | connect (uri client : String) (method : Method)
  | disconnect (uri client : String)
  | observe (uri : String) (revision : Revision)
  | beginResolution (uri : String) (accepted : Option Revision)
  | ask (uri : String) (direction : Direction) (attempts : List (Attempt Nat))
  /-- Nobody waits for a run any longer. -/
  | abandon (number : Nat)
  /-- The ready task at a position is carried out. -/
  | work (position : Nat)
  /-- Time goes on to a point that is not before now. -/
  | wait (time : Nat)

/-- The timeline without a ready task. -/
def without (timeline : Timeline) (position : Nat) : Timeline :=
  { timeline with agenda := { timeline.agenda with
      ready := timeline.agenda.ready.eraseIdx position } }

/-- The timeline after the ready task at a position was carried out. -/
def workAt (timeline : Timeline) (position : Nat) : Timeline :=
  match timeline.agenda.ready[position]? with
  | some task => (timeline.without position).perform task
  | none => timeline

/-- The timeline at a later time. -/
def waitFor (timeline : Timeline) (time : Nat) : Timeline :=
  if timeline.agenda.now ≤ time then { timeline with agenda := timeline.agenda.moveTo time }
  else timeline

/-- The timeline after a move. -/
def act (timeline : Timeline) : Move → Timeline
  | .connect uri client method => timeline.coordinate (·.connect uri client method)
  | .disconnect uri client => timeline.coordinate (·.disconnect uri client)
  | .observe uri revision => timeline.coordinate fun coordinator =>
      (coordinator.observe uri revision).2
  | .beginResolution uri accepted => timeline.coordinate (·.beginResolution uri accepted)
  | .ask uri direction attempts => (timeline.ask uri direction attempts).2
  | .abandon number => timeline.abandon number
  | .work position => timeline.workAt position
  | .wait time => timeline.waitFor time

/-- The timeline after moves. -/
def after (timeline : Timeline) (moves : List Move) : Timeline := moves.foldl act timeline

/-- The tasks of a timeline, ready or not. -/
def tasks (timeline : Timeline) : List RunTask := timeline.agenda.planned

/-- The run of a number as long as it goes on. -/
def run? (timeline : Timeline) (number : Nat) : Option Run := timeline.running.get? number

/-- What a task about a run that goes on comes to. -/
inductive Turn (timeline : Timeline) (run : Run) : RunTask → Timeline → Prop where
  /-- Another run of the document is under way. -/
  | refused (number : Nat) (busy : timeline.coordinator.start? run.uri = none) :
      Turn timeline run (.start number) (timeline.conclude number run 0)
  | started (number : Nat) (coordinator : Coordinator)
      (free : timeline.coordinator.start? run.uri = some coordinator) :
      Turn timeline run (.start number) ({ timeline with coordinator }.begin number run)
  | resumed (number : Nat) :
      Turn timeline run (.attempt number) (timeline.begin number run)
  | ended (number : Nat) (outcome : Except Failure Nat) (ending : Ending) (actions : Nat)
      (last : (judge timeline.coordinator.settings.maxRetries run.repeated outcome).ending? =
        some ending) :
      Turn timeline run (.judge number outcome) (timeline.finish number run ending actions)
  | repeated (number : Nat) (outcome : Except Failure Nat) (delay : Nat)
      (again : judge timeline.coordinator.settings.maxRetries run.repeated outcome =
        .again delay) :
      Turn timeline run (.judge number outcome)
        ({ timeline with running :=
            timeline.running.put number { run with repeated := run.repeated + 1 } }.later
          delay (.attempt number))

/-- Nothing comes of a task about a run that does not go on. -/
theorem perform_of_gone {timeline : Timeline} {task : RunTask}
    (gone : timeline.run? task.number = none) : timeline.perform task = timeline := by
  cases task
  all_goals
    simp only [run?, RunTask.number] at gone
    simp only [perform, gone]

/-- A task about a run that goes on comes to a turn. -/
theorem perform_turn {timeline : Timeline} {task : RunTask} {run : Run}
    (goes : timeline.run? task.number = some run) :
    Turn timeline run task (timeline.perform task) := by
  cases task with
  | start number =>
    change timeline.running.get? number = some run at goes
    simp only [perform, goes]
    split
    · next busy => exact .refused number busy
    · next coordinator free => exact .started number coordinator free
  | attempt number =>
    change timeline.running.get? number = some run at goes
    simp only [perform, goes]
    exact .resumed number
  | judge number outcome =>
    change timeline.running.get? number = some run at goes
    simp only [perform, goes, proceed]
    split
    · next actions verdict => exact .ended number outcome _ actions (verdict ▸ rfl)
    · next verdict => exact .ended number outcome _ 0 (verdict ▸ rfl)
    · next verdict => exact .ended number outcome _ 0 (verdict ▸ rfl)
    · next delay again => exact .repeated number outcome delay again

/-- So does a ready task that is carried out. -/
theorem workAt_turn {timeline : Timeline} {position : Nat} {task : RunTask} {run : Run}
    (ready : timeline.agenda.ready[position]? = some task)
    (goes : timeline.run? task.number = some run) :
    Turn (timeline.without position) run task (timeline.workAt position) := by
  rw [workAt, ready]
  exact perform_turn goes

section Branches

variable {motive : Timeline → Prop} {timeline : Timeline} {number : Nat}

/-- A ready task about a run that goes on comes to a turn. Any other one is taken off the
agenda, and that is all. -/
@[elab_as_elim] theorem workAt_branches {position : Nat}
    (same : timeline.agenda.ready[position]? = none → motive timeline)
    (gone : ∀ task, timeline.agenda.ready[position]? = some task →
      timeline.run? task.number = none → motive (timeline.without position))
    (turned : ∀ task run after, timeline.agenda.ready[position]? = some task →
      timeline.run? task.number = some run → Turn (timeline.without position) run task after →
      motive after) :
    motive (timeline.workAt position) := by
  cases ready : timeline.agenda.ready[position]? with
  | none =>
    simp only [workAt, ready]
    exact same ready
  | some task =>
    cases goes : timeline.run? task.number with
    | none =>
      have still : (timeline.without position).run? task.number = none := goes
      simp only [workAt, ready, perform_of_gone still]
      exact gone task ready goes
    | some run => exact turned task run _ ready goes (workAt_turn ready goes)

/-- A run that is abandoned goes on no longer, and its document is released if an attempt
was begun. -/
@[elab_as_elim] theorem abandon_branches
    (gone : timeline.run? number = none → motive timeline)
    (unbegun : ∀ run, timeline.run? number = some run → run.made = 0 →
      motive { timeline with running := timeline.running.erase number })
    (released : ∀ run, timeline.run? number = some run → run.made ≠ 0 →
      motive (({ timeline with running := timeline.running.erase number } : Timeline).coordinate
        (·.release run.uri))) :
    motive (timeline.abandon number) := by
  unfold abandon
  split
  · next ended => exact gone ended
  · next run goes =>
    simp only
    split
    · next none => exact unbegun run goes none
    · next begun => exact released run goes begun

@[elab_as_elim] theorem waitFor_branches {time : Nat} (same : motive timeline)
    (moved : timeline.agenda.now ≤ time →
      motive { timeline with agenda := timeline.agenda.moveTo time }) :
    motive (timeline.waitFor time) := by
  unfold waitFor
  split
  · next onward => exact moved onward
  · exact same

end Branches

theorem tasks_later (timeline : Timeline) (delay : Nat) (task : RunTask) :
    (timeline.later delay task).tasks.Perm (task :: timeline.tasks) := by
  unfold tasks later
  by_cases atOnce : delay = 0
  · simp only [atOnce, if_true]
    exact timeline.agenda.planned_add task
  · simp only [atOnce, if_false]
    exact timeline.agenda.planned_putOff delay task

theorem tasks_without {timeline : Timeline} {position : Nat} {task : RunTask}
    (ready : timeline.agenda.ready[position]? = some task) :
    timeline.tasks.Perm (task :: (timeline.without position).tasks) := by
  obtain ⟨inside, rfl⟩ := List.getElem?_eq_some_iff.mp ready
  exact (List.getElem_cons_eraseIdx_perm inside).symm.append_right _

/-- What is planned for the runs that go on. -/
structure Planned (timeline : Timeline) : Prop where
  distinct : (timeline.tasks.map RunTask.number).Nodup
  numbered : ∀ task ∈ timeline.tasks, task.number < timeline.next
  known : ∀ number run, timeline.run? number = some run → number < timeline.next
  suited : ∀ task ∈ timeline.tasks, ∀ run, timeline.run? task.number = some run → task.Suits run

theorem planned_create (settings : Settings) : (create settings).Planned where
  distinct := List.nodup_nil
  numbered := fun _ member => nomatch member
  known := fun _ _ found => nomatch found
  suited := fun _ member => nomatch member

section Planned

variable {before after : Timeline}

/-- Plans stay in order when some are dropped and some runs end. -/
theorem Planned.drop (planned : before.Planned) (tasks : after.tasks.Subperm before.tasks)
    (runs : ∀ number run, after.run? number = some run → before.run? number = some run)
    (next : after.next = before.next) : after.Planned where
  distinct := by
    obtain ⟨kept, perm, sublist⟩ := tasks
    exact (perm.map RunTask.number).nodup_iff.mp ((sublist.map _).nodup planned.distinct)
  numbered := fun task member => next ▸ planned.numbered task (tasks.subset member)
  known := fun number run found => next ▸ planned.known number run (runs number run found)
  suited := fun task member run found =>
    planned.suited task (tasks.subset member) run (runs task.number run found)

/-- Plans stay in order when a run without a task is given one that suits it. -/
theorem Planned.add (planned : before.Planned) (task : RunTask) {run : Run}
    (unplanned : task.number ∉ before.tasks.map RunTask.number)
    (tasks : after.tasks.Perm (task :: before.tasks)) (suits : task.Suits run)
    (runs : after.running = before.running.put task.number run)
    (next : before.next ≤ after.next) (below : task.number < after.next) : after.Planned where
  distinct := by
    rw [(tasks.map RunTask.number).nodup_iff, List.map_cons, List.nodup_cons]
    exact ⟨unplanned, planned.distinct⟩
  numbered := by
    intro other member
    rcases List.mem_cons.mp (tasks.subset member) with rfl | member
    · exact below
    · exact Nat.lt_of_lt_of_le (planned.numbered other member) next
  known := by
    intro number other found
    rw [run?, runs, Table.get?_put] at found
    split at found
    · next same => exact same ▸ below
    · exact Nat.lt_of_lt_of_le (planned.known number other found) next
  suited := by
    intro other member otherRun found
    rw [run?, runs, Table.get?_put] at found
    rcases List.mem_cons.mp (tasks.subset member) with rfl | member
    · rw [if_pos rfl] at found
      exact Option.some.inj found ▸ suits
    · have different : task.number ≠ other.number := fun same =>
        unplanned (same ▸ List.mem_map_of_mem member)
      rw [if_neg different] at found
      exact planned.suited other member otherRun found

/-- Once a task is taken up nothing else is planned for its run. -/
theorem Planned.take (planned : before.Planned) {position : Nat} {task : RunTask}
    (ready : before.agenda.ready[position]? = some task) :
    (before.without position).Planned ∧
      task.number ∉ (before.without position).tasks.map RunTask.number ∧ task ∈ before.tasks := by
  have split := tasks_without ready
  have distinct := ((split.map RunTask.number).nodup_iff).mp planned.distinct
  refine ⟨planned.drop ?_ (fun _ _ found => found) rfl, (List.nodup_cons.mp distinct).1, ?_⟩
  · exact (List.sublist_cons_self task _).subperm.trans split.symm.subperm
  · exact split.symm.subset List.mem_cons_self

/-- Plans stay in order when a run ends. -/
theorem Planned.finish (planned : before.Planned) {number : Nat}
    (runs : after.running = before.running.erase number) (tasks : after.tasks = before.tasks)
    (next : after.next = before.next) : after.Planned := by
  refine planned.drop (tasks ▸ List.Subperm.refl _) ?_ next
  intro other run goes
  rw [run?, runs, Table.get?_erase] at goes
  split at goes
  · cases goes
  · exact goes

/-- Plans stay in order when a run without a task begins an attempt. -/
theorem Planned.begin (planned : before.Planned) {number : Nat} {run : Run}
    (unplanned : number ∉ before.tasks.map RunTask.number)
    (goes : before.run? number = some run) : (before.begin number run).Planned := by
  let attempt := run.attempt.within run.uri before.coordinator.settings.timeout
  have suits : (RunTask.judge number attempt.outcome).Suits { run with made := run.made + 1 } :=
    Nat.succ_pos run.made
  exact planned.add (.judge number attempt.outcome) unplanned (tasks_later _ attempt.duration _)
    suits rfl (Nat.le_refl _) (planned.known number run goes)

/-- A turn of the task that was planned for a run leaves the plans in order. -/
theorem Planned.turn (planned : before.Planned) {task : RunTask} {run : Run}
    (unplanned : task.number ∉ before.tasks.map RunTask.number)
    (goes : before.run? task.number = some run) (suits : task.Suits run)
    (turn : Turn before run task after) : after.Planned := by
  cases turn with
  | refused number busy => exact planned.finish rfl rfl rfl
  | ended number outcome ending actions last => exact planned.finish rfl rfl rfl
  | started number coordinator free =>
    have coordinated : { before with coordinator }.Planned :=
      planned.drop (.refl _) (fun _ _ found => found) rfl
    exact coordinated.begin unplanned goes
  | resumed number => exact planned.begin unplanned goes
  | repeated number outcome delay again =>
    have still : (RunTask.attempt number).Suits { run with repeated := run.repeated + 1 } := suits
    exact planned.add (.attempt number) unplanned (tasks_later _ delay _) still rfl
      (Nat.le_refl _) (planned.known number run goes)

/-- Every move leaves the plans in order. -/
theorem planned_act {timeline : Timeline} (planned : timeline.Planned) (move : Move) :
    (timeline.act move).Planned := by
  cases move with
  | connect | disconnect | observe | beginResolution =>
    exact planned.drop (.refl _) (fun _ _ found => found) rfl
  | ask uri direction attempts =>
    have unbegun : (RunTask.start timeline.next).Suits
        ⟨uri, direction, attempts, timeline.agenda.now, 0, 0⟩ := rfl
    refine planned.add (.start timeline.next) ?_ (timeline.agenda.planned_add _) unbegun rfl
      (Nat.le_succ _) (Nat.lt_succ_self _)
    intro listed
    obtain ⟨task, member, same⟩ := List.mem_map.mp listed
    exact absurd (planned.numbered task member) (same ▸ Nat.lt_irrefl _)
  | abandon number =>
    exact abandon_branches (motive := Planned) (fun _ => planned)
      (fun _ _ _ => planned.finish rfl rfl rfl) fun _ _ _ => planned.finish rfl rfl rfl
  | work position =>
    refine workAt_branches (motive := Planned) ?same ?gone ?turned
    case same => exact fun _ => planned
    case gone => exact fun task ready _ => (planned.take ready).1
    case turned =>
      intro task run after ready goes turn
      obtain ⟨taken, unplanned, member⟩ := planned.take ready
      exact taken.turn unplanned goes (planned.suited task member run goes) turn
  | wait time =>
    exact waitFor_branches (motive := Planned) planned fun _ =>
      planned.drop (timeline.agenda.planned_moveTo time).subperm (fun _ _ found => found) rfl

end Planned

/-- After any moves the plans are in order. -/
theorem planned_after {timeline : Timeline} (planned : timeline.Planned) (moves : List Move) :
    (timeline.after moves).Planned := by
  induction moves generalizing timeline with
  | nil => exact planned
  | cons first moves inductionHypothesis => exact inductionHypothesis (planned_act planned first)

/-- Whether the run of a number was asked for and goes on no longer. -/
def Over (timeline : Timeline) (number : Nat) : Prop :=
  number < timeline.next ∧ timeline.run? number = none

/-- A turn of one run has no part in another one. -/
theorem Turn.elsewhere {before after : Timeline} {run : Run} {task : RunTask}
    (turn : Turn before run task after) {number : Nat} (other : task.number ≠ number) :
    after.next = before.next ∧ after.run? number = before.run? number ∧
      after.reports.get? number = before.reports.get? number := by
  have erased := Table.get?_erase before.running task.number number
  have reported (report : Report) := Table.get?_put before.reports task.number number report
  have written (run : Run) := Table.get?_put before.running task.number number run
  simp only [if_neg other] at erased reported written
  cases turn with
  | refused => exact ⟨rfl, erased, reported _⟩
  | started => exact ⟨rfl, written _, rfl⟩
  | resumed => exact ⟨rfl, written _, rfl⟩
  | ended => exact ⟨rfl, erased, reported _⟩
  | repeated => exact ⟨rfl, written _, rfl⟩

/-- A run that is over stays so, and so does what was reported of it. -/
theorem over_act {timeline : Timeline} {number : Nat} (ended : timeline.Over number) (move : Move) :
    (timeline.act move).Over number ∧
      (timeline.act move).reports.get? number = timeline.reports.get? number := by
  obtain ⟨known, gone⟩ := ended
  cases move with
  | connect | disconnect | observe | beginResolution => exact ⟨⟨known, gone⟩, rfl⟩
  | ask uri direction attempts =>
    have other : timeline.next ≠ number := Nat.ne_of_gt known
    refine ⟨⟨Nat.lt_succ_of_lt known, ?_⟩, rfl⟩
    simp only [act, ask, run?, Table.get?_put, if_neg other]
    exact gone
  | abandon another =>
    have erased : (timeline.running.erase another).get? number = none := by
      rw [Table.get?_erase]
      split
      · rfl
      · exact gone
    simp only [act]
    exact abandon_branches (fun _ => ⟨⟨known, gone⟩, rfl⟩) (fun _ _ _ => ⟨⟨known, erased⟩, rfl⟩)
      fun _ _ _ => ⟨⟨known, erased⟩, rfl⟩
  | work position =>
    simp only [act]
    refine workAt_branches ?same ?gone ?turned
    case same => exact fun _ => ⟨⟨known, gone⟩, rfl⟩
    case gone => exact fun _ _ _ => ⟨⟨known, gone⟩, rfl⟩
    case turned =>
      intro task run after _ goes turn
      have other : task.number ≠ number := by
        rintro rfl
        exact Option.some_ne_none run (goes.symm.trans gone)
      obtain ⟨next, same, reports⟩ := turn.elsewhere other
      exact ⟨⟨next ▸ known, same.trans gone⟩, reports⟩
  | wait time =>
    simp only [act]
    exact waitFor_branches ⟨⟨known, gone⟩, rfl⟩ fun _ => ⟨⟨known, gone⟩, rfl⟩

theorem over_after {timeline : Timeline} {number : Nat} (ended : timeline.Over number)
    (moves : List Move) :
    (timeline.after moves).Over number ∧
      (timeline.after moves).reports.get? number = timeline.reports.get? number := by
  induction moves generalizing timeline with
  | nil => exact ⟨ended, rfl⟩
  | cons first moves inductionHypothesis =>
    obtain ⟨still, same⟩ := over_act ended first
    obtain ⟨stays, kept⟩ := inductionHypothesis still
    exact ⟨stays, kept.trans same⟩

end Timeline

end Sync

end Flowdesk
