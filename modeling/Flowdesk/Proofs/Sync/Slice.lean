import Flowdesk.Proofs.Sync.Move
import Mathlib.Data.List.Basic

/-!
# Slices of a timeline

A slice of a timeline keeps the course of one document and some runs, which go by other
numbers in it. It is a timeline itself. What is done about the document or about one of
these runs is done in the same way in the slice, and what is done about another document
or another run leaves no trace in it.
-/

namespace Flowdesk

namespace Data

/-- Whether no two keys go by one name. -/
def Distinguishes {κ ι : Type} (name? : κ → Option ι) : Prop :=
  ∀ first second name, name? first = some name → name? second = some name → first = second

section Distinguishes

variable {κ ι : Type} {name? : κ → Option ι} {key : κ} {name : ι}

/-- The name of a key is the name of no other one. -/
theorem Distinguishes.eq_some_iff (distinct : Distinguishes name?) (named : name? key = some name)
    (other : κ) : name? other = some name ↔ other = key :=
  ⟨fun same => distinct other key name same named, fun same => same ▸ named⟩

/-- A key is the one of a name as soon as its own name, if it has one, is that name. -/
theorem Distinguishes.any_eq [DecidableEq κ] [DecidableEq ι] (distinct : Distinguishes name?)
    (named : name? key = some name) (other : κ) :
    (name? other).any (· = name) = decide (other = key) := by
  rw [Bool.eq_iff_iff, decide_eq_true_iff, ← distinct.eq_some_iff named other]
  simp [Option.any_eq_true]

end Distinguishes

namespace Table

variable {κ ι α : Type} [DecidableEq κ]

/-- The part of a table whose keys have a name, under their names. -/
def pick (table : Table κ α) (name? : κ → Option ι) : Table ι α :=
  ⟨table.entries.filterMap fun entry => (name? entry.1).map (·, entry.2)⟩

section Pick

variable (table : Table κ α) {name? other? : κ → Option ι} {key : κ} {name : ι}

/-- What is picked depends on the names of the keys that have a value. -/
theorem pick_congr (same : ∀ key, (table.get? key).isSome = true → name? key = other? key) :
    table.pick name? = table.pick other? := by
  unfold pick
  congr 1
  refine List.filterMap_congr fun entry member => ?_
  rw [same entry.1 ((table.mem_keys_iff entry.1).mp (List.mem_map_of_mem member))]

/-- A key without a name leaves no trace when it is erased. -/
theorem pick_erase_of_unnamed (unnamed : name? key = none) :
    (table.erase key).pick name? = table.pick name? := by
  unfold pick erase
  rw [List.filterMap_filter]
  congr 2
  funext entry
  by_cases here : entry.1 = key
  · simp [here, unnamed]
  · simp [here]

/-- Nor does one that is written. -/
theorem pick_put_of_unnamed (unnamed : name? key = none) (value : α) :
    (table.put key value).pick name? = table.pick name? := by
  rw [← pick_erase_of_unnamed table unnamed]
  simp [pick, put, unnamed]

variable [DecidableEq ι]

/-- A key that is erased is erased under its name. No other key goes by that name, so nothing more
is lost. -/
theorem pick_erase (distinct : Distinguishes name?) (named : name? key = some name) :
    (table.erase key).pick name? = (table.pick name?).erase name := by
  unfold pick erase
  rw [List.filterMap_filter, List.filter_filterMap]
  congr 2
  funext entry
  have itself := distinct.eq_some_iff named entry.1
  cases given : name? entry.1 with
  | none => simp
  | some other =>
    have same : other = name ↔ entry.1 = key := by rw [← itself, given, Option.some.injEq]
    by_cases here : entry.1 = key
    · simp [here, same.mpr here, Option.filter]
    · simp [here, same.not.mpr here, Option.filter]

/-- A value that is written is written under the name of its key. -/
theorem pick_put (distinct : Distinguishes name?) (named : name? key = some name) (value : α) :
    (table.put key value).pick name? = (table.pick name?).put name value := by
  unfold put
  rw [← pick_erase table distinct named]
  simp [pick, named]

/-- A value is found under the name of its key. -/
theorem get?_pick (distinct : Distinguishes name?) (named : name? key = some name) :
    (table.pick name?).get? name = table.get? key := by
  have itself (entry : κ × α) : ((name? entry.1).map (·, entry.2)).any (·.1 = name) =
      decide (entry.1 = key) := by
    rw [Option.any_map]
    exact distinct.any_eq named entry.1
  unfold pick get?
  simp only [List.find?_filterMap, itself]
  cases first : table.entries.find? (·.1 = key) with
  | none => rfl
  | some entry =>
    have here : entry.1 = key := by simpa using List.find?_some first
    simp [here, named]

end Pick

end Table

end Data

open Data

namespace Agenda

variable {τ ρ : Type}

/-- The tasks of an agenda that have a name, under their names. -/
def pick (agenda : Agenda τ) (name? : τ → Option ρ) : Agenda ρ where
  now := agenda.now
  ready := agenda.ready.filterMap name?
  waiting := agenda.waiting.filterMap fun waits => (name? waits.2).map (waits.1, ·)

section Pick

variable (agenda : Agenda τ) {name? other? : τ → Option ρ} {task : τ} {name : ρ}

/-- What is picked depends on the names of the tasks that are planned. -/
theorem pick_congr (same : ∀ task ∈ agenda.planned, name? task = other? task) :
    agenda.pick name? = agenda.pick other? := by
  unfold pick
  congr 1
  · exact List.filterMap_congr fun task ready => same task (List.mem_append_left _ ready)
  · refine List.filterMap_congr fun waits waiting => ?_
    rw [same waits.2 (List.mem_append_right _ (List.mem_map_of_mem waiting))]

/-- A task with a name is added under it. -/
theorem pick_add (named : name? task = some name) :
    (agenda.add task).pick name? = (agenda.pick name?).add name := by
  simp [pick, add, named]

/-- A task without one leaves no trace. -/
theorem pick_add_of_unnamed (unnamed : name? task = none) :
    (agenda.add task).pick name? = agenda.pick name? := by
  simp [pick, add, unnamed]

/-- A task with a name is put off under it, to the same point in time. -/
theorem pick_putOff (named : name? task = some name) (delay : Nat) :
    (agenda.putOff delay task).pick name? = (agenda.pick name?).putOff delay name := by
  simp [pick, putOff, named]

/-- A task without one is not waited for. -/
theorem pick_putOff_of_unnamed (unnamed : name? task = none) (delay : Nat) :
    (agenda.putOff delay task).pick name? = agenda.pick name? := by
  simp [pick, putOff, unnamed]

/-- Time goes by for what is picked as for all: a task is due by its point in time, which is
picked with it. Induction on what waits. -/
theorem pick_moveTo (time : Nat) :
    (agenda.moveTo time).pick name? = (agenda.pick name?).moveTo time := by
  have due (waiting : List (Nat × τ)) :
      ((waiting.filter (·.1 ≤ time)).map (·.2)).filterMap name? =
        ((waiting.filterMap fun waits => (name? waits.2).map (waits.1, ·)).filter
          (·.1 ≤ time)).map (·.2) := by
    induction waiting with
    | nil => rfl
    | cons first rest inductionHypothesis =>
      by_cases due : first.1 ≤ time <;> cases given : name? first.2 <;>
        simp [due, given, inductionHypothesis]
  have later (waiting : List (Nat × τ)) :
      (waiting.filter (time < ·.1)).filterMap (fun waits => (name? waits.2).map (waits.1, ·)) =
        (waiting.filterMap fun waits => (name? waits.2).map (waits.1, ·)).filter (time < ·.1) := by
    induction waiting with
    | nil => rfl
    | cons first rest inductionHypothesis =>
      by_cases later : time < first.1 <;> cases given : name? first.2 <;>
        simp [later, given, inductionHypothesis]
  simp only [pick, moveTo, List.filterMap_append, due, later]

end Pick

end Agenda

namespace Sync

namespace Coordinator

/-- The coordinator with the course of one document only. -/
def slice (coordinator : Coordinator) (uri : String) : Coordinator :=
  { coordinator with courses := coordinator.courses.pick (Option.guard (· = uri)) }

section Slice

variable (coordinator : Coordinator) {uri about : String}

/-- One key only is let through, so no two keys go by one name. -/
theorem distinguishes_guard : Distinguishes (Option.guard fun key : String => key = uri) := by
  intro first second name one other
  obtain ⟨rfl, _⟩ := Option.guard_eq_some_iff.mp one
  obtain ⟨rfl, _⟩ := Option.guard_eq_some_iff.mp other
  rfl

/-- The document of the slice is let through. -/
theorem guard_here : Option.guard (fun key : String => decide (key = uri)) uri = some uri := by
  simp

/-- Other documents are not. -/
theorem guard_elsewhere (elsewhere : about ≠ uri) :
    Option.guard (fun key : String => decide (key = uri)) about = none := by
  simp [elsewhere]

/-- Whether the document has a course is the same in the slice. -/
theorem get?_slice : (coordinator.slice uri).courses.get? uri = coordinator.courses.get? uri :=
  Table.get?_pick coordinator.courses distinguishes_guard guard_here

/-- The course of the document is the same. -/
theorem course_slice : (coordinator.slice uri).course uri = coordinator.course uri := by
  rw [Coordinator.course, Coordinator.course, Table.getD, Table.getD, get?_slice]

/-- The course of the document is set in the slice. -/
theorem slice_setCourse (course : Course) :
    (coordinator.setCourse uri course).slice uri =
      (coordinator.slice uri).setCourse uri course := by
  unfold setCourse slice
  rw [Table.pick_put coordinator.courses distinguishes_guard guard_here]

/-- The course of another document is not seen in it. -/
theorem slice_setCourse_elsewhere (elsewhere : about ≠ uri) (course : Course) :
    (coordinator.setCourse about course).slice uri = coordinator.slice uri := by
  unfold setCourse slice
  rw [Table.pick_put_of_unnamed coordinator.courses (guard_elsewhere elsewhere)]

/-- A client takes part in the syncs of the document. -/
theorem slice_connect (client : String) (method : Method) :
    (coordinator.connect uri client method).slice uri =
      (coordinator.slice uri).connect uri client method := by
  rw [connect, connect, slice_setCourse, course_slice]

/-- A client leaves the document. Its course may go with it, in the slice as in the whole. -/
theorem slice_disconnect (client : String) :
    (coordinator.disconnect uri client).slice uri =
      (coordinator.slice uri).disconnect uri client := by
  unfold disconnect
  rw [get?_slice]
  split
  · rfl
  · simp only
    split
    · unfold slice
      rw [Table.pick_erase coordinator.courses distinguishes_guard guard_here]
    · rw [slice_setCourse]

/-- A client that leaves another document takes nothing out of the slice. -/
theorem slice_disconnect_elsewhere (elsewhere : about ≠ uri) (client : String) :
    (coordinator.disconnect about client).slice uri = coordinator.slice uri := by
  unfold disconnect
  split
  · rfl
  · simp only
    split
    · unfold slice
      rw [Table.pick_erase_of_unnamed coordinator.courses (guard_elsewhere elsewhere)]
    · rw [slice_setCourse_elsewhere coordinator elsewhere]

/-- A revision is judged in the slice as in the whole. -/
theorem slice_observe (revision : Revision) :
    (coordinator.slice uri).observe uri revision =
      ((coordinator.observe uri revision).1, (coordinator.observe uri revision).2.slice uri) := by
  simp only [observe, course_slice, slice_setCourse]

/-- The conflicts of the document are set aside. -/
theorem slice_beginResolution (accepted : Option Revision) :
    (coordinator.beginResolution uri accepted).slice uri =
      (coordinator.slice uri).beginResolution uri accepted := by
  rw [beginResolution, beginResolution, slice_setCourse, course_slice]

/-- A sync of the document may be begun in the slice exactly when it may be in the whole. -/
theorem slice_start? :
    (coordinator.slice uri).start? uri = (coordinator.start? uri).map (·.slice uri) := by
  unfold start?
  rw [course_slice, Option.map_map]
  congr 1
  funext course
  exact (slice_setCourse coordinator course).symm

/-- A sync of the document ends, whatever came of it. -/
theorem slice_finish (direction : Direction) (ending : Ending) (now : UInt64) :
    (coordinator.finish uri direction ending now).slice uri =
      (coordinator.slice uri).finish uri direction ending now := by
  rw [finish, finish, slice_setCourse, course_slice]

/-- A sync of the document is given up. -/
theorem slice_release :
    (coordinator.release uri).slice uri = (coordinator.slice uri).release uri := by
  unfold release Table.alter
  rw [get?_slice]
  split
  · exact slice_setCourse coordinator _
  · rfl

/-- A sync of another document is given up without a trace. -/
theorem slice_release_elsewhere (elsewhere : about ≠ uri) :
    (coordinator.release about).slice uri = coordinator.slice uri := by
  unfold release Table.alter
  split
  · exact slice_setCourse_elsewhere coordinator elsewhere _
  · rfl

end Slice

end Coordinator

/-- A task about the run of another number. -/
def RunTask.under : RunTask → Nat → RunTask
  | .start _, number => .start number
  | .attempt _, number => .attempt number
  | .judge _ outcome, number => .judge number outcome

/-- The task is about the run of that number. -/
theorem RunTask.number_under (task : RunTask) (number : Nat) :
    (task.under number).number = number := by
  cases task <;> rfl

/-- A task about a run that has a turn, under its turn. -/
def RunTask.renumber? (turn? : Nat → Option Nat) (task : RunTask) : Option RunTask :=
  (turn? task.number).map task.under

namespace Timeline

/-- The course of one document and the runs that have a turn, under their turns. -/
def slice (timeline : Timeline) (uri : String) (turn? : Nat → Option Nat) (next : Nat) :
    Timeline where
  coordinator := timeline.coordinator.slice uri
  agenda := timeline.agenda.pick (RunTask.renumber? turn?)
  running := timeline.running.pick turn?
  reports := timeline.reports.pick turn?
  next := next

/-- The timeline after the first ready task about a run was carried out, if there is one. -/
def workOn (timeline : Timeline) (number : Nat) : Timeline :=
  (timeline.agenda.ready.findIdx? (·.number = number)).elim timeline timeline.workAt

/-- The first ready task about a run is found, and taken out of its place. -/
theorem workOn_eq (timeline : Timeline) (number : Nat) :
    timeline.workOn number =
      match timeline.agenda.ready.find? (·.number = number) with
      | none => timeline
      | some task => Timeline.perform { timeline with agenda := { timeline.agenda with
          ready := timeline.agenda.ready.eraseP (·.number = number) } } task := by
  rw [List.find?_eq_bind_findIdx?_getElem?, List.eraseP_eq_eraseIdx, workOn]
  cases timeline.agenda.ready.findIdx? (·.number = number) with
  | none => rfl
  | some position =>
    simp only [Option.elim_some, Option.bind_some, workAt]
    cases timeline.agenda.ready[position]? <;> rfl

section Slice

variable {timeline : Timeline} {uri : String} {turn? : Nat → Option Nat} {next number turn : Nat}

/-- A slice depends on the turns of the runs that the timeline knows of. -/
theorem slice_congr {other? : Nat → Option Nat}
    (tasks : ∀ task ∈ timeline.tasks, turn? task.number = other? task.number)
    (runs : ∀ number run, timeline.run? number = some run → turn? number = other? number)
    (reports : ∀ number report, timeline.reports.get? number = some report →
      turn? number = other? number) :
    timeline.slice uri turn? next = timeline.slice uri other? next := by
  unfold slice
  congr 1
  · refine Agenda.pick_congr _ fun task planned => ?_
    rw [RunTask.renumber?, RunTask.renumber?, tasks task planned]
  · refine Table.pick_congr _ fun number goes => ?_
    obtain ⟨run, goes⟩ := Option.isSome_iff_exists.mp goes
    exact runs number run goes
  · refine Table.pick_congr _ fun number found => ?_
    obtain ⟨report, found⟩ := Option.isSome_iff_exists.mp found
    exact reports number report found

/-- What changes the coordinator changes its slice alike. -/
theorem slice_coordinate (change : Coordinator → Coordinator)
    (same : (change timeline.coordinator).slice uri = change (timeline.coordinator.slice uri)) :
    (timeline.coordinate change).slice uri turn? next =
      (timeline.slice uri turn? next).coordinate change := by
  unfold coordinate slice
  rw [same]

/-- What changes nothing of the slice of the coordinator changes nothing of that of the timeline. -/
theorem slice_coordinate_elsewhere (change : Coordinator → Coordinator)
    (same : (change timeline.coordinator).slice uri = timeline.coordinator.slice uri) :
    (timeline.coordinate change).slice uri turn? next = timeline.slice uri turn? next := by
  unfold coordinate slice
  rw [same]

/-- What is to be done later about a run with a turn is to be done about its turn. -/
theorem slice_later {task : RunTask} (named : turn? task.number = some turn) (delay : Nat) :
    (timeline.later delay task).slice uri turn? next =
      (timeline.slice uri turn? next).later delay (task.under turn) := by
  have written : task.renumber? turn? = some (task.under turn) := by
    rw [RunTask.renumber?, named, Option.map_some]
  unfold later slice
  split
  · rw [Agenda.pick_add _ written]
  · rw [Agenda.pick_putOff _ written]

/-- What is to be done later about another run is not planned in the slice. -/
theorem slice_later_elsewhere {task : RunTask} (unnamed : turn? task.number = none) (delay : Nat) :
    (timeline.later delay task).slice uri turn? next = timeline.slice uri turn? next := by
  have unwritten : task.renumber? turn? = none := by
    rw [RunTask.renumber?, unnamed, Option.map_none]
  unfold later slice
  split
  · rw [Agenda.pick_add_of_unnamed _ unwritten]
  · rw [Agenda.pick_putOff_of_unnamed _ unwritten]

/-- A run that is asked for goes by the next turn. -/
theorem slice_ask (distinct : Distinguishes turn?) (direction : Direction)
    (attempts : List (Attempt Nat)) (last : turn? timeline.next = some next) :
    (timeline.ask uri direction attempts).2.slice uri turn? (next + 1) =
      ((timeline.slice uri turn? next).ask uri direction attempts).2 := by
  have added : RunTask.renumber? turn? (.start timeline.next) = some (.start next) := by
    rw [RunTask.renumber?, RunTask.number, last]
    rfl
  unfold ask slice
  rw [Agenda.pick_add _ added, Table.pick_put _ distinct last]
  rfl

/-- A run that has no turn is asked for without a trace. -/
theorem slice_ask_elsewhere (unnamed : turn? timeline.next = none) (about : String)
    (direction : Direction) (attempts : List (Attempt Nat)) :
    (timeline.ask about direction attempts).2.slice uri turn? next =
      timeline.slice uri turn? next := by
  have unwritten : RunTask.renumber? turn? (.start timeline.next) = none := by
    rw [RunTask.renumber?, RunTask.number, unnamed, Option.map_none]
  unfold ask slice
  rw [Agenda.pick_add_of_unnamed _ unwritten, Table.pick_put_of_unnamed _ unnamed]

section Here

variable (distinct : Distinguishes turn?) (named : turn? number = some turn)
include distinct named

/-- The run of a turn is the one of the number. -/
theorem run?_slice : (timeline.slice uri turn? next).run? turn = timeline.run? number :=
  Table.get?_pick timeline.running distinct named

/-- A run that is over leaves its report under its turn. -/
theorem slice_conclude (run : Run) (actions : Nat) :
    (timeline.conclude number run actions).slice uri turn? next =
      (timeline.slice uri turn? next).conclude turn run actions := by
  unfold conclude slice
  rw [Table.pick_erase _ distinct named, Table.pick_put _ distinct named]
  rfl

/-- A run that goes on is written in the slice under its turn. -/
theorem slice_running (run : Run) :
    { timeline with running := timeline.running.put number run }.slice uri turn? next =
      { timeline.slice uri turn? next with
        running := (timeline.slice uri turn? next).running.put turn run } := by
  unfold slice
  rw [Table.pick_put _ distinct named]

/-- A run that makes its next attempt makes it under its turn. -/
theorem slice_begin (run : Run) :
    (timeline.begin number run).slice uri turn? next =
      (timeline.slice uri turn? next).begin turn run := by
  refine (slice_later named _).trans ?_
  rw [slice_running distinct named]
  rfl

/-- A run that ends is told of to the coordinator and reported. -/
theorem slice_finish {run : Run} (here : run.uri = uri) (ending : Ending) (actions : Nat) :
    (timeline.finish number run ending actions).slice uri turn? next =
      (timeline.slice uri turn? next).finish turn run ending actions := by
  subst here
  unfold finish
  rw [slice_conclude distinct named]
  unfold coordinate slice
  rw [Coordinator.slice_finish]
  rfl

/-- What becomes of a run after an attempt is judged by the same settings. -/
theorem slice_proceed {run : Run} (here : run.uri = uri) (outcome : Except Failure Nat) :
    (timeline.proceed number run outcome).slice uri turn? next =
      (timeline.slice uri turn? next).proceed turn run outcome := by
  have settings : (timeline.slice uri turn? next).coordinator.settings =
      timeline.coordinator.settings := rfl
  unfold proceed
  rw [settings]
  cases judge timeline.coordinator.settings.maxRetries run.repeated outcome with
  | succeed | wait | giveUp => exact slice_finish distinct named here _ _
  | again delay =>
    refine (slice_later named delay).trans ?_
    rw [slice_running distinct named]
    rfl

/-- A task is carried out in the slice as in the whole.

Proof: its run is found in the slice under the turn exactly if it is found in the whole under
the number. It is about the document of the slice, so the coordinator starts, ends or refuses
it alike, and what is left of it is written under the turn. -/
theorem slice_perform {task : RunTask} (its : task.number = number)
    (about : ∀ run, timeline.run? number = some run → run.uri = uri) :
    (timeline.perform task).slice uri turn? next =
      (timeline.slice uri turn? next).perform (task.under turn) := by
  subst its
  have same : (timeline.slice uri turn? next).run? (task.under turn).number =
      timeline.run? task.number := by
    rw [RunTask.number_under]
    exact run?_slice distinct named
  cases goes : timeline.run? task.number with
  | none => rw [perform_of_gone goes, perform_of_gone (same.trans goes)]
  | some run =>
    obtain rfl := about run goes
    have going := same.trans goes
    cases task with
    | attempt number =>
      simp only [run?, RunTask.number, RunTask.under] at goes going
      simp only [perform, RunTask.under, goes, going]
      exact slice_begin distinct named run
    | judge number outcome =>
      simp only [run?, RunTask.number, RunTask.under] at goes going
      simp only [perform, RunTask.under, goes, going]
      exact slice_proceed distinct named rfl outcome
    | start number =>
      have started : (timeline.slice run.uri turn? next).coordinator.start? run.uri =
          (timeline.coordinator.start? run.uri).map (·.slice run.uri) :=
        timeline.coordinator.slice_start?
      simp only [run?, RunTask.number, RunTask.under] at goes going
      simp only [perform, RunTask.under, goes, going, started]
      cases timeline.coordinator.start? run.uri with
      | none => exact slice_conclude distinct named run 0
      | some coordinator => exact slice_begin distinct named run

/-- A run that is given up frees its document if it held it. -/
theorem slice_abandon (about : ∀ run, timeline.run? number = some run → run.uri = uri) :
    (timeline.abandon number).slice uri turn? next =
      (timeline.slice uri turn? next).abandon turn := by
  have same : (timeline.slice uri turn? next).running.get? turn = timeline.running.get? number :=
    run?_slice distinct named
  unfold abandon
  rw [same]
  split
  · rfl
  · next run goes =>
    obtain rfl := about run goes
    have erased := Table.pick_erase timeline.running distinct named
    simp only
    split
    · unfold slice
      rw [erased]
    · unfold coordinate slice
      rw [erased, Coordinator.slice_release]

/-- A task is about a run in the slice if it is about that run in the whole. -/
theorem renumber?_any (task : RunTask) :
    (task.renumber? turn?).any (·.number = turn) = decide (task.number = number) := by
  rw [RunTask.renumber?, Option.any_map, ← distinct.any_eq named task.number]
  simp only [RunTask.number_under]

/-- The first ready task about a run is the first one in the slice. -/
theorem find?_renumber (ready : List RunTask) :
    (ready.filterMap (RunTask.renumber? turn?)).find? (·.number = turn) =
      (ready.find? (·.number = number)).map (·.under turn) := by
  simp only [List.find?_filterMap, renumber?_any distinct named]
  cases first : ready.find? (·.number = number) with
  | none => rfl
  | some task =>
    have its : task.number = number := by simpa using List.find?_some first
    simp [RunTask.renumber?, its, named]

/-- What is ready without it is the same as well. -/
theorem eraseP_renumber (ready : List RunTask) :
    (ready.filterMap (RunTask.renumber? turn?)).eraseP (·.number = turn) =
      (ready.eraseP (·.number = number)).filterMap (RunTask.renumber? turn?) := by
  rw [List.eraseP_filterMap]
  congr 2
  funext task
  rw [← renumber?_any distinct named task]
  cases task.renumber? turn? <;> rfl

/-- The first ready task about a run is carried out in the slice as in the whole.

Proof: no other run goes by the same turn, so the first task about the turn stands for the
first one about the number, and taking it out of its place leaves the same tasks ready. -/
theorem slice_workOn (about : ∀ run, timeline.run? number = some run → run.uri = uri) :
    (timeline.workOn number).slice uri turn? next =
      (timeline.slice uri turn? next).workOn turn := by
  have found := find?_renumber distinct named timeline.agenda.ready
  have erased := eraseP_renumber distinct named timeline.agenda.ready
  rw [workOn_eq, workOn_eq]
  simp only [slice, Agenda.pick] at found erased ⊢
  rw [found, erased]
  cases first : timeline.agenda.ready.find? (·.number = number) with
  | none => rfl
  | some task =>
    have its : task.number = number := by simpa using List.find?_some first
    exact slice_perform distinct named its about

end Here

section Elsewhere

variable (unnamed : turn? number = none)
include unnamed

/-- A run without a turn that goes on is not written in the slice. -/
theorem slice_running_elsewhere (run : Run) :
    { timeline with running := timeline.running.put number run }.slice uri turn? next =
      timeline.slice uri turn? next := by
  unfold slice
  rw [Table.pick_put_of_unnamed _ unnamed]

/-- Nor is its report. -/
theorem slice_conclude_elsewhere (run : Run) (actions : Nat) :
    (timeline.conclude number run actions).slice uri turn? next =
      timeline.slice uri turn? next := by
  unfold conclude slice
  rw [Table.pick_erase_of_unnamed _ unnamed, Table.pick_put_of_unnamed _ unnamed]

/-- Nor is its next attempt planned. -/
theorem slice_begin_elsewhere (run : Run) :
    (timeline.begin number run).slice uri turn? next = timeline.slice uri turn? next :=
  (slice_later_elsewhere unnamed _).trans (slice_running_elsewhere unnamed _)

/-- A run of another document that is given up frees another document. -/
theorem slice_abandon_elsewhere
    (about : ∀ run, timeline.run? number = some run → run.uri ≠ uri) :
    (timeline.abandon number).slice uri turn? next = timeline.slice uri turn? next := by
  unfold abandon
  split
  · rfl
  · next run goes =>
    have erased := Table.pick_erase_of_unnamed timeline.running unnamed
    simp only
    split
    · unfold slice
      rw [erased]
    · unfold coordinate slice
      rw [erased, Coordinator.slice_release_elsewhere _ (about run goes)]

end Elsewhere

/-- A turn of a run of another document leaves no trace.

Proof: by cases on the turn. What it writes of the run and of its report has no name in the
slice, and what it tells the coordinator is about the course of the other document. -/
theorem Turn.slice_elsewhere {after : Timeline} {run : Run} {task : RunTask}
    (worked : Turn timeline run task after) (unnamed : turn? task.number = none)
    (elsewhere : run.uri ≠ uri) :
    after.slice uri turn? next = timeline.slice uri turn? next := by
  cases worked with
  | refused => exact slice_conclude_elsewhere unnamed run 0
  | resumed => exact slice_begin_elsewhere unnamed run
  | repeated number outcome delay =>
    have unnamed : turn? number = none := unnamed
    exact (slice_later_elsewhere unnamed delay).trans (slice_running_elsewhere unnamed _)
  | started number coordinator free =>
    obtain ⟨course, _, rfl⟩ := Option.map_eq_some_iff.mp free
    refine (slice_begin_elsewhere unnamed run).trans ?_
    unfold slice
    rw [Coordinator.slice_setCourse_elsewhere _ elsewhere]
  | ended number outcome ending actions =>
    refine (slice_conclude_elsewhere unnamed run actions).trans ?_
    unfold coordinate slice Coordinator.finish
    rw [Coordinator.slice_setCourse_elsewhere _ elsewhere]

/-- So does any task about one. -/
theorem slice_perform_elsewhere {task : RunTask} (unnamed : turn? task.number = none)
    (about : ∀ run, timeline.run? task.number = some run → run.uri ≠ uri) :
    (timeline.perform task).slice uri turn? next = timeline.slice uri turn? next := by
  cases goes : timeline.run? task.number with
  | none => rw [perform_of_gone goes]
  | some run => exact (perform_turn goes).slice_elsewhere unnamed (about run goes)

/-- A ready task about a run without a turn is not found in the slice. -/
theorem eraseP_renumber_of_unnamed (unnamed : turn? number = none) (ready : List RunTask) :
    (ready.eraseP (·.number = number)).filterMap (RunTask.renumber? turn?) =
      ready.filterMap (RunTask.renumber? turn?) := by
  induction ready with
  | nil => rfl
  | cons task ready inductionHypothesis =>
    by_cases its : task.number = number
    · simp [RunTask.renumber?, its, unnamed]
    · simp [its, List.filterMap_cons, inductionHypothesis]

/-- A ready task about a run of another document is carried out without a trace. It is not among
those that are picked, so the ready ones in the slice are the same without it. -/
theorem slice_workOn_elsewhere (unnamed : turn? number = none)
    (about : ∀ run, timeline.run? number = some run → run.uri ≠ uri) :
    (timeline.workOn number).slice uri turn? next = timeline.slice uri turn? next := by
  rw [workOn_eq]
  cases first : timeline.agenda.ready.find? (·.number = number) with
  | none => rfl
  | some task =>
    have its : task.number = number := by simpa using List.find?_some first
    subst its
    refine (slice_perform_elsewhere unnamed ?_).trans ?_
    · exact about
    · simp only [slice, Agenda.pick, eraseP_renumber_of_unnamed unnamed]

/-- Time goes by in the slice as in the whole. -/
theorem slice_waitFor (time : Nat) :
    (timeline.waitFor time).slice uri turn? next =
      (timeline.slice uri turn? next).waitFor time := by
  have now : (timeline.slice uri turn? next).agenda.now = timeline.agenda.now := rfl
  unfold waitFor
  rw [now]
  split
  · unfold slice
    rw [Agenda.pick_moveTo]
  · rfl

end Slice

end Timeline

end Sync

end Flowdesk
