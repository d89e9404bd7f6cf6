import Flowdesk.Proofs.Sync.Departure
import Mathlib.Data.List.Nodup

/-!
# Tasks at their time

A task is due at a point in time if it waits for it, or has become ready at it. As long as
time does not go on past that point and nobody gives the run of the task up, any move leaves
the task due and the run as it is, but for the one that carries the task out; and that one
comes exactly at its time. The tasks of other runs may be carried out late, and in any order.
-/

namespace Flowdesk

open Data

namespace Agenda

variable {τ : Type} {agenda : Agenda τ} {time : Nat} {task : τ}

/-- Whether a task is to be done at a point in time that is not over. -/
inductive Due (agenda : Agenda τ) (time : Nat) (task : τ) : Prop where
  | ready (listed : task ∈ agenda.ready) (now : agenda.now = time)
  | waiting (listed : (time, task) ∈ agenda.waiting) (later : agenda.now < time)

/-- What is due at a time is not overdue. -/
theorem Due.now_le (due : agenda.Due time task) : agenda.now ≤ time := by
  cases due with
  | ready _ now => exact Nat.le_of_eq now
  | waiting _ later => exact Nat.le_of_lt later

/-- What is due is on the agenda, ready or waiting. -/
theorem Due.planned (due : agenda.Due time task) : task ∈ agenda.planned := by
  cases due with
  | ready listed _ => exact List.mem_append_left _ listed
  | waiting listed _ => exact List.mem_append_right _ (List.mem_map_of_mem listed)

/-- A task that is added is due now. -/
theorem due_add (agenda : Agenda τ) (task : τ) : (agenda.add task).Due agenda.now task :=
  .ready (List.mem_append_right _ List.mem_cons_self) rfl

/-- A task that is put off is due when the delay is over. -/
theorem due_putOff (agenda : Agenda τ) (task : τ) {delay : Nat} (positive : 0 < delay) :
    (agenda.putOff delay task).Due (agenda.now + delay) task :=
  .waiting (List.mem_append_right _ List.mem_cons_self) (Nat.lt_add_of_pos_right positive)

/-- It is due at the same time still when another one is added. -/
theorem Due.add (due : agenda.Due time task) (other : τ) : (agenda.add other).Due time task := by
  cases due with
  | ready listed now => exact .ready (List.mem_append_left _ listed) now
  | waiting listed later => exact .waiting listed later

/-- Or put off. -/
theorem Due.putOff (due : agenda.Due time task) (delay : Nat) (other : τ) :
    (agenda.putOff delay other).Due time task := by
  cases due with
  | ready listed now => exact .ready listed now
  | waiting listed later => exact .waiting (List.mem_append_left _ listed) later

/-- Time that does not go on past the point leaves the task due at it. -/
theorem Due.moveTo (due : agenda.Due time task) {now : Nat} (onward : agenda.now ≤ now)
    (early : now ≤ time) : (agenda.moveTo now).Due time task := by
  cases due with
  | ready listed present =>
    exact .ready (List.mem_append_left _ listed) (Nat.le_antisymm early (present ▸ onward))
  | waiting listed later =>
    rcases Nat.eq_or_lt_of_le early with rfl | early
    · have arrived : (now, task) ∈ agenda.waiting.filter (·.1 ≤ now) :=
        List.mem_filter.mpr ⟨listed, decide_eq_true (Nat.le_refl now)⟩
      exact .ready (List.mem_append_right _ (List.mem_map_of_mem arrived)) rfl
    · exact .waiting (List.mem_filter.mpr ⟨listed, decide_eq_true early⟩) early

end Agenda

namespace Sync

namespace Timeline

section Settings

variable {before after : Timeline}

/-- A turn of a run leaves the settings and the time as they are. -/
theorem Turn.settings {run : Run} {task : RunTask} (turn : Turn before run task after) :
    after.coordinator.settings = before.coordinator.settings := by
  cases turn with
  | refused | resumed | repeated | ended => rfl
  | started number coordinator free =>
    obtain ⟨course, _, rfl⟩ := Option.map_eq_some_iff.mp free
    rfl

/-- No move changes the settings. -/
theorem settings_act (timeline : Timeline) (move : Move) :
    (timeline.act move).coordinator.settings = timeline.coordinator.settings := by
  cases move with
  | connect | observe | beginResolution | ask => rfl
  | disconnect uri client =>
    change (timeline.coordinator.disconnect uri client).settings = _
    unfold Coordinator.disconnect
    split
    · rfl
    · simp only
      split <;> rfl
  | abandon number =>
    simp only [act]
    exact abandon_branches (fun _ => rfl) (fun _ _ _ => rfl) fun _ _ _ => rfl
  | work position =>
    simp only [act]
    exact workAt_branches (fun _ => rfl) (fun _ _ _ => rfl) fun _ _ _ _ _ turn => turn.settings
  | wait time =>
    simp only [act]
    exact waitFor_branches rfl fun _ => rfl

/-- The settings stay what they were. -/
theorem settings_after (timeline : Timeline) (moves : List Move) :
    (timeline.after moves).coordinator.settings = timeline.coordinator.settings := by
  induction moves generalizing timeline with
  | nil => rfl
  | cons first moves inductionHypothesis =>
    exact (inductionHypothesis _).trans (settings_act timeline first)

end Settings

/-- What is known of the runs that go on: when they were asked for, and that nothing was
repeated as long as nothing was begun. -/
structure Dated (timeline : Timeline) : Prop where
  asked : ∀ number run, timeline.run? number = some run → run.asked ≤ timeline.agenda.now
  unrepeated : ∀ number run, timeline.run? number = some run → run.made = 0 → run.repeated = 0

section Dated

variable {before after : Timeline}

/-- There are no runs at the beginning. -/
theorem dated_create (settings : Settings) : (create settings).Dated where
  asked := fun _ _ found => nomatch found
  unrepeated := fun _ _ found => nomatch found

/-- A move that writes no run, but may end some, lets no date come to be wrong. -/
theorem Dated.drop (dated : before.Dated) (onward : before.agenda.now ≤ after.agenda.now)
    (runs : ∀ number run, after.run? number = some run → before.run? number = some run) :
    after.Dated where
  asked := fun number run goes =>
    Nat.le_trans (dated.asked number run (runs number run goes)) onward
  unrepeated := fun number run goes => dated.unrepeated number run (runs number run goes)

/-- So does one that writes down a run as it should be. -/
theorem Dated.put (dated : before.Dated) (onward : before.agenda.now ≤ after.agenda.now)
    {number : Nat} {run : Run} (runs : after.running = before.running.put number run)
    (asked : run.asked ≤ after.agenda.now) (unrepeated : run.made = 0 → run.repeated = 0) :
    after.Dated where
  asked := by
    intro other found goes
    rw [run?, runs, Table.get?_put] at goes
    split at goes
    · exact Option.some.inj goes ▸ asked
    · exact Nat.le_trans (dated.asked other found goes) onward
  unrepeated := by
    intro other found goes
    rw [run?, runs, Table.get?_put] at goes
    split at goes
    · exact Option.some.inj goes ▸ unrepeated
    · exact dated.unrepeated other found goes

/-- The time of a timeline with one more task. -/
theorem now_later (timeline : Timeline) (delay : Nat) (task : RunTask) :
    (timeline.later delay task).agenda.now = timeline.agenda.now := by
  unfold later
  split <;> rfl

/-- A run that is over need not be dated any more. -/
theorem Dated.erase (dated : before.Dated) (onward : before.agenda.now ≤ after.agenda.now)
    {number : Nat} (runs : after.running = before.running.erase number) : after.Dated := by
  refine dated.drop onward fun other run goes => ?_
  rw [run?, runs, Table.get?_erase] at goes
  split at goes
  · cases goes
  · exact goes

/-- A turn of a run keeps the dates. -/
theorem Turn.dated {run : Run} {task : RunTask} (turn : Turn before run task after)
    (goes : before.run? task.number = some run) (suits : task.Suits run) (dated : before.Dated) :
    after.Dated := by
  have asked := dated.asked task.number run goes
  have begun (run : Run) : run.made + 1 = 0 → run.repeated = 0 := fun none => nomatch none
  cases turn with
  | refused | ended => exact dated.erase (Nat.le_refl _) rfl
  | started | resumed =>
    exact dated.put (Nat.le_of_eq (now_later _ _ _).symm) rfl
      (Nat.le_trans asked (Nat.le_of_eq (now_later _ _ _).symm)) (begun run)
  | repeated =>
    refine dated.put (Nat.le_of_eq (now_later _ _ _).symm) rfl
      (Nat.le_trans asked (Nat.le_of_eq (now_later _ _ _).symm)) ?_
    exact fun unbegun => absurd unbegun (Nat.ne_of_gt suits)

theorem dated_act {timeline : Timeline} (planned : timeline.Planned) (dated : timeline.Dated)
    (move : Move) : (timeline.act move).Dated := by
  cases move with
  | connect | disconnect | observe | beginResolution =>
    exact dated.drop (Nat.le_refl _) fun _ _ found => found
  | ask uri direction attempts =>
    exact dated.put (Nat.le_refl _) rfl (Nat.le_refl _) fun _ => rfl
  | abandon number =>
    exact abandon_branches (motive := Dated) (fun _ => dated)
      (fun _ _ _ => dated.erase (Nat.le_refl _) rfl) fun _ _ _ => dated.erase (Nat.le_refl _) rfl
  | work position =>
    have taken : (timeline.without position).Dated :=
      dated.drop (Nat.le_refl _) fun _ _ found => found
    refine workAt_branches (motive := Dated) (fun _ => dated) (fun _ _ _ => taken) ?turned
    case turned =>
      intro task run after ready goes turn
      have suits := planned.suited task (planned.take ready).2.2 run goes
      exact turn.dated goes suits taken
  | wait time =>
    exact waitFor_branches (motive := Dated) dated
      fun onward => dated.drop onward fun _ _ found => found

theorem dated_after {timeline : Timeline} (planned : timeline.Planned) (dated : timeline.Dated)
    (moves : List Move) : (timeline.after moves).Dated := by
  induction moves generalizing timeline with
  | nil => exact dated
  | cons first moves inductionHypothesis =>
    exact inductionHypothesis (planned_act planned first) (dated_act planned dated first)

end Dated

/-- Whether a move neglects a run: time goes on past a point at which something is due about
it, or nobody waits for it any longer. -/
def Neglects (number : Nat) (timeline : Timeline) : Move → Prop
  | .wait time => ∃ due task, task.number = number ∧ timeline.agenda.Due due task ∧ due < time
  | .abandon other => other = number
  | _ => False

/-- A wait neglects a run exactly if one of its tasks is ready while time goes on, or is due before
the wait ends. -/
theorem neglects_wait_iff {number time : Nat} {timeline : Timeline} :
    Neglects number timeline (.wait time) ↔
      (∃ task ∈ timeline.agenda.ready, task.number = number ∧ timeline.agenda.now < time) ∨
      ∃ waits ∈ timeline.agenda.waiting,
        waits.2.number = number ∧ timeline.agenda.now < waits.1 ∧ waits.1 < time := by
  constructor
  · rintro ⟨due, task, about, duly, past⟩
    cases duly with
    | ready listed now => exact .inl ⟨task, listed, about, now ▸ past⟩
    | waiting listed later => exact .inr ⟨(due, task), listed, about, later, past⟩
  · rintro (⟨task, listed, about, past⟩ | ⟨⟨due, task⟩, listed, about, later, past⟩)
    · exact ⟨_, task, about, .ready listed rfl, past⟩
    · exact ⟨due, task, about, .waiting listed later, past⟩

instance decidableNeglects (number : Nat) (timeline : Timeline) :
    ∀ move, Decidable (Neglects number timeline move)
  | .wait _ => decidable_of_iff' _ neglects_wait_iff
  | .abandon _ => inferInstanceAs (Decidable (_ = _))
  | .connect .. | .disconnect .. | .observe .. | .beginResolution .. | .ask .. | .work _ =>
    inferInstanceAs (Decidable False)

instance decidableOccurs (event : Timeline → Move → Prop)
    [∀ timeline move, Decidable (event timeline move)] :
    ∀ timeline moves, Decidable (Occurs event timeline moves)
  | _, [] => inferInstanceAs (Decidable False)
  | timeline, move :: moves =>
    have := decidableOccurs event (timeline.act move) moves
    inferInstanceAs (Decidable (_ ∨ _))

theorem after_append (timeline : Timeline) (moves later : List Move) :
    timeline.after (moves ++ later) = (timeline.after moves).after later := List.foldl_append

theorem after_snoc (timeline : Timeline) (moves : List Move) (move : Move) :
    timeline.after (moves ++ [move]) = (timeline.after moves).act move := List.foldl_append

/-- What happens in the course of moves happens in the first or in the others. -/
theorem occurs_append {event : Timeline → Move → Prop} (timeline : Timeline)
    (moves later : List Move) :
    Occurs event timeline (moves ++ later) ↔
      Occurs event timeline moves ∨ Occurs event (timeline.after moves) later := by
  induction moves generalizing timeline with
  | nil => exact (iff_of_eq (false_or _)).symm
  | cons first moves inductionHypothesis =>
    exact (or_congr Iff.rfl (inductionHypothesis (timeline.act first))).trans or_assoc.symm

section Due

variable {timeline : Timeline} {number time : Nat} {task : RunTask}

/-- What is to be done after a delay is due then, also if there is no delay. -/
theorem due_later (timeline : Timeline) (delay : Nat) (task : RunTask) :
    (timeline.later delay task).agenda.Due (timeline.agenda.now + delay) task := by
  unfold later
  by_cases atOnce : delay = 0
  · simp only [atOnce, if_true]
    exact Agenda.due_add _ task
  · simp only [atOnce, if_false]
    exact Agenda.due_putOff _ task (Nat.pos_of_ne_zero atOnce)

theorem Due.later (due : timeline.agenda.Due time task) (delay : Nat) (other : RunTask) :
    (timeline.later delay other).agenda.Due time task := by
  unfold Timeline.later
  split
  · exact due.add other
  · exact due.putOff delay other

/-- A turn of a run takes no task away. -/
theorem Turn.due {before after : Timeline} {run : Run} {other : RunTask}
    (turn : Turn before run other after) (due : before.agenda.Due time task) :
    after.agenda.Due time task := by
  cases turn with
  | refused | ended => exact due
  | started | resumed | repeated =>
    have written (running : Table Nat Run) (coordinator : Coordinator) :
        { before with running, coordinator }.agenda.Due time task := due
    exact Due.later (written _ _) _ _

/-- Another task that is carried out leaves a task due. -/
theorem Due.without (due : timeline.agenda.Due time task) {position : Nat} {other : RunTask}
    (ready : timeline.agenda.ready[position]? = some other) (different : task ≠ other) :
    (timeline.without position).agenda.Due time task := by
  cases due with
  | waiting listed later => exact .waiting listed later
  | ready listed now =>
    obtain ⟨inside, rfl⟩ := List.getElem?_eq_some_iff.mp ready
    have split := (List.getElem_cons_eraseIdx_perm inside).symm.subset listed
    exact .ready ((List.mem_cons.mp split).resolve_left different) now

/-- For one run only one task is due, and only at one point in time. -/
theorem due_unique (planned : timeline.Planned) {other : RunTask} {earlier : Nat}
    (due : timeline.agenda.Due time task) (duly : timeline.agenda.Due earlier other)
    (same : other.number = task.number) : other = task ∧ earlier = time := by
  have distinct := planned.distinct
  simp only [tasks, Agenda.planned, List.map_append, List.map_map, List.nodup_append] at distinct
  obtain ⟨ready, waiting, apart⟩ := distinct
  have mixed {one another : RunTask} {later : Nat} (listed : one ∈ timeline.agenda.ready)
      (waits : (later, another) ∈ timeline.agenda.waiting) : one.number ≠ another.number :=
    apart _ (List.mem_map_of_mem listed) _ (List.mem_map_of_mem waits)
  cases due with
  | ready listed now =>
    cases duly with
    | ready again present =>
      exact ⟨List.inj_on_of_nodup_map ready again listed same, present.symm.trans now⟩
    | waiting waits _ => exact absurd same.symm (mixed listed waits)
  | waiting listed _ =>
    cases duly with
    | ready again _ => exact absurd same (mixed again listed)
    | waiting waits _ =>
      have alike := List.inj_on_of_nodup_map waiting waits listed same
      exact ⟨congrArg Prod.snd alike, congrArg Prod.fst alike⟩

/-- A move that does not neglect a run carries its due task out, and then it does so at its
time; any other one leaves the run as it is, with the task still due. -/
theorem done_or_due (planned : timeline.Planned) {run : Run}
    (goes : timeline.run? task.number = some run) (due : timeline.agenda.Due time task)
    {move : Move} (heeded : ¬Neglects task.number timeline move) :
    (∃ position, move = .work position ∧ timeline.agenda.ready[position]? = some task ∧
      timeline.agenda.now = time) ∨
    (timeline.act move).run? task.number = some run ∧
      (timeline.act move).agenda.Due time task := by
  cases move with
  | connect | disconnect | observe | beginResolution => exact .inr ⟨goes, due⟩
  | ask uri direction attempts =>
    have other : timeline.next ≠ task.number :=
      Nat.ne_of_gt (planned.known task.number run goes)
    refine .inr ⟨?_, due.add _⟩
    exact (Table.get?_put _ timeline.next task.number _).trans ((if_neg other).trans goes)
  | abandon other =>
    have erased : (timeline.running.erase other).get? task.number = some run :=
      (Table.get?_erase timeline.running other task.number).trans ((if_neg heeded).trans goes)
    refine .inr ?_
    simp only [act]
    exact abandon_branches (fun _ => ⟨goes, due⟩) (fun _ _ _ => ⟨erased, due⟩)
      fun _ _ _ => ⟨erased, due⟩
  | wait later =>
    refine .inr ?_
    simp only [act]
    refine waitFor_branches ⟨goes, due⟩ fun onward => ?_
    have early : later ≤ time := Nat.not_lt.mp fun past => heeded ⟨time, task, rfl, due, past⟩
    exact ⟨goes, due.moveTo onward early⟩
  | work position =>
    -- the task at the position is the due one, or a task about another run
    have settled : ∀ other, timeline.agenda.ready[position]? = some other →
        (∃ position', Move.work position = .work position' ∧
          timeline.agenda.ready[position']? = some task ∧ timeline.agenda.now = time) ∨
        other.number ≠ task.number ∧ (timeline.without position).agenda.Due time task := by
      intro other ready
      by_cases same : other.number = task.number
      · have duly : timeline.agenda.Due timeline.agenda.now other :=
          .ready (List.mem_of_getElem? ready) rfl
        obtain ⟨rfl, now⟩ := due_unique planned due duly same
        exact .inl ⟨position, rfl, ready, now⟩
      · exact .inr ⟨same,
          Due.without due ready fun alike => same (congrArg RunTask.number alike.symm)⟩
    simp only [act]
    refine workAt_branches ?same ?gone ?turned
    case same => exact fun _ => .inr ⟨goes, due⟩
    case gone =>
      exact fun other ready _ => (settled other ready).imp_right fun apart => ⟨goes, apart.2⟩
    case turned =>
      intro other worked after ready _ turn
      refine (settled other ready).imp_right ?_
      rintro ⟨apart, stays⟩
      exact ⟨(turn.elsewhere apart).2.1.trans goes, turn.due stays⟩

/-- What is due about a run can be waited for without neglecting the run, and then is ready. -/
theorem exists_ready (planned : timeline.Planned) (due : timeline.agenda.Due time task) :
    ∃ moves : List Move, ¬Occurs (Neglects task.number) timeline moves ∧
      (timeline.after moves).running = timeline.running ∧
      (timeline.after moves).agenda.now = time ∧
      ∃ position : Nat, (timeline.after moves).agenda.ready[position]? = some task := by
  cases due with
  | ready listed now => exact ⟨[], id, rfl, now, List.getElem?_of_mem listed⟩
  | waiting listed later =>
    have heeded : ¬Neglects task.number timeline (.wait time) := by
      rintro ⟨earlier, other, same, duly, past⟩
      obtain ⟨_, rfl⟩ := due_unique planned (.waiting listed later) duly same
      exact Nat.lt_irrefl earlier past
    have moved : timeline.after [.wait time] =
        { timeline with agenda := timeline.agenda.moveTo time } := if_pos (Nat.le_of_lt later)
    have arrived : (time, task) ∈ timeline.agenda.waiting.filter (·.1 ≤ time) :=
      List.mem_filter.mpr ⟨listed, decide_eq_true (Nat.le_refl time)⟩
    refine ⟨[.wait time], fun occurs => occurs.elim heeded id, ?_⟩
    rw [moved]
    refine ⟨rfl, rfl, ?_⟩
    exact List.getElem?_of_mem (List.mem_append_right _ (List.mem_map_of_mem arrived))

end Due

end Timeline

end Sync

end Flowdesk
