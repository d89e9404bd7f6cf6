import Flowdesk.Proofs.Sync.Due
import Flowdesk.Proofs.Sync.Pending

/-!
# Attempts and their repetition

The attempts that a run would make are told ahead, each with the time it takes and what it
comes to. How the run goes follows from them alone: one that takes longer than the limit is
cut off there and counts as a failure that may pass, the attempts go on as long as they fail
in such a way and may be repeated, and the run ends as the last of them does.

While a run goes on it is in one of two stages: an attempt is under way, or the delay after
one is. To each stage belong one task and one point in time at which it is due, which is the
sum of all the times and delays so far. The law of a run says that whatever happens
meanwhile, the run is at its stage until the task is carried out, and then at the next one.
-/

namespace Flowdesk.Sync

open Data

/-- The sum of the first values of a function. -/
def total (value : Nat → Nat) : Nat → Nat
  | 0 => 0
  | count + 1 => total value count + value count

theorem total_succ (value : Nat → Nat) (count : Nat) :
    total value (count + 1) = total value count + value count := rfl

/-- A longer sum is no smaller. -/
theorem total_le (value : Nat → Nat) {few many : Nat} (fewer : few ≤ many) :
    total value few ≤ total value many := by
  induction fewer with
  | refl => exact Nat.le_refl _
  | step _ inductionHypothesis =>
    rw [total_succ]
    exact Nat.le_add_right_of_le inductionHypothesis

/-- Whether an attempt came to a failure that may pass. -/
def mayPass : Except Failure Nat → Bool
  | .ok _ => false
  | .error failure => failure.transient

/-- A failure that is no conflict is judged by whether it may pass. -/
theorem judge_failure (greatest repeated : UInt32) {failure : Failure}
    (other : ∀ uri, failure ≠ .conflict uri) :
    judge (α := Nat) greatest repeated (.error failure) =
        (if failure.transient ∧ repeated < greatest then .again (backoffMillis (repeated + 1))
        else .giveUp) ∧
      Ending.of (α := Nat) (.error failure) = .failed := by
  cases failure with
  | conflict uri => exact absurd rfl (other uri)
  | _ => exact ⟨rfl, rfl⟩

/-- Another attempt follows one that failed in a way that may pass, as often as it may be
repeated. -/
theorem judge_again_iff {greatest repeated : UInt32} {outcome : Except Failure Nat}
    {delay : Nat} :
    judge greatest repeated outcome = .again delay ↔
      mayPass outcome = true ∧ repeated < greatest ∧ backoffMillis (repeated + 1) = delay := by
  cases outcome with
  | ok actions => simp [judge, mayPass]
  | error failure =>
    by_cases conflict : ∃ uri, failure = .conflict uri
    · obtain ⟨uri, rfl⟩ := conflict
      simp [judge, mayPass, Failure.transient]
    · rw [(judge_failure greatest repeated fun uri same => conflict ⟨uri, same⟩).1]
      by_cases again : failure.transient = true ∧ repeated < greatest
      · simp [mayPass, again]
      · rw [if_neg again]
        exact iff_of_false nofun fun follows => again ⟨follows.1, follows.2.1⟩

/-- The attempts that are made in turn, how long each of them may take, and how often a
failed one is repeated at most. -/
structure Retry where
  limit : Data.Duration
  greatest : UInt32
  turns : Nat → Attempt Nat

namespace Retry

/-- What the attempt of a turn comes to, unless it is cut off. -/
def outcome? (retry : Retry) (turn : Nat) : Option (Except Failure Nat) :=
  if (retry.turns turn).duration ≤ retry.limit.toNat then some (retry.turns turn).outcome else none

/-- Whether the attempt of a turn fails in a way that may pass, as one does that is cut off. -/
def passes (retry : Retry) (turn : Nat) : Bool := (retry.outcome? turn).elim true mayPass

/-- How many attempts are begun: one more than fail at first in a way that may pass, as far
as they may be repeated. -/
def attempts (retry : Retry) : Nat :=
  ((List.range retry.greatest.toNat).takeWhile retry.passes).length + 1

/-- How long the attempt of a turn takes. -/
def spent (retry : Retry) (turn : Nat) : Nat := min (retry.turns turn).duration retry.limit.toNat

/-- The delay after the attempt of a turn. -/
def delay (turn : Nat) : Nat := backoffMillis (UInt32.ofNat (turn + 1))

/-- How long all the attempts and the delays between them take. -/
def time (retry : Retry) : Nat :=
  total retry.spent retry.attempts + total delay (retry.attempts - 1)

/-- What the last attempt comes to, unless it is cut off. -/
def last? (retry : Retry) : Option (Except Failure Nat) := retry.outcome? (retry.attempts - 1)

/-- The actions of the last attempt if it succeeds. -/
def actions (retry : Retry) : Nat :=
  match retry.last? with
  | some (.ok actions) => actions
  | _ => 0

/-- Whether the last attempt succeeds. -/
def succeeds (retry : Retry) : Bool :=
  match retry.last? with
  | some (.ok _) => true
  | _ => false

/-- How the document stands after the last attempt. -/
def phase (retry : Retry) : Phase :=
  match retry.last? with
  | some (.ok _) => .synced
  | some (.error (.conflict _)) => .conflict
  | _ => .error

section Count

variable {retry : Retry} {turn : Nat}

/-- The first attempt that succeeds or fails for good, as far as they may be repeated. -/
def stop (retry : Retry) : Nat :=
  (List.range retry.greatest.toNat).findIdx fun turn => !retry.passes turn

/-- The last attempt is among those that the settings allow. -/
theorem stop_le : retry.stop ≤ retry.greatest.toNat := by
  have bounded : retry.stop ≤ (List.range retry.greatest.toNat).length := List.findIdx_le_length
  rwa [List.length_range] at bounded

theorem attempts_eq : retry.attempts = retry.stop + 1 := by
  rw [attempts, List.takeWhile_eq_take_findIdx_not, List.length_take, List.length_range]
  exact congrArg (· + 1) (Nat.min_eq_left stop_le)

/-- There are at most as many attempts as the settings allow. -/
theorem attempts_le : retry.attempts ≤ retry.greatest.toNat + 1 :=
  attempts_eq ▸ Nat.succ_le_succ stop_le

/-- Another attempt follows one that fails in a way that may pass and may be repeated. -/
theorem follows_iff (begun : turn < retry.attempts) :
    turn + 1 < retry.attempts ↔ retry.passes turn = true ∧ turn < retry.greatest.toNat := by
  rw [attempts_eq] at begun ⊢
  rw [Nat.succ_lt_succ_iff]
  constructor
  · intro before
    have passing := List.not_of_lt_findIdx before
    rw [List.getElem_range, Bool.not_eq_false'] at passing
    exact ⟨passing, Nat.lt_of_lt_of_le before stop_le⟩
  · rintro ⟨passing, inside⟩
    refine Nat.lt_of_le_of_ne (Nat.le_of_lt_succ begun) fun here => ?_
    have found : retry.stop < (List.range retry.greatest.toNat).length := by
      rwa [List.length_range, ← here]
    have failing : (!retry.passes (List.range retry.greatest.toNat)[retry.stop]) = true :=
      @List.findIdx_getElem _ (fun turn => !retry.passes turn) _ found
    rw [List.getElem_range, ← here, passing] at failing
    exact Bool.false_ne_true failing

end Count

section Outcome

variable (retry : Retry) (uri : String) (turn : Nat)

/-- What a sync of a document makes of the attempt of a turn. -/
def outcome : Except Failure Nat := (retry.outcome? turn).getD (.error (.timeout uri retry.limit))

/-- An attempt under the limit takes what it takes, and comes to what it comes to. -/
theorem within_eq :
    (retry.turns turn).within uri retry.limit = ⟨retry.spent turn, retry.outcome uri turn⟩ := by
  unfold Attempt.within spent outcome outcome?
  split
  · next short => rw [Nat.min_eq_left short]; rfl
  · next long => rw [Nat.min_eq_right (Nat.le_of_not_le long)]; rfl

variable {retry turn}

/-- Whether an outcome may pass by itself is told by the turn. -/
theorem mayPass_outcome : mayPass (retry.outcome uri turn) = retry.passes turn := by
  unfold outcome passes
  cases retry.outcome? turn <;> rfl

/-- What follows the attempt of a turn: another one, until the last one has been made. -/
theorem judge_outcome (begun : turn < retry.attempts) (delay : Nat) :
    judge retry.greatest (UInt32.ofNat turn) (retry.outcome uri turn) = .again delay ↔
      turn + 1 < retry.attempts ∧ Retry.delay turn = delay := by
  have bounded : turn ≤ retry.greatest.toNat :=
    Nat.le_of_lt_succ (Nat.lt_of_lt_of_le begun attempts_le)
  have below : UInt32.ofNat turn < retry.greatest ↔ turn < retry.greatest.toNat := by
    rw [UInt32.lt_iff_toNat_lt,
      UInt32.toNat_ofNat_of_lt' (Nat.lt_of_le_of_lt bounded retry.greatest.toNat_lt)]
  rw [judge_again_iff, mayPass_outcome, below, follows_iff begun, and_assoc, Retry.delay,
    UInt32.ofNat_add]
  rfl

end Outcome

section Ending

variable (retry : Retry) (uri : String)

/-- The run ends with the actions of its last attempt. -/
theorem actions_eq :
    retry.actions = (retry.outcome uri (retry.attempts - 1)).toOption.getD 0 := by
  unfold actions outcome last?
  cases retry.outcome? (retry.attempts - 1) with
  | none => rfl
  | some outcome => cases outcome <;> rfl

/-- A document stands as the last attempt of its run tells. -/
theorem phase_finish (course : Course) (direction : Direction) (now : UInt64) :
    (course.finish direction (.of (retry.outcome uri (retry.attempts - 1))) now).status.phase =
      retry.phase := by
  unfold phase outcome last?
  cases retry.outcome? (retry.attempts - 1) with
  | none => rfl
  | some outcome =>
    cases outcome with
    | ok actions => rfl
    | error failure => cases failure <;> rfl

/-- Nothing waits to be carried over once the text has been, and else as much as did. -/
theorem pending_finish (course : Course) (direction : Direction) (now : UInt64) :
    (course.finish direction (.of (retry.outcome uri (retry.attempts - 1)))
        now).status.pendingChanges =
      if retry.succeeds ∧ direction = .semanticToGraph then 0
      else course.status.pendingChanges := by
  unfold succeeds outcome last?
  cases retry.outcome? (retry.attempts - 1) with
  | none => rfl
  | some outcome =>
    cases outcome with
    | ok actions => simp [Course.finish, Ending.of]
    | error failure => cases failure <;> rfl

end Ending

/-- Attempts that were told ahead come in turn. -/
theorem attempt_of_turns (turns : Nat → Attempt Nat) {count turn : Nat} (inside : turn < count)
    (run : Run) (told : run.attempts = (List.range count).map turns) (made : run.made = turn) :
    run.attempt = turns turn := by
  have listed : run.attempts[run.made]? = some (turns turn) := by
    rw [told, made, List.getElem?_map, List.getElem?_range inside]
    rfl
  rw [Run.attempt, listed]
  rfl

end Retry

namespace Timeline

/-- A judgement that no attempt follows ends its run. -/
theorem proceed_last {timeline : Timeline} {number : Nat} {run : Run}
    {outcome : Except Failure Nat}
    (last : ∀ delay,
      judge timeline.coordinator.settings.maxRetries run.repeated outcome ≠ .again delay) :
    timeline.proceed number run outcome =
      timeline.finish number run (.of outcome) (outcome.toOption.getD 0) := by
  cases outcome with
  | ok actions => rfl
  | error failure =>
    by_cases conflict : ∃ uri, failure = .conflict uri
    · obtain ⟨uri, rfl⟩ := conflict
      rfl
    · obtain ⟨judged, ending⟩ := judge_failure timeline.coordinator.settings.maxRetries
        run.repeated fun uri same => conflict ⟨uri, same⟩
      rw [judged] at last
      have unrepeated := ite_ne_left_iff.mp (last _)
      rw [if_neg unrepeated.1] at judged
      simp only [proceed, judged, ending]
      rfl

/-- Where a run stands that has begun: an attempt is under way, or the delay after one. -/
inductive Stage where
  | attempting (turn : Nat)
  | pausing (turn : Nat)

namespace Stage

/-- How many attempts were begun, and how many of them as repetitions. -/
def run (run : Run) : Stage → Run
  | attempting turn => { run with made := turn + 1, repeated := UInt32.ofNat turn }
  | pausing turn => { run with made := turn + 1, repeated := UInt32.ofNat (turn + 1) }

/-- What the run waits for. -/
def task (retry : Retry) (uri : String) (number : Nat) : Stage → RunTask
  | attempting turn => .judge number (retry.outcome uri turn)
  | pausing _ => .attempt number

/-- When the stage is over, from the beginning of the run. -/
def time (retry : Retry) : Stage → Nat
  | attempting turn => total retry.spent (turn + 1) + total Retry.delay turn
  | pausing turn => total retry.spent (turn + 1) + total Retry.delay (turn + 1)

/-- Whether a run comes to the stage. -/
def Within (retry : Retry) : Stage → Prop
  | attempting turn => turn < retry.attempts
  | pausing turn => turn + 1 < retry.attempts

/-- The stage after a stage. -/
def next? (retry : Retry) : Stage → Option Stage
  | attempting turn => if turn + 1 < retry.attempts then some (pausing turn) else none
  | pausing turn => some (attempting (turn + 1))

/-- How many stages are left. -/
def left (retry : Retry) : Stage → Nat
  | attempting turn => 2 * (retry.attempts - turn)
  | pausing turn => 2 * (retry.attempts - turn) - 1

variable {retry : Retry} {stage : Stage}

theorem number_task (uri : String) (number : Nat) :
    (stage.task retry uri number).number = number := by
  cases stage <;> rfl

/-- No stage is past the last attempt. -/
theorem made_le (inside : stage.Within retry) (run : Run) :
    (stage.run run).made ≤ retry.attempts := by
  cases stage with
  | attempting turn => exact inside
  | pausing turn => exact Nat.le_of_lt inside

/-- No stage lasts longer than the run. -/
theorem time_le (inside : stage.Within retry) : stage.time retry ≤ retry.time := by
  cases stage with
  | attempting turn =>
    exact Nat.add_le_add (total_le _ inside) (total_le _ (Nat.le_sub_one_of_lt inside))
  | pausing turn =>
    exact Nat.add_le_add (total_le _ (Nat.le_of_lt inside))
      (total_le _ (Nat.le_sub_one_of_lt inside))

/-- The delay after an attempt is a stage if another attempt follows. -/
theorem next?_attempting {turn : Nat} (next : (attempting turn).next? retry = some stage) :
    turn + 1 < retry.attempts ∧ stage = pausing turn := by
  change (if turn + 1 < retry.attempts then some (pausing turn) else none) = some stage at next
  by_cases follows : turn + 1 < retry.attempts
  · rw [if_pos follows] at next
    exact ⟨follows, (Option.some.inj next).symm⟩
  · rw [if_neg follows] at next
    exact nomatch next

/-- Each stage leaves fewer to come. -/
theorem left_next (inside : stage.Within retry) {after : Stage}
    (next : stage.next? retry = some after) : after.left retry < stage.left retry := by
  cases stage with
  | attempting turn =>
    obtain ⟨follows, rfl⟩ := next?_attempting next
    simp only [left]
    omega
  | pausing turn =>
    obtain rfl := Option.some.inj next
    change turn + 1 < retry.attempts at inside
    simp only [left]
    omega

/-- The stage that none follows is the last attempt, and its end is that of the run. -/
theorem last_of_next?_eq_none (inside : stage.Within retry) (last : stage.next? retry = none) :
    stage = attempting (retry.attempts - 1) ∧ stage.time retry = retry.time := by
  cases stage with
  | pausing turn => exact nomatch last
  | attempting turn =>
    have unfollowed : ¬turn + 1 < retry.attempts := by
      intro follows
      exact Option.some_ne_none _ ((if_pos follows).symm.trans last)
    have all : turn + 1 = retry.attempts := Nat.le_antisymm inside (Nat.not_lt.mp unfollowed)
    have turns : turn = retry.attempts - 1 := by rw [← all]; rfl
    subst turns
    exact ⟨rfl, by rw [time, Retry.time, all]⟩

end Stage

/-- Whether a run that began at some time has come to a stage. -/
structure Stands (retry : Retry) (run : Run) (number began : Nat) (stage : Stage)
    (timeline : Timeline) : Prop where
  inside : stage.Within retry
  goes : timeline.run? number = some (stage.run run)
  due : timeline.agenda.Due (began + stage.time retry) (stage.task retry run.uri number)

/-- Whether a run that began at some time is over, and what was reported of it. -/
structure Reported (retry : Retry) (run : Run) (number began : Nat) (timeline : Timeline) :
    Prop where
  ended : timeline.Over number
  told : timeline.reports.get? number =
    some ⟨retry.actions, retry.attempts, began + retry.time - run.asked⟩

section Law

variable {retry : Retry} {run : Run} {number began position : Nat} {stage : Stage}
  {timeline : Timeline}

/-- Whether the settings and the attempts of a run are those that are told. -/
structure Plays (retry : Retry) (run : Run) (settings : Settings) : Prop where
  limit : settings.timeout = retry.limit
  greatest : settings.maxRetries = retry.greatest
  turns : ∀ turn ≤ retry.greatest.toNat, { run with made := turn }.attempt = retry.turns turn

/-- A run that begins an attempt comes to the stage of it. -/
theorem stands_begin (plays : Plays retry run timeline.coordinator.settings) {turn : Nat}
    (inside : turn < retry.attempts)
    (now : timeline.agenda.now = began + (total retry.spent turn + total Retry.delay turn)) :
    Stands retry run number began (.attempting turn)
      (timeline.begin number { run with made := turn, repeated := UInt32.ofNat turn }) := by
  have attempt : ({ run with made := turn, repeated := UInt32.ofNat turn } : Run).attempt =
      retry.turns turn :=
    plays.turns turn (Nat.le_of_lt_succ (Nat.lt_of_lt_of_le inside Retry.attempts_le))
  have goes := Table.get?_put timeline.running number number
    { run with made := turn + 1, repeated := UInt32.ofNat turn }
  have elapsed : timeline.agenda.now + retry.spent turn =
      began + (Stage.attempting turn).time retry := by
    rw [now, Stage.time, total_succ]
    omega
  unfold begin
  simp only [attempt, plays.limit, Retry.within_eq]
  exact ⟨inside, goes.trans (if_pos rfl), elapsed ▸ due_later _ _ _⟩

/-- When an attempt comes to its end, the next stage is the delay after it. -/
theorem stands_proceed (plays : Plays retry run timeline.coordinator.settings) {turn : Nat}
    (follows : turn + 1 < retry.attempts)
    (now : timeline.agenda.now = began + (Stage.attempting turn).time retry) :
    Stands retry run number began (.pausing turn)
      (timeline.proceed number ((Stage.attempting turn).run run) (retry.outcome run.uri turn)) := by
  have again := (Retry.judge_outcome run.uri (Nat.lt_of_succ_lt follows) _).mpr ⟨follows, rfl⟩
  have goes := Table.get?_put timeline.running number number ((Stage.pausing turn).run run)
  have elapsed : timeline.agenda.now + Retry.delay turn =
      began + (Stage.pausing turn).time retry := by
    rw [now, Stage.time, Stage.time, total_succ Retry.delay]
    omega
  have repeated : UInt32.ofNat turn + 1 = UInt32.ofNat (turn + 1) := (UInt32.ofNat_add turn 1).symm
  unfold proceed
  simp only [Stage.run, plays.greatest, again, repeated]
  exact ⟨follows, goes.trans (if_pos rfl), elapsed ▸ due_later _ _ _⟩

/-- A stage is over when its task is carried out, and the run comes to the next one. -/
theorem Stands.next (stands : Stands retry run number began stage timeline)
    (plays : Plays retry run timeline.coordinator.settings)
    (ready : timeline.agenda.ready[position]? = some (stage.task retry run.uri number))
    (now : timeline.agenda.now = began + stage.time retry) {after : Stage}
    (next : stage.next? retry = some after) :
    Stands retry run number began after (timeline.workAt position) := by
  have taken : Plays retry run (timeline.without position).coordinator.settings := plays
  have goes : timeline.running.get? number = some (stage.run run) := stands.goes
  have running : (timeline.without position).running = timeline.running := rfl
  cases stage with
  | attempting turn =>
    obtain ⟨follows, rfl⟩ := Stage.next?_attempting next
    simp only [workAt, ready, Stage.task, perform, running, goes]
    exact stands_proceed taken follows now
  | pausing turn =>
    obtain rfl := Option.some.inj next
    simp only [workAt, ready, Stage.task, perform, running, goes]
    exact stands_begin taken stands.inside now

/-- The run is over when its last attempt is, and its document stands as that one tells. -/
theorem Stands.last (stands : Stands retry run number began stage timeline)
    (planned : timeline.Planned) (plays : Plays retry run timeline.coordinator.settings)
    (ready : timeline.agenda.ready[position]? = some (stage.task retry run.uri number))
    (now : timeline.agenda.now = began + stage.time retry) (last : stage.next? retry = none) :
    Reported retry run number began (timeline.workAt position) ∧
      (timeline.workAt position).course run.uri =
        (timeline.course run.uri).finish run.direction
          (.of (retry.outcome run.uri (retry.attempts - 1))) timeline.timestamp := by
  obtain ⟨rfl, ends⟩ := Stage.last_of_next?_eq_none stands.inside last
  let final : Run := (Stage.attempting (retry.attempts - 1)).run run
  have goes : timeline.running.get? number = some final := stands.goes
  have running : (timeline.without position).running = timeline.running := rfl
  have unfollowed (delay : Nat) : judge (timeline.without position).coordinator.settings.maxRetries
      final.repeated (retry.outcome run.uri (retry.attempts - 1)) ≠ .again delay := by
    intro again
    change judge timeline.coordinator.settings.maxRetries _ _ = _ at again
    rw [plays.greatest] at again
    have follows := ((Retry.judge_outcome run.uri stands.inside delay).mp again).1
    exact nomatch (if_pos follows).symm.trans last
  have worked : timeline.workAt position = (timeline.without position).finish number final
      (.of (retry.outcome run.uri (retry.attempts - 1))) retry.actions := by
    rw [Retry.actions_eq retry run.uri, ← proceed_last unfollowed]
    simp only [workAt, ready, Stage.task, perform, running, goes]
  have known : number < timeline.next := planned.known number final goes
  have made : final.made = retry.attempts := Nat.sub_add_cancel (Nat.zero_lt_of_lt stands.inside)
  rw [worked]
  refine ⟨⟨⟨known, ?_⟩, ?_⟩, ?_⟩
  · exact (Table.get?_erase timeline.running number number).trans (if_pos rfl)
  · have told := Table.get?_put timeline.reports number number
      ⟨retry.actions, final.made, timeline.agenda.now - run.asked⟩
    refine (told.trans (if_pos rfl)).trans ?_
    rw [made, now, ends]
  · exact (Coordinator.course_finish _ run.uri run.uri _ _ _).trans (if_pos rfl)

/-- Whatever happens, a run is at its stage until the task of the stage is carried out. -/
theorem Stands.act (stands : Stands retry run number began stage timeline)
    (planned : timeline.Planned) {move : Move} (heeded : ¬Neglects number timeline move) :
    (∃ position, move = .work position ∧
      timeline.agenda.ready[position]? = some (stage.task retry run.uri number) ∧
      timeline.agenda.now = began + stage.time retry) ∨
    Stands retry run number began stage (timeline.act move) := by
  have about : (stage.task retry run.uri number).number = number :=
    stage.number_task run.uri number
  have goes : timeline.run? (stage.task retry run.uri number).number = some (stage.run run) := by
    rw [about]
    exact stands.goes
  rcases done_or_due planned goes stands.due (by rwa [about]) with done | ⟨still, due⟩
  · exact .inl done
  · rw [about] at still
    exact .inr ⟨stands.inside, still, due⟩

/-- A run goes on to its last attempt, and is over then. -/
theorem follows_act (planned : timeline.Planned)
    (plays : Plays retry run timeline.coordinator.settings) {move : Move}
    (heeded : ¬Neglects number timeline move)
    (follows : (∃ stage, Stands retry run number began stage timeline) ∨
      Reported retry run number began timeline) :
    (∃ stage, Stands retry run number began stage (timeline.act move)) ∨
      Reported retry run number began (timeline.act move) := by
  rcases follows with ⟨stage, stands⟩ | reported
  · rcases stands.act planned heeded with ⟨position, rfl, ready, now⟩ | still
    · cases next : stage.next? retry with
      | some after => exact .inl ⟨after, stands.next plays ready now next⟩
      | none => exact .inr (stands.last planned plays ready now next).1
    · exact .inl ⟨stage, still⟩
  · obtain ⟨ended, told⟩ := over_act reported.ended move
    exact .inr ⟨ended, told.trans reported.told⟩

/-- At every time after the start the run stands at some stage or was reported as the attempts
tell. -/
theorem follows_after (planned : timeline.Planned)
    (plays : Plays retry run timeline.coordinator.settings) {moves : List Move}
    (heeded : ¬Occurs (Neglects number) timeline moves)
    (follows : (∃ stage, Stands retry run number began stage timeline) ∨
      Reported retry run number began timeline) :
    (∃ stage, Stands retry run number began stage (timeline.after moves)) ∨
      Reported retry run number began (timeline.after moves) := by
  induction moves generalizing timeline with
  | nil => exact follows
  | cons first moves inductionHypothesis =>
    obtain ⟨now, later⟩ := not_or.mp heeded
    have still : Plays retry run (timeline.act first).coordinator.settings :=
      (settings_act timeline first).symm ▸ plays
    exact inductionHypothesis (planned_act planned first) still later
      (follows_act planned plays now follows)

/-- Nothing keeps a run from its end. Each stage can be waited for, and there are finitely
many of them. -/
theorem Stands.exists_end (stands : Stands retry run number began stage timeline)
    (planned : timeline.Planned) (plays : Plays retry run timeline.coordinator.settings) :
    ∃ moves, ¬Occurs (Neglects number) timeline moves ∧
      Reported retry run number began (timeline.after moves) := by
  induction left : stage.left retry using Nat.strongRecOn generalizing timeline stage with
  | ind measure inductionHypothesis =>
  obtain ⟨waits, heeded, running, now, position, ready⟩ := exists_ready planned stands.due
  rw [stage.number_task] at heeded
  have still : Plays retry run (timeline.after waits).coordinator.settings :=
    (settings_after timeline waits).symm ▸ plays
  have orderly := planned_after planned waits
  have there : Stands retry run number began stage (timeline.after waits) :=
    ⟨stands.inside, (congrArg (·.get? number) running).trans stands.goes,
      .ready (List.mem_of_getElem? ready) now⟩
  cases next : stage.next? retry with
  | none =>
    refine ⟨waits ++ [.work position], ?_, ?_⟩
    · rw [occurs_append]
      exact fun occurs => occurs.elim heeded fun works => works.elim id id
    · rw [after_snoc]
      exact (there.last orderly still ready now next).1
  | some after =>
    have onward := there.next still ready now next
    have fewer : after.left retry < measure := left ▸ Stage.left_next stands.inside next
    have kept :
        Plays retry run ((timeline.after waits).act (.work position)).coordinator.settings :=
      (settings_act _ (.work position)).symm ▸ still
    obtain ⟨moves, along, reported⟩ :=
      inductionHypothesis _ fewer onward (planned_act orderly (.work position)) kept rfl
    refine ⟨waits ++ .work position :: moves, ?_, ?_⟩
    · rw [occurs_append]
      exact fun occurs => occurs.elim heeded fun works => works.elim id along
    · rw [after_append]
      exact reported

/-- A run that starts where no sync is under way comes to its first attempt, and leaves what
waits to be carried over. -/
theorem stands_start (planned : timeline.Planned) (dated : timeline.Dated)
    (plays : Plays retry run timeline.coordinator.settings)
    (ready : timeline.agenda.ready[position]? = some (.start number))
    (goes : timeline.run? number = some run)
    (free : timeline.coordinator.syncing run.uri = false) :
    Stands retry run number timeline.agenda.now (.attempting 0) (timeline.workAt position) ∧
      (timeline.workAt position).coordinator.pendingChanges run.uri =
        timeline.coordinator.pendingChanges run.uri := by
  have made : run.made = 0 := planned.suited _ (planned.take ready).2.2 run goes
  have repeated : run.repeated = 0 := dated.unrepeated number run goes made
  have fresh : { run with made := 0, repeated := UInt32.ofNat 0 } = run := by
    obtain ⟨uri, direction, attempts, asked, _, _⟩ := run
    cases made
    cases repeated
    rfl
  have turn := workAt_turn ready goes
  generalize timeline.workAt position = after at turn ⊢
  cases turn with
  | refused _ busy =>
    have raised := Coordinator.syncing_of_start?_eq_none busy
    exact absurd (free.symm.trans raised) Bool.false_ne_true
  | started _ coordinator started =>
    obtain ⟨course, begins, rfl⟩ := Option.map_eq_some_iff.mp started
    let admitted : Timeline := { timeline.without position with
      coordinator := timeline.coordinator.setCourse run.uri course }
    constructor
    · have still : Plays retry run admitted.coordinator.settings := plays
      have stands : Stands retry run number timeline.agenda.now (.attempting 0)
          (admitted.begin number { run with made := 0, repeated := UInt32.ofNat 0 }) :=
        stands_begin still (Nat.succ_pos _) rfl
      rwa [fresh] at stands
    · obtain ⟨_, rfl⟩ := Course.start?_eq_some begins
      have written := timeline.coordinator.course_setCourse run.uri run.uri
      exact congrArg (·.status.pendingChanges) ((written _).trans (if_pos rfl))

end Law

/-- A run that is not refused goes exactly as the attempts that are told for it. As long as it
is not neglected, whatever else happens meanwhile, it begins no attempt beyond the last one
and goes on no longer than the attempts and the delays between them last; it can always be
brought to its end; and it ends exactly then, with the actions of its last attempt and with
its document standing as that one tells. What waits to be carried over grows by what is newly
judged, and only a run that carries the text over sets it back. Since no attempt after the
last repetition is looked at, any infinite sequence can be told (`attempt_of_turns`).

Proof: the run stands at some stage of its course or was reported, which every move that does not
neglect it preserves. A stage has one task that is due at one time, and what the task does leads
to the next stage or to the end. As the stages are finitely many, moves that carry out what is due
bring the run to its end. -/
theorem run_follows_attempts (settings : Settings) (earlier later : List Move)
    (position number : Nat) (run : Run) (turns : Nat → Attempt Nat)
    (ready : ((create settings).after earlier).agenda.ready[position]? = some (.start number))
    (goes : ((create settings).after earlier).run? number = some run)
    (free : ((create settings).after earlier).coordinator.syncing run.uri = false)
    (told : ∀ turn ≤ settings.maxRetries.toNat, { run with made := turn }.attempt = turns turn)
    (heeded : ¬Occurs (Neglects number) (((create settings).after earlier).act (.work position))
      later) :
    let asked := (create settings).after earlier
    let begun := asked.act (.work position)
    let timeline := begun.after later
    let retry : Retry := ⟨settings.timeout, settings.maxRetries, turns⟩
    (timeline.run? number = none →
      timeline.reports.get? number =
        some ⟨retry.actions, retry.attempts, asked.agenda.now - run.asked + retry.time⟩) ∧
    ∀ current, timeline.run? number = some current →
      current.made ≤ retry.attempts ∧
      timeline.agenda.now ≤ asked.agenda.now + retry.time ∧
      timeline.coordinator.pendingChanges run.uri = asked.coordinator.pendingChanges run.uri +
        (newAnswers run.uri begun later).countP Observation.counts ∧
      (∃ more, ¬Occurs (Neglects number) timeline more ∧
        (timeline.after more).run? number = none) ∧
      ∀ move, ¬Neglects number timeline move → (timeline.act move).run? number = none →
        timeline.agenda.now = asked.agenda.now + retry.time ∧
        ((timeline.act move).coordinator.status run.uri).phase = retry.phase ∧
        (timeline.act move).coordinator.pendingChanges run.uri =
          if retry.succeeds ∧ run.direction = .semanticToGraph then 0
          else timeline.coordinator.pendingChanges run.uri := by
  intro asked begun timeline retry
  have planned : asked.Planned := planned_after (planned_create settings) earlier
  have dated : asked.Dated := dated_after (planned_create settings) (dated_create settings) earlier
  have single : asked.Single :=
    single_after (planned_create settings) (single_create settings) earlier
  have kept : asked.coordinator.settings = settings := settings_after (create settings) earlier
  have plays : Plays retry run asked.coordinator.settings := by
    rw [kept]
    exact ⟨rfl, rfl, told⟩
  have onward : Plays retry run begun.coordinator.settings :=
    (settings_act asked (.work position)).symm ▸ plays
  obtain ⟨starts, pending⟩ := stands_start planned dated plays ready goes free
  have orderly : begun.Planned := planned_act planned (.work position)
  have alone : begun.Single := (act_flight planned (.work position)).single single
  have follows := follows_after orderly onward heeded (.inl ⟨_, starts⟩)
  constructor
  · intro gone
    rcases follows with ⟨stage, stands⟩ | reported
    · exact nomatch gone.symm.trans stands.goes
    · refine reported.told.trans ?_
      rw [Nat.sub_add_comm (dated.asked number run goes)]
  · intro current goesOn
    rcases follows with ⟨stage, stands⟩ | reported
    swap
    · exact nomatch goesOn.symm.trans reported.ended.2
    obtain rfl := Option.some.inj (stands.goes.symm.trans goesOn)
    have ending := planned_after orderly later
    have still : Plays retry run timeline.coordinator.settings :=
      (settings_after begun later).symm ▸ onward
    refine ⟨stage.made_le stands.inside run, ?_, ?_, ?_, ?_⟩
    · exact Nat.le_trans stands.due.now_le (Nat.add_le_add_left (stage.time_le stands.inside) _)
    · have executes : begun.Executes run.uri number := ⟨_, starts.goes, rfl, Nat.succ_pos _⟩
      have counted := pending_after orderly alone executes later
        (goesOn.symm ▸ Option.some_ne_none _)
      exact counted.trans (congrArg (· + _) pending)
    · obtain ⟨more, along, reported⟩ := stands.exists_end ending still
      exact ⟨more, along, reported.ended.2⟩
    · intro move along gone
      rcases stands.act ending along with ⟨there, rfl, due, now⟩ | stays
      swap
      · exact nomatch gone.symm.trans stays.goes
      cases next : stage.next? retry with
      | some after => exact nomatch gone.symm.trans (stands.next still due now next).goes
      | none =>
        have course := (stands.last ending still due now next).2
        have status := congrArg Course.status course
        refine ⟨?_, ?_, ?_⟩
        · rw [now, (Stage.last_of_next?_eq_none stands.inside next).2]
        · exact (congrArg Status.phase status).trans (retry.phase_finish run.uri _ _ _)
        · exact (congrArg Status.pendingChanges status).trans
            (retry.pending_finish run.uri _ _ _)

/-- Attempts of which the first takes long and the second finds the file store busy. -/
def hardAttempts : List (Attempt Nat) :=
  [⟨10000, .ok 5⟩, ⟨20, .error (.registry (.file (.io "busy")))⟩, ⟨30, .ok 7⟩]

/-- A revision comes in, and a sync with such attempts is asked for. -/
def hardCarrying (uri : String) : List Move :=
  [.connect uri "a" .text, .observe uri ⟨1, 1, "a", 0, "first"⟩,
    .ask uri .semanticToGraph hardAttempts]

/-- The third attempt succeeds: after the limit of 50, a delay of 100, the 20 of the second
attempt, a delay of 200 and its own 30. The revision waits no longer then. -/
theorem third_attempt_carries :
    let settings := { Settings.usual with timeout := 50, maxRetries := 2 }
    let begun := ((create settings).after (hardCarrying "file:///a.wf")).act (.work 0)
    let later : List Move := [.wait 50, .work 0, .wait 150, .work 0, .wait 170, .work 0,
      .wait 370, .work 0, .wait 400]
    let ended := begun.after (later ++ [.work 0])
    ended.reports.get? 0 = some ⟨7, 3, 400⟩ ∧
      (begun.after later).coordinator.pendingChanges "file:///a.wf" = 1 ∧
      (ended.coordinator.status "file:///a.wf").phase = .synced ∧
      ended.coordinator.pendingChanges "file:///a.wf" = 0 := by
  intro settings begun later ended
  let run : Run := ⟨"file:///a.wf", .semanticToGraph, hardAttempts, 0, 0, 0⟩
  let turns (turn : Nat) : Attempt Nat := { run with made := turn }.attempt
  let retry : Retry := ⟨settings.timeout, settings.maxRetries, turns⟩
  have values : retry.actions = 7 ∧ retry.attempts = 3 ∧ retry.time = 400 ∧
      retry.phase = .synced ∧ retry.succeeds = true := by decide +kernel
  obtain ⟨actions, attempts, time, phase, succeeds⟩ := values
  obtain ⟨reported, _⟩ := run_follows_attempts settings (hardCarrying "file:///a.wf")
    (later ++ [.work 0]) 0 0 run turns rfl rfl rfl (fun _ _ => rfl) (by decide +kernel)
  obtain ⟨_, goesOn⟩ := run_follows_attempts settings (hardCarrying "file:///a.wf") later 0 0 run
    turns rfl rfl rfl (fun _ _ => rfl) (by decide +kernel)
  obtain ⟨current, going⟩ : ∃ current, (begun.after later).run? 0 = some current :=
    Option.isSome_iff_exists.mp (by decide +kernel)
  have followed : ended = (begun.after later).act (.work 0) := after_snoc begun later (.work 0)
  have gone : ended.run? 0 = none := Option.isNone_iff_eq_none.mp (by decide +kernel)
  have last : ((begun.after later).act (.work 0)).run? 0 = none := followed ▸ gone
  have atOnce :
      ((create settings).after (hardCarrying "file:///a.wf")).agenda.now - run.asked = 0 := by
    decide +kernel
  have told := reported gone
  change _ = some (Report.mk retry.actions retry.attempts (_ - run.asked + retry.time)) at told
  rw [actions, attempts, atOnce, time] at told
  obtain ⟨_, _, _, _, ends⟩ := goesOn current going
  obtain ⟨_, shown, carried⟩ := ends (.work 0) id last
  rw [← followed] at shown carried
  exact ⟨told, by decide +kernel, shown.trans phase, carried.trans (if_pos ⟨succeeds, rfl⟩)⟩

end Timeline

end Flowdesk.Sync
