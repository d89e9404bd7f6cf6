import Flowdesk.Proofs.Sync.Move

/-!
# One sync of a document at a time

A run executes from the moment it begins its first attempt until it ends or is
abandoned; what it waits for between its attempts does not matter. Executing runs are
nowhere listed: each document only has a flag, which a run raises when it begins and
lowers when it comes to an end. A move lets one run depart from a document without a
raised flag, lets one land, or leaves who executes as it was. So at most one run
executes on a document, and its flag is raised as long as one does.
-/

namespace Flowdesk.Sync.Timeline

open Data

/-- Whether the run of a number is at work on a document. -/
def Executes (timeline : Timeline) (uri : String) (number : Nat) : Prop :=
  ∃ run, timeline.run? number = some run ∧ run.uri = uri ∧ 0 < run.made

section Executes

variable {before after : Timeline} {number : Nat}

/-- Who executes depends on the runs alone. -/
theorem executes_congr (runs : after.running = before.running) (uri : String) (other : Nat) :
    after.Executes uri other ↔ before.Executes uri other := by
  unfold Executes run?
  rw [runs]

/-- A run that comes to an end executes no longer. -/
theorem executes_erase (runs : after.running = before.running.erase number) (uri : String)
    (other : Nat) : after.Executes uri other ↔ before.Executes uri other ∧ other ≠ number := by
  unfold Executes run?
  rw [runs, Table.get?_erase]
  by_cases same : number = other
  · rw [if_pos same]
    constructor
    · rintro ⟨_, absent, _⟩
      exact nomatch absent
    · rintro ⟨_, different⟩
      exact absurd same.symm different
  · rw [if_neg same]
    exact ⟨fun executes => ⟨executes, Ne.symm same⟩, And.left⟩

/-- A run that is written down executes if it has begun an attempt. -/
theorem executes_put {run : Run} (runs : after.running = before.running.put number run)
    (uri : String) (other : Nat) :
    after.Executes uri other ↔
      if number = other then run.uri = uri ∧ 0 < run.made else before.Executes uri other := by
  unfold Executes run?
  rw [runs, Table.get?_put]
  by_cases same : number = other
  · rw [if_pos same, if_pos same]
    constructor
    · rintro ⟨_, written, here⟩
      exact Option.some.inj written ▸ here
    · exact fun here => ⟨run, rfl, here⟩
  · rw [if_neg same, if_neg same]

/-- A run executes on its own document, as soon as it has begun an attempt. -/
theorem executes_iff {run : Run} (goes : before.run? number = some run) (uri : String) :
    before.Executes uri number ↔ run.uri = uri ∧ 0 < run.made := by
  constructor
  · rintro ⟨_, found, here⟩
    exact Option.some.inj (goes.symm.trans found) ▸ here
  · exact fun here => ⟨run, goes, here⟩

end Executes

/-- What a move does to the runs that execute and to the flags of the documents. -/
inductive Flight (before : Timeline) (move : Move) (after : Timeline) : Prop where
  | level (executing : ∀ uri number, after.Executes uri number ↔ before.Executes uri number)
      (flags : ∀ uri, after.coordinator.syncing uri = before.coordinator.syncing uri)
  | departs (uri : String) (number position : Nat) (works : move = .work position)
      (ready : before.agenda.ready[position]? = some (.start number))
      (free : before.coordinator.syncing uri = false)
      (executing : ∀ other another, after.Executes other another ↔
        before.Executes other another ∨ other = uri ∧ another = number)
      (flags : ∀ other, after.coordinator.syncing other =
        if uri = other then true else before.coordinator.syncing other)
  | lands (uri : String) (number : Nat) (executed : before.Executes uri number)
      (executing : ∀ other another, after.Executes other another ↔
        before.Executes other another ∧ another ≠ number)
      (flags : ∀ other, after.coordinator.syncing other =
        if uri = other then false else before.coordinator.syncing other)

section Flight

variable {before after : Timeline}

/-- A run that has begun an attempt lands when it comes to an end. -/
theorem flight_lands {number : Nat} {run : Run} {move : Move}
    (goes : before.run? number = some run) (begun : 0 < run.made)
    (runs : after.running = before.running.erase number)
    (flags : ∀ other, after.coordinator.syncing other =
      if run.uri = other then false else before.coordinator.syncing other) :
    Flight before move after :=
  .lands run.uri number ⟨run, goes, rfl, begun⟩ (executes_erase runs) flags

/-- A run that comes to an end before its first attempt was not executing. -/
theorem flight_of_unbegun {number : Nat} {run : Run} {move : Move}
    (goes : before.run? number = some run) (unbegun : run.made = 0)
    (runs : after.running = before.running.erase number)
    (same : after.coordinator = before.coordinator) : Flight before move after := by
  refine .level ?_ fun uri => congrArg (·.syncing uri) same
  intro uri other
  rw [executes_erase runs]
  constructor
  · exact And.left
  · intro executes
    refine ⟨executes, ?_⟩
    rintro rfl
    exact absurd ((executes_iff goes uri).mp executes).2 (unbegun ▸ Nat.lt_irrefl 0)

/-- A run goes on executing when another attempt is begun or awaited. -/
theorem flight_of_begun {number : Nat} {run again : Run} {move : Move}
    (goes : before.run? number = some run) (begun : 0 < run.made)
    (runs : after.running = before.running.put number again) (uri : again.uri = run.uri)
    (still : 0 < again.made) (same : after.coordinator = before.coordinator) :
    Flight before move after := by
  refine .level ?_ fun uri => congrArg (·.syncing uri) same
  intro other another
  rw [executes_put runs]
  split
  · next here =>
    subst here
    simp only [executes_iff goes, uri, begun, still]
  · rfl

/-- A turn of the task that was planned for a run. -/
theorem Turn.flight {task : RunTask} {run : Run} {position : Nat}
    (turn : Turn (before.without position) run task after)
    (ready : before.agenda.ready[position]? = some task)
    (goes : before.run? task.number = some run) (suits : task.Suits run) :
    Flight before (.work position) after := by
  cases turn with
  | refused number busy => exact flight_of_unbegun goes suits rfl rfl
  | resumed number => exact flight_of_begun goes suits rfl rfl (Nat.succ_pos _) rfl
  | repeated number outcome delay again => exact flight_of_begun goes suits rfl rfl suits rfl
  | ended number outcome ending actions last =>
    exact flight_lands goes suits rfl fun other =>
      Coordinator.syncing_finish _ run.uri other _ ending _
  | started number coordinator free =>
    obtain ⟨unraised, raised⟩ := Coordinator.syncing_of_start? free
    let begun : Timeline := { before.without position with coordinator }.begin number run
    have runs : begun.running = before.running.put number { run with made := run.made + 1 } := rfl
    refine .departs run.uri number position rfl ready unraised ?_ ?_
    · intro other another
      rw [executes_put runs]
      split
      · next same =>
        subst same
        have unbegun : run.made = 0 := suits
        have waits := executes_iff goes other
        simp only [RunTask.number, unbegun, Nat.lt_irrefl, and_false, iff_false] at waits
        constructor
        · rintro ⟨here, _⟩
          exact .inr ⟨here.symm, rfl⟩
        · rintro (executes | ⟨here, _⟩)
          · exact absurd executes waits
          · exact ⟨here.symm, Nat.succ_pos _⟩
      · next different =>
        constructor
        · exact .inl
        · rintro (executes | ⟨_, same⟩)
          · exact executes
          · exact absurd same.symm different
    · intro other
      by_cases same : run.uri = other
      · subst same
        rw [if_pos rfl]
        exact raised
      · rw [if_neg same]
        exact Coordinator.syncing_start? free same

/-- Every move is a flight, if the plans are in order. -/
theorem act_flight {timeline : Timeline} (planned : timeline.Planned) (move : Move) :
    Flight timeline move (timeline.act move) := by
  cases move with
  | connect uri client method =>
    exact .level (executes_congr rfl) (Coordinator.syncing_connect _ uri client method)
  | disconnect uri client =>
    exact .level (executes_congr rfl) (Coordinator.syncing_disconnect _ uri client)
  | observe uri revision =>
    exact .level (executes_congr rfl) (Coordinator.syncing_observe _ uri revision)
  | beginResolution uri accepted =>
    exact .level (executes_congr rfl) (Coordinator.syncing_beginResolution _ uri accepted)
  | ask uri direction attempts =>
    let asked : Timeline := (timeline.ask uri direction attempts).2
    have runs : asked.running = timeline.running.put timeline.next
        ⟨uri, direction, attempts, timeline.agenda.now, 0, 0⟩ := rfl
    refine .level ?_ fun _ => rfl
    intro other number
    refine (executes_put runs other number).trans ?_
    split
    · next same =>
      subst same
      refine iff_of_false (fun begun => Nat.lt_irrefl 0 begun.2) ?_
      rintro ⟨run, found, _⟩
      exact Nat.lt_irrefl _ (planned.known timeline.next run found)
    · rfl
  | abandon number =>
    simp only [act]
    refine abandon_branches ?gone ?unbegun ?released
    case gone => exact fun _ => .level (executes_congr rfl) fun _ => rfl
    case unbegun => exact fun run goes unbegun => flight_of_unbegun goes unbegun rfl rfl
    case released =>
      exact fun run goes begun => flight_lands goes (Nat.pos_of_ne_zero begun) rfl
        (Coordinator.syncing_release _ run.uri)
  | work position =>
    simp only [act]
    refine workAt_branches ?same ?gone ?turned
    case same => exact fun _ => .level (executes_congr rfl) fun _ => rfl
    case gone => exact fun _ _ _ => .level (executes_congr rfl) fun _ => rfl
    case turned =>
      exact fun task run after ready goes turn =>
        turn.flight ready goes (planned.suited task (planned.take ready).2.2 run goes)
  | wait time =>
    simp only [act]
    exact waitFor_branches (.level (executes_congr rfl) fun _ => rfl)
      fun _ => .level (executes_congr rfl) fun _ => rfl

end Flight

/-- At most one run executes on a document, and its flag tells whether one does. -/
structure Single (timeline : Timeline) : Prop where
  alone : ∀ uri first second, timeline.Executes uri first → timeline.Executes uri second →
    first = second
  flagged : ∀ uri, timeline.coordinator.syncing uri = true ↔ ∃ number, timeline.Executes uri number

theorem single_create (settings : Settings) : (create settings).Single := by
  have none (uri : String) (number : Nat) : ¬(create settings).Executes uri number :=
    fun ⟨_, found, _⟩ => nomatch found
  constructor
  · exact fun uri first _ executes => absurd executes (none uri first)
  · exact fun uri => iff_of_false Bool.false_ne_true fun ⟨number, executes⟩ =>
      none uri number executes

/-- A document without a raised flag has no executing run. -/
theorem Single.not_executes {timeline : Timeline} (single : timeline.Single) {uri : String}
    (free : timeline.coordinator.syncing uri = false) (number : Nat) :
    ¬timeline.Executes uri number := by
  intro executes
  have raised := (single.flagged uri).mpr ⟨number, executes⟩
  exact Bool.false_ne_true (free.symm.trans raised)

/-- A flight keeps a single run on every document. One that departs finds nobody
there, and one that lands was the only one. -/
theorem Flight.single {before after : Timeline} {move : Move} (flight : Flight before move after)
    (single : before.Single) : after.Single := by
  cases flight with
  | level executing flags =>
    constructor
    · intro uri first second one other
      exact single.alone uri first second ((executing uri first).mp one)
        ((executing uri second).mp other)
    · intro uri
      rw [flags, single.flagged]
      exact exists_congr fun number => (executing uri number).symm
  | departs uri number position works ready free executing flags =>
    have nobody := single.not_executes free
    constructor
    · intro other first second one another
      rcases (executing other first).mp one with one | ⟨rfl, rfl⟩
      · rcases (executing other second).mp another with another | ⟨rfl, rfl⟩
        · exact single.alone other first second one another
        · exact absurd one (nobody first)
      · rcases (executing other second).mp another with another | ⟨_, rfl⟩
        · exact absurd another (nobody second)
        · rfl
    · intro other
      rw [flags]
      split
      · next same =>
        exact iff_of_true rfl ⟨number, (executing other number).mpr (.inr ⟨same.symm, rfl⟩)⟩
      · next different =>
        rw [single.flagged]
        refine exists_congr fun another => ?_
        rw [executing]
        exact ⟨.inl, fun found => found.resolve_right fun same => different same.1.symm⟩
  | lands uri number executed executing flags =>
    constructor
    · intro other first second one another
      exact single.alone other first second ((executing other first).mp one).1
        ((executing other second).mp another).1
    · intro other
      rw [flags]
      split
      · next same =>
        subst same
        refine iff_of_false Bool.false_ne_true ?_
        rintro ⟨another, executes⟩
        obtain ⟨executes, different⟩ := (executing uri another).mp executes
        exact different (single.alone uri another number executes executed)
      · next different =>
        rw [single.flagged]
        refine exists_congr fun another => ?_
        rw [executing]
        refine ⟨fun executes => ⟨executes, ?_⟩, And.left⟩
        rintro rfl
        obtain ⟨run, found, rfl, _⟩ := executes
        obtain ⟨other, same, here, _⟩ := executed
        exact different (Option.some.inj (same.symm.trans found) ▸ here.symm)

theorem single_after {timeline : Timeline} (planned : timeline.Planned) (single : timeline.Single)
    (moves : List Move) : (timeline.after moves).Single := by
  induction moves generalizing timeline with
  | nil => exact single
  | cons first moves inductionHypothesis =>
    exact inductionHypothesis (planned_act planned first) ((act_flight planned first).single single)

section Start

variable {timeline : Timeline} {position number : Nat} {run : Run}

/-- A run that starts while another one executes ends at once: it reports that it did
nothing, and nothing comes of it later. -/
theorem start_refused (planned : timeline.Planned)
    (ready : timeline.agenda.ready[position]? = some (.start number))
    (goes : timeline.run? number = some run) (busy : timeline.coordinator.syncing run.uri = true) :
    (timeline.workAt position).coordinator = timeline.coordinator ∧
      (timeline.workAt position).Over number ∧
      (timeline.workAt position).reports.get? number =
        some ⟨0, 0, timeline.agenda.now - run.asked⟩ := by
  have unbegun : run.made = 0 := planned.suited _ (planned.take ready).2.2 run goes
  have turn := workAt_turn ready goes
  generalize timeline.workAt position = after at turn ⊢
  cases turn with
  | started _ coordinator free =>
    have unraised := (Coordinator.syncing_of_start? free).1
    exact absurd (unraised.symm.trans busy) Bool.false_ne_true
  | refused _ _ =>
    refine ⟨rfl, ⟨planned.known number run goes, ?_⟩, ?_⟩
    · exact (Table.get?_erase _ number number).trans (if_pos rfl)
    · rw [← unbegun]
      exact (Table.get?_put _ number number _).trans (if_pos rfl)

/-- A run that starts where none executes begins its first attempt. -/
theorem start_begins (ready : timeline.agenda.ready[position]? = some (.start number))
    (goes : timeline.run? number = some run)
    (free : timeline.coordinator.syncing run.uri = false) :
    (timeline.workAt position).Executes run.uri number := by
  have turn := workAt_turn ready goes
  generalize timeline.workAt position = after at turn ⊢
  cases turn with
  | started _ coordinator _ =>
    refine ⟨{ run with made := run.made + 1 }, ?_, rfl, Nat.succ_pos run.made⟩
    exact (Table.get?_put _ number number _).trans (if_pos rfl)
  | refused _ busy =>
    have raised := Coordinator.syncing_of_start?_eq_none busy
    exact absurd (free.symm.trans raised) Bool.false_ne_true

end Start

/-- A run that is over executes nowhere. -/
theorem Over.not_executes {timeline : Timeline} {number : Nat} (ended : timeline.Over number)
    (uri : String) : ¬timeline.Executes uri number :=
  fun ⟨_, goes, _⟩ => nomatch ended.2.symm.trans goes

/-- After any moves at most one run executes on a document, and the document is said to
be synced exactly as long as one does. A run that starts meanwhile ends in the same move
with no actions: it never begins an attempt, and the courses of all documents are as
they were. However the executing run comes to an end, no sync is under way then; a run
only executes after its own start, and a start where none executes is never refused.

Proof: a move either leaves all runs as they stand, or lets one start on a free document, or ends
one and frees its document. That at most one run executes and that the flag tells of it is an
invariant by these cases, and so is all else that is said of starts and ends. -/
theorem single_flight (settings : Settings) (moves : List Move) (uri : String) :
    let timeline := (create settings).after moves
    (∀ first second, timeline.Executes uri first → timeline.Executes uri second →
      first = second) ∧
    (timeline.coordinator.syncing uri = true ↔ ∃ number, timeline.Executes uri number) ∧
    (∀ position number run, timeline.agenda.ready[position]? = some (.start number) →
      timeline.run? number = some run → run.uri = uri →
      if timeline.coordinator.syncing uri then
        (timeline.act (.work position)).coordinator = timeline.coordinator ∧
        ∀ later,
          ((timeline.act (.work position)).after later).reports.get? number =
            some ⟨0, 0, timeline.agenda.now - run.asked⟩ ∧
          ∀ other, ¬((timeline.act (.work position)).after later).Executes other number
      else (timeline.act (.work position)).Executes uri number) ∧
    (∀ move number, timeline.Executes uri number →
      ¬(timeline.act move).Executes uri number →
      (timeline.act move).coordinator.syncing uri = false) ∧
    (∀ move number, ¬timeline.Executes uri number →
      (timeline.act move).Executes uri number →
      ∃ position, move = .work position ∧
        timeline.agenda.ready[position]? = some (.start number)) := by
  intro timeline
  have planned : timeline.Planned := planned_after (planned_create settings) moves
  have single : timeline.Single :=
    single_after (planned_create settings) (single_create settings) moves
  refine ⟨single.alone uri, single.flagged uri, ?_, ?_, ?_⟩
  · rintro position number run ready goes rfl
    split
    · next busy =>
      obtain ⟨same, ended, reported⟩ := start_refused planned ready goes busy
      refine ⟨same, fun later => ?_⟩
      obtain ⟨stays, kept⟩ := over_after ended later
      exact ⟨kept.trans reported, stays.not_executes⟩
    · next free => exact start_begins ready goes (Bool.eq_false_iff.mpr free)
  · intro move number executes ended
    cases act_flight planned move with
    | level executing flags => exact absurd ((executing uri number).mpr executes) ended
    | departs other another position works ready free executing flags =>
      exact absurd ((executing uri number).mpr (.inl executes)) ended
    | lands other another executed executing flags =>
      have same : number = another := by
        by_contra different
        exact ended ((executing uri number).mpr ⟨executes, different⟩)
      subst same
      obtain ⟨run, goes, here, begun⟩ := executes
      have there : other = uri := ((executes_iff goes other).mp executed).1.symm.trans here
      rw [flags, if_pos there]
  · intro move number waits executes
    cases act_flight planned move with
    | level executing flags => exact absurd ((executing uri number).mp executes) waits
    | departs other another position works ready free executing flags =>
      rcases (executing uri number).mp executes with executes | ⟨_, rfl⟩
      · exact absurd executes waits
      · exact ⟨position, works, ready⟩
    | lands other another executed executing flags =>
      exact absurd ((executing uri number).mp executes).1 waits

/-- A sync that takes a while, and another one that is asked for meanwhile. -/
def overlapping (uri : String) : List Move :=
  [.ask uri .semanticToGraph [⟨100, .ok 1⟩], .work 0, .ask uri .semanticToGraph [⟨0, .ok 2⟩]]

/-- The second one is refused, and the first one goes on. -/
theorem second_sync_is_refused :
    let timeline := (create .usual).after (overlapping "file:///a.wf")
    timeline.Executes "file:///a.wf" 0 ∧
      ∀ later, ((timeline.act (.work 0)).after later).reports.get? 1 = some ⟨0, 0, 0⟩ := by
  intro timeline
  have busy : timeline.coordinator.syncing "file:///a.wf" = true := by decide +kernel
  obtain ⟨_, _, refused, _⟩ := single_flight .usual (overlapping "file:///a.wf") "file:///a.wf"
  have second := refused 0 1 ⟨"file:///a.wf", .semanticToGraph, [⟨0, .ok 2⟩], 0, 0, 0⟩ rfl rfl rfl
  rw [if_pos busy] at second
  refine ⟨⟨_, rfl, rfl, Nat.one_pos⟩, fun later => (second.2 later).1⟩

end Flowdesk.Sync.Timeline
