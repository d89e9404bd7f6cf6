import Flowdesk.Proofs.Sync.Flight
import Flowdesk.Proofs.Sync.Judgement

/-!
# Changes that wait to be carried over

The count of pending changes grows with each revision that is newly judged as accepted
or as older than what is reconciled. While a run executes on a document nothing else
changes the count: no other run of the document can end, and the course is not dropped.
When the run has carried the text over, the count is set to zero, whatever was counted
since its last attempt read the text. So a revision that is accepted during the run is
still counted afterwards only if the run carried the other way.
-/

namespace Flowdesk.Sync

open Data

/-- Whether an answer adds to the changes that wait to be carried over. -/
def Observation.counts : Observation → Bool
  | .advanced | .keepLocal => true
  | .inSync | .conflict _ => false

namespace Course

/-- A judgement adds one pending change if it is a new one and its answer counts. -/
theorem pending_observe (course : Course) (uri : String) (revision : Revision) :
    (course.observe uri revision).2.status.pendingChanges =
      course.status.pendingChanges +
        if (course.seen? revision).isNone ∧ (course.observe uri revision).1.counts then 1
        else 0 := by
  cases seen : course.seen? revision with
  | some observation =>
    rw [observe_seen seen]
    rfl
  | none =>
    rw [observe_unseen seen]
    unfold record
    cases course.judge uri revision <;> rfl

end Course

namespace Timeline

/-- The answer to a revision that a move has newly judged for a document. -/
def newAnswer? (timeline : Timeline) (uri : String) : Move → Option Observation
  | .observe about revision =>
      if about = uri ∧ ((timeline.course uri).seen? revision).isNone then
        some (timeline.coordinator.observe uri revision).1
      else none
  | _ => none

/-- The answers to the revisions of a document that moves have newly judged, in order. -/
def newAnswers (uri : String) : Timeline → List Move → List Observation
  | _, [] => []
  | timeline, move :: moves =>
      (timeline.newAnswer? uri move).toList ++ newAnswers uri (timeline.act move) moves

section Executing

variable {timeline : Timeline} {uri : String} {number : Nat}

/-- The turn of a run that executes is not its last one, or the run is over. -/
theorem Turn.goesOn {after : Timeline} {run : Run} {task : RunTask}
    (turn : Turn timeline run task after) (here : run.uri = uri) (begun : 0 < run.made)
    (known : task.number < timeline.next) :
    after.Executes uri task.number ∨ after.Over task.number := by
  have written (again : Run) := Table.get?_put timeline.running task.number task.number again
  have erased := Table.get?_erase timeline.running task.number task.number
  simp only [if_true] at written erased
  cases turn with
  | refused | ended => exact .inr ⟨known, erased⟩
  | started | resumed => exact .inl ⟨_, written _, here, Nat.succ_pos _⟩
  | repeated => exact .inl ⟨_, written _, here, begun⟩

/-- A run that executes goes on executing until it is over. -/
theorem executes_act (planned : timeline.Planned) (executes : timeline.Executes uri number)
    (move : Move) :
    (timeline.act move).Executes uri number ∨ (timeline.act move).Over number := by
  obtain ⟨run, goes, here, begun⟩ := executes
  have known : number < timeline.next := planned.known number run goes
  cases move with
  | connect | disconnect | observe | beginResolution => exact .inl ⟨run, goes, here, begun⟩
  | ask about direction attempts =>
    have other : timeline.next ≠ number := Nat.ne_of_gt known
    refine .inl ⟨run, ?_, here, begun⟩
    exact (Table.get?_put _ timeline.next number _).trans ((if_neg other).trans goes)
  | wait time =>
    simp only [act]
    exact waitFor_branches (.inl ⟨run, goes, here, begun⟩) fun _ => .inl ⟨run, goes, here, begun⟩
  | abandon another =>
    have erased := Table.get?_erase timeline.running another number
    simp only [act, abandon]
    by_cases same : another = number
    · rw [if_pos same] at erased
      split
      · next gone => exact .inr ⟨known, same ▸ gone⟩
      · split <;> exact .inr ⟨known, erased⟩
    · rw [if_neg same] at erased
      split
      · exact .inl ⟨run, goes, here, begun⟩
      · split <;> exact .inl ⟨run, erased.trans goes, here, begun⟩
  | work position =>
    simp only [act]
    refine workAt_branches ?same ?gone ?turned
    case same => exact fun _ => .inl ⟨run, goes, here, begun⟩
    case gone => exact fun _ _ _ => .inl ⟨run, goes, here, begun⟩
    case turned =>
      intro task worked after _ going turn
      by_cases same : task.number = number
      · subst same
        obtain rfl : run = worked := Option.some.inj (goes.symm.trans going)
        exact turn.goesOn here begun known
      · exact .inl ⟨run, (turn.elsewhere same).2.1.trans goes, here, begun⟩

/-- So it does along all moves. -/
theorem executes_after (planned : timeline.Planned) (executes : timeline.Executes uri number)
    (moves : List Move) :
    (timeline.after moves).Executes uri number ∨ (timeline.after moves).Over number := by
  induction moves generalizing timeline with
  | nil => exact .inl executes
  | cons first moves inductionHypothesis =>
    rcases executes_act planned executes first with still | ended
    · exact inductionHypothesis (planned_act planned first) still
    · exact .inr (over_after ended moves).1

/-- What is newly judged of a document depends on the moves about it. -/
theorem newAnswer?_elsewhere {move : Move} (elsewhere : move.about? ≠ some uri) :
    timeline.newAnswer? uri move = none := by
  cases move with
  | observe about revision => exact if_neg fun here => elsewhere (congrArg some here.1)
  | _ => rfl

/-- A move during a run adds what is newly judged to the pending changes of its document.
No other run of the document ends, since there is none, and its course is kept. -/
theorem pending_act (planned : timeline.Planned) (single : timeline.Single)
    (executes : timeline.Executes uri number) {move : Move}
    (goesOn : (timeline.act move).run? number ≠ none) :
    (timeline.act move).coordinator.pendingChanges uri =
      timeline.coordinator.pendingChanges uri +
        (timeline.newAnswer? uri move).toList.countP Observation.counts := by
  have touches := act_touches timeline move uri
  change ((timeline.act move).course uri).status.pendingChanges =
    (timeline.course uri).status.pendingChanges + _
  generalize (timeline.act move).course uri = course at touches ⊢
  have busy : (timeline.course uri).inFlight = true := (single.flagged uri).mpr ⟨number, executes⟩
  cases touches with
  | spared _ elsewhere => rw [newAnswer?_elsewhere elsewhere]; rfl
  | joined | left | resolved => rfl
  | dropped client unkept =>
    have free : (timeline.course uri).inFlight = false := by
      simpa [Course.disconnect] using (Bool.and_eq_true_iff.mp unkept).2
    exact absurd (free.symm.trans busy) Bool.false_ne_true
  | judged revision =>
    rw [Course.pending_observe]
    congr 1
    have answered : (timeline.coordinator.observe uri revision).1 =
        ((timeline.course uri).observe uri revision).1 := rfl
    simp only [newAnswer?, true_and, answered]
    by_cases fresh : ((timeline.course uri).seen? revision).isNone = true
    · rw [if_pos fresh, Option.toList_some, List.countP_singleton]
      simp only [fresh, true_and]
    · rw [if_neg fresh, if_neg fun counted => fresh counted.1]
      rfl
  | begun position another run course ready goes here started =>
    exact absurd ((Course.start?_eq_some started).1.symm.trans busy) Bool.false_ne_true
  | ended position another outcome run ending ready goes here last gone =>
    have begun : 0 < run.made := planned.suited _ (planned.take ready).2.2 run goes
    have same := single.alone uri another number ⟨run, goes, here, begun⟩ executes
    exact absurd (same ▸ gone) goesOn
  | released another run goes here begun gone =>
    have same := single.alone uri another number ⟨run, goes, here, begun⟩ executes
    exact absurd (same ▸ gone) goesOn

/-- During a run every revision that is newly judged, and counts, is added to the pending
changes of its document. -/
theorem pending_after (planned : timeline.Planned) (single : timeline.Single)
    (executes : timeline.Executes uri number) (moves : List Move)
    (goesOn : (timeline.after moves).run? number ≠ none) :
    (timeline.after moves).coordinator.pendingChanges uri =
      timeline.coordinator.pendingChanges uri +
        (newAnswers uri timeline moves).countP Observation.counts := by
  induction moves generalizing timeline with
  | nil => rfl
  | cons first moves inductionHypothesis =>
    have executing : (timeline.act first).Executes uri number := by
      refine (executes_act planned executes first).resolve_right fun ended => ?_
      exact goesOn (over_after ended moves).1.2
    have still : (timeline.act first).run? number ≠ none := by
      obtain ⟨run, goes, _⟩ := executing
      simp [goes]
    have followed : timeline.after (first :: moves) = (timeline.act first).after moves := rfl
    rw [followed] at goesOn ⊢
    rw [inductionHypothesis (planned_act planned first)
        ((act_flight planned first).single single) executing goesOn,
      pending_act planned single executes still, newAnswers, List.countP_append, Nat.add_assoc]

end Executing

/-- A run whose attempt succeeded has carried its document over. -/
theorem course_of_success {timeline : Timeline} {number position actions : Nat} {run : Run}
    (goes : timeline.run? number = some run)
    (succeeds : timeline.agenda.ready[position]? = some (.judge number (.ok actions))) :
    (timeline.act (.work position)).course run.uri =
      (timeline.course run.uri).finish run.direction .carried timeline.timestamp := by
  have turn := workAt_turn succeeds goes
  change (timeline.workAt position).coordinator.course run.uri = _
  generalize timeline.workAt position = after at turn ⊢
  cases turn with
  | ended _ _ ending _ last =>
    obtain rfl : Ending.carried = ending := Option.some.inj last
    exact (Coordinator.course_finish _ run.uri run.uri _ _ _).trans (if_pos rfl)
  | repeated _ _ _ again => exact nomatch again

/-- Take any moment of a run, such as the beginning of the attempt that succeeds. Once the
run has ended well its document is synced. If it carried the text over, no change is
pending then; if it carried the model over, what was pending at that moment still is, and
all that was counted since. So the revisions newly accepted since that moment are still
counted after the run exactly if there was none, or if the run carried the model over.

Proof: while a run executes nobody else sets its document's count back, so the count grows by what
is newly judged. A run that ends well sets it to nothing or leaves it, as its direction says. -/
theorem carried_sync_keeps_accepted_iff (settings : Settings) (earlier during : List Move)
    (uri : String) (number position actions : Nat) (run : Run)
    (executes : ((create settings).after earlier).Executes uri number)
    (goes : (((create settings).after earlier).after during).run? number = some run)
    (succeeds : (((create settings).after earlier).after during).agenda.ready[position]? =
      some (.judge number (.ok actions))) :
    let begun := (create settings).after earlier
    let ended := (begun.after during).act (.work position)
    let answers := newAnswers uri begun during
    (ended.coordinator.status uri).phase = .synced ∧
    ended.coordinator.pendingChanges uri =
      (match run.direction with
      | .semanticToGraph => 0
      | .graphToSemantic =>
          begun.coordinator.pendingChanges uri + answers.countP Observation.counts) ∧
    (answers.count .advanced ≤ ended.coordinator.pendingChanges uri ↔
      answers.count .advanced = 0 ∨ run.direction = .graphToSemantic) := by
  intro begun ended answers
  have planned : begun.Planned := planned_after (planned_create settings) earlier
  have single : begun.Single :=
    single_after (planned_create settings) (single_create settings) earlier
  have goesOn : (begun.after during).run? number ≠ none := by simp [begun, goes]
  have counted := pending_after planned single executes during goesOn
  have executing := (executes_after planned executes during).resolve_right fun stopped =>
    goesOn stopped.2
  obtain rfl : run.uri = uri := ((executes_iff goes uri).mp executing).1
  have finished := course_of_success goes succeeds
  have status : ended.coordinator.status run.uri =
      (((begun.after during).course run.uri).finish run.direction .carried
        (begun.after during).timestamp).status := congrArg Course.status finished
  have accepted : answers.count .advanced ≤ answers.countP Observation.counts := by
    refine List.countP_mono_left fun answer _ advanced => ?_
    rw [eq_of_beq advanced]
    rfl
  refine ⟨congrArg Status.phase status, ?_⟩
  have pending : ended.coordinator.pendingChanges run.uri =
      if run.direction = .semanticToGraph then 0
      else (begun.after during).coordinator.pendingChanges run.uri :=
    congrArg Status.pendingChanges status
  rw [pending]
  cases direction : run.direction with
  | semanticToGraph => simp
  | graphToSemantic =>
    have kept : answers.count .advanced ≤ (begun.after during).coordinator.pendingChanges run.uri :=
      counted ▸ Nat.le_add_left_of_le accepted
    exact ⟨counted, iff_of_true kept (.inr rfl)⟩

/-- A model that takes a while to be carried over, as its run begins the attempt. -/
def slowReplay (uri : String) : List Move :=
  [.connect uri "a" .text, .ask uri .graphToSemantic [⟨400, .ok 1⟩], .work 0]

/-- A revision that is accepted meanwhile is still counted afterwards. -/
theorem carried_replay_keeps_accepted :
    let begun := (create .usual).after (slowReplay "file:///a.wf")
    let during : List Move := [.observe "file:///a.wf" ⟨1, 1, "a", 0, "first"⟩, .wait 400]
    begun.Executes "file:///a.wf" 0 ∧
      newAnswers "file:///a.wf" begun during = [.advanced] ∧
      1 ≤ ((begun.after during).act (.work 0)).coordinator.pendingChanges "file:///a.wf" := by
  intro begun during
  have executes : begun.Executes "file:///a.wf" 0 := ⟨_, rfl, rfl, Nat.one_pos⟩
  have accepted : newAnswers "file:///a.wf" begun during = [.advanced] := by decide +kernel
  have kept := (carried_sync_keeps_accepted_iff .usual (slowReplay "file:///a.wf") during
    "file:///a.wf" 0 0 1 _ executes rfl rfl).2.2.mpr (.inr rfl)
  exact ⟨executes, accepted, by rwa [accepted] at kept⟩

/-- A text that takes a while to be carried over, as its run begins the attempt. -/
def slowRefresh (uri : String) : List Move :=
  [.connect uri "a" .text, .ask uri .semanticToGraph [⟨400, .ok 1⟩], .work 0]

/-- A revision is accepted during the attempt, and the sync that is asked for on its
account is refused since the first one is under way. When that one ends the document is
synced and nothing is pending, so nobody comes back to the revision. -/
theorem carried_refresh_forgets_accepted :
    let begun := (create .usual).after (slowRefresh "file:///a.wf")
    let during : List Move := [.wait 100, .observe "file:///a.wf" ⟨1, 1, "a", 0, "first"⟩,
      .wait 300, .ask "file:///a.wf" .semanticToGraph [⟨0, .ok 1⟩], .work 0, .wait 400]
    let ended := (begun.after during).act (.work 0)
    begun.Executes "file:///a.wf" 0 ∧
      newAnswers "file:///a.wf" begun during = [.advanced] ∧
      ended.reports.get? 1 = some ⟨0, 0, 0⟩ ∧
      (ended.coordinator.status "file:///a.wf").phase = .synced ∧
      ended.coordinator.pendingChanges "file:///a.wf" = 0 := by
  intro begun during ended
  exact ⟨⟨_, rfl, rfl, Nat.one_pos⟩, by decide +kernel⟩

end Timeline

end Flowdesk.Sync
