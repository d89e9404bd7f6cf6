import Flowdesk.Proofs.Data.Lapse
import Flowdesk.Proofs.Sync.Move

/-!
# Conflicts in the status of a document

A conflict is recorded in one place and shown in another: the list of the conflicts of a
document, and its phase. A judgement that raises a conflict writes both, and so does a
resolution, but a sync that ends writes the phase alone, whatever is recorded. So a
conflict is hidden by a sync that ends well or fails while the conflict is recorded, and
it stays hidden until another conflict is raised, the conflicts are set aside, a sync is
deferred, or the course is dropped with its last client.
-/

namespace Flowdesk.Sync.Timeline

open Data

/-- Whether the phase of a document says so if a conflict on it is active. -/
def ShowsConflicts (uri : String) (timeline : Timeline) : Prop :=
  timeline.coordinator.hasConflict uri = true →
    (timeline.coordinator.status uri).phase = .conflict

/-- Whether a move ends a sync of a document in some way. -/
def Ends (timeline : Timeline) (uri : String) (ending : Ending) : Move → Prop
  | .work position => ∃ number outcome run,
      timeline.agenda.ready[position]? = some (.judge number outcome) ∧
      timeline.run? number = some run ∧ run.uri = uri ∧
      (judge timeline.coordinator.settings.maxRetries run.repeated outcome).ending? = some ending
  | _ => False

/-- Whether a move hides the conflicts of a document: a sync of it is carried out or
fails although a conflict is active. -/
def Hides (uri : String) (timeline : Timeline) (move : Move) : Prop :=
  timeline.coordinator.hasConflict uri = true ∧
    (timeline.Ends uri .carried move ∨ timeline.Ends uri .failed move)

/-- Whether a move makes the phase of a document tell of its conflicts again: another
conflict is raised, the conflicts are set aside, the course is dropped with its last
client, or a sync is deferred. -/
def Reveals (uri : String) (timeline : Timeline) : Move → Prop
  | .observe other revision => other = uri ∧
      (timeline.coordinator.course uri).seen? revision = none ∧
      ∃ conflict, (timeline.coordinator.course uri).judge uri revision = .conflict conflict
  | .beginResolution other _ => other = uri
  | .disconnect other client => other = uri ∧
      ((timeline.coordinator.course uri).disconnect client).abandoned = true
  | .work position => timeline.Ends uri .deferred (.work position)
  | _ => False

section Moves

variable {before after : Timeline} {uri : String}

/-- Conflicts are shown where the phase says that there are some. -/
theorem showsConflicts_of_phase (told : (before.coordinator.status uri).phase = .conflict) :
    before.ShowsConflicts uri := fun _ => told

/-- Conflicts are shown where there are none. -/
theorem showsConflicts_of_none (calm : before.coordinator.hasConflict uri = false) :
    before.ShowsConflicts uri :=
  fun active => absurd (calm.symm.trans active) Bool.false_ne_true

/-- Whether conflicts are shown depends on the conflicts and on the phase alone. -/
theorem showsConflicts_congr
    (conflicts : (after.coordinator.course uri).status.conflicts =
      (before.coordinator.course uri).status.conflicts)
    (phase : (after.coordinator.course uri).status.phase = .conflict ↔
      (before.coordinator.course uri).status.phase = .conflict) :
    after.ShowsConflicts uri ↔ before.ShowsConflicts uri := by
  unfold ShowsConflicts
  rw [Coordinator.hasConflict_congr conflicts]
  exact imp_congr_right fun _ => phase

/-- A document whose course is as it was shows its conflicts as it did. -/
theorem showsConflicts_of_same
    (same : after.coordinator.course uri = before.coordinator.course uri) :
    after.ShowsConflicts uri ↔ before.ShowsConflicts uri :=
  showsConflicts_congr (congrArg (·.status.conflicts) same) (by rw [same])

/-- So does a document if the course of one document is written, with the conflicts and
the phase that it had. -/
theorem showsConflicts_of_written {other : String} {course : Course}
    (written : after.coordinator.course uri =
      if other = uri then course else before.coordinator.course uri)
    (same : other = uri →
      course.status.conflicts = (before.coordinator.course uri).status.conflicts ∧
      course.status.phase = (before.coordinator.course uri).status.phase) :
    after.ShowsConflicts uri ↔ before.ShowsConflicts uri := by
  by_cases here : other = uri
  · rw [if_pos here] at written
    obtain ⟨conflicts, phase⟩ := same here
    apply showsConflicts_congr
    · rw [written, conflicts]
    · rw [written, phase]
  · exact showsConflicts_of_same (written.trans (if_neg here))

/-- A move that ends a sync of a document ends it in its course. -/
theorem course_of_ends {ending : Ending} {move : Move} (ends : before.Ends uri ending move) :
    ∃ direction now, (before.act move).coordinator.course uri =
      (before.coordinator.course uri).finish direction ending now := by
  cases move with
  | work position =>
    obtain ⟨number, outcome, run, ready, goes, rfl, last⟩ := ends
    have turn := workAt_turn ready goes
    change ∃ direction now, (before.workAt position).coordinator.course run.uri = _
    generalize before.workAt position = after at turn ⊢
    cases turn with
    | ended _ _ other actions so =>
      obtain rfl := Option.some.inj (so.symm.trans last)
      refine ⟨run.direction, before.timestamp, ?_⟩
      exact (Coordinator.course_finish _ _ _ _ _ _).trans (if_pos rfl)
    | repeated _ _ delay again =>
      exact nomatch (congrArg Verdict.ending? again).symm.trans last
  | _ => exact ends.elim

/-- A turn leaves the conflicts of a document shown or not, as they were, unless it ends
a sync in a way that hides or reveals them. -/
theorem Turn.showsConflicts {task : RunTask} {run : Run} {position : Nat}
    (turn : Turn (before.without position) run task after)
    (ready : before.agenda.ready[position]? = some task)
    (goes : before.run? task.number = some run)
    (unhidden : ¬Hides uri before (.work position))
    (unrevealed : ¬Reveals uri before (.work position)) :
    after.ShowsConflicts uri ↔ before.ShowsConflicts uri := by
  cases turn with
  | refused number busy => exact showsConflicts_of_same rfl
  | resumed number => exact showsConflicts_of_same rfl
  | repeated number outcome delay again => exact showsConflicts_of_same rfl
  | started number coordinator free =>
    exact showsConflicts_congr (Coordinator.start?_same free uri).2.1
      (Coordinator.phase_start? free uri)
  | ended number outcome ending actions last =>
    have finished := Coordinator.course_finish before.coordinator run.uri uri run.direction ending
      before.timestamp
    by_cases here : run.uri = uri
    · have ends : before.Ends uri ending (.work position) :=
        ⟨number, outcome, run, ready, goes, here, last⟩
      have calm : before.coordinator.hasConflict uri = false := by
        by_contra active
        have active := Bool.of_not_eq_false active
        cases ending with
        | carried => exact unhidden ⟨active, .inl ends⟩
        | failed => exact unhidden ⟨active, .inr ends⟩
        | deferred => exact unrevealed ends
      have still : (before.coordinator.finish run.uri run.direction ending
          before.timestamp).hasConflict uri = false :=
        (Coordinator.hasConflict_congr (Coordinator.finish_same _ _ _ _ _ uri).2.1).trans calm
      exact iff_of_true (showsConflicts_of_none still) (showsConflicts_of_none calm)
    · exact showsConflicts_of_same (finished.trans (if_neg here))

/-- A sync that is carried out or fails shows no conflict. -/
theorem Hides.not_shown {move : Move} (hides : Hides uri before move) :
    ¬(before.act move).ShowsConflicts uri := by
  obtain ⟨active, ends⟩ := hides
  have hidden {ending : Ending} (ends : before.Ends uri ending move) (silent : ending ≠ .deferred) :
      ¬(before.act move).ShowsConflicts uri := by
    obtain ⟨direction, now, finished⟩ := course_of_ends ends
    intro shows
    have still : (before.act move).coordinator.hasConflict uri = true := by
      rw [← active]
      refine Coordinator.hasConflict_congr ?_
      rw [finished]
      cases ending <;> rfl
    have told := shows still
    rw [Coordinator.status, finished] at told
    cases ending with
    | deferred => exact silent rfl
    | carried => exact nomatch told
    | failed => exact nomatch told
  rcases ends with ends | ends
  · exact hidden ends (fun same => nomatch same)
  · exact hidden ends (fun same => nomatch same)

/-- Whatever reveals the conflicts of a document shows them. -/
theorem Reveals.shown {move : Move} (reveals : Reveals uri before move) :
    (before.act move).ShowsConflicts uri := by
  cases move with
  | observe other revision =>
    obtain ⟨rfl, unseen, conflict, judged⟩ := reveals
    apply showsConflicts_of_phase
    simp only [act, coordinate, Coordinator.status, Coordinator.course_observe, if_true]
    exact Course.phase_of_conflict unseen judged
  | beginResolution other accepted =>
    obtain rfl := reveals
    apply showsConflicts_of_none
    simp only [act, coordinate, Coordinator.hasConflict, Coordinator.status,
      Coordinator.course_beginResolution, if_true]
    rfl
  | disconnect other client =>
    obtain ⟨rfl, dropped⟩ := reveals
    apply showsConflicts_of_none
    simp only [act, coordinate, Coordinator.hasConflict, Coordinator.status,
      Coordinator.course_disconnect, dropped, if_true]
    rfl
  | work position =>
    have ends : before.Ends uri .deferred (.work position) := reveals
    obtain ⟨direction, now, finished⟩ := course_of_ends ends
    apply showsConflicts_of_phase
    rw [Coordinator.status, finished]
    rfl
  | _ => exact reveals.elim

/-- A move that neither hides nor reveals conflicts leaves them shown or not, as they
were. -/
theorem showsConflicts_act {move : Move} (unhidden : ¬Hides uri before move)
    (unrevealed : ¬Reveals uri before move) :
    (before.act move).ShowsConflicts uri ↔ before.ShowsConflicts uri := by
  cases move with
  | ask => exact showsConflicts_of_same rfl
  | wait time =>
    simp only [act]
    exact waitFor_branches (showsConflicts_of_same rfl) fun _ => showsConflicts_of_same rfl
  | abandon number =>
    simp only [act]
    refine abandon_branches (fun _ => showsConflicts_of_same rfl)
      (fun _ _ _ => showsConflicts_of_same rfl) fun run _ _ => ?_
    exact showsConflicts_of_written (Coordinator.course_release _ run.uri uri)
      fun here => here ▸ ⟨rfl, rfl⟩
  | connect other client method =>
    exact showsConflicts_of_written (Coordinator.course_connect _ other client uri method)
      fun here => here ▸ ⟨rfl, rfl⟩
  | observe other revision =>
    refine showsConflicts_of_written (Coordinator.course_observe _ other uri revision) ?_
    rintro rfl
    exact Course.status_observe fun conflict unseen raised =>
      unrevealed ⟨rfl, unseen, conflict, raised⟩
  | disconnect other client =>
    by_cases here : other = uri
    · subst here
      have left := Coordinator.course_disconnect before.coordinator other client
      rw [if_neg fun dropped => unrevealed ⟨rfl, dropped⟩] at left
      exact showsConflicts_of_written (left.trans (if_pos rfl).symm) fun _ => ⟨rfl, rfl⟩
    · exact showsConflicts_of_same (Coordinator.course_disconnect_of_ne _ client here)
  | beginResolution other accepted =>
    exact showsConflicts_of_written (Coordinator.course_beginResolution _ other uri accepted)
      fun here => absurd here unrevealed
  | work position =>
    simp only [act]
    exact workAt_branches (fun _ => .rfl) (fun _ _ _ => showsConflicts_of_same rfl)
      fun _ _ _ ready goes turn => turn.showsConflicts ready goes unhidden unrevealed

end Moves

/-- After any moves the status of a document tells of its active conflicts exactly if no
sync of it was carried out or failed during a conflict, but for syncs after which another
conflict was raised, the conflicts were set aside, a sync was deferred, or the course was
dropped.

Proof: whether the status shows the conflicts is swayed by moves. Those that hide break it, those
that reveal restore it, and any other move leaves the phase and whether there are conflicts as
they were. -/
theorem conflicts_shown_iff (settings : Settings) (moves : List Move) (uri : String) :
    (((create settings).after moves).coordinator.hasConflict uri = true →
      (((create settings).after moves).coordinator.status uri).phase = .conflict) ↔
    ¬Lapsed act (Hides uri) (Reveals uri) (create settings) moves := by
  have sways : Sways act (fun _ => True) (ShowsConflicts uri) (Hides uri) (Reveals uri) := by
    constructor
    · exact fun _ _ _ => trivial
    · exact fun _ _ _ hides => hides.not_shown
    · exact fun _ _ _ reveals => reveals.shown
    · exact fun _ _ _ unhidden unrevealed => showsConflicts_act unhidden unrevealed
  exact sways.law_iff trivial (showsConflicts_of_none rfl) moves

/-- A sync during which a revision of the accepted version comes in with other content. -/
def contested (uri : String) : List Move :=
  [.connect uri "a" .text, .observe uri ⟨1, 1, "a", 0, "first"⟩,
    .ask uri .semanticToGraph [⟨100, .ok 1⟩], .work 0, .observe uri ⟨1, 1, "a", 50, "second"⟩,
    .wait 100, .work 0]

/-- The conflict is recorded at the end of the sync, and the status does not tell. -/
theorem carried_sync_hides_conflict :
    let timeline := (create .usual).after (contested "file:///a.wf")
    timeline.coordinator.hasConflict "file:///a.wf" = true ∧
      (timeline.coordinator.status "file:///a.wf").phase = .synced := by
  decide +kernel

end Flowdesk.Sync.Timeline
