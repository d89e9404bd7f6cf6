import Flowdesk.Proofs.Sync.Move

/-!
# How a move touches the course of a document

A move concerns one document or none, and the course of any other document is spared.
What a move makes of the course that it concerns is told here once: a client joins or
leaves, a revision is judged, the conflicts are set aside, or a sync begins, ends or is
given up. Laws about courses are shown for each of these touches, and then hold along
all moves.
-/

namespace Flowdesk.Sync

open Data

namespace Timeline

/-- The course of a document. -/
def course (timeline : Timeline) (uri : String) : Course := timeline.coordinator.course uri

/-- The document whose course a move asks to change. -/
def Move.about? : Move → Option String
  | .connect uri _ _ | .disconnect uri _ | .observe uri _ | .beginResolution uri _ => some uri
  | .ask .. | .abandon _ | .work _ | .wait _ => none

/-- What a move makes of the course of a document. -/
inductive Touches (timeline : Timeline) (uri : String) : Move → Course → Prop where
  | spared (move : Move) (elsewhere : move.about? ≠ some uri) :
      Touches timeline uri move (timeline.course uri)
  | joined (client : String) (method : Method) :
      Touches timeline uri (.connect uri client method)
        ((timeline.course uri).connect client method)
  | left (client : String)
      (kept : ((timeline.course uri).disconnect client).abandoned = false) :
      Touches timeline uri (.disconnect uri client) ((timeline.course uri).disconnect client)
  /-- The last client left, and no sync is under way. -/
  | dropped (client : String)
      (unkept : ((timeline.course uri).disconnect client).abandoned = true) :
      Touches timeline uri (.disconnect uri client) .initial
  | judged (revision : Revision) :
      Touches timeline uri (.observe uri revision) ((timeline.course uri).observe uri revision).2
  | resolved (accepted : Option Revision) :
      Touches timeline uri (.beginResolution uri accepted)
        ((timeline.course uri).beginResolution accepted)
  | begun (position number : Nat) (run : Run) (course : Course)
      (ready : timeline.agenda.ready[position]? = some (.start number))
      (goes : timeline.run? number = some run) (here : run.uri = uri)
      (started : (timeline.course uri).start? = some course) :
      Touches timeline uri (.work position) course
  | ended (position number : Nat) (outcome : Except Failure Nat) (run : Run) (ending : Ending)
      (ready : timeline.agenda.ready[position]? = some (.judge number outcome))
      (goes : timeline.run? number = some run) (here : run.uri = uri)
      (last : (judge timeline.coordinator.settings.maxRetries run.repeated outcome).ending? =
        some ending) (gone : (timeline.act (.work position)).run? number = none) :
      Touches timeline uri (.work position)
        ((timeline.course uri).finish run.direction ending timeline.timestamp)
  | released (number : Nat) (run : Run) (goes : timeline.run? number = some run)
      (here : run.uri = uri) (executed : 0 < run.made)
      (gone : (timeline.act (.abandon number)).run? number = none) :
      Touches timeline uri (.abandon number) (timeline.course uri).release

section Touches

variable {timeline after : Timeline} {uri : String}

/-- A course that is as it was is spared. -/
theorem touches_of_same {move : Move} (elsewhere : move.about? ≠ some uri)
    (same : after.course uri = timeline.course uri) :
    timeline.Touches uri move (after.course uri) := same ▸ .spared move elsewhere

/-- If the course of one document is written, any other one is spared. -/
theorem touches_of_written {move : Move} {about : String} {course : Course}
    (written : after.course uri = if about = uri then course else timeline.course uri)
    (elsewhere : about ≠ uri → move.about? ≠ some uri)
    (touches : about = uri → timeline.Touches uri move course) :
    timeline.Touches uri move (after.course uri) := by
  rw [written]
  split
  · next here => exact touches here
  · next there => exact .spared move (elsewhere there)

/-- A turn of a run begins or ends a sync of its document, or spares all courses. -/
theorem Turn.touches {task : RunTask} {run : Run} {position : Nat}
    (turn : Turn (timeline.without position) run task (timeline.workAt position))
    (ready : timeline.agenda.ready[position]? = some task)
    (goes : timeline.run? task.number = some run) :
    timeline.Touches uri (.work position) ((timeline.workAt position).course uri) := by
  generalize result : timeline.workAt position = after at turn ⊢
  cases turn with
  | refused | resumed | repeated => exact touches_of_same nofun rfl
  | started number coordinator free =>
    obtain ⟨course, started, rfl⟩ := Option.map_eq_some_iff.mp free
    refine touches_of_written (Coordinator.course_setCourse _ run.uri uri course)
      (fun _ => nofun) ?_
    rintro rfl
    exact .begun position number run course ready goes rfl started
  | ended number outcome ending actions last =>
    refine touches_of_written (Coordinator.course_finish _ run.uri uri _ ending _)
      (fun _ => nofun) ?_
    rintro rfl
    refine .ended position number outcome run ending ready goes rfl last ?_
    change (timeline.workAt position).run? number = none
    rw [result]
    exact (Table.get?_erase _ number number).trans (if_pos rfl)

/-- Every move touches the course of a document in one of these ways. -/
theorem act_touches (timeline : Timeline) (move : Move) (uri : String) :
    timeline.Touches uri move ((timeline.act move).course uri) := by
  cases move with
  | ask => exact touches_of_same (Option.some_ne_none uri).symm rfl
  | wait time =>
    simp only [act]
    exact waitFor_branches (touches_of_same (Option.some_ne_none uri).symm rfl)
      fun _ => touches_of_same (Option.some_ne_none uri).symm rfl
  | connect about client method =>
    refine touches_of_written (Coordinator.course_connect _ about client uri method)
      (fun there same => there (Option.some.inj same)) ?_
    rintro rfl
    exact .joined client method
  | disconnect about client =>
    by_cases here : about = uri
    · subst here
      have left := Coordinator.course_disconnect timeline.coordinator about client
      cases unkept : ((timeline.course about).disconnect client).abandoned with
      | true =>
        rw [show (timeline.act (.disconnect about client)).course about = .initial from
          left.trans (if_pos unkept)]
        exact .dropped client unkept
      | false =>
        rw [show (timeline.act (.disconnect about client)).course about =
            (timeline.course about).disconnect client from
          left.trans (if_neg (Bool.eq_false_iff.mp unkept))]
        exact .left client unkept
    · exact touches_of_same (fun same => here (Option.some.inj same))
        (Coordinator.course_disconnect_of_ne _ client here)
  | observe about revision =>
    refine touches_of_written (Coordinator.course_observe _ about uri revision)
      (fun there same => there (Option.some.inj same)) ?_
    rintro rfl
    exact .judged revision
  | beginResolution about accepted =>
    refine touches_of_written (Coordinator.course_beginResolution _ about uri accepted)
      (fun there same => there (Option.some.inj same)) ?_
    rintro rfl
    exact .resolved accepted
  | abandon number =>
    have erased : (timeline.running.erase number).get? number = none :=
      (Table.get?_erase _ number number).trans (if_pos rfl)
    have ended : (timeline.act (.abandon number)).run? number = none := by
      simp only [act]
      exact abandon_branches id (fun _ _ _ => erased) fun _ _ _ => erased
    simp only [act]
    refine abandon_branches ?gone ?unbegun ?released
    case gone => exact fun _ => .spared _ (Option.some_ne_none uri).symm
    case unbegun => exact fun _ _ _ => touches_of_same (Option.some_ne_none uri).symm rfl
    case released =>
      intro run goes begun
      refine touches_of_written (Coordinator.course_release _ run.uri uri)
        (fun _ => (Option.some_ne_none uri).symm) ?_
      rintro rfl
      exact .released number run goes rfl (Nat.pos_of_ne_zero begun) ended
  | work position =>
    cases ready : timeline.agenda.ready[position]? with
    | none =>
      simp only [act, workAt, ready]
      exact .spared _ (Option.some_ne_none uri).symm
    | some task =>
      cases goes : (timeline.without position).run? task.number with
      | none =>
        simp only [act, workAt, ready, perform_of_gone goes]
        exact touches_of_same (Option.some_ne_none uri).symm rfl
      | some run => exact (workAt_turn ready goes).touches ready goes

end Touches

/-- A law of the course of a document that survives every touch holds after all moves. -/
theorem course_after {law : Course → Prop} {uri : String}
    (kept : ∀ (timeline : Timeline) (move : Move) (course : Course), law (timeline.course uri) →
      timeline.Touches uri move course → law course)
    {timeline : Timeline} (holds : law (timeline.course uri)) (moves : List Move) :
    law ((timeline.after moves).course uri) := by
  induction moves generalizing timeline with
  | nil => exact holds
  | cons first moves inductionHypothesis =>
    exact inductionHypothesis (kept timeline first _ holds (act_touches timeline first uri))

end Timeline

end Flowdesk.Sync
