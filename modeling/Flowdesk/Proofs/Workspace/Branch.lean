import Flowdesk.Workspace.Agenda

/-!
# Branches of what is done

What is done for a session may come to nothing in many ways: the session or its document is
gone, another sync is under way, a conflict stands, there is no model, nothing differs. A
law that holds in all these cases, and where something is done, holds of the outcome. Each
operation is told here by its branches, with what is known in them, once for all laws.
-/

namespace Flowdesk.Workspace

open Data Sync Workflow

variable {φ : Type} {motive : Workspace φ → Prop} {workspace : Workspace φ}

section Syncs

variable {session : Session} {number : Nat} {direction : Direction}

/-- A refresh does nothing, or shows the session its document, which has no conflict. -/
@[elab_as_elim] theorem refresh_branches (same : motive workspace)
    (shown : ∀ draft build, workspace.coordinator.hasConflict session.uri = false →
      workspace.registry.draft? session.uri = some draft →
      workspace.registry.build? session.uri = some build →
      motive (workspace.display session build draft).1) :
    motive (workspace.refresh session).1 := by
  unfold refresh
  split
  · exact same
  · next calm =>
    split
    · exact same
    · exact same
    · next draft build found built =>
      exact shown draft build (Bool.of_not_eq_true calm) found built

/-- A text is put in an open document by an update, unless it is the document's already. -/
@[elab_as_elim] theorem putText_branches {text : String} (same : motive workspace)
    (updated : ∀ draft, workspace.registry.draft? session.uri = some draft → draft.text ≠ text →
      motive (workspace.update .within session.uri draft.nextVersion text session.client).1) :
    motive (workspace.putText session text).1 := by
  unfold putText
  split
  · exact same
  · next draft found =>
    split
    · exact same
    · next differs => exact updated draft found differs

/-- A replay puts the text of the model in the document, if there is a model, and shows the
session what came of it, if the document is read as something then. -/
@[elab_as_elim] theorem writeBack_branches
    (rootless : session.view.root = none → motive workspace)
    (put : ∀ root, session.view.root = some root → motive (workspace.putText session root.write).1)
    (shown : ∀ root written draft build, session.view.root = some root →
      workspace.putText session root.write = (written, .ok ()) →
      written.registry.draft? session.uri = some draft →
      written.registry.build? session.uri = some build →
      motive (written.display session build draft).1) :
    motive (workspace.writeBack session).1 := by
  unfold writeBack
  split
  · next none => exact rootless none
  · next root model =>
    have stored := put root model
    split
    · next written failure result =>
      rw [result] at stored
      exact stored
    · next written result =>
      rw [result] at stored
      split
      · exact stored
      · exact stored
      · next draft build found built =>
        exact shown root written draft build model result found built

/-- What a sync carries over is made of updates of the session's document and of showing
the session what it is. -/
@[elab_as_elim] theorem attempt_branches (same : motive workspace)
    (updated : ∀ draft text, workspace.registry.draft? session.uri = some draft →
      motive (workspace.update .within session.uri draft.nextVersion text session.client).1)
    (shown : ∀ between draft build, motive between →
      motive (between.display session build draft).1) :
    motive (workspace.attempt session direction).1 := by
  have stored : ∀ text, motive (workspace.putText session text).1 :=
    fun text => putText_branches same fun draft found _ => updated draft text found
  cases direction with
  | semanticToGraph => exact refresh_branches same fun draft build _ _ _ => shown _ _ _ same
  | graphToSemantic =>
    refine writeBack_branches (fun _ => same) (fun root _ => stored root.write) ?_
    intro root written draft build _ result _ _
    have put := stored root.write
    rw [result] at put
    exact shown written draft build put

/-- A sync is begun, attempted and finished, unless there is no such session or another
sync of its document is under way. -/
@[elab_as_elim] theorem run_branches (same : motive workspace)
    (ran : ∀ session coordinator attempted ending, workspace.session? number = some session →
      workspace.coordinator.start? session.uri = some coordinator →
      (({ workspace with coordinator } : Workspace φ).attempt session direction).1 = attempted →
      motive (attempted.coordinate
        (·.finish session.uri direction ending attempted.timestamp))) :
    motive (workspace.run number direction).1 := by
  unfold run
  split
  · exact same
  · next session found =>
    split
    · exact same
    · next coordinator started => exact ran session coordinator _ _ found started rfl

/-- Actions are sent to the client of the session of a number, if there is one. -/
@[elab_as_elim] theorem publishBy_branches {actions : List Action} (same : motive workspace)
    (sent : ∀ session, workspace.session? number = some session →
      motive (workspace.publish session actions)) :
    motive (workspace.publishBy number actions) := by
  unfold publishBy
  split
  · exact same
  · next session found => exact sent session found

/-- A side of the conflicts of a session's document is replayed once they are set aside. For
the text, the document is accepted as it is. -/
@[elab_as_elim] theorem resolve_branches {side : Side} (same : motive workspace)
    (resolved : ∀ session accepted, workspace.session? number = some session →
      (side = .semantic ∧ accepted = workspace.current? session.uri ∨
        side = .graph ∧ accepted = none) →
      motive ((workspace.coordinate (·.beginResolution session.uri accepted)).runAndPublish number
        side.direction).1) :
    motive (workspace.resolve number side).1 := by
  unfold resolve
  split
  · exact same
  · next session found =>
    cases side with
    | semantic => exact resolved session _ found (.inl ⟨rfl, rfl⟩)
    | graph => exact resolved session none found (.inr ⟨rfl, rfl⟩)

/-- A text is committed by an update of the document at the version of the view, and comes
back into the view if the update is accepted. -/
@[elab_as_elim] theorem commit_branches {text : String} (same : motive workspace)
    (updated : ∀ draft, workspace.registry.draft? session.uri = some draft →
      draft.version = session.view.version →
      motive (workspace.update .within session.uri draft.nextVersion text session.client).1)
    (shown : ∀ draft, workspace.registry.draft? session.uri = some draft →
      draft.version = session.view.version →
      motive ((workspace.update .within session.uri draft.nextVersion text
        session.client).1.runAndPublish session.number .semanticToGraph).1) :
    motive (workspace.commit session text).1 := by
  unfold commit
  split
  · exact same
  · next draft found =>
    simp only
    split
    · exact same
    · next level =>
      have current : draft.version = session.view.version := Decidable.of_not_not level
      split
      · next after failure result =>
        have stored := updated draft found current
        rw [result] at stored
        exact stored
      · next after revision result =>
        have stored := shown draft found current
        rw [result] at stored
        exact stored

/-- A patch of an editable model without a conflict is committed as the text of what it
makes of the model. -/
@[elab_as_elim] theorem submitPatch_branches {patch : Patch} (same : motive workspace)
    (committed : ∀ flow edited, session.view.mode = .editable → session.view.flow = some flow →
      workspace.coordinator.hasConflict session.uri = false → patch.apply flow = .ok edited →
      motive (workspace.commit session (Document.write ⟨some edited⟩)).1) :
    motive (workspace.submitPatch session patch).1 := by
  unfold submitPatch
  split
  · exact same
  · exact same
  · next flow mode shown =>
    split
    · exact same
    · next calm =>
      split
      · exact same
      · next edited applied =>
        exact committed flow edited mode shown (Bool.of_not_eq_true calm) applied

end Syncs

section Agenda

variable {session : Session} {number : Nat}

/-- The next tick is planned, unless ticks have no period. -/
@[elab_as_elim] theorem planTick_branches (same : motive workspace)
    (planned : workspace.settings.autoSyncInterval.toNat ≠ 0 →
      motive (workspace.putOff workspace.settings.autoSyncInterval.toNat (.tick number))) :
    motive (workspace.planTick number) := by
  unfold planTick
  simp only
  split
  · exact same
  · next period => exact planned period

/-- The next tick is planned after a tick, which carries the document over if that is
due. -/
@[elab_as_elim] theorem tick_branches (rests : motive (workspace.planTick session.number))
    (carried : workspace.dueAtTick session = true →
      motive ((workspace.runAndPublish session.number .semanticToGraph).1.planTick
        session.number)) :
    motive (workspace.tick session) := by
  unfold tick
  split
  · next due => exact carried due
  · exact rests

/-- A call that nothing overtook is waited for no more and carried out. -/
@[elab_as_elim] theorem endWait_branches {call : Nat} {direction : Direction}
    (same : motive workspace)
    (ended : ∀ debouncer, session.debouncer.expire? session.uri call = some debouncer →
      motive ((workspace.changeSession session.number ({ · with debouncer })).runAndPublish
        session.number direction).1) :
    motive (workspace.endWait session call direction) := by
  unfold endWait
  split
  · next debouncer due => exact ended debouncer due
  · exact same

/-- A task is carried out for its session, if that is still there. The wait of a call is put
off, unless it has no length and so ends at once. -/
@[elab_as_elim] theorem perform_branches {task : Task}
    (gone : workspace.session? (taskSession task) = none → motive workspace)
    (begun : ∀ session number call direction,
      workspace.session? (taskSession task) = some session →
      task = .beginWait number call direction → session.debouncer.delay ≠ 0 →
      motive (workspace.putOff session.debouncer.delay (.endWait number call direction)))
    (ended : ∀ session number call direction,
      workspace.session? (taskSession task) = some session →
      (task = .beginWait number call direction ∧ session.debouncer.delay = 0 ∨
        task = .endWait number call direction) →
      motive (workspace.endWait session call direction))
    (ticksBegun : ∀ session number, workspace.session? (taskSession task) = some session →
      task = .beginTicks number → motive (workspace.planTick number))
    (ticked : ∀ session number, workspace.session? (taskSession task) = some session →
      task = .tick number → motive (workspace.tick session))
    (resolved : ∀ session number side, workspace.session? (taskSession task) = some session →
      task = .resolve number side → motive (workspace.resolve number side).1) :
    motive (workspace.perform task) := by
  unfold perform
  split
  · next session found =>
    cases task with
    | beginWait number call direction =>
      simp only [performFor]
      split
      · next none => exact ended session number call direction found (.inl ⟨rfl, none⟩)
      · next patient => exact begun session number call direction found rfl patient
    | endWait number call direction => exact ended session number call direction found (.inr rfl)
    | beginTicks number => exact ticksBegun session number found rfl
    | tick number => exact ticked session number found rfl
    | resolve number side => exact resolved session number side found rfl
  · next absent => exact gone absent

/-- The current revision of a document is judged, if it is open. -/
@[elab_as_elim] theorem observeCurrent_branches {uri : String} (same : motive workspace)
    (judged : ∀ draft, workspace.registry.draft? uri = some draft →
      motive (workspace.coordinate fun coordinator =>
        (coordinator.observe uri (draft.current workspace.timestamp)).2)) :
    motive (workspace.observeCurrent uri) := by
  unfold observeCurrent
  split
  · next revision current =>
    unfold current? at current
    obtain ⟨draft, found, rfl⟩ := Option.map_eq_some_iff.mp current
    exact judged draft found
  · exact same

/-- A session that is there ends, and its client lets go of the document. -/
@[elab_as_elim] theorem detach_branches (absent : motive workspace)
    (ended : ∀ session, workspace.session? number = some session →
      motive (({ workspace.coordinate (·.disconnect session.uri session.client) with
        sessions := workspace.sessions.filter (·.number ≠ number) } : Workspace φ).close
          session.uri session.client).1) :
    motive (workspace.detach number) := by
  unfold detach
  split
  · exact absent
  · next session found => exact ended session found

end Agenda

/-- A session begins once its document was opened for its client, and is shown the document.
Ticks are begun for it, or not. -/
@[elab_as_elim] theorem attach_branches [Files.Store φ]
    {motive : Workspace φ × Except Registry.Failure Nat → Prop} {uri client : String}
    (failed : ∀ opened failure,
      workspace.openFor ⟨uri, client, none, none, none⟩ = (opened, .error failure) →
      motive (opened, .error failure))
    (shown : ∀ opened, workspace.openFor ⟨uri, client, none, none, none⟩ = (opened, .ok ()) →
      motive ((((opened.enrol uri client).observeCurrent uri).runAndPublish opened.nextSession
        .semanticToGraph).1, .ok opened.nextSession))
    (ticksBegun : ∀ opened, workspace.openFor ⟨uri, client, none, none, none⟩ = (opened, .ok ()) →
      motive ((((opened.enrol uri client).observeCurrent uri).runAndPublish opened.nextSession
        .semanticToGraph).1.plan (.beginTicks opened.nextSession), .ok opened.nextSession)) :
    motive (workspace.attach uri client) := by
  unfold attach
  split
  · next opened failure result => exact failed opened failure result
  · next opened result =>
    simp only
    split
    · exact ticksBegun opened result
    · exact shown opened result

end Flowdesk.Workspace
