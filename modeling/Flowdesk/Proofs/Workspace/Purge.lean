import Flowdesk.Proofs.Sync.Slice
import Flowdesk.Proofs.Workspace.Sending

/-!
# A workspace without the tasks of a session

What is planned for a session is not taken off the agenda when the session ends. To purge
the workspace of these tasks makes no difference then. Nothing that is done reads the
agenda but for the time, and nothing is planned but for sessions that are there. So what
is done to the purged workspace comes to the same as if it was done first and the
workspace purged afterwards.
-/

namespace Flowdesk

open Sync Workflow

/-- A task, unless it was planned for the session of a number. -/
def Task.unlessOf (number : Nat) (task : Task) : Option Task :=
  if Workspace.taskSession task = number then none else some task

/-- A task of another session is left alone. -/
theorem Task.unlessOf_of_ne {number : Nat} {task : Task}
    (different : Workspace.taskSession task ≠ number) : task.unlessOf number = some task :=
  if_neg different

namespace Workspace

variable {φ α ι : Type}

/-- The workspace without the tasks of the session of a number. -/
def purge (workspace : Workspace φ) (number : Nat) : Workspace φ :=
  { workspace with agenda := workspace.agenda.pick (Task.unlessOf number) }

/-- Documents are left as they are. -/
@[simp] theorem registry_purge (workspace : Workspace φ) (number : Nat) :
    (workspace.purge number).registry = workspace.registry := rfl

/-- So is what the coordinator knows. -/
@[simp] theorem coordinator_purge (workspace : Workspace φ) (number : Nat) :
    (workspace.purge number).coordinator = workspace.coordinator := rfl

/-- The settings are those of the coordinator. -/
@[simp] theorem settings_purge (workspace : Workspace φ) (number : Nat) :
    (workspace.purge number).settings = workspace.settings := rfl

/-- Sessions stay known, only tasks go. -/
@[simp] theorem session?_purge (workspace : Workspace φ) (number other : Nat) :
    (workspace.purge number).session? other = workspace.session? other := rfl

/-- Whether no session has a number. -/
def Lacks (workspace : Workspace φ) (number : Nat) : Prop :=
  ∀ session ∈ workspace.sessions, session.number ≠ number

/-- A number that no session is known by stays so while the same sessions are there. -/
theorem Sends.lacks {before after : Workspace φ} (sends : Sends before after) {number : Nat}
    (lacks : before.Lacks number) : after.Lacks number := by
  intro session present same
  have listed : session.entry ∈ before.sessions.map Session.entry :=
    sends.stay ▸ List.mem_map_of_mem present
  obtain ⟨earlier, was, known⟩ := List.mem_map.mp listed
  exact lacks earlier was ((congrArg Prod.fst known).trans same)

/-- The session that is found under a number has another one than a session that is not
there. -/
theorem Lacks.ne {workspace : Workspace φ} {number other : Nat} {session : Session}
    (lacks : workspace.Lacks number) (found : workspace.session? other = some session) :
    other ≠ number := by
  obtain ⟨present, rfl⟩ := of_session? found
  exact lacks session present

section Purge

variable {workspace : Workspace φ} {number : Nat}

/-- Steps that are made one for each thing in a list come to the same after a purge, if
each of them does as long as a law holds that they all keep. -/
theorem purge_foldl {step : Workspace φ → ι → Workspace φ} {items : List ι}
    (law : Workspace φ → Prop) (kept : ∀ workspace item, law workspace → law (step workspace item))
    (same : ∀ workspace, ∀ item ∈ items, law workspace →
      step (workspace.purge number) item = (step workspace item).purge number)
    (holds : law workspace) :
    items.foldl step (workspace.purge number) = (items.foldl step workspace).purge number := by
  induction items generalizing workspace with
  | nil => rfl
  | cons first items inductionHypothesis =>
    rw [List.foldl_cons, List.foldl_cons, same workspace first List.mem_cons_self holds]
    refine inductionHypothesis ?_ (kept workspace first holds)
    exact fun workspace item listed => same workspace item (List.mem_cons_of_mem first listed)

/-- A task of another session is planned behind those that are left, before or after the purge. -/
theorem plan_purge {task : Task} (different : taskSession task ≠ number) :
    (workspace.purge number).plan task = (workspace.plan task).purge number := by
  unfold plan purge
  rw [Agenda.pick_add _ (Task.unlessOf_of_ne different)]

/-- It is put off to the same point in time, since a purge leaves the clock alone. -/
theorem putOff_purge {task : Task} (different : taskSession task ≠ number) (delay : Nat) :
    (workspace.purge number).putOff delay task = (workspace.putOff delay task).purge number := by
  unfold putOff purge
  rw [Agenda.pick_putOff _ (Task.unlessOf_of_ne different)]

/-- What is sent goes to the outbox, which a purge does not touch. -/
theorem send_purge (client : String) (actions : List Action) :
    (workspace.purge number).send client actions =
      (workspace.send client actions).purge number := by
  obtain ⟨registry, coordinator, sessions, next, agenda, receiving, sent, announced⟩ := workspace
  cases receiving <;> rfl

/-- So does what a session is sent together with its status. -/
theorem publish_purge (session : Session) (actions : List Action) :
    (workspace.purge number).publish session actions =
      (workspace.publish session actions).purge number :=
  send_purge session.client _

/-- The session that is sent something is looked up among the same sessions. -/
theorem publishBy_purge (other : Nat) (actions : List Action) :
    (workspace.purge number).publishBy other actions =
      (workspace.publishBy other actions).purge number := by
  unfold publishBy
  rw [session?_purge]
  cases workspace.session? other with
  | none => rfl
  | some session => exact publish_purge session actions

/-- A session that is there plans the wait of a debounced sync. -/
theorem schedule_purge {session : Session} (different : session.number ≠ number)
    (direction : Direction) :
    (workspace.purge number).schedule session direction =
      (workspace.schedule session direction).purge number := by
  let call : Nat × Debouncer String := session.debouncer.call session.uri
  let registered : Workspace φ :=
    workspace.changeSession session.number ({ · with debouncer := call.2 })
  have ready : taskSession (.beginWait session.number call.1 direction) ≠ number := different
  have planned : (registered.purge number).plan (.beginWait session.number call.1 direction) =
      (registered.plan (.beginWait session.number call.1 direction)).purge number :=
    plan_purge ready
  exact planned

/-- What a conflict leads a session to is the same with or without the tasks of another
session: the resolution is planned for the session itself, or its client is told. -/
theorem meetConflict_purge {session : Session} (different : session.number ≠ number)
    (clock : Clock) :
    (workspace.purge number).meetConflict clock session =
      (workspace.meetConflict clock session).purge number := by
  unfold meetConflict
  rw [settings_purge]
  cases workspace.settings.resolution.preferred with
  | none => exact publish_purge session []
  | some side =>
    have ready : taskSession (.resolve session.number side) ≠ number := different
    simp only
    split
    · exact plan_purge ready
    · rfl

/-- So a session hears of an update with or without the tasks of another one. -/
theorem hear_purge {session : Session} (different : session.number ≠ number) (clock : Clock)
    (update : Registry.Update) :
    (workspace.purge number).hear clock session update =
      (workspace.hear clock session update).purge number := by
  let judged : Workspace φ := { workspace with
    coordinator := (workspace.coordinator.observe session.uri update.revision).2 }
  have met : (judged.purge number).meetConflict clock session =
      (judged.meetConflict clock session).purge number := meetConflict_purge different clock
  have followed (direction : Direction) :
      (if clock = .within ∧ update.client ≠ session.client then
        (judged.purge number).schedule session direction else judged.purge number) =
      (if clock = .within ∧ update.client ≠ session.client then
        judged.schedule session direction else judged).purge number := by
    split
    · exact schedule_purge different direction
    · rfl
  unfold hear
  split
  · rfl
  · rw [coordinator_purge]
    simp only
    cases (workspace.coordinator.observe session.uri update.revision).1 with
    | conflict conflict => exact met
    | advanced => exact followed .semanticToGraph
    | keepLocal => exact followed .graphToSemantic
    | inSync =>
      simp only
      split
      · exact followed .semanticToGraph
      · rfl

/-- A number that is not the purged one leads to a session that is heard, or to none. -/
theorem hearBy_purge (clock : Clock) (update : Registry.Update) {other : Nat}
    (different : other ≠ number) :
    hearBy clock update (workspace.purge number) other =
      (hearBy clock update workspace other).purge number := by
  unfold hearBy
  rw [session?_purge]
  cases found : workspace.session? other with
  | none => rfl
  | some session =>
    simp only
    split
    · exact hear_purge ((of_session? found).2 ▸ different) clock update
    · rfl

/-- Listeners are the sessions that are there, so an event reaches none whose tasks are purged. -/
theorem announce_purge (lacks : workspace.Lacks number) (clock : Clock) (event : Registry.Event) :
    announce clock (workspace.purge number) event =
      (announce clock workspace event).purge number := by
  cases event with
  | saved saved => rfl
  | updated update =>
    let noted : Workspace φ :=
      { workspace with announced := .updated update :: workspace.announced }
    have heard : (workspace.sessions.map (·.number)).foldl (hearBy clock update)
          (noted.purge number) =
        ((workspace.sessions.map (·.number)).foldl (hearBy clock update) noted).purge number := by
      refine purge_foldl (fun _ => True) (fun _ _ _ => trivial) ?_ trivial
      intro workspace other listed _
      obtain ⟨session, present, rfl⟩ := List.mem_map.mp listed
      exact hearBy_purge clock update (lacks session present)
    exact heard

/-- What is adopted from the registry is heard with or without the tasks of a session that
is not there. -/
theorem adopt_purge (lacks : workspace.Lacks number) (clock : Clock)
    (outcome : Registry.Outcome φ α) :
    (workspace.purge number).adopt clock outcome =
      ((workspace.adopt clock outcome).1.purge number, outcome.result) := by
  let taken : Workspace φ := { workspace with registry := outcome.registry }
  have heard : outcome.events.foldl (announce clock) (taken.purge number) =
      (outcome.events.foldl (announce clock) taken).purge number := by
    refine purge_foldl (Lacks · number) ?_ ?_ lacks
    · exact fun workspace event still => (undrawn_announce workspace clock event).lacks still
    · exact fun workspace event _ still => announce_purge still clock event
  exact congrArg (·, outcome.result) heard

/-- A document is updated in the registry, and what is announced of it is heard. -/
theorem update_purge (lacks : workspace.Lacks number) (clock : Clock) (uri : String)
    (claimed : UInt64) (text client : String) :
    (workspace.purge number).update clock uri claimed text client =
      ((workspace.update clock uri claimed text client).1.purge number,
        (workspace.update clock uri claimed text client).2) :=
  adopt_purge lacks clock _

/-- The text of a model is put in a document that the registry has open. -/
theorem putText_purge (lacks : workspace.Lacks number) (session : Session) (text : String) :
    (workspace.purge number).putText session text =
      ((workspace.putText session text).1.purge number, (workspace.putText session text).2) := by
  unfold putText
  rw [registry_purge]
  cases workspace.registry.draft? session.uri with
  | none => rfl
  | some draft =>
    simp only [update_purge lacks]
    split <;> rfl

/-- A refresh reads the registry and the conflicts, and plans nothing. -/
theorem refresh_purge (session : Session) :
    (workspace.purge number).refresh session =
      ((workspace.refresh session).1.purge number, (workspace.refresh session).2) := by
  unfold refresh
  rw [coordinator_purge, registry_purge]
  split
  · rfl
  · cases workspace.registry.draft? session.uri with
    | none => rfl
    | some draft => cases workspace.registry.build? session.uri <;> rfl

/-- A model is written back: the text is put in the document first, and then read from the same
registry. -/
theorem writeBack_purge (lacks : workspace.Lacks number) (session : Session) :
    (workspace.purge number).writeBack session =
      ((workspace.writeBack session).1.purge number, (workspace.writeBack session).2) := by
  unfold writeBack
  cases session.view.root with
  | none => rfl
  | some root =>
    simp only [putText_purge lacks]
    generalize workspace.putText session root.write = put
    obtain ⟨written, result⟩ := put
    cases result with
    | error failure => rfl
    | ok done =>
      simp only [registry_purge]
      cases written.registry.draft? session.uri with
      | none => rfl
      | some draft => cases written.registry.build? session.uri <;> rfl

/-- Either direction of a sync is attempted alike. -/
theorem attempt_purge (lacks : workspace.Lacks number) (session : Session)
    (direction : Direction) :
    (workspace.purge number).attempt session direction =
      ((workspace.attempt session direction).1.purge number,
        (workspace.attempt session direction).2) := by
  cases direction with
  | semanticToGraph => exact refresh_purge session
  | graphToSemantic => exact writeBack_purge lacks session

/-- A sync is run with or without the tasks of a session that is not there.

Proof: the purge leaves the session, the coordinator and the registry alone, so the run begins
and is attempted alike. What the attempt leads others to plan commutes with the purge, and how
the run ends is told to the coordinator. -/
theorem run_purge (lacks : workspace.Lacks number) (other : Nat) (direction : Direction) :
    (workspace.purge number).run other direction =
      ((workspace.run other direction).1.purge number, (workspace.run other direction).2) := by
  unfold run
  rw [session?_purge, coordinator_purge]
  cases workspace.session? other with
  | none => rfl
  | some session =>
    simp only
    cases workspace.coordinator.start? session.uri with
    | none => rfl
    | some coordinator =>
      let begun : Workspace φ := { workspace with coordinator }
      have still : begun.Lacks number := lacks
      have attempted : (begun.purge number).attempt session direction =
          ((begun.attempt session direction).1.purge number,
            (begun.attempt session direction).2) := attempt_purge still session direction
      change (_, _) = (_, _)
      exact congrArg (fun outcome : Workspace φ × Except Sync.Failure (List Action) =>
        (outcome.1.coordinate (·.finish session.uri direction (.of outcome.2)
          outcome.1.timestamp), outcome.2.toOption.getD [])) attempted

/-- And what comes of the sync is sent to the same client. -/
theorem runAndPublish_purge (lacks : workspace.Lacks number) (other : Nat)
    (direction : Direction) :
    (workspace.purge number).runAndPublish other direction =
      ((workspace.runAndPublish other direction).1.purge number,
        (workspace.runAndPublish other direction).2) := by
  unfold runAndPublish
  simp only [run_purge lacks, publishBy_purge]

/-- Conflicts are set aside in the coordinator, and a side of them is replayed by a sync. -/
theorem resolve_purge (lacks : workspace.Lacks number) (other : Nat) (side : Side) :
    (workspace.purge number).resolve other side =
      ((workspace.resolve other side).1.purge number, (workspace.resolve other side).2) := by
  unfold resolve
  rw [session?_purge]
  cases workspace.session? other with
  | none => rfl
  | some session =>
    let settled (accepted : Option Revision) : Workspace φ :=
      workspace.coordinate (·.beginResolution session.uri accepted)
    have still (accepted : Option Revision) : (settled accepted).Lacks number := lacks
    exact runAndPublish_purge (still _) other side.direction

/-- A commit updates the document and refreshes its session. The number is still nobody's in
between, since an update begins no session. -/
theorem commit_purge (lacks : workspace.Lacks number) (session : Session) (text : String) :
    (workspace.purge number).commit session text =
      ((workspace.commit session text).1.purge number, (workspace.commit session text).2) := by
  unfold commit
  rw [registry_purge]
  cases workspace.registry.draft? session.uri with
  | none => rfl
  | some draft =>
    simp only
    split
    · rfl
    · rw [update_purge lacks]
      have updated : Sends workspace
          (workspace.update .within session.uri draft.nextVersion text session.client).1 :=
        (undrawn_adopt workspace .within _).toSends
      generalize workspace.update .within session.uri draft.nextVersion text session.client =
        outcome at updated
      obtain ⟨after, result⟩ := outcome
      cases result with
      | error failure => rfl
      | ok revision => simp only [runAndPublish_purge (updated.lacks lacks)]

/-- What an edit makes of a model depends on the view of its session and on the conflicts. -/
theorem submitPatch_purge (lacks : workspace.Lacks number) (session : Session) (patch : Patch) :
    (workspace.purge number).submitPatch session patch =
      ((workspace.submitPatch session patch).1.purge number,
        (workspace.submitPatch session patch).2) := by
  unfold submitPatch
  rw [coordinator_purge]
  cases session.view.mode with
  | readonly => rfl
  | editable =>
    cases session.view.flow with
    | none => rfl
    | some flow =>
      simp only
      split
      · rfl
      · cases patch.apply flow with
        | error failure => rfl
        | ok edited => exact commit_purge lacks session _

/-- The next tick of another session is put off. -/
theorem planTick_purge {other : Nat} (different : other ≠ number) :
    (workspace.purge number).planTick other = (workspace.planTick other).purge number := by
  have ready : taskSession (.tick other) ≠ number := different
  unfold planTick
  rw [settings_purge]
  simp only
  split
  · rfl
  · exact putOff_purge ready _

/-- Whether a tick has anything to do is not decided by the agenda. -/
theorem tick_purge (lacks : workspace.Lacks number) {session : Session}
    (different : session.number ≠ number) :
    (workspace.purge number).tick session = (workspace.tick session).purge number := by
  have due : (workspace.purge number).dueAtTick session = workspace.dueAtTick session := rfl
  unfold tick
  rw [due, runAndPublish_purge lacks]
  split
  · exact planTick_purge different
  · exact planTick_purge different

/-- The end of a wait takes the call out of the debouncer of its session, and runs a sync. -/
theorem endWait_purge (lacks : workspace.Lacks number) (session : Session) (call : Nat)
    (direction : Direction) :
    (workspace.purge number).endWait session call direction =
      (workspace.endWait session call direction).purge number := by
  unfold endWait
  cases session.debouncer.expire? session.uri call with
  | none => rfl
  | some debouncer =>
    let begun : Workspace φ := workspace.changeSession session.number ({ · with debouncer })
    have beginning : Undrawn workspace begun := undrawn_changeSession workspace _ _ fun _ => rfl
    exact congrArg Prod.fst (runAndPublish_purge (beginning.lacks lacks) session.number direction)

/-- A task of a session that is there is carried out with or without those of one that is
not.

Proof: by cases on the task. Whatever it does, it plans for its own session or for sessions
that hear of it, all of which are there and so have other numbers than the purged one, and
what is planned for them commutes with the purge. -/
theorem perform_purge (lacks : workspace.Lacks number) (task : Task) :
    (workspace.purge number).perform task = (workspace.perform task).purge number := by
  unfold perform
  rw [session?_purge]
  cases found : workspace.session? (taskSession task) with
  | none => rfl
  | some session =>
    obtain ⟨present, same⟩ := of_session? found
    have different : taskSession task ≠ number := lacks.ne found
    cases task with
    | beginWait other call direction =>
      have ready : taskSession (.endWait other call direction) ≠ number := different
      simp only [performFor]
      split
      · exact endWait_purge lacks session call direction
      · exact putOff_purge ready _
    | endWait _ call direction => exact endWait_purge lacks session call direction
    | beginTicks other => exact planTick_purge different
    | tick _ => exact tick_purge lacks (lacks session present)
    | resolve other side => exact congrArg Prod.fst (resolve_purge lacks other side)

/-- The current revision is read from the registry and judged by the coordinator. -/
theorem observeCurrent_purge (uri : String) :
    (workspace.purge number).observeCurrent uri = (workspace.observeCurrent uri).purge number := by
  have current : (workspace.purge number).current? uri = workspace.current? uri := rfl
  unfold observeCurrent
  rw [current]
  cases workspace.current? uri <;> rfl

/-- Time goes on past the purged tasks as it does past all tasks. -/
theorem waitFor_purge (time : Nat) :
    (workspace.purge number).waitFor time = (workspace.waitFor time).purge number := by
  have now : (workspace.purge number).agenda.now = workspace.agenda.now := rfl
  unfold waitFor
  rw [now]
  split
  · unfold purge
    rw [Agenda.pick_moveTo]
  · rfl

/-- Another session ends with or without the tasks of one that is not there. -/
theorem detach_purge (lacks : workspace.Lacks number) (other : Nat) :
    (workspace.purge number).detach other = (workspace.detach other).purge number := by
  unfold detach
  rw [session?_purge]
  cases workspace.session? other with
  | none => rfl
  | some session =>
    let without : Workspace φ :=
      { workspace.coordinate (·.disconnect session.uri session.client) with
        sessions := workspace.sessions.filter (·.number ≠ other) }
    have left : without.Lacks number :=
      fun session present => lacks session (List.mem_of_mem_filter present)
    exact congrArg Prod.fst (adopt_purge left .within _)

/-- A session begins with or without the tasks of one that is not there, if it gets
another number.

Proof: the document is opened in the registry, which the purge leaves alone. The new session
is then the only one that the number could be confused with, and it is numbered above all that
were ever given. -/
theorem attach_purge [Files.Store φ] (orderly : workspace.Orderly)
    (lacks : workspace.Lacks number) (known : number < workspace.nextSession)
    (uri client : String) :
    (workspace.purge number).attach uri client =
      ((workspace.attach uri client).1.purge number, (workspace.attach uri client).2) := by
  let opening : Registry.Opening := ⟨uri, client, none, none, none⟩
  have opened : (workspace.purge number).openFor opening =
      ((workspace.openFor opening).1.purge number, (workspace.openFor opening).2) :=
    adopt_purge lacks .within _
  have next : (workspace.openFor opening).1.nextSession = workspace.nextSession :=
    congrArg Guests.next (guests_opened orderly opening)
  have remain : Sends workspace (workspace.openFor opening).1 :=
    (undrawn_adopt workspace .within _).toSends
  have still := remain.lacks lacks
  unfold attach
  rw [opened]
  generalize workspace.openFor opening = outcome at next still
  obtain ⟨after, result⟩ := outcome
  cases result with
  | error failure => rfl
  | ok done =>
    -- a number is never given again, so the first tick that is planned is not purged
    have different : after.nextSession ≠ number := next ▸ Nat.ne_of_gt known
    have ready : taskSession (.beginTicks after.nextSession) ≠ number := different
    have enrolled : (after.enrol uri client).Lacks number := by
      intro session present
      rcases List.mem_append.mp present with was | fresh
      · exact still session was
      · rw [List.mem_singleton.mp fresh]
        exact different
    have judged : ((after.enrol uri client).observeCurrent uri).Lacks number :=
      (sends_observeCurrent _ uri).lacks enrolled
    have observed : ((after.enrol uri client).purge number).observeCurrent uri =
        ((after.enrol uri client).observeCurrent uri).purge number := observeCurrent_purge uri
    have shown : ((after.purge number).enrol uri client).observeCurrent uri =
        ((after.enrol uri client).observeCurrent uri).purge number := observed
    have settled : (after.purge number).nextSession = after.nextSession := rfl
    simp only [shown, settled, runAndPublish_purge judged, settings_purge]
    split
    · rw [plan_purge ready]
    · rfl

end Purge

end Workspace

end Flowdesk
