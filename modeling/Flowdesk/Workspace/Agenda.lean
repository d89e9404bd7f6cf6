import Flowdesk.Workspace.Sync

/-!
# The agenda of a workspace

How sessions come and go, and what becomes of the tasks that were planned for them.
Nothing that was planned for a session outlives it: a task looks for its session
first, and does nothing if the session is gone.

A task that is ready is carried out whole before another one is looked at. Tasks are
cooperative, so this is one of the courses that things may take on a single thread; on several
threads two tasks may overlap, which is not told here.
-/

namespace Flowdesk.Workspace

open Sync

variable {φ : Type}

/-- The workspace with a session begun for a client that holds the document. -/
def enrol (workspace : Workspace φ) (uri client : String) : Workspace φ :=
  let session : Session :=
    ⟨workspace.nextSession, uri, client, .initial,
      .create workspace.settings.debounceDelay.toNat⟩
  { workspace.coordinate (·.connect uri client .graphical) with
    sessions := workspace.sessions ++ [session]
    nextSession := workspace.nextSession + 1 }

/-- The workspace after the current revision of a document was judged. -/
def observeCurrent (workspace : Workspace φ) (uri : String) : Workspace φ :=
  match workspace.current? uri with
  | some revision => workspace.coordinate fun coordinator => (coordinator.observe uri revision).2
  | none => workspace

/-- Begin a session for a client on a document, and give its number. The client is
sent the current model at once. -/
def attach [Files.Store φ] (workspace : Workspace φ) (uri client : String) :
    Workspace φ × Except Registry.Failure Nat :=
  match workspace.openFor ⟨uri, client, none, none, none⟩ with
  | (workspace, .error failure) => (workspace, .error failure)
  | (workspace, .ok ()) =>
      let number := workspace.nextSession
      let (workspace, _) :=
        ((workspace.enrol uri client).observeCurrent uri).runAndPublish number .semanticToGraph
      (if workspace.settings.autoSyncEnabled then workspace.plan (.beginTicks number) else workspace,
        .ok number)

/-- End a session, and let its client's hold on the document go. -/
def detach (workspace : Workspace φ) (number : Nat) : Workspace φ :=
  match workspace.session? number with
  | none => workspace
  | some session =>
      let without := { workspace.coordinate (·.disconnect session.uri session.client) with
        sessions := workspace.sessions.filter (·.number ≠ number) }
      (without.close session.uri session.client).1

/-- Put a task off for a while. -/
def putOff (workspace : Workspace φ) (delay : Nat) (task : Task) : Workspace φ :=
  { workspace with agenda := workspace.agenda.putOff delay task }

/-- Plan the next tick of a session. A period of no length has no ticks. -/
def planTick (workspace : Workspace φ) (number : Nat) : Workspace φ :=
  let period := workspace.settings.autoSyncInterval.toNat
  if period = 0 then workspace else workspace.putOff period (.tick number)

/-- Whether a tick of a session has anything to carry over that nothing else is about
to. -/
def dueAtTick (workspace : Workspace φ) (session : Session) : Bool :=
  0 < workspace.coordinator.pendingChanges session.uri &&
    !workspace.coordinator.hasConflict session.uri &&
    !workspace.coordinator.syncing session.uri && !session.debouncer.pending session.uri

/-- The workspace after a tick of a session. -/
def tick (workspace : Workspace φ) (session : Session) : Workspace φ :=
  (if workspace.dueAtTick session then
    (workspace.runAndPublish session.number .semanticToGraph).1
  else workspace).planTick session.number

/-- The workspace after the wait of a debounced sync has ended. -/
def endWait (workspace : Workspace φ) (session : Session) (call : Nat) (direction : Direction) :
    Workspace φ :=
  match session.debouncer.expire? session.uri call with
  | some debouncer =>
      ((workspace.changeSession session.number ({ · with debouncer })).runAndPublish
        session.number direction).1
  | none => workspace

/-- The session that a task was planned for. -/
def taskSession : Task → Nat
  | .beginWait session _ _ | .endWait session _ _ | .beginTicks session | .tick session
  | .resolve session _ => session

/-- The workspace after a task of a session. -/
def performFor (workspace : Workspace φ) (session : Session) : Task → Workspace φ
  | .beginWait number call direction =>
      if session.debouncer.delay = 0 then workspace.endWait session call direction
      else workspace.putOff session.debouncer.delay (.endWait number call direction)
  | .endWait _ call direction => workspace.endWait session call direction
  | .beginTicks number => workspace.planTick number
  | .tick _ => workspace.tick session
  | .resolve number side => (workspace.resolve number side).1

/-- The workspace after a task. -/
def perform (workspace : Workspace φ) (task : Task) : Workspace φ :=
  match workspace.session? (taskSession task) with
  | some session => workspace.performFor session task
  | none => workspace

instance : Busy (Workspace φ) Task where
  agenda := agenda
  setAgenda workspace agenda := { workspace with agenda }
  perform := perform

end Flowdesk.Workspace
