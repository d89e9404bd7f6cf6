import Flowdesk.Agenda
import Flowdesk.Debounce.Basic
import Flowdesk.Registry.Basic
import Flowdesk.Sync.Coordinator
import Flowdesk.Sync.Failure
import Flowdesk.View

/-!
# Workspaces

A workspace joins the registry of open documents with the coordinator of their
syncs and the graphical sessions on them. Whatever the registry announces is heard
by the sessions on that document, in the order in which they were attached. A
session judges the revision through the coordinator and plans what follows from the
judgement; nothing more happens until the plan's turn comes on the agenda.

Actions for graphical clients and announcements are noted, latest first, until
somebody takes them.
-/

namespace Flowdesk

open Data Sync Workflow

/-- A graphical client's stay on a document (`SyncHandler`). -/
structure Session where
  /-- Tells sessions apart, however often the same client attaches. -/
  number : Nat
  uri : String
  client : String
  view : View
  debouncer : Debouncer String

/-- What is planned for sessions, by number. -/
inductive Task where
  /-- Let the wait of a debounced sync begin. -/
  | beginWait (session call : Nat) (direction : Direction)
  /-- Carry out a debounced sync, unless something overtook it. -/
  | endWait (session call : Nat) (direction : Direction)
  /-- Let the periodic syncs of a session begin. -/
  | beginTicks (session : Nat)
  /-- Carry over pending changes, and plan the next tick. -/
  | tick (session : Nat)
  /-- Replay a side of the conflicts on a session's document. -/
  | resolve (session : Nat) (side : Side)
  deriving DecidableEq, Repr

/-- The documents of a desk, their syncs, and the graphical sessions on them: a `DocumentStore`
and a `SyncManager` with every `SyncHandler` that shares them, and the tasks that these have
spawned. -/
structure Workspace (φ : Type) where
  registry : Registry φ
  coordinator : Coordinator
  /-- The sessions, in the order in which they were attached. -/
  sessions : List Session
  /-- The number of the next session. -/
  nextSession : Nat
  agenda : Agenda Task
  /-- Whether anybody receives actions. -/
  receiving : Bool
  /-- The actions sent to each client, latest first. -/
  sent : List (String × List Action)
  /-- What the registry announced, latest first. -/
  announced : List Registry.Event

namespace Workspace

variable {φ : Type}

/-- The workspace without documents. -/
def create (files : φ) (settings : Settings) : Workspace φ where
  registry := .create files
  coordinator := .create settings
  sessions := []
  nextSession := 0
  agenda := .empty
  receiving := true
  sent := []
  announced := []

/-- The settings of the desk. -/
def settings (workspace : Workspace φ) : Settings := workspace.coordinator.settings

/-- The time as timestamps tell it. -/
def timestamp (workspace : Workspace φ) : UInt64 := UInt64.ofNat workspace.agenda.now

/-- The workspace with a change made to its coordinator. -/
def coordinate (workspace : Workspace φ) (change : Coordinator → Coordinator) : Workspace φ :=
  { workspace with coordinator := change workspace.coordinator }

/-- The workspace with one more task that is ready. -/
def plan (workspace : Workspace φ) (task : Task) : Workspace φ :=
  { workspace with agenda := workspace.agenda.add task }

/-- The session of a number. -/
def session? (workspace : Workspace φ) (number : Nat) : Option Session :=
  workspace.sessions.find? (·.number = number)

/-- The workspace with the session of a number changed. -/
def changeSession (workspace : Workspace φ) (number : Nat) (change : Session → Session) :
    Workspace φ :=
  { workspace with
    sessions := workspace.sessions.map fun session =>
      if session.number = number then change session else session }

/-- The current revision of an open document. -/
def current? (workspace : Workspace φ) (uri : String) : Option Revision :=
  (workspace.registry.draft? uri).map (·.current workspace.timestamp)

/-- Send actions to a client. -/
def send (workspace : Workspace φ) (client : String) (actions : List Action) : Workspace φ :=
  if workspace.receiving then { workspace with sent := (client, actions) :: workspace.sent }
  else workspace

/-- Send actions to the client of a session, and how the sync of its document stands. -/
def publish (workspace : Workspace φ) (session : Session) (actions : List Action) :
    Workspace φ :=
  let phase := (workspace.coordinator.status session.uri).phase
  workspace.send session.client (actions ++ [.syncStatusChanged session.uri phase])

/-- Plan a sync of a session for when its document has been left alone. The latest
plan overtakes those before it. -/
def schedule (workspace : Workspace φ) (session : Session) (direction : Direction) :
    Workspace φ :=
  let (call, debouncer) := session.debouncer.call session.uri
  (workspace.changeSession session.number ({ · with debouncer })).plan
    (.beginWait session.number call direction)

/-- Whether what is heard can be followed by a plan. Outside the desk's own clock
nothing can be planned. -/
inductive Clock where
  | within
  | without
  deriving DecidableEq, Repr

/-- Let a session act on a conflict it heard of, as the settings say. -/
def meetConflict (workspace : Workspace φ) (clock : Clock) (session : Session) : Workspace φ :=
  match workspace.settings.resolution.preferred with
  | some side =>
      if clock = .within then workspace.plan (.resolve session.number side) else workspace
  | none => workspace.publish session []

/-- Let a session hear of an update of its document. The changes of its own client
matter to it only if they conflict. -/
def hear (workspace : Workspace φ) (clock : Clock) (session : Session)
    (update : Registry.Update) : Workspace φ :=
  if update.reason = .deleted then workspace
  else
    let (observation, coordinator) := workspace.coordinator.observe session.uri update.revision
    let workspace := { workspace with coordinator }
    let follow (direction : Direction) : Workspace φ :=
      if clock = .within ∧ update.client ≠ session.client then
        workspace.schedule session direction
      else workspace
    match observation with
    | .conflict _ => workspace.meetConflict clock session
    | .advanced => follow .semanticToGraph
    | .keepLocal => follow .graphToSemantic
    | .inSync => if update.reason = .updated then follow .semanticToGraph else workspace

/-- Let the session of a number hear of an update, if it is on the updated document. -/
def hearBy (clock : Clock) (update : Registry.Update) (workspace : Workspace φ) (number : Nat) :
    Workspace φ :=
  match workspace.session? number with
  | some session =>
      if session.uri = update.build.uri then workspace.hear clock session update else workspace
  | none => workspace

/-- Note an announcement and let the sessions hear of it. Saves do not concern them. -/
def announce (clock : Clock) (workspace : Workspace φ) (event : Registry.Event) : Workspace φ :=
  let noted := { workspace with announced := event :: workspace.announced }
  match event with
  | .updated update =>
      (workspace.sessions.map (·.number)).foldl (hearBy clock update) noted
  | .saved _ => noted

/-- The workspace after an operation on its registry, with the result. -/
def adopt {α : Type} (workspace : Workspace φ) (clock : Clock) (outcome : Registry.Outcome φ α) :
    Workspace φ × Except Registry.Failure α :=
  (outcome.events.foldl (announce clock) { workspace with registry := outcome.registry },
    outcome.result)

/-- Record another text of an open document. -/
def update (workspace : Workspace φ) (clock : Clock) (uri : String) (claimed : UInt64)
    (text client : String) : Workspace φ × Except Registry.Failure Revision :=
  workspace.adopt clock (workspace.registry.update uri claimed text client workspace.timestamp)

/-- Let a client's hold on a document go. -/
def close (workspace : Workspace φ) (uri client : String) :
    Workspace φ × Except Registry.Failure Bool :=
  workspace.adopt .within (workspace.registry.close uri client workspace.timestamp)

/-- Build an open document again as it is. -/
def rebuild (workspace : Workspace φ) (uri client : String) :
    Workspace φ × Except Registry.Failure Build :=
  workspace.adopt .within (workspace.registry.rebuild uri client workspace.timestamp)

section Files

variable [Files.Store φ]

/-- Open a document for a client. -/
def openFor (workspace : Workspace φ) (opening : Registry.Opening) :
    Workspace φ × Except Registry.Failure Unit :=
  workspace.adopt .within (workspace.registry.openFor opening workspace.timestamp)

/-- Save a text to the file of a document. -/
def save (workspace : Workspace φ) (uri text client : String) :
    Workspace φ × Except Registry.Failure Unit :=
  workspace.adopt .within (workspace.registry.save uri text client workspace.timestamp)

/-- Read an open document again from its file. -/
def reload (workspace : Workspace φ) (uri : String) :
    Workspace φ × Except Registry.Failure (Option Revision) :=
  workspace.adopt .within (workspace.registry.reload uri workspace.timestamp)

end Files

/-- What was sent since it was last asked, in order. -/
def collectSent (workspace : Workspace φ) : List (String × List Action) × Workspace φ :=
  (workspace.sent.reverse, { workspace with sent := [] })

/-- What was announced since it was last asked, in order. -/
def collectAnnounced (workspace : Workspace φ) : List Registry.Event × Workspace φ :=
  (workspace.announced.reverse, { workspace with announced := [] })

end Workspace

end Flowdesk
