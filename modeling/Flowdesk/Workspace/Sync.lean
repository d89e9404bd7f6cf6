import Flowdesk.Sync.Attempt
import Flowdesk.Workflow.Patch
import Flowdesk.Workspace.Basic

/-!
# Syncs of sessions

A sync carries a document's text into the view of a session, or the view's model
back into the text. Either way the coordinator is asked first, since only one sync
of a document may be under way, and told afterwards how it ended. Graphical edits
are committed to the text first and come back into the view by a sync; an edit is
refused once the document has moved on from the version that the view shows.

An operation of a session is carried out whole, and so is each task: tasks are cooperative
and give way to one another only where they wait for the clock. Where several threads carry
out tasks at once, two operations on one document may overlap in ways that are not told
here.
-/

namespace Flowdesk.Workspace

open Sync Workflow

variable {φ : Type}

/-- A result of the registry as a result of a sync. -/
def asSync {α : Type} (result : Except Registry.Failure α) : Except Sync.Failure α :=
  result.mapError .registry

/-- The workspace after a session was shown a build of its document. -/
def display (workspace : Workspace φ) (session : Session) (build : Build) (draft : Draft) :
    Workspace φ × List Action :=
  let view := session.view.update build (draft.current workspace.timestamp) draft.text
  (workspace.changeSession session.number ({ · with view }), view.actions)

/-- Carry the text of a document into a session's view. A conflict must be resolved
before. -/
def refresh (workspace : Workspace φ) (session : Session) :
    Workspace φ × Except Sync.Failure (List Action) :=
  if workspace.coordinator.hasConflict session.uri then
    (workspace, .error (.conflict session.uri))
  else
    match workspace.registry.draft? session.uri, workspace.registry.build? session.uri with
    | none, _ => (workspace, .error (.registry (.notOpen session.uri)))
    | some _, none => (workspace, .error (.noModel session.uri))
    | some draft, some build =>
        let (workspace, actions) := workspace.display session build draft
        (workspace, .ok actions)

/-- Give a document the text of a session's model, unless it has that text already. -/
def putText (workspace : Workspace φ) (session : Session) (text : String) :
    Workspace φ × Except Sync.Failure Unit :=
  match workspace.registry.draft? session.uri with
  | none => (workspace, .error (.registry (.notOpen session.uri)))
  | some draft =>
      if draft.text = text then (workspace, .ok ())
      else
        let (workspace, result) :=
          workspace.update .within session.uri draft.nextVersion text session.client
        (workspace, (asSync result).map fun _ => ())

/-- Carry the model of a session's view back into the text of its document. -/
def writeBack (workspace : Workspace φ) (session : Session) :
    Workspace φ × Except Sync.Failure (List Action) :=
  match session.view.root with
  | none => (workspace, .error (.noModel session.uri))
  | some root =>
      match workspace.putText session root.write with
      | (workspace, .error failure) => (workspace, .error failure)
      | (workspace, .ok ()) =>
          match workspace.registry.draft? session.uri, workspace.registry.build? session.uri with
          | none, _ => (workspace, .error (.registry (.notOpen session.uri)))
          | some _, none => (workspace, .ok session.view.actions)
          | some draft, some build =>
              let (workspace, actions) := workspace.display session build draft
              (workspace, .ok actions)

/-- Attempt a sync of a session. -/
def attempt (workspace : Workspace φ) (session : Session) :
    Direction → Workspace φ × Except Sync.Failure (List Action)
  | .semanticToGraph => workspace.refresh session
  | .graphToSemantic => workspace.writeBack session

/-- Run a sync of the session of a number. None of its attempts fails in a way that
could pass by itself, so the first one decides. -/
def run (workspace : Workspace φ) (number : Nat) (direction : Direction) :
    Workspace φ × List Action :=
  match workspace.session? number with
  | none => (workspace, [])
  | some session =>
      match workspace.coordinator.start? session.uri with
      | none => (workspace, [])
      | some coordinator =>
          let (workspace, result) := { workspace with coordinator }.attempt session direction
          (workspace.coordinate
              (·.finish session.uri direction (.of result) workspace.timestamp),
            result.toOption.getD [])

/-- Send actions to the client of the session of a number. -/
def publishBy (workspace : Workspace φ) (number : Nat) (actions : List Action) : Workspace φ :=
  match workspace.session? number with
  | none => workspace
  | some session => workspace.publish session actions

/-- Run a sync of a session and send what comes of it. -/
def runAndPublish (workspace : Workspace φ) (number : Nat) (direction : Direction) :
    Workspace φ × List Action :=
  let (workspace, actions) := workspace.run number direction
  (workspace.publishBy number actions, actions)

/-- Replay a side of the conflicts on the document of a session. The text is accepted
as it is before it is replayed. -/
def resolve (workspace : Workspace φ) (number : Nat) (side : Side) :
    Workspace φ × List Action :=
  match workspace.session? number with
  | none => (workspace, [])
  | some session =>
      let accepted := match side with
        | .semantic => workspace.current? session.uri
        | .graph => none
      (workspace.coordinate (·.beginResolution session.uri accepted)).runAndPublish number
        side.direction

/-- Commit a text that a session's client made from the view at a version. -/
def commit (workspace : Workspace φ) (session : Session) (text : String) :
    Workspace φ × Except Sync.Failure (List Action) :=
  let base := session.view.version
  match workspace.registry.draft? session.uri with
  | none => (workspace, .error (.registry (.notOpen session.uri)))
  | some draft =>
      if draft.version ≠ base then
        (workspace, .error (.stale session.uri base draft.version))
      else
        match workspace.update .within session.uri draft.nextVersion text session.client with
        | (workspace, .error failure) => (workspace, .error (.registry failure))
        | (workspace, .ok _) =>
            let (workspace, actions) := workspace.runAndPublish session.number .semanticToGraph
            (workspace, .ok actions)

/-- Apply a graphical edit to the model of a session and commit what comes of it. -/
def submitPatch (workspace : Workspace φ) (session : Session) (patch : Patch) :
    Workspace φ × Except Sync.Failure (List Action) :=
  match session.view.mode, session.view.flow with
  | .readonly, _ => (workspace, .error (.readonly session.uri))
  | .editable, none => (workspace, .error (.noModel session.uri))
  | .editable, some flow =>
      if workspace.coordinator.hasConflict session.uri then
        (workspace, .error (.conflict session.uri))
      else
        match patch.apply flow with
        | .error failure => (workspace, .error (.patch failure))
        | .ok edited => workspace.commit session (Document.write ⟨some edited⟩)

end Flowdesk.Workspace
