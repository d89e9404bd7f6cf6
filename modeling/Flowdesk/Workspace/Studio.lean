import Flowdesk.Bus.Basic
import Flowdesk.Workspace.Agenda

/-!
# Studios

A studio is a workspace that is used by name. Holds on documents and watchers of the
registry have names of their own, a graphical session goes by its document and its
client. A name may be used again at any time: it then stands for the new one, and
the old one is let go only after the new one has begun.

Watchers only watch: they keep no subscription of their own and are dropped between two
operations, when nobody is changing the list of watchers.
-/

namespace Flowdesk

open Data

/-- Somebody who watches the updates, or else the saves, of one document. -/
structure Watcher where
  name : String
  saves : Bool
  uri : String
  /-- The client on whose behalf updates are watched. -/
  client : String

/-- Whether an announcement is shown to a watcher. -/
def Watcher.sees (watcher : Watcher) (event : Registry.Event) : Bool :=
  watcher.uri = event.uri && watcher.saves == match event with
    | .updated _ => false
    | .saved _ => true

/-- A workspace with names for what goes on in it. No type corresponds to it: it is what
anybody keeps who holds documents (`OpenHandle`), sessions (`SyncHandler`) and watchers of the
registry (`Subscription`) and lets them go again. -/
structure Studio (φ : Type) where
  workspace : Workspace φ
  /-- The document and client of each named hold. -/
  holds : Table String (String × String)
  /-- The session of each document and client. -/
  sessions : Table (String × String) Nat
  watchers : Bus Watcher
  /-- The number under which each named watcher is subscribed. -/
  watching : Table String Nat

namespace Studio

variable {φ : Type}

/-- The studio over a workspace in which nothing goes on. -/
def create (workspace : Workspace φ) : Studio φ := ⟨workspace, .empty, .empty, .empty, .empty⟩

/-- The studio with another workspace. -/
def work (studio : Studio φ) (workspace : Workspace φ) : Studio φ := { studio with workspace }

/-- The studio without a watcher. -/
def unwatch (studio : Studio φ) (name : String) : Studio φ :=
  match studio.watching.get? name with
  | none => studio
  | some number =>
      { studio with
        watchers := studio.watchers.drop number
        watching := studio.watching.erase name }

/-- The studio with a watcher, in place of the one of the same name. -/
def watch (studio : Studio φ) (watcher : Watcher) : Studio φ :=
  let (number, watchers) := studio.watchers.subscribe watcher
  let before := { studio with watchers }.unwatch watcher.name
  { before with watching := before.watching.put watcher.name number }

/-- What watchers see of announcements, one announcement after the other. -/
def seen (studio : Studio φ) (events : List Registry.Event) : List (Watcher × Registry.Event) :=
  events.flatMap fun event =>
    (studio.watchers.subscribers.filter (·.sees event)).map fun watcher => (watcher, event)

/-- The studio after a hold was let go, if there was one. -/
def release (studio : Studio φ) : Option (String × String) → Studio φ
  | some (uri, client) => studio.work (studio.workspace.close uri client).1
  | none => studio

/-- The studio after the hold of a name was let go. -/
def letGo (studio : Studio φ) (name : String) : Studio φ :=
  { studio with holds := studio.holds.erase name }.release (studio.holds.get? name)

/-- The studio after a session was ended, if there was one. -/
def endSession (studio : Studio φ) : Option Nat → Studio φ
  | some number => studio.work (studio.workspace.detach number)
  | none => studio

/-- The graphical session of a client on a document. -/
def session? (studio : Studio φ) (uri client : String) : Option Session :=
  (studio.sessions.get? (uri, client)).bind studio.workspace.session?

/-- The studio after the graphical session of a client on a document was ended. -/
def detach (studio : Studio φ) (uri client : String) : Studio φ :=
  { studio with sessions := studio.sessions.erase (uri, client) }.endSession
    (studio.sessions.get? (uri, client))

section Files

variable [Files.Store φ]

/-- Open a document and name the hold on it. -/
def openAs (studio : Studio φ) (name : String) (opening : Registry.Opening) :
    Studio φ × Except Registry.Failure Unit :=
  match studio.workspace.openFor opening with
  | (workspace, .error failure) => (studio.work workspace, .error failure)
  | (workspace, .ok ()) =>
      ({ studio with
          workspace
          holds := studio.holds.put name (opening.uri, opening.client) }.release
        (studio.holds.get? name), .ok ())

/-- Begin a graphical session of a client on a document. -/
def attach (studio : Studio φ) (uri client : String) : Studio φ × Except Registry.Failure Unit :=
  match studio.workspace.attach uri client with
  | (workspace, .error failure) => (studio.work workspace, .error failure)
  | (workspace, .ok number) =>
      ({ studio with
          workspace
          sessions := studio.sessions.put (uri, client) number }.endSession
        (studio.sessions.get? (uri, client)), .ok ())

end Files

instance : Busy (Studio φ) Task where
  agenda studio := studio.workspace.agenda
  setAgenda studio agenda := studio.work { studio.workspace with agenda }
  perform studio task := studio.work (studio.workspace.perform task)

end Studio

end Flowdesk
