import Flowdesk.Desk.Request
import Flowdesk.Desk.Response
import Flowdesk.Workspace.Agenda

/-!
# Desks

A desk answers the requests of clients over one workspace. It keeps the holds of
text and form clients and the graphical sessions, each under the document and the
client, at most one of a kind. A client may both hold a document and be attached to
it; the registry and the coordinator know only one client of that name.
-/

namespace Flowdesk

open Data Sync

/-- A document and a client. -/
abbrev Stay := String × String

/-- A workspace with the stays of its clients (`WorkflowServer`). -/
structure Desk (φ : Type) where
  workspace : Workspace φ
  /-- The documents that text and form clients hold open. -/
  holds : List Stay
  /-- The numbers of the graphical sessions. -/
  sessions : Table Stay Nat
  /-- How many clients were given names. -/
  named : Nat
  /-- The names that are given to nameless clients, one after the other. -/
  names : Nat → String

namespace Desk

variable {φ : Type}

/-- The desk without clients that gives nameless ones certain names. These are random in a desk
that serves strangers, who then cannot guess them; nothing is assumed of them here, so that
what holds of a desk holds even where names repeat. -/
def createNaming (names : Nat → String) (files : φ) (settings : Settings) : Desk φ :=
  ⟨.create files settings, [], .empty, 0, names⟩

/-- The name by which the client in a place among those that were given one is shown. -/
def givenName (place : Nat) : String := "graph-generated-" ++ toString place

/-- The desk without clients. -/
def create (files : φ) (settings : Settings) : Desk φ := createNaming givenName files settings

/-- The desk with another workspace. -/
def work (desk : Desk φ) (workspace : Workspace φ) : Desk φ := { desk with workspace }

/-- The answer that says how the sync of a document stands. -/
def statusOf (desk : Desk φ) (uri : String) (client : Option String) : Response :=
  .status uri client (desk.workspace.coordinator.status uri)

/-- Adopt what came of an operation, and say how the document's sync stands if it
succeeded. -/
def report {ε α : Type} (desk : Desk φ) (failure : ε → Sync.Failure) (uri client : String)
    (outcome : Workspace φ × Except ε α) : Desk φ × Except Refusal Response :=
  let desk := desk.work outcome.1
  match outcome.2 with
  | .ok _ => (desk, .ok (desk.statusOf uri (some client)))
  | .error cause => (desk, .error (.failed (failure cause)))

/-- Record the text of an opening by a client that holds the document already. -/
def refresh (desk : Desk φ) (opening : Registry.Opening) : Desk φ × Except Refusal Response :=
  match opening.text with
  | none => (desk, .ok (desk.statusOf opening.uri (some opening.client)))
  | some text =>
      let next := ((desk.workspace.registry.draft? opening.uri).map (·.nextVersion)).getD 1
      desk.report .registry opening.uri opening.client
        (desk.workspace.update .within opening.uri (opening.version.getD next) text opening.client)

/-- Let go of a client's hold on a document. -/
def close (desk : Desk φ) (uri client : String) : Desk φ × Except Refusal Response :=
  if (uri, client) ∈ desk.holds then
    let (workspace, _) := desk.workspace.close uri client
    let desk := { desk with
      workspace := workspace.coordinate (·.disconnect uri client)
      holds := desk.holds.filter (· ≠ (uri, client)) }
    (desk, .ok (desk.statusOf uri (some client)))
  else (desk, .error (.notOpened uri client))

/-- End a graphical session. -/
def detach (desk : Desk φ) (uri client : String) : Desk φ × Except Refusal Response :=
  match desk.sessions.get? (uri, client) with
  | none => (desk, .error (.notAttached uri client))
  | some number =>
      let desk := { desk with
        workspace := desk.workspace.detach number
        sessions := desk.sessions.erase (uri, client) }
      (desk, .ok (desk.statusOf uri (some client)))

/-- The graphical session of a client on a document. -/
def session? (desk : Desk φ) (uri client : String) : Option Session :=
  (desk.sessions.get? (uri, client)).bind desk.workspace.session?

/-- Do something for a graphical session. -/
def withSession (desk : Desk φ) (uri client : String)
    (act : Session → Desk φ × Except Refusal Response) : Desk φ × Except Refusal Response :=
  match desk.session? uri client with
  | none => (desk, .error (.notAttached uri client))
  | some session => act session

section Files

variable [Files.Store φ]

/-- Open a document for a text or form client. -/
def openFor (desk : Desk φ) (opening : Registry.Opening) (method : Method) :
    Desk φ × Except Refusal Response :=
  if (opening.uri, opening.client) ∈ desk.holds then desk.refresh opening
  else
    match desk.workspace.openFor opening with
    | (workspace, .error failure) => (desk.work workspace, .error (.failed (.registry failure)))
    | (workspace, .ok ()) =>
        let desk := { desk with
          workspace := workspace.coordinate (·.connect opening.uri opening.client method)
          holds := (opening.uri, opening.client) :: desk.holds }
        (desk, .ok (desk.statusOf opening.uri (some opening.client)))

/-- Save a text, or the text of the document as it is. -/
def save (desk : Desk φ) (uri client : String) (text : Option String) :
    Desk φ × Except Refusal Response :=
  match text <|> (desk.workspace.registry.draft? uri).map (·.text) with
  | none => (desk, .error (.failed (.registry (.notOpen uri))))
  | some text =>
      match desk.workspace.save uri text client with
      | (workspace, .ok ()) => (desk.work workspace, .ok (.saved uri client))
      | (workspace, .error failure) =>
          (desk.work workspace, .error (.failed (.registry failure)))

/-- Begin a graphical session, unless the client has one on the document. -/
def attachAs (desk : Desk φ) (uri client : String) : Desk φ × Except Refusal Response :=
  if desk.sessions.contains (uri, client) then (desk, .ok (desk.statusOf uri (some client)))
  else
    match desk.workspace.attach uri client with
    | (workspace, .error failure) => (desk.work workspace, .error (.failed (.registry failure)))
    | (workspace, .ok number) =>
        let desk := { desk with
          workspace
          sessions := desk.sessions.put (uri, client) number }
        (desk, .ok (desk.statusOf uri (some client)))

/-- Begin a graphical session, for a client with or without a name. A name that was
given is used up only if the session begins. -/
def attach (desk : Desk φ) (uri : String) (client : Option String) :
    Desk φ × Except Refusal Response :=
  match client with
  | some client => desk.attachAs uri client
  | none =>
      match desk.attachAs uri (desk.names (desk.named + 1)) with
      | (desk, .ok response) => ({ desk with named := desk.named + 1 }, .ok response)
      | (desk, .error refusal) => (desk, .error refusal)

/-- Handle a request. -/
def handle (desk : Desk φ) : Request → Desk φ × Except Refusal Response
  | .openFor opening method => desk.openFor opening method
  | .update uri client version text =>
      desk.report .registry uri client (desk.workspace.update .within uri version text client)
  | .save uri client text => desk.save uri client text
  | .close uri client => desk.close uri client
  | .attach uri client => desk.attach uri client
  | .detach uri client => desk.detach uri client
  | .patch uri client patch =>
      desk.withSession uri client fun session =>
        desk.report id uri client (desk.workspace.submitPatch session patch)
  | .resolve uri client side =>
      desk.withSession uri client fun session =>
        let desk := desk.work (desk.workspace.resolve session.number side).1
        (desk, .ok (desk.statusOf uri (some client)))
  | .status uri => (desk, .ok (desk.statusOf uri none))

/-- Answer one line. -/
def answerLine (desk : Desk φ) (line : String) : Desk φ × Response :=
  let (desk, result) :=
    match Request.parse line with
    | .ok request => desk.handle request
    | .error fault => (desk, .error (.unreadable fault))
  match result with
  | .ok response => (desk, response)
  | .error refusal => (desk, .error refusal.message)

/-- Take in that the file of a path has other content. Only a document that is open
under the address of the path is read again. -/
def fileChanged (desk : Desk φ) (path : String) : Desk φ :=
  match Address.uriOf? path with
  | none => desk
  | some uri =>
      if desk.workspace.registry.isOpen uri then desk.work (desk.workspace.reload uri).1 else desk

end Files

instance : Busy (Desk φ) Task where
  agenda desk := desk.workspace.agenda
  setAgenda desk agenda := desk.work { desk.workspace with agenda }
  perform desk task := desk.work (desk.workspace.perform task)

end Desk

end Flowdesk
