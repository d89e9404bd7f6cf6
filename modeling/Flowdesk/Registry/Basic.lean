import Flowdesk.Address.Uri
import Flowdesk.Data.Table
import Flowdesk.Files.Store
import Flowdesk.Registry.Event
import Flowdesk.Registry.Failure
import Flowdesk.Registry.Opening

/-!
# The registry of open documents

The registry keeps the only copy of every open document, with the last build of its
text, and reads and writes the files of documents. A document is registered by the
first client that opens it and stays so until no client holds it. Every new text is
built at once and the build is announced.

An operation gives back the registry, what was announced, and a result. An
operation that fails may still have changed the file store.
-/

namespace Flowdesk

open Data Workflow

/-- The open documents of a desk over a file store (`DocumentStore`). -/
structure Registry (φ : Type) where
  files : φ
  drafts : Table String Draft
  /-- The last build of each document, with the version of the text it was made of. -/
  builds : Table String (UInt64 × Build)

namespace Registry

variable {φ : Type}

/-- What comes of an operation. -/
structure Outcome (φ α : Type) where
  registry : Registry φ
  /-- What was announced, in order. -/
  events : List Event
  result : Except Failure α

/-- The client on whose behalf files are read again. -/
def fileClient : String := "filesystem"

/-- What is added to the path of a file to name its backup. -/
def backupSuffix : String := ".backup"

/-- The registry without documents. -/
def create (files : φ) : Registry φ := ⟨files, .empty, .empty⟩

/-- The operation that fails and changes nothing. -/
def refuse {α : Type} (registry : Registry φ) (failure : Failure) : Outcome φ α :=
  ⟨registry, [], .error failure⟩

/-- The operation that succeeds and changes nothing. -/
def answer {α : Type} (registry : Registry φ) (value : α) : Outcome φ α := ⟨registry, [], .ok value⟩

/-- The open document of an address. -/
def draft? (registry : Registry φ) (uri : String) : Option Draft := registry.drafts.get? uri

/-- Whether a document is open. -/
def isOpen (registry : Registry φ) (uri : String) : Bool := registry.drafts.contains uri

/-- The clients that hold a document. -/
def holders (registry : Registry φ) (uri : String) : NameSet :=
  ((registry.draft? uri).map (·.holders)).getD .empty

/-- The addresses of the open documents, in increasing order. -/
def openUris (registry : Registry φ) : NameSet := .ofList registry.drafts.keys

/-- The last build of an open document. -/
def build? (registry : Registry φ) (uri : String) : Option Build :=
  (registry.builds.get? uri).map (·.2)

/-- The registry with a document as it is now. -/
def setDraft (registry : Registry φ) (draft : Draft) : Registry φ :=
  { registry with drafts := registry.drafts.put draft.uri draft }

/-- The build of a document that is not open. -/
def noBuild (uri : String) : Build := ⟨uri, none, []⟩

/-- The registry with a build of a text, unless one of a later version is kept. -/
def keepBuild (registry : Registry φ) (version : UInt64) (build : Build) : Registry φ :=
  match registry.builds.get? build.uri with
  | some (kept, _) =>
      if version < kept then registry
      else { registry with builds := registry.builds.put build.uri (version, build) }
  | none => { registry with builds := registry.builds.put build.uri (version, build) }

/-- Build the text of an open document and announce the build. -/
def rebuildAs (registry : Registry φ) (uri : String) (reason : Reason) (client : String)
    (revision : Revision) : Outcome φ Build :=
  match registry.draft? uri with
  | none => registry.answer (noBuild uri)
  | some draft =>
      let build := Build.of uri draft.text
      ⟨registry.keepBuild revision.version build, [.updated ⟨build, client, reason, revision⟩],
        .ok build⟩

/-- Give an open document another text and announce its build. -/
def revise (registry : Registry φ) (draft : Draft) (claimed : UInt64) (text client : String)
    (now : UInt64) : Outcome φ Revision :=
  match draft.revise claimed text client now with
  | none => registry.refuse (.versionExhausted draft.uri)
  | some (revised, revision) =>
      let built := (registry.setDraft revised).rebuildAs draft.uri .changed client revision
      { built with result := .ok revision }

/-- The operation whose result is another value. -/
def Outcome.map {α β : Type} (outcome : Outcome φ α) (change : α → β) : Outcome φ β :=
  { outcome with result := outcome.result.map change }

/-- Record another text of an open document. -/
def update (registry : Registry φ) (uri : String) (claimed : UInt64) (text client : String)
    (now : UInt64) : Outcome φ Revision :=
  match registry.draft? uri with
  | none => registry.refuse (.notOpen uri)
  | some draft => registry.revise draft claimed text client now

/-- Register a document that its first client opens. -/
def register (registry : Registry φ) (opening : Opening) (text : String) (now : UInt64) :
    Outcome φ Unit :=
  let draft := Draft.create opening.uri (opening.language.getD Draft.usualLanguage)
    (opening.version.getD 0) text opening.client
  let held := { draft with holders := draft.holders.insert opening.client }
  ((registry.setDraft held).rebuildAs opening.uri .opened opening.client (held.current now)).map
    fun _ => ()

/-- Let one more client hold a document that is open. Another text of it is recorded;
the client holds the document even if that fails. -/
def join (registry : Registry φ) (draft : Draft) (opening : Opening) (now : UInt64) :
    Outcome φ Unit :=
  let held := { draft with holders := draft.holders.insert opening.client }
  let joined := registry.setDraft held
  match opening.text with
  | none => joined.answer ()
  | some text =>
      if text = held.text then joined.answer ()
      else
        (joined.revise held (opening.version.getD held.nextVersion) text opening.client now).map
          fun _ => ()

section Files

variable [Files.Store φ]

/-- The text of a file. Bytes that are no text are replaced. -/
def readText (registry : Registry φ) (path : String) : Except Failure String :=
  match Files.Store.read registry.files path with
  | .ok bytes => .ok (Text.Utf8.decodeLossy bytes)
  | .error cause => .error (.file cause)

/-- Open a document for a client. -/
def openFor (registry : Registry φ) (opening : Opening) (now : UInt64) : Outcome φ Unit :=
  match Address.pathOf? opening.uri with
  | none => registry.refuse (.invalidUri opening.uri)
  | some path =>
      match registry.draft? opening.uri with
      | some draft => registry.join draft opening now
      | none =>
          match opening.text with
          | some text => registry.register opening text now
          | none =>
              match registry.readText path with
              | .ok text => registry.register opening text now
              | .error failure => registry.refuse failure

/-- The registry after the bytes of a file were copied to its backup, as far as that
succeeds. -/
def backUp (registry : Registry φ) (path : String) : Registry φ :=
  match Files.Store.read registry.files path with
  | .ok bytes =>
      { registry with files := (Files.Store.write registry.files (path ++ backupSuffix) bytes).1 }
  | .error _ => registry

/-- The registry after a text was written to a file, a copy of the file having been
made before. -/
def writeText (registry : Registry φ) (path text : String) : Registry φ × Except Failure Unit :=
  match Files.Store.contains registry.files path with
  | .error cause => (registry, .error (.file cause))
  | .ok present =>
      let registry := if present then registry.backUp path else registry
      let (files, result) := Files.Store.write registry.files path (Text.Utf8.encode text)
      ({ registry with files }, result.mapError .file)

/-- Announce a save. If the document is open its text becomes what was saved, as long
as it has a version left. -/
def announceSave (registry : Registry φ) (uri text client : String) (now : UInt64) :
    Outcome φ Unit :=
  match registry.draft? uri with
  | none =>
      ⟨registry, [.saved ⟨Draft.create uri Draft.usualLanguage 0 text client, client⟩], .ok ()⟩
  | some draft =>
      if draft.text = text then ⟨registry, [.saved ⟨draft, client⟩], .ok ()⟩
      else
        let revised := registry.revise draft draft.nextVersion text client now
        let saved := (revised.registry.draft? uri).getD draft
        ⟨revised.registry, revised.events ++ [.saved ⟨saved, client⟩], .ok ()⟩

/-- Save a text to the file of a document. -/
def save (registry : Registry φ) (uri text client : String) (now : UInt64) : Outcome φ Unit :=
  if Text.isBlankText text then registry.refuse (.emptyContent uri)
  else
    match Address.pathOf? uri with
    | none => registry.refuse (.invalidUri uri)
    | some path =>
        match registry.writeText path text with
        | (written, .error failure) => written.refuse failure
        | (written, .ok ()) => written.announceSave uri text client now

/-- Read an open document again from its file. There is no revision if the file holds
the text of the document. -/
def reload (registry : Registry φ) (uri : String) (now : UInt64) :
    Outcome φ (Option Revision) :=
  match registry.draft? uri with
  | none => registry.refuse (.notOpen uri)
  | some draft =>
      match Address.pathOf? uri with
      | none => registry.refuse (.invalidUri uri)
      | some path =>
          match registry.readText path with
          | .error failure => registry.refuse failure
          | .ok text =>
              if draft.text = text then registry.answer none
              else (registry.revise draft draft.nextVersion text fileClient now).map some

end Files

/-- Let a client's hold on a document go. The result says whether that was the last
one. -/
def close (registry : Registry φ) (uri client : String) (now : UInt64) : Outcome φ Bool :=
  match registry.draft? uri with
  | none => registry.answer false
  | some draft =>
      let left := { draft with holders := draft.holders.erase client }
      if left.holders.isEmpty then
        ⟨{ registry with
            drafts := registry.drafts.erase uri
            builds := registry.builds.erase uri },
          [.updated ⟨noBuild uri, client, .deleted, left.current now⟩], .ok true⟩
      else (registry.setDraft left).answer false

/-- Build an open document again as it is. -/
def rebuild (registry : Registry φ) (uri client : String) (now : UInt64) : Outcome φ Build :=
  match registry.draft? uri with
  | none => registry.refuse (.notOpen uri)
  | some draft => registry.rebuildAs uri .updated client (draft.current now)

end Registry

end Flowdesk
