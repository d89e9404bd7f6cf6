import Flowdesk.Files.Memory
import Flowdesk.Proofs.Desk.Move
import Flowdesk.Proofs.Registry.History

/-!
# Changes of files

A desk that is told of a change of a file reads again the document that is open under the
one address that it writes for the path. Other addresses name the same path, with a host,
with escapes, with dots or in capitals, and clients may have opened a document under any of
them. So the text of the file reaches a document exactly if the document goes by the address
that the desk would write, or has that text already.
-/

namespace Flowdesk

open Data Sync Workflow

namespace Draft

/-- The draft after its file was read again and held a text. -/
def reread (draft : Draft) (text : String) : Draft :=
  if draft.text = text then draft
  else { draft with text, version := draft.version + 1, author := Registry.fileClient }

/-- What is announced of a draft whose file was read again at some time and held a text. -/
def rereading (draft : Draft) (text : String) (now : UInt64) : List Registry.Update :=
  if draft.text = text then []
  else [⟨Build.of draft.uri text, Registry.fileClient, .changed, (draft.reread text).current now⟩]

/-- A draft has the text that was read, whatever it had before. -/
theorem text_reread (draft : Draft) (text : String) : (draft.reread text).text = text := by
  unfold reread
  split
  · next same => exact same
  · rfl

/-- A draft that has a version left can be read again. -/
theorem revise_reread {draft : Draft} {text : String} (left : draft.version ≠ lastVersion)
    (differs : draft.text ≠ text) (now : UInt64) :
    draft.revise draft.nextVersion text Registry.fileClient now =
      some (draft.reread text, (draft.reread text).current now) := by
  rw [revise_next left, reread, if_neg differs]
  rfl

/-- All that is announced of a draft that is read again is about it. -/
theorem updatesOf_rereading (draft : Draft) (text : String) (now : UInt64) :
    (Registry.updatesOf draft.uri ((draft.rereading text now).map .updated)).reverse =
      draft.rereading text now := by
  unfold rereading
  split
  · rfl
  · simp [Registry.updatesOf, Registry.updates]

end Draft

namespace Registry

variable {φ : Type} [Files.Store φ]

/-- What comes of reading a document again whose file can be read. -/
theorem reload_ok {registry : Registry φ} (sound : registry.Sound) {uri path : String}
    {draft : Draft} {bytes : Text.Utf8.Bytes} (found : registry.draft? uri = some draft)
    (named : Address.pathOf? uri = some path) (left : draft.version ≠ Draft.lastVersion)
    (readable : Files.Store.read registry.files path = .ok bytes) (now : UInt64) :
    let text := Text.Utf8.decodeLossy bytes
    let outcome := registry.reload uri now
    outcome.registry.draft? uri = some (draft.reread text) ∧
      outcome.events = (draft.rereading text now).map .updated := by
  intro text outcome
  have read : registry.readText path = .ok text := by
    simp only [readText, readable]
    rfl
  by_cases same : draft.text = text
  · have kept : outcome = registry.answer none := by
      simp only [outcome, reload, found, named, read, if_pos same]
    simp only [kept, answer, found, Draft.reread, Draft.rereading, if_pos same]
    exact ⟨trivial, rfl⟩
  · have revised : outcome =
        (registry.update uri draft.nextVersion text fileClient now).map some := by
      simp only [outcome, reload, update, found, named, read, if_neg same]
    obtain ⟨-, stored, told⟩ := update_ok sound found (Draft.revise_reread left same now)
    rw [revised]
    refine ⟨stored, told.trans ?_⟩
    simp only [Draft.rereading, if_neg same, Draft.text_reread, sound.named uri draft found,
      List.map_cons, List.map_nil]

/-- Reading one document again is not announced of another. -/
theorem updatesOf_reload {registry : Registry φ} (sound : registry.Sound) {uri other : String}
    (different : uri ≠ other) (now : UInt64) :
    updatesOf other (registry.reload uri now).events = [] := by
  apply List.filter_eq_nil_iff.mpr
  intro update member
  have about := (reload_turns sound uri now).turns.about member
  simpa [about] using different

end Registry

namespace Workspace

variable {φ α : Type} (workspace : Workspace φ) (clock : Clock)

/-- A session that hears of an update announces nothing itself. -/
theorem announced_hear (session : Session) (update : Registry.Update) :
    (workspace.hear clock session update).announced = workspace.announced := by
  have follows : ∀ (judged : Workspace φ) direction,
      (if clock = .within ∧ update.client ≠ session.client then judged.schedule session direction
        else judged).announced = judged.announced := by
    intro judged direction
    split <;> rfl
  unfold hear
  split
  · rfl
  · simp only
    split
    · unfold meetConflict
      split
      · split <;> rfl
      · unfold publish send
        split <;> rfl
    · exact follows _ _
    · exact follows _ _
    · split
      · exact follows _ _
      · rfl

theorem announced_announce (event : Registry.Event) :
    (announce clock workspace event).announced = event :: workspace.announced := by
  cases event with
  | saved saved => rfl
  | updated update =>
    have heard : ∀ (numbers : List Nat) (noted : Workspace φ),
        (numbers.foldl (hearBy clock update) noted).announced = noted.announced := by
      intro numbers
      induction numbers with
      | nil => exact fun _ => rfl
      | cons number numbers inductionHypothesis =>
        intro noted
        refine (inductionHypothesis _).trans ?_
        unfold hearBy
        split
        · split
          · exact announced_hear noted clock _ update
          · rfl
        · rfl
    exact heard _ _

/-- What an operation announces is noted, the latest first. -/
theorem announced_adopt (outcome : Registry.Outcome φ α) :
    (workspace.adopt clock outcome).1.announced =
      outcome.events.reverse ++ workspace.announced := by
  have noted : ∀ (events : List Registry.Event) (before : Workspace φ),
      (events.foldl (announce clock) before).announced = events.reverse ++ before.announced := by
    intro events
    induction events with
    | nil => exact fun _ => rfl
    | cons event events inductionHypothesis =>
      intro before
      rw [List.foldl_cons, inductionHypothesis, announced_announce, List.reverse_cons,
        List.append_assoc]
      rfl
  exact noted outcome.events _

/-- What an operation announces of a document is noted, the latest first. -/
theorem updatesOf_adopt (outcome : Registry.Outcome φ α) (uri : String) :
    Registry.updatesOf uri (workspace.adopt clock outcome).1.announced =
      (Registry.updatesOf uri outcome.events).reverse ++
        Registry.updatesOf uri workspace.announced := by
  rw [announced_adopt, Registry.updatesOf_append]
  simp only [Registry.updatesOf, Registry.updates, List.filterMap_reverse, List.filter_reverse]

end Workspace

namespace Desk

variable {φ : Type} [Files.Store φ]

/-- Whether a text has reached an open document by something that happened to a desk: the
document has the text, as a change by the client on whose behalf files are read that was
announced, unless it had the text before. -/
structure Reached (before after : Desk φ) (draft : Draft) (text : String) : Prop where
  document : after.workspace.registry.draft? draft.uri = some (draft.reread text)
  announced : Registry.updatesOf draft.uri after.workspace.announced =
    draft.rereading text before.workspace.timestamp ++
      Registry.updatesOf draft.uri before.workspace.announced

section Moves

variable {desk : Desk φ} {uri path : String}

/-- Being told of a file has the document read again that is open under its address. -/
theorem workspace_fileChanged {draft : Draft}
    (found : desk.workspace.registry.draft? uri = some draft)
    (addressed : Address.uriOf? path = some uri) :
    (desk.fileChanged path).workspace = (desk.workspace.reload uri).1 := by
  have shown : desk.workspace.registry.isOpen uri = true :=
    Option.isSome_iff_exists.mpr ⟨draft, found⟩
  simp only [fileChanged, addressed, shown, if_true]
  rfl

/-- A document with another address than that of a file is left alone, and nothing is
announced of it. -/
theorem fileChanged_elsewhere (orderly : desk.workspace.Orderly)
    (elsewhere : Address.uriOf? path ≠ some uri) :
    (desk.fileChanged path).workspace.registry.draft? uri = desk.workspace.registry.draft? uri ∧
      Registry.updatesOf uri (desk.fileChanged path).workspace.announced =
        Registry.updatesOf uri desk.workspace.announced := by
  unfold fileChanged
  split
  · exact ⟨rfl, rfl⟩
  · next other addressed =>
    have different : other ≠ uri := by
      rintro rfl
      exact elsewhere addressed
    split
    · have turns := Registry.reload_turns orderly.sound other desk.workspace.timestamp
      constructor
      · have frame := (Workspace.adopt_frame orderly.numbered .within turns.once).1
        exact (congrArg (·.draft? uri) frame).trans (turns.elsewhere uri different)
      · refine (Workspace.updatesOf_adopt desk.workspace .within _ uri).trans ?_
        rw [Registry.updatesOf_reload orderly.sound different]
        rfl
    · exact ⟨rfl, rfl⟩

/-- A document that goes by the address of a file is reached by the text of the file. -/
theorem reached_of_address (orderly : desk.workspace.Orderly) {draft : Draft}
    {bytes : Text.Utf8.Bytes} (found : desk.workspace.registry.draft? uri = some draft)
    (named : Address.pathOf? uri = some path) (left : draft.version ≠ Draft.lastVersion)
    (readable : Files.Store.read desk.workspace.registry.files path = .ok bytes)
    (addressed : Address.uriOf? path = some uri) :
    Reached desk (desk.fileChanged path) draft (Text.Utf8.decodeLossy bytes) := by
  have itself : draft.uri = uri := orderly.sound.named uri draft found
  have turns := Registry.reload_turns orderly.sound uri desk.workspace.timestamp
  obtain ⟨stored, told⟩ := Registry.reload_ok orderly.sound found named left readable
    desk.workspace.timestamp
  constructor
  · have frame := (Workspace.adopt_frame orderly.numbered .within turns.once).1
    rw [itself, workspace_fileChanged found addressed]
    exact (congrArg (·.draft? uri) frame).trans stored
  · rw [workspace_fileChanged found addressed]
    refine (Workspace.updatesOf_adopt desk.workspace .within _ draft.uri).trans ?_
    rw [told, Draft.updatesOf_rereading]

end Moves

/-- Whatever happened to a desk before: told of a change of a file that can be read, it
lets the text of the file reach a document that names its path, and has a version left,
exactly if the document goes by the address that is written for the path, or if it has the
text already.

Proof: an event about a path reads again only the document under the address that is written for
the path. If that is the document, it is given the text as a change, unless it has it. If it is
not, the document stays as it is, and so has the text of the file only if it had it before. -/
theorem file_reaches_document_iff (names : Nat → String) (files : φ) (settings : Settings)
    (moves : List (Move φ)) (uri path : String) (draft : Draft) (bytes : Text.Utf8.Bytes)
    (found : ((createNaming names files settings).after moves).workspace.registry.draft? uri =
      some draft)
    (named : Address.pathOf? uri = some path) (left : draft.version ≠ Draft.lastVersion)
    (readable : Files.Store.read
      ((createNaming names files settings).after moves).workspace.registry.files path =
        .ok bytes) :
    let desk := (createNaming names files settings).after moves
    let text := Text.Utf8.decodeLossy bytes
    Reached desk (desk.fileChanged path) draft text ↔
      Address.uriOf? path = some uri ∨ draft.text = text := by
  intro desk text
  have orderly : desk.workspace.Orderly :=
    (makes_after _ moves).orderly (Workspace.orderly_create files settings)
  have itself : draft.uri = uri := orderly.sound.named uri draft found
  by_cases addressed : Address.uriOf? path = some uri
  · exact iff_of_true (reached_of_address orderly found named left readable addressed)
      (.inl addressed)
  · obtain ⟨kept, silent⟩ := fileChanged_elsewhere orderly addressed
    constructor
    · intro reached
      have document := reached.document
      rw [itself, kept, found, Option.some.injEq] at document
      right
      rw [document, Draft.text_reread]
    · rintro (written | same)
      · exact absurd written addressed
      · constructor
        · rw [itself, kept, found, Draft.reread, if_pos same]
        · rw [itself, silent, Draft.rereading, if_pos same]
          rfl

/-- A store that holds one file, under `/a.wf`. -/
def holding (text : String) : Files.Memory :=
  { Files.Memory.empty with files := Table.empty.put "a.wf" (Text.Utf8.encode text) }

/-- A client opens the document of an address as the file has it, and the file changes. -/
def openedThenChanged (uri : String) : Desk Files.Memory :=
  (create (holding "workflow:\n") .usual).after
    [.request (.openFor ⟨uri, "t1", none, none, none⟩ .text),
      .refile (holding "workflow:\n  name: a\n")]

/-- The draft that the client opened. -/
def openedDraft (uri : String) : Draft :=
  ⟨uri, "workflow", "workflow:\n", 0, "t1", NameSet.empty.insert "t1"⟩

/-- The new text reaches the document that goes by the address of the file. -/
theorem file_reaches_plain_address :
    Reached (openedThenChanged "file:///a.wf")
      ((openedThenChanged "file:///a.wf").fileChanged "/a.wf") (openedDraft "file:///a.wf")
      (Text.Utf8.decodeLossy (Text.Utf8.encode "workflow:\n  name: a\n")) :=
  (file_reaches_document_iff givenName (holding "workflow:\n") .usual
    [.request (.openFor ⟨"file:///a.wf", "t1", none, none, none⟩ .text),
      .refile (holding "workflow:\n  name: a\n")]
    "file:///a.wf" "/a.wf" (openedDraft "file:///a.wf") _
    (by decide +kernel) (by decide +kernel) (by decide +kernel) (by decide +kernel)).mpr
    (.inl (by decide +kernel))

/-- A document that was opened with a host in its address names the same path, and keeps the
text that the file no longer has. -/
theorem host_hides_document_from_file :
    let desk := openedThenChanged "file://localhost/a.wf"
    desk.workspace.registry.draft? "file://localhost/a.wf" =
        some (openedDraft "file://localhost/a.wf") ∧
      Address.pathOf? "file://localhost/a.wf" = some "/a.wf" ∧
      (openedDraft "file://localhost/a.wf").version ≠ Draft.lastVersion ∧
      Files.Store.read desk.workspace.registry.files "/a.wf" =
        .ok (Text.Utf8.encode "workflow:\n  name: a\n") ∧
      (desk.fileChanged "/a.wf").workspace.registry.draft? "file://localhost/a.wf" =
        some (openedDraft "file://localhost/a.wf") ∧
      (openedDraft "file://localhost/a.wf").text ≠
        Text.Utf8.decodeLossy (Text.Utf8.encode "workflow:\n  name: a\n") := by
  decide +kernel

end Desk

end Flowdesk
