import Flowdesk.Proofs.Registry.Saving
import Flowdesk.Proofs.Text.Utf8

/-!
# Echoes of files

A document that is read again from its file changes exactly if the file holds another text.
Opening a document, saving it and reading it again take the same way between texts and
bytes: a text is written as its bytes, which are read back as that text, and bytes that are
no text are replaced whenever they are read, in the same way each time. So each of the three
leaves the document with the text of its file, and a desk that is told of its own save does
nothing.
-/

namespace Flowdesk.Registry

open Text.Utf8

variable {φ : Type}

/-- An operation that succeeds. -/
def Outcome.Succeeds {α : Type} (outcome : Outcome φ α) : Prop :=
  ∃ value, outcome.result = .ok value

/-- Another result is a success exactly when the first one was. -/
theorem Outcome.succeeds_map {α β : Type} (outcome : Outcome φ α) (change : α → β) :
    (outcome.map change).Succeeds ↔ outcome.Succeeds := by
  unfold Succeeds Outcome.map
  cases outcome.result with
  | ok value => exact iff_of_true ⟨change value, rfl⟩ ⟨value, rfl⟩
  | error failure => exact iff_of_false nofun nofun

theorem Outcome.succeeds_iff_failure? {α : Type} (outcome : Outcome φ α) :
    outcome.Succeeds ↔ outcome.failure? = none := by
  unfold Succeeds failure?
  cases outcome.result with
  | ok value => exact iff_of_true ⟨value, rfl⟩ rfl
  | error failure => exact iff_of_false nofun nofun

/-- A document that is given another text has that text. -/
theorem text_of_revise {registry : Registry φ} (sound : registry.Sound) {uri : String}
    {draft : Draft} (found : registry.draft? uri = some draft) {claimed : UInt64}
    {text client : String} {now : UInt64}
    (done : (registry.revise draft claimed text client now).Succeeds) :
    ∃ revised, (registry.revise draft claimed text client now).registry.draft? uri =
      some revised ∧ revised.text = text := by
  have same : registry.update uri claimed text client now =
      registry.revise draft claimed text client now := by
    simp only [update, found]
  cases made : draft.revise claimed text client now with
  | none =>
    obtain ⟨revision, succeeded⟩ := done
    simp only [revise, made, refuse] at succeeded
    cases succeeded
  | some result =>
    obtain ⟨revised, revision⟩ := result
    refine ⟨revised, ?_, ?_⟩
    · rw [← same]
      exact (update_ok sound found made).2.1
    · rw [(Draft.revise_eq_some made).2.1]

section Files

variable [Files.Store φ]

/-- The document of an address is open and has the text of its file. -/
def EchoesFile (registry : Registry φ) (uri : String) : Prop :=
  ∃ draft path, registry.draft? uri = some draft ∧ Address.pathOf? uri = some path ∧
    registry.readText path = .ok draft.text

/-- A file whose bytes can be read has the text that they stand for. -/
theorem readText_eq_ok_iff (registry : Registry φ) (path text : String) :
    registry.readText path = .ok text ↔
      ∃ bytes, Files.Store.read registry.files path = .ok bytes ∧ decodeLossy bytes = text := by
  unfold readText
  cases Files.Store.read registry.files path with
  | ok bytes => simp
  | error failure => simp

/-- Reading a document again answers that there is nothing new, and changes nothing, exactly
if the document has the text of its file. -/
theorem reload_of_readable {registry : Registry φ} {uri path text : String} {draft : Draft}
    (found : registry.draft? uri = some draft) (named : Address.pathOf? uri = some path)
    (readable : registry.readText path = .ok text) (now : UInt64) :
    (registry.reload uri now = registry.answer none ↔ draft.text = text) ∧
      ((registry.reload uri now).result = .ok none ↔ draft.text = text) := by
  by_cases same : draft.text = text
  · have nothing : registry.reload uri now = registry.answer none := by
      simp only [reload, found, named, readable, if_pos same]
    rw [nothing]
    exact ⟨iff_of_true rfl same, iff_of_true rfl same⟩
  · have revised : registry.reload uri now =
        (registry.revise draft draft.nextVersion text fileClient now).map some := by
      simp only [reload, found, named, readable, if_neg same]
    have news : (registry.reload uri now).result ≠ .ok none := by
      rw [revised, Outcome.map]
      cases (registry.revise draft draft.nextVersion text fileClient now).result with
      | ok revision => exact nofun
      | error failure => exact nofun
    exact ⟨iff_of_false (fun nothing => news (congrArg Outcome.result nothing)) same,
      iff_of_false news same⟩

/-- A document that has the text of its file is left as it is. -/
theorem EchoesFile.reload {registry : Registry φ} {uri : String} (echoes : registry.EchoesFile uri)
    (now : UInt64) : registry.reload uri now = registry.answer none := by
  obtain ⟨draft, path, found, named, readable⟩ := echoes
  exact (reload_of_readable found named readable now).1.mpr rfl

/-- A document has the text of its file as long as neither changes. -/
theorem EchoesFile.congr {before after : Registry φ} {uri : String}
    (echoes : before.EchoesFile uri)
    (document : (after.draft? uri).map (·.text) = (before.draft? uri).map (·.text))
    (file : ∀ path, Address.pathOf? uri = some path →
      Files.Store.read after.files path = Files.Store.read before.files path) :
    after.EchoesFile uri := by
  obtain ⟨draft, path, found, named, readable⟩ := echoes
  rw [found, Option.map_some, Option.map_eq_some_iff] at document
  obtain ⟨later, present, text⟩ := document
  refine ⟨later, path, present, named, ?_⟩
  rw [text, ← readable]
  simp only [readText, file path named]

/-- Opening a document leaves the files alone. -/
theorem files_openFor (registry : Registry φ) (opening : Opening) (now : UInt64) :
    (registry.openFor opening now).registry.files = registry.files := by
  refine openFor_branches ?refused ?joined ?registered
  case refused => exact fun _ _ => rfl
  case joined => exact fun draft _ => join_branches rfl fun _ _ _ => files_revise _ _ _ _ _ _
  case registered =>
    intro text _
    rw [register_eq]
    exact files_keepBuild _ _ _

/-- A document that is opened without a text while nobody holds it has the text of its
file. -/
theorem echoesFile_of_openFor {registry : Registry φ} {opening : Opening} {now : UInt64}
    (first : registry.draft? opening.uri = none) (unsaid : opening.text = none)
    (done : (registry.openFor opening now).Succeeds) :
    (registry.openFor opening now).registry.EchoesFile opening.uri := by
  obtain ⟨value, succeeded⟩ := done
  revert succeeded
  simp only [openFor, first, unsaid]
  split
  · exact nofun
  · next path named =>
    split
    · next text readable =>
      intro _
      rw [register_eq]
      refine ⟨opening.created text, path, ?_, named, ?_⟩
      · rw [draft?_keepBuild, draft?_setDraft]
        exact if_pos rfl
      · simp only [readText, files_keepBuild] at readable ⊢
        exact readable
    · exact nofun

/-- A document that is read again has the text of its file from then on. -/
theorem echoesFile_of_reload {registry : Registry φ} (sound : registry.Sound) {uri : String}
    {now : UInt64} (done : (registry.reload uri now).Succeeds) :
    (registry.reload uri now).registry.EchoesFile uri := by
  revert done
  refine reload_branches ?refused ?same ?revised
  case refused =>
    rintro failure ⟨_, failed⟩
    cases failed
  case same => exact fun draft path found named readable _ => ⟨draft, path, found, named, readable⟩
  case revised =>
    intro draft path text found named readable done
    obtain ⟨revised, stored, text_eq⟩ :=
      text_of_revise sound found ((Outcome.succeeds_map _ _).mp done)
    refine ⟨revised, path, stored, named, ?_⟩
    have files := files_revise registry draft draft.nextVersion text fileClient now
    rw [text_eq, ← readable]
    simp only [readText, Outcome.map, files]

end Files

open Files

/-- A document that has the text that was saved has the text of its file. -/
theorem echoesFile_of_save {registry : Registry Memory} (sound : registry.Sound)
    {uri text client : String} {now : UInt64}
    (done : (registry.save uri text client now).Succeeds)
    (kept : ((registry.save uri text client now).registry.draft? uri).map (·.text) = some text) :
    (registry.save uri text client now).registry.EchoesFile uri := by
  obtain ⟨value, succeeded⟩ := done
  obtain ⟨draft, found, same⟩ := Option.map_eq_some_iff.mp kept
  obtain ⟨path, named, read, _⟩ := save_done sound uri text client now succeeded
  refine ⟨draft, path, found, named, (readText_eq_ok_iff _ _ _).mpr ⟨encode text, read, ?_⟩⟩
  rw [same]
  exact decodeLossy_encode text

/-- The operations by which a document comes to have the text of its file: its first opening
from the file, a save of the text that it then has, and its being read again. -/
inductive Meets (registry : Registry Memory) (now : UInt64) (uri : String) :
    Operation Memory → Prop where
  | opened (opening : Opening) (about : opening.uri = uri) (unsaid : opening.text = none)
      (first : registry.draft? uri = none) : Meets registry now uri (.openFor opening)
  | saved (text client : String)
      (kept : ((registry.save uri text client now).registry.draft? uri).map (·.text) =
        some text) : Meets registry now uri (.save uri text client)
  | reread : Meets registry now uri (.reload uri)

/-- Each of them leaves the document with the text of its file. -/
theorem Meets.echoesFile {registry : Registry Memory} (sound : registry.Sound) {now : UInt64}
    {uri : String} {operation : Operation Memory} (meets : Meets registry now uri operation)
    (done : (registry.perform now operation).Succeeds) :
    (registry.perform now operation).registry.EchoesFile uri := by
  cases meets with
  | opened opening about unsaid first =>
    subst about
    exact echoesFile_of_openFor first unsaid ((Outcome.succeeds_map _ _).mp done)
  | saved text client kept =>
    exact echoesFile_of_save sound ((Outcome.succeeds_map _ _).mp done) kept
  | reread => exact echoesFile_of_reload sound ((Outcome.succeeds_map _ _).mp done)

/-- After any run of a new registry over files in memory, reading an open document again
whose file can be read answers that there is nothing new, and changes and announces nothing,
exactly if the document has the text that the bytes of the file stand for. That is so once
the document was opened from its file, a save left it with the saved text, or it was read
again, whatever the bytes are, and it stays so in any further run at whose end the file and
the text of the document are the same.

Proof: each of the three operations reads or writes the file by the functions by which it is
read again, and the bytes of a text are read as that text. -/
theorem echoes_are_ignored (files : Memory) (asked : List (UInt64 × Operation Memory))
    (uri : String) :
    let registry := (create files).after asked
    (∀ draft path bytes now, registry.draft? uri = some draft →
      Address.pathOf? uri = some path → registry.files.read path = .ok bytes →
        (registry.reload uri now = registry.answer none ↔ draft.text = decodeLossy bytes) ∧
        ((registry.reload uri now).result = .ok none ↔ draft.text = decodeLossy bytes)) ∧
    ∀ now operation, Meets registry now uri operation →
      (registry.perform now operation).Succeeds → ∀ later time,
        let met := (registry.perform now operation).registry
        let after := met.after later
        (after.draft? uri).map (·.text) = (met.draft? uri).map (·.text) →
        (∀ path, Address.pathOf? uri = some path → after.files.read path = met.files.read path) →
        after.reload uri time = after.answer none := by
  intro registry
  have sound : registry.Sound := sound_after (sound_create files) asked
  constructor
  · intro draft path bytes now found named read
    have readable : registry.readText path = .ok (decodeLossy bytes) :=
      (readText_eq_ok_iff registry path _).mpr ⟨bytes, read, rfl⟩
    exact reload_of_readable found named readable now
  · intro now operation meets done later time met after document file
    have echoes : met.EchoesFile uri := meets.echoesFile sound done
    exact (echoes.congr document file).reload time

/-- A file whose bytes are no text. -/
def garbled : Memory := { Memory.empty with files := ⟨[("a.wf", [0x77, 0xFF, 0x0A])]⟩ }

/-- A document that was opened from such a file is not changed when it is read again, after
another client has joined it. -/
theorem garbled_file_is_echoed :
    let registry := (create garbled).after []
    let opening : Opening := ⟨"file:///a.wf", "t1", none, none, none⟩
    let after := (registry.perform 0 (.openFor opening)).registry.after
      [(1, .openFor { opening with client := "t2" })]
    after.reload "file:///a.wf" 2 = after.answer none ∧
      (after.draft? "file:///a.wf").map (·.text) = some "w\uFFFD\n" := by
  intro registry opening after
  have run :
      ((registry.perform 0 (.openFor opening)).failure?,
        (registry.draft? "file:///a.wf").isNone,
        ((registry.perform 0 (.openFor opening)).registry.draft? "file:///a.wf").map (·.text),
        (after.draft? "file:///a.wf").map (·.text)) =
      (none, true, some "w\uFFFD\n", some "w\uFFFD\n") := by
    decide +kernel
  simp only [Prod.mk.injEq, Option.isNone_iff_eq_none] at run
  obtain ⟨unfailed, first, met, text⟩ := run
  refine ⟨?_, text⟩
  apply (echoes_are_ignored garbled [] "file:///a.wf").2 0 (.openFor opening)
    (.opened opening rfl rfl first)
  · exact (Outcome.succeeds_iff_failure? _).mpr unfailed
  · exact text.trans met.symm
  · intro path _
    exact congrArg (Memory.read · path) (files_openFor _ { opening with client := "t2" } 1)

end Flowdesk.Registry
