import Flowdesk.Proofs.Files.Memory
import Flowdesk.Proofs.Registry.Refusal

/-!
# Saves of texts

A save goes through five steps that can each fail: the address names a file, the file is
looked for, its bytes are read and copied to a backup, the text is written, and the open
document gets the text. A backup that cannot be made is passed over, and so is a document
that has no version left. Any other failure comes before anything but the backup was
written, so a save that fails has done no harm, and a save that succeeds has kept the text.
-/

namespace Flowdesk

open Data

namespace Draft

/-- A draft whose text was saved by a client. -/
def saved (draft : Draft) (text client : String) : Draft :=
  if draft.text = text ∨ draft.version = lastVersion then draft
  else { draft with text, version := draft.version + 1, author := client }

/-- A draft that has a version left has the text that was saved, and one more version
exactly if it had another text before. -/
theorem saved_spec {draft : Draft} (left : draft.version ≠ lastVersion) (text client : String) :
    (draft.saved text client).text = text ∧
      (draft.saved text client).version.toNat =
        draft.version.toNat + if draft.text = text then 0 else 1 := by
  by_cases same : draft.text = text
  · rw [saved, if_pos (.inl same), if_pos same]
    exact ⟨same, rfl⟩
  · rw [saved, if_neg (by simp [same, left]), if_neg same]
    exact ⟨rfl, toNat_succ left⟩

/-- The draft of a saved text is the one that the next version records. -/
theorem revise_saved {draft : Draft} {text : String} (left : draft.version ≠ lastVersion)
    (differs : draft.text ≠ text) (client : String) (now : UInt64) :
    draft.revise draft.nextVersion text client now =
      some (draft.saved text client, (draft.saved text client).current now) := by
  have changed : ¬(draft.text = text ∨ draft.version = lastVersion) := by simp [differs, left]
  rw [revise_next left, saved, if_neg changed]
  rfl

end Draft

namespace Files.Memory

open Text.Utf8

/-- The place where the backup of a file is kept. -/
def backup (path : String) : String := location (path ++ Registry.backupSuffix)

/-- A file is never its own backup. -/
theorem backup_ne_location (path : String) : backup path ≠ location path := by
  have suffix : Registry.backupSuffix.toList = ['.', 'b', 'a', 'c', 'k', 'u', 'p'] := by decide
  have whole : trimmed (path ++ Registry.backupSuffix) =
      path.toList.dropWhile (· = '/') ++ Registry.backupSuffix.toList := by
    simp only [trimmed, String.toList_append, List.dropWhile_append, suffix]
    split
    · next slashes => simp [List.isEmpty_iff.mp slashes]
    · simp
  intro same
  have lengths := congrArg (·.toList.length) same
  have shorter : (trimmed path).length ≤ (path.toList.dropWhile (· = '/')).length := by
    rw [trimmed, List.length_reverse,
      ← (path.toList.dropWhile (· = '/')).length_reverse]
    exact (List.dropWhile_sublist _).length_le
  simp only [backup, location, String.toList_ofList, whole, suffix, List.length_append,
    List.length_cons, List.length_nil] at lengths
  omega

/-- The store after a file was copied to its backup, as far as there is something to copy
and the copy is not refused. -/
def backedUp (memory : Memory) (path : String) : Memory :=
  match memory.read path with
  | .ok bytes => (Store.write memory (path ++ Registry.backupSuffix) bytes).1
  | .error _ => memory

section BackedUp

variable (memory : Memory) (path : String)

/-- A copy is made as it is said, or nothing is done. -/
theorem backedUp_cases :
    (∃ bytes, memory.read path = .ok bytes ∧
      memory.write (path ++ Registry.backupSuffix) bytes = .ok (memory.backedUp path)) ∨
    memory.backedUp path = memory ∧ ∀ bytes, memory.read path = .ok bytes →
      ∃ failure, memory.write (path ++ Registry.backupSuffix) bytes = .error failure := by
  unfold backedUp
  cases read : memory.read path with
  | error failure => exact .inr ⟨rfl, nofun⟩
  | ok bytes =>
    cases copied : memory.write (path ++ Registry.backupSuffix) bytes with
    | ok written =>
      refine .inl ⟨bytes, rfl, ?_⟩
      simp only [store_write_of_ok copied, copied]
    | error failure =>
      refine .inr ⟨by simp only [store_write_of_error copied], ?_⟩
      intro _ same
      cases same
      exact ⟨failure, copied⟩

/-- Copying a file touches no place but that of the backup. -/
theorem get?_backedUp {place : String} (other : place ≠ backup path) :
    (memory.backedUp path).files.get? place = memory.files.get? place := by
  rcases backedUp_cases memory path with ⟨bytes, _, copied⟩ | ⟨same, _⟩
  · rw [get?_of_write copied]
    exact if_neg fun here => other here.symm
  · rw [same]

/-- Copying a file leaves the folders that there are. -/
theorem mem_folders_backedUp {name : String} (folder : name ∈ memory.folders) :
    name ∈ (memory.backedUp path).folders := by
  rcases backedUp_cases memory path with ⟨bytes, _, copied⟩ | ⟨same, _⟩
  · exact mem_folders_of_write copied folder
  · rwa [same]

variable {memory path} in
/-- Once a file was written after it was copied, its earlier bytes are in the backup, unless
that could not be written. -/
theorem copied_of_write {written : Memory} {bytes : Bytes}
    (done : (memory.backedUp path).write path bytes = .ok written) (previous : Bytes)
    (kept : memory.files.get? (location path) = some previous) :
    written.files.get? (backup path) = some previous ∨
      ∃ failure, memory.write (path ++ Registry.backupSuffix) previous = .error failure := by
  have shown : location path ∉ memory.folders := fun hidden =>
    (write_eq_ok done).1 (mem_folders_backedUp memory path hidden)
  have read : memory.read path = .ok previous := (read_eq_ok_iff _ _ _).mpr ⟨shown, kept⟩
  rcases backedUp_cases memory path with ⟨found, readAs, copied⟩ | ⟨-, refused⟩
  · cases readAs.symm.trans read
    rw [get?_of_write done, if_neg (backup_ne_location path).symm, get?_of_write copied]
    exact .inl (if_pos rfl)
  · exact .inr (refused previous read)

end BackedUp

end Files.Memory

namespace Registry

open Files Memory Text.Utf8

variable {φ : Type}

/-- The saves among announcements. -/
def saves (events : List Event) : List Saved :=
  events.filterMap fun
    | .saved saved => some saved
    | .updated _ => none

theorem files_keepBuild (registry : Registry φ) (version : UInt64) (build : Workflow.Build) :
    (registry.keepBuild version build).files = registry.files := by
  unfold keepBuild
  split
  · split <;> rfl
  · rfl

/-- Giving a document another text leaves the files alone. -/
theorem files_revise (registry : Registry φ) (draft : Draft) (claimed : UInt64)
    (text client : String) (now : UInt64) :
    (registry.revise draft claimed text client now).registry.files = registry.files := by
  exact revise_branches rfl fun _ _ _ => files_keepBuild _ _ _

/-- A document that is given a text that it does not have, under its next version, is left as
one whose text was saved. No save is announced by that. -/
theorem revise_to_saved {registry : Registry φ} (sound : registry.Sound) {uri text : String}
    {draft : Draft} (found : registry.draft? uri = some draft) (differs : draft.text ≠ text)
    (client : String) (now : UInt64) :
    let revised := registry.revise draft draft.nextVersion text client now
    revised.registry.draft? uri = some (draft.saved text client) ∧ saves revised.events = [] := by
  intro revised
  by_cases left : draft.version = Draft.lastVersion
  · have refused : revised = registry.refuse (.versionExhausted draft.uri) := by
      simp only [revised, revise, Draft.revise, if_pos left]
    have itself : draft.saved text client = draft := if_pos (.inr left)
    rw [refused, itself]
    exact ⟨found, rfl⟩
  · have recorded : revised = registry.update uri draft.nextVersion text client now := by
      simp only [revised, update, found]
    obtain ⟨-, kept, told⟩ := update_ok sound found (Draft.revise_saved left differs client now)
    rw [recorded, told]
    exact ⟨kept, rfl⟩

/-- What comes of announcing a save. -/
theorem announceSave_spec {registry : Registry φ} (sound : registry.Sound)
    (uri text client : String) (now : UInt64) :
    let outcome := registry.announceSave uri text client now
    let draft? := (registry.draft? uri).map (·.saved text client)
    outcome.result = .ok () ∧ outcome.registry.files = registry.files ∧
      outcome.registry.draft? uri = draft? ∧ saves outcome.events =
        [⟨draft?.getD (Draft.create uri Draft.usualLanguage 0 text client), client⟩] := by
  intro outcome draft?
  cases found : registry.draft? uri with
  | none =>
    have said : outcome = ⟨registry,
        [.saved ⟨Draft.create uri Draft.usualLanguage 0 text client, client⟩], .ok ()⟩ := by
      simp only [outcome, announceSave, found]
    have shape : draft? = none := by simp only [draft?, found, Option.map]
    rw [said, shape]
    exact ⟨rfl, rfl, found, rfl⟩
  | some draft =>
    have shape : draft? = some (draft.saved text client) := by simp only [draft?, found, Option.map]
    rw [shape]
    by_cases same : draft.text = text
    · have said : outcome = ⟨registry, [.saved ⟨draft, client⟩], .ok ()⟩ := by
        simp only [outcome, announceSave, found, if_pos same]
      have itself : draft.saved text client = draft := if_pos (.inl same)
      rw [said, itself]
      exact ⟨rfl, rfl, found, rfl⟩
    · let revised := registry.revise draft draft.nextVersion text client now
      have said : outcome = ⟨revised.registry,
          revised.events ++ [.saved ⟨(revised.registry.draft? uri).getD draft, client⟩],
          .ok ()⟩ := by
        simp only [outcome, announceSave, found, if_neg same]
        rfl
      obtain ⟨kept, told⟩ := revise_to_saved sound found same client now
      rw [said]
      refine ⟨rfl, files_revise _ _ _ _ _ _, kept, ?_⟩
      rw [saves, List.filterMap_append, ← saves, told, kept]
      rfl

/-- Copying a file of a registry is copying it in the store. -/
theorem backUp_memory (registry : Registry Memory) (path : String) :
    registry.backUp path = { registry with files := registry.files.backedUp path } := by
  unfold backUp backedUp
  change (match registry.files.read path with
    | .ok bytes => { registry with
        files := (Store.write registry.files (path ++ backupSuffix) bytes).1 }
    | .error _ => registry) = _
  cases registry.files.read path with
  | ok bytes => rfl
  | error failure => rfl

/-- A text is written after the file was copied, as far as there is something to copy. -/
theorem writeText_memory (registry : Registry Memory) (path text : String) :
    registry.writeText path text =
      let tried := Store.write (registry.files.backedUp path) path (encode text)
      ({ registry with files := tried.1 }, tried.2.mapError .file) := by
  have copied : (if registry.files.contains path then registry.backUp path else registry) =
      { registry with files := registry.files.backedUp path } := by
    split
    · exact backUp_memory registry path
    · next missing =>
      have nothing : registry.files.backedUp path = registry.files := by
        rcases backedUp_cases registry.files path with ⟨bytes, read, _⟩ | ⟨same, _⟩
        · refine absurd ?_ missing
          simp [Memory.contains, Table.contains, ((read_eq_ok_iff _ _ _).mp read).2]
        · exact same
      rw [nothing]
  change (let registry' := if registry.files.contains path then registry.backUp path else registry
    let tried := Store.write registry'.files path (encode text)
    ({ registry' with files := tried.1 }, tried.2.mapError Failure.file)) = _
  rw [copied]

/-- A save is refused before anything is written, or when the text is written, or the
text is written and announced. -/
theorem save_cases (registry : Registry Memory) (uri text client : String) (now : UInt64) :
    (∃ failure, registry.save uri text client now = registry.refuse failure) ∨
    ∃ path, Address.pathOf? uri = some path ∧
      ((∃ failure, registry.save uri text client now =
          ({ registry with files := registry.files.backedUp path } : Registry Memory).refuse
            failure) ∨
        ∃ written, (registry.files.backedUp path).write path (encode text) = .ok written ∧
          registry.save uri text client now =
            ({ registry with files := written } : Registry Memory).announceSave uri text client
              now) := by
  unfold save
  split
  · exact .inl ⟨_, rfl⟩
  · split
    · exact .inl ⟨_, rfl⟩
    · next path named =>
      refine .inr ⟨path, named, ?_⟩
      rw [writeText_memory]
      cases wrote : (registry.files.backedUp path).write path (encode text) with
      | error failure =>
        rw [store_write_of_error wrote]
        exact .inl ⟨.file failure, rfl⟩
      | ok written =>
        rw [store_write_of_ok wrote]
        exact .inr ⟨written, rfl, rfl⟩

section Save

variable {registry : Registry Memory} (sound : registry.Sound) (uri text client : String)
  (now : UInt64)

include sound

/-- A save touches no file but the one that the address names and its backup. -/
theorem get?_save {place : String} (other : ∀ path, Address.pathOf? uri = some path →
    place ≠ location path ∧ place ≠ backup path) :
    (registry.save uri text client now).registry.files.files.get? place =
      registry.files.files.get? place := by
  rcases save_cases registry uri text client now with
    ⟨cause, refused⟩ | ⟨path, named, ⟨cause, refused⟩ | ⟨written, wrote, done⟩⟩
  · rw [refused]
    rfl
  · rw [refused]
    exact get?_backedUp registry.files path (other path named).2
  · rw [done, (announceSave_spec (sound.withFiles written) uri text client now).2.1,
      get?_of_write wrote, if_neg fun here => (other path named).1 here.symm]
    exact get?_backedUp registry.files path (other path named).2

/-- A save that fails touches the backup only. -/
theorem get?_of_save_failed {failure : Failure}
    (failed : (registry.save uri text client now).result = .error failure) {place : String}
    (other : ∀ path, Address.pathOf? uri = some path → place ≠ backup path) :
    (registry.save uri text client now).registry.files.files.get? place =
      registry.files.files.get? place := by
  rcases save_cases registry uri text client now with
    ⟨cause, refused⟩ | ⟨path, named, ⟨cause, refused⟩ | ⟨written, wrote, done⟩⟩
  · rw [refused]
    rfl
  · rw [refused]
    exact get?_backedUp registry.files path (other path named)
  · rw [done, (announceSave_spec (sound.withFiles written) uri text client now).1] at failed
    cases failed

/-- A save that succeeds leaves the text in the file, the earlier bytes in the backup unless
that could not be written, and the document as one whose text was saved, and announces one
save. -/
theorem save_done (succeeded : (registry.save uri text client now).result = .ok ()) :
    let outcome := registry.save uri text client now
    let draft? := (registry.draft? uri).map (·.saved text client)
    ∃ path, Address.pathOf? uri = some path ∧
      outcome.registry.files.read path = .ok (encode text) ∧
      (∀ previous, registry.files.files.get? (location path) = some previous →
        outcome.registry.files.files.get? (backup path) = some previous ∨
          ∃ failure, registry.files.write (path ++ backupSuffix) previous = .error failure) ∧
      outcome.registry.draft? uri = draft? ∧ saves outcome.events =
        [⟨draft?.getD (Draft.create uri Draft.usualLanguage 0 text client), client⟩] := by
  intro outcome draft?
  rcases save_cases registry uri text client now with
    ⟨cause, refused⟩ | ⟨path, named, ⟨cause, refused⟩ | ⟨written, wrote, done⟩⟩
  · rw [refused] at succeeded
    cases succeeded
  · rw [refused] at succeeded
    cases succeeded
  · obtain ⟨-, kept, document, told⟩ :=
      announceSave_spec (sound.withFiles written) uri text client now
    simp only [outcome, done, kept]
    exact ⟨path, named, read_of_write wrote, copied_of_write wrote, document, told⟩

end Save

/-- After any run of a new registry, in which the files may have become any others, a save
is durable or harmless.

If it succeeds, the file holds exactly the text, the bytes that it held before are in its
backup unless that could not be written, the open document has the text, with one more
version exactly if it had another text before, as long as it had a version left, and one
save is announced. If it fails, nothing is announced, and the documents, the builds and all
stored bytes but those of the backup are what they were. Either way no other file and no
other document is touched. A text of white space is refused, and nothing else happens.

Proof: by the cases of a save. The copy and the text go to different places, and a write
tells what is kept at every place. -/
theorem save_durable_or_harmless (files : Memory) (asked : List (UInt64 × Operation Memory))
    (now : UInt64) (uri text client : String) :
    let registry := (create files).after asked
    let outcome := registry.save uri text client now
    let before := registry.files.files
    let after := outcome.registry.files.files
    (Text.isBlankText text = true → outcome = registry.refuse (.emptyContent uri)) ∧
    (∀ failure, outcome.result = .error failure →
      outcome.Spares registry ∧
      ∀ place, (∀ path, Address.pathOf? uri = some path → place ≠ backup path) →
        after.get? place = before.get? place) ∧
    (outcome.result = .ok () →
      ∃ path, Address.pathOf? uri = some path ∧
        outcome.registry.files.read path = .ok (encode text) ∧
        (∀ previous, before.get? (location path) = some previous →
          after.get? (backup path) = some previous ∨
            ∃ failure, registry.files.write (path ++ backupSuffix) previous = .error failure) ∧
        (∀ draft, registry.draft? uri = some draft → draft.version ≠ Draft.lastVersion →
          ∃ saved, outcome.registry.draft? uri = some saved ∧ saved.text = text ∧
            saved.version.toNat = draft.version.toNat + if draft.text = text then 0 else 1) ∧
        saves outcome.events = [⟨(outcome.registry.draft? uri).getD
          (Draft.create uri Draft.usualLanguage 0 text client), client⟩]) ∧
    (∀ place, (∀ path, Address.pathOf? uri = some path →
        place ≠ location path ∧ place ≠ backup path) →
      after.get? place = before.get? place) ∧
    ∀ other, uri ≠ other → outcome.registry.draft? other = registry.draft? other := by
  intro registry outcome before after
  have sound : registry.Sound := sound_after (sound_create files) asked
  refine ⟨fun blank => if_pos blank, ?_, ?_,
    fun _ other => get?_save sound uri text client now other,
    (save_turns sound uri text client now).elsewhere⟩
  · intro failure failed
    exact ⟨save_failed failed, fun _ other =>
      get?_of_save_failed sound uri text client now failed other⟩
  · intro succeeded
    obtain ⟨path, named, read, copied, document, told⟩ :=
      save_done sound uri text client now succeeded
    refine ⟨path, named, read, copied, ?_, ?_⟩
    · intro draft found left
      rw [found] at document
      exact ⟨draft.saved text client, document, Draft.saved_spec left text client⟩
    · rw [told, document]

/-- A file whose backup cannot be written. -/
def unguarded : Memory :=
  { Memory.empty.refuse "/a.wf.backup" with files := ⟨[("a.wf", encode "workflow:\n")]⟩ }

/-- The run of a client that opens the document of that file. -/
def unguardedRun : List (UInt64 × Operation Memory) :=
  [(0, .openFor ⟨"file:///a.wf", "t1", none, none, none⟩)]

/-- A backup that cannot be written does not stop a save. -/
theorem save_passes_over_refused_backup :
    let registry := (create unguarded).after unguardedRun
    let outcome := registry.save "file:///a.wf" "workflow: {}\n" "t2" 0
    outcome.registry.files.read "/a.wf" = .ok (encode "workflow: {}\n") ∧
      outcome.registry.files.files.get? (backup "/a.wf") = none ∧
      ∃ saved, outcome.registry.draft? "file:///a.wf" = some saved ∧ saved.version.toNat = 1 := by
  intro registry outcome
  have run :
      (outcome.failure?, (registry.draft? "file:///a.wf").map fun draft =>
          (draft.text, draft.version), Address.pathOf? "file:///a.wf",
        outcome.registry.files.files.get? (backup "/a.wf")) =
      (none, some ("workflow:\n", 0), some "/a.wf", none) := by
    decide +kernel
  simp only [Prod.mk.injEq, Option.map_eq_some_iff] at run
  obtain ⟨unfailed, ⟨draft, found, text, version⟩, named, unsaved⟩ := run
  have succeeded : outcome.result = .ok () := by
    cases result : outcome.result with
    | ok => rfl
    | error failure =>
      have failed := (outcome.failure?_eq_some_iff failure).mpr result
      cases unfailed.symm.trans failed
  obtain ⟨path, here, read, -, document, -⟩ :=
    (save_durable_or_harmless unguarded unguardedRun 0 "file:///a.wf" "workflow: {}\n"
      "t2").2.2.1 succeeded
  cases named.symm.trans here
  obtain ⟨saved, kept, -, risen⟩ := document draft found (by rw [version]; decide)
  refine ⟨read, unsaved, saved, kept, risen.trans ?_⟩
  rw [version, text]
  decide

end Registry

end Flowdesk
