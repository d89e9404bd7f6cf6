import Flowdesk.Registry.Basic

/-!
# Branches of the operations

An operation of the registry is refused at several points, or comes to one of the few
things that it can do to a document. A law that holds of a refusal, and of each of these
things, holds of the operation. The operations are told here by their branches, with what
is known in them, once for all laws.
-/

namespace Flowdesk.Registry

open Data Sync Workflow

variable {φ : Type}

@[simp] theorem draft?_setDraft (registry : Registry φ) (draft : Draft) (uri : String) :
    (registry.setDraft draft).draft? uri =
      if draft.uri = uri then some draft else registry.draft? uri :=
  Table.get?_put registry.drafts draft.uri uri draft

/-- Building the text of an open document again announces the build, and keeps it unless
one of a later version is kept. -/
theorem rebuildAs_of_open (registry : Registry φ) (uri : String) (reason : Reason)
    (client : String) (revision : Revision) (draft : Draft)
    (found : registry.draft? uri = some draft) :
    registry.rebuildAs uri reason client revision =
      ⟨registry.keepBuild revision.version (Build.of uri draft.text),
        [.updated ⟨Build.of uri draft.text, client, reason, revision⟩],
        .ok (Build.of uri draft.text)⟩ := by
  unfold rebuildAs
  rw [found]

/-- The draft of a text with which a document is opened. -/
def Opening.created (opening : Opening) (text : String) : Draft :=
  { Draft.create opening.uri (opening.language.getD Draft.usualLanguage)
      (opening.version.getD 0) text opening.client with
    holders := NameSet.empty.insert opening.client }

/-- What comes of registering a document. -/
theorem register_eq (registry : Registry φ) (opening : Opening) (text : String) (now : UInt64) :
    registry.register opening text now =
      ⟨(registry.setDraft (opening.created text)).keepBuild (opening.created text).version
          (Build.of opening.uri text),
        [.updated ⟨Build.of opening.uri text, opening.client, .opened,
          (opening.created text).current now⟩], .ok ()⟩ := by
  have stored : (registry.setDraft (opening.created text)).draft? opening.uri =
      some (opening.created text) := (draft?_setDraft _ _ _).trans (if_pos rfl)
  exact congrArg (Outcome.map · fun _ => ())
    (rebuildAs_of_open _ opening.uri .opened opening.client ((opening.created text).current now) _
      stored)

variable {registry : Registry φ} {uri text client : String} {claimed now : UInt64}

/-- A document that has no version left keeps its text; any other one is built from the
text it is given. -/
@[elab_as_elim] theorem revise_branches {motive : Outcome φ Revision → Prop} {draft : Draft}
    (refused : motive (registry.refuse (.versionExhausted draft.uri)))
    (revised : ∀ next revision, draft.revise claimed text client now = some (next, revision) →
      motive ⟨(registry.setDraft next).keepBuild next.version (Build.of draft.uri next.text),
        [.updated ⟨Build.of draft.uri next.text, client, .changed, revision⟩], .ok revision⟩) :
    motive (registry.revise draft claimed text client now) := by
  unfold revise
  split
  · exact refused
  · next next revision done =>
    obtain ⟨_, shape, moment⟩ := Draft.revise_eq_some done
    have named : next.uri = draft.uri := by rw [shape]
    have version : next.version = revision.version := by rw [shape, moment]
    have stored : (registry.setDraft next).draft? draft.uri = some next :=
      (draft?_setDraft registry next draft.uri).trans (if_pos named)
    have known := revised next revision done
    rw [version] at known
    rw [rebuildAs_of_open _ _ _ _ _ _ stored]
    exact known

/-- The text of an open document is recorded. -/
@[elab_as_elim] theorem update_branches {motive : Outcome φ Revision → Prop}
    (refused : ∀ failure, motive (registry.refuse failure))
    (revised : ∀ draft, registry.draft? uri = some draft →
      motive (registry.revise draft claimed text client now)) :
    motive (registry.update uri claimed text client now) := by
  unfold update
  split
  · exact refused _
  · next draft found => exact revised draft found

/-- A client joins the holders of an open document, whose text is recorded after that if it
is another one. -/
@[elab_as_elim] theorem join_branches {motive : Outcome φ Unit → Prop} {draft : Draft}
    {opening : Opening}
    (alone : motive ((registry.setDraft
      { draft with holders := draft.holders.insert opening.client }).answer ()))
    (revised : ∀ claimed text, opening.text = some text →
      motive (((registry.setDraft
        { draft with holders := draft.holders.insert opening.client }).revise
          { draft with holders := draft.holders.insert opening.client } claimed text
            opening.client now).map fun _ => ())) :
    motive (registry.join draft opening now) := by
  unfold join
  simp only
  split
  · exact alone
  · next text brought =>
    split
    · exact alone
    · exact revised _ text brought

/-- A client lets go of a document, which is dropped if that was the last hold. -/
@[elab_as_elim] theorem close_branches {motive : Outcome φ Bool → Prop}
    (gone : registry.draft? uri = none → motive (registry.answer false))
    (closed : ∀ draft, registry.draft? uri = some draft →
      (draft.holders.erase client).isEmpty = true →
      motive ⟨{ registry with
          drafts := registry.drafts.erase uri
          builds := registry.builds.erase uri },
        [.updated ⟨noBuild uri, client, .deleted, draft.current now⟩], .ok true⟩)
    (left : ∀ draft, registry.draft? uri = some draft →
      (draft.holders.erase client).isEmpty = false →
      motive ((registry.setDraft
        { draft with holders := draft.holders.erase client }).answer false)) :
    motive (registry.close uri client now) := by
  unfold close
  split
  · next missing => exact gone missing
  · next draft found =>
    simp only
    split
    · next last => exact closed draft found last
    · next others => exact left draft found (Bool.of_not_eq_true others)

/-- An open document is built again as it is. -/
@[elab_as_elim] theorem rebuild_branches {motive : Outcome φ Build → Prop}
    (refused : ∀ failure, motive (registry.refuse failure))
    (built : ∀ draft, registry.draft? uri = some draft →
      motive ⟨registry.keepBuild draft.version (Build.of uri draft.text),
        [.updated ⟨Build.of uri draft.text, client, .updated, draft.current now⟩],
        .ok (Build.of uri draft.text)⟩) :
    motive (registry.rebuild uri client now) := by
  unfold rebuild
  split
  · exact refused _
  · next draft found =>
    rw [rebuildAs_of_open _ _ _ _ _ _ found]
    exact built draft found

/-- A save is announced, by which an open document gets the saved text. -/
@[elab_as_elim] theorem announceSave_branches {motive : Outcome φ Unit → Prop}
    (gone : registry.draft? uri = none →
      motive ⟨registry,
        [.saved ⟨Draft.create uri Draft.usualLanguage 0 text client, client⟩], .ok ()⟩)
    (same : ∀ draft, registry.draft? uri = some draft → draft.text = text →
      motive ⟨registry, [.saved ⟨draft, client⟩], .ok ()⟩)
    (revised : ∀ draft, registry.draft? uri = some draft → draft.text ≠ text →
      let revised := registry.revise draft draft.nextVersion text client now
      motive ⟨revised.registry,
        revised.events ++ [.saved ⟨(revised.registry.draft? uri).getD draft, client⟩], .ok ()⟩) :
    motive (registry.announceSave uri text client now) := by
  unfold announceSave
  split
  · next missing => exact gone missing
  · next draft found =>
    split
    · next level => exact same draft found level
    · next differs => exact revised draft found differs

section Files

variable [Files.Store φ]

/-- Opening a document is refused for a reason of its address or its file, or the client
joins the holders, or is the first one. -/
@[elab_as_elim] theorem openFor_branches {motive : Outcome φ Unit → Prop} {opening : Opening}
    (refused : ∀ failure, (∀ uri, failure ≠ .versionExhausted uri) →
      motive (registry.refuse failure))
    (joined : ∀ draft, registry.draft? opening.uri = some draft →
      motive (registry.join draft opening now))
    (registered : ∀ text, registry.draft? opening.uri = none →
      motive (registry.register opening text now)) :
    motive (registry.openFor opening now) := by
  unfold openFor
  split
  · exact refused _ fun _ => Failure.noConfusion
  · next path _ =>
    split
    · next draft found => exact joined draft found
    · next missing =>
      split
      · exact registered _ missing
      · cases read : registry.readText path with
        | ok text => exact registered text missing
        | error failure =>
          refine refused failure ?_
          rintro other rfl
          unfold readText at read
          split at read
          · cases read
          · cases read

/-- Writing a file changes nothing but the files. -/
theorem writeText_files (registry : Registry φ) (path text : String) :
    ∃ files, (registry.writeText path text).1 = { registry with files } := by
  have backed : ∃ files, registry.backUp path = { registry with files } := by
    unfold backUp
    split
    · exact ⟨_, rfl⟩
    · exact ⟨registry.files, rfl⟩
  unfold writeText
  split
  · exact ⟨registry.files, rfl⟩
  · next present _ =>
    cases present with
    | true =>
      obtain ⟨files, same⟩ := backed
      simp only [if_true, same]
      exact ⟨_, rfl⟩
    | false => exact ⟨_, rfl⟩

/-- A save is refused, whatever it did to the files before, or announced. -/
@[elab_as_elim] theorem save_branches {motive : Outcome φ Unit → Prop}
    (refused : ∀ files failure, motive (({ registry with files } : Registry φ).refuse failure))
    (announced : ∀ files,
      motive (({ registry with files } : Registry φ).announceSave uri text client now)) :
    motive (registry.save uri text client now) := by
  unfold save
  split
  · exact refused registry.files _
  · split
    · exact refused registry.files _
    · next path _ =>
      obtain ⟨files, written⟩ := registry.writeText_files path text
      split
      · next after failure wrote =>
        rw [wrote] at written
        cases written
        exact refused files failure
      · next after wrote =>
        rw [wrote] at written
        cases written
        exact announced files

/-- An open document is read again, and gets the text of its file if that is another one. -/
@[elab_as_elim] theorem reload_branches {motive : Outcome φ (Option Revision) → Prop}
    (refused : ∀ failure, motive (registry.refuse failure))
    (same : ∀ draft path, registry.draft? uri = some draft → Address.pathOf? uri = some path →
      registry.readText path = .ok draft.text → motive (registry.answer none))
    (revised : ∀ draft path text, registry.draft? uri = some draft →
      Address.pathOf? uri = some path → registry.readText path = .ok text →
      motive ((registry.revise draft draft.nextVersion text fileClient now).map some)) :
    motive (registry.reload uri now) := by
  unfold reload
  split
  · exact refused _
  · next draft found =>
    split
    · exact refused _
    · next path named =>
      split
      · exact refused _
      · next text readable =>
        split
        · next level => exact same draft path found named (level ▸ readable)
        · exact revised draft path text found named readable

end Files

end Flowdesk.Registry
