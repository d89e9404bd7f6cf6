import Flowdesk.Proofs.Registry.Refusal

/-!
# Who holds a document

The holders of a document change only when a client opens it or lets it go. An opening
lets its client in if it succeeds, and also if no version is left for its text; any other
opening changes the holders of no document. A client that lets go is no holder any
longer, and where it was the last one the document is dropped.
-/

namespace Flowdesk.Registry

open Data Workflow

variable {φ : Type} {registry after : Registry φ}

/-- The holders of a document depend on the document alone. -/
theorem holders_congr {uri : String} (same : after.draft? uri = registry.draft? uri) :
    after.holders uri = registry.holders uri := by
  unfold holders
  rw [same]

theorem holders_of_draft? {uri : String} {draft : Draft}
    (found : registry.draft? uri = some draft) : registry.holders uri = draft.holders := by
  unfold holders
  rw [found]
  rfl

theorem holders_of_none {uri : String} (missing : registry.draft? uri = none) :
    registry.holders uri = .empty := by
  unfold holders
  rw [missing]
  rfl

/-- A document that is written down has the holders that are written down. -/
theorem holders_setDraft (registry : Registry φ) (draft : Draft) (uri : String) :
    (registry.setDraft draft).holders uri =
      if draft.uri = uri then draft.holders else registry.holders uri := by
  by_cases same : draft.uri = uri
  · rw [if_pos same]
    exact holders_of_draft? ((draft?_setDraft registry draft uri).trans (if_pos same))
  · rw [if_neg same]
    exact holders_congr ((draft?_setDraft registry draft uri).trans (if_neg same))

theorem holders_keepBuild (registry : Registry φ) (version : UInt64) (build : Build)
    (uri : String) : (registry.keepBuild version build).holders uri = registry.holders uri :=
  holders_congr (draft?_keepBuild registry version build uri)

/-- Another text makes no difference to who holds a document. -/
theorem holders_revise {draft : Draft} (found : registry.draft? draft.uri = some draft)
    (claimed : UInt64) (text client : String) (now : UInt64) (uri : String) :
    (registry.revise draft claimed text client now).registry.holders uri =
      registry.holders uri := by
  refine revise_branches rfl ?_
  intro revised revision done
  have shape := (Draft.revise_eq_some done).2.1
  have named : revised.uri = draft.uri := by rw [shape]
  have held : revised.holders = draft.holders := by rw [shape]
  refine (holders_keepBuild _ _ _ uri).trans ((holders_setDraft _ _ uri).trans ?_)
  split
  · next same =>
    subst same
    rw [held, named]
    exact (holders_of_draft? found).symm
  · rfl

theorem holders_update (sound : registry.Sound) (about : String) (claimed : UInt64)
    (text client : String) (now : UInt64) (uri : String) :
    (registry.update about claimed text client now).registry.holders uri =
      registry.holders uri := by
  refine update_branches (fun _ => rfl) ?_
  intro draft found
  exact holders_revise ((sound.named about draft found).symm ▸ found) claimed text client now uri

theorem holders_announceSave (sound : registry.Sound) (about text client : String) (now : UInt64)
    (uri : String) :
    (registry.announceSave about text client now).registry.holders uri = registry.holders uri := by
  refine announceSave_branches (fun _ => rfl) (fun _ _ _ => rfl) ?_
  intro draft found _
  exact holders_revise ((sound.named about draft found).symm ▸ found) _ text client now uri

/-- The first client of a document is its only holder. -/
theorem holders_register (registry : Registry φ) (opening : Opening) (text : String)
    (now : UInt64) (uri : String) :
    (registry.register opening text now).registry.holders uri =
      if opening.uri = uri then NameSet.empty.insert opening.client else registry.holders uri := by
  rw [register_eq]
  exact (holders_keepBuild _ _ _ uri).trans (holders_setDraft _ _ uri)

/-- A client that joins the others on a document is one more holder, whether or not its
text is refused. -/
theorem holders_join (sound : registry.Sound) {draft : Draft} (opening : Opening)
    (found : registry.draft? opening.uri = some draft) (now : UInt64) (uri : String) :
    (registry.join draft opening now).registry.holders uri =
      if opening.uri = uri then (registry.holders uri).insert opening.client
      else registry.holders uri := by
  let held := draft.heldAlsoBy (some opening.client)
  have named : held.uri = opening.uri := sound.named opening.uri draft found
  have stored : (registry.setDraft held).draft? held.uri = some held :=
    (draft?_setDraft registry held held.uri).trans (if_pos rfl)
  have joined : (registry.setDraft held).holders uri =
      if opening.uri = uri then (registry.holders uri).insert opening.client
      else registry.holders uri := by
    rw [holders_setDraft, named]
    split
    · next same =>
      subst same
      rw [holders_of_draft? found]
      rfl
    · rfl
  refine join_branches joined ?_
  intro claimed text _
  exact (holders_revise stored claimed text _ now uri).trans joined

/-- A client that lets go of a document is no holder of it any longer. -/
theorem holders_close (sound : registry.Sound) (about client : String) (now : UInt64)
    (uri : String) :
    (registry.close about client now).registry.holders uri =
      if about = uri then (registry.holders uri).erase client else registry.holders uri := by
  refine close_branches ?gone ?closed ?left
  case gone =>
    intro missing
    by_cases same : about = uri
    · subst same
      rw [if_pos rfl, answer, holders_of_none missing]
      rfl
    · rw [if_neg same, answer]
  case closed =>
    intro draft found last
    by_cases same : about = uri
    · subst same
      rw [if_pos rfl, holders_of_draft? found]
      let dropped : Registry φ := { registry with
        drafts := registry.drafts.erase about
        builds := registry.builds.erase about }
      have missing : dropped.draft? about = none :=
        (Table.get?_erase registry.drafts about about).trans (if_pos rfl)
      refine (holders_of_none missing).trans ?_
      apply NameSet.ext_of_mem
      intro name
      refine iff_of_false (NameSet.not_mem_empty name) ?_
      intro member
      exact Bool.false_ne_true ((isEmpty_of_mem member).symm.trans last)
    · rw [if_neg same]
      exact holders_congr ((Table.get?_erase _ about uri).trans (if_neg same))
  case left =>
    intro draft found _
    refine (holders_setDraft registry _ uri).trans ?_
    rw [(sound.named about draft found : draft.uri = about)]
    split
    · next same =>
      subst same
      rw [holders_of_draft? found]
    · rfl

/-- A document is open as long as somebody holds it. -/
theorem isOpen_iff (sound : registry.Sound) (uri : String) :
    registry.isOpen uri = true ↔ ∃ client, client ∈ registry.holders uri := by
  change (registry.draft? uri).isSome = true ↔ _
  cases found : registry.draft? uri with
  | none =>
    refine iff_of_false Bool.false_ne_true ?_
    rintro ⟨client, member⟩
    rw [holders_of_none found] at member
    exact NameSet.not_mem_empty client member
  | some draft =>
    refine iff_of_true rfl ?_
    rw [holders_of_draft? found]
    exact exists_mem (sound.held uri draft found)

section Files

variable [Files.Store φ]

theorem holders_save (sound : registry.Sound) (about text client : String) (now : UInt64)
    (uri : String) :
    (registry.save about text client now).registry.holders uri = registry.holders uri := by
  refine save_branches (fun _ _ => rfl) ?_
  intro files
  exact holders_announceSave (sound.withFiles files) about text client now uri

theorem holders_reload (sound : registry.Sound) (about : String) (now : UInt64) (uri : String) :
    (registry.reload about now).registry.holders uri = registry.holders uri := by
  refine reload_branches (fun _ => rfl) (fun _ _ _ _ _ => rfl) ?_
  intro draft _ text found _ _
  exact holders_revise ((sound.named about draft found).symm ▸ found) _ text fileClient now uri

/-- An opening that succeeds lets its client in. -/
theorem holders_openFor (sound : registry.Sound) {opening : Opening} {now : UInt64}
    (opened : (registry.openFor opening now).result = .ok ()) (uri : String) :
    (registry.openFor opening now).registry.holders uri =
      if opening.uri = uri then (registry.holders uri).insert opening.client
      else registry.holders uri := by
  revert opened
  refine openFor_branches ?refused ?joined ?registered
  case refused =>
    intro failure _ opened
    cases opened
  case joined => exact fun draft found _ => holders_join sound opening found now uri
  case registered =>
    intro text missing _
    rw [holders_register]
    split
    · next same => rw [← same, holders_of_none missing]
    · rfl

/-- An opening that fails lets its client in if it fails for want of a version. -/
theorem holders_openFor_failed (sound : registry.Sound) {opening : Opening} {now : UInt64}
    {failure : Failure} (failed : (registry.openFor opening now).result = .error failure)
    (uri : String) :
    (registry.openFor opening now).registry.holders uri =
      if opening.uri = uri ∧ failure = .versionExhausted uri then
        (registry.holders uri).insert opening.client
      else registry.holders uri := by
  obtain ⟨different, spares⟩ | ⟨draft, found, exhausted, refused⟩ := openFor_failed sound failed
  · rw [if_neg fun ⟨same, exhausted⟩ => different (same ▸ exhausted)]
    exact holders_congr (spares.drafts uri)
  · have named : (draft.heldAlsoBy (some opening.client)).uri = opening.uri :=
      sound.named opening.uri draft found
    rw [refused]
    refine (holders_setDraft registry _ uri).trans ?_
    rw [named]
    by_cases same : opening.uri = uri
    · subst same
      rw [if_pos rfl, if_pos ⟨rfl, exhausted⟩, holders_of_draft? found]
      rfl
    · rw [if_neg same, if_neg fun both => same both.1]

/-- An opening that brings no text never wants for a version. -/
theorem text_of_exhausted {opening : Opening} {now : UInt64} {uri : String}
    (failed : (registry.openFor opening now).result = .error (.versionExhausted uri)) :
    ∃ text, opening.text = some text := by
  revert failed
  refine openFor_branches ?refused ?joined ?registered
  case refused =>
    intro failure different failed
    cases failed
    exact absurd rfl (different uri)
  case joined =>
    intro draft _
    refine join_branches ?_ fun _ text brought _ => ⟨text, brought⟩
    intro failed
    cases failed
  case registered =>
    intro text _ failed
    cases (register_succeeds registry opening text now).symm.trans failed

end Files

end Flowdesk.Registry
