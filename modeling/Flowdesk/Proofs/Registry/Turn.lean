import Flowdesk.Proofs.Registry.Branch

/-!
# Turns of documents

Every operation of the registry concerns one document and takes it through a chain
of turns: it is opened, joined by a client, revised, built again, left by a client,
or closed by the last one, and each turn announces what it must and no more. The
other documents stay as they are. The law that carries the turns is that the kept
build of a document is always the build of its text at its version.
-/

namespace Flowdesk.Registry

open Data Sync Workflow

variable {φ α : Type}

/-- A registry in which every document goes by its own address and is held by
somebody, and in which the builds kept are those of the documents as they are. -/
structure Sound (registry : Registry φ) : Prop where
  named : ∀ uri draft, registry.draft? uri = some draft → draft.uri = uri
  held : ∀ uri draft, registry.draft? uri = some draft → draft.holders.isEmpty = false
  built : ∀ uri, registry.builds.get? uri =
    (registry.draft? uri).map fun draft => (draft.version, Build.of uri draft.text)

/-- One turn of the document of an address, with what is announced of it. A hold is
let go only by the leaver, if there is one. -/
inductive Turn (uri : String) (leaver : Option String) :
    Option Draft → List Event → Option Draft → Prop where
  | saved (document : Option Draft) (saved : Saved) (named : saved.draft.uri = uri) :
      Turn uri leaver document [.saved saved] document
  | joined (draft : Draft) (client : String) :
      Turn uri leaver (some draft) [] (some { draft with holders := draft.holders.insert client })
  | revised (draft next : Draft) (claimed : UInt64) (text client : String) (now : UInt64)
      (revision : Revision) (done : draft.revise claimed text client now = some (next, revision)) :
      Turn uri leaver (some draft)
        [.updated ⟨Build.of uri next.text, client, .changed, revision⟩] (some next)
  | opened (draft : Draft) (client : String) (now : UInt64) (named : draft.uri = uri)
      (first : draft.holders = NameSet.empty.insert client) :
      Turn uri leaver none
        [.updated ⟨Build.of uri draft.text, client, .opened, draft.current now⟩] (some draft)
  | rebuilt (draft : Draft) (client : String) (now : UInt64) :
      Turn uri leaver (some draft)
        [.updated ⟨Build.of uri draft.text, client, .updated, draft.current now⟩] (some draft)
  | left (draft : Draft) (client : String) (leaves : leaver = some client)
      (others : (draft.holders.erase client).isEmpty = false) :
      Turn uri leaver (some draft) [] (some { draft with holders := draft.holders.erase client })
  | closed (draft : Draft) (client : String) (now : UInt64) (leaves : leaver = some client)
      (last : (draft.holders.erase client).isEmpty = true) :
      Turn uri leaver (some draft) [.updated ⟨noBuild uri, client, .deleted, draft.current now⟩]
        none

/-- Any number of turns, one after the other. -/
inductive Turns (uri : String) (leaver : Option String) :
    Option Draft → List Event → Option Draft → Prop where
  | done (document : Option Draft) : Turns uri leaver document [] document
  | more {before between after : Option Draft} {events later : List Event}
      (first : Turn uri leaver before events between)
      (rest : Turns uri leaver between later after) :
      Turns uri leaver before (events ++ later) after

/-- Turns follow turns. -/
theorem Turns.append {uri : String} {leaver : Option String} {before between after : Option Draft}
    {events later : List Event} (first : Turns uri leaver before events between)
    (rest : Turns uri leaver between later after) :
    Turns uri leaver before (events ++ later) after := by
  induction first with
  | done document => exact rest
  | more turn tail inductionHypothesis =>
    rw [List.append_assoc]
    exact .more turn (inductionHypothesis rest)

/-- A single turn. -/
theorem Turn.alone {uri : String} {leaver : Option String} {before after : Option Draft}
    {events : List Event} (turn : Turn uri leaver before events after) :
    Turns uri leaver before events after := by
  have chain := Turns.more turn (.done after)
  rwa [List.append_nil] at chain

/-- The updates among announcements. -/
def updates (events : List Event) : List Update :=
  events.filterMap fun
    | .updated update => some update
    | .saved _ => none

/-- An operation that keeps a registry sound takes one document through turns, of which
it announces one update at most, and leaves the others as they are. -/
structure Outcome.Turns (outcome : Outcome φ α) (registry : Registry φ) (uri : String)
    (leaver : Option String) : Prop where
  sound : outcome.registry.Sound
  turns : Registry.Turns uri leaver (registry.draft? uri) outcome.events
    (outcome.registry.draft? uri)
  elsewhere : ∀ other, uri ≠ other → outcome.registry.draft? other = registry.draft? other
  once : (updates outcome.events).length ≤ 1

@[simp] theorem draft?_keepBuild (registry : Registry φ) (version : UInt64) (build : Build)
    (uri : String) : (registry.keepBuild version build).draft? uri = registry.draft? uri := by
  unfold keepBuild
  split
  · split <;> rfl
  · rfl

/-- A build is kept if none of a later version was. -/
theorem builds_keepBuild (registry : Registry φ) (version : UInt64) (build : Build)
    (newest : ∀ kept, registry.builds.get? build.uri = some kept → ¬version < kept.1) :
    (registry.keepBuild version build).builds = registry.builds.put build.uri (version, build) := by
  unfold keepBuild
  split
  · next kept build' found =>
    rw [if_neg (newest (kept, build') found)]
  · rfl

/-- The registry without documents is sound. -/
theorem sound_create (files : φ) : (create files).Sound where
  named _ _ found := nomatch found
  held _ _ found := nomatch found
  built _ := rfl

/-- Other files make no difference to the documents. -/
theorem Sound.withFiles {registry : Registry φ} (sound : registry.Sound) (files : φ) :
    ({ registry with files } : Registry φ).Sound :=
  ⟨sound.named, sound.held, sound.built⟩

/-- A registry stays sound when one document changes together with its build. -/
theorem Sound.replace {registry after : Registry φ} (sound : registry.Sound) (uri : String)
    (document : Option Draft)
    (named : ∀ draft, document = some draft → draft.uri = uri)
    (held : ∀ draft, document = some draft → draft.holders.isEmpty = false)
    (drafts : ∀ other, after.draft? other = if uri = other then document else registry.draft? other)
    (builds : ∀ other, after.builds.get? other =
      if uri = other then document.map fun draft => (draft.version, Build.of uri draft.text)
      else registry.builds.get? other) : after.Sound := by
  constructor
  · intro other draft found
    rw [drafts] at found
    split at found
    · next same => exact same ▸ named draft found
    · exact sound.named other draft found
  · intro other draft found
    rw [drafts] at found
    split at found
    · exact held draft found
    · exact sound.held other draft found
  · intro other
    rw [builds, drafts]
    split
    · next same => rw [same]
    · exact sound.built other

@[simp] theorem isEmpty_insert (set : NameSet) (name : String) :
    (set.insert name).isEmpty = false := by
  have member : name ∈ set.insert name := (NameSet.mem_insert set name name).mpr (.inl rfl)
  rw [NameSet.mem_def] at member
  exact List.isEmpty_eq_false_iff.mpr (List.ne_nil_of_mem member)

/-- The uri of a build is that of its document. -/
@[simp] theorem uri_of (uri text : String) : (Build.of uri text).uri = uri := by
  unfold Build.of
  split <;> rfl

/-- A sound registry stays sound when a draft is put in place of an earlier one of its
document, or of none, and its build is kept. -/
theorem Sound.store {registry : Registry φ} (sound : registry.Sound) (draft : Draft)
    (held : draft.holders.isEmpty = false)
    (newest : ∀ earlier, registry.draft? draft.uri = some earlier →
      ¬draft.version < earlier.version) :
    ((registry.setDraft draft).keepBuild draft.version (Build.of draft.uri draft.text)).Sound := by
  have builds : ((registry.setDraft draft).keepBuild draft.version
      (Build.of draft.uri draft.text)).builds =
        registry.builds.put draft.uri (draft.version, Build.of draft.uri draft.text) := by
    rw [builds_keepBuild, uri_of]
    · rfl
    · intro kept present
      rw [uri_of] at present
      change registry.builds.get? draft.uri = some kept at present
      rw [sound.built, Option.map_eq_some_iff] at present
      obtain ⟨earlier, found, rfl⟩ := present
      exact newest earlier found
  refine sound.replace draft.uri (some draft) ?_ ?_ ?_ ?_
  · intro _ same
    cases same
    rfl
  · intro _ same
    cases same
    exact held
  · intro other
    simp
  · intro other
    rw [builds, Table.get?_put]
    rfl

/-- A sound registry stays sound when the holders of a document change. -/
theorem Sound.hold {registry : Registry φ} (sound : registry.Sound) (uri : String) (draft : Draft)
    (found : registry.draft? uri = some draft) (holders : NameSet)
    (held : holders.isEmpty = false) :
    (registry.setDraft { draft with holders }).Sound := by
  have named : draft.uri = uri := sound.named uri draft found
  refine sound.replace uri (some { draft with holders }) ?_ ?_ ?_ ?_
  · intro _ same
    cases same
    exact named
  · intro _ same
    cases same
    exact held
  · intro other
    simp [named]
  · intro other
    change registry.builds.get? other = _
    rw [sound.built]
    split
    · next same => rw [← same, found]; rfl
    · rfl

/-- Another result makes no difference to the turns of an operation. -/
theorem Outcome.Turns.withResult {β : Type} {outcome : Outcome φ α} {registry : Registry φ}
    {uri : String} {leaver : Option String} (turns : outcome.Turns registry uri leaver)
    (result : Except Failure β) :
    ({ registry := outcome.registry, events := outcome.events, result } : Outcome φ β).Turns
      registry uri leaver :=
  ⟨turns.sound, turns.turns, turns.elsewhere, turns.once⟩

/-- An operation that refuses or answers leaves a registry as it was. -/
theorem turns_of_same {registry : Registry φ} (sound : registry.Sound) (uri : String)
    (leaver : Option String) (result : Except Failure α) :
    (⟨registry, [], result⟩ : Outcome φ α).Turns registry uri leaver :=
  ⟨sound, .done _, fun _ _ => rfl, Nat.zero_le 1⟩

/-- Revising a document is a turn of it; a document that has no version left stays as
it is. -/
theorem revise_turns {registry : Registry φ} (sound : registry.Sound) {uri : String}
    {draft : Draft} (found : registry.draft? uri = some draft) (claimed : UInt64)
    (text client : String) (now : UInt64) :
    (registry.revise draft claimed text client now).Turns registry uri none := by
  have named : draft.uri = uri := sound.named uri draft found
  refine revise_branches ?refused ?revised
  case refused => exact turns_of_same sound uri none _
  case revised =>
    intro revised revision done
    have higher : draft.version < revised.version :=
      Draft.version_lt_of_revise draft revised claimed text client now revision done
    have shape := (Draft.revise_eq_some done).2.1
    have renamed : revised.uri = uri := by rw [shape]; exact named
    rw [named]
    refine ⟨?_, ?_, ?_, Nat.le_refl 1⟩
    · rw [← renamed]
      apply sound.store revised
      · rw [shape]
        exact sound.held uri draft found
      · intro earlier present
        rw [renamed, found, Option.some.injEq] at present
        rw [← present]
        exact UInt64.lt_asymm higher
    · rw [found]
      simp only [draft?_keepBuild, draft?_setDraft, renamed, if_true]
      exact (Turn.revised draft revised claimed text client now revision done).alone
    · intro other different
      simp [renamed, different]

/-- Recording another text of a document. -/
theorem update_turns {registry : Registry φ} (sound : registry.Sound) (uri : String)
    (claimed : UInt64) (text client : String) (now : UInt64) :
    (registry.update uri claimed text client now).Turns registry uri none :=
  update_branches (fun _ => turns_of_same sound uri none _)
    fun _ found => revise_turns sound found claimed text client now

/-- An open document that has a version left is given the text it is to have, which is
announced. -/
theorem update_ok {registry : Registry φ} (sound : registry.Sound) {uri : String}
    {draft revised : Draft} (found : registry.draft? uri = some draft) {claimed : UInt64}
    {text client : String} {now : UInt64} {revision : Revision}
    (done : draft.revise claimed text client now = some (revised, revision)) :
    (registry.update uri claimed text client now).result = .ok revision ∧
      (registry.update uri claimed text client now).registry.draft? uri = some revised ∧
      (registry.update uri claimed text client now).events =
        [.updated ⟨Build.of uri revised.text, client, .changed, revision⟩] := by
  have known : draft.uri = uri := sound.named uri draft found
  have named : revised.uri = uri := by
    rw [(Draft.revise_eq_some done).2.1]
    exact known
  have stored : (registry.setDraft revised).draft? uri = some revised := by
    rw [draft?_setDraft, if_pos named]
  simp only [update, found, revise, done, rebuildAs_of_open _ _ _ _ _ _ stored, draft?_keepBuild,
    draft?_setDraft, named, known, if_true, and_self]

/-- The first client opens a document that is not open. -/
theorem register_turns {registry : Registry φ} (sound : registry.Sound) (opening : Opening)
    (missing : registry.draft? opening.uri = none) (text : String) (now : UInt64) :
    (registry.register opening text now).Turns registry opening.uri none := by
  have stored : ∀ other, ((registry.setDraft (opening.created text)).keepBuild
      (opening.created text).version (Build.of opening.uri text)).draft? other =
        if opening.uri = other then some (opening.created text) else registry.draft? other := by
    intro other
    rw [draft?_keepBuild, draft?_setDraft]
    rfl
  rw [register_eq]
  refine ⟨?_, ?_, ?_, Nat.le_refl 1⟩
  · apply sound.store (opening.created text)
    · exact isEmpty_insert _ _
    · intro earlier present
      exact nomatch missing.symm.trans present
  · rw [missing, stored, if_pos rfl]
    exact (Turn.opened (opening.created text) opening.client now rfl rfl).alone
  · intro other different
    rw [stored, if_neg different]

/-- An operation that begins by a turn of its document that nothing is announced of. -/
theorem Outcome.Turns.after {outcome : Outcome φ α} {registry between : Registry φ} {uri : String}
    {leaver : Option String} (turns : outcome.Turns between uri leaver)
    (first : Turn uri leaver (registry.draft? uri) [] (between.draft? uri))
    (elsewhere : ∀ other, uri ≠ other → between.draft? other = registry.draft? other) :
    outcome.Turns registry uri leaver where
  sound := turns.sound
  turns := .more first turns.turns
  elsewhere other different :=
    (turns.elsewhere other different).trans (elsewhere other different)
  once := turns.once

/-- One more client holds an open document, which may get another text by that. -/
theorem join_turns {registry : Registry φ} (sound : registry.Sound) {draft : Draft}
    (opening : Opening) (found : registry.draft? opening.uri = some draft) (now : UInt64) :
    (registry.join draft opening now).Turns registry opening.uri none := by
  have named : draft.uri = opening.uri := sound.named opening.uri draft found
  have joinedSound : (registry.setDraft
      { draft with holders := draft.holders.insert opening.client }).Sound :=
    sound.hold opening.uri draft found _ (isEmpty_insert _ _)
  have stored : (registry.setDraft
      { draft with holders := draft.holders.insert opening.client }).draft? opening.uri =
        some { draft with holders := draft.holders.insert opening.client } := by
    simp [named]
  have finish : ∀ outcome : Outcome φ Unit, outcome.Turns (registry.setDraft
      { draft with holders := draft.holders.insert opening.client }) opening.uri none →
        outcome.Turns registry opening.uri none := by
    intro outcome turns
    apply turns.after
    · rw [stored, found]
      exact .joined draft opening.client
    · intro other different
      simp [named, different]
  refine join_branches ?alone ?revised
  case alone => exact finish _ (turns_of_same joinedSound opening.uri none _)
  case revised =>
    intro claimed text _
    exact finish _ ((revise_turns joinedSound stored claimed text opening.client now).withResult _)

/-- Building an open document again as it is. -/
theorem rebuild_turns {registry : Registry φ} (sound : registry.Sound) (uri client : String)
    (now : UInt64) :
    (registry.rebuild uri client now).Turns registry uri none := by
  refine rebuild_branches ?refused ?built
  case refused => exact fun _ => turns_of_same sound uri none _
  case built =>
    intro draft found
    have named : draft.uri = uri := sound.named uri draft found
    have same : (registry.keepBuild draft.version (Build.of uri draft.text)).builds =
        registry.builds.put uri (draft.version, Build.of uri draft.text) := by
      rw [builds_keepBuild, uri_of]
      intro kept present
      rw [uri_of, sound.built, found] at present
      cases present
      exact UInt64.lt_irrefl _
    refine ⟨?_, ?_, ?_, Nat.le_refl 1⟩
    · refine sound.replace uri (some draft) ?_ ?_ ?_ ?_
      · intro _ itself
        cases itself
        exact named
      · intro _ itself
        cases itself
        exact sound.held uri draft found
      · intro other
        rw [draft?_keepBuild]
        split
        · next same => rw [← same, found]
        · rfl
      · intro other
        rw [same, Table.get?_put]
        rfl
    · simp only [draft?_keepBuild, found]
      exact (Turn.rebuilt draft client now).alone
    · intro other _
      exact draft?_keepBuild _ _ _ other

/-- A client's hold on a document is let go, and the document closed if it was the last
one. -/
theorem close_turns {registry : Registry φ} (sound : registry.Sound) (uri client : String)
    (now : UInt64) : (registry.close uri client now).Turns registry uri (some client) := by
  refine close_branches ?gone ?closed ?left
  case gone => exact fun _ => turns_of_same sound uri _ _
  case closed =>
    intro draft found last
    refine ⟨?_, ?_, ?_, Nat.le_refl 1⟩
    · refine sound.replace uri none (fun _ absent => nomatch absent)
        (fun _ absent => nomatch absent) ?_ ?_
      · intro other
        exact Table.get?_erase registry.drafts uri other
      · intro other
        exact Table.get?_erase registry.builds uri other
    · have gone : (registry.drafts.erase uri).get? uri = none := by simp
      simp only [draft?, gone]
      change registry.drafts.get? uri = some draft at found
      rw [found]
      exact (Turn.closed draft client now rfl last).alone
    · intro other different
      simp [draft?, different]
  case left =>
    intro draft found stays
    have named : draft.uri = uri := sound.named uri draft found
    apply (turns_of_same (sound.hold uri draft found _ stays) uri _ _).after
    · have stored : (registry.setDraft
          { draft with holders := draft.holders.erase client }).draft? uri =
            some { draft with holders := draft.holders.erase client } := by
        simp [named]
      rw [stored, found]
      exact .left draft client rfl stays
    · intro other different
      simp [named, different]

/-- An operation on a registry with other files. -/
theorem Outcome.Turns.withFiles {outcome : Outcome φ α} {registry : Registry φ} {files : φ}
    {uri : String} {leaver : Option String}
    (turns : outcome.Turns { registry with files } uri leaver) :
    outcome.Turns registry uri leaver :=
  ⟨turns.sound, turns.turns, turns.elsewhere, turns.once⟩

/-- Announcing a save, by which an open document gets the saved text. -/
theorem announceSave_turns {registry : Registry φ} (sound : registry.Sound)
    (uri text client : String) (now : UInt64) :
    (registry.announceSave uri text client now).Turns registry uri none := by
  refine announceSave_branches ?gone ?same ?revised
  case gone =>
    intro _
    exact ⟨sound, (Turn.saved _ ⟨Draft.create uri Draft.usualLanguage 0 text client, client⟩
      rfl).alone, fun _ _ => rfl, Nat.zero_le 1⟩
  case same =>
    intro draft found _
    exact ⟨sound, (Turn.saved _ ⟨draft, client⟩ (sound.named uri draft found)).alone,
      fun _ _ => rfl, Nat.zero_le 1⟩
  case revised =>
    intro draft found _ outcome
    have revised := revise_turns sound found draft.nextVersion text client now
    have once : ∀ saved, (updates (outcome.events ++ [.saved saved])).length ≤ 1 := by
      intro saved
      rw [updates, List.filterMap_append, List.length_append]
      exact revised.once
    refine ⟨revised.sound, revised.turns.append (Turn.saved _ _ ?_).alone, revised.elsewhere,
      once _⟩
    cases after : outcome.registry.draft? uri with
    | none => exact sound.named uri draft found
    | some saved => exact revised.sound.named uri saved after

section Files

variable [Files.Store φ]

/-- Opening a document for a client. -/
theorem openFor_turns {registry : Registry φ} (sound : registry.Sound) (opening : Opening)
    (now : UInt64) :
    (registry.openFor opening now).Turns registry opening.uri none := by
  refine openFor_branches ?refused ?joined ?registered
  case refused => exact fun _ _ => turns_of_same sound opening.uri none _
  case joined => exact fun _ found => join_turns sound opening found now
  case registered => exact fun text missing => register_turns sound opening missing text now

/-- Saving a text to the file of a document. -/
theorem save_turns {registry : Registry φ} (sound : registry.Sound) (uri text client : String)
    (now : UInt64) :
    (registry.save uri text client now).Turns registry uri none := by
  refine save_branches ?refused ?announced
  case refused =>
    exact fun files _ => (turns_of_same (sound.withFiles files) uri none _).withFiles
  case announced =>
    exact fun files => (announceSave_turns (sound.withFiles files) uri text client now).withFiles

/-- Reading an open document again from its file. -/
theorem reload_turns {registry : Registry φ} (sound : registry.Sound) (uri : String)
    (now : UInt64) :
    (registry.reload uri now).Turns registry uri none := by
  refine reload_branches ?refused ?same ?revised
  case refused => exact fun _ => turns_of_same sound uri none _
  case same => exact fun _ _ _ _ _ => turns_of_same sound uri none _
  case revised =>
    intro draft _ text found _ _
    exact (revise_turns sound found draft.nextVersion text fileClient now).withResult _

end Files

end Flowdesk.Registry
