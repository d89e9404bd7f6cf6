import Flowdesk.Proofs.Registry.Run

/-!
# The history of a document

Every operation takes a document through one passage at most: it is opened, changed,
built again or deleted, each of which is told by one update, or nothing is told and at
most its holders change. The updates of a document are therefore a chain of lives, each
from an opening to a deletion, in which every change brings a higher version.
-/

namespace Flowdesk.Registry

open Data Sync Workflow

variable {φ α : Type} {uri : String}

/-- The updates of one document among announcements, in order. -/
def updatesOf (uri : String) (events : List Event) : List Update :=
  (updates events).filter (·.build.uri = uri)

theorem updates_append (events later : List Event) :
    updates (events ++ later) = updates events ++ updates later :=
  List.filterMap_append

theorem updatesOf_append (uri : String) (events later : List Event) :
    updatesOf uri (events ++ later) = updatesOf uri events ++ updatesOf uri later := by
  rw [updatesOf, updates_append, List.filter_append]
  rfl

/-- A document before and after an operation, with all that is told of it: an update
describes the document as it is afterwards. -/
inductive Passage (uri : String) : Option Draft → List Update → Option Draft → Prop where
  | absent : Passage uri none [] none
  | silent (draft : Draft) (holders : NameSet) :
      Passage uri (some draft) [] (some { draft with holders })
  | opened (draft : Draft) (client : String) (now : UInt64) :
      Passage uri none [⟨Build.of uri draft.text, client, .opened, draft.current now⟩] (some draft)
  | changed (draft next : Draft) (claimed : UInt64) (client : String) (now : UInt64)
      (higher : draft.version < next.version) (within : claimed ≤ next.version) :
      Passage uri (some draft)
        [⟨Build.of uri next.text, client, .changed,
          ⟨claimed, next.version, client, now, checksum next.text⟩⟩] (some next)
  | updated (draft : Draft) (holders : NameSet) (client : String) (now : UInt64) :
      Passage uri (some draft)
        [⟨Build.of uri draft.text, client, .updated, draft.current now⟩]
        (some { draft with holders })
  | deleted (draft : Draft) (client : String) (now : UInt64) :
      Passage uri (some draft) [⟨noBuild uri, client, .deleted, draft.current now⟩] none

namespace Passage

/-- Who held a document before makes no difference. -/
theorem rehold {draft : Draft} {holders : NameSet} {told : List Update} {after : Option Draft}
    (passage : Passage uri (some { draft with holders }) told after) :
    Passage uri (some draft) told after := by
  cases passage with
  | silent _ later => exact .silent draft later
  | changed _ next claimed client now higher within =>
    exact .changed draft next claimed client now higher within
  | updated _ later client now => exact .updated draft later client now
  | deleted _ client now => exact .deleted draft client now

/-- A document that nothing is told of, before and after. -/
theorem unchanged (document : Option Draft) : Passage uri document [] document := by
  cases document with
  | none => exact .absent
  | some draft => exact .silent draft draft.holders

/-- An update other than of a deletion says the version of its document, the checksum
of its text and the build of that text. -/
theorem describes {before after : Option Draft} {told : List Update}
    (passage : Passage uri before told after) {update : Update} (member : update ∈ told)
    (standing : update.reason ≠ .deleted) :
    ∃ draft, after = some draft ∧ update.revision.version = draft.version ∧
      update.revision.checksum = checksum draft.text ∧ update.build = Build.of uri draft.text := by
  cases passage with
  | absent | silent => exact nomatch member
  | opened draft | changed _ draft | updated draft =>
    rw [List.mem_singleton.mp member]
    exact ⟨_, rfl, rfl, rfl, rfl⟩
  | deleted =>
    rw [List.mem_singleton.mp member] at standing
    exact absurd rfl standing

end Passage

/-- Turns of which one update at most is announced are one passage. -/
theorem Turns.passage {leaver : Option String} {before after : Option Draft}
    {events : List Event} (turns : Turns uri leaver before events after)
    (once : (updates events).length ≤ 1) : Passage uri before (updates events) after := by
  induction turns with
  | done document => exact .unchanged document
  | @more before between after events later first rest inductionHypothesis =>
    rw [updates_append] at once ⊢
    -- After a turn that is announced the rest is silent.
    have quiet : (updates events).length = 1 → updates later = [] := by
      intro told
      rw [List.length_append, told] at once
      exact List.length_eq_zero_iff.mp (by omega)
    cases first with
    | saved => exact inductionHypothesis once
    | joined | left => exact (inductionHypothesis once).rehold
    | revised draft next claimed text client now revision done =>
      obtain ⟨holders, rfl⟩ := rest.silent (quiet rfl) rfl
      have higher := Draft.version_lt_of_revise draft next claimed text client now revision done
      obtain ⟨-, rfl, rfl⟩ := Draft.revise_eq_some done
      rw [quiet rfl]
      exact .changed draft { draft with
        text, version := max claimed (draft.version + 1), author := client, holders }
        claimed client now higher (claimed_le_max _ _)
    | opened draft client now =>
      obtain ⟨holders, rfl⟩ := rest.silent (quiet rfl) rfl
      rw [quiet rfl]
      exact .opened { draft with holders } client now
    | rebuilt draft client now =>
      obtain ⟨holders, rfl⟩ := rest.silent (quiet rfl) rfl
      rw [quiet rfl]
      exact .updated draft holders client now
    | closed draft client now =>
      cases rest.silent_none (quiet rfl) rfl
      rw [quiet rfl]
      exact .deleted draft client now

/-- All that turns announce is about their document. -/
theorem Turns.about {leaver : Option String} {before after : Option Draft} {events : List Event}
    (turns : Turns uri leaver before events after) {update : Update}
    (member : update ∈ updates events) : update.build.uri = uri := by
  induction turns with
  | done => exact nomatch member
  | more first rest inductionHypothesis =>
    rw [updates_append] at member
    rcases List.mem_append.mp member with now | later
    · cases first with
      | saved | joined | left => exact nomatch now
      | revised | opened | rebuilt =>
        rw [List.mem_singleton.mp now]
        exact uri_of _ _
      | closed =>
        rw [List.mem_singleton.mp now]
        rfl
    · exact inductionHypothesis later

/-- The reasons of the updates from the opening of a document to its deletion. -/
def WholeLife (life : List Reason) : Prop :=
  ∃ middle, (∀ reason ∈ middle, reason = .changed ∨ reason = .updated) ∧
    life = .opened :: middle ++ [.deleted]

namespace Lived

variable {history : List Update} {document : Option Draft}

/-- Whether reasons are those of a life that has not ended. -/
def Unended (life : List Reason) : Prop :=
  ∃ middle, (∀ reason ∈ middle, reason = .changed ∨ reason = .updated) ∧ life = .opened :: middle

/-- A life that goes on. -/
theorem Unended.goesOn {life : List Reason} (unended : Unended life) {reason : Reason}
    (inside : reason = .changed ∨ reason = .updated) : Unended (life ++ [reason]) := by
  obtain ⟨middle, within, rfl⟩ := unended
  refine ⟨middle ++ [reason], ?_, rfl⟩
  intro other member
  rcases List.mem_append.mp member with old | new
  · exact within other old
  · exact List.mem_singleton.mp new ▸ inside

theorem Unended.ends {life : List Reason} (unended : Unended life) :
    WholeLife (life ++ [.deleted]) := by
  obtain ⟨middle, within, rfl⟩ := unended
  exact ⟨middle, within, rfl⟩

end Lived

/-- What an operation tells goes with its result: one that fails tells nothing. -/
def Outcome.Tells (outcome : Outcome φ α) (told : α → List Update → Prop) : Prop :=
  match outcome.result with
  | .ok value => told value (updates outcome.events)
  | .error _ => updates outcome.events = []

/-- Whether updates are what has to be told of an answer. A revision is told by one
change, a last close by one deletion, a build by one update. -/
def Answer.Told : Answer → List Update → Prop
  | .done, told => ∀ update ∈ told, update.reason = .opened ∨ update.reason = .changed
  | .revised revision, told => ∃ update, told = [update] ∧ update.reason = .changed ∧
      update.revision = revision
  | .closed last, told => if last then ∃ update, told = [update] ∧ update.reason = .deleted
      else told = []
  | .built build, told => ∃ update, told = [update] ∧ update.reason = .updated ∧
      update.build = build

namespace Outcome

/-- An operation that refuses tells nothing. -/
theorem tells_refuse (registry : Registry φ) (failure : Failure) (told : α → List Update → Prop) :
    (registry.refuse failure : Outcome φ α).Tells told := rfl

/-- What goes with a result goes with what it is changed to. -/
theorem Tells.map {β : Type} {outcome : Outcome φ α} {told : α → List Update → Prop}
    {retold : β → List Update → Prop} (tells : outcome.Tells told) (change : α → β)
    (fits : ∀ value updates, told value updates → retold (change value) updates) :
    (outcome.map change).Tells retold := by
  unfold Tells Outcome.map at *
  cases result : outcome.result with
  | error failure =>
    rw [result] at tells
    exact tells
  | ok value =>
    rw [result] at tells
    exact fits value _ tells

end Outcome

/-- Giving an open document another text tells of one change or fails. -/
theorem revise_tells (registry : Registry φ) (draft : Draft) (claimed : UInt64)
    (text client : String) (now : UInt64) :
    (registry.revise draft claimed text client now).Tells
      fun revision told => (Answer.revised revision).Told told :=
  revise_branches (Outcome.tells_refuse _ _ _) fun _ _ _ => ⟨_, rfl, rfl, rfl⟩

/-- A revision that is not answered is told by a change all the same. -/
theorem Answer.told_done {revision : Revision} {told : List Update}
    (revised : (Answer.revised revision).Told told) : Answer.done.Told told := by
  obtain ⟨update, rfl, changed, _⟩ := revised
  intro other member
  rw [List.mem_singleton.mp member]
  exact .inr changed

/-- What is silent tells what an operation may tell that answers no more than that it is
done. -/
theorem Answer.told_nothing : Answer.done.Told [] := fun _ absent => nomatch absent

/-- A client that joins the others on a document tells of its text at most. -/
theorem join_tells (registry : Registry φ) (draft : Draft) (opening : Opening) (now : UInt64) :
    (registry.join draft opening now).Tells fun _ => Answer.done.Told :=
  join_branches Answer.told_nothing fun _ _ _ =>
    (revise_tells _ _ _ _ _ _).map _ fun _ _ => Answer.told_done

/-- Letting a hold go tells of the end of a document if it was the last one. -/
theorem close_tells (registry : Registry φ) (uri client : String) (now : UInt64) :
    (registry.close uri client now).Tells fun last => (Answer.closed last).Told :=
  close_branches (fun _ => rfl) (fun _ _ _ => ⟨_, rfl, rfl⟩) fun _ _ _ => rfl

/-- Building a document again tells of the build. -/
theorem rebuild_tells (registry : Registry φ) (uri client : String) (now : UInt64) :
    (registry.rebuild uri client now).Tells fun build => (Answer.built build).Told :=
  rebuild_branches (fun _ => Outcome.tells_refuse _ _ _) fun _ _ => ⟨_, rfl, rfl, rfl⟩

/-- A save tells of the text that an open document gets by it. -/
theorem announceSave_tells (registry : Registry φ) (uri text client : String) (now : UInt64) :
    (registry.announceSave uri text client now).Tells fun _ => Answer.done.Told := by
  refine announceSave_branches ?gone ?same ?revised
  case gone => exact fun _ => Answer.told_nothing
  case same => exact fun _ _ _ => Answer.told_nothing
  case revised =>
    intro draft _ _ revised
    have tells := revise_tells registry draft draft.nextVersion text client now
    have silent : ∀ saved, updates (revised.events ++ [.saved saved]) = updates revised.events := by
      intro saved
      rw [updates_append]
      exact List.append_nil _
    rw [Outcome.Tells, silent]
    unfold Outcome.Tells at tells
    split at tells
    · exact Answer.told_done tells
    · rw [tells]
      exact Answer.told_nothing

section Files

variable [Files.Store φ]

/-- Opening a document tells of its opening, or of the text that it gets by it. -/
theorem openFor_tells (registry : Registry φ) (opening : Opening) (now : UInt64) :
    (registry.openFor opening now).Tells fun _ => Answer.done.Told := by
  refine openFor_branches ?refused ?joined ?registered
  case refused => exact fun _ _ => Outcome.tells_refuse _ _ _
  case joined => exact fun draft _ => join_tells registry draft opening now
  case registered =>
    intro text _
    rw [register_eq]
    intro update member
    rw [List.mem_singleton.mp member]
    exact .inl rfl

/-- Saving a text tells of nothing but that an open document gets it. -/
theorem save_tells (registry : Registry φ) (uri text client : String) (now : UInt64) :
    (registry.save uri text client now).Tells fun _ => Answer.done.Told :=
  save_branches (fun _ _ => Outcome.tells_refuse _ _ _)
    fun _ => announceSave_tells _ uri text client now

/-- Reading a document again tells of the text that the file holds, unless the document
has it. -/
theorem reload_tells (registry : Registry φ) (uri : String) (now : UInt64) :
    (registry.reload uri now).Tells
      fun revision? => ((revision?.map Answer.revised).getD .done).Told := by
  refine reload_branches ?refused ?same ?revised
  case refused => exact fun _ => Outcome.tells_refuse _ _ _
  case same => exact fun _ _ _ _ _ => Answer.told_nothing
  case revised =>
    intro draft _ text _ _ _
    exact (revise_tells registry draft _ text _ now).map _ fun _ _ told => told

/-- What every operation tells goes with its answer, and one that fails tells nothing. -/
theorem perform_tells (registry : Registry φ) (now : UInt64) (operation : Operation φ) :
    (registry.perform now operation).Tells Answer.Told := by
  cases operation with
  | openFor opening => exact (openFor_tells registry opening now).map _ fun _ _ told => told
  | update uri claimed text client =>
    have tells : (registry.update uri claimed text client now).Tells
        fun revision told => (Answer.revised revision).Told told :=
      update_branches (fun _ => Outcome.tells_refuse _ _ _)
        fun draft _ => revise_tells registry draft claimed text client now
    exact tells.map _ fun _ _ told => told
  | save uri text client =>
    exact (save_tells registry uri text client now).map _ fun _ _ told => told
  | close uri client => exact (close_tells registry uri client now).map _ fun _ _ told => told
  | rebuild uri client => exact (rebuild_tells registry uri client now).map _ fun _ _ told => told
  | reload uri => exact (reload_tells registry uri now).map _ fun _ _ told => told
  | refile files => exact Answer.told_nothing

/-- An operation takes every document through one passage, and tells nothing of those
that it is not about. -/
theorem perform_passage {registry : Registry φ} (sound : registry.Sound) (now : UInt64)
    (operation : Operation φ) (uri : String) :
    Passage uri (registry.draft? uri) (updatesOf uri (registry.perform now operation).events)
        ((registry.perform now operation).registry.draft? uri) ∧
      (operation.uri? ≠ some uri → updatesOf uri (registry.perform now operation).events = []) := by
  obtain ⟨other, about⟩ := operation.exists_about
  have turns := perform_turns sound now operation about
  by_cases same : other = uri
  · subst same
    have all : updatesOf other (registry.perform now operation).events =
        updates (registry.perform now operation).events :=
      List.filter_eq_self.mpr fun update member => decide_eq_true (turns.turns.about member)
    rw [all]
    refine ⟨turns.turns.passage turns.once, ?_⟩
    intro elsewhere
    cases operation with
    | refile files => rfl
    | openFor | update | save | close | rebuild | reload =>
      exact absurd (congrArg some (of_decide_eq_true about)) elsewhere
  · have none : updatesOf uri (registry.perform now operation).events = [] := by
      refine List.filter_eq_nil_iff.mpr ?_
      intro update member here
      exact same ((turns.turns.about member).symm.trans (of_decide_eq_true here))
    rw [none, turns.elsewhere uri same]
    exact ⟨.unchanged _, fun _ => rfl⟩

/-- A document that is opened first is told of by one opening. -/
theorem openFor_opened {registry : Registry φ} (sound : registry.Sound) (opening : Opening)
    (now : UInt64) (missing : registry.draft? opening.uri = none)
    (opened : (registry.openFor opening now).result = .ok ()) :
    ∃ update, updatesOf opening.uri (registry.openFor opening now).events = [update] ∧
      update.reason = .opened := by
  obtain ⟨draft, present, _⟩ := openFor_holds sound opening now opened
  have passage : Passage opening.uri (registry.draft? opening.uri)
      (updatesOf opening.uri (registry.openFor opening now).events)
      ((registry.openFor opening now).registry.draft? opening.uri) :=
    (perform_passage sound now (.openFor opening) opening.uri).1
  rw [missing, present] at passage
  generalize updatesOf opening.uri (registry.openFor opening now).events = told at passage ⊢
  cases passage with
  | opened => exact ⟨_, rfl, rfl⟩

/-- What an operation tells of a document. -/
structure Accounts (registry : Registry φ) (now : UInt64) (operation : Operation φ)
    (uri : String) : Prop where
  /-- An opening, a change, a deletion and a build are each told by one update, and nothing
  else is told. -/
  passage : Passage uri (registry.draft? uri)
    (updatesOf uri (registry.perform now operation).events)
    ((registry.perform now operation).registry.draft? uri)
  /-- Every update but that of a deletion describes the document as it is afterwards. -/
  described : ∀ update ∈ updatesOf uri (registry.perform now operation).events,
    update.reason ≠ .deleted →
    ∃ draft, (registry.perform now operation).registry.draft? uri = some draft ∧
      update.revision.version = draft.version ∧
      update.revision.checksum = checksum draft.text ∧ update.build = Build.of uri draft.text
  /-- What is told goes with the answer, and a failure tells nothing. -/
  answered : (registry.perform now operation).Tells Answer.Told
  begun : ∀ opening, operation = .openFor opening → opening.uri = uri →
    registry.draft? uri = none → (registry.openFor opening now).result = .ok () →
    ∃ update, updatesOf uri (registry.perform now operation).events = [update] ∧
      update.reason = .opened
  /-- Nothing is told of other documents. -/
  apart : operation.uri? ≠ some uri → updatesOf uri (registry.perform now operation).events = []

theorem accounts {registry : Registry φ} (sound : registry.Sound) (now : UInt64)
    (operation : Operation φ) (uri : String) : registry.Accounts now operation uri := by
  obtain ⟨passage, apart⟩ := perform_passage sound now operation uri
  refine ⟨passage, fun _ member => passage.describes member, perform_tells registry now operation,
    ?_, apart⟩
  rintro opening rfl rfl missing opened
  exact openFor_opened sound opening now missing opened

end Files

end Flowdesk.Registry
