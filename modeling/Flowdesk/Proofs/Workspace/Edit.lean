import Flowdesk.Files.Memory
import Flowdesk.Proofs.Workspace.Move
import Flowdesk.Proofs.Workspace.Showing

/-!
# Graphical edits

A graphical edit is made from the view of a session, which may be older than the
document; only the version of the view is compared with that of the document. The law
that makes this comparison enough is that a view is never ahead of its document, and at
the document's version shows the document's text. It holds as long as the client of the
session keeps its hold: a document that was closed in between may come back at a lower
version.
-/

namespace Flowdesk

open Data Sync Workflow

/-- Whether a view was made of some state of a document up to a draft: it is not ahead
of the draft, and where it is level with it, it shows the text of the draft. -/
structure View.Follows (view : View) (uri : String) (draft : Draft) : Prop where
  behind : view.version ≤ draft.version
  level : view.revision.isSome → view.version = draft.version → view.text = draft.text
  built : view.revision = none ∧ view.root = none ∨
    ∃ prior revision, view = View.update prior (Build.of uri view.text) revision view.text

namespace View

theorem follows_initial (uri : String) (draft : Draft) : View.initial.Follows uri draft where
  behind := UInt64.zero_le
  level shown := nomatch shown
  built := .inl ⟨rfl, rfl⟩

/-- A view that was just shown a draft follows it. -/
theorem follows_update (view : View) (uri : String) (draft : Draft) (now : UInt64) :
    (view.update (Build.of uri draft.text) (draft.current now) draft.text).Follows uri draft where
  behind := UInt64.le_refl _
  level _ _ := rfl
  built := .inr ⟨view, draft.current now, rfl⟩

/-- A view that follows a draft follows every later one. -/
theorem Follows.later {view : View} {uri : String} {draft next : Draft}
    (follows : view.Follows uri draft) (later : draft.Later next) : view.Follows uri next where
  behind := UInt64.le_trans follows.behind later.version
  level := by
    intro shown level
    have back : next.version = draft.version :=
      UInt64.le_antisymm (level ▸ follows.behind) later.version
    rw [(later.same back).1]
    exact follows.level shown (level.trans back)
  built := follows.built

/-- A view that lets its client edit a workflow was made of a text that is read as this
workflow, without errors. -/
theorem Follows.editable {view : View} {uri : String} {draft : Draft} {flow : Flow}
    (follows : view.Follows uri draft) (mode : view.mode = .editable)
    (shown : view.flow = some flow) :
    view.revision.isSome ∧ Document.parse view.text = .ok ⟨some flow⟩ ∧
      hasErrors (check ⟨some flow⟩) = false := by
  obtain ⟨_, rootless⟩ | ⟨prior, revision, made⟩ := follows.built
  · rw [View.flow, rootless] at shown
    exact nomatch shown
  · have correct : (Build.of uri view.text).hasErrors = false := by
      rw [made] at mode
      change EditMode.of (Build.of uri view.text).findings = .editable at mode
      unfold EditMode.of at mode
      split at mode
      · exact nomatch mode
      · next sound => exact Bool.eq_false_iff.mpr sound
    have root : view.root = ((Build.of uri view.text).root <|> prior.root) := by
      conv_lhs => rw [made]
      rfl
    have revised : view.revision = some revision := by
      conv_lhs => rw [made]
      rfl
    refine ⟨by rw [revised]; rfl, ?_⟩
    cases read : Document.parse view.text with
    | error fault =>
      have noRoot : (Build.of uri view.text).root = none := by simp [Build.of, read]
      rw [Build.hasErrors_of_root_none uri view.text noRoot] at correct
      exact nomatch correct
    | ok document =>
      have build : Build.of uri view.text = ⟨uri, some document, check document⟩ := by
        simp [Build.of, read]
      rw [build] at root correct
      have same : document = ⟨some flow⟩ := by
        rw [View.flow, root] at shown
        cases document
        cases shown
        rfl
      subst same
      exact ⟨rfl, correct⟩

end View

namespace Workspace

variable {φ : Type}

/-- Whether a session and its document go together: its client holds the document, and
its view follows it. -/
structure Attuned (uri client : String) (number : Nat) (workspace : Workspace φ) : Prop where
  begun : number < workspace.nextSession
  held : workspace.registry.Holds uri client
  own : ∀ session ∈ workspace.sessions, session.number = number →
    session.uri = uri ∧ session.client = client
  follows : ∀ session ∈ workspace.sessions, session.number = number →
    ∀ draft, workspace.registry.draft? uri = some draft → session.view.Follows uri draft

/-- A session begins attuned to a document that its client holds. -/
theorem attuned_enrol {workspace : Workspace φ} (orderly : workspace.Orderly) {uri client : String}
    (held : workspace.registry.Holds uri client) :
    Attuned uri client workspace.nextSession (workspace.enrol uri client) := by
  have fresh : ∀ session ∈ (workspace.enrol uri client).sessions,
      session.number = workspace.nextSession →
        session.uri = uri ∧ session.client = client ∧ session.view = .initial := by
    intro session member number
    rcases List.mem_append.mp member with present | added
    · have below := orderly.numbered.below session present
      exact absurd number (Nat.ne_of_lt below)
    · cases List.mem_singleton.mp added
      exact ⟨rfl, rfl, rfl⟩
  refine ⟨Nat.lt_succ_self _, held, ?_, ?_⟩
  · intro session member number
    obtain ⟨sameUri, sameClient, _⟩ := fresh session member number
    exact ⟨sameUri, sameClient⟩
  · intro session member number draft _
    obtain ⟨_, _, initial⟩ := fresh session member number
    rw [initial]
    exact View.follows_initial uri draft

/-- Whatever happens while its client keeps its hold keeps a session attuned. -/
theorem Happens.attuned {may : Licence → Prop} {before after : Workspace φ}
    (happens : Happens may before after) {uri client : String} {number : Nat}
    (keeps : ¬may (.hold uri client)) (orderly : before.Orderly)
    (attuned : Attuned uri client number before) : Attuned uri client number after := by
  obtain ⟨draft, found, holds⟩ := attuned.held
  obtain ⟨next, reached, still, later⟩ := happens.holds orderly keeps found holds
  have grown := happens.nextSession_le orderly
  -- A session of the number is the earlier one, since new sessions get new numbers.
  have origin : ∀ session ∈ after.sessions, session.number = number →
      ∃ earlier ∈ before.sessions, earlier.number = number ∧ Continues earlier session ∧
        (session.view = earlier.view ∨
          after.Refreshed session.uri earlier.view session.view) := by
    intro session member is
    cases happens.sessions orderly member with
    | continued earlier present continues view =>
      exact ⟨earlier, present, continues.number.trans is, continues, view⟩
    | begun fresh _ => exact absurd attuned.begun (Nat.not_lt.mpr (is ▸ fresh))
  refine ⟨Nat.lt_of_lt_of_le attuned.begun grown, ⟨next, reached, still⟩, ?_, ?_⟩
  · intro session member is
    obtain ⟨earlier, present, was, continues, _⟩ := origin session member is
    rw [← continues.uri, ← continues.client]
    exact attuned.own earlier present was
  · intro session member is now current
    obtain ⟨earlier, present, was, continues, view⟩ := origin session member is
    obtain ⟨own, _⟩ := attuned.own earlier present was
    cases reached.symm.trans current
    rcases view with same | ⟨shown, time, opened, made⟩
    · rw [same]
      exact (attuned.follows earlier present was draft found).later later
    · rw [← continues.uri, own] at opened made
      cases reached.symm.trans opened
      rw [made]
      exact View.follows_update _ _ _ _

/-- What a successful edit of a document comes to: another text, one version further, by
the client, and no other document touched. -/
structure Edited (before after : Workspace φ) (uri client text : String) (draft : Draft) :
    Prop where
  found : before.registry.draft? uri = some draft
  written : after.registry.draft? uri =
    some { draft with text, version := draft.version + 1, author := client }
  higher : (draft.version + 1).toNat = draft.version.toNat + 1
  elsewhere : ∀ other, uri ≠ other → after.registry.draft? other = before.registry.draft? other

/-- A refresh of any session leaves the documents alone. -/
theorem registry_refresh (workspace : Workspace φ) (session : Session) :
    (workspace.refresh session).1.registry = workspace.registry :=
  refresh_branches rfl fun _ _ _ _ _ => rfl

theorem registry_run (workspace : Workspace φ) (number : Nat) :
    (workspace.run number .semanticToGraph).1.registry = workspace.registry := by
  refine run_branches rfl ?_
  rintro session coordinator _ _ _ _ rfl
  exact registry_refresh { workspace with coordinator } session

/-- A document without a next version is not updated. -/
theorem update_last {workspace : Workspace φ} {uri : String} {draft : Draft}
    (opened : workspace.registry.draft? uri = some draft)
    (last : draft.version = Draft.lastVersion) (claimed : UInt64) (text client : String) :
    workspace.update .within uri claimed text client =
      (workspace, .error (.versionExhausted draft.uri)) := by
  have none : draft.revise claimed text client workspace.timestamp = none := if_pos last
  have refused : workspace.registry.update uri claimed text client workspace.timestamp =
      workspace.registry.refuse (.versionExhausted draft.uri) := by
    simp only [Registry.update, opened, Registry.revise, none]
  rw [update, refused]
  rfl

/-- A document that can be given a text is given it, and all sessions hear of that. -/
theorem update_revised {workspace : Workspace φ} (orderly : workspace.Orderly) (clock : Clock)
    {uri : String} {draft revised : Draft} {revision : Revision}
    (opened : workspace.registry.draft? uri = some draft) {claimed : UInt64} {text client : String}
    (done : draft.revise claimed text client workspace.timestamp = some (revised, revision)) :
    ∃ registry : Registry φ, registry.Sound ∧ registry.draft? uri = some revised ∧
      (∀ other, uri ≠ other → registry.draft? other = workspace.registry.draft? other) ∧
      (workspace.update clock uri claimed text client).2 = .ok revision ∧
      Heard clock ⟨Build.of uri text, client, .changed, revision⟩ { workspace with registry }
        (workspace.update clock uri claimed text client).1 := by
  have turns := Registry.update_turns orderly.sound uri claimed text client workspace.timestamp
  obtain ⟨result, reached, events⟩ := Registry.update_ok orderly.sound opened done
  have told : revised.text = text := by rw [(Draft.revise_eq_some done).2.1]
  rw [told] at events
  refine ⟨_, turns.sound, reached, turns.elsewhere, result, ?_⟩
  obtain ⟨silent, _⟩ | ⟨update, single, heard⟩ := adopt_cases orderly.numbered clock turns.once
  · rw [events] at silent
    exact nomatch silent
  · rw [events] at single
    cases single
    exact heard

/-- A document with a next version is given it, and all sessions hear of that. -/
theorem update_next {workspace : Workspace φ} (orderly : workspace.Orderly) {uri : String}
    {draft : Draft} (opened : workspace.registry.draft? uri = some draft)
    (notLast : draft.version ≠ Draft.lastVersion) (text client : String) :
    ∃ registry : Registry φ, registry.Sound ∧
      registry.draft? uri =
        some { draft with text, version := draft.version + 1, author := client } ∧
      (∀ other, uri ≠ other → registry.draft? other = workspace.registry.draft? other) ∧
      ∃ revision : Revision, revision =
          ⟨draft.version + 1, draft.version + 1, client, workspace.timestamp, checksum text⟩ ∧
        (workspace.update .within uri draft.nextVersion text client).2 = .ok revision ∧
        Heard .within ⟨Build.of uri text, client, .changed, revision⟩ { workspace with registry }
          (workspace.update .within uri draft.nextVersion text client).1 := by
  have done := Draft.revise_next notLast text client workspace.timestamp
  obtain ⟨registry, sound, reached, elsewhere, result, heard⟩ :=
    update_revised orderly .within opened done
  exact ⟨registry, sound, reached, elsewhere, _, rfl, result, heard⟩

/-- A commit is made at the version of the view or not at all. -/
theorem commit_cases {workspace : Workspace φ} (orderly : workspace.Orderly) (session : Session)
    (text : String) :
    (∃ draft actions, draft.version = session.view.version ∧
      (workspace.commit session text).2 = .ok actions ∧
      Edited workspace (workspace.commit session text).1 session.uri session.client text draft) ∨
    ∃ failure, workspace.commit session text = (workspace, .error failure) := by
  unfold commit
  cases found : workspace.registry.draft? session.uri with
  | none => exact .inr ⟨_, rfl⟩
  | some draft =>
    simp only
    by_cases level : draft.version = session.view.version
    · rw [if_neg (not_not.mpr level)]
      by_cases last : draft.version = Draft.lastVersion
      · rw [update_last found last]
        exact .inr ⟨_, rfl⟩
      · obtain ⟨registry, _, reached, elsewhere, revision, _, result, heard⟩ :=
          update_next orderly found last text session.client
        have updated : workspace.update .within session.uri draft.nextVersion text session.client =
            ((workspace.update .within session.uri draft.nextVersion text session.client).1,
              .ok revision) := Prod.ext rfl result
        rw [updated]
        refine .inl ⟨draft, _, level, rfl, found, ?_, Draft.toNat_succ last, ?_⟩
        · simp only
          rw [(runAndPublish_alike _ _ _).registry, registry_run, heard.registry]
          exact reached
        · intro other different
          simp only
          rw [(runAndPublish_alike _ _ _).registry, registry_run, heard.registry]
          exact elsewhere other different
    · rw [if_pos level]
      exact .inr ⟨_, rfl⟩

/-- A patch is applied to what the text of the document is read as, or nothing happens. -/
theorem submitPatch_cases {workspace : Workspace φ} (orderly : workspace.Orderly)
    {session : Session} (present : session ∈ workspace.sessions)
    (attuned : Attuned session.uri session.client session.number workspace) (patch : Patch) :
    (∃ draft flow edited actions, Document.parse draft.text = .ok ⟨some flow⟩ ∧
      hasErrors (check ⟨some flow⟩) = false ∧ patch.apply flow = .ok edited ∧
      (workspace.submitPatch session patch).2 = .ok actions ∧
      Edited workspace (workspace.submitPatch session patch).1 session.uri session.client
        (Document.write ⟨some edited⟩) draft) ∨
    ∃ failure, workspace.submitPatch session patch = (workspace, .error failure) := by
  unfold submitPatch
  cases mode : session.view.mode with
  | readonly => exact .inr ⟨_, rfl⟩
  | editable =>
    cases shown : session.view.flow with
    | none => exact .inr ⟨_, rfl⟩
    | some flow =>
      simp only
      by_cases conflicted : workspace.coordinator.hasConflict session.uri
      · rw [if_pos conflicted]
        exact .inr ⟨_, rfl⟩
      · rw [if_neg conflicted]
        cases applied : patch.apply flow with
        | error failure => exact .inr ⟨_, rfl⟩
        | ok edited =>
          simp only
          obtain ⟨draft, actions, level, done, change⟩ | refused :=
            commit_cases orderly session (Document.write ⟨some edited⟩)
          · have follows := attuned.follows session present rfl draft change.found
            obtain ⟨revised, read, correct⟩ := follows.editable mode shown
            rw [follows.level revised level.symm] at read
            exact .inl ⟨draft, flow, edited, actions, read, correct, applied, done, change⟩
          · exact .inr refused

/-- While its client keeps its hold, a session stays attuned. -/
theorem attuned_after [Files.Store φ] {uri client : String} {number : Nat}
    {workspace : Workspace φ} (moves : List (Move φ)) (kept : KeepsHold uri client workspace moves)
    (orderly : workspace.Orderly) (attuned : Attuned uri client number workspace) :
    Attuned uri client number (workspace.after moves) := by
  refine kept.keep orderly (Attuned uri client number) ?_ attuned
  intro workspace move settled keeps still
  exact (act_happens settled move).attuned keeps settled still

/-- Edits that are accepted from a session are based on the text as it is. The session
may have been attached at any time and anything may have happened since, as long as its
client did not let go of its hold. A patch that is accepted was applied to the workflow
that the text just before was read as, which had no errors, and a text that is accepted
replaces one at the version of the view; either becomes the next version, by the client
of the session, and nothing else changes among the documents. An edit that is refused
changes nothing at all.

Proof: the session was attuned when it began, and every act since kept it so. An edit is
committed only where view and document are level, and there they show the same text. -/
theorem edits_fit_the_text [Files.Store φ] (files : φ) (settings : Settings)
    (earlier later : List (Move φ)) (uri client : String) (number : Nat)
    (attached : (((create files settings).after earlier).attach uri client).2 = .ok number)
    (kept :
      KeepsHold uri client (((create files settings).after earlier).attach uri client).1 later)
    (session : Session)
    (found : ((((create files settings).after earlier).attach uri client).1.after later).session?
      number = some session) :
    let workspace := (((create files settings).after earlier).attach uri client).1.after later
    (∀ patch,
      (∃ draft flow edited actions, Document.parse draft.text = .ok ⟨some flow⟩ ∧
        hasErrors (check ⟨some flow⟩) = false ∧ patch.apply flow = .ok edited ∧
        (workspace.submitPatch session patch).2 = .ok actions ∧
        Edited workspace (workspace.submitPatch session patch).1 uri client
          (Document.write ⟨some edited⟩) draft) ∨
      ∃ failure, workspace.submitPatch session patch = (workspace, .error failure)) ∧
    (∀ text,
      (∃ draft actions, draft.version = session.view.version ∧
        (workspace.commit session text).2 = .ok actions ∧
        Edited workspace (workspace.commit session text).1 uri client text draft) ∨
      ∃ failure, workspace.commit session text = (workspace, .error failure)) := by
  intro workspace
  have reached : ((create files settings).after earlier).Orderly :=
    orderly_after (orderly_create files settings) earlier
  have opened : (((create files settings).after earlier).attach uri client).1.Orderly :=
    orderly_act reached (.attach uri client)
  have begun : Attuned uri client number
      (((create files settings).after earlier).attach uri client).1 := by
    have cases : (∃ failure, _ ∧ Act (fun _ => False) .write _ _) ∨ _ :=
      attach_cases reached uri client
    obtain ⟨failure, refused, _⟩ | ⟨before, _, settled, holds, result, shown⟩ := cases
    · rw [refused] at attached
      exact nomatch attached
    · rw [result] at attached
      cases attached
      have enrolled : Act (fun _ => False) .tell before (before.enrol uri client) :=
        .enrolled before uri client holds
      exact (shown fun _ => False).happens.attuned id (enrolled.orderly settled)
        (attuned_enrol settled holds)
  have orderly : workspace.Orderly := orderly_after opened later
  have attuned : Attuned uri client number workspace :=
    attuned_after later kept opened begun
  obtain ⟨present, rfl⟩ := of_session? found
  obtain ⟨rfl, rfl⟩ := attuned.own session present rfl
  exact ⟨submitPatch_cases orderly present attuned, commit_cases orderly session⟩

/-- The text of a small workflow of a name. -/
def smallFlow (name : String) : String :=
  "workflow:\n  name: " ++ name ++ "\n  nodes:\n  - id: s\n    type: auto\n  edges: []\n"

/-- A session that was shown another client's revision has a patch accepted. -/
theorem edit_after_refresh_fits_the_text :
    let workspace := (((create Files.Memory.empty Settings.usual).after
      [.openFor ⟨"file:///a.wf", "t1", none, none, some (smallFlow "first")⟩]).attach
        "file:///a.wf" "g1").1.after
      [.update .within "file:///a.wf" 1 (smallFlow "second") "t1", .work 0, .work 0, .wait 250,
        .work 0]
    ∃ session draft flow edited actions, workspace.session? 0 = some session ∧
      Document.parse draft.text = .ok ⟨some flow⟩ ∧
      (Patch.rename "s" "t").apply flow = .ok edited ∧
      (workspace.submitPatch session (.rename "s" "t")).2 = .ok actions ∧
      Edited workspace (workspace.submitPatch session (.rename "s" "t")).1 "file:///a.wf"
        "g1" (Document.write ⟨some edited⟩) draft := by
  intro workspace
  have accepted : ((workspace.session? 0).map fun session =>
      (workspace.submitPatch session (.rename "s" "t")).2.isOk) = some true := by
    decide +kernel
  obtain ⟨session, found, done⟩ := Option.map_eq_some_iff.mp accepted
  have kept : KeepsHold "file:///a.wf" "g1" (((create Files.Memory.empty Settings.usual).after
      [.openFor ⟨"file:///a.wf", "t1", none, none, some (smallFlow "first")⟩]).attach
        "file:///a.wf" "g1").1
      [.update .within "file:///a.wf" 1 (smallFlow "second") "t1", .work 0, .work 0, .wait 250,
        .work 0] := by
    exact ⟨id, (work_keeps _ 0 _ _).1, (work_keeps _ 0 _ _).1, id, (work_keeps _ 0 _ _).1, trivial⟩
  obtain ⟨patches, _⟩ := edits_fit_the_text Files.Memory.empty Settings.usual
    [.openFor ⟨"file:///a.wf", "t1", none, none, some (smallFlow "first")⟩]
    [.update .within "file:///a.wf" 1 (smallFlow "second") "t1", .work 0, .work 0, .wait 250,
      .work 0] "file:///a.wf" "g1" 0 (by decide +kernel) kept session found
  obtain ⟨draft, flow, edited, actions, read, _, applied, result, change⟩ | ⟨failure, refused⟩ :=
    patches (.rename "s" "t")
  · exact ⟨session, draft, flow, edited, actions, found, read, applied, result, change⟩
  · rw [refused] at done
    exact nomatch done

end Workspace

end Flowdesk
