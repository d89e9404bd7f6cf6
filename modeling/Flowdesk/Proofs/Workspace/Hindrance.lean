import Flowdesk.Proofs.Workspace.Carrying
import Flowdesk.Proofs.Workspace.Standoff

/-!
# Resolutions that are hindered

A resolution fails where a sync of the document is under way, where the document is not
open, and where the model is to be replayed but there is none, or it differs from the text
and no version is left. A resolution that fails changes no document and no view, and yet it
does not leave everything as it was: the conflicts were set aside before the replay was
attempted, and nothing brings them back.
-/

namespace Flowdesk

open Data Sync Workflow

/-- What keeps a side from being replayed for a session. -/
inductive Session.Unfit {φ : Type} (session : Session) (registry : Registry φ) : Side → Prop where
  | notOpen {side : Side} (missing : registry.draft? session.uri = none) :
      Unfit session registry side
  | noModel (rootless : session.view.root = none) : Unfit session registry .graph
  | noVersion (root : Document) (draft : Draft) (shown : session.view.root = some root)
      (opened : registry.draft? session.uri = some draft) (different : draft.text ≠ root.write)
      (last : draft.version = Draft.lastVersion) : Unfit session registry .graph

/-- Some action always shows a view to its client. -/
theorem View.actions_ne_nil (view : View) : view.actions ≠ [] := by simp [actions]

namespace Workspace

variable {φ : Type} {workspace : Workspace φ} {session : Session}

/-- Whether a resolution is hindered: a sync of the document is under way, or the side cannot
be replayed. -/
def Hindered (workspace : Workspace φ) (session : Session) (side : Side) : Prop :=
  workspace.coordinator.syncing session.uri = true ∨ session.Unfit workspace.registry side

/-- The model of a session can be replayed over its document, or something keeps it from
that, and the replay leaves everything as it was. -/
theorem writeBack_side (workspace : Workspace φ) (session : Session) :
    (session.Unfit workspace.registry .graph ∧ ∃ failure : Sync.Failure,
      workspace.writeBack session = (workspace, .error failure) ∧
        Ending.of (α := List Action) (.error failure) = .failed) ∨
    ∃ draft, workspace.registry.draft? session.uri = some draft ∧
      (session.Fits draft ∨ session.Writes draft) := by
  cases shown : session.view.root with
  | none =>
    refine .inl ⟨.noModel shown, .noModel session.uri, ?_, rfl⟩
    simp only [writeBack, shown]
  | some root =>
    cases opened : workspace.registry.draft? session.uri with
    | none =>
      refine .inl ⟨.notOpen opened, .registry (.notOpen session.uri), ?_, rfl⟩
      simp only [writeBack, shown, putText, opened]
    | some draft =>
      by_cases same : draft.text = root.write
      · exact .inr ⟨draft, rfl, .inl ⟨root, shown, same⟩⟩
      · by_cases last : draft.version = Draft.lastVersion
        · refine .inl ⟨.noVersion root draft shown opened same last,
            .registry (.versionExhausted draft.uri), ?_, rfl⟩
          have failed := update_last opened last draft.nextVersion root.write session.client
          simp only [writeBack, shown, putText, opened, same, if_false, failed]
          rfl
        · exact .inr ⟨draft, rfl, .inr ⟨root, shown, same, last⟩⟩

/-- Once the conflicts were set aside, the replay of a side fails and leaves everything as it
was, or it succeeds and comes to some actions. -/
theorem attempt_side (aside : workspace.SetAside session.uri) (side : Side) :
    (session.Unfit workspace.registry side ∧ ∃ failure : Sync.Failure,
      workspace.attempt session side.direction = (workspace, .error failure) ∧
        Ending.of (α := List Action) (.error failure) = .failed) ∨
    (¬session.Unfit workspace.registry side ∧ ∃ (after : Workspace φ) (actions : List Action),
      workspace.attempt session side.direction = (after, .ok actions) ∧ actions ≠ []) := by
  cases side with
  | semantic =>
    cases opened : workspace.registry.draft? session.uri with
    | none =>
      refine .inl ⟨.notOpen opened, .registry (.notOpen session.uri), ?_, rfl⟩
      simp only [Side.direction, attempt, refresh, aside.clear, Bool.false_eq_true, if_false,
        opened]
    | some draft =>
      refine .inr ⟨?_, _, _, refresh_of_open aside.orderly.sound opened aside.clear,
        View.actions_ne_nil _⟩
      intro unfit
      cases unfit with
      | notOpen missing => cases opened.symm.trans missing
  | graph =>
    rcases writeBack_side workspace session with failed | ⟨draft, opened, capable⟩
    · exact .inl failed
    · have fit : ¬session.Unfit workspace.registry .graph := by
        intro unfit
        cases unfit with
        | notOpen missing => cases opened.symm.trans missing
        | noModel rootless =>
          rcases capable with ⟨root, shown, _⟩ | ⟨root, shown, _⟩ <;>
            cases shown.symm.trans rootless
        | noVersion other current held open' different last =>
          cases opened.symm.trans open'
          rcases capable with ⟨root, shown, same⟩ | ⟨_, _, _, notLast⟩
          · cases shown.symm.trans held
            exact different same
          · exact notLast last
      rcases capable with fits | writes
      · exact .inr ⟨fit, _, _, writeBack_of_fits aside.orderly.sound opened fits,
          View.actions_ne_nil _⟩
      · obtain ⟨_, _, _, _, written⟩ := writeBack_of_writes aside.orderly opened writes
        exact .inr ⟨fit, _, _, written, View.actions_ne_nil _⟩

/-- A workspace after a resolution for a document that failed: nothing is changed but the
course of the document, which has lost its conflicts, and is marked unless a sync is still
under way. -/
structure Forsaken (before : Workspace φ) (uri : String) (after : Workspace φ) : Prop where
  registry : after.registry = before.registry
  sessions : after.sessions = before.sessions
  elsewhere : ∀ other, other ≠ uri → after.course other = before.course other
  forgotten : (after.coordinator.status uri).conflicts = []
  marked : before.coordinator.syncing uri = false → (after.coordinator.status uri).phase = .error

/-- A sync whose attempt failed and left everything as it was forsakes the document, if the
conflicts were set aside before. -/
theorem forsaken_of_failed (aside : workspace.SetAside session.uri)
    (found : workspace.session? session.number = some session) {direction : Direction}
    {coordinator : Coordinator}
    (started : workspace.coordinator.start? session.uri = some coordinator)
    {failure : Sync.Failure}
    (attempt : ({ workspace with coordinator } : Workspace φ).attempt session direction =
      ({ workspace with coordinator }, .error failure))
    (failed : Ending.of (α := List Action) (.error failure) = .failed) :
    workspace.Forsaken session.uri (workspace.runAndPublish session.number direction).1 := by
  have alike := runAndPublish_alike workspace session.number direction
  rw [run_of_attempt found _ started attempt, failed] at alike
  refine ⟨alike.registry, alike.sessions, ?_, ?_, ?_⟩
  · intro other different
    obtain ⟨course, _, begins⟩ := Option.map_eq_some_iff.mp started
    rw [Workspace.course, alike.coordinator]
    simp only [coordinate, Coordinator.course_finish, if_neg (Ne.symm different)]
    rw [← begins, Coordinator.course_setCourse, if_neg (Ne.symm different)]
    rfl
  · rw [alike.coordinator, Coordinator.status]
    obtain ⟨_, same, _⟩ := Coordinator.finish_same coordinator session.uri direction .failed
      workspace.timestamp session.uri
    exact same.trans (aside.started started).calm
  · intro _
    rw [alike.coordinator, Coordinator.status]
    simp only [coordinate, Coordinator.course_finish, if_true]
    rfl

/-- Once the conflicts were set aside, a sync for a side is hindered and forsakes the document,
or it is not hindered and comes to some actions. -/
theorem runAndPublish_side (aside : workspace.SetAside session.uri)
    (found : workspace.session? session.number = some session) (side : Side) :
    (workspace.Hindered session side ∧
      (workspace.runAndPublish session.number side.direction).2 = [] ∧
      workspace.Forsaken session.uri (workspace.runAndPublish session.number side.direction).1) ∨
    (¬workspace.Hindered session side ∧
      (workspace.runAndPublish session.number side.direction).2 ≠ []) := by
  have actions : (workspace.runAndPublish session.number side.direction).2 =
      (workspace.run session.number side.direction).2 := rfl
  rw [actions]
  cases started : workspace.coordinator.start? session.uri with
  | none =>
    have busy := Coordinator.syncing_of_start?_eq_none started
    have nothing : workspace.run session.number side.direction = (workspace, []) := by
      simp only [run, found, started]
    have alike := runAndPublish_alike workspace session.number side.direction
    rw [nothing] at alike ⊢
    refine .inl ⟨.inl busy, rfl, alike.registry, alike.sessions, ?_, ?_, ?_⟩
    · exact fun other _ => congrArg (Coordinator.course · other) alike.coordinator
    · rw [alike.coordinator]
      exact aside.calm
    · intro free
      cases free.symm.trans busy
  | some coordinator =>
    obtain ⟨free, _⟩ := Coordinator.syncing_of_start? started
    rcases attempt_side (aside.started started) side with
      ⟨unfit, failure, attempt, failed⟩ | ⟨fit, after, actions, attempt, shows⟩
    · have forsaken := forsaken_of_failed aside found started attempt failed
      rw [run_of_attempt found _ started attempt]
      exact .inl ⟨.inr unfit, rfl, forsaken⟩
    · rw [run_of_attempt found _ started attempt]
      refine .inr ⟨?_, shows⟩
      rintro (busy | unfit)
      · cases free.symm.trans busy
      · exact fit unfit

/-- A resolution sets the conflicts aside and runs a sync for its side. -/
theorem resolve_eq (found : workspace.session? session.number = some session) (side : Side) :
    ∃ accepted, workspace.resolve session.number side =
      (workspace.coordinate (·.beginResolution session.uri accepted)).runAndPublish session.number
        side.direction := by
  simp only [resolve, found]
  exact ⟨_, rfl⟩

/-- A resolution is hindered and forsakes its document, or it is not hindered and comes to
some actions. -/
theorem resolve_cases (orderly : workspace.Orderly)
    (found : workspace.session? session.number = some session) (side : Side) :
    (workspace.Hindered session side ∧ (workspace.resolve session.number side).2 = [] ∧
      workspace.Forsaken session.uri (workspace.resolve session.number side).1) ∨
    (¬workspace.Hindered session side ∧ (workspace.resolve session.number side).2 ≠ []) := by
  obtain ⟨accepted, resolve⟩ := resolve_eq found side
  rw [resolve]
  let begun := workspace.coordinate (·.beginResolution session.uri accepted)
  have still : begun.session? session.number = some session := found
  have syncs : begun.coordinator.syncing session.uri = workspace.coordinator.syncing session.uri :=
    Coordinator.syncing_beginResolution _ session.uri accepted session.uri
  have hindered : begun.Hindered session side ↔ workspace.Hindered session side := by
    rw [Hindered, syncs]
    rfl
  rcases runAndPublish_side (setAside orderly session.uri accepted) still side with
    ⟨unfit, nothing, forsaken⟩ | ⟨fit, shows⟩
  · refine .inl ⟨hindered.mp unfit, nothing, forsaken.registry, forsaken.sessions, ?_,
      forsaken.forgotten, ?_⟩
    · intro other different
      refine (forsaken.elsewhere other different).trans ?_
      simp only [Workspace.course, coordinate, Coordinator.course_beginResolution,
        if_neg (Ne.symm different)]
    · intro free
      exact forsaken.marked (syncs.trans free)
  · exact .inr ⟨fun unfit => fit (hindered.mpr unfit), shows⟩

/-- **Which failed resolutions keep the conflicts.** Take whatever moves lead to, with
whatever the coordinator has recorded, syncs that are under way included. A resolution of a
session comes to nothing exactly if it is hindered. Then all documents and views and the
courses of all other documents are left alone, and the document is marked as failed unless a
sync of it is under way.

But its conflicts are gone, whatever hindered the resolution: all that were recorded before
are still recorded exactly if there were none.

Proof: by cases on what the resolution meets. Whatever it is, the conflicts are set aside before
anything is tried, and what fails afterwards does not put them back. -/
theorem failed_resolution_keeps_conflicts_iff [Files.Store φ] (files : φ) (settings : Settings)
    (moves : List (Move φ)) (coordinator : Coordinator) (number : Nat) (side : Side)
    {session : Session}
    (found : ((create files settings).after moves).session? number = some session) :
    let workspace : Workspace φ := { (create files settings).after moves with coordinator }
    let resolved := workspace.resolve number side
    (resolved.2 = [] ↔ workspace.Hindered session side) ∧
    (resolved.2 = [] → workspace.Forsaken session.uri resolved.1 ∧
      ((∀ conflict ∈ (workspace.coordinator.status session.uri).conflicts,
          conflict ∈ (resolved.1.coordinator.status session.uri).conflicts) ↔
        (workspace.coordinator.status session.uri).conflicts = [])) := by
  intro workspace resolved
  have reached := orderly_after (orderly_create files settings) moves
  have orderly : workspace.Orderly := reached.congr reached.sound rfl rfl
  obtain ⟨_, rfl⟩ := of_session? found
  have stands : workspace.session? session.number = some session := found
  rcases resolve_cases orderly stands side with ⟨hindered, nothing, forsaken⟩ | ⟨fit, shows⟩
  · refine ⟨⟨fun _ => hindered, fun _ => nothing⟩, fun _ => ⟨forsaken, ?_⟩⟩
    rw [forsaken.forgotten, List.eq_nil_iff_forall_not_mem]
    simp
  · exact ⟨⟨fun nothing => absurd nothing shows, fun hindered => absurd hindered fit⟩,
      fun nothing => absurd nothing shows⟩

/-- A conflict is recorded on a document that was never readable since a session shows it. -/
def unreadable : List (Move Files.Memory) :=
  [.openFor ⟨"file:///a.wf", "t1", none, some 1, some "workflow: ["⟩,
    .attach "file:///a.wf" "g1", .update .within "file:///a.wf" 1 "workflow: [[" "t1"]

/-- Without a model, a resolution for the model fails, and the conflict is gone. -/
theorem resolution_without_model_forgets_conflict :
    let workspace := (create Files.Memory.empty byHand).after unreadable
    workspace.coordinator.hasConflict "file:///a.wf" = true ∧
    (workspace.resolve 0 .graph).2 = [] ∧
    (workspace.resolve 0 .graph).1.coordinator.hasConflict "file:///a.wf" = false := by
  decide +kernel

/-- While a sync of the document is under way, a resolution comes to nothing and forsakes the
conflict too. -/
theorem resolution_during_sync_forgets_conflict :
    let workspace := (create Files.Memory.empty byHand).after conflicting
    ∃ coordinator, workspace.coordinator.start? "file:///a.wf" = some coordinator ∧
      coordinator.hasConflict "file:///a.wf" = true ∧
      let syncing : Workspace Files.Memory := { workspace with coordinator }
      (syncing.resolve 0 .semantic).2 = [] ∧
      syncing.Forsaken "file:///a.wf" (syncing.resolve 0 .semantic).1 := by
  intro workspace
  have run : (workspace.coordinator.hasConflict "file:///a.wf",
      (workspace.session? 0).map (·.uri)) = (true, some "file:///a.wf") := by
    decide +kernel
  simp only [Prod.mk.injEq, Option.map_eq_some_iff] at run
  obtain ⟨conflict, session, found, about⟩ := run
  have idle : workspace.Idle :=
    idle_after (orderly_create _ _) (idle_create Files.Memory.empty byHand) conflicting
  obtain ⟨coordinator, started⟩ := Coordinator.start?_of_free (idle "file:///a.wf")
  obtain ⟨_, busy⟩ := Coordinator.syncing_of_start? started
  obtain ⟨nothing, forsaken⟩ := failed_resolution_keeps_conflicts_iff Files.Memory.empty byHand
    conflicting coordinator 0 .semantic found
  have hindered := nothing.mpr (.inl (about ▸ busy))
  exact ⟨coordinator, started, (sameConflicts_start started _).trans conflict, hindered,
    about ▸ (forsaken hindered).1⟩

end Workspace

end Flowdesk
