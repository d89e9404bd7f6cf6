import Flowdesk.Proofs.Workspace.Planning
import Flowdesk.Proofs.Workspace.Replay

/-!
# Conflicts that are left to be resolved by hand

Where the settings name no side, no task resolves a conflict, and no task takes it away.
The text of the document is not safe all the same: what carries the text into the views
waits for the conflict to be resolved, but what carries a model into the text does not.
A replay that a session awaits overwrites the document while the conflict is active, and
nothing else that the sessions planned does.
-/

namespace Flowdesk

open Data Sync Workflow

/-- A draft is left as it is where there is no model, where it has the text of the model,
and where it has no next version. -/
theorem overwrite_eq_self_iff (session : Session) (draft : Draft) :
    session.overwrite draft = draft ↔ ∀ root, session.view.root = some root →
      draft.text = root.write ∨ draft.version = Draft.lastVersion := by
  unfold Session.overwrite
  cases session.view.root with
  | none => simp
  | some root =>
    simp only [Option.some.injEq, forall_eq']
    split
    · next kept => simp [kept]
    · next changed =>
      refine iff_of_false ?_ changed
      intro same
      have notLast : draft.version ≠ Draft.lastVersion := fun last => changed (.inr last)
      have version : draft.version + 1 = draft.version := congrArg Draft.version same
      have higher := Draft.toNat_succ notLast
      rw [version] at higher
      omega

namespace Workspace

variable {φ : Type}

/-- Whether conflicts are resolved by hand: the settings name no side, and no task
resolves one. -/
structure ByHand (workspace : Workspace φ) : Prop where
  manual : workspace.settings.resolution.preferred = none
  unplanned : ∀ number side, ¬workspace.Planned (.resolve number side)

/-- Nothing is planned at the beginning. -/
theorem byHand_create (files : φ) (settings : Settings)
    (manual : settings.resolution.preferred = none) : (create files settings).ByHand := by
  refine ⟨manual, ?_⟩
  rintro number side (ready | ⟨due, waiting⟩)
  · exact nomatch ready
  · exact nomatch waiting

section Acts

variable {may : Licence → Prop} {stage : Stage} {before after : Workspace φ}

/-- An act plans a resolution only where the settings name a side. -/
theorem Act.byHand (act : Act may stage before after) (orderly : before.Orderly)
    (byHand : before.ByHand) : after.ByHand := by
  refine ⟨act.settings_eq orderly.numbered ▸ byHand.manual, ?_⟩
  intro number side planned
  rcases act.planned orderly planned with before | new
  · exact byHand.unplanned number side before
  · cases new with
    | resolution session present _ automatic => exact nomatch byHand.manual.symm.trans automatic

/-- Whatever happens, what is resolved by hand stays so. -/
theorem Happens.byHand (happens : Happens may before after) (orderly : before.Orderly)
    (byHand : before.ByHand) : after.ByHand := by
  refine happens.keep_orderly orderly ByHand ?_ byHand
  intro stage earlier later settled still act
  exact act.byHand settled still

/-- A conflict stays while nobody leaves the document or sets its conflicts aside. -/
theorem Happens.hasConflict (happens : Happens may before after) {uri : String}
    (linked : ∀ client, ¬may (.link uri client)) (unsettled : ¬may (.settle uri))
    (orderly : before.Orderly) (conflicted : before.coordinator.hasConflict uri = true) :
    after.coordinator.hasConflict uri = true := by
  refine happens.keep_orderly orderly (·.coordinator.hasConflict uri = true) ?_ conflicted
  intro stage earlier later settled still act
  exact act.hasConflict linked unsettled settled still

end Acts

/-- Where conflicts are resolved by hand, no task sets one aside. -/
theorem ByHand.work_leaves {workspace : Workspace φ} (byHand : workspace.ByHand) (position : Nat)
    (uri : String) : ¬(Move.work position).uses workspace (.settle uri) := by
  rintro ⟨task, ready, used⟩
  cases task with
  | resolve number side =>
    exact byHand.unplanned number side (.inl (List.mem_of_getElem? ready))
  | _ => exact used

/-- Whether the ready task at a position is what remains of a debounced replay that a
session still awaits. -/
inductive ReplayDue (workspace : Workspace φ) (position : Nat) (session : Session) : Prop where
  | ended (call : Nat)
      (ready : workspace.agenda.ready[position]? =
        some (.endWait session.number call .graphToSemantic))
      (awaited : session.Awaits call)
  | immediate (call : Nat)
      (ready : workspace.agenda.ready[position]? =
        some (.beginWait session.number call .graphToSemantic))
      (awaited : session.Awaits call) (patience : session.debouncer.delay = 0)

/-- Where conflicts are resolved by hand, the tasks that replay a session are those that
it awaits. -/
theorem ByHand.replays_iff {workspace : Workspace φ} (byHand : workspace.ByHand) (position : Nat)
    (session : Session) :
    workspace.agenda.ready[position]?.bind (Task.replays? workspace) = some session ↔
      workspace.session? session.number = some session ∧ workspace.ReplayDue position session := by
  constructor
  · intro replays
    obtain ⟨task, ready, replays⟩ := Option.bind_eq_some_iff.mp replays
    cases task with
    | beginWait number call direction =>
      cases direction with
      | semanticToGraph => exact nomatch replays
      | graphToSemantic =>
        obtain ⟨found, fits⟩ := Option.filter_eq_some_iff.mp replays
        obtain ⟨_, rfl⟩ := of_session? found
        obtain ⟨patience, awaited⟩ := of_decide_eq_true fits
        exact ⟨found, .immediate call ready awaited patience⟩
    | endWait number call direction =>
      cases direction with
      | semanticToGraph => exact nomatch replays
      | graphToSemantic =>
        obtain ⟨found, fits⟩ := Option.filter_eq_some_iff.mp replays
        obtain ⟨_, rfl⟩ := of_session? found
        exact ⟨found, .ended call ready (of_decide_eq_true fits)⟩
    | resolve number side =>
      exact absurd (.inl (List.mem_of_getElem? ready)) (byHand.unplanned number side)
    | beginTicks | tick => exact nomatch replays
  · rintro ⟨found, due⟩
    cases due with
    | ended call ready awaited =>
      rw [ready, Option.bind_some]
      exact Option.filter_eq_some_iff.mpr ⟨found, decide_eq_true awaited⟩
    | immediate call ready awaited patience =>
      rw [ready, Option.bind_some]
      exact Option.filter_eq_some_iff.mpr ⟨found, decide_eq_true ⟨patience, awaited⟩⟩

/-- Where conflicts are resolved by hand, a task leaves a document alone exactly when it is
no awaited replay of a session on it that writes another text. -/
theorem ByHand.untouched_iff {workspace : Workspace φ} (byHand : workspace.ByHand)
    (orderly : workspace.Orderly) (idle : workspace.Idle) (position : Nat) (uri : String) :
    (workspace.workAt position).registry.draft? uri = workspace.registry.draft? uri ↔
      ∀ session draft root, workspace.session? session.number = some session →
        workspace.ReplayDue position session → session.uri = uri →
          workspace.registry.draft? uri = some draft → session.view.root = some root →
            draft.text = root.write ∨ draft.version = Draft.lastVersion := by
  rw [draft?_workAt orderly idle position uri]
  cases replays : workspace.agenda.ready[position]?.bind (Task.replays? workspace) with
  | none =>
    refine iff_of_true rfl ?_
    intro session draft root found due
    exact nomatch replays.symm.trans ((byHand.replays_iff position session).mpr ⟨found, due⟩)
  | some session =>
    obtain ⟨found, due⟩ := (byHand.replays_iff position session).mp replays
    have single : ∀ other, workspace.session? other.number = some other →
        workspace.ReplayDue position other → other = session := by
      intro other known again
      have same := (byHand.replays_iff position other).mpr ⟨known, again⟩
      exact Option.some.inj (same.symm.trans replays)
    simp only [replayed]
    split
    · next about =>
      cases opened : workspace.registry.draft? uri with
      | none => simp
      | some draft =>
        rw [Option.map_some, Option.some.injEq, overwrite_eq_self_iff]
        constructor
        · intro untouched other current root known again _ same shown
          cases single other known again
          cases same
          exact untouched root shown
        · intro untouched root shown
          exact untouched session draft root found due about rfl shown
    · next elsewhere =>
      refine iff_of_true rfl ?_
      intro other draft root known again about
      rw [single other known again] at about
      exact absurd about elsewhere

section Runs

variable [Files.Store φ]

/-- So it is after any moves. -/
theorem byHand_after {workspace : Workspace φ} (orderly : workspace.Orderly)
    (byHand : workspace.ByHand) (moves : List (Move φ)) : (workspace.after moves).ByHand := by
  refine after_keep orderly moves ByHand ?_ byHand
  intro workspace move settled still
  exact (act_happens settled move).byHand settled still

/-- Whether nobody leaves a document or sets its conflicts aside while moves are made. -/
abbrev LeavesConflict (uri : String) : Workspace φ → List (Move φ) → Prop :=
  Throughout fun workspace move => ¬move.uses workspace (.settle uri) ∧
    ∀ client, ¬move.uses workspace (.link uri client)

/-- A conflict stays through moves that leave it alone. -/
theorem hasConflict_after {workspace : Workspace φ} (orderly : workspace.Orderly) {uri : String}
    (conflicted : workspace.coordinator.hasConflict uri = true) (moves : List (Move φ))
    (left : LeavesConflict uri workspace moves) :
    (workspace.after moves).coordinator.hasConflict uri = true := by
  refine left.keep orderly (·.coordinator.hasConflict uri = true) ?_ conflicted
  rintro workspace move settled ⟨unsettled, linked⟩ still
  exact (act_happens settled move).hasConflict linked unsettled settled still

/-- A conflict that is left to be resolved by hand stays, and a task leaves its document
alone exactly when it is no awaited replay that writes another text. This holds at any
time after the conflict was recorded, whatever happened before and has happened since,
as long as nobody left the document or set its conflicts aside.

Proof: without a side in the settings no resolution is ever planned, and no act takes a
conflict away. Of the tasks that are left, only the ends of awaited replays write. -/
theorem manual_conflict_untouched_iff (files : φ) (settings : Settings)
    (manual : settings.resolution.preferred = none) (earlier later : List (Move φ)) (uri : String)
    (recorded : ((create files settings).after earlier).coordinator.hasConflict uri = true)
    (left : LeavesConflict uri ((create files settings).after earlier) later) :
    let workspace := ((create files settings).after earlier).after later
    workspace.coordinator.hasConflict uri = true ∧
    ∀ position,
      (workspace.act (.work position)).registry.draft? uri = workspace.registry.draft? uri ↔
        ∀ session draft root, workspace.session? session.number = some session →
          workspace.ReplayDue position session → session.uri = uri →
            workspace.registry.draft? uri = some draft → session.view.root = some root →
              draft.text = root.write ∨ draft.version = Draft.lastVersion := by
  intro workspace
  have before := orderly_after (orderly_create files settings) earlier
  have orderly : workspace.Orderly := orderly_after before later
  have idle : workspace.Idle := by
    apply idle_after before
    exact idle_after (orderly_create files settings) (idle_create files settings) earlier
  have byHand : workspace.ByHand := by
    apply byHand_after before
    exact byHand_after (orderly_create files settings) (byHand_create files settings manual) earlier
  refine ⟨hasConflict_after before recorded later left, ?_⟩
  intro position
  exact byHand.untouched_iff orderly idle position uri

end Runs

/-- A desk that leaves conflicts to its users. -/
def byHand : Settings := { Settings.usual with autoSyncEnabled := false, resolution := .manual }

/-- A conflict is recorded on a document that a session shows. -/
def conflicting : List (Move Files.Memory) :=
  [.openFor ⟨"file:///a.wf", "t1", none, some 1, some (smallFlow "first")⟩,
    .attach "file:///a.wf" "g1",
    .update .within "file:///a.wf" 1 (smallFlow "second") "t1"]

/-- A text whose author claims a version, and the time that what follows from it waits. -/
def standing (claimed : UInt64) : List (Move Files.Memory) :=
  [.update .within "file:///a.wf" claimed (smallFlow "third") "t1", .work 0, .wait 250]

/-- A text, a task and a wait neither take the conflict away nor make anybody leave, since no
task resolves it. -/
theorem leavesConflict_standing (claimed : UInt64) :
    LeavesConflict "file:///a.wf" ((create Files.Memory.empty byHand).after conflicting)
      (standing claimed) := by
  let contested : Workspace Files.Memory := (create Files.Memory.empty byHand).after conflicting
  let third : Move Files.Memory :=
    .update .within "file:///a.wf" claimed (smallFlow "third") "t1"
  have orderly : contested.Orderly := orderly_after (orderly_create _ _) conflicting
  have still : contested.ByHand := byHand_after (orderly_create _ _) (byHand_create _ _ rfl) _
  have reached : (contested.act third).ByHand := (act_happens orderly third).byHand orderly still
  exact ⟨⟨id, fun _ => id⟩, ⟨reached.work_leaves 0 _, fun _ => (work_keeps _ 0 _ _).2⟩,
    ⟨id, fun _ => id⟩, trivial⟩

/-- A replay that a late text leads to writes over the document although the conflict was
neither resolved nor taken away. -/
theorem replay_disturbs_manual_conflict :
    byHand.resolution.preferred = none ∧
    ((create Files.Memory.empty byHand).after conflicting).coordinator.hasConflict
      "file:///a.wf" = true ∧
    LeavesConflict "file:///a.wf" ((create Files.Memory.empty byHand).after conflicting)
      (standing 0) ∧
    let workspace := ((create Files.Memory.empty byHand).after conflicting).after (standing 0)
    workspace.coordinator.hasConflict "file:///a.wf" = true ∧
    ∃ draft next, workspace.registry.draft? "file:///a.wf" = some draft ∧
      (workspace.act (.work 0)).registry.draft? "file:///a.wf" = some next ∧
      next.text ≠ draft.text ∧ next.version ≠ draft.version := by
  have run :
      let workspace := ((create Files.Memory.empty byHand).after conflicting).after (standing 0)
      (((create Files.Memory.empty byHand).after conflicting).coordinator.hasConflict
          "file:///a.wf",
        workspace.coordinator.hasConflict "file:///a.wf",
        (workspace.registry.draft? "file:///a.wf").map fun draft => (draft.text, draft.version),
        ((workspace.act (.work 0)).registry.draft? "file:///a.wf").map fun draft =>
          (draft.text, draft.version)) =
      (true, true, some (smallFlow "third", 3), some (smallFlow "first", 4)) := by
    decide +kernel
  simp only [Prod.mk.injEq, Option.map_eq_some_iff] at run
  obtain ⟨recorded, active, ⟨draft, found, text, version⟩, next, written, other, higher⟩ := run
  refine ⟨rfl, recorded, leavesConflict_standing 0, active, draft, next, found, written, ?_, ?_⟩
  · rw [text, other]
    decide
  · rw [version, higher]
    decide

/-- A refresh that a newer text leads to is due instead of a replay, and leaves the document
to those who resolve the conflict. -/
theorem manual_conflict_left_by_others :
    let workspace := ((create Files.Memory.empty byHand).after conflicting).after (standing 3)
    workspace.agenda.ready[0]? = some (.endWait 0 0 .semanticToGraph) ∧
      workspace.coordinator.hasConflict "file:///a.wf" = true ∧
      (workspace.act (.work 0)).registry.draft? "file:///a.wf" =
        workspace.registry.draft? "file:///a.wf" := by
  have run :
      (((create Files.Memory.empty byHand).after conflicting).coordinator.hasConflict
          "file:///a.wf",
        (((create Files.Memory.empty byHand).after conflicting).after
          (standing 3)).agenda.ready[0]?) =
      (true, some (.endWait 0 0 .semanticToGraph)) := by
    decide +kernel
  obtain ⟨recorded, refreshes⟩ := Prod.mk.inj run
  obtain ⟨active, untouched⟩ := manual_conflict_untouched_iff Files.Memory.empty byHand rfl
    conflicting (standing 3) "file:///a.wf" recorded (leavesConflict_standing 3)
  refine ⟨refreshes, active, (untouched 0).mpr ?_⟩
  intro session draft root _ due
  cases due with
  | ended call ready awaited =>
    -- what ends is the wait of a refresh, and not that of a replay
    simp [refreshes] at ready
  | immediate call ready awaited patience => exact nomatch refreshes.symm.trans ready

end Workspace

end Flowdesk
