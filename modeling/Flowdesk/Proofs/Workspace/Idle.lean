import Flowdesk.Proofs.Workspace.Course
import Flowdesk.Proofs.Workspace.Move

/-!
# No sync outlives its move

A sync is begun, carried out and finished within one move, so between moves no sync of
any document is under way. A sync that is asked for is therefore never refused because
of another one.
-/

namespace Flowdesk

open Data Sync Workflow

namespace Workspace

variable {φ α : Type}

/-- Whether no sync is under way. -/
def Idle (workspace : Workspace φ) : Prop := ∀ uri, workspace.coordinator.syncing uri = false

theorem idle_create (files : φ) (settings : Settings) : (create files settings).Idle := fun _ => rfl

/-- Whether the same syncs are under way in two workspaces. -/
def SameSyncs (before after : Workspace φ) : Prop :=
  ∀ uri, after.coordinator.syncing uri = before.coordinator.syncing uri

/-- What changes nothing about which syncs are under way leaves a workspace idle. -/
theorem SameSyncs.idle {before after : Workspace φ} (same : SameSyncs before after)
    (idle : before.Idle) : after.Idle := fun uri => (same uri).trans (idle uri)

theorem Alike.idle {before after : Workspace φ} (alike : Alike before after)
    (idle : before.Idle) : after.Idle := by
  intro uri
  rw [alike.coordinator]
  exact idle uri

/-- Whatever is heard of an operation of the registry, no sync begins or ends at once. -/
theorem sameSyncs_adopt {workspace : Workspace φ} (numbered : workspace.Numbered) (clock : Clock)
    {changed : String} {leaver : Option String} {outcome : Registry.Outcome φ α}
    (turns : outcome.Turns workspace.registry changed leaver) :
    SameSyncs workspace (workspace.adopt clock outcome).1 := by
  intro uri
  rcases course_adopt numbered clock turns uri with same | ⟨update, _, _, _, judged⟩
  · exact congrArg Course.inFlight same
  · exact (congrArg Course.inFlight judged).trans (Course.inFlight_observe _ uri _)

theorem sameSyncs_update {workspace : Workspace φ} (orderly : workspace.Orderly) (clock : Clock)
    (uri : String) (claimed : UInt64) (text client : String) :
    SameSyncs workspace (workspace.update clock uri claimed text client).1 :=
  sameSyncs_adopt orderly.numbered clock
    (Registry.update_turns orderly.sound uri claimed text client workspace.timestamp)

/-- What a sync carries over begins no other one. -/
theorem sameSyncs_attempt {workspace : Workspace φ} (orderly : workspace.Orderly)
    (session : Session) (direction : Direction) :
    SameSyncs workspace (workspace.attempt session direction).1 := by
  refine attempt_branches ?same ?updated ?shown
  case same => exact fun _ => rfl
  case updated => exact fun draft text _ => sameSyncs_update orderly _ _ _ text _
  case shown => exact fun _ _ _ same => same

/-- A sync that is run is over afterwards. -/
theorem idle_run {workspace : Workspace φ} (orderly : workspace.Orderly) (idle : workspace.Idle)
    (number : Nat) (direction : Direction) : (workspace.run number direction).1.Idle := by
  refine run_branches idle ?_
  rintro session coordinator _ _ _ started rfl
  have begun : Act (fun _ => False) .ready workspace { workspace with coordinator } :=
    .started .ready workspace session.uri coordinator started
  have carried := sameSyncs_attempt (begun.orderly orderly) session direction
  intro uri
  simp only [coordinate, Coordinator.syncing, Coordinator.course_finish]
  split
  · rfl
  · next different =>
    exact ((carried uri).trans (Coordinator.syncing_start? started different)).trans (idle uri)

/-- A run that was begun is over before anything else happens. -/
theorem idle_runAndPublish {workspace : Workspace φ} (orderly : workspace.Orderly)
    (idle : workspace.Idle) (number : Nat) (direction : Direction) :
    (workspace.runAndPublish number direction).1.Idle :=
  (runAndPublish_alike workspace number direction).idle (idle_run orderly idle number direction)

/-- Conflicts that are set aside leave the syncs alone. -/
theorem idle_beginResolution {workspace : Workspace φ} (idle : workspace.Idle) (uri : String)
    (accepted : Option Revision) :
    (workspace.coordinate (·.beginResolution uri accepted)).Idle :=
  fun other => (Coordinator.syncing_beginResolution _ uri accepted other).trans (idle other)

/-- Setting conflicts aside leaves a workspace orderly. -/
theorem orderly_beginResolution {workspace : Workspace φ} (orderly : workspace.Orderly)
    (uri : String) (accepted : Option Revision) :
    (workspace.coordinate (·.beginResolution uri accepted)).Orderly :=
  orderly.congr orderly.sound rfl rfl

theorem idle_resolve {workspace : Workspace φ} (orderly : workspace.Orderly)
    (idle : workspace.Idle) (number : Nat) (side : Side) :
    (workspace.resolve number side).1.Idle :=
  resolve_branches idle fun _ _ _ _ =>
    idle_runAndPublish (orderly_beginResolution orderly _ _) (idle_beginResolution idle _ _)
      number side.direction

/-- An update begins no sync, and the refresh after it is a run. -/
theorem idle_commit {workspace : Workspace φ} (orderly : workspace.Orderly)
    (idle : workspace.Idle) (session : Session) (text : String) :
    (workspace.commit session text).1.Idle := by
  have still : ∀ draft : Draft,
      (workspace.update .within session.uri draft.nextVersion text session.client).1.Idle :=
    fun draft => (sameSyncs_update orderly _ _ _ _ _).idle idle
  refine commit_branches idle (fun draft _ _ => still draft) ?_
  intro draft _ _
  have updated : Act (fun _ => False) .write workspace
      (workspace.update .within session.uri draft.nextVersion text session.client).1 :=
    update_act orderly _ _ _ _ _
  exact idle_runAndPublish (updated.orderly orderly) (still draft) _ _

theorem idle_submitPatch {workspace : Workspace φ} (orderly : workspace.Orderly)
    (idle : workspace.Idle) (session : Session) (patch : Patch) :
    (workspace.submitPatch session patch).1.Idle :=
  submitPatch_branches idle fun _ _ _ _ _ _ => idle_commit orderly idle session _

theorem idle_planTick {workspace : Workspace φ} (idle : workspace.Idle) (number : Nat) :
    (workspace.planTick number).Idle :=
  planTick_branches idle fun _ => idle

theorem idle_tick {workspace : Workspace φ} (orderly : workspace.Orderly) (idle : workspace.Idle)
    (session : Session) : (workspace.tick session).Idle :=
  tick_branches (idle_planTick idle _) fun _ =>
    idle_planTick (idle_runAndPublish orderly idle _ _) _

/-- The wait ends with a run. -/
theorem idle_endWait {workspace : Workspace φ} (orderly : workspace.Orderly)
    (idle : workspace.Idle) {session : Session} (present : session ∈ workspace.sessions)
    (call : Nat) (direction : Direction) : (workspace.endWait session call direction).Idle := by
  refine endWait_branches idle ?_
  intro debouncer due
  have begun : Act (fun _ => False) .ready workspace
      (workspace.changeSession session.number ({ · with debouncer })) :=
    .expired .ready workspace session call debouncer present due
  have still : (workspace.changeSession session.number ({ · with debouncer })).Idle := idle
  exact idle_runAndPublish (begun.orderly orderly) still _ _

/-- Whatever task is carried out. -/
theorem idle_workAt {workspace : Workspace φ} (orderly : workspace.Orderly)
    (idle : workspace.Idle) (position : Nat) : (workspace.workAt position).Idle := by
  have left := orderly_without orderly position
  have still : (workspace.without position).Idle := idle
  refine workAt_branches idle fun task _ => ?_
  refine perform_branches ?gone ?begun ?ended ?ticksBegun ?ticked ?resolved
  case gone => exact fun _ => still
  case begun => exact fun _ _ _ _ _ _ _ => still
  case ended =>
    exact fun _ _ _ _ found _ => idle_endWait left still (of_session? found).1 _ _
  case ticksBegun => exact fun _ _ _ _ => idle_planTick still _
  case ticked => exact fun session _ _ _ => idle_tick left still session
  case resolved => exact fun _ _ _ _ _ => idle_resolve left still _ _

theorem idle_observeCurrent {workspace : Workspace φ} (idle : workspace.Idle) (uri : String) :
    (workspace.observeCurrent uri).Idle :=
  observeCurrent_branches idle fun _ _ other =>
    (Coordinator.syncing_observe _ uri _ other).trans (idle other)

/-- A session that begins leaves no sync under way. -/
theorem idle_attach [Files.Store φ] {workspace : Workspace φ} (orderly : workspace.Orderly)
    (idle : workspace.Idle) (uri client : String) : (workspace.attach uri client).1.Idle := by
  let opening : Registry.Opening := ⟨uri, client, none, none, none⟩
  have turns := Registry.openFor_turns orderly.sound opening workspace.timestamp
  have opens : Act (fun _ => False) .write workspace (workspace.openFor opening).1 :=
    openFor_act orderly opening
  have adopted : (workspace.openFor opening).1.Idle :=
    (sameSyncs_adopt orderly.numbered .within turns).idle idle
  have shown : ∀ opened, workspace.openFor opening = (opened, .ok ()) →
      (((opened.enrol uri client).observeCurrent uri).runAndPublish opened.nextSession
        .semanticToGraph).1.Idle := by
    intro opened result
    rw [result] at opens adopted
    have settled : (opened.enrol uri client).Orderly := (opens.orderly orderly).enrol uri client
    have begun : (opened.enrol uri client).Idle :=
      fun other => (Coordinator.syncing_connect _ uri client .graphical other).trans (adopted other)
    exact idle_runAndPublish (orderly_observeCurrent settled uri) (idle_observeCurrent begun uri)
      opened.nextSession .semanticToGraph
  refine attach_branches ?failed shown shown
  case failed =>
    intro opened failure result
    rw [result] at adopted
    exact adopted

/-- Nor does the end of a session. -/
theorem idle_detach {workspace : Workspace φ} (orderly : workspace.Orderly)
    (idle : workspace.Idle) (number : Nat) : (workspace.detach number).Idle := by
  refine detach_branches idle ?_
  intro session found
  obtain ⟨present, rfl⟩ := of_session? found
  have unlinked : Act (fun _ => True) .ready workspace
      (workspace.coordinate (·.disconnect session.uri session.client)) :=
    .disconnected .ready workspace session.uri session.client trivial
  have ended : Act (fun _ => True) .ready
      (workspace.coordinate (·.disconnect session.uri session.client))
      { workspace.coordinate (·.disconnect session.uri session.client) with
        sessions := workspace.sessions.filter (·.number ≠ session.number) } :=
    .withdrawn .ready _ session present trivial
  have settled := ended.orderly (unlinked.orderly orderly)
  refine (sameSyncs_adopt settled.numbered .within
    (Registry.close_turns settled.sound session.uri session.client _)).idle ?_
  exact fun other => (Coordinator.syncing_disconnect _ _ _ other).trans (idle other)

/-- Moves leave no sync under way. -/
theorem idle_act [Files.Store φ] {workspace : Workspace φ} (orderly : workspace.Orderly)
    (idle : workspace.Idle) (move : Move φ) : (workspace.act move).Idle := by
  have adopts : ∀ {β : Type} (clock : Clock) (uri : String) (leaver : Option String)
      (outcome : Registry.Outcome φ β), outcome.Turns workspace.registry uri leaver →
        (workspace.adopt clock outcome).1.Idle :=
    fun clock _ _ _ turns => (sameSyncs_adopt orderly.numbered clock turns).idle idle
  cases move with
  | openFor opening => exact adopts .within _ _ _ (Registry.openFor_turns orderly.sound opening _)
  | update clock uri claimed text client =>
    exact adopts clock _ _ _ (Registry.update_turns orderly.sound uri claimed text client _)
  | save uri text client =>
    exact adopts .within _ _ _ (Registry.save_turns orderly.sound uri text client _)
  | close uri client =>
    exact adopts .within _ _ _ (Registry.close_turns orderly.sound uri client _)
  | rebuild uri client =>
    exact adopts .within _ _ _ (Registry.rebuild_turns orderly.sound uri client _)
  | reload uri => exact adopts .within _ _ _ (Registry.reload_turns orderly.sound uri _)
  | refile | collect | hangUp => exact idle
  | connect uri client method =>
    exact fun other => (Coordinator.syncing_connect _ uri client method other).trans (idle other)
  | disconnect uri client =>
    exact fun other => (Coordinator.syncing_disconnect _ uri client other).trans (idle other)
  | observe uri => exact idle_observeCurrent idle uri
  | beginResolution uri accept => exact idle_beginResolution idle uri _
  | attach uri client => exact idle_attach orderly idle uri client
  | detach number => exact idle_detach orderly idle number
  | sync number direction => exact idle_run orderly idle number direction
  | syncAndSend number direction => exact idle_runAndPublish orderly idle number direction
  | resolve number side => exact idle_resolve orderly idle number side
  | submitPatch number patch =>
    exact ask_branches (motive := Idle) idle
      fun session _ => idle_submitPatch orderly idle session patch
  | submitText number text =>
    exact ask_branches (motive := Idle) idle fun session _ => idle_commit orderly idle session text
  | work position => exact idle_workAt orderly idle position
  | wait time => exact waitFor_branches (motive := Idle) idle fun _ => idle

/-- So no sync is under way between any two moves. -/
theorem idle_after [Files.Store φ] {workspace : Workspace φ} (orderly : workspace.Orderly)
    (idle : workspace.Idle) (moves : List (Move φ)) : (workspace.after moves).Idle :=
  after_keep orderly moves Idle (fun _ move settled still => idle_act settled still move) idle

end Workspace

end Flowdesk
