import Flowdesk.Proofs.Registry.Holders
import Flowdesk.Proofs.Workspace.Course

/-!
# The guests of a workspace

Clients are known to a workspace in three places: as the holders of documents, as those
who take part in the syncs of documents, and through their sessions. Nothing that is
done with a text, a model or a conflict changes who is known there, and no task does.
Only five things do, and each is said at every document and client: an opening lets its
client in, letting go of a document lets it out, a client begins or ends to take part,
and a session begins or ends.
-/

namespace Flowdesk

open Data Sync Workflow

/-- What a session is known by: its number, its document and its client. -/
def Session.entry (session : Session) : Nat × String × String :=
  (session.number, session.uri, session.client)

/-- Who is known to a workspace. -/
@[ext] structure Guests where
  /-- The holders of each document. -/
  holders : String → NameSet
  /-- The clients that take part in the syncs of each document. -/
  linked : String → NameSet
  /-- What each session is known by. -/
  entries : List (Nat × String × String)
  /-- The number of the next session. -/
  next : Nat

namespace Guests

/-- Sets of names by document, one of them changed. -/
def changed (sets : String → NameSet) (uri : String) (change : NameSet → NameSet) :
    String → NameSet :=
  fun other => if uri = other then change (sets other) else sets other

/-- Who is in a set after one client was added to one of the sets. -/
theorem mem_changed_insert (sets : String → NameSet) (uri client other name : String) :
    name ∈ changed sets uri (·.insert client) other ↔
      (uri, client) = (other, name) ∨ name ∈ sets other := by
  unfold changed
  split
  · next same => simp only [same, NameSet.mem_insert, Prod.mk.injEq, true_and, eq_comm]
  · next different => simp only [different, Prod.mk.injEq, false_and, false_or]

/-- Who is left after one client was taken out of one of them. -/
theorem mem_changed_erase (sets : String → NameSet) (uri client other name : String) :
    name ∈ changed sets uri (·.erase client) other ↔
      (uri, client) ≠ (other, name) ∧ name ∈ sets other := by
  unfold changed
  split
  · next same =>
    simp only [same, NameSet.mem_erase, ne_eq, Prod.mk.injEq, true_and, eq_comm, and_comm]
  · next different =>
    simp only [different, ne_eq, Prod.mk.injEq, false_and, not_false_eq_true, true_and]

/-- The guests with one more holder of a document. -/
def letIn (guests : Guests) (uri client : String) : Guests :=
  { guests with holders := changed guests.holders uri (·.insert client) }

/-- The guests with one holder of a document less. -/
def letOut (guests : Guests) (uri client : String) : Guests :=
  { guests with holders := changed guests.holders uri (·.erase client) }

/-- The guests with one more client that takes part in the syncs of a document. -/
def link (guests : Guests) (uri client : String) : Guests :=
  { guests with linked := changed guests.linked uri (·.insert client) }

/-- The guests with one client less that takes part in the syncs of a document. -/
def unlink (guests : Guests) (uri client : String) : Guests :=
  { guests with linked := changed guests.linked uri (·.erase client) }

/-- The guests with one more session. -/
def enrol (guests : Guests) (uri client : String) : Guests :=
  { guests with
    entries := guests.entries ++ [(guests.next, uri, client)]
    next := guests.next + 1 }

/-- The guests without a session. -/
def withdraw (guests : Guests) (number : Nat) : Guests :=
  { guests with entries := guests.entries.filter (·.1 ≠ number) }

end Guests

namespace Workspace

variable {φ α : Type}

/-- Who is known to a workspace. -/
def guests (workspace : Workspace φ) : Guests where
  holders uri := workspace.registry.holders uri
  linked uri := workspace.coordinator.clients uri
  entries := workspace.sessions.map Session.entry
  next := workspace.nextSession

/-- What is sent makes no difference to the guests. -/
theorem Alike.guests {before after : Workspace φ} (alike : Alike before after) :
    after.guests = before.guests := by
  unfold Workspace.guests
  rw [alike.registry, alike.coordinator, alike.sessions, alike.nextSession]

section Steps

variable {workspace : Workspace φ}

/-- A change of courses that leaves their clients alone. -/
theorem guests_coordinate {change : Coordinator → Coordinator}
    (same : ∀ uri, (change workspace.coordinator).clients uri = workspace.coordinator.clients uri) :
    (workspace.coordinate change).guests = workspace.guests :=
  Guests.ext rfl (funext same) rfl rfl

/-- A change of the session of a number that leaves alone what it is known by. -/
theorem guests_changeSession (workspace : Workspace φ) (number : Nat) (change : Session → Session)
    (same : ∀ session, (change session).entry = session.entry) :
    (workspace.changeSession number change).guests = workspace.guests := by
  refine Guests.ext rfl rfl ?_ rfl
  change (workspace.sessions.map _).map Session.entry = _
  rw [List.map_map]
  apply List.map_congr_left
  intro session _
  simp only [Function.comp]
  split
  · exact same session
  · rfl

/-- A session that hears of something stays the session it is. -/
theorem entry_respond (session : Session) (reaction : Reaction) :
    (session.respond reaction).entry = session.entry := by
  cases reaction <;> rfl

/-- Of an operation of the registry no more is heard than who holds its document. -/
theorem guests_adopt (numbered : workspace.Numbered) (clock : Clock) {about : String}
    {leaver : Option String} {outcome : Registry.Outcome φ α}
    (turns : outcome.Turns workspace.registry about leaver) :
    (workspace.adopt clock outcome).1.guests =
      { workspace.guests with holders := fun uri => outcome.registry.holders uri } := by
  obtain ⟨registry, next, respond, sessions⟩ := adopt_frame numbered clock turns.once
  apply Guests.ext
  · exact funext fun uri => congrArg (·.holders uri) registry
  · funext uri
    apply Coordinator.clients_congr
    rcases course_adopt numbered clock turns uri with same | ⟨update, _, _, _, judged⟩
    · exact congrArg (·.status.connectedClients) same
    · exact (congrArg (·.status.connectedClients) judged).trans
        (Course.clients_observe _ uri update.revision)
  · change List.map Session.entry _ = _
    rw [sessions, List.map_map]
    exact List.map_congr_left fun session _ => entry_respond session (respond session)
  · exact next

/-- An operation of the registry that leaves holders alone leaves all guests alone. -/
theorem guests_adopt_of_same (numbered : workspace.Numbered) (clock : Clock) {about : String}
    {leaver : Option String} {outcome : Registry.Outcome φ α}
    (turns : outcome.Turns workspace.registry about leaver)
    (same : ∀ uri, outcome.registry.holders uri = workspace.registry.holders uri) :
    (workspace.adopt clock outcome).1.guests = workspace.guests :=
  (guests_adopt numbered clock turns).trans (Guests.ext (funext same) rfl rfl rfl)

theorem guests_update (orderly : workspace.Orderly) (clock : Clock) (uri : String)
    (claimed : UInt64) (text client : String) :
    (workspace.update clock uri claimed text client).1.guests = workspace.guests :=
  guests_adopt_of_same orderly.numbered clock
    (Registry.update_turns orderly.sound uri claimed text client _)
    (Registry.holders_update orderly.sound uri claimed text client _)

/-- A view is no guest. -/
theorem guests_display (workspace : Workspace φ) (session : Session) (build : Build)
    (draft : Draft) : (workspace.display session build draft).1.guests = workspace.guests :=
  guests_changeSession workspace session.number _ fun _ => rfl

/-- What a sync carries over changes no guests. -/
theorem guests_attempt (orderly : workspace.Orderly) (session : Session) (direction : Direction) :
    (workspace.attempt session direction).1.guests = workspace.guests := by
  refine attempt_branches ?same ?updated ?shown
  case same => rfl
  case updated => exact fun draft text _ => guests_update orderly .within session.uri _ text _
  case shown =>
    exact fun between draft build same => (guests_display between session build draft).trans same

/-- Nor does the sync itself. -/
theorem guests_run (orderly : workspace.Orderly) (number : Nat) (direction : Direction) :
    (workspace.run number direction).1.guests = workspace.guests := by
  refine run_branches rfl ?_
  rintro session coordinator _ ending _ started rfl
  have begun : ({ workspace with coordinator } : Workspace φ).Orderly :=
    orderly.congr orderly.sound rfl rfl
  calc
    _ = (({ workspace with coordinator } : Workspace φ).attempt session direction).1.guests :=
      guests_coordinate (Coordinator.clients_finish _ session.uri direction ending _)
    _ = ({ workspace with coordinator } : Workspace φ).guests :=
      guests_attempt begun session direction
    _ = workspace.guests :=
      Guests.ext rfl (funext (Coordinator.clients_start? started)) rfl rfl

theorem guests_runAndPublish (orderly : workspace.Orderly) (number : Nat)
    (direction : Direction) :
    (workspace.runAndPublish number direction).1.guests = workspace.guests :=
  (runAndPublish_alike workspace number direction).guests.trans
    (guests_run orderly number direction)

/-- Setting conflicts aside leaves the clients of the document alone. -/
theorem guests_resolve (orderly : workspace.Orderly) (number : Nat) (side : Side) :
    (workspace.resolve number side).1.guests = workspace.guests := by
  refine resolve_branches rfl ?_
  intro session accepted _ _
  have setAside : (workspace.coordinate (·.beginResolution session.uri accepted)).Orderly :=
    orderly.congr orderly.sound rfl rfl
  exact (guests_runAndPublish setAside number side.direction).trans
    (guests_coordinate (Coordinator.clients_beginResolution _ session.uri accepted))

/-- A text that is committed changes no guests, and neither does a graphical edit. -/
theorem guests_commit (orderly : workspace.Orderly) (session : Session) (text : String) :
    (workspace.commit session text).1.guests = workspace.guests := by
  have same : ∀ draft : Draft, (workspace.update .within session.uri draft.nextVersion text
      session.client).1.guests = workspace.guests :=
    fun draft => guests_update orderly .within session.uri draft.nextVersion text session.client
  refine commit_branches rfl (fun draft _ _ => same draft) ?_
  intro draft _ _
  have updated : Act (fun _ => False) .write workspace
      (workspace.update .within session.uri draft.nextVersion text session.client).1 :=
    update_act orderly _ _ _ _ _
  exact (guests_runAndPublish (updated.orderly orderly) _ _).trans (same draft)

theorem guests_submitPatch (orderly : workspace.Orderly) (session : Session) (patch : Patch) :
    (workspace.submitPatch session patch).1.guests = workspace.guests :=
  submitPatch_branches rfl fun _ _ _ _ _ _ => guests_commit orderly session _

theorem guests_planTick (workspace : Workspace φ) (number : Nat) :
    (workspace.planTick number).guests = workspace.guests :=
  planTick_branches rfl fun _ => rfl

theorem guests_tick (orderly : workspace.Orderly) (session : Session) :
    (workspace.tick session).guests = workspace.guests :=
  tick_branches (guests_planTick workspace _) fun _ =>
    (guests_planTick _ _).trans (guests_runAndPublish orderly session.number _)

/-- The session whose wait has ended stays. -/
theorem guests_endWait (orderly : workspace.Orderly) {session : Session}
    (present : session ∈ workspace.sessions) (call : Nat) (direction : Direction) :
    (workspace.endWait session call direction).guests = workspace.guests := by
  refine endWait_branches rfl ?_
  intro debouncer due
  have begun : Act (fun _ => False) .ready workspace
      (workspace.changeSession session.number ({ · with debouncer })) :=
    .expired .ready workspace session call debouncer present due
  exact (guests_runAndPublish (begun.orderly orderly) _ _).trans
    (guests_changeSession workspace session.number _ fun _ => rfl)

/-- No task changes who is known to a workspace. -/
theorem guests_workAt (orderly : workspace.Orderly) (position : Nat) :
    (workspace.workAt position).guests = workspace.guests := by
  have left := orderly_without orderly position
  refine workAt_branches rfl fun task _ => ?_
  have taken : (workspace.without position).guests = workspace.guests := rfl
  rw [← taken]
  refine perform_branches ?gone ?begun ?ended ?ticksBegun ?ticked ?resolved
  case gone => exact fun _ => rfl
  case begun => exact fun _ _ _ _ _ _ _ => rfl
  case ended => exact fun _ _ _ _ found _ => guests_endWait left (of_session? found).1 _ _
  case ticksBegun => exact fun _ _ _ _ => guests_planTick _ _
  case ticked => exact fun session _ _ _ => guests_tick left session
  case resolved => exact fun _ _ _ _ _ => guests_resolve left _ _

theorem guests_waitFor (workspace : Workspace φ) (time : Nat) :
    (workspace.waitFor time).guests = workspace.guests :=
  waitFor_branches rfl fun _ => rfl

/-- A client that lets go of a document is let out. -/
theorem guests_close (orderly : workspace.Orderly) (uri client : String) :
    (workspace.close uri client).1.guests = workspace.guests.letOut uri client :=
  (guests_adopt orderly.numbered .within
      (Registry.close_turns orderly.sound uri client _)).trans
    (Guests.ext (funext (Registry.holders_close orderly.sound uri client _)) rfl rfl rfl)

/-- A client takes part in the syncs of a document. -/
theorem guests_connect (workspace : Workspace φ) (uri client : String) (method : Method) :
    (workspace.coordinate (·.connect uri client method)).guests =
      workspace.guests.link uri client :=
  Guests.ext rfl (funext (Coordinator.clients_connect _ uri client method)) rfl rfl

/-- It takes part in them no longer. -/
theorem guests_disconnect (workspace : Workspace φ) (uri client : String) :
    (workspace.coordinate (·.disconnect uri client)).guests =
      workspace.guests.unlink uri client :=
  Guests.ext rfl (funext (Coordinator.clients_disconnect _ uri client)) rfl rfl

/-- A new session is a guest under the next number, and its client takes part. -/
theorem guests_enrol (workspace : Workspace φ) (uri client : String) :
    (workspace.enrol uri client).guests =
      (workspace.guests.link uri client).enrol uri client := by
  refine Guests.ext rfl (funext (Coordinator.clients_connect _ uri client .graphical)) ?_ rfl
  exact List.map_append

theorem guests_observeCurrent (workspace : Workspace φ) (uri : String) :
    (workspace.observeCurrent uri).guests = workspace.guests :=
  observeCurrent_branches rfl fun _ _ => guests_coordinate (Coordinator.clients_observe _ uri _)

/-- A session that ends takes its client out of the syncs and out of its document. -/
theorem guests_detach (orderly : workspace.Orderly) {number : Nat} {session : Session}
    (found : workspace.session? number = some session) :
    (workspace.detach number).guests =
      ((workspace.guests.unlink session.uri session.client).withdraw number).letOut
        session.uri session.client := by
  obtain ⟨present, rfl⟩ := of_session? found
  -- the client is let out by an operation of the registry, which needs an orderly workspace
  let unlinked := workspace.coordinate (·.disconnect session.uri session.client)
  let without : Workspace φ :=
    { unlinked with sessions := workspace.sessions.filter (·.number ≠ session.number) }
  have gone : Act (fun _ => True) .ready unlinked without :=
    .withdrawn .ready unlinked session present trivial
  have settled : without.Orderly := gone.orderly (orderly.congr orderly.sound rfl rfl)
  have left : without.guests =
      (workspace.guests.unlink session.uri session.client).withdraw session.number := by
    rw [← guests_disconnect]
    refine Guests.ext rfl rfl ?_ rfl
    change List.map Session.entry (List.filter _ workspace.sessions) =
      List.filter _ (List.map Session.entry workspace.sessions)
    rw [List.filter_map]
    rfl
  rw [← left]
  unfold detach
  rw [found]
  exact guests_close settled session.uri session.client

section Files

variable [Files.Store φ]

theorem guests_save (orderly : workspace.Orderly) (uri text client : String) :
    (workspace.save uri text client).1.guests = workspace.guests :=
  guests_adopt_of_same orderly.numbered .within
    (Registry.save_turns orderly.sound uri text client _)
    (Registry.holders_save orderly.sound uri text client _)

theorem guests_reload (orderly : workspace.Orderly) (uri : String) :
    (workspace.reload uri).1.guests = workspace.guests :=
  guests_adopt_of_same orderly.numbered .within (Registry.reload_turns orderly.sound uri _)
    (Registry.holders_reload orderly.sound uri _)

/-- An opening changes the guests by the holders that the registry comes to. -/
theorem guests_opened (orderly : workspace.Orderly) (opening : Registry.Opening) :
    (workspace.openFor opening).1.guests =
      { workspace.guests with
        holders := (workspace.registry.openFor opening workspace.timestamp).registry.holders } :=
  guests_adopt orderly.numbered .within
    (Registry.openFor_turns orderly.sound opening workspace.timestamp)

/-- An opening that succeeds lets its client in. -/
theorem guests_openFor (orderly : workspace.Orderly) {opening : Registry.Opening}
    (opened : (workspace.openFor opening).2 = .ok ()) :
    (workspace.openFor opening).1.guests = workspace.guests.letIn opening.uri opening.client := by
  have done : (workspace.registry.openFor opening workspace.timestamp).result = .ok () := opened
  rw [guests_opened orderly, funext (Registry.holders_openFor orderly.sound done)]
  rfl

/-- An opening that fails for want of a version lets its client in all the same. -/
theorem guests_openFor_exhausted (orderly : workspace.Orderly) {opening : Registry.Opening}
    (failed : (workspace.openFor opening).2 = .error (.versionExhausted opening.uri)) :
    (workspace.openFor opening).1.guests = workspace.guests.letIn opening.uri opening.client := by
  have refused : (workspace.registry.openFor opening workspace.timestamp).result =
    .error (.versionExhausted opening.uri) := failed
  rw [guests_opened orderly, funext (Registry.holders_openFor_failed orderly.sound refused)]
  refine Guests.ext (funext fun uri => ?_) rfl rfl rfl
  by_cases same : opening.uri = uri
  · exact (if_pos ⟨same, congrArg _ same⟩).trans (if_pos same).symm
  · exact (if_neg fun both => same both.1).trans (if_neg same).symm

/-- An opening that fails otherwise lets nobody in. -/
theorem guests_openFor_failed (orderly : workspace.Orderly) {opening : Registry.Opening}
    {failure : Registry.Failure} (failed : (workspace.openFor opening).2 = .error failure)
    (different : failure ≠ .versionExhausted opening.uri) :
    (workspace.openFor opening).1.guests = workspace.guests := by
  have refused : (workspace.registry.openFor opening workspace.timestamp).result =
    .error failure := failed
  rw [guests_opened orderly, funext (Registry.holders_openFor_failed orderly.sound refused)]
  refine Guests.ext (funext fun uri => if_neg ?_) rfl rfl rfl
  rintro ⟨same, exhausted⟩
  exact different (same ▸ exhausted)

/-- A session that begins lets its client in and gives it part in the syncs. One that
cannot begin changes nothing. -/
theorem guests_attach (orderly : workspace.Orderly) (uri client : String) :
    ((workspace.attach uri client).2 = .ok workspace.nextSession ∧
      (workspace.attach uri client).1.guests =
        ((workspace.guests.letIn uri client).link uri client).enrol uri client) ∨
    ∃ failure, (workspace.attach uri client).2 = .error failure ∧
      (workspace.attach uri client).1.guests = workspace.guests := by
  let opening : Registry.Opening := ⟨uri, client, none, none, none⟩
  have opens : Act (fun _ => False) .write workspace (workspace.openFor opening).1 :=
    openFor_act orderly opening
  have began : ∀ opened, workspace.openFor opening = (opened, .ok ()) →
      opened.nextSession = workspace.nextSession ∧
      (((opened.enrol uri client).observeCurrent uri).runAndPublish opened.nextSession
        .semanticToGraph).1.guests =
          ((workspace.guests.letIn uri client).link uri client).enrol uri client := by
    intro opened result
    have letIn := guests_openFor orderly (congrArg Prod.snd result)
    rw [result] at letIn opens
    have judged : ((opened.enrol uri client).observeCurrent uri).Orderly :=
      orderly_observeCurrent ((opens.orderly orderly).enrol uri client) uri
    have shown := guests_runAndPublish judged opened.nextSession .semanticToGraph
    rw [guests_observeCurrent, guests_enrol, letIn] at shown
    exact ⟨congrArg Guests.next letIn, shown⟩
  refine attach_branches ?failed ?shown ?ticksBegun
  case failed =>
    intro opened failure result
    have failed : (workspace.openFor opening).2 = .error failure := congrArg Prod.snd result
    -- a session brings no text of its own, so it never wants for a version
    have wanting : failure ≠ .versionExhausted opening.uri := by
      rintro rfl
      obtain ⟨text, brought⟩ := Registry.text_of_exhausted failed
      exact nomatch brought
    have same := guests_openFor_failed orderly failed wanting
    rw [result] at same
    exact .inr ⟨failure, rfl, same⟩
  case shown | ticksBegun =>
    intro opened result
    obtain ⟨next, known⟩ := began opened result
    exact .inl ⟨congrArg Except.ok next, known⟩

end Files

end Steps

end Workspace

end Flowdesk
