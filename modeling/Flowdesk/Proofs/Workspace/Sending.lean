import Flowdesk.Proofs.Workspace.Guests

/-!
# What is sent

Actions are sent by sessions and by nothing else. A session sends them to its own client,
and ends by saying how the sync of its own document stands. Whatever is done with a
workspace puts such batches in front of those that were sent before and takes none of
them away, until they are collected. So nobody is spoken for who has no session.

A drawing is sent only with what comes of a sync. Whatever is done up to then, by the
sessions that hear of an update included, draws nothing.
-/

namespace Flowdesk

open Sync Workflow

/-- Whether a batch of actions is one that a session sends. -/
def Session.Speaks (session : Session) (batch : String × List Action) : Prop :=
  batch.1 = session.client ∧
    ∃ actions phase, batch.2 = actions ++ [.syncStatusChanged session.uri phase]

/-- What a session says depends on what it is known by. -/
theorem Session.Speaks.congr {session other : Session} {batch : String × List Action}
    (said : session.Speaks batch) (same : other.entry = session.entry) : other.Speaks batch := by
  obtain ⟨client, actions, phase, whole⟩ := said
  have uri : other.uri = session.uri := congrArg (·.2.1) same
  have named : other.client = session.client := congrArg (·.2.2) same
  refine ⟨client.trans named.symm, actions, phase, ?_⟩
  rw [uri]
  exact whole

/-- The drawing that an action shows. -/
def Action.drawing? : Action → Option Drawing
  | .updateModel drawing => some drawing
  | .setEditMode _ | .setMarkers _ | .syncStatusChanged _ _ => none

/-- The document whose sync a batch of actions tells of at its end. -/
def subject? (actions : List Action) : Option String :=
  match actions.getLast? with
  | some (.syncStatusChanged uri _) => some uri
  | _ => none

namespace View

/-- The drawing that a view shows its client. -/
def drawing? (view : View) : Option Drawing := view.root.map fun root => .of root view.version

/-- Of the actions that a view leads to, at most one is a drawing. -/
theorem drawings_actions (view : View) :
    view.actions.filterMap Action.drawing? = view.drawing?.toList := by
  cases shown : view.root <;> simp [actions, drawing?, shown, Action.drawing?]

end View

namespace Workspace

variable {φ α : Type}

/-- The drawings that were sent to a client for a document, latest first. -/
def drawn (workspace : Workspace φ) (uri client : String) : List Drawing :=
  (workspace.sent.filter fun batch => batch.1 = client ∧ subject? batch.2 = some uri).flatMap
    (·.2.filterMap Action.drawing?)

/-- Whether one of the sessions of a workspace says a batch of actions. -/
def Speaks (workspace : Workspace φ) (batch : String × List Action) : Prop :=
  ∃ session ∈ workspace.sessions, session.Speaks batch

/-- The same sessions are there, and all that is sent on the way is put in front of what
was sent before and is said by them. -/
structure Sends (before after : Workspace φ) : Prop where
  stay : after.sessions.map Session.entry = before.sessions.map Session.entry
  said : ∃ fresh, after.sent = fresh ++ before.sent ∧ ∀ batch ∈ fresh, after.Speaks batch

section Sends

variable {before between after : Workspace φ}

/-- Nothing is sent. -/
theorem sends_of_silent (silent : after.sent = before.sent)
    (stay : after.sessions.map Session.entry = before.sessions.map Session.entry) :
    Sends before after :=
  ⟨stay, [], silent, fun _ member => nomatch member⟩

/-- Where nothing is done, nothing is sent. -/
theorem Sends.refl (workspace : Workspace φ) : Sends workspace workspace :=
  sends_of_silent rfl rfl

/-- What was said by a session that stays is still said by one. -/
theorem Speaks.later {batch : String × List Action} (said : before.Speaks batch)
    (stay : before.sessions.map Session.entry ⊆ after.sessions.map Session.entry) :
    after.Speaks batch := by
  obtain ⟨session, present, said⟩ := said
  obtain ⟨other, still, same⟩ := List.mem_map.mp (stay (List.mem_map_of_mem present))
  exact ⟨other, still, said.congr same⟩

/-- The sessions that were there are there afterwards. -/
theorem Sends.remain (sends : Sends before after) :
    before.sessions.map Session.entry ⊆ after.sessions.map Session.entry := by
  rw [sends.stay]
  exact List.Subset.refl _

/-- What two steps send is what the one sends and then the other. -/
theorem Sends.trans (first : Sends before between) (second : Sends between after) :
    Sends before after := by
  obtain ⟨early, grown, said⟩ := first.said
  obtain ⟨late, whole, told⟩ := second.said
  refine ⟨second.stay.trans first.stay, late ++ early, ?_, ?_⟩
  · rw [whole, grown, List.append_assoc]
  · intro batch member
    rcases List.mem_append.mp member with fresh | earlier
    · exact told batch fresh
    · exact (said batch earlier).later second.remain

/-- All that is sent on the way tells how syncs stand, and draws nothing. -/
structure Undrawn (before after : Workspace φ) : Prop extends Sends before after where
  receiving : after.receiving = before.receiving
  drawn : ∀ uri client, after.drawn uri client = before.drawn uri client

/-- A step that leaves the outbox and the sessions' entries alone is undrawn. -/
theorem undrawn_of_silent (silent : after.sent = before.sent)
    (stay : after.sessions.map Session.entry = before.sessions.map Session.entry)
    (receiving : after.receiving = before.receiving) : Undrawn before after where
  toSends := sends_of_silent silent stay
  receiving := receiving
  drawn uri client := by simp only [Workspace.drawn, silent]

theorem Undrawn.refl (workspace : Workspace φ) : Undrawn workspace workspace :=
  undrawn_of_silent rfl rfl rfl

/-- Two undrawn steps in a row send notices of status only. -/
theorem Undrawn.trans (first : Undrawn before between) (second : Undrawn between after) :
    Undrawn before after where
  toSends := first.toSends.trans second.toSends
  receiving := second.receiving.trans first.receiving
  drawn uri client := (second.drawn uri client).trans (first.drawn uri client)

/-- Nothing is drawn by steps that are made one for each thing in a list, if none of them
draws. -/
theorem undrawn_foldl {ι : Type} {step : Workspace φ → ι → Workspace φ}
    (undrawn : ∀ workspace item, Undrawn workspace (step workspace item)) (items : List ι)
    (workspace : Workspace φ) : Undrawn workspace (items.foldl step workspace) := by
  induction items generalizing workspace with
  | nil => exact .refl workspace
  | cons first items inductionHypothesis =>
    exact (undrawn workspace first).trans (inductionHypothesis (step workspace first))

end Sends

variable (workspace : Workspace φ)

/-- A session that is there speaks for itself. -/
theorem sends_publish {session : Session} (present : session ∈ workspace.sessions)
    (actions : List Action) : Sends workspace (workspace.publish session actions) := by
  unfold publish
  simp only
  unfold send
  split
  · refine ⟨rfl, [(session.client, _)], rfl, ?_⟩
    intro batch member
    rw [List.mem_singleton.mp member]
    exact ⟨session, present, rfl, actions, _, rfl⟩
  · exact .refl workspace

theorem receiving_publish (session : Session) (actions : List Action) :
    (workspace.publish session actions).receiving = workspace.receiving := by
  simp only [publish, send]
  split <;> rfl

/-- Of what a session sends its own client is shown the drawings, if anybody receives them. -/
theorem drawn_publish (session : Session) (actions : List Action) (uri client : String) :
    (workspace.publish session actions).drawn uri client =
      (if workspace.receiving ∧ session.client = client ∧ session.uri = uri then
        actions.filterMap Action.drawing? else []) ++ workspace.drawn uri client := by
  simp only [publish, send]
  by_cases receives : workspace.receiving = true
  · by_cases own : session.client = client ∧ session.uri = uri <;>
      simp [drawn, receives, subject?, own, Action.drawing?]
  · simp [receives]

/-- A session that only says how the sync of its document stands draws nothing. -/
theorem undrawn_publish {session : Session} (present : session ∈ workspace.sessions) :
    Undrawn workspace (workspace.publish session []) where
  toSends := sends_publish workspace present []
  receiving := workspace.receiving_publish session []
  drawn uri client := by
    rw [drawn_publish]
    simp

theorem sends_publishBy (number : Nat) (actions : List Action) :
    Sends workspace (workspace.publishBy number actions) :=
  publishBy_branches (.refl workspace)
    fun _ found => sends_publish workspace (of_session? found).1 actions

/-- A change of a session that leaves alone what it is known by sends nothing. -/
theorem undrawn_changeSession (number : Nat) (change : Session → Session)
    (same : ∀ session, (change session).entry = session.entry) :
    Undrawn workspace (workspace.changeSession number change) := by
  refine undrawn_of_silent rfl ?_ rfl
  exact congrArg Guests.entries (guests_changeSession workspace number change same)

theorem undrawn_schedule (session : Session) (direction : Direction) :
    Undrawn workspace (workspace.schedule session direction) := by
  refine (undrawn_changeSession workspace session.number _ ?_).trans
    (undrawn_of_silent rfl rfl rfl)
  exact fun _ => rfl

/-- A session that hears of an update plans something, or says that the document is in
conflict. -/
theorem undrawn_hear {session : Session} (present : session ∈ workspace.sessions) (clock : Clock)
    (update : Registry.Update) : Undrawn workspace (workspace.hear clock session update) := by
  unfold hear
  split
  · exact .refl workspace
  · simp only
    let judged : Workspace φ := { workspace with
      coordinator := (workspace.coordinator.observe session.uri update.revision).2 }
    have judging : Undrawn workspace judged := undrawn_of_silent rfl rfl rfl
    have followed (direction : Direction) : Undrawn workspace
        (if clock = .within ∧ update.client ≠ session.client then judged.schedule session direction
        else judged) := by
      split
      · exact judging.trans (undrawn_schedule judged session direction)
      · exact judging
    split
    · unfold meetConflict
      split
      · split
        · exact judging.trans (undrawn_of_silent rfl rfl rfl)
        · exact judging
      · exact judging.trans (undrawn_publish judged present)
    · exact followed .semanticToGraph
    · exact followed .graphToSemantic
    · split
      · exact followed .semanticToGraph
      · exact judging

/-- One session hears of an update, or there is none of that number. -/
theorem undrawn_hearBy (clock : Clock) (update : Registry.Update) (number : Nat) :
    Undrawn workspace (hearBy clock update workspace number) := by
  unfold hearBy
  split
  · next session found =>
    split
    · exact undrawn_hear workspace (of_session? found).1 clock update
    · exact .refl workspace
  · exact .refl workspace

/-- All sessions hear of it in turn. -/
theorem undrawn_announce (clock : Clock) (event : Registry.Event) :
    Undrawn workspace (announce clock workspace event) := by
  let noted : Workspace φ := { workspace with announced := event :: workspace.announced }
  have noting : Undrawn workspace noted := undrawn_of_silent rfl rfl rfl
  cases event with
  | saved saved => exact noting
  | updated update =>
    exact noting.trans
      (undrawn_foldl (fun workspace => undrawn_hearBy workspace clock update) _ noted)

/-- And of all that an operation on the registry announces. -/
theorem undrawn_adopt (clock : Clock) (outcome : Registry.Outcome φ α) :
    Undrawn workspace (workspace.adopt clock outcome).1 := by
  let taken : Workspace φ := { workspace with registry := outcome.registry }
  have taking : Undrawn workspace taken := undrawn_of_silent rfl rfl rfl
  exact taking.trans (undrawn_foldl (fun workspace => undrawn_announce workspace clock) _ taken)

/-- What a session is shown is returned, and sent by whoever asked for it. -/
theorem undrawn_display (session : Session) (build : Build) (draft : Draft) :
    Undrawn workspace (workspace.display session build draft).1 :=
  undrawn_changeSession workspace session.number _ fun _ => rfl

/-- What a sync carries over is not sent yet. -/
theorem undrawn_attempt (session : Session) (direction : Direction) :
    Undrawn workspace (workspace.attempt session direction).1 := by
  refine attempt_branches ?same ?updated ?shown
  case same => exact .refl workspace
  case updated => exact fun _ _ _ => undrawn_adopt workspace .within _
  case shown =>
    exact fun between draft build drawn => drawn.trans (undrawn_display between session build draft)

/-- So a run by itself draws nothing. What comes of it is still to be published. -/
theorem undrawn_run (number : Nat) (direction : Direction) :
    Undrawn workspace (workspace.run number direction).1 := by
  refine run_branches (.refl workspace) ?_
  rintro session coordinator _ _ _ _ rfl
  let begun : Workspace φ := { workspace with coordinator }
  have beginning : Undrawn workspace begun := undrawn_of_silent rfl rfl rfl
  exact (beginning.trans (undrawn_attempt begun session direction)).trans
    (undrawn_of_silent rfl rfl rfl)

/-- What comes of a sync is sent by the session that it was for. -/
theorem sends_runAndPublish (number : Nat) (direction : Direction) :
    Sends workspace (workspace.runAndPublish number direction).1 :=
  (undrawn_run workspace number direction).toSends.trans (sends_publishBy _ number _)

/-- Conflicts are set aside without a word, and the replay is published. -/
theorem sends_resolve (number : Nat) (side : Side) :
    Sends workspace (workspace.resolve number side).1 := by
  refine resolve_branches (.refl workspace) ?_
  intro session accepted _ _
  let aside : Workspace φ := workspace.coordinate (·.beginResolution session.uri accepted)
  have settling : Sends workspace aside := sends_of_silent rfl rfl
  exact settling.trans (sends_runAndPublish aside number side.direction)

/-- An update is announced, and then the session is refreshed. -/
theorem sends_commit (session : Session) (text : String) :
    Sends workspace (workspace.commit session text).1 := by
  have updated : ∀ draft : Draft, Sends workspace
      (workspace.update .within session.uri draft.nextVersion text session.client).1 :=
    fun _ => (undrawn_adopt workspace .within _).toSends
  exact commit_branches (.refl workspace) (fun draft _ _ => updated draft)
    fun draft _ _ => (updated draft).trans (sends_runAndPublish _ session.number _)

theorem sends_submitPatch (session : Session) (patch : Patch) :
    Sends workspace (workspace.submitPatch session patch).1 :=
  submitPatch_branches (.refl workspace) fun _ _ _ _ _ _ => sends_commit workspace session _

theorem sends_planTick (number : Nat) : Sends workspace (workspace.planTick number) :=
  planTick_branches (.refl workspace) fun _ => sends_of_silent rfl rfl

theorem sends_tick (session : Session) : Sends workspace (workspace.tick session) :=
  tick_branches (sends_planTick workspace session.number) fun _ =>
    (sends_runAndPublish workspace session.number .semanticToGraph).trans
      (sends_planTick _ session.number)

/-- The call is taken out of the debouncer first, which sends nothing. -/
theorem sends_endWait (session : Session) (call : Nat) (direction : Direction) :
    Sends workspace (workspace.endWait session call direction) := by
  refine endWait_branches (.refl workspace) ?_
  intro debouncer _
  let begun : Workspace φ := workspace.changeSession session.number ({ · with debouncer })
  have beginning : Undrawn workspace begun := undrawn_changeSession workspace _ _ fun _ => rfl
  exact beginning.toSends.trans (sends_runAndPublish begun session.number direction)

/-- A task speaks for the session that it was planned for. -/
theorem sends_perform (task : Task) : Sends workspace (workspace.perform task) := by
  refine perform_branches ?gone ?begun ?ended ?ticksBegun ?ticked ?resolved
  case gone => exact fun _ => .refl workspace
  case begun => exact fun _ _ _ _ _ _ _ => sends_of_silent rfl rfl
  case ended =>
    exact fun session _ call direction _ _ => sends_endWait workspace session call direction
  case ticksBegun => exact fun _ number _ _ => sends_planTick workspace number
  case ticked => exact fun session _ _ _ => sends_tick workspace session
  case resolved => exact fun _ number side _ _ => sends_resolve workspace number side

/-- A task is taken off the agenda and carried out. -/
theorem sends_workAt (position : Nat) : Sends workspace (workspace.workAt position) := by
  refine workAt_branches (.refl workspace) ?_
  intro task _
  have taking : Sends workspace (workspace.without position) := sends_of_silent rfl rfl
  exact taking.trans (sends_perform _ task)

theorem sends_waitFor (time : Nat) : Sends workspace (workspace.waitFor time) :=
  waitFor_branches (.refl workspace) fun _ => sends_of_silent rfl rfl

theorem sends_observeCurrent (uri : String) : Sends workspace (workspace.observeCurrent uri) :=
  observeCurrent_branches (.refl workspace) fun _ _ => sends_of_silent rfl rfl

/-- What a session that begins is shown at once is said by itself. -/
theorem said_attach [Files.Store φ] (uri client : String) :
    ∃ fresh, (workspace.attach uri client).1.sent = fresh ++ workspace.sent ∧
      ∀ batch ∈ fresh, (workspace.attach uri client).1.Speaks batch := by
  let opening : Registry.Opening := ⟨uri, client, none, none, none⟩
  have opens : Sends workspace (workspace.openFor opening).1 :=
    (undrawn_adopt workspace .within _).toSends
  have shown : ∀ opened, workspace.openFor opening = (opened, .ok ()) →
      let shown := (((opened.enrol uri client).observeCurrent uri).runAndPublish opened.nextSession
        .semanticToGraph).1
      ∃ fresh, shown.sent = fresh ++ workspace.sent ∧ ∀ batch ∈ fresh, shown.Speaks batch := by
    intro opened result shown
    rw [result] at opens
    -- what is heard of the opening is said by the sessions of before: the new one is not
    -- there yet
    obtain ⟨early, heard, said⟩ := opens.said
    let enrolled : Workspace φ := opened.enrol uri client
    have stay : opened.sessions.map Session.entry ⊆ enrolled.sessions.map Session.entry := by
      refine List.map_subset Session.entry ?_
      exact List.subset_append_left opened.sessions _
    have showing : Sends enrolled shown :=
      (sends_observeCurrent enrolled uri).trans (sends_runAndPublish _ opened.nextSession _)
    obtain ⟨late, grown, told⟩ := showing.said
    refine ⟨late ++ early, ?_, ?_⟩
    · rw [grown, List.append_assoc, ← heard]
      rfl
    · intro batch member
      rcases List.mem_append.mp member with fresh | earlier
      · exact told batch fresh
      · exact ((said batch earlier).later stay).later showing.remain
  refine attach_branches ?failed shown shown
  case failed =>
    intro opened failure result
    rw [result] at opens
    exact opens.said

/-- What is heard when a session ends is said by the others. -/
theorem said_detach (number : Nat) :
    ∃ fresh, (workspace.detach number).sent = fresh ++ workspace.sent ∧
      ∀ batch ∈ fresh, (workspace.detach number).Speaks batch := by
  refine detach_branches (Sends.refl workspace).said ?_
  intro session _
  let without : Workspace φ :=
    { workspace.coordinate (·.disconnect session.uri session.client) with
      sessions := workspace.sessions.filter (·.number ≠ number) }
  have closing : Sends without (without.close session.uri session.client).1 :=
    (undrawn_adopt without .within _).toSends
  exact closing.said

/-- By every move what is sent is put in front of what was sent before, all of which is
still there unless it is collected, and it is said by sessions that are there after the
move. -/
theorem said_act [Files.Store φ] (move : Move φ) :
    ∃ fresh kept, (workspace.act move).sent = fresh ++ kept ∧
      (kept = workspace.sent ∨ move = .collect) ∧
      ∀ batch ∈ fresh, (workspace.act move).Speaks batch := by
  have kept {after : Workspace φ} (said : ∃ fresh, after.sent = fresh ++ workspace.sent ∧
      ∀ batch ∈ fresh, after.Speaks batch) :
      ∃ fresh kept, after.sent = fresh ++ kept ∧ (kept = workspace.sent ∨ move = .collect) ∧
        ∀ batch ∈ fresh, after.Speaks batch := by
    obtain ⟨fresh, grown, said⟩ := said
    exact ⟨fresh, workspace.sent, grown, .inl rfl, said⟩
  have silent : Sends workspace workspace := .refl workspace
  cases move with
  | openFor | save | close | rebuild | reload =>
    exact kept (undrawn_adopt workspace .within _).said
  | update clock => exact kept (undrawn_adopt workspace clock _).said
  | refile | connect | disconnect | beginResolution | hangUp => exact kept ⟨[], rfl, nofun⟩
  | observe uri => exact kept (sends_observeCurrent workspace uri).said
  | attach uri client => exact kept (said_attach workspace uri client)
  | detach number => exact kept (said_detach workspace number)
  | sync number direction => exact kept (undrawn_run workspace number direction).said
  | syncAndSend number direction => exact kept (sends_runAndPublish workspace number direction).said
  | resolve number side => exact kept (sends_resolve workspace number side).said
  | submitPatch number patch =>
    have submitted : Sends workspace (workspace.act (.submitPatch number patch)) :=
      ask_branches (motive := Sends workspace) silent
        fun session _ => sends_submitPatch workspace session patch
    exact kept submitted.said
  | submitText number text =>
    have submitted : Sends workspace (workspace.act (.submitText number text)) :=
      ask_branches (motive := Sends workspace) silent
        fun session _ => sends_commit workspace session text
    exact kept submitted.said
  | work position => exact kept (sends_workAt workspace position).said
  | wait time => exact kept (sends_waitFor workspace time).said
  | collect => exact ⟨[], [], rfl, .inr rfl, nofun⟩

end Workspace

end Flowdesk
