import Flowdesk.Proofs.Workspace.Standoff

/-!
# What a conflict withholds from sessions

While a conflict on a document stands, its text is carried into no model. A refresh is
refused before anything is shown, and that is the only way in which the text of others
could come into a model. A session that replays its own model is shown the document all
the same, but as that document then has the text of the model, the session gets back what
it wrote.
-/

namespace Flowdesk.Workspace

open Data Sync Workflow

variable {φ α : Type}

/-- Whether a model is an earlier one, as it was or as its own text is read. -/
inductive Own (earlier : Option Document) : Option Document → Prop where
  | kept : Own earlier earlier
  | reread (model document : Document) (was : earlier = some model)
      (read : Document.parse model.write = .ok document) : Own earlier (some document)

/-- Whether the model of every session on a document comes from its own earlier one in
some way. A new session has no model. -/
structure Models (comes : Option Document → Option Document → Prop) (uri : String)
    (before after : Workspace φ) : Prop where
  grown : before.nextSession ≤ after.nextSession
  own : ∀ session ∈ after.sessions, session.uri = uri →
    (∃ earlier ∈ before.sessions, Continues earlier session ∧
      comes earlier.view.root session.view.root) ∨
    before.nextSession ≤ session.number ∧ session.view.root = none

/-- Whether all sessions on a document keep their models. -/
abbrev Keeps (uri : String) : Workspace φ → Workspace φ → Prop := Models Eq uri

/-- Whether the models of all sessions on a document stay their own. -/
abbrev Withholds (uri : String) : Workspace φ → Workspace φ → Prop := Models Own uri

section Models

variable {uri : String} {before between after : Workspace φ}

/-- Where models come from in two stretches composes, if nothing comes from no model in the second
one. -/
theorem Models.trans {early late comes : Option Document → Option Document → Prop}
    (first : Models early uri before between)
    (compose : ∀ first middle last, early first middle → late middle last → comes first last)
    (blank : ∀ last, late none last → last = none) (rest : Models late uri between after) :
    Models comes uri before after := by
  refine ⟨Nat.le_trans first.grown rest.grown, ?_⟩
  intro session member here
  rcases rest.own session member here with ⟨middle, present, continues, shown⟩ | ⟨fresh, none⟩
  · rcases first.own middle present (continues.uri.trans here) with
      ⟨earlier, was, continued, model⟩ | ⟨fresh, none⟩
    · exact .inl ⟨earlier, was, continued.trans continues, compose _ _ _ model shown⟩
    · rw [none] at shown
      exact .inr ⟨continues.number ▸ fresh, blank _ shown⟩
  · exact .inr ⟨Nat.le_trans first.grown fresh, none⟩

/-- Models that are kept and kept again. -/
theorem Models.again (first : Keeps uri before between) (rest : Keeps uri between after) :
    Keeps uri before after :=
  first.trans (fun _ _ _ same again => same.trans again) (fun _ same => same.symm) rest

/-- Models that are kept are their own. -/
theorem Models.withholds (keeps : Keeps uri before after) : Withholds uri before after := by
  refine ⟨keeps.grown, fun session member here => (keeps.own session member here).imp_left ?_⟩
  rintro ⟨earlier, was, continues, same⟩
  exact ⟨earlier, was, continues, same ▸ .kept⟩

/-- Models that are kept at first are their own if they are so afterwards. -/
theorem Models.first (first : Keeps uri before between) (rest : Withholds uri between after) :
    Withholds uri before after := by
  refine first.trans ?_ ?_ rest
  · rintro _ _ _ rfl own
    exact own
  · intro last own
    cases own with
    | kept => rfl
    | reread _ _ was _ => exact nomatch was

/-- Models that are their own are so as long as they are kept. -/
theorem Models.last (first : Withholds uri before between) (rest : Keeps uri between after) :
    Withholds uri before after := by
  refine first.trans ?_ (fun _ same => same.symm) rest
  rintro _ _ _ own rfl
  exact own

/-- What leaves the sessions alone keeps their models. -/
theorem keeps_of_sessions (sessions : after.sessions = before.sessions)
    (nextSession : after.nextSession = before.nextSession) : Keeps uri before after :=
  ⟨Nat.le_of_eq nextSession.symm, fun session member _ =>
    .inl ⟨session, sessions ▸ member, .refl session, rfl⟩⟩

/-- What is not done keeps all models. -/
theorem keeps_refl (workspace : Workspace φ) : Keeps uri workspace workspace :=
  keeps_of_sessions rfl rfl

/-- Workspaces that differ in what was sent have the same models. -/
theorem Alike.keeps (alike : Alike before after) : Keeps uri before after :=
  keeps_of_sessions alike.sessions alike.nextSession

/-- Hearing of an operation makes no difference to models. -/
theorem adopt_keeps {workspace : Workspace φ} (numbered : workspace.Numbered) (clock : Clock)
    {changed : String} {leaver : Option String} {outcome : Registry.Outcome φ α}
    (turns : outcome.Turns workspace.registry changed leaver) :
    Keeps uri workspace (workspace.adopt clock outcome).1 := by
  obtain ⟨_, nextSession, respond, sessions⟩ := adopt_frame numbered clock turns.once
  refine ⟨Nat.le_of_eq nextSession.symm, ?_⟩
  intro session member _
  rw [sessions] at member
  obtain ⟨earlier, present, rfl⟩ := List.mem_map.mp member
  obtain ⟨continues, view⟩ := continues_respond earlier (respond earlier)
  exact .inl ⟨earlier, present, continues, congrArg View.root view.symm⟩

/-- An update of a document is heard, and shown to nobody yet. -/
theorem update_keeps {workspace : Workspace φ} (orderly : workspace.Orderly) (clock : Clock)
    (changed : String) (claimed : UInt64) (text client : String) :
    Keeps uri workspace (workspace.update clock changed claimed text client).1 :=
  adopt_keeps orderly.numbered clock
    (Registry.update_turns orderly.sound changed claimed text client workspace.timestamp)

/-- A session on another document that is shown something. -/
theorem display_keeps {workspace : Workspace φ} (orderly : workspace.Orderly) {session : Session}
    (present : session ∈ workspace.sessions) (elsewhere : session.uri ≠ uri) (build : Build)
    (draft : Draft) : Keeps uri workspace (workspace.display session build draft).1 := by
  refine ⟨Nat.le_refl _, ?_⟩
  intro other member here
  obtain ⟨earlier, was, ⟨shows, rfl⟩ | ⟨_, rfl⟩⟩ := of_mem_changeSession member
  · cases orderly.numbered.unique present was shows
    exact absurd here elsewhere
  · exact .inl ⟨other, was, .refl other, rfl⟩

/-- A change of sessions that concerns no view. -/
theorem changeSession_keeps (workspace : Workspace φ) (number : Nat)
    (debouncer : Debouncer String) :
    Keeps uri workspace (workspace.changeSession number ({ · with debouncer })) := by
  refine ⟨Nat.le_refl _, ?_⟩
  intro session member _
  obtain ⟨earlier, was, ⟨_, rfl⟩ | ⟨_, rfl⟩⟩ := of_mem_changeSession member
  · exact .inl ⟨earlier, was, ⟨rfl, rfl, rfl⟩, rfl⟩
  · exact .inl ⟨session, was, .refl session, rfl⟩

end Models

/-- The licences by which no conflict on a document can be lost. -/
def Harmless (uri : String) (licence : Licence) : Prop :=
  licence ≠ .settle uri ∧ ∀ client, licence ≠ .link uri client

/-- Whether a conflict on a document stands in an orderly workspace. -/
structure Standing (uri : String) (workspace : Workspace φ) : Prop where
  orderly : workspace.Orderly
  conflicted : workspace.coordinator.hasConflict uri = true

section Standing

variable {uri : String} {stage : Stage} {before after workspace : Workspace φ}

/-- A conflict stands while it is neither set aside nor left by its clients. -/
theorem Act.standing (act : Act (Harmless uri) stage before after)
    (standing : Standing uri before) : Standing uri after where
  orderly := act.orderly standing.orderly
  conflicted := act.hasConflict (fun client allowed => allowed.2 client rfl)
    (fun allowed => allowed.1 rfl) standing.orderly standing.conflicted

/-- So it does along several acts. -/
theorem Acts.standing (acts : Acts (Harmless uri) stage before after)
    (standing : Standing uri before) : Standing uri after :=
  acts.keep (fun _ _ holds act => act.standing holds) standing

/-- A document in conflict is shown to nobody. -/
theorem refresh_keeps (standing : Standing uri workspace) {session : Session}
    (present : session ∈ workspace.sessions) :
    Keeps uri workspace (workspace.refresh session).1 := by
  refine refresh_branches (keeps_refl workspace) ?_
  intro draft build calm _ _
  have elsewhere : session.uri ≠ uri := by
    rintro rfl
    exact nomatch standing.conflicted.symm.trans calm
  exact display_keeps standing.orderly present elsewhere build draft

/-- A model that was put in a document is the text of the document. -/
theorem text_of_putText (orderly : workspace.Orderly) {session : Session} {text : String}
    {draft : Draft} (put : workspace.putText session text = (after, .ok ()))
    (found : after.registry.draft? session.uri = some draft) : draft.text = text := by
  unfold putText at put
  split at put
  · exact nomatch put
  · next earlier opened =>
    split at put
    · next written =>
      cases put
      cases opened.symm.trans found
      exact written
    · by_cases last : earlier.version = Draft.lastVersion
      · rw [update_last opened last] at put
        exact nomatch put
      · obtain ⟨registry, _, reached, _, _, _, _, heard⟩ :=
          update_next orderly opened last text session.client
        have same : (workspace.update .within session.uri earlier.nextVersion text
            session.client).1 = after := congrArg Prod.fst put
        rw [← same, heard.registry] at found
        cases reached.symm.trans found
        rfl

/-- A view that is shown the text of its own model. -/
theorem own_update {view : View} {model : Document} (shown : view.root = some model)
    (about : String) (revision : Revision) (text : String) :
    Own view.root (view.update (Build.of about model.write) revision text).root := by
  unfold View.update Build.of
  split
  · next document read => exact .reread model document shown read
  · exact .kept

/-- A replay shows its session what it wrote, and other sessions nothing.

Proof: the session is shown the build of the document, which in an orderly registry is that of
its text. The text was put there by the session, so the view is given what is read of its own
model. Sessions that heard of the new text meanwhile have planned to look at it and have not
looked yet. -/
theorem writeBack_withholds (orderly : workspace.Orderly) {session : Session}
    (present : session ∈ workspace.sessions) :
    Withholds uri workspace (workspace.writeBack session).1 := by
  have stored : ∀ text, Keeps uri workspace (workspace.putText session text).1 := fun text =>
    putText_branches (keeps_refl workspace) fun draft _ _ => update_keeps orderly _ _ _ text _
  refine writeBack_branches (fun _ => (keeps_refl workspace).withholds)
    (fun root _ => (stored root.write).withholds) ?_
  intro model written draft build shown result found built
  have keeps := stored model.write
  have cases : ((workspace.putText session model.write).1 = workspace ∨
      Act (fun _ => False) .write workspace (workspace.putText session model.write).1) ∧
        ∃ reaction, session.respond reaction ∈
          (workspace.putText session model.write).1.sessions :=
    putText_cases orderly present model.write
  obtain ⟨put, reaction, still⟩ := cases
  have settled : (workspace.putText session model.write).1.Orderly := by
    rcases put with same | write
    · exact same.symm ▸ orderly
    · exact write.orderly orderly
  have text : draft.text = model.write := text_of_putText orderly result found
  rw [result] at keeps still settled
  rw [Registry.build?, settled.sound.built, found, Option.map_some, Option.map_some,
    Option.some.injEq, text] at built
  subst built
  refine ⟨keeps.grown, ?_⟩
  intro other member here
  obtain ⟨earlier, was, ⟨shows, rfl⟩ | ⟨_, rfl⟩⟩ := of_mem_changeSession member
  · have itself : earlier = session.respond reaction :=
      settled.numbered.unique still was (shows.trans (number_respond session reaction).symm)
    refine .inl ⟨session, present, ?_, own_update shown _ _ _⟩
    obtain ⟨continues, _⟩ := continues_respond session reaction
    rw [← itself] at continues
    exact ⟨continues.number, continues.uri, continues.client⟩
  · refine (keeps.own other was here).imp_left ?_
    rintro ⟨first, first', continues, same⟩
    exact ⟨first, first', continues, same ▸ .kept⟩

/-- A run that refreshes a session is of another document, or it is refused. -/
theorem run_refresh_keeps (standing : Standing uri workspace) (number : Nat) :
    Keeps uri workspace (workspace.run number .semanticToGraph).1 := by
  refine run_branches (keeps_refl workspace) ?_
  rintro session coordinator _ _ found free rfl
  have begun : Act (Harmless uri) .tell workspace { workspace with coordinator } :=
    .started .tell workspace session.uri coordinator free
  have carried : Keeps uri { workspace with coordinator }
      (({ workspace with coordinator } : Workspace φ).refresh session).1 :=
    refresh_keeps (begun.standing standing) (of_session? found).1
  have taken : Keeps uri workspace { workspace with coordinator } := keeps_of_sessions rfl rfl
  exact (taken.again carried).again (keeps_of_sessions rfl rfl)

/-- A run in either direction leaves each model a session's own. -/
theorem run_withholds (standing : Standing uri workspace) (number : Nat) (direction : Direction) :
    Withholds uri workspace (workspace.run number direction).1 := by
  cases direction with
  | semanticToGraph => exact (run_refresh_keeps standing number).withholds
  | graphToSemantic =>
    refine run_branches (keeps_refl workspace).withholds ?_
    rintro session coordinator _ _ found free rfl
    have begun : Act (Harmless uri) .ready workspace { workspace with coordinator } :=
      .started .ready workspace session.uri coordinator free
    have carried : Withholds uri { workspace with coordinator }
        (({ workspace with coordinator } : Workspace φ).writeBack session).1 :=
      writeBack_withholds (begun.orderly standing.orderly) (of_session? found).1
    have taken : Keeps uri workspace { workspace with coordinator } := keeps_of_sessions rfl rfl
    exact (taken.first carried).last (keeps_of_sessions rfl rfl)

/-- What is sent after a refresh changes no model. -/
theorem runAndPublish_refresh_keeps (standing : Standing uri workspace) (number : Nat) :
    Keeps uri workspace (workspace.runAndPublish number .semanticToGraph).1 :=
  (run_refresh_keeps standing number).again (runAndPublish_alike workspace number _).keeps

/-- Nor does what is sent after a run in either direction. -/
theorem runAndPublish_withholds (standing : Standing uri workspace) (number : Nat)
    (direction : Direction) :
    Withholds uri workspace (workspace.runAndPublish number direction).1 :=
  (run_withholds standing number direction).last (runAndPublish_alike workspace number _).keeps

/-- Conflicts on other documents are resolved. -/
theorem resolve_withholds (standing : Standing uri workspace) (number : Nat) (side : Side)
    (elsewhere : ∀ session, workspace.session? number = some session → session.uri ≠ uri) :
    Withholds uri workspace (workspace.resolve number side).1 := by
  refine resolve_branches (keeps_refl workspace).withholds ?_
  intro session accepted found _
  have setAside : Standing uri
      (workspace.coordinate (·.beginResolution session.uri accepted)) := by
    refine ⟨orderly_beginResolution standing.orderly session.uri accepted, ?_⟩
    have course : (workspace.coordinator.beginResolution session.uri accepted).course uri =
        workspace.coordinator.course uri := by
      rw [Coordinator.course_beginResolution, if_neg (elsewhere session found)]
    simp only [coordinate, Coordinator.hasConflict, Coordinator.status, course]
    exact standing.conflicted
  have before : Keeps uri workspace
      (workspace.coordinate (·.beginResolution session.uri accepted)) :=
    keeps_of_sessions rfl rfl
  exact before.first (runAndPublish_withholds setAside number _)

/-- A commit refreshes its session, which is refused if the document is the one in conflict. -/
theorem commit_keeps (standing : Standing uri workspace) (session : Session) (text : String) :
    Keeps uri workspace (workspace.commit session text).1 := by
  have keeps : ∀ draft : Draft, Keeps uri workspace
      (workspace.update .within session.uri draft.nextVersion text session.client).1 :=
    fun draft => update_keeps standing.orderly _ _ _ _ _
  refine commit_branches (keeps_refl workspace) (fun draft _ _ => keeps draft) ?_
  intro draft _ _
  have updated : Act (Harmless uri) .write workspace
      (workspace.update .within session.uri draft.nextVersion text session.client).1 :=
    update_act standing.orderly _ _ _ _ _
  exact (keeps draft).again
    (runAndPublish_refresh_keeps (updated.standing standing) session.number)

/-- A graphical edit is committed, or refused before. -/
theorem submitPatch_keeps (standing : Standing uri workspace) (session : Session) (patch : Patch) :
    Keeps uri workspace (workspace.submitPatch session patch).1 :=
  submitPatch_branches (keeps_refl workspace) fun _ _ _ _ _ _ => commit_keeps standing session _

/-- A tick is only planned. -/
theorem planTick_keeps (workspace : Workspace φ) (number : Nat) :
    Keeps uri workspace (workspace.planTick number) :=
  planTick_branches (keeps_refl workspace) fun _ => keeps_of_sessions rfl rfl

/-- A tick refreshes its session at most. -/
theorem tick_keeps (standing : Standing uri workspace) (session : Session) :
    Keeps uri workspace (workspace.tick session) :=
  tick_branches (planTick_keeps workspace _) fun _ =>
    (runAndPublish_refresh_keeps standing session.number).again (planTick_keeps _ _)

/-- The end of a wait runs the sync that was waited for, a replay or a refresh. -/
theorem endWait_withholds (standing : Standing uri workspace) {session : Session}
    (present : session ∈ workspace.sessions) (call : Nat) (direction : Direction) :
    Withholds uri workspace (workspace.endWait session call direction) := by
  refine endWait_branches (keeps_refl workspace).withholds ?_
  intro debouncer due
  have begun : Act (Harmless uri) .ready workspace
      (workspace.changeSession session.number ({ · with debouncer })) :=
    .expired .ready workspace session call debouncer present due
  exact (changeSession_keeps workspace session.number debouncer).first
    (runAndPublish_withholds (begun.standing standing) _ _)

/-- A ready task that does not resolve the conflict. -/
theorem workAt_withholds (standing : Standing uri workspace) (position : Nat)
    (unsettled : ¬(Move.work position).uses workspace (.settle uri)) :
    Withholds uri workspace (workspace.workAt position) := by
  have taken : Act (Harmless uri) .ready workspace (workspace.without position) :=
    .taken .ready workspace position
  have left : Standing uri (workspace.without position) := taken.standing standing
  have before : Keeps uri workspace (workspace.without position) := keeps_of_sessions rfl rfl
  refine workAt_branches (keeps_refl workspace).withholds ?_
  intro task ready
  refine before.first ?_
  refine perform_branches ?gone ?begun ?ended ?ticksBegun ?ticked ?resolved
  case gone => exact fun _ => (keeps_refl _).withholds
  case begun => exact fun _ _ _ _ _ _ _ => Models.withholds (keeps_of_sessions rfl rfl)
  case ended => exact fun _ _ _ _ found _ => endWait_withholds left (of_session? found).1 _ _
  case ticksBegun => exact fun _ _ _ _ => (planTick_keeps _ _).withholds
  case ticked => exact fun session _ _ _ => (tick_keeps left session).withholds
  case resolved =>
    rintro _ number side _ rfl
    refine resolve_withholds left number side ?_
    rintro resolving is rfl
    exact unsettled ⟨_, ready, resolving, is, rfl⟩

/-- A revision is judged by the coordinator, which holds no models. -/
theorem observeCurrent_keeps (workspace : Workspace φ) (other : String) :
    Keeps uri workspace (workspace.observeCurrent other) :=
  observeCurrent_branches (keeps_refl workspace) fun _ _ => keeps_of_sessions rfl rfl

/-- Whoever begins a session on a document in conflict is shown nothing. -/
theorem attach_keeps [Files.Store φ] (standing : Standing uri workspace) (other client : String) :
    Keeps uri workspace (workspace.attach other client).1 := by
  let opening : Registry.Opening := ⟨other, client, none, none, none⟩
  have turns := Registry.openFor_turns standing.orderly.sound opening workspace.timestamp
  have opens : Act (Harmless uri) .write workspace (workspace.openFor opening).1 :=
    openFor_act standing.orderly opening
  have keeps : Keeps uri workspace (workspace.openFor opening).1 :=
    adopt_keeps standing.orderly.numbered .within turns
  have shown : ∀ opened, workspace.openFor opening = (opened, .ok ()) →
      Keeps uri workspace (((opened.enrol other client).observeCurrent other).runAndPublish
        opened.nextSession .semanticToGraph).1 := by
    intro opened result
    rw [result] at keeps opens
    have still : Standing uri opened := opens.standing standing
    have enrolled : Standing uri (opened.enrol other client) := by
      refine ⟨still.orderly.enrol other client, ?_⟩
      change (((opened.coordinator.connect other client .graphical).course uri).status).hasConflicts
        = true
      rw [Status.hasConflicts, (Coordinator.connect_same _ other client .graphical uri).2.1]
      exact still.conflicted
    have begun : Keeps uri opened (opened.enrol other client) := by
      refine ⟨Nat.le_succ _, ?_⟩
      intro session member _
      rcases List.mem_append.mp member with old | new
      · exact .inl ⟨session, old, .refl session, rfl⟩
      · rw [List.mem_singleton.mp new]
        exact .inr ⟨Nat.le_refl _, rfl⟩
    exact ((keeps.again begun).again (observeCurrent_keeps _ other)).again
      (runAndPublish_refresh_keeps ((observeCurrent_acts _ other).standing enrolled) _)
  refine attach_branches ?failed shown ?ticksBegun
  case failed =>
    intro opened failure result
    rw [result] at keeps
    exact keeps
  case ticksBegun =>
    exact fun opened result => (shown opened result).again (keeps_of_sessions rfl rfl)

/-- A session that ends takes its model along, and the others keep theirs. -/
theorem detach_keeps (orderly : workspace.Orderly) (number : Nat) :
    Keeps uri workspace (workspace.detach number) := by
  refine detach_branches (keeps_refl workspace) ?_
  intro session found
  have ended : Keeps uri workspace
      { workspace.coordinate (·.disconnect session.uri session.client) with
        sessions := workspace.sessions.filter (·.number ≠ number) } :=
    ⟨Nat.le_refl _, fun other member _ =>
      .inl ⟨other, List.mem_of_mem_filter member, .refl other, rfl⟩⟩
  refine ended.again (adopt_keeps ?_ .within
    (Registry.close_turns orderly.sound session.uri session.client workspace.timestamp))
  exact ⟨orderly.numbered.distinct.sublist (List.filter_sublist.map _),
    fun other member => orderly.numbered.below other (List.mem_of_mem_filter member)⟩

/-- No move but a resolution carries the text of a document in conflict into a model.

Proof: by cases on the move. Moves on the registry are only heard of. Every move that runs a
sync either refreshes a session, which the conflict refuses if the session is on the document,
or replays one, which gives that session its own model back. -/
theorem act_withholds [Files.Store φ] (standing : Standing uri workspace) (move : Move φ)
    (unsettled : ¬move.uses workspace (.settle uri)) :
    Withholds uri workspace (workspace.act move) := by
  have numbered := standing.orderly.numbered
  have sound := standing.orderly.sound
  cases move with
  | openFor opening =>
    exact (adopt_keeps numbered _ (Registry.openFor_turns sound opening _)).withholds
  | update clock other claimed text client =>
    exact (update_keeps standing.orderly clock other claimed text client).withholds
  | save other text client =>
    exact (adopt_keeps numbered _ (Registry.save_turns sound other text client _)).withholds
  | close other client =>
    exact (adopt_keeps numbered _ (Registry.close_turns sound other client _)).withholds
  | rebuild other client =>
    exact (adopt_keeps numbered _ (Registry.rebuild_turns sound other client _)).withholds
  | reload other => exact (adopt_keeps numbered _ (Registry.reload_turns sound other _)).withholds
  | refile | connect | disconnect | beginResolution | collect | hangUp =>
    exact Models.withholds (keeps_of_sessions rfl rfl)
  | observe other => exact (observeCurrent_keeps workspace other).withholds
  | attach other client => exact (attach_keeps standing other client).withholds
  | detach number => exact (detach_keeps standing.orderly number).withholds
  | sync number direction => exact run_withholds standing number direction
  | syncAndSend number direction => exact runAndPublish_withholds standing number direction
  | resolve number side =>
    refine resolve_withholds standing number side ?_
    rintro session found rfl
    exact unsettled ⟨session, found, rfl⟩
  | submitPatch number patch =>
    exact ask_branches (motive := Withholds uri workspace) (keeps_refl workspace).withholds
      fun session _ => (submitPatch_keeps standing session patch).withholds
  | submitText number text =>
    exact ask_branches (motive := Withholds uri workspace) (keeps_refl workspace).withholds
      fun session _ => (commit_keeps standing session text).withholds
  | work position => exact workAt_withholds standing position unsettled
  | wait time =>
    exact waitFor_branches (motive := Withholds uri workspace) (keeps_refl workspace).withholds
      fun _ => Models.withholds (keeps_of_sessions rfl rfl)

end Standing

/-- The coordinator in which the sync of a document waits for its conflicts. -/
def deferred (coordinator : Coordinator) (uri : String) : Coordinator :=
  coordinator.setCourse uri { coordinator.course uri with
    status := { coordinator.status uri with phase := .conflict } }

/-- All but the phase of the sync is as it was. -/
theorem status_deferred (coordinator : Coordinator) (uri : String) :
    (deferred coordinator uri).status uri = { coordinator.status uri with phase := .conflict } := by
  rw [Coordinator.status, deferred, Coordinator.course_setCourse, if_pos rfl]

/-- A refresh of a document in conflict is put off: but for the phase of its sync nothing
changes, and nothing comes of it. -/
theorem run_of_conflict {workspace : Workspace φ} (idle : workspace.Idle) {number : Nat}
    {session : Session} (found : workspace.session? number = some session)
    (conflicted : workspace.coordinator.hasConflict session.uri = true) :
    workspace.run number .semanticToGraph =
      ({ workspace with coordinator := deferred workspace.coordinator session.uri }, []) := by
  have free : (workspace.coordinator.course session.uri).inFlight = false := idle session.uri
  obtain ⟨coordinator, started⟩ := Coordinator.start?_of_free (idle session.uri)
  have still : coordinator.hasConflict session.uri = true := by
    rw [Coordinator.hasConflict, Coordinator.status, Status.hasConflicts,
      (Coordinator.start?_same started session.uri).2.1]
    exact conflicted
  unfold run
  rw [found]
  simp only [started, attempt, refresh, still, if_true]
  unfold Coordinator.start? Course.start? at started
  rw [free] at started
  cases started
  simp only [coordinate, Ending.of, Coordinator.finish, Course.finish, Coordinator.course_setCourse,
    if_true, Coordinator.setCourse_setCourse, deferred, Coordinator.status, free]
  rfl

section Runs

variable [Files.Store φ]

/-- While a conflict on a document stands, no move but its resolution gives a session on the
document another model than the session's own, as it was or as its own text is read. A
refresh of such a session changes nothing but that it waits for the conflict, and shows
nothing.

Proof: what holds of every move of an orderly workspace holds at the end of any moves. No sync
is under way between two moves, so the refresh of the session is started, and the conflict
ends it before anything is read. -/
theorem conflict_withholds_text (files : φ) (settings : Settings) (moves : List (Move φ))
    (uri : String) :
    let workspace := (create files settings).after moves
    workspace.coordinator.hasConflict uri = true →
      (∀ move : Move φ, ¬move.uses workspace (.settle uri) →
        Withholds uri workspace (workspace.act move)) ∧
      ∀ number session, workspace.session? number = some session → session.uri = uri →
        workspace.run number .semanticToGraph =
          ({ workspace with coordinator := deferred workspace.coordinator uri }, []) ∧
        (deferred workspace.coordinator uri).status uri =
          { workspace.coordinator.status uri with phase := .conflict } := by
  intro workspace conflicted
  have orderly : workspace.Orderly := orderly_after (orderly_create files settings) moves
  have idle : workspace.Idle :=
    idle_after (orderly_create files settings) (idle_create files settings) moves
  refine ⟨fun move unsettled => act_withholds ⟨orderly, conflicted⟩ move unsettled, ?_⟩
  rintro number session found rfl
  exact ⟨run_of_conflict idle found conflicted, status_deferred _ _⟩

end Runs

/-- A session that writes its model over a text it has a conflict with keeps that model,
and it is refused the text. -/
theorem conflict_withholds_second_text :
    let workspace := ((create Files.Memory.empty byHand).after conflicting)
    workspace.coordinator.hasConflict "file:///a.wf" = true ∧
      Withholds "file:///a.wf" workspace (workspace.act (.sync 0 .graphToSemantic)) ∧
      ∃ session, workspace.session? 0 = some session ∧
        workspace.run 0 .semanticToGraph = ({ workspace with
          coordinator := deferred workspace.coordinator "file:///a.wf" }, []) := by
  have run :
      let workspace := (create Files.Memory.empty byHand).after conflicting
      (workspace.coordinator.hasConflict "file:///a.wf",
        (workspace.session? 0).map (·.uri)) = (true, some "file:///a.wf") := by
    decide +kernel
  simp only [Prod.mk.injEq, Option.map_eq_some_iff] at run
  obtain ⟨conflicted, session, found, about⟩ := run
  obtain ⟨withholds, refused⟩ :=
    conflict_withholds_text Files.Memory.empty byHand conflicting "file:///a.wf" conflicted
  exact ⟨conflicted, withholds (.sync 0 .graphToSemantic) id, session, found,
    (refused 0 session found about).1⟩

end Flowdesk.Workspace
