import Flowdesk.Proofs.Workspace.Guests
import Flowdesk.Proofs.Workspace.Quiet

/-!
# Conflicts that are settled for the text

Where the settings prefer the text, every session that hears of a conflict plans to resolve
it, the author's own included, and each of these resolutions sets the conflicts of the
document aside once more. They agree all the same, whatever else is carried out in between,
because none of them writes: each shows its session the document as it stands.

The law is that each session on the document either has its resolution still before it or
shows the document, and that a conflict is active only while some resolution is still to
come. What else may be carried out is said by a relation between before and after: it
brings no session on the document further from it. Only a replay of the model of a session
could, and a conflict leads to none.
-/

namespace Flowdesk

open Data Sync Workflow

namespace Session

/-- Whether a session shows a draft: its text, at its version. -/
def Shows (session : Session) (draft : Draft) : Prop :=
  session.view.revision.map (·.version) = some draft.version ∧ session.view.text = draft.text

/-- A session shows the draft that it has just seen. -/
theorem shows_see (session : Session) (draft : Draft) (now : UInt64) :
    (session.see draft now).Shows draft := ⟨rfl, rfl⟩

/-- Whether a session is one that was there before, and has not moved away from a draft: it
has the view that it had or shows the draft, and awaits no other call than it did. -/
structure Nears (draft : Draft) (earlier session : Session) : Prop where
  view : session.view = earlier.view ∨ session.Shows draft
  awaits : ∀ call, session.Awaits call → earlier.Awaits call
  delay : session.debouncer.delay = earlier.debouncer.delay

theorem Nears.refl (draft : Draft) (session : Session) : Nears draft session session :=
  ⟨.inl rfl, fun _ awaited => awaited, rfl⟩

/-- A session that shows the draft shows it after a step that nears it. -/
theorem Nears.shows {draft : Draft} {earlier session : Session}
    (nears : Nears draft earlier session)
    (shows : earlier.Shows draft) : session.Shows draft := by
  rcases nears.view with same | shown
  · unfold Shows
    rw [same]
    exact shows
  · exact shown

/-- Steps that near a session to the draft do so one after the other. -/
theorem Nears.trans {draft : Draft} {first second third : Session}
    (early : Nears draft first second)
    (late : Nears draft second third) : Nears draft first third where
  view := by
    rcases late.view with same | shown
    · rcases early.view with before | shown
      · exact .inl (same.trans before)
      · refine .inr ?_
        unfold Shows
        rw [same]
        exact shown
    · exact .inr shown
  awaits call awaited := early.awaits call (late.awaits call awaited)
  delay := late.delay.trans early.delay

end Session

namespace Workspace

variable {φ : Type} {uri : String} {draft : Draft}

/-- What brings no session on a document further from a draft of it: the sessions stay near
it, no conflict is raised, and what becomes ready concerns sessions elsewhere. -/
structure Furthers (uri : String) (draft : Draft) (before after : Workspace φ) : Prop where
  sessions : ∃ change : Session → Session, after.sessions = before.sessions.map change ∧
    (∀ session, Continues session (change session)) ∧
    ∀ session ∈ before.sessions, session.uri = uri → Session.Nears draft session (change session)
  conflict : after.coordinator.hasConflict uri = true → before.coordinator.hasConflict uri = true
  ready : ∃ fresh, after.agenda.ready = before.agenda.ready ++ fresh ∧
    ∀ task ∈ fresh, ∀ session ∈ before.sessions, session.number = taskSession task →
      session.uri ≠ uri

section Furthers

variable {workspace before between after : Workspace φ}

/-- What furthers the settlement twice furthers it. -/
theorem Furthers.trans (early : Furthers uri draft before between)
    (late : Furthers uri draft between after) : Furthers uri draft before after where
  sessions := by
    obtain ⟨first, was, continues, near⟩ := early.sessions
    obtain ⟨second, is, continued, nearer⟩ := late.sessions
    refine ⟨second ∘ first, ?_, fun session => (continues session).trans (continued _), ?_⟩
    · rw [is, was, List.map_map]
    · intro session present on
      have still : first session ∈ between.sessions := was ▸ List.mem_map_of_mem present
      have about : (first session).uri = uri := (continues session).uri.symm.trans on
      exact (near session present on).trans (nearer _ still about)
  conflict raised := early.conflict (late.conflict raised)
  ready := by
    obtain ⟨first, was, continues, _⟩ := early.sessions
    obtain ⟨fresh, grown, elsewhere⟩ := early.ready
    obtain ⟨later, grew, apart⟩ := late.ready
    refine ⟨fresh ++ later, by rw [grew, grown, List.append_assoc], ?_⟩
    intro task listed session present named
    rcases List.mem_append.mp listed with earlier | new
    · exact elsewhere task earlier session present named
    · have still : first session ∈ between.sessions := was ▸ List.mem_map_of_mem present
      rw [(continues session).uri]
      exact apart task new _ still ((continues session).number.symm.trans named)

/-- A change of sessions one by one that leaves the agenda alone. -/
theorem furthers_of {change : Session → Session}
    (sessions : after.sessions = before.sessions.map change)
    (continues : ∀ session, Continues session (change session))
    (near : ∀ session ∈ before.sessions, session.uri = uri →
      Session.Nears draft session (change session))
    (conflict : after.coordinator.hasConflict uri = before.coordinator.hasConflict uri)
    (ready : after.agenda.ready = before.agenda.ready) : Furthers uri draft before after where
  sessions := ⟨change, sessions, continues, near⟩
  conflict raised := conflict ▸ raised
  ready := ⟨[], by rw [ready, List.append_nil], fun _ listed => nomatch listed⟩

/-- What leaves the sessions, their conflicts and the ready tasks alone. -/
theorem furthers_of_same (sessions : after.sessions = before.sessions)
    (conflict : after.coordinator.hasConflict uri = before.coordinator.hasConflict uri)
    (ready : after.agenda.ready = before.agenda.ready) : Furthers uri draft before after :=
  furthers_of (sessions.trans (List.map_id _).symm) Continues.refl
    (fun session _ _ => .refl draft session) conflict ready

theorem Furthers.refl (workspace : Workspace φ) : Furthers uri draft workspace workspace :=
  furthers_of_same rfl rfl rfl

/-- A sync that shows a session its document, if this is the draft or another document. -/
theorem With.furthers (numbered : before.Numbered) {session : Session}
    (present : session ∈ before.sessions) {shown : Draft} {now : UInt64}
    (fits : session.uri = uri → shown = draft)
    (shows : before.With (seeing before.sessions session shown now) after) :
    Furthers uri draft before after := by
  have sessions := shows.sessions
  rw [← seeing_eq numbered present] at sessions
  refine furthers_of sessions ?_ ?_ (shows.conflicts uri) (congrArg Agenda.ready shows.agenda)
  · intro other
    split <;> exact ⟨rfl, rfl, rfl⟩
  · intro other member on
    split
    · next same =>
      cases numbered.unique present member same
      cases fits on
      exact ⟨.inr (Session.shows_see session draft now), fun _ awaited => awaited, rfl⟩
    · exact .refl draft other

/-- A replay elsewhere, and what sessions elsewhere do about it. -/
theorem Overwritten.furthers {session : Session} {next : Draft} {react : Session → Reaction}
    (overwritten : before.Overwritten session next react after) (numbered : before.Numbered)
    (present : session ∈ before.sessions) (elsewhere : session.uri ≠ uri) :
    Furthers uri draft before after where
  sessions := by
    refine ⟨_, overwritten.sessions, continues_overwritten _ _ _, ?_⟩
    intro other member on
    have rests : react other = .rest :=
      overwritten.unconcerned other fun same => elsewhere (same.symm.trans on)
    have apart : other.number ≠ session.number := by
      intro same
      cases numbered.unique present member same
      exact elsewhere on
    rw [if_neg apart, rests]
    exact .refl draft other
  conflict raised := (overwritten.elsewhere uri elsewhere) ▸ raised
  ready := by
    refine ⟨_, congrArg Agenda.ready overwritten.agenda, ?_⟩
    intro task listed other member named on
    obtain ⟨listener, there, tasks⟩ := List.mem_flatMap.mp listed
    have planned : taskSession task = listener.number := by
      cases reacts : react listener with
      | rest =>
        rw [reacts] at tasks
        exact nomatch tasks
      | sync | resolve =>
        rw [reacts] at tasks
        cases List.mem_singleton.mp tasks
        rfl
    cases numbered.unique there member (named.trans planned)
    have rests : react other = .rest :=
      overwritten.unconcerned other fun same => elsewhere (same.symm.trans on)
    rw [rests] at tasks
    exact nomatch tasks

variable {session : Session}

/-- A sync of a session, unless it replays a session on the document. -/
theorem furthers_run (orderly : workspace.Orderly) (idle : workspace.Idle)
    (opened : workspace.registry.draft? uri = some draft)
    (found : workspace.session? session.number = some session) {direction : Direction}
    (harmless : session.uri = uri → direction = .semanticToGraph) :
    Furthers uri draft workspace (workspace.runAndPublish session.number direction).1 := by
  obtain ⟨present, _⟩ := of_session? found
  have fits : ∀ shown, workspace.registry.draft? session.uri = some shown →
      session.uri = uri → shown = draft := by
    rintro shown stands rfl
    exact Option.some.inj (stands.symm.trans opened)
  rcases runAndPublish_cases orderly idle found direction with
    failed | ⟨shown, stands, shows | ⟨react, overwritten⟩⟩
  · exact furthers_of_same failed.sessions (failed.conflicts uri)
      (congrArg Agenda.ready failed.agenda)
  · exact shows.furthers orderly.numbered present (fits shown stands)
  · by_cases on : session.uri = uri
    · cases harmless on
      cases calm : workspace.coordinator.hasConflict session.uri with
      | true =>
        have failed := refresh_fails idle found (.inl calm)
        exact furthers_of_same failed.sessions (failed.conflicts uri)
          (congrArg Agenda.ready failed.agenda)
      | false =>
        exact (refresh_shows orderly idle found stands calm).furthers orderly.numbered present
          (fits shown stands)
    · exact overwritten.furthers orderly.numbered present on

/-- A call that is taken out of the debouncer takes nothing from what the session shows. -/
theorem furthers_unwait (numbered : workspace.Numbered) (present : session ∈ workspace.sessions) :
    Furthers uri draft workspace (workspace.unwait session) := by
  refine furthers_of rfl ?_ ?_ rfl rfl
  · intro other
    split <;> exact ⟨rfl, rfl, rfl⟩
  · intro other member _
    split
    · next same =>
      cases numbered.unique present member same
      refine ⟨.inl rfl, ?_, rfl⟩
      intro call awaited
      exact nomatch session.latest_unwaiting.symm.trans awaited
    · exact .refl draft other

/-- The end of a wait, unless it replays a session on the document. -/
theorem furthers_endWait (orderly : workspace.Orderly) (idle : workspace.Idle)
    (opened : workspace.registry.draft? uri = some draft)
    (found : workspace.session? session.number = some session) {call : Nat} {direction : Direction}
    (harmless : session.uri = uri → session.Awaits call → direction = .semanticToGraph) :
    Furthers uri draft workspace (workspace.endWait session call direction) := by
  obtain ⟨present, _⟩ := of_session? found
  by_cases awaited : session.Awaits call
  · rw [endWait_of_awaits workspace direction awaited]
    have still : (workspace.unwait session).session? session.unwaiting.number =
        some session.unwaiting := session?_unwait orderly present
    have synced : Furthers uri draft (workspace.unwait session)
        ((workspace.unwait session).runAndPublish session.number direction).1 :=
      furthers_run (orderly_unwait orderly session) idle opened still fun on => harmless on awaited
    exact (furthers_unwait orderly.numbered present).trans synced
  · rw [endWait_of_not_awaits workspace direction awaited]
    exact .refl workspace

theorem furthers_planTick (workspace : Workspace φ) (number : Nat) :
    Furthers uri draft workspace (workspace.planTick number) :=
  planTick_branches (.refl workspace) fun _ => furthers_of_same rfl rfl rfl

/-- A tick refreshes its session at most, which shows it the draft. -/
theorem furthers_tick (orderly : workspace.Orderly) (idle : workspace.Idle)
    (opened : workspace.registry.draft? uri = some draft)
    (found : workspace.session? session.number = some session) :
    Furthers uri draft workspace (workspace.tick session) :=
  tick_branches (furthers_planTick workspace session.number) fun _ =>
    (furthers_run orderly idle opened found fun _ => rfl).trans (furthers_planTick _ _)

/-- A resolution elsewhere. -/
theorem furthers_resolve (orderly : workspace.Orderly) (idle : workspace.Idle)
    (opened : workspace.registry.draft? uri = some draft)
    (found : workspace.session? session.number = some session) (elsewhere : session.uri ≠ uri)
    (side : Side) : Furthers uri draft workspace (workspace.resolve session.number side).1 := by
  refine resolve_branches (.refl workspace) ?_
  intro other accepted known _
  cases found.symm.trans known
  have aside : Furthers uri draft workspace
      (workspace.coordinate (·.beginResolution session.uri accepted)) := by
    refine furthers_of_same rfl ?_ rfl
    apply Coordinator.hasConflict_congr
    simp [coordinate, elsewhere]
  exact aside.trans (furthers_run (orderly_beginResolution orderly session.uri accepted)
    (idle_beginResolution idle session.uri accepted) opened found fun on => absurd on elsewhere)

/-- **The law of a task** that neither resolves a conflict on the document for the text nor
replays a session on it. -/
theorem furthers_performFor (orderly : workspace.Orderly) (idle : workspace.Idle)
    (opened : workspace.registry.draft? uri = some draft) {task : Task}
    (found : workspace.session? (taskSession task) = some session)
    (other : session.uri = uri → task ≠ .resolve session.number .semantic)
    (harmless : ∀ replayed, Task.replays? workspace task = some replayed → replayed.uri ≠ uri) :
    Furthers uri draft workspace (workspace.performFor session task) := by
  obtain ⟨_, named⟩ := of_session? found
  have known : workspace.session? session.number = some session := named ▸ found
  cases task with
  | beginWait number call direction =>
    simp only [performFor]
    split
    · next immediate =>
      apply furthers_endWait orderly idle opened known
      intro on awaited
      cases direction with
      | semanticToGraph => rfl
      | graphToSemantic =>
        refine absurd on (harmless session ?_)
        exact Option.filter_eq_some_iff.mpr ⟨found, decide_eq_true ⟨immediate, awaited⟩⟩
    · exact furthers_of_same rfl rfl rfl
  | endWait number call direction =>
    apply furthers_endWait orderly idle opened known
    intro on awaited
    cases direction with
    | semanticToGraph => rfl
    | graphToSemantic =>
      refine absurd on (harmless session ?_)
      exact Option.filter_eq_some_iff.mpr ⟨found, decide_eq_true awaited⟩
  | beginTicks number => exact furthers_planTick workspace number
  | tick number => exact furthers_tick orderly idle opened known
  | resolve number side =>
    cases named
    refine furthers_resolve orderly idle opened known ?_ side
    intro on
    cases side with
    | semantic => exact other on rfl
    | graph => exact harmless session found on

end Furthers

/-- Whether no ready task replays a session on a document. -/
def Unreplayed (workspace : Workspace φ) (uri : String) : Prop :=
  ∀ task ∈ workspace.agenda.ready, ∀ session, Task.replays? workspace task = some session →
    session.uri ≠ uri

/-- A session that has a resolution for the text before it. -/
structure Resolving (workspace : Workspace φ) (uri : String) (session : Session) : Prop where
  present : session ∈ workspace.sessions
  about : session.uri = uri
  ready : .resolve session.number .semantic ∈ workspace.agenda.ready

/-- A document whose conflicts are being settled for its text. -/
structure Settling (uri : String) (draft : Draft) (workspace : Workspace φ) : Prop where
  orderly : workspace.Orderly
  idle : workspace.Idle
  opened : workspace.registry.draft? uri = some draft
  unreplayed : workspace.Unreplayed uri
  shown : ∀ session ∈ workspace.sessions, session.uri = uri →
    workspace.Resolving uri session ∨ session.Shows draft
  calm : workspace.coordinator.hasConflict uri = true → ∃ session, workspace.Resolving uri session

section Settling

variable {workspace before after : Workspace φ} {session : Session}

/-- Which sessions tasks replay depends on the sessions alone. -/
theorem replays?_congr (sessions : after.sessions = before.sessions) (task : Task) :
    Task.replays? after task = Task.replays? before task := by
  have found : ∀ number, after.session? number = before.session? number := by
    intro number
    rw [session?, sessions, session?]
  unfold Task.replays?
  simp only [found]

/-- A task that replays a session afterwards was one that replayed it before. -/
theorem Furthers.replays (furthers : Furthers uri draft before after) {task : Task}
    {current : Session} (replays : Task.replays? after task = some current)
    (about : current.uri = uri) :
    ∃ earlier, Task.replays? before task = some earlier ∧ earlier.uri = uri := by
  obtain ⟨change, sessions, continues, near⟩ := furthers.sessions
  have back : ∀ number (law : Session → Bool), ((after.session? number).filter law) = some current →
      (∀ earlier, earlier ∈ before.sessions → earlier.uri = uri →
        law (change earlier) = true → law earlier = true) →
      ∃ earlier, ((before.session? number).filter law) = some earlier ∧ earlier.uri = uri := by
    intro number law found keeps
    obtain ⟨found, holds⟩ := Option.filter_eq_some_iff.mp found
    rw [session?_map sessions continues] at found
    obtain ⟨earlier, was, rfl⟩ := Option.map_eq_some_iff.mp found
    have on : earlier.uri = uri := (continues earlier).uri.trans about
    exact ⟨earlier, Option.filter_eq_some_iff.mpr ⟨was, keeps earlier (of_session? was).1 on holds⟩,
      on⟩
  cases task with
  | beginWait number call direction =>
    cases direction with
    | semanticToGraph => exact nomatch replays
    | graphToSemantic =>
      refine back number _ replays fun earlier present on holds => ?_
      obtain ⟨immediate, awaited⟩ := of_decide_eq_true holds
      have nears := near earlier present on
      exact decide_eq_true ⟨nears.delay.symm.trans immediate, nears.awaits call awaited⟩
  | endWait number call direction =>
    cases direction with
    | semanticToGraph => exact nomatch replays
    | graphToSemantic =>
      refine back number _ replays fun earlier present on holds => ?_
      exact decide_eq_true ((near earlier present on).awaits call (of_decide_eq_true holds))
  | beginTicks | tick => exact nomatch replays
  | resolve number side =>
    cases side with
    | semantic => exact nomatch replays
    | graph =>
      change after.session? number = some current at replays
      rw [session?_map sessions continues] at replays
      obtain ⟨earlier, was, rfl⟩ := Option.map_eq_some_iff.mp replays
      exact ⟨earlier, was, (continues earlier).uri.trans about⟩

/-- No replay comes up on the way. -/
theorem Furthers.unreplayed (furthers : Furthers uri draft before after)
    (unreplayed : before.Unreplayed uri) : after.Unreplayed uri := by
  intro task ready current replays about
  obtain ⟨earlier, replayed, on⟩ := furthers.replays replays about
  obtain ⟨fresh, grown, elsewhere⟩ := furthers.ready
  rw [grown] at ready
  rcases List.mem_append.mp ready with before | new
  · exact unreplayed task before earlier replayed on
  · obtain ⟨present, named⟩ := of_session? (session?_of_replays replayed)
    exact elsewhere task new earlier present named on

/-- A resolution that is planned stays so until it is carried out. -/
theorem Furthers.resolving (furthers : Furthers uri draft before after)
    {change : Session → Session} (sessions : after.sessions = before.sessions.map change)
    (continues : ∀ session, Continues session (change session))
    (resolving : before.Resolving uri session) : after.Resolving uri (change session) := by
  obtain ⟨fresh, grown, _⟩ := furthers.ready
  refine ⟨?_, (continues session).uri ▸ resolving.about, ?_⟩
  · rw [sessions]
    exact List.mem_map_of_mem resolving.present
  · rw [grown, ← (continues session).number]
    exact List.mem_append_left fresh resolving.ready

/-- What brings no session further from a document does not keep it from being settled. -/
theorem Settling.furthers (settling : Settling uri draft before)
    (furthers : Furthers uri draft before after) (orderly : after.Orderly) (idle : after.Idle)
    (opened : after.registry.draft? uri = some draft) : Settling uri draft after where
  orderly := orderly
  idle := idle
  opened := opened
  unreplayed := furthers.unreplayed settling.unreplayed
  shown := by
    obtain ⟨change, sessions, continues, near⟩ := furthers.sessions
    intro current member about
    rw [sessions] at member
    obtain ⟨earlier, present, rfl⟩ := List.mem_map.mp member
    have on : earlier.uri = uri := (continues earlier).uri.trans about
    rcases settling.shown earlier present on with resolving | shows
    · exact .inl (furthers.resolving sessions continues resolving)
    · exact .inr ((near earlier present on).shows shows)
  calm := by
    obtain ⟨change, sessions, continues, _⟩ := furthers.sessions
    intro conflict
    obtain ⟨session, resolving⟩ := settling.calm (furthers.conflict conflict)
    exact ⟨change session, furthers.resolving sessions continues resolving⟩

/-- A task that is taken off the agenda is ready no longer, and that is all. -/
theorem unreplayed_without (unreplayed : workspace.Unreplayed uri) (position : Nat) :
    (workspace.without position).Unreplayed uri :=
  fun task ready session replays =>
    unreplayed task (List.mem_of_mem_eraseIdx ready) session replays

/-- Another task than a resolution for the text may be taken off the agenda. -/
theorem Settling.without (settling : Settling uri draft workspace) {position : Nat} {task : Task}
    (ready : workspace.agenda.ready[position]? = some task)
    (other : ∀ session ∈ workspace.sessions, session.uri = uri →
      task ≠ .resolve session.number .semantic) :
    Settling uri draft (workspace.without position) := by
  have still : ∀ session, workspace.Resolving uri session →
      (workspace.without position).Resolving uri session := by
    intro session resolving
    have different := other session resolving.present resolving.about
    exact ⟨resolving.present, resolving.about, ready_without ready different resolving.ready⟩
  constructor
  · exact orderly_without settling.orderly position
  · exact settling.idle
  · exact settling.opened
  · exact unreplayed_without settling.unreplayed position
  · intro session present on
    exact (settling.shown session present on).imp_left (still session)
  · intro conflict
    obtain ⟨session, resolving⟩ := settling.calm conflict
    exact ⟨session, still session resolving⟩

theorem orderly_workAt (orderly : workspace.Orderly) (position : Nat) :
    (workspace.workAt position).Orderly := by
  have happens : Happens (fun _ => True) workspace (workspace.workAt position) :=
    workAt_happens orderly position fun _ _ _ _ => trivial
  exact happens.orderly orderly

/-- A resolution for the text sets the conflicts aside and shows its session the document.
It plans nothing. -/
theorem Settling.resolve (settling : Settling uri draft workspace) {position : Nat}
    (ready : workspace.agenda.ready[position]? = some (.resolve session.number .semantic))
    (present : session ∈ workspace.sessions) (on : session.uri = uri) :
    Settling uri draft (workspace.workAt position) ∧
      (workspace.workAt position).agenda = (workspace.without position).agenda := by
  cases on
  let accepted := (workspace.without position).current? session.uri
  let aside : Workspace φ :=
    (workspace.without position).coordinate (·.beginResolution session.uri accepted)
  have found := settling.orderly.numbered.session?_eq present
  have resolves : workspace.workAt position =
      (aside.runAndPublish session.number .semanticToGraph).1 := by
    have known : (workspace.without position).session? session.number = some session := found
    rw [workAt_eq ready found]
    simp only [performFor, Workspace.resolve, known]
    rfl
  have orderly : aside.Orderly :=
    orderly_beginResolution (orderly_without settling.orderly position) session.uri accepted
  have idle : aside.Idle := idle_beginResolution settling.idle session.uri accepted
  have calm : aside.coordinator.hasConflict session.uri = false := by
    simp [aside, coordinate, Coordinator.hasConflict, Coordinator.status, Course.beginResolution,
      Status.hasConflicts]
  have shows := refresh_shows orderly idle found settling.opened calm
  have furthers : Furthers session.uri draft aside
      (aside.runAndPublish session.number .semanticToGraph).1 :=
    shows.furthers orderly.numbered present fun _ => rfl
  have settled := orderly_workAt settling.orderly position
  have free := idle_workAt settling.orderly settling.idle position
  rw [resolves] at settled free ⊢
  refine ⟨⟨settled, free, ?_, ?_, ?_, ?_⟩, shows.agenda⟩
  · rw [shows.registry]
    exact settling.opened
  · have unreplayed : aside.Unreplayed session.uri :=
      unreplayed_without settling.unreplayed position
    exact furthers.unreplayed unreplayed
  · intro current member about
    rw [shows.sessions] at member
    obtain ⟨earlier, was, rfl⟩ := List.mem_map.mp member
    -- the session of the task shows the document now; the resolutions of others stay ready
    by_cases same : earlier.number = session.number
    · right
      rw [if_pos same]
      exact Session.shows_see session draft _
    · rw [if_neg same] at about ⊢
      rcases settling.shown earlier was about with resolving | shown
      · left
        refine ⟨shows.sessions ▸ List.mem_map.mpr ⟨earlier, was, if_neg same⟩, about, ?_⟩
        rw [shows.agenda]
        refine ready_without ready ?_ resolving.ready
        intro clash
        exact same (Task.resolve.inj clash).1.symm
      · exact .inr shown
  · intro conflict
    rw [shows.conflicts, calm] at conflict
    cases conflict

/-- The document stands as it is whatever ready task is carried out. -/
theorem Settling.opened_workAt (settling : Settling uri draft workspace) (position : Nat) :
    (workspace.workAt position).registry.draft? uri = some draft := by
  rw [draft?_workAt settling.orderly settling.idle position uri]
  cases replays : workspace.agenda.ready[position]?.bind (Task.replays? workspace) with
  | none => exact settling.opened
  | some session =>
    obtain ⟨task, ready, replayed⟩ := Option.bind_eq_some_iff.mp replays
    have elsewhere := settling.unreplayed task (List.mem_of_getElem? ready) session replayed
    simp only [Workspace.replayed, if_neg elsewhere]
    exact settling.opened

/-- Whatever ready task is carried out, the document goes on being settled. -/
theorem Settling.workAt (settling : Settling uri draft workspace) (position : Nat) :
    Settling uri draft (workspace.workAt position) := by
  have numbered := settling.orderly.numbered
  cases ready : workspace.agenda.ready[position]? with
  | none =>
    rw [workAt_none ready]
    exact settling
  | some task =>
    cases found : workspace.session? (taskSession task) with
    | none =>
      rw [workAt_gone ready found]
      refine settling.without ready ?_
      rintro session present _ rfl
      exact nomatch found.symm.trans (numbered.session?_eq present)
    | some session =>
      obtain ⟨present, _⟩ := of_session? found
      by_cases resolves : session.uri = uri ∧ task = .resolve session.number .semantic
      · obtain ⟨on, rfl⟩ := resolves
        exact (settling.resolve ready present on).1
      · have left : Settling uri draft (workspace.without position) := by
          refine settling.without ready ?_
          rintro other member on rfl
          cases found.symm.trans (numbered.session?_eq member)
          exact resolves ⟨on, rfl⟩
        have furthers : Furthers uri draft (workspace.without position)
            ((workspace.without position).performFor session task) := by
          refine furthers_performFor left.orderly left.idle left.opened found ?_ ?_
          · exact fun on same => resolves ⟨on, same⟩
          · intro replayed replays
            exact settling.unreplayed task (List.mem_of_getElem? ready) replayed replays
        rw [← workAt_eq ready found] at furthers
        exact left.furthers furthers (orderly_workAt settling.orderly position)
          (idle_workAt settling.orderly settling.idle position) (settling.opened_workAt position)

/-- So it does when a session is refreshed besides. -/
theorem Settling.refresh (settling : Settling uri draft workspace) (number : Nat) :
    Settling uri draft (workspace.runAndPublish number .semanticToGraph).1 := by
  cases found : workspace.session? number with
  | none =>
    have nothing : (workspace.runAndPublish number .semanticToGraph).1 = workspace := by
      simp only [runAndPublish, run, publishBy, found]
    rw [nothing]
    exact settling
  | some session =>
    obtain ⟨_, rfl⟩ := of_session? found
    have furthers : Furthers uri draft workspace
        (workspace.runAndPublish session.number .semanticToGraph).1 :=
      furthers_run settling.orderly settling.idle settling.opened found fun _ => rfl
    have happens : Happens (fun _ => True) workspace
        (workspace.runAndPublish session.number .semanticToGraph).1 :=
      runAndPublish_happens settling.orderly session.number .semanticToGraph
    refine settling.furthers furthers (happens.orderly settling.orderly) ?_ ?_
    · exact idle_runAndPublish settling.orderly settling.idle session.number .semanticToGraph
    · rw [registry_runAndPublish]
      exact settling.opened

/-- Whether no resolution of a session on a document is ready any longer. -/
def Resolved (workspace : Workspace φ) (uri : String) : Prop :=
  ∀ session ∈ workspace.sessions, session.uri = uri →
    .resolve session.number .semantic ∉ workspace.agenda.ready

/-- Once the resolutions have been carried out, the document is settled. -/
theorem Settling.settled (settling : Settling uri draft workspace)
    (resolved : workspace.Resolved uri) :
    workspace.coordinator.hasConflict uri = false ∧
      ∀ session ∈ workspace.sessions, session.uri = uri → session.Shows draft := by
  constructor
  · rw [Bool.eq_false_iff]
    intro conflict
    obtain ⟨session, resolving⟩ := settling.calm conflict
    exact resolved session resolving.present resolving.about resolving.ready
  · intro session present on
    rcases settling.shown session present on with resolving | shows
    · exact absurd resolving.ready (resolved session present on)
    · exact shows

end Settling

/-- A text that a document is given is heard of by all sessions. -/
theorem update_done {workspace : Workspace φ} (orderly : workspace.Orderly) {clock : Clock}
    {claimed : UInt64} {text client : String} {revision : Revision}
    (done : (workspace.update clock uri claimed text client).2 = .ok revision) :
    ∃ (draft : Draft) (registry : Registry φ), registry.draft? uri = some draft ∧
      draft.text = text ∧ draft.version = revision.version ∧
      Heard clock ⟨Build.of uri text, client, .changed, revision⟩ { workspace with registry }
        (workspace.update clock uri claimed text client).1 := by
  change (workspace.registry.update uri claimed text client workspace.timestamp).result =
    .ok revision at done
  cases opened : workspace.registry.draft? uri with
  | none =>
    simp only [Registry.update, opened] at done
    cases done
  | some before =>
    cases revised : before.revise claimed text client workspace.timestamp with
    | none =>
      simp only [Registry.update, opened, Registry.revise, revised] at done
      cases done
    | some change =>
      obtain ⟨draft, moment⟩ := change
      obtain ⟨_, shape, tells⟩ := Draft.revise_eq_some revised
      obtain ⟨registry, _, reached, _, result, heard⟩ :=
        update_revised orderly clock opened revised
      cases done.symm.trans result
      refine ⟨draft, registry, reached, ?_, ?_, heard⟩
      · rw [shape]
      · rw [shape, tells]

/-- Where the settings prefer the text, the sessions that an update in conflict concerns
resolve for the text. -/
theorem reaction_of_conflict {workspace : Workspace φ} {update : Registry.Update}
    {conflict : Conflict} (remote : workspace.settings.resolution.preferred = some .semantic)
    (judged : (workspace.coordinator.observe update.build.uri update.revision).1 =
      .conflict conflict) (session : Session) :
    workspace.reaction .within update session =
      if concerns update session then .resolve .semantic else .rest := by
  simp only [reaction, judged, answer, remote, if_true]

/-- So all sessions stay as they are, and a resolution is planned for each that the update
concerns. -/
theorem heard_conflict {update : Registry.Update} {before after : Workspace φ} {conflict : Conflict}
    (remote : before.settings.resolution.preferred = some .semantic)
    (judged : (before.coordinator.observe update.build.uri update.revision).1 = .conflict conflict)
    (heard : Heard .within update before after) :
    after.sessions = before.sessions ∧
      ∀ task, task ∈ after.agenda.ready ↔ task ∈ before.agenda.ready ∨
        ∃ session ∈ before.sessions, concerns update session ∧
          task = .resolve session.number .semantic := by
  have reacts := reaction_of_conflict remote judged
  constructor
  · refine heard.sessions.trans ?_
    rw [List.append_nil]
    refine (List.map_congr_left fun session _ => ?_).trans (List.map_id before.sessions)
    rw [reacts session]
    split <;> rfl
  · intro task
    rw [heard.agenda, List.mem_append, List.mem_flatMap]
    refine or_congr_right (exists_congr fun session => and_congr_right fun _ => ?_)
    rw [reacts session]
    split
    · next on => simp only [Session.tasks, List.mem_singleton, on, true_and]
    · next elsewhere => simp only [Session.tasks, List.not_mem_nil, elsewhere, false_and]

/-- Where the settings prefer the text, a document is being settled from an update in
conflict on. -/
theorem settling_update {workspace : Workspace φ} (orderly : workspace.Orderly)
    (idle : workspace.Idle) (remote : workspace.settings.resolution.preferred = some .semantic)
    (calm : workspace.coordinator.hasConflict uri = false) (unreplayed : workspace.Unreplayed uri)
    {claimed : UInt64} {text client : String} {revision : Revision} {conflict : Conflict}
    (done : (workspace.update .within uri claimed text client).2 = .ok revision)
    (observed : (workspace.coordinator.observe uri revision).1 = .conflict conflict) :
    ∃ draft : Draft, draft.text = text ∧ draft.version = revision.version ∧
      Settling uri draft (workspace.update .within uri claimed text client).1 := by
  obtain ⟨draft, registry, opened, told, level, heard⟩ := update_done orderly done
  let update : Registry.Update := ⟨Build.of uri text, client, .changed, revision⟩
  let stored : Workspace φ := { workspace with registry }
  let updated : Workspace φ := (workspace.update .within uri claimed text client).1
  have about : update.build.uri = uri := Registry.uri_of uri text
  have concerned : ∀ session : Session, concerns update session ↔ session.uri = uri := by
    intro session
    simp [concerns, update]
  have judged : (stored.coordinator.observe update.build.uri update.revision).1 =
      .conflict conflict := about.symm ▸ observed
  have prefers : stored.settings.resolution.preferred = some .semantic := remote
  obtain ⟨sessions, ready⟩ := heard_conflict prefers judged heard
  have resolving : ∀ session ∈ workspace.sessions, session.uri = uri →
      updated.Resolving uri session := by
    intro session present on
    refine ⟨sessions ▸ present, on, (ready _).mpr (.inr ⟨session, present, ?_, rfl⟩)⟩
    exact (concerned session).mpr on
  refine ⟨draft, told, level, ?_, ?_, ?_, ?_, ?_, ?_⟩
  · have happens : Happens (fun _ => True) workspace updated :=
      (update_act orderly .within uri claimed text client).happens
    exact happens.orderly orderly
  · exact (sameSyncs_update orderly .within uri claimed text client).idle idle
  · rw [heard.registry]
    exact opened
  · intro task planned session replays
    rcases (ready task).mp planned with before | ⟨_, _, _, rfl⟩
    · exact unreplayed task before session (replays?_congr sessions task ▸ replays)
    · cases replays
  · intro session present on
    exact .inl (resolving session (sessions ▸ present) on)
  · intro raised
    -- the conflict is recorded by the sessions that hear of it, so without any there is none
    by_cases heardOf : ∃ session ∈ workspace.sessions, concerns update session
    · obtain ⟨session, present, concerns⟩ := heardOf
      exact ⟨session, resolving session present ((concerned session).mp concerns)⟩
    · have same : updated.coordinator = workspace.coordinator :=
        heard.coordinator.trans (if_neg heardOf)
      rw [same, calm] at raised
      cases raised

section Runs

variable [Files.Store φ]

/-- What may be done on the spot: a ready task is carried out, or a session is refreshed. -/
inductive Move.Immediate : Move φ → Prop where
  | work (position : Nat) : Immediate (.work position)
  | refresh (session : Nat) : Immediate (.syncAndSend session .semanticToGraph)

/-- The settlement goes on through any moves that are made at once. -/
theorem Settling.after {workspace : Workspace φ} (settling : Settling uri draft workspace)
    {moves : List (Move φ)} (immediate : ∀ move ∈ moves, move.Immediate) :
    Settling uri draft (workspace.after moves) := by
  induction moves generalizing workspace with
  | nil => exact settling
  | cons move moves inductionHypothesis =>
    have next : Settling uri draft (workspace.act move) := by
      cases immediate move List.mem_cons_self with
      | work position => exact settling.workAt position
      | refresh session => exact settling.refresh session
    exact inductionHypothesis next fun other member =>
      immediate other (List.mem_cons_of_mem _ member)

/-- Nobody comes or goes on the spot. -/
theorem guests_of_immediate {workspace : Workspace φ} (orderly : workspace.Orderly)
    {moves : List (Move φ)} (immediate : ∀ move ∈ moves, move.Immediate) :
    (workspace.after moves).guests = workspace.guests := by
  induction moves generalizing workspace with
  | nil => rfl
  | cons move moves inductionHypothesis =>
    have same : (workspace.act move).guests = workspace.guests := by
      cases immediate move List.mem_cons_self with
      | work position => exact guests_workAt orderly position
      | refresh session => exact guests_runAndPublish orderly session .semanticToGraph
    refine (inductionHypothesis (orderly_act orderly move) ?_).trans same
    exact fun other member => immediate other (List.mem_cons_of_mem _ member)

/-- The resolutions that are ready can all be carried out. -/
theorem Settling.resolves {workspace : Workspace φ} (settling : Settling uri draft workspace) :
    ∃ positions : List Nat, (workspace.after (positions.map .work)).Resolved uri := by
  -- on the number of ready tasks: a resolution is taken off and plans nothing
  induction left : workspace.agenda.ready.length generalizing workspace with
  | zero =>
    refine ⟨[], ?_⟩
    intro session _ _ (ready : _ ∈ workspace.agenda.ready)
    rw [List.length_eq_zero_iff.mp left] at ready
    exact nomatch ready
  | succ fewer inductionHypothesis =>
    by_cases resolved : workspace.Resolved uri
    · exact ⟨[], resolved⟩
    · simp only [Resolved, not_forall, not_not] at resolved
      obtain ⟨session, present, on, ready⟩ := resolved
      obtain ⟨position, bound, is⟩ := List.mem_iff_getElem.mp ready
      have taken := List.getElem?_eq_some_iff.mpr ⟨bound, is⟩
      obtain ⟨still, agenda⟩ := settling.resolve taken present on
      have shorter : (workspace.workAt position).agenda.ready.length = fewer := by
        rw [agenda]
        change (workspace.agenda.ready.eraseIdx position).length = fewer
        rw [List.length_eraseIdx_of_lt bound]
        omega
      obtain ⟨positions, rest⟩ := inductionHypothesis still shorter
      exact ⟨position :: positions, rest⟩

/-- **A conflict that is resolved for the text is settled for every session.** Take any
moves after which a document has no conflict and no replay of a session on it is ready. If
an update of it that is made within the desk's own clock is judged a conflict, then
whatever is carried out on the spot after it, in whatever order and with whatever else is
ready, the resolutions that the sessions planned can all be carried out; and once they
have been, no conflict is active, the document has the text and the version that the update
gave it, and every session on it shows these. The sessions are those that were there.

Proof: from the update on the document is being settled, and every task keeps it so. -/
theorem remote_conflict_settles (files : φ) (settings : Settings)
    (remote : settings.resolution = .useRemote) (earlier : List (Move φ)) (uri : String)
    (claimed : UInt64) (text client : String) (revision : Revision) (conflict : Conflict)
    (calm : ((create files settings).after earlier).coordinator.hasConflict uri = false)
    (unreplayed : ((create files settings).after earlier).Unreplayed uri)
    (done : (((create files settings).after earlier).update .within uri claimed text client).2 =
      .ok revision)
    (observed : (((create files settings).after earlier).coordinator.observe uri revision).1 =
      .conflict conflict)
    (later : List (Move φ)) (immediate : ∀ move ∈ later, move.Immediate) :
    let workspace := (create files settings).after earlier
    let now := (workspace.act (.update .within uri claimed text client)).after later
    (∃ positions : List Nat, (now.after (positions.map .work)).Resolved uri) ∧
    (now.Resolved uri →
      now.coordinator.hasConflict uri = false ∧
      now.sessions.map Session.entry = workspace.sessions.map Session.entry ∧
      ∃ draft : Draft, now.registry.draft? uri = some draft ∧ draft.text = text ∧
        draft.version = revision.version ∧
        ∀ session ∈ now.sessions, session.uri = uri → session.Shows draft) := by
  intro workspace now
  have orderly : workspace.Orderly := orderly_after (orderly_create files settings) earlier
  have idle : workspace.Idle :=
    idle_after (orderly_create files settings) (idle_create files settings) earlier
  have prefers : workspace.settings.resolution.preferred = some .semantic := by
    rw [settings_after (orderly_create files settings) earlier]
    change settings.resolution.preferred = _
    rw [remote]
    rfl
  obtain ⟨draft, told, level, begun⟩ :=
    settling_update orderly idle prefers calm unreplayed done observed
  have settling : Settling uri draft now := begun.after immediate
  refine ⟨settling.resolves, fun resolved => ?_⟩
  obtain ⟨settled, shown⟩ := settling.settled resolved
  have guests : now.guests = workspace.guests :=
    (guests_of_immediate begun.orderly immediate).trans
      (guests_update orderly .within uri claimed text client)
  exact ⟨settled, congrArg Guests.entries guests, draft, settling.opened, told, level, shown⟩

end Runs

/-- A desk without ticks, where nothing waits for a document to be left alone. -/
def prompt : Settings := { Settings.usual with autoSyncEnabled := false, debounceDelay := 0 }

/-- A document that two sessions show. -/
def twoGuests : List (Move Files.Memory) :=
  [.openFor ⟨"file:///a.wf", "t1", none, some 1, some (smallFlow "first")⟩,
    .attach "file:///a.wf" "g1", .attach "file:///a.wf" "g2"]

/-- Two sessions hear of a conflict, and the one that heard of it last resolves it first. -/
theorem two_guests_settle :
    let workspace := (create Files.Memory.empty prompt).after twoGuests
    let updated :=
      workspace.act (.update .within "file:///a.wf" 1 (smallFlow "second") "t1")
    let now := updated.after [.work 1, .work 0]
    updated.coordinator.hasConflict "file:///a.wf" = true ∧
      now.coordinator.hasConflict "file:///a.wf" = false ∧
      now.sessions.map Session.entry = [(0, "file:///a.wf", "g1"), (1, "file:///a.wf", "g2")] ∧
      ∃ draft, now.registry.draft? "file:///a.wf" = some draft ∧
        draft.text = smallFlow "second" ∧
        ∀ session ∈ now.sessions, session.uri = "file:///a.wf" → session.Shows draft := by
  have begins :
      let workspace := (create Files.Memory.empty prompt).after twoGuests
      let update := workspace.update .within "file:///a.wf" 1 (smallFlow "second") "t1"
      (workspace.coordinator.hasConflict "file:///a.wf", workspace.agenda.ready,
        workspace.sessions.map Session.entry,
        update.2.toOption.map fun revision =>
          match (workspace.coordinator.observe "file:///a.wf" revision).1 with
          | .conflict _ => true
          | _ => false) =
      (false, [], [(0, "file:///a.wf", "g1"), (1, "file:///a.wf", "g2")], some true) := by
    decide +kernel
  have ends :
      let workspace := (create Files.Memory.empty prompt).after twoGuests
      let updated :=
        workspace.act (.update .within "file:///a.wf" 1 (smallFlow "second") "t1")
      (updated.coordinator.hasConflict "file:///a.wf",
        (updated.after [.work 1, .work 0]).agenda.ready) = (true, []) := by
    decide +kernel
  have law := remote_conflict_settles Files.Memory.empty prompt rfl twoGuests "file:///a.wf" 1
    (smallFlow "second") "t1"
  generalize (create Files.Memory.empty prompt).after twoGuests = workspace at begins ends law ⊢
  simp only [Prod.mk.injEq, Option.map_eq_some_iff] at begins ends
  obtain ⟨calm, rests, entries, revision, done, judged⟩ := begins
  obtain ⟨raised, carriedOut⟩ := ends
  have accepted : (workspace.update .within "file:///a.wf" 1 (smallFlow "second") "t1").2 =
      .ok revision := by
    cases result : (workspace.update .within "file:///a.wf" 1 (smallFlow "second") "t1").2 with
    | error failure =>
      rw [result] at done
      exact nomatch done
    | ok other =>
      rw [result] at done
      cases done
      rfl
  cases observed : (workspace.coordinator.observe "file:///a.wf" revision).1 with
  | inSync | advanced | keepLocal =>
    rw [observed] at judged
    exact nomatch judged
  | conflict conflict =>
    have unreplayed : workspace.Unreplayed "file:///a.wf" := by
      intro task ready
      rw [rests] at ready
      exact nomatch ready
    obtain ⟨_, settles⟩ := law revision conflict calm unreplayed accepted observed
      [.work 1, .work 0] (by simp [Move.Immediate.work])
    have resolved : ((workspace.act (.update .within "file:///a.wf" 1 (smallFlow "second")
        "t1")).after [.work 1, .work 0]).Resolved "file:///a.wf" := by
      intro session _ _ ready
      rw [carriedOut] at ready
      exact nomatch ready
    obtain ⟨settled, same, draft, opened, told, _, shown⟩ := settles resolved
    exact ⟨raised, settled, same.trans entries, draft, opened, told, shown⟩

/-- A document that one session shows, of which an older text came in that is about to be
overwritten. -/
def overtaken : List (Move Files.Memory) :=
  [.openFor ⟨"file:///a.wf", "t1", none, some 1, some (smallFlow "first")⟩,
    .attach "file:///a.wf" "g1",
    .update .within "file:///a.wf" 0 (smallFlow "second") "t1"]

/-- A conflict is not settled where nothing can be planned, because the update comes from
outside the desk's own clock; nor where a replay is ready already, which then writes over
the text that came in. -/
theorem remote_conflict_unsettled :
    prompt.resolution = .useRemote ∧
    (let workspace := (create Files.Memory.empty prompt).after twoGuests
      let now := workspace.act (.update .without "file:///a.wf" 1 (smallFlow "second") "t1")
      workspace.coordinator.hasConflict "file:///a.wf" = false ∧
        workspace.coordinator.syncing "file:///a.wf" = false ∧
        now.agenda.ready = [] ∧ now.coordinator.hasConflict "file:///a.wf" = true ∧
        (now.session? 0).map (·.view.text) = some (smallFlow "first")) ∧
    let workspace := (create Files.Memory.empty prompt).after overtaken
    let updated :=
      workspace.act (.update .within "file:///a.wf" 1 (smallFlow "third") "t1")
    let now := updated.after [.work 0, .work 0]
    workspace.coordinator.hasConflict "file:///a.wf" = false ∧
      workspace.coordinator.syncing "file:///a.wf" = false ∧
      updated.coordinator.hasConflict "file:///a.wf" = true ∧ now.agenda.ready = [] ∧
      (updated.registry.draft? "file:///a.wf").map (·.text) = some (smallFlow "third") ∧
      (now.registry.draft? "file:///a.wf").map (·.text) = some (smallFlow "first") := by
  refine ⟨rfl, ?_, ?_⟩
  · decide +kernel
  · decide +kernel

end Workspace

end Flowdesk
