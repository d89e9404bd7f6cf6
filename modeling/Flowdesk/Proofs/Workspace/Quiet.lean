import Flowdesk.Proofs.Workspace.Awaiting

/-!
# Quiet times

While nothing is asked of a desk, only time goes by and planned tasks are carried out, in
any order but without delay. What one such step can do to a document without a conflict,
and to the sessions on it, is said here once: it leaves them and what they await as they
are; or it shows the document to one session; or it ends a replay that cannot write; or a
replay overwrites the document, and the sessions of other clients await a refresh from
then on.
-/

namespace Flowdesk

open Data Sync Workflow

namespace Workspace

variable {φ : Type} {uri : String}

/-- Whether a document is open for all sessions on it. -/
def Housed (workspace : Workspace φ) (uri : String) : Prop :=
  ∀ session ∈ workspace.sessions, session.uri = uri →
    ∃ draft, workspace.registry.draft? uri = some draft

/-- While nobody leaves a document, it stays open for all sessions on it. -/
theorem Act.housed {may : Licence → Prop} {stage : Stage} {before after : Workspace φ}
    (act : Act may stage before after) (keeps : ∀ client, ¬may (.hold uri client))
    (orderly : before.Orderly) (housed : before.Housed uri) : after.Housed uri := by
  have stays : ∀ draft, before.registry.draft? uri = some draft →
      ∃ next, after.registry.draft? uri = some next := by
    intro draft opened
    obtain ⟨client, member⟩ := Registry.exists_mem (orderly.sound.held uri draft opened)
    obtain ⟨next, reached, _⟩ := act.holds orderly (keeps client) opened member
    exact ⟨next, reached⟩
  intro session member about
  rcases act.sessions orderly member with
    ⟨earlier, present, continues, _⟩ | ⟨_, _, _, draft, opened, _⟩
  · obtain ⟨draft, opened⟩ := housed earlier present (continues.uri.trans about)
    exact stays draft opened
  · exact stays draft (about ▸ opened)

theorem housed_after [Files.Store φ] {workspace : Workspace φ} (orderly : workspace.Orderly)
    (housed : workspace.Housed uri) {moves : List (Move φ)}
    (stay : NobodyLeaves uri workspace moves) : (workspace.after moves).Housed uri := by
  refine stay.keep orderly (·.Housed uri) ?_ housed
  intro workspace move settled stays still
  refine (act_happens settled move).keep_orderly settled (·.Housed uri) ?_ still
  intro stage before after inOrder held act
  exact act.housed (fun client => (stays client).1) inOrder held

/-- Whether a document and the sessions on it are as they are between moves, with no
resolution of its conflicts planned. -/
structure Steady (uri : String) (workspace : Workspace φ) : Prop where
  orderly : workspace.Orderly
  idle : workspace.Idle
  punctual : workspace.Punctual
  abreast : workspace.Abreast uri
  housed : workspace.Housed uri
  unresolved : ∀ session, workspace.session? session.number = some session → session.uri = uri →
    ∀ side, ¬workspace.Planned (.resolve session.number side)

/-- A move by which nothing is asked of a desk: a ready task is carried out, or time goes
by until something that waits is due. -/
def Quietly (workspace : Workspace φ) : Move φ → Prop
  | .work _ => True
  | .wait time => workspace.agenda.ready = [] ∧
      ∀ due task, (due, task) ∈ workspace.agenda.waiting → time ≤ due
  | _ => False

section Sparing

variable {workspace : Workspace φ} {session : Session}

/-- A sync of a session touches the sessions on its document. -/
theorem sparing_run (orderly : workspace.Orderly) (idle : workspace.Idle)
    (abreast : workspace.Abreast uri) (found : workspace.session? session.number = some session)
    (direction : Direction) : Sparing uri (fun _ => session.uri = uri) workspace
      (workspace.runAndPublish session.number direction).1 := by
  obtain ⟨present, _⟩ := of_session? found
  rcases runAndPublish_cases orderly idle found direction with
    failed | ⟨draft, opened, shown | ⟨react, overwritten⟩⟩
  · exact failed.sparing_failed
  · refine (shown.sparing_shown orderly.numbered present).mono ?_
    intro other known about same
    rw [same, found] at known
    cases known
    exact about
  · by_cases about : session.uri = uri
    · subst about
      obtain ⟨follows, conflict⟩ := overwritten.followed abreast
      refine overwritten.sparing orderly.numbered conflict ?_ ?_
      · intro other on side resolves
        rw [follows other on] at resolves
        split at resolves
        · exact nomatch resolves
        · exact nomatch resolves
      · intro other _ _ apart
        exact absurd rfl apart
    · have rests : ∀ other : Session, other.uri = uri → react other = .rest := by
        intro other on
        exact overwritten.unconcerned other fun same => about (same.symm.trans on)
      refine overwritten.sparing orderly.numbered (overwritten.elsewhere uri about) ?_ ?_
      · intro other on side resolves
        exact nomatch (rests other on).symm.trans resolves
      · intro other known on _
        refine ⟨?_, rests other on⟩
        intro same
        rw [same, found] at known
        cases known
        exact about on

/-- The end of a wait touches the sessions on the document that was waited for. -/
theorem sparing_endWait (orderly : workspace.Orderly) (idle : workspace.Idle)
    (abreast : workspace.Abreast uri) (found : workspace.session? session.number = some session)
    (call : Nat) (direction : Direction) : Sparing uri (fun _ => session.uri = uri) workspace
      (workspace.endWait session call direction) := by
  obtain ⟨present, _⟩ := of_session? found
  by_cases awaited : session.Awaits call
  · rw [endWait_of_awaits workspace direction awaited]
    have gaveUp :
        Sparing uri (fun _ => session.uri = uri) workspace (workspace.unwait session) := by
      refine (sparing_unwait workspace session).mono ?_
      intro other known about same
      rw [same, found] at known
      cases known
      exact about
    have still : (workspace.unwait session).session? session.unwaiting.number =
        some session.unwaiting := session?_unwait orderly present
    exact gaveUp.trans (sparing_run (orderly_unwait orderly session) idle abreast still direction)
  · rw [endWait_of_not_awaits workspace direction awaited]
    exact .refl workspace

/-- A tick of a session touches the sessions on its document. -/
theorem sparing_tick (orderly : workspace.Orderly) (idle : workspace.Idle)
    (abreast : workspace.Abreast uri) (found : workspace.session? session.number = some session) :
    Sparing uri (fun _ => session.uri = uri) workspace (workspace.tick session) :=
  tick_branches (sparing_planTick workspace session.number) fun _ =>
    (sparing_run orderly idle abreast found .semanticToGraph).trans (sparing_planTick _ _)

/-- A resolution elsewhere touches nothing. -/
theorem sparing_resolve (orderly : workspace.Orderly) (idle : workspace.Idle)
    (abreast : workspace.Abreast uri) (found : workspace.session? session.number = some session)
    (elsewhere : session.uri ≠ uri) (side : Side) :
    Sparing uri (fun _ => session.uri = uri) workspace
      (workspace.resolve session.number side).1 := by
  refine resolve_branches (.refl workspace) ?_
  intro other accepted known _
  cases found.symm.trans known
  let aside : Workspace φ := workspace.coordinate (·.beginResolution session.uri accepted)
  have course : aside.course uri = workspace.course uri := by
    simp [aside, Workspace.course, coordinate, elsewhere]
  have first : Sparing uri (fun _ => session.uri = uri) workspace aside := by
    have agenda : aside.agenda = workspace.agenda := rfl
    refine sparing_of_agenda rfl rfl ?_ (fun _ _ _ _ _ _ _ _ => Due.congr agenda rfl)
      fun _ _ planned => planned
    exact Coordinator.hasConflict_congr (congrArg (·.status.conflicts) course)
  have settled : aside.Orderly := orderly_beginResolution orderly session.uri accepted
  have free : aside.Idle := idle_beginResolution idle session.uri accepted
  have level : aside.Abreast uri := fun version knows => abreast version (course ▸ knows)
  exact first.trans (sparing_run settled free level found side.direction)

/-- The ready task at a position is carried out for its session. -/
theorem workAt_eq {position : Nat} {task : Task}
    (ready : workspace.agenda.ready[position]? = some task)
    (found : workspace.session? (taskSession task) = some session) :
    workspace.workAt position = (workspace.without position).performFor session task := by
  have still : (workspace.without position).session? (taskSession task) = some session := found
  simp only [workAt, ready, perform, still]

/-- A task whose session is gone is taken, and nothing comes of it. -/
theorem workAt_gone {position : Nat} {task : Task}
    (ready : workspace.agenda.ready[position]? = some task)
    (gone : workspace.session? (taskSession task) = none) :
    workspace.workAt position = workspace.without position := by
  have still : (workspace.without position).session? (taskSession task) = none := gone
  simp only [workAt, ready, perform, still]

theorem workAt_none {position : Nat} (absent : workspace.agenda.ready[position]? = none) :
    workspace.workAt position = workspace := by
  simp only [workAt, absent]

/-- A task of a session touches the sessions on its document. -/
theorem Steady.sparing_workAt (steady : Steady uri workspace) {position : Nat} {task : Task}
    (ready : workspace.agenda.ready[position]? = some task)
    (found : workspace.session? (taskSession task) = some session) :
    Sparing uri (fun _ => session.uri = uri) workspace (workspace.workAt position) := by
  have orderly := steady.orderly
  have idle := steady.idle
  have abreast := steady.abreast
  obtain ⟨present, named⟩ := of_session? found
  have left := orderly_without orderly position
  have taken : Sparing uri (fun _ => session.uri = uri) workspace (workspace.without position) := by
    refine sparing_without ready ?_
    intro other known about apart call direction _
    constructor
    · rintro rfl
      cases known.symm.trans found
      exact absurd about apart
    · rintro rfl
      cases known.symm.trans found
      exact absurd about apart
  have known : (workspace.without position).session? session.number = some session :=
    named.symm ▸ found
  rw [workAt_eq ready found]
  cases task with
  | beginWait number call direction =>
    simp only [performFor]
    split
    · exact taken.trans (sparing_endWait left idle abreast known call direction)
    · rw [steady.punctual.delay session present]
      exact sparing_begin ready
  | endWait number call direction =>
    exact taken.trans (sparing_endWait left idle abreast known call direction)
  | beginTicks number => exact taken.trans (sparing_planTick _ number)
  | tick number => exact taken.trans (sparing_tick left idle abreast known)
  | resolve number side =>
    subst named
    have elsewhere : session.uri ≠ uri := by
      intro about
      exact steady.unresolved session found about side (.inl (List.mem_of_getElem? ready))
    exact taken.trans (sparing_resolve left idle abreast known elsewhere side)

end Sparing

/-- What it is to be shown a document, and to await nothing more, while everything else is
spared. -/
structure Shown (uri : String) (session : Session) (before after : Workspace φ) : Prop where
  document : after.registry.draft? uri = before.registry.draft? uri
  spared : Sparing uri (· = session.number) before after
  seen : ∃ current, after.session? session.number = some current ∧ after.Current current
  free : ∀ direction due, ¬after.Awaits uri session.number direction due

/-- Whether a move is a tick by which a session has something carried over. -/
def Move.rescues (workspace : Workspace φ) (number : Nat) : Move φ → Prop
  | .work position => workspace.agenda.ready[position]? = some (.tick number) ∧
      ∃ session, workspace.session? number = some session ∧ workspace.dueAtTick session = true
  | _ => False

/-- What a quiet move can do to a document without a conflict and the sessions on it. -/
inductive Change (uri : String) (move : Move φ) (before after : Workspace φ) : Prop where
  | left (document : after.registry.draft? uri = before.registry.draft? uri)
      (spared : Sparing uri (fun _ => False) before after)
  /-- The awaited refresh comes, or a replay that fits, or a tick finds something to carry
  over. -/
  | shown (session : Session) (draft : Draft)
      (found : before.session? session.number = some session) (about : session.uri = uri)
      (opened : before.registry.draft? uri = some draft)
      (cause : (∃ due, before.Awaits uri session.number .semanticToGraph due) ∨
        (∃ due, before.Awaits uri session.number .graphToSemantic due) ∧ session.Fits draft ∨
        move.rescues before session.number)
      (shown : Shown uri session before after)
  /-- A replay comes that can neither be written nor fits. -/
  | dropped (session : Session) (draft : Draft)
      (found : before.session? session.number = some session) (about : session.uri = uri)
      (opened : before.registry.draft? uri = some draft)
      (cause : ∃ due, before.Awaits uri session.number .graphToSemantic due)
      (unfit : ¬session.Fits draft) (stuck : ¬session.Writes draft)
      (document : after.registry.draft? uri = before.registry.draft? uri)
      (spared : Sparing uri (· = session.number) before after)
      (still : ∃ current, after.session? session.number = some current ∧
        current.view = session.view)
      (free : ∀ direction due, ¬after.Awaits uri session.number direction due)
  /-- A replay overwrites the document, and is shown what it wrote. -/
  | written (session : Session) (draft : Draft)
      (found : before.session? session.number = some session) (about : session.uri = uri)
      (opened : before.registry.draft? uri = some draft)
      (cause : ∃ due, before.Awaits uri session.number .graphToSemantic due)
      (writes : session.Writes draft)
      (spared : Sparing uri (fun number => ∃ other, before.session? number = some other ∧
        (number = session.number ∨ other.client ≠ session.client)) before after)
      (seen : ∃ current, after.session? session.number = some current ∧ after.Current current)
      (free : ∀ direction due, ¬after.Awaits uri session.number direction due)
      (followed : ∀ other, before.session? other.number = some other → other.uri = uri →
        other.client ≠ session.client → ∀ direction due,
          after.Awaits uri other.number direction due ↔ direction = .semanticToGraph ∧
            due = before.agenda.now + before.settings.debounceDelay.toNat)

section Changes

variable {before after : Workspace φ} {session : Session}

/-- A session that was shown its document shows it as it stands. -/
theorem With.seen (numbered : before.Numbered) (present : session ∈ before.sessions)
    {draft : Draft} {now : UInt64} (opened : before.registry.draft? session.uri = some draft)
    (shown : before.With (seeing before.sessions session draft now) after) :
    after.session? session.number = some (session.see draft now) ∧
      after.Current (session.see draft now) := by
  have sessions := shown.sessions
  rw [← seeing_eq numbered present] at sessions
  constructor
  · rw [session?_map sessions, numbered.session?_eq present]
    · exact congrArg some (if_pos rfl)
    · intro other
      split <;> exact ⟨rfl, rfl, rfl⟩
  · refine ⟨draft, ?_, rfl, rfl⟩
    rw [shown.registry]
    exact opened

theorem session?_planTick (workspace : Workspace φ) (ticking number : Nat) :
    (workspace.planTick ticking).session? number = workspace.session? number :=
  planTick_branches rfl fun _ => rfl

/-- A tick carries something over only where there is no conflict and the session waits for
no call. -/
theorem of_dueAtTick {workspace : Workspace φ} (due : workspace.dueAtTick session = true) :
    workspace.coordinator.hasConflict session.uri = false ∧
      session.debouncer.latest.get? session.uri = none := by
  simp only [dueAtTick, Bool.and_eq_true, Bool.not_eq_true', Debouncer.pending,
    Table.contains, Option.isSome_eq_false_iff, Option.isNone_iff_eq_none] at due
  obtain ⟨⟨⟨_, calm⟩, _⟩, free⟩ := due
  exact ⟨calm, free⟩

/-- A tick that finds something to carry over shows it to its session. -/
theorem Steady.tick_shows (steady : Steady uri before) {position : Nat}
    (ready : before.agenda.ready[position]? = some (.tick session.number))
    (found : before.session? session.number = some session) (about : session.uri = uri)
    (due : before.dueAtTick session = true) :
    Shown uri session before (before.workAt position) := by
  subst about
  have orderly := steady.orderly
  obtain ⟨present, _⟩ := of_session? found
  obtain ⟨draft, opened⟩ := steady.housed session present rfl
  obtain ⟨calm, nothing⟩ := of_dueAtTick due
  have left := orderly_without orderly position
  have taken : Sparing session.uri (· = session.number) before (before.without position) := by
    refine sparing_without ready ?_
    intro _ _ _ _ _ _ _
    exact ⟨Task.noConfusion, Task.noConfusion⟩
  have shown := refresh_shows left steady.idle found opened calm
  obtain ⟨reached, current⟩ := shown.seen left.numbered present opened
  have ticked : before.workAt position = ((before.without position).runAndPublish session.number
      .semanticToGraph).1.planTick session.number := by
    rw [workAt_eq ready found]
    exact congrArg (planTick · session.number) (if_pos due)
  rw [ticked]
  have registry := registry_planTick
    ((before.without position).runAndPublish session.number .semanticToGraph).1 session.number
  rw [← session?_planTick _ session.number session.number] at reached
  have free := not_awaits reached nothing
  refine ⟨?_, ?_, ⟨_, reached, ?_⟩, free⟩
  · rw [registry, shown.registry]
    rfl
  · exact (taken.trans (shown.sparing_shown left.numbered present)).trans (sparing_planTick _ _)
  · obtain ⟨same, stands, version, text⟩ := current
    exact ⟨same, registry ▸ stands, version, text⟩

/-- The session of an awaited call whose wait has ended, before what it waited for is
carried out. -/
structure GaveUp (uri : String) (session : Session) (before after : Workspace φ) : Prop where
  orderly : after.Orderly
  idle : after.Idle
  punctual : after.Punctual
  abreast : after.Abreast uri
  registry : after.registry = before.registry
  now : after.agenda.now = before.agenda.now
  spared : Sparing uri (· = session.number) before after
  found : after.session? session.unwaiting.number = some session.unwaiting

theorem Steady.gaveUp (steady : Steady uri before) {position call : Nat} {direction : Direction}
    {task : Task} (ready : before.agenda.ready[position]? = some task)
    (waits : task = .beginWait session.number call direction ∨
      task = .endWait session.number call direction)
    (found : before.session? session.number = some session) (awaited : session.Awaits call) :
    GaveUp uri session before ((before.without position).unwait session) := by
  have orderly := steady.orderly
  obtain ⟨present, _⟩ := of_session? found
  have left := orderly_without orderly position
  have take : Act (fun _ => False) .ready before (before.without position) :=
    .taken .ready before position
  have giveUp : Act (fun _ => False) .ready (before.without position)
      ((before.without position).unwait session) :=
    .expired .ready _ session call _ present (if_pos awaited)
  have taken : Sparing uri (· = session.number) before (before.without position) := by
    refine sparing_without ready ?_
    intro other _ _ apart expected towards _
    constructor
    · rintro rfl
      rcases waits with same | same
      · exact apart (Task.beginWait.inj same).1
      · exact nomatch same
    · rintro rfl
      rcases waits with same | same
      · exact nomatch same
      · exact apart (Task.endWait.inj same).1
  exact {
    orderly := orderly_unwait left session
    idle := steady.idle
    punctual := giveUp.punctual left (take.punctual orderly steady.punctual)
    abreast := steady.abreast
    registry := rfl
    now := rfl
    spared := taken.trans (sparing_unwait _ session)
    found := session?_unwait left present }

section GaveUp

variable {between : Workspace φ} {draft : Draft}

/-- A sync that shows the document to the session that gave up waiting. -/
theorem GaveUp.shows (gaveUp : GaveUp uri session before between) (about : session.uri = uri)
    (opened : before.registry.draft? uri = some draft) {now : UInt64}
    (shown : between.With (seeing between.sessions session.unwaiting draft now) after) :
    Shown uri session before after := by
  subst about
  obtain ⟨present, _⟩ := of_session? gaveUp.found
  have open' : between.registry.draft? session.uri = some draft := gaveUp.registry ▸ opened
  obtain ⟨reached, current⟩ := shown.seen gaveUp.orderly.numbered present open'
  have free := not_awaits reached session.latest_unwaiting
  have spared : Sparing session.uri (· = session.unwaiting.number) between after :=
    shown.sparing_shown gaveUp.orderly.numbered present
  refine ⟨?_, gaveUp.spared.trans spared, ⟨_, reached, current⟩, free⟩
  rw [shown.registry, gaveUp.registry]

/-- A replay that fails for the session that gave up waiting. -/
theorem GaveUp.drops (gaveUp : GaveUp uri session before between) {move : Move φ}
    (found : before.session? session.number = some session) (about : session.uri = uri)
    (opened : before.registry.draft? uri = some draft)
    (cause : ∃ due, before.Awaits uri session.number .graphToSemantic due)
    (unfit : ¬session.Fits draft) (stuck : ¬session.Writes draft)
    (failed : between.With between.sessions after) : Change uri move before after := by
  subst about
  have still : after.session? session.number = some session.unwaiting := by
    rw [session?, failed.sessions]
    exact gaveUp.found
  have free := not_awaits still session.latest_unwaiting
  refine .dropped session draft found rfl opened cause unfit stuck ?_
    (gaveUp.spared.trans failed.sparing_failed) ⟨_, still, rfl⟩ free
  rw [failed.registry, gaveUp.registry]

/-- A session that gave up waiting and writes over the document. -/
theorem GaveUp.writes (gaveUp : GaveUp uri session before between) {move : Move φ}
    (found : before.session? session.number = some session) (about : session.uri = uri)
    (opened : before.registry.draft? uri = some draft)
    (cause : ∃ due, before.Awaits uri session.number .graphToSemantic due)
    (writes : session.Writes draft) {next : Draft} {react : Session → Reaction}
    (reached : between.replayed session.unwaiting uri = some next)
    (overwritten : between.Overwritten session.unwaiting next react after) :
    Change uri move before after := by
  subst about
  have numbered := gaveUp.orderly.numbered
  have abreast : between.Abreast session.unwaiting.uri := gaveUp.abreast
  have shown : after.session? session.number =
      some (session.unwaiting.see next between.timestamp) :=
    overwritten.shown abreast gaveUp.found
  have free := not_awaits shown session.latest_unwaiting
  have stands : after.registry.draft? session.uri = some next :=
    (overwritten.documents session.uri).trans reached
  have spared : Sparing session.unwaiting.uri (fun number =>
      ∃ other, before.session? number = some other ∧
        (number = session.number ∨ other.client ≠ session.client)) between after := by
    refine overwritten.sparing_side numbered abreast ?_
    intro other known on side
    obtain ⟨earlier, was, continues⟩ := gaveUp.spared.earlier known
    exact ⟨earlier, was, continues.client ▸ side⟩
  refine .written session draft found rfl opened cause writes ?_ ⟨_, shown, next, stands, rfl, rfl⟩
    free ?_
  · refine (gaveUp.spared.mono ?_).trans spared
    intro other known _ itself
    exact ⟨other, known, .inl itself⟩
  · intro other known on foreign direction due
    have apart : other.number ≠ session.number := by
      intro same
      rw [same, found] at known
      cases known
      exact foreign rfl
    have there : between.session? other.number = some other :=
      (gaveUp.spared.kept other known on apart).found
    rw [← gaveUp.now, ← gaveUp.spared.settings, ← on]
    exact overwritten.awaits_iff numbered gaveUp.punctual abreast gaveUp.found there on foreign
      direction due

end GaveUp

/-- The end of an awaited wait shows the document to its session, or drops a replay, or
overwrites the document. -/
theorem Steady.change_endWait (steady : Steady uri before)
    (calm : before.coordinator.hasConflict uri = false) {position call : Nat}
    {direction : Direction} {task : Task} (ready : before.agenda.ready[position]? = some task)
    (waits : task = .beginWait session.number call direction ∨
      task = .endWait session.number call direction)
    (found : before.session? session.number = some session) (about : session.uri = uri)
    (awaited : session.Awaits call) (move : Move φ) :
    Change uri move before ((before.without position).endWait session call direction) := by
  have gaveUp := steady.gaveUp ready waits found awaited
  have cause : ∃ due, before.Awaits uri session.number direction due := by
    have listed := List.mem_of_getElem? ready
    rcases waits with rfl | rfl
    · exact ⟨_, session, call, found, about, awaited, .begins listed⟩
    · exact ⟨_, session, call, found, about, awaited, .ends listed⟩
  rw [endWait_of_awaits _ direction awaited]
  obtain ⟨draft, opened⟩ := steady.housed session (of_session? found).1 about
  subst about
  cases direction with
  | semanticToGraph =>
    have shown := refresh_shows gaveUp.orderly gaveUp.idle gaveUp.found opened calm
    exact .shown session draft found rfl opened (.inl cause) (gaveUp.shows rfl opened shown)
  | graphToSemantic =>
    by_cases fits : session.Fits draft
    · have shown := replay_shows gaveUp.orderly gaveUp.idle gaveUp.found opened fits
      exact .shown session draft found rfl opened (.inr (.inl ⟨cause, fits⟩))
        (gaveUp.shows rfl opened shown)
    · by_cases writes : session.Writes draft
      · obtain ⟨react, overwritten⟩ :=
          replay_writes gaveUp.orderly gaveUp.idle gaveUp.found opened writes
        refine gaveUp.writes found rfl opened cause writes ?_ overwritten
        have stands : ((before.without position).unwait session).registry.draft? session.uri =
            some draft := opened
        simp only [replayed, stands]
        exact if_pos rfl
      · have failed := replay_fails gaveUp.idle gaveUp.found (by
          intro current same
          cases opened.symm.trans same
          exact ⟨fits, writes⟩)
        exact gaveUp.drops found rfl opened cause fits writes failed

/-- The end of a wait that something overtook spares all sessions. -/
theorem sparing_overtaken {position call : Nat} {direction : Direction} {task : Task}
    (ready : before.agenda.ready[position]? = some task)
    (waits : task = .beginWait session.number call direction ∨
      task = .endWait session.number call direction)
    (found : before.session? session.number = some session) (overtaken : ¬session.Awaits call) :
    Sparing uri (fun _ => False) before (before.without position) := by
  refine sparing_without ready ?_
  intro other known _ _ expected towards awaited
  have apart : ∀ number, other.number = number → session.number = number → expected = call →
      False := by
    rintro number rfl same rfl
    rw [same] at found
    cases known.symm.trans found
    exact overtaken awaited
  constructor
  · rintro rfl
    rcases waits with same | same
    · obtain ⟨number, call, _⟩ := Task.beginWait.inj same
      exact apart _ number rfl call
    · exact nomatch same
  · rintro rfl
    rcases waits with same | same
    · exact nomatch same
    · obtain ⟨number, call, _⟩ := Task.endWait.inj same
      exact apart _ number rfl call

/-- So does taking a task that nothing is awaited of. -/
theorem sparing_taken {position : Nat} {task : Task}
    (ready : before.agenda.ready[position]? = some task)
    (other : ∀ number call direction, task ≠ .beginWait number call direction ∧
      task ≠ .endWait number call direction) :
    Sparing uri (fun _ => False) before (before.without position) :=
  sparing_without ready fun _ _ _ _ _ _ _ => other _ _ _

/-- So does taking a task whose session is gone. -/
theorem sparing_gone {position : Nat} {task : Task}
    (ready : before.agenda.ready[position]? = some task)
    (gone : before.session? (taskSession task) = none) :
    Sparing uri (fun _ => False) before (before.without position) := by
  refine sparing_without ready ?_
  intro other known _ _ call direction _
  constructor
  · rintro rfl
    exact nomatch gone.symm.trans known
  · rintro rfl
    exact nomatch gone.symm.trans known

/-- What a task of a session on the document does. -/
theorem Steady.change_here (steady : Steady uri before)
    (calm : before.coordinator.hasConflict uri = false) {position : Nat} {task : Task}
    (ready : before.agenda.ready[position]? = some task)
    (found : before.session? (taskSession task) = some session) (about : session.uri = uri) :
    Change uri (.work position) before (before.workAt position) := by
  obtain ⟨present, named⟩ := of_session? found
  have known : before.session? session.number = some session := named.symm ▸ found
  have ended : ∀ call direction, (task = .beginWait session.number call direction ∨
      task = .endWait session.number call direction) → Change uri (.work position) before
        ((before.without position).endWait session call direction) := by
    intro call direction waits
    by_cases awaited : session.Awaits call
    · exact steady.change_endWait calm ready waits known about awaited _
    · rw [endWait_of_not_awaits _ direction awaited]
      exact .left rfl (sparing_overtaken ready waits known awaited)
  cases task with
  | beginWait number call direction =>
    cases named
    rw [workAt_eq ready found]
    simp only [performFor]
    split
    · exact ended call direction (.inl rfl)
    · rw [steady.punctual.delay session present]
      exact .left rfl (sparing_begin ready)
  | endWait number call direction =>
    cases named
    rw [workAt_eq ready found]
    exact ended call direction (.inr rfl)
  | beginTicks number =>
    rw [workAt_eq ready found]
    have taken : Sparing uri (fun _ => False) before (before.without position) :=
      sparing_taken ready fun _ _ _ => ⟨Task.noConfusion, Task.noConfusion⟩
    refine .left ?_ (taken.trans (sparing_planTick _ number))
    exact congrArg (Registry.draft? · uri) (registry_planTick _ number)
  | tick number =>
    cases named
    obtain ⟨draft, opened⟩ := steady.housed session present about
    by_cases due : before.dueAtTick session = true
    · exact .shown session draft found about opened (.inr (.inr ⟨ready, session, found, due⟩))
        (steady.tick_shows ready found about due)
    · have ticked : before.workAt position =
          (before.without position).planTick session.number := by
        rw [workAt_eq ready found]
        exact congrArg (planTick · session.number) (if_neg due)
      rw [ticked]
      have taken : Sparing uri (fun _ => False) before (before.without position) :=
        sparing_taken ready fun _ _ _ => ⟨Task.noConfusion, Task.noConfusion⟩
      refine .left ?_ (taken.trans (sparing_planTick _ _))
      exact congrArg (Registry.draft? · uri) (registry_planTick _ _)
  | resolve number side =>
    cases named
    exact absurd (.inl (List.mem_of_getElem? ready)) (steady.unresolved session found about side)

/-- A task of a session elsewhere leaves the document and all sessions on it as they are. -/
theorem Steady.left_elsewhere (steady : Steady uri before) {position : Nat} {task : Task}
    (ready : before.agenda.ready[position]? = some task)
    (found : before.session? (taskSession task) = some session) (elsewhere : session.uri ≠ uri) :
    (before.workAt position).registry.draft? uri = before.registry.draft? uri ∧
      Sparing uri (fun _ => False) before (before.workAt position) := by
  refine ⟨?_, (steady.sparing_workAt ready found).mono fun _ _ _ => elsewhere⟩
  rw [draft?_workAt steady.orderly steady.idle position uri, ready, Option.bind_some]
  cases replays : Task.replays? before task with
  | none => rfl
  | some replaying =>
    cases found.symm.trans (session?_of_replays replays)
    exact if_neg elsewhere

/-- What a task does to a document without a conflict and to the sessions on it. -/
theorem Steady.change_workAt (steady : Steady uri before)
    (calm : before.coordinator.hasConflict uri = false) (position : Nat) :
    Change uri (.work position) before (before.workAt position) := by
  cases ready : before.agenda.ready[position]? with
  | none =>
    rw [workAt_none ready]
    exact .left rfl (.refl before)
  | some task =>
    cases found : before.session? (taskSession task) with
    | none =>
      rw [workAt_gone ready found]
      exact .left rfl (sparing_gone ready found)
    | some session =>
      by_cases about : session.uri = uri
      · exact steady.change_here calm ready found about
      · obtain ⟨document, spared⟩ := steady.left_elsewhere ready found about
        exact .left document spared

/-- Nobody leaves a document by a quiet move. -/
theorem Quietly.keeps {move : Move φ} (quiet : before.Quietly move) (client : String) :
    ¬move.uses before (.hold uri client) ∧ ¬move.uses before (.link uri client) := by
  cases move with
  | work position => exact work_keeps before position uri client
  | wait time => exact ⟨id, id⟩
  | _ => exact quiet.elim

section Moves

variable [Files.Store φ]

/-- What a quiet move does to a document without a conflict and to the sessions on it. -/
theorem Steady.change (steady : Steady uri before)
    (calm : before.coordinator.hasConflict uri = false) {move : Move φ}
    (quiet : before.Quietly move) : Change uri move before (before.act move) := by
  cases move with
  | work position => exact steady.change_workAt calm position
  | wait time =>
    obtain ⟨rests, next⟩ := quiet
    exact waitFor_branches (motive := Change uri (.wait time) before) (.left rfl (.refl before))
      fun _ => .left rfl (sparing_wait steady.punctual rests next)
  | _ => exact quiet.elim

/-- A quiet move raises and resolves no conflict. -/
theorem Steady.sparing (steady : Steady uri before) {move : Move φ} (quiet : before.Quietly move) :
    Sparing uri (fun _ => True) before (before.act move) := by
  cases move with
  | work position =>
    simp only [act]
    cases ready : before.agenda.ready[position]? with
    | none =>
      rw [workAt_none ready]
      exact .refl before
    | some task =>
      cases found : before.session? (taskSession task) with
      | none =>
        rw [workAt_gone ready found]
        exact sparing_without ready fun _ _ _ apart => absurd trivial apart
      | some session => exact (steady.sparing_workAt ready found).mono fun _ _ _ _ => trivial
  | wait time =>
    obtain ⟨rests, next⟩ := quiet
    exact waitFor_branches (motive := Sparing uri (fun _ => True) before) (.refl before)
      fun _ => sparing_wait steady.punctual rests next
  | _ => exact quiet.elim

/-- A move by which nobody leaves a steady document, and which raises and resolves no conflict,
leaves it steady. -/
theorem Steady.act_of (steady : Steady uri before) {move : Move φ}
    (stays : NobodyLeaves uri before [move])
    (sparing : Sparing uri (fun _ => True) before (before.act move)) :
    Steady uri (before.act move) where
  orderly := orderly_act steady.orderly move
  idle := idle_act steady.orderly steady.idle move
  punctual := (act_happens steady.orderly move).punctual steady.orderly steady.punctual
  abreast := abreast_after steady.orderly steady.abreast stays
  housed := housed_after steady.orderly steady.housed stays
  unresolved := by
    intro session found about side planned
    obtain ⟨earlier, was, continues⟩ := sparing.earlier found
    have on : earlier.uri = uri := continues.uri.trans about
    rcases sparing.resolves _ side planned with before | ⟨other, known, elsewhere⟩
    · rw [← continues.number] at was before
      exact steady.unresolved earlier was on side before
    · cases was.symm.trans known
      exact elsewhere on

/-- A quiet move leaves a steady document steady. -/
theorem Steady.act (steady : Steady uri before) {move : Move φ} (quiet : before.Quietly move) :
    Steady uri (before.act move) :=
  steady.act_of ⟨quiet.keeps, trivial⟩ (steady.sparing quiet)

end Moves

end Changes

end Workspace

end Flowdesk
