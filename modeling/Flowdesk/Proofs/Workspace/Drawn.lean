import Flowdesk.Proofs.Workspace.Quiet
import Flowdesk.Proofs.Workspace.Sending

/-!
# What is drawn in quiet times

While nothing is asked of a desk and no replay of a document is awaited, its sessions are
sent a drawing only by the refresh that they await, when it is due, or by a tick that has
something to carry over. Whatever is carried out for sessions elsewhere draws nothing for
the document and leaves its course alone.
-/

namespace Flowdesk

open Data Sync Workflow

namespace Workspace

variable {φ : Type} {uri : String}

/-- A session that was there still is, known by the same, after something was sent. -/
theorem Sends.later {before after : Workspace φ} (sends : Sends before after)
    (numbered : before.Numbered) {number : Nat} {session : Session}
    (found : before.session? number = some session) :
    ∃ current, after.session? number = some current ∧ current.entry = session.entry := by
  obtain ⟨present, rfl⟩ := of_session? found
  have listed : session.entry ∈ after.sessions.map Session.entry :=
    sends.stay ▸ List.mem_map_of_mem present
  obtain ⟨other, still, same⟩ := List.mem_map.mp listed
  have named : other.number = session.number := congrArg (·.1) same
  have known : (after.session? session.number).isSome := by
    rw [session?, List.find?_isSome]
    exact ⟨other, still, decide_eq_true named⟩
  obtain ⟨current, reached⟩ := Option.isSome_iff_exists.mp known
  obtain ⟨there, number⟩ := of_session? reached
  have before : current.entry ∈ before.sessions.map Session.entry :=
    sends.stay ▸ List.mem_map_of_mem there
  obtain ⟨earlier, was, continues⟩ := List.mem_map.mp before
  have itself := numbered.unique present was ((congrArg (·.1) continues).trans number)
  exact ⟨current, reached, itself ▸ continues.symm⟩

/-- What leaves the course of a document alone and draws nothing for it. -/
structure Apart (uri : String) (before after : Workspace φ) : Prop where
  course : after.course uri = before.course uri
  receiving : after.receiving = before.receiving
  drawn : ∀ client, after.drawn uri client = before.drawn uri client

section Apart

variable {before between after : Workspace φ}

theorem Undrawn.apart (undrawn : Undrawn before after)
    (course : after.course uri = before.course uri) : Apart uri before after :=
  ⟨course, undrawn.receiving, undrawn.drawn uri⟩

theorem Apart.trans (early : Apart uri before between) (late : Apart uri between after) :
    Apart uri before after where
  course := late.course.trans early.course
  receiving := late.receiving.trans early.receiving
  drawn client := (late.drawn client).trans (early.drawn client)

/-- What is done to sessions, tasks and documents leaves a course alone by itself. -/
theorem apart_of_same (coordinator : after.coordinator = before.coordinator)
    (receiving : after.receiving = before.receiving) (sent : after.sent = before.sent) :
    Apart uri before after where
  course := congrArg (Coordinator.course · uri) coordinator
  receiving := receiving
  drawn client := by simp only [Workspace.drawn, sent]

theorem Apart.refl (workspace : Workspace φ) : Apart uri workspace workspace :=
  apart_of_same rfl rfl rfl

end Apart

section Elsewhere

variable {workspace : Workspace φ} {session : Session}

theorem course_attempt_of_ne (orderly : workspace.Orderly) (elsewhere : session.uri ≠ uri)
    (direction : Direction) :
    (workspace.attempt session direction).1.course uri = workspace.course uri := by
  refine attempt_branches ?same ?updated ?shown
  case same => rfl
  case updated =>
    intro draft text _
    exact course_adopt_of_ne orderly.numbered .within (Registry.update_turns orderly.sound
      session.uri draft.nextVersion text session.client workspace.timestamp) elsewhere
  case shown => exact fun _ _ _ same => same

/-- A sync of a session elsewhere leaves the course of a document alone. -/
theorem course_run_of_ne (orderly : workspace.Orderly)
    (found : workspace.session? session.number = some session) (elsewhere : session.uri ≠ uri)
    (direction : Direction) :
    (workspace.run session.number direction).1.course uri = workspace.course uri := by
  refine run_branches rfl ?_
  rintro other coordinator _ ending known started rfl
  cases found.symm.trans known
  obtain ⟨course, _, rfl⟩ := Option.map_eq_some_iff.mp started
  let begun : Workspace φ :=
    { workspace with coordinator := workspace.coordinator.setCourse session.uri course }
  have begins : begun.course uri = workspace.course uri := by
    simp only [Workspace.course, begun, Coordinator.course_setCourse, if_neg elsewhere]
  have settled : begun.Orderly := orderly.congr orderly.sound rfl rfl
  have attempted := course_attempt_of_ne settled elsewhere direction
  simp only [Workspace.course, coordinate, Coordinator.course_finish, if_neg elsewhere]
  exact attempted.trans begins

/-- What comes of a sync of a session elsewhere is drawn there. -/
theorem apart_runAndPublish (orderly : workspace.Orderly)
    (found : workspace.session? session.number = some session) (elsewhere : session.uri ≠ uri)
    (direction : Direction) :
    Apart uri workspace (workspace.runAndPublish session.number direction).1 := by
  have ran := undrawn_run workspace session.number direction
  refine (ran.apart (course_run_of_ne orderly found elsewhere direction)).trans ?_
  obtain ⟨current, reached, entry⟩ := ran.later orderly.numbered found
  have there : current.uri ≠ uri := by
    have same : current.uri = session.uri := congrArg (·.2.1) entry
    exact same ▸ elsewhere
  simp only [runAndPublish, publishBy, reached]
  refine ⟨?_, receiving_publish _ _ _, ?_⟩
  · exact congrArg (Coordinator.course · uri) (alike_publish _ _ _).coordinator
  · intro client
    rw [drawn_publish, if_neg fun own => there own.2.2, List.nil_append]

theorem apart_endWait (orderly : workspace.Orderly)
    (found : workspace.session? session.number = some session) (elsewhere : session.uri ≠ uri)
    (call : Nat) (direction : Direction) :
    Apart uri workspace (workspace.endWait session call direction) := by
  obtain ⟨present, _⟩ := of_session? found
  by_cases awaited : session.Awaits call
  · rw [endWait_of_awaits workspace direction awaited]
    have still : (workspace.unwait session).session? session.unwaiting.number =
        some session.unwaiting := session?_unwait orderly present
    have gaveUp : Apart uri workspace (workspace.unwait session) := apart_of_same rfl rfl rfl
    exact gaveUp.trans
      (apart_runAndPublish (orderly_unwait orderly session) still elsewhere direction)
  · rw [endWait_of_not_awaits workspace direction awaited]
    exact .refl workspace

theorem apart_planTick (workspace : Workspace φ) (number : Nat) :
    Apart uri workspace (workspace.planTick number) :=
  planTick_branches (.refl workspace) fun _ => apart_of_same rfl rfl rfl

theorem apart_tick (orderly : workspace.Orderly)
    (found : workspace.session? session.number = some session) (elsewhere : session.uri ≠ uri) :
    Apart uri workspace (workspace.tick session) :=
  tick_branches (apart_planTick workspace session.number) fun _ =>
    (apart_runAndPublish orderly found elsewhere .semanticToGraph).trans (apart_planTick _ _)

theorem apart_resolve (orderly : workspace.Orderly)
    (found : workspace.session? session.number = some session) (elsewhere : session.uri ≠ uri)
    (side : Side) : Apart uri workspace (workspace.resolve session.number side).1 := by
  refine resolve_branches (.refl workspace) ?_
  intro other accepted known _
  cases found.symm.trans known
  let aside : Workspace φ := workspace.coordinate (·.beginResolution session.uri accepted)
  have first : Apart uri workspace aside := by
    refine ⟨?_, rfl, fun _ => rfl⟩
    simp only [Workspace.course, aside, coordinate, Coordinator.course_beginResolution,
      if_neg elsewhere]
  have settled : aside.Orderly := orderly_beginResolution orderly session.uri accepted
  exact first.trans (apart_runAndPublish settled found elsewhere side.direction)

/-- A task of a session elsewhere draws nothing for a document and leaves its course
alone. -/
theorem apart_workAt (orderly : workspace.Orderly) {position : Nat} {task : Task}
    (ready : workspace.agenda.ready[position]? = some task)
    (found : workspace.session? (taskSession task) = some session)
    (elsewhere : session.uri ≠ uri) : Apart uri workspace (workspace.workAt position) := by
  obtain ⟨_, named⟩ := of_session? found
  have left := orderly_without orderly position
  have taken : Apart uri workspace (workspace.without position) := apart_of_same rfl rfl rfl
  have known : (workspace.without position).session? session.number = some session :=
    named.symm ▸ found
  rw [workAt_eq ready found]
  cases task with
  | beginWait number call direction =>
    simp only [performFor]
    split
    · exact taken.trans (apart_endWait left known elsewhere call direction)
    · exact taken.trans (apart_of_same rfl rfl rfl)
  | endWait number call direction =>
    exact taken.trans (apart_endWait left known elsewhere call direction)
  | beginTicks number => exact taken.trans (apart_planTick _ number)
  | tick number => exact taken.trans (apart_tick left known elsewhere)
  | resolve number side =>
    cases named
    exact taken.trans (apart_resolve left known elsewhere side)

end Elsewhere

/-- While there is no conflict, a refresh settles all pending changes of an open document,
and draws it for the session, if anybody receives that. -/
theorem refresh_draws {workspace : Workspace φ} (orderly : workspace.Orderly)
    (idle : workspace.Idle) {session : Session}
    (found : workspace.session? session.number = some session) {draft : Draft}
    (opened : workspace.registry.draft? session.uri = some draft)
    (calm : workspace.coordinator.hasConflict session.uri = false) :
    let after := (workspace.runAndPublish session.number .semanticToGraph).1
    after.receiving = workspace.receiving ∧ after.coordinator.pendingChanges session.uri = 0 ∧
      after.drawn session.uri session.client =
        (if workspace.receiving then
          (session.see draft workspace.timestamp).view.drawing?.toList else []) ++
          workspace.drawn session.uri session.client := by
  obtain ⟨coordinator, started⟩ := Coordinator.start?_of_free (idle session.uri)
  let begun : Workspace φ := { workspace with coordinator }
  have sound : begun.registry.Sound := orderly.sound
  have still : begun.coordinator.hasConflict session.uri = false :=
    (sameConflicts_start started session.uri).trans calm
  have ran := run_of_attempt found .semanticToGraph started
    (refresh_of_open sound opened still)
  have undrawn := undrawn_run workspace session.number .semanticToGraph
  obtain ⟨current, reached, entry⟩ := undrawn.later orderly.numbered found
  have on : current.uri = session.uri := congrArg (·.2.1) entry
  have own : current.client = session.client := congrArg (·.2.2) entry
  have settled : (workspace.run session.number .semanticToGraph).1.coordinator.pendingChanges
      session.uri = 0 := by
    rw [ran]
    simp only [Coordinator.pendingChanges, Coordinator.status, coordinate,
      Coordinator.course_finish, if_true]
    rfl
  have actions : (workspace.run session.number .semanticToGraph).2 =
      (session.see draft workspace.timestamp).view.actions := by
    rw [ran]
    rfl
  simp only [runAndPublish, publishBy, reached]
  refine ⟨(receiving_publish _ _ _).trans undrawn.receiving, ?_, ?_⟩
  · rw [(alike_publish _ _ _).coordinator]
    exact settled
  · rw [drawn_publish, undrawn.receiving, undrawn.drawn, actions, View.drawings_actions, on, own]
    simp

/-- What it is for a session to be shown a document, and drawn it, when it awaits nothing
more and no change of the document is pending. -/
structure Redrawn (session : Session) (draft : Draft) (before after : Workspace φ) : Prop where
  document : after.registry.draft? session.uri = some draft
  spared : Sparing session.uri (· = session.number) before after
  free : ∀ direction due, ¬after.Awaits session.uri session.number direction due
  receiving : after.receiving = before.receiving
  settled : after.coordinator.pendingChanges session.uri = 0
  seen : ∃ current now, after.session? session.number = some current ∧
    current.view = (session.see draft now).view ∧
    after.drawn session.uri session.client =
      (if before.receiving then current.view.drawing?.toList else []) ++
        before.drawn session.uri session.client

/-- What a quiet move can do to a document of which no replay is awaited. -/
inductive Draws (uri : String) (before after : Workspace φ) : Prop where
  | left (document : after.registry.draft? uri = before.registry.draft? uri)
      (spared : Sparing uri (fun _ => False) before after) (apart : Apart uri before after)
  /-- A refresh is carried out when it is due. -/
  | redrawn (session : Session) (draft : Draft)
      (found : before.session? session.number = some session) (about : session.uri = uri)
      (opened : before.registry.draft? uri = some draft)
      (due : before.Awaits uri session.number .semanticToGraph before.agenda.now)
      (redrawn : Redrawn session draft before after)

section Draws

variable {before after : Workspace φ} {session : Session}

/-- The end of the wait for a refresh shows and draws the document. -/
theorem Steady.redraws (steady : Steady uri before)
    (calm : before.coordinator.hasConflict uri = false) {position call : Nat} {task : Task}
    (ready : before.agenda.ready[position]? = some task)
    (waits : task = .beginWait session.number call .semanticToGraph ∨
      task = .endWait session.number call .semanticToGraph)
    (found : before.session? session.number = some session) (about : session.uri = uri)
    {draft : Draft} (opened : before.registry.draft? uri = some draft)
    (awaited : session.Awaits call) : Redrawn session draft before
      ((before.without position).endWait session call .semanticToGraph) := by
  subst about
  have gaveUp := steady.gaveUp ready waits found awaited
  obtain ⟨present, _⟩ := of_session? gaveUp.found
  have stands : ((before.without position).unwait session).registry.draft?
      session.unwaiting.uri = some draft := opened
  have shown := refresh_shows gaveUp.orderly gaveUp.idle gaveUp.found stands calm
  have shows := gaveUp.shows rfl opened shown
  obtain ⟨reached, _⟩ := shown.seen gaveUp.orderly.numbered present stands
  obtain ⟨receiving, settled, drawn⟩ :=
    refresh_draws gaveUp.orderly gaveUp.idle gaveUp.found stands calm
  rw [endWait_of_awaits _ _ awaited]
  exact ⟨shows.document.trans opened, shows.spared, shows.free, receiving, settled, _, _, reached,
    rfl, drawn⟩

/-- The end of an awaited wait, if no replay is awaited, redraws the document. -/
theorem Steady.draws_endWait (steady : Steady uri before)
    (calm : before.coordinator.hasConflict uri = false)
    (unreplayed : ∀ number due, ¬before.Awaits uri number .graphToSemantic due)
    {position call : Nat} {direction : Direction} {task : Task}
    (ready : before.agenda.ready[position]? = some task)
    (waits : task = .beginWait session.number call direction ∧
        before.settings.debounceDelay.toNat = 0 ∨
      task = .endWait session.number call direction)
    (found : before.session? session.number = some session) (about : session.uri = uri) :
    Draws uri before ((before.without position).endWait session call direction) := by
  obtain ⟨draft, opened⟩ := steady.housed session (of_session? found).1 about
  have listed := List.mem_of_getElem? ready
  by_cases awaited : session.Awaits call
  · have due : before.Awaits uri session.number direction before.agenda.now := by
      refine ⟨session, call, found, about, awaited, ?_⟩
      rcases waits with ⟨rfl, delay⟩ | rfl
      · have now : before.Due session.number call direction _ := .begins listed
        rw [delay] at now
        exact now
      · exact .ends listed
    cases direction with
    | semanticToGraph =>
      exact .redrawn session draft found about opened due
        (steady.redraws calm ready (waits.imp_left And.left) found about opened awaited)
    | graphToSemantic => exact absurd due (unreplayed _ _)
  · rw [endWait_of_not_awaits _ direction awaited]
    exact .left rfl (sparing_overtaken ready (waits.imp_left And.left) found awaited)
      (apart_of_same rfl rfl rfl)

/-- What a task of a session on the document draws, unless a tick finds something to carry
over. -/
theorem Steady.draws_here (steady : Steady uri before)
    (calm : before.coordinator.hasConflict uri = false)
    (unreplayed : ∀ number due, ¬before.Awaits uri number .graphToSemantic due)
    {position : Nat} {task : Task} (ready : before.agenda.ready[position]? = some task)
    (found : before.session? (taskSession task) = some session) (about : session.uri = uri)
    (untimely : before.dueAtTick session = false) :
    Draws uri before (before.workAt position) := by
  obtain ⟨present, named⟩ := of_session? found
  have known : before.session? session.number = some session := named.symm ▸ found
  have ticks : (∀ number call direction, task ≠ .beginWait number call direction ∧
      task ≠ .endWait number call direction) → ∀ number,
        Draws uri before ((before.without position).planTick number) := by
    intro other number
    have taken : Apart uri before (before.without position) := apart_of_same rfl rfl rfl
    refine .left ?_ ((sparing_taken ready other).trans (sparing_planTick _ number))
      (taken.trans (apart_planTick _ number))
    exact congrArg (Registry.draft? · uri) (registry_planTick _ number)
  cases task with
  | beginWait number call direction =>
    cases named
    have delay := steady.punctual.delay session present
    rw [workAt_eq ready found]
    simp only [performFor]
    split
    · next none =>
      exact steady.draws_endWait calm unreplayed ready (.inl ⟨rfl, delay.symm.trans none⟩) known
        about
    · rw [delay]
      exact .left rfl (sparing_begin ready) (apart_of_same rfl rfl rfl)
  | endWait number call direction =>
    cases named
    rw [workAt_eq ready found]
    exact steady.draws_endWait calm unreplayed ready (.inr rfl) known about
  | beginTicks number =>
    rw [workAt_eq ready found]
    exact ticks (fun _ _ _ => ⟨Task.noConfusion, Task.noConfusion⟩) number
  | tick number =>
    have ticked : before.workAt position = (before.without position).planTick session.number := by
      rw [workAt_eq ready found]
      have rests : (before.without position).dueAtTick session = false := untimely
      simp only [performFor, tick, rests, Bool.false_eq_true, if_false]
    rw [ticked]
    exact ticks (fun _ _ _ => ⟨Task.noConfusion, Task.noConfusion⟩) session.number
  | resolve number side =>
    cases named
    exact absurd (.inl (List.mem_of_getElem? ready)) (steady.unresolved session found about side)

/-- What a quiet move draws of a document without a conflict, of which no replay is awaited,
while no tick has anything to carry over. -/
theorem Steady.draws [Files.Store φ] (steady : Steady uri before)
    (calm : before.coordinator.hasConflict uri = false)
    (unreplayed : ∀ number due, ¬before.Awaits uri number .graphToSemantic due)
    (untimely : ∀ session, before.session? session.number = some session → session.uri = uri →
      before.dueAtTick session = false)
    {move : Move φ} (quiet : before.Quietly move) : Draws uri before (before.act move) := by
  cases move with
  | work position =>
    simp only [Workspace.act]
    cases ready : before.agenda.ready[position]? with
    | none =>
      rw [workAt_none ready]
      exact .left rfl (.refl before) (.refl before)
    | some task =>
      cases found : before.session? (taskSession task) with
      | none =>
        rw [workAt_gone ready found]
        exact .left rfl (sparing_gone ready found) (apart_of_same rfl rfl rfl)
      | some session =>
        obtain ⟨_, named⟩ := of_session? found
        by_cases about : session.uri = uri
        · exact steady.draws_here calm unreplayed ready found about
            (untimely session (named.symm ▸ found) about)
        · obtain ⟨document, spared⟩ := steady.left_elsewhere ready found about
          exact .left document spared (apart_workAt steady.orderly ready found about)
  | wait time =>
    obtain ⟨rests, next⟩ := quiet
    exact waitFor_branches (motive := Draws uri before) (.left rfl (.refl before) (.refl before))
      fun _ => .left rfl (sparing_wait steady.punctual rests next) (apart_of_same rfl rfl rfl)
  | _ => exact quiet.elim

end Draws

end Workspace

end Flowdesk
