import Flowdesk.Proofs.Workspace.Carrying
import Flowdesk.Proofs.Workspace.Planning

/-!
# What sessions await

A session awaits a sync if its latest call is planned, and the sync is due when the wait
of the call ends. Whatever is done to a workspace spares some sessions: they stay as they
are, and what they await stays due when it was. The parts of which tasks are made are
looked at here for the sessions that they spare.
-/

namespace Flowdesk

open Data Sync Workflow

namespace Workspace

variable {φ : Type}

/-- Whether what a call of a session leads to is due at a time. -/
inductive Due (workspace : Workspace φ) (number call : Nat) (direction : Direction) :
    Nat → Prop where
  | begins (ready : .beginWait number call direction ∈ workspace.agenda.ready) :
      Due workspace number call direction
        (workspace.agenda.now + workspace.settings.debounceDelay.toNat)
  | ends (ready : .endWait number call direction ∈ workspace.agenda.ready) :
      Due workspace number call direction workspace.agenda.now
  | waits (due : Nat) (waiting : (due, .endWait number call direction) ∈ workspace.agenda.waiting) :
      Due workspace number call direction due

/-- Whether the session of a number awaits a sync of a document that is due at a time. -/
def Awaits (workspace : Workspace φ) (uri : String) (number : Nat) (direction : Direction)
    (due : Nat) : Prop :=
  ∃ session call, workspace.session? number = some session ∧ session.uri = uri ∧
    session.Awaits call ∧ workspace.Due number call direction due

/-- Whether a session shows its document as it stands. -/
def Current (workspace : Workspace φ) (session : Session) : Prop :=
  ∃ draft, workspace.registry.draft? session.uri = some draft ∧
    session.view.version = draft.version ∧ session.view.text = draft.text

theorem Due.callPlanned {workspace : Workspace φ} {number call due : Nat} {direction : Direction}
    (planned : workspace.Due number call direction due) :
    workspace.CallPlanned number call direction := by
  cases planned with
  | begins ready => exact .inl (.inl ready)
  | ends ready => exact .inr (.inl ready)
  | waits _ waiting => exact .inr (.inr ⟨due, waiting⟩)

/-- Nothing that is awaited was due before now. -/
theorem Awaits.now_le {workspace : Workspace φ} (punctual : workspace.Punctual) {uri : String}
    {number due : Nat} {direction : Direction}
    (awaits : workspace.Awaits uri number direction due) : workspace.agenda.now ≤ due := by
  obtain ⟨session, call, _, _, _, planned⟩ := awaits
  cases planned with
  | begins ready => exact Nat.le_add_right _ _
  | ends ready => exact Nat.le_refl _
  | waits _ waiting => exact Nat.le_of_lt (punctual.waits due _ waiting).1

/-- A session awaits a sync in one direction only. -/
theorem Awaits.agree {workspace : Workspace φ} (punctual : workspace.Punctual) {uri : String}
    {number first second : Nat} {one other : Direction}
    (awaits : workspace.Awaits uri number one first)
    (again : workspace.Awaits uri number other second) : one = other := by
  obtain ⟨session, call, found, _, awaited, planned⟩ := awaits
  obtain ⟨same, later, known, _, expected, replanned⟩ := again
  cases found.symm.trans known
  cases awaited.symm.trans expected
  exact punctual.agree number call one other planned.callPlanned replanned.callPlanned

/-- Other ready tasks than the one that is taken stay ready. -/
theorem ready_without {workspace : Workspace φ} {position : Nat} {task other : Task}
    (ready : workspace.agenda.ready[position]? = some task) (different : task ≠ other)
    (member : other ∈ workspace.agenda.ready) :
    other ∈ (workspace.without position).agenda.ready := by
  obtain ⟨index, bound, rfl⟩ := List.mem_iff_getElem.mp member
  refine List.mem_eraseIdx_iff_getElem.mpr ⟨index, bound, ?_, rfl⟩
  rintro rfl
  rw [List.getElem?_eq_getElem bound] at ready
  exact different (Option.some.inj ready).symm

/-- The agenda without a ready task has the calls of all other tasks. -/
theorem due_without {workspace : Workspace φ} {position : Nat} {task : Task}
    (ready : workspace.agenda.ready[position]? = some task) {number call due : Nat}
    {direction : Direction} (begins : task ≠ .beginWait number call direction)
    (ends : task ≠ .endWait number call direction) :
    (workspace.without position).Due number call direction due ↔
      workspace.Due number call direction due := by
  constructor
  · intro planned
    cases planned with
    | begins ready => exact .begins (List.mem_of_mem_eraseIdx ready)
    | ends ready => exact .ends (List.mem_of_mem_eraseIdx ready)
    | waits _ waiting => exact .waits due waiting
  · intro planned
    cases planned with
    | begins listed => exact .begins (ready_without ready begins listed)
    | ends listed => exact .ends (ready_without ready ends listed)
    | waits _ waiting => exact .waits due waiting

/-- What is put off is due after the delay. -/
theorem due_putOff (workspace : Workspace φ) (delay : Nat) (task : Task) {number call due : Nat}
    {direction : Direction} : (workspace.putOff delay task).Due number call direction due ↔
      workspace.Due number call direction due ∨
        task = .endWait number call direction ∧ due = workspace.agenda.now + delay := by
  constructor
  · intro planned
    cases planned with
    | begins ready => exact .inl (.begins ready)
    | ends ready => exact .inl (.ends ready)
    | waits _ waiting =>
      rcases List.mem_append.mp waiting with before | added
      · exact .inl (.waits due before)
      · cases List.mem_singleton.mp added
        exact .inr ⟨rfl, rfl⟩
  · rintro (planned | ⟨rfl, rfl⟩)
    · cases planned with
      | begins ready => exact .begins ready
      | ends ready => exact .ends ready
      | waits _ waiting => exact .waits due (List.mem_append_left _ waiting)
    · exact .waits _ (List.mem_append_right _ List.mem_cons_self)

/-- What is due depends on the agenda and the settings. -/
theorem Due.congr {before after : Workspace φ} (agenda : after.agenda = before.agenda)
    (settings : after.settings = before.settings) {number call due : Nat} {direction : Direction} :
    after.Due number call direction due ↔ before.Due number call direction due := by
  have move : ∀ first second : Workspace φ, first.agenda = second.agenda →
      first.settings = second.settings → first.Due number call direction due →
        second.Due number call direction due := by
    intro first second same agreed planned
    cases planned with
    | begins ready =>
      rw [same, agreed]
      exact .begins (same ▸ ready)
    | ends ready =>
      rw [same]
      exact .ends (same ▸ ready)
    | waits _ waiting => exact .waits due (same ▸ waiting)
  exact ⟨move after before agenda settings, move before after agenda.symm settings.symm⟩

/-- A session that is the same before and after, and awaits the same. -/
structure Kept (before after : Workspace φ) (session : Session) : Prop where
  found : after.session? session.number = some session
  awaits : ∀ direction due, after.Awaits session.uri session.number direction due ↔
    before.Awaits session.uri session.number direction due

theorem Kept.trans {first second third : Workspace φ} {session : Session}
    (early : Kept first second session) (late : Kept second third session) :
    Kept first third session :=
  ⟨late.found, fun direction due => (late.awaits direction due).trans (early.awaits direction due)⟩

/-- A session that waits for no call awaits nothing. -/
theorem not_awaits {workspace : Workspace φ} {number : Nat} {session : Session}
    (found : workspace.session? number = some session)
    (free : session.debouncer.latest.get? session.uri = none) (direction : Direction) (due : Nat) :
    ¬workspace.Awaits session.uri number direction due := by
  rintro ⟨current, call, known, _, awaited, _⟩
  cases found.symm.trans known
  exact nomatch free.symm.trans awaited

/-- What leaves a document without a conflict of its own or a resolution, and the sessions
on it as they are and with what they await, apart from those that are touched. -/
structure Sparing (uri : String) (touched : Nat → Prop) (before after : Workspace φ) : Prop where
  sessions : ∃ change : Session → Session, after.sessions = before.sessions.map change ∧
    ∀ session, Continues session (change session)
  settings : after.settings = before.settings
  conflict : after.coordinator.hasConflict uri = before.coordinator.hasConflict uri
  kept : ∀ session, before.session? session.number = some session → session.uri = uri →
    ¬touched session.number → Kept before after session
  resolves : ∀ number side, after.Planned (.resolve number side) →
    before.Planned (.resolve number side) ∨
      ∃ session, before.session? number = some session ∧ session.uri ≠ uri

section Sparing

variable {uri : String} {touched : Nat → Prop} {before between after : Workspace φ}

/-- Sessions that are changed one by one are found under their numbers. -/
theorem session?_map {change : Session → Session}
    (sessions : after.sessions = before.sessions.map change)
    (continues : ∀ session, Continues session (change session)) (number : Nat) :
    after.session? number = (before.session? number).map change := by
  have numbers : ((fun session : Session => decide (session.number = number)) ∘ change) =
      fun session => decide (session.number = number) := by
    funext session
    simp only [Function.comp, ← (continues session).number]
  rw [session?, sessions, List.find?_map, numbers, session?]

theorem Sparing.mono {wider : Nat → Prop} (sparing : Sparing uri touched before after)
    (wide : ∀ session, before.session? session.number = some session → session.uri = uri →
      touched session.number → wider session.number) : Sparing uri wider before after :=
  { sparing with kept := fun session found about apart =>
      sparing.kept session found about fun touches => apart (wide session found about touches) }

/-- Every session that is there continues one that was there. -/
theorem Sparing.earlier (sparing : Sparing uri touched before after) {number : Nat}
    {session : Session} (found : after.session? number = some session) :
    ∃ earlier, before.session? number = some earlier ∧ Continues earlier session := by
  obtain ⟨change, sessions, continues⟩ := sparing.sessions
  rw [session?_map sessions continues] at found
  obtain ⟨earlier, was, rfl⟩ := Option.map_eq_some_iff.mp found
  exact ⟨earlier, was, continues earlier⟩

/-- Every session that was there is continued. -/
theorem Sparing.later (sparing : Sparing uri touched before after) {number : Nat}
    {session : Session} (found : before.session? number = some session) :
    ∃ current, after.session? number = some current ∧ Continues session current := by
  obtain ⟨change, sessions, continues⟩ := sparing.sessions
  refine ⟨change session, ?_, continues session⟩
  rw [session?_map sessions continues, found]
  rfl

theorem Sparing.trans (early : Sparing uri touched before between)
    (late : Sparing uri touched between after) : Sparing uri touched before after where
  sessions := by
    obtain ⟨first, was, continues⟩ := early.sessions
    obtain ⟨second, is, continued⟩ := late.sessions
    refine ⟨second ∘ first, ?_, fun session => (continues session).trans (continued _)⟩
    rw [is, was, List.map_map]
  settings := late.settings.trans early.settings
  conflict := late.conflict.trans early.conflict
  kept := by
    intro session found about apart
    have first := early.kept session found about apart
    exact first.trans (late.kept session first.found about apart)
  resolves := by
    intro number side planned
    rcases late.resolves number side planned with between | ⟨session, found, elsewhere⟩
    · exact early.resolves number side between
    · obtain ⟨earlier, was, continues⟩ := early.earlier found
      exact .inr ⟨earlier, was, continues.uri ▸ elsewhere⟩

/-- A change spares the sessions that stay as they are while their calls stay due. -/
theorem sparing_of {change : Session → Session}
    (sessions : after.sessions = before.sessions.map change)
    (continues : ∀ session, Continues session (change session))
    (settings : after.settings = before.settings)
    (conflict : after.coordinator.hasConflict uri = before.coordinator.hasConflict uri)
    (unchanged : ∀ session, before.session? session.number = some session → session.uri = uri →
      ¬touched session.number → change session = session)
    (same : ∀ session, before.session? session.number = some session → session.uri = uri →
      ¬touched session.number → ∀ call direction due, session.Awaits call →
        (after.Due session.number call direction due ↔
          before.Due session.number call direction due))
    (resolves : ∀ number side, after.Planned (.resolve number side) →
      before.Planned (.resolve number side) ∨
        ∃ session, before.session? number = some session ∧ session.uri ≠ uri) :
    Sparing uri touched before after where
  sessions := ⟨change, sessions, continues⟩
  settings := settings
  conflict := conflict
  kept := by
    intro session there about apart
    have found : after.session? session.number = some session := by
      rw [session?_map sessions continues, there, Option.map_some,
        unchanged session there about apart]
    refine ⟨found, fun direction due => ⟨?_, ?_⟩⟩
    · rintro ⟨current, call, known, on, awaited, planned⟩
      cases found.symm.trans known
      have due := (same session there about apart call direction due awaited).mp planned
      exact ⟨session, call, there, on, awaited, due⟩
    · rintro ⟨current, call, known, on, awaited, planned⟩
      cases there.symm.trans known
      have due := (same session there about apart call direction due awaited).mpr planned
      exact ⟨session, call, found, on, awaited, due⟩
  resolves := resolves

/-- The change of one session touches that one alone. -/
theorem sparing_of_one {change : Session → Session} {number : Nat}
    (sessions : after.sessions = before.sessions.map change)
    (continues : ∀ session, Continues session (change session))
    (others : ∀ session, session.number ≠ number → change session = session)
    (agenda : after.agenda = before.agenda) (settings : after.settings = before.settings)
    (conflict : after.coordinator.hasConflict uri = before.coordinator.hasConflict uri) :
    Sparing uri (· = number) before after := by
  apply sparing_of sessions continues settings conflict
  · intro session _ _ apart
    exact others session apart
  · intro session _ _ _ call direction due _
    exact Due.congr agenda settings
  · intro number side planned
    unfold Planned at planned
    rw [agenda] at planned
    exact .inl planned

/-- Where the sessions stay as they are, no other session than those whose calls become due
at another time is touched. -/
theorem sparing_of_agenda (sessions : after.sessions = before.sessions)
    (settings : after.settings = before.settings)
    (conflict : after.coordinator.hasConflict uri = before.coordinator.hasConflict uri)
    (same : ∀ session, before.session? session.number = some session → session.uri = uri →
      ¬touched session.number → ∀ call direction due, session.Awaits call →
        (after.Due session.number call direction due ↔
          before.Due session.number call direction due))
    (resolves : ∀ number side, after.Planned (.resolve number side) →
      before.Planned (.resolve number side)) : Sparing uri touched before after := by
  refine sparing_of (sessions.trans (List.map_id _).symm) Continues.refl settings conflict
    (fun _ _ _ _ => rfl) same fun number side planned => .inl (resolves number side planned)

theorem Sparing.refl (workspace : Workspace φ) : Sparing uri touched workspace workspace :=
  sparing_of_agenda rfl rfl rfl (fun _ _ _ _ _ _ _ _ => Iff.rfl) fun _ _ planned => planned

/-- Carrying out something else than the wait of an awaited call spares a session. -/
theorem sparing_without {position : Nat} {task : Task}
    (ready : before.agenda.ready[position]? = some task)
    (other : ∀ session, before.session? session.number = some session → session.uri = uri →
      ¬touched session.number → ∀ call direction, session.Awaits call →
        task ≠ .beginWait session.number call direction ∧
          task ≠ .endWait session.number call direction) :
    Sparing uri touched before (before.without position) := by
  refine sparing_of_agenda rfl rfl rfl ?_ ?_
  · intro session found about apart call direction due awaited
    obtain ⟨begins, ends⟩ := other session found about apart call direction awaited
    exact due_without ready begins ends
  · intro number side planned
    exact planned.imp List.mem_of_mem_eraseIdx id

/-- Once its wait began, a call stays due when it was. -/
theorem sparing_begin {position number call : Nat} {direction : Direction}
    (ready : before.agenda.ready[position]? = some (.beginWait number call direction)) :
    Sparing uri touched before ((before.without position).putOff
      before.settings.debounceDelay.toNat (.endWait number call direction)) := by
  refine sparing_of_agenda rfl rfl rfl ?_ ?_
  · intro session found about apart expected other due awaited
    rw [due_putOff]
    constructor
    · rintro (planned | ⟨same, rfl⟩)
      · cases planned with
        | begins ready => exact .begins (List.mem_of_mem_eraseIdx ready)
        | ends ready => exact .ends (List.mem_of_mem_eraseIdx ready)
        | waits _ waiting => exact .waits due waiting
      · cases same
        exact .begins (List.mem_of_getElem? ready)
    · intro planned
      by_cases same : Task.beginWait number call direction =
          .beginWait session.number expected other
      · cases same
        cases planned with
        | begins ready => exact .inr ⟨rfl, rfl⟩
        | ends listed => exact .inl (.ends (ready_without ready Task.noConfusion listed))
        | waits _ waiting => exact .inl (.waits due waiting)
      · exact .inl ((due_without ready same Task.noConfusion).mpr planned)
  · rintro known side (listed | ⟨due, waiting⟩)
    · exact .inl (List.mem_of_mem_eraseIdx listed)
    · rcases List.mem_append.mp waiting with before | added
      · exact .inr ⟨due, before⟩
      · cases List.mem_singleton.mp added

/-- The next tick of a session is planned besides what was planned. -/
theorem sparing_planTick (workspace : Workspace φ) (number : Nat) :
    Sparing uri touched workspace (workspace.planTick number) := by
  refine planTick_branches (.refl workspace) fun _ => ?_
  refine sparing_of_agenda rfl rfl rfl ?_ ?_
  · intro session found about apart call direction due awaited
    rw [due_putOff]
    exact or_iff_left fun tick => nomatch tick.1
  · rintro known side (listed | ⟨due, waiting⟩)
    · exact .inl listed
    · rcases List.mem_append.mp waiting with before | added
      · exact .inr ⟨due, before⟩
      · cases List.mem_singleton.mp added

/-- Giving up a wait touches the session that waited. -/
theorem sparing_unwait (workspace : Workspace φ) (session : Session) :
    Sparing uri (· = session.number) workspace (workspace.unwait session) := by
  refine sparing_of_one rfl ?_ ?_ rfl rfl rfl
  · intro other
    split <;> exact ⟨rfl, rfl, rfl⟩
  · intro other apart
    exact if_neg apart

/-- A sync that fails touches nothing. -/
theorem With.sparing_failed (left : before.With before.sessions after) :
    Sparing uri touched before after := by
  refine sparing_of_agenda left.sessions left.settings (left.conflicts uri) ?_ ?_
  · intro session found about apart call direction due awaited
    exact Due.congr left.agenda left.settings
  · intro number side planned
    unfold Planned at planned
    rw [left.agenda] at planned
    exact planned

/-- A sync that shows a session its document touches that session. -/
theorem With.sparing_shown (numbered : before.Numbered) {session : Session}
    (present : session ∈ before.sessions) {draft : Draft} {now : UInt64}
    (shown : before.With (seeing before.sessions session draft now) after) :
    Sparing uri (· = session.number) before after := by
  have sessions := shown.sessions
  rw [← seeing_eq numbered present] at sessions
  refine sparing_of_one sessions ?_ ?_ shown.agenda shown.settings (shown.conflicts uri)
  · intro other
    split <;> exact ⟨rfl, rfl, rfl⟩
  · intro other apart
    exact if_neg apart

/-- What is due when time has gone by was due before, if time went no further than to the
next point that something waits for. -/
theorem sparing_wait (punctual : before.Punctual) {time : Nat}
    (rests : before.agenda.ready = [])
    (next : ∀ due task, (due, task) ∈ before.agenda.waiting → time ≤ due) :
    Sparing uri touched before { before with agenda := before.agenda.moveTo time } := by
  have became : ∀ task, task ∈ (before.agenda.moveTo time).ready →
      (time, task) ∈ before.agenda.waiting := by
    intro task listed
    simp only [Agenda.moveTo, rests, List.nil_append, List.mem_map, List.mem_filter] at listed
    obtain ⟨⟨due, _⟩, ⟨waited, reached⟩, rfl⟩ := listed
    have exact : due = time := Nat.le_antisymm (of_decide_eq_true reached) (next _ _ waited)
    exact exact ▸ waited
  refine sparing_of_agenda rfl rfl rfl ?_ ?_
  · intro session found about apart call direction due awaited
    constructor
    · intro planned
      cases planned with
      | begins ready =>
        obtain ⟨_, ⟨_, _, _, ends, _⟩ | ⟨_, tick⟩⟩ := punctual.waits _ _ (became _ ready)
        · cases ends
        · cases tick
      | ends ready => exact .waits time (became _ ready)
      | waits _ waiting => exact .waits due (List.mem_of_mem_filter waiting)
    · intro planned
      cases planned with
      | begins ready => exact absurd (rests ▸ ready) List.not_mem_nil
      | ends ready => exact absurd (rests ▸ ready) List.not_mem_nil
      | waits _ waiting =>
        rcases Nat.lt_or_eq_of_le (next _ _ waiting) with ahead | rfl
        · exact .waits due (List.mem_filter.mpr ⟨waiting, decide_eq_true ahead⟩)
        · refine .ends (List.mem_append_right _ ?_)
          exact List.mem_map.mpr ⟨_, List.mem_filter.mpr ⟨waiting, by simp⟩, rfl⟩
  · rintro number side (ready | ⟨due, waiting⟩)
    · exact .inr ⟨time, became _ ready⟩
    · exact .inr ⟨due, List.mem_of_mem_filter waiting⟩

/-- After sessions reacted to something the calls are due that they registered for it. -/
theorem due_iff_of_reacted {react : Session → Reaction}
    (agenda : after.agenda = { before.agenda with
      ready := before.agenda.ready ++
        before.sessions.flatMap fun other => other.tasks (react other) })
    (settings : after.settings = before.settings) {number call due : Nat}
    {direction : Direction} : after.Due number call direction due ↔
      before.Due number call direction due ∨
        ∃ listener ∈ before.sessions, react listener = .sync direction ∧
          number = listener.number ∧ call = listener.debouncer.next ∧
            due = before.agenda.now + before.settings.debounceDelay.toNat := by
  have ready : after.agenda.ready = before.agenda.ready ++
      before.sessions.flatMap fun other => other.tasks (react other) := by
    rw [agenda]
  have waiting : after.agenda.waiting = before.agenda.waiting := by rw [agenda]
  have now : after.agenda.now = before.agenda.now := by rw [agenda]
  constructor
  · intro planned
    cases planned with
    | begins listed =>
      rw [now, settings]
      rcases List.mem_append.mp (ready ▸ listed) with before | added
      · exact .inl (.begins before)
      · obtain ⟨listener, present, named⟩ := List.mem_flatMap.mp added
        obtain ⟨reacts, same, registered⟩ := sync_of_mem_tasks named
        exact .inr ⟨listener, present, reacts, same, registered, rfl⟩
    | ends listed =>
      rw [now]
      rcases List.mem_append.mp (ready ▸ listed) with before | added
      · exact .inl (.ends before)
      · obtain ⟨listener, _, named⟩ := List.mem_flatMap.mp added
        exact absurd named (endWait_not_mem_tasks _ _)
    | waits _ waited => exact .inl (.waits due (waiting ▸ waited))
  · rintro (planned | ⟨listener, present, reacts, rfl, rfl, rfl⟩)
    · cases planned with
      | begins listed =>
        rw [← now, ← settings]
        exact .begins (ready ▸ List.mem_append_left _ listed)
      | ends listed =>
        rw [← now]
        exact .ends (ready ▸ List.mem_append_left _ listed)
      | waits _ waited => exact .waits due (waiting ▸ waited)
    · rw [← now, ← settings]
      refine .begins (ready ▸
        List.mem_append_right _ (List.mem_flatMap.mpr ⟨listener, present, ?_⟩))
      rw [reacts]
      exact List.mem_singleton.mpr rfl

/-- A session that reacted by planning a sync awaits that sync and nothing else. -/
theorem awaits_iff_of_reacted (numbered : before.Numbered) (punctual : before.Punctual)
    {react : Session → Reaction}
    (agenda : after.agenda = { before.agenda with
      ready := before.agenda.ready ++
        before.sessions.flatMap fun other => other.tasks (react other) })
    (settings : after.settings = before.settings) {listener : Session}
    (present : listener ∈ before.sessions) {reaction : Direction}
    (reacts : react listener = .sync reaction)
    (responded : after.session? listener.number = some (listener.respond (.sync reaction)))
    (direction : Direction) (due : Nat) :
    after.Awaits listener.uri listener.number direction due ↔ direction = reaction ∧
      due = before.agenda.now + before.settings.debounceDelay.toNat := by
  have latest : ∀ call, (listener.respond (.sync reaction)).Awaits call ↔
      listener.debouncer.next = call := by
    intro call
    simp [Session.Awaits, Session.respond, Debouncer.call]
  constructor
  · rintro ⟨current, call, known, _, awaited, planned⟩
    cases responded.symm.trans known
    cases (latest call).mp awaited
    rcases (due_iff_of_reacted agenda settings).mp planned with
      earlier | ⟨other, there, reacted, same, _, due⟩
    · -- A call that is registered now cannot have been planned before.
      have registered := (punctual.known _ _ _ earlier.callPlanned).2 listener present rfl
      exact absurd registered (Nat.lt_irrefl _)
    · cases numbered.unique present there same.symm
      cases reacts.symm.trans reacted
      exact ⟨rfl, due⟩
  · rintro ⟨rfl, rfl⟩
    have planned := (due_iff_of_reacted agenda settings).mpr
      (.inr ⟨listener, present, reacts, rfl, rfl, rfl⟩)
    exact ⟨_, listener.debouncer.next, responded, uri_respond listener _, (latest _).mpr rfl,
      planned⟩

section Overwritten

variable {session : Session} {next : Draft} {react : Session → Reaction}

/-- After a session wrote over a document the calls are due that the others registered. -/
theorem Overwritten.due_iff (overwritten : before.Overwritten session next react after)
    {number call due : Nat} {direction : Direction} :
    after.Due number call direction due ↔
      before.Due number call direction due ∨
        ∃ listener ∈ before.sessions, react listener = .sync direction ∧
          number = listener.number ∧ call = listener.debouncer.next ∧
            due = before.agenda.now + before.settings.debounceDelay.toNat :=
  due_iff_of_reacted overwritten.agenda overwritten.settings

/-- All sessions go on when one of them writes over a document. -/
theorem continues_overwritten (session : Session) (react : Session → Reaction) (view : View)
    (other : Session) :
    Continues other (if other.number = session.number then { other.respond (react other) with view }
      else other.respond (react other)) := by
  obtain ⟨continues, _⟩ := continues_respond other (react other)
  split
  · exact ⟨continues.number, continues.uri, continues.client⟩
  · exact continues

/-- The other sessions of the client that wrote do nothing about it. -/
theorem Overwritten.rests (overwritten : before.Overwritten session next react after)
    (abreast : before.Abreast session.uri) {other : Session} (on : other.uri = session.uri)
    (same : other.client = session.client) : react other = .rest := by
  rw [(overwritten.followed abreast).1 other on]
  exact if_pos same

/-- The sessions of other clients follow. -/
theorem Overwritten.follows (overwritten : before.Overwritten session next react after)
    (abreast : before.Abreast session.uri) {other : Session} (on : other.uri = session.uri)
    (foreign : other.client ≠ session.client) : react other = .sync .semanticToGraph := by
  rw [(overwritten.followed abreast).1 other on]
  exact if_neg foreign

/-- The session that wrote is shown what it wrote. -/
theorem Overwritten.shown (overwritten : before.Overwritten session next react after)
    (abreast : before.Abreast session.uri)
    (found : before.session? session.number = some session) :
    after.session? session.number = some (session.see next before.timestamp) := by
  rw [session?_map overwritten.sessions (continues_overwritten _ _ _), found, Option.map_some,
    overwritten.rests abreast rfl rfl]
  exact congrArg some (if_pos rfl)

/-- A session of another client registered a call. -/
theorem Overwritten.responded (overwritten : before.Overwritten session next react after)
    (abreast : before.Abreast session.uri)
    (found : before.session? session.number = some session) {other : Session}
    (listening : before.session? other.number = some other) (on : other.uri = session.uri)
    (foreign : other.client ≠ session.client) :
    after.session? other.number = some (other.respond (.sync .semanticToGraph)) := by
  have apart : other.number ≠ session.number := by
    intro same
    rw [same, found] at listening
    cases listening
    exact foreign rfl
  rw [session?_map overwritten.sessions (continues_overwritten _ _ _), listening, Option.map_some,
    overwritten.follows abreast on foreign]
  exact congrArg some (if_neg apart)

/-- A session of another client awaits a sync after the delay, and nothing else. -/
theorem Overwritten.awaits_iff (overwritten : before.Overwritten session next react after)
    (numbered : before.Numbered) (punctual : before.Punctual)
    (abreast : before.Abreast session.uri)
    (found : before.session? session.number = some session) {other : Session}
    (listening : before.session? other.number = some other) (on : other.uri = session.uri)
    (foreign : other.client ≠ session.client) (direction : Direction) (due : Nat) :
    after.Awaits other.uri other.number direction due ↔ direction = .semanticToGraph ∧
      due = before.agenda.now + before.settings.debounceDelay.toNat :=
  awaits_iff_of_reacted numbered punctual overwritten.agenda overwritten.settings
    (of_session? listening).1 (overwritten.follows abreast on foreign)
    (overwritten.responded abreast found listening on foreign) direction due

/-- A session that writes over a document spares those that do nothing about it. -/
theorem Overwritten.sparing (numbered : before.Numbered)
    (overwritten : before.Overwritten session next react after)
    (conflict : after.coordinator.hasConflict uri = before.coordinator.hasConflict uri)
    (unresolved : ∀ other, other.uri = uri → ∀ side, react other ≠ .resolve side)
    (rests : ∀ other, before.session? other.number = some other → other.uri = uri →
      ¬touched other.number → other.number ≠ session.number ∧ react other = .rest) :
    Sparing uri touched before after := by
  apply sparing_of overwritten.sessions (continues_overwritten _ _ _) overwritten.settings conflict
  · intro other found about apart
    obtain ⟨different, rests⟩ := rests other found about apart
    rw [if_neg different, rests]
    rfl
  · intro other found about apart call direction due awaited
    obtain ⟨_, rests⟩ := rests other found about apart
    rw [overwritten.due_iff]
    apply or_iff_left
    rintro ⟨listener, present, reacts, same, _⟩
    cases numbered.unique present (of_session? found).1 same
    exact nomatch rests.symm.trans reacts
  · rintro number side (ready | ⟨due, waiting⟩)
    · rw [overwritten.agenda] at ready
      rcases List.mem_append.mp ready with before | added
      · exact .inl (.inl before)
      · right
        obtain ⟨listener, present, named⟩ := List.mem_flatMap.mp added
        obtain ⟨reacts, rfl⟩ := resolve_of_mem_tasks named
        refine ⟨listener, numbered.session?_eq present, ?_⟩
        exact fun about => unresolved listener about side reacts
    · rw [overwritten.agenda] at waiting
      exact .inl (.inr ⟨due, waiting⟩)

/-- A session that writes over its document touches itself and the sessions of other clients. -/
theorem Overwritten.sparing_side (numbered : before.Numbered)
    (overwritten : before.Overwritten session next react after)
    (abreast : before.Abreast session.uri)
    (sides : ∀ other, before.session? other.number = some other → other.uri = session.uri →
      other.number = session.number ∨ other.client ≠ session.client → touched other.number) :
    Sparing session.uri touched before after := by
  refine overwritten.sparing numbered (overwritten.followed abreast).2 ?_ ?_
  · intro other on side resolves
    rw [(overwritten.followed abreast).1 other on] at resolves
    split at resolves
    · exact nomatch resolves
    · exact nomatch resolves
  · intro other listening on apart
    have same : other.client = session.client := by
      by_contra foreign
      exact apart (sides other listening on (.inr foreign))
    exact ⟨fun itself => apart (sides other listening on (.inl itself)),
      overwritten.rests abreast on same⟩

end Overwritten

end Sparing

end Workspace

end Flowdesk
