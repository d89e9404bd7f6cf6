import Flowdesk.Proofs.Workspace.Move
import Flowdesk.Proofs.Workspace.Showing

/-!
# What is planned

A task is ready or waits. Every planned task was planned for a session that was there:
for a call that it registered, whose wait begins and ends; for its ticks; or, where the
settings name a side, for the resolution of a conflict it heard of.
-/

namespace Flowdesk

open Data Sync Workflow

theorem Sync.Coordinator.settings_disconnect (coordinator : Coordinator) (uri client : String) :
    (coordinator.disconnect uri client).settings = coordinator.settings := by
  unfold disconnect
  split
  · rfl
  · simp only
    split <;> rfl

namespace Workspace

variable {φ : Type}

/-- Whether a task is ready or waits. -/
def Planned (workspace : Workspace φ) (task : Task) : Prop :=
  task ∈ workspace.agenda.ready ∨ ∃ due, (due, task) ∈ workspace.agenda.waiting

/-- What is planned on the way from one workspace to another. -/
inductive Plans (before after : Workspace φ) : Task → Prop where
  /-- A call that nobody registered before, in one direction only. -/
  | call (session : Session) (present : session ∈ before.sessions) (direction : Direction)
      (registered : ∀ later ∈ after.sessions, later.number = session.number →
        session.debouncer.next < later.debouncer.next)
      (single : ∀ other, after.Planned (.beginWait session.number session.debouncer.next other) →
        before.Planned (.beginWait session.number session.debouncer.next other) ∨
          other = direction) :
      Plans before after (.beginWait session.number session.debouncer.next direction)
  | wait (number call : Nat) (direction : Direction)
      (planned : before.Planned (.beginWait number call direction)) :
      Plans before after (.endWait number call direction)
  | ticks (number : Nat) (present : before.Present number) :
      Plans before after (.beginTicks number)
  | tick (number : Nat) (present : before.Present number) : Plans before after (.tick number)
  | resolution (session : Session) (present : session ∈ before.sessions) (side : Side)
      (automatic : before.settings.resolution.preferred = some side) :
      Plans before after (.resolve session.number side)

/-- A resolution is planned only where the settings name its side. -/
theorem automatic_of_reaction {workspace : Workspace φ} {clock : Clock}
    {update : Registry.Update} {session : Session} {side : Side}
    (resolves : workspace.reaction clock update session = .resolve side) :
    workspace.settings.resolution.preferred = some side := by
  have follows : ∀ direction, follow clock session update direction ≠ .resolve side := by
    intro direction
    unfold follow
    split <;> exact Reaction.noConfusion
  unfold reaction at resolves
  split at resolves
  · cases judged : (workspace.coordinator.observe update.build.uri update.revision).1 with
    | inSync =>
      rw [judged] at resolves
      simp only [answer] at resolves
      split at resolves
      · exact absurd resolves (follows _)
      · cases resolves
    | advanced =>
      rw [judged] at resolves
      exact absurd resolves (follows _)
    | keepLocal =>
      rw [judged] at resolves
      exact absurd resolves (follows _)
    | conflict found =>
      rw [judged] at resolves
      simp only [answer] at resolves
      cases preferred : workspace.settings.resolution.preferred with
      | none =>
        rw [preferred] at resolves
        cases resolves
      | some named =>
        rw [preferred] at resolves
        simp only at resolves
        split at resolves
        · cases resolves
          rfl
        · cases resolves
  · cases resolves

/-- What is planned after an update was heard was planned before or by somebody who
heard it. -/
theorem HeardUpTo.planned {clock : Clock} {update : Registry.Update} {before after : Workspace φ}
    (heard : Heard clock update before after) {task : Task} (planned : after.Planned task) :
    before.Planned task ∨
      ∃ session ∈ before.sessions, task ∈ session.tasks (before.reaction clock update session) := by
  unfold Planned at planned
  rw [heard.agenda] at planned
  rcases planned with ready | waiting
  · exact (List.mem_append.mp ready).imp .inl List.mem_flatMap.mp
  · exact .inl (.inr waiting)

/-- The only calls that are planned when an update is heard are those that sessions
register for their reactions to it. -/
theorem sync_of_mem_tasks {session : Session} {reaction : Reaction} {number call : Nat}
    {direction : Direction} (listed : .beginWait number call direction ∈ session.tasks reaction) :
    reaction = .sync direction ∧ number = session.number ∧ call = session.debouncer.next := by
  cases reaction with
  | rest => exact nomatch listed
  | resolve side => exact nomatch List.mem_singleton.mp listed
  | sync other =>
    cases List.mem_singleton.mp listed
    exact ⟨rfl, rfl, rfl⟩

/-- The only resolutions are those that sessions react with. -/
theorem resolve_of_mem_tasks {session : Session} {reaction : Reaction} {number : Nat} {side : Side}
    (listed : .resolve number side ∈ session.tasks reaction) :
    reaction = .resolve side ∧ number = session.number := by
  cases reaction with
  | rest => exact nomatch listed
  | sync direction => exact nomatch List.mem_singleton.mp listed
  | resolve other =>
    cases List.mem_singleton.mp listed
    exact ⟨rfl, rfl⟩

/-- No wait ends at once. -/
theorem endWait_not_mem_tasks (session : Session) (reaction : Reaction) {number call : Nat}
    {direction : Direction} : .endWait number call direction ∉ session.tasks reaction := by
  intro listed
  cases reaction with
  | rest => exact nomatch listed
  | sync _ | resolve _ => exact nomatch List.mem_singleton.mp listed

/-- What an adopted operation adds to the agenda was planned for sessions that heard of
it. -/
theorem planned_adopt {α : Type} {workspace : Workspace φ} (numbered : workspace.Numbered)
    (clock : Clock) {outcome : Registry.Outcome φ α}
    (once : (Registry.updates outcome.events).length ≤ 1) {task : Task}
    (planned : (workspace.adopt clock outcome).1.Planned task) :
    workspace.Planned task ∨ workspace.Plans (workspace.adopt clock outcome).1 task := by
  obtain ⟨_, alike⟩ | ⟨update, _, heard⟩ := adopt_cases numbered clock once
  · unfold Planned at planned
    rw [alike.agenda] at planned
    exact .inl planned
  · have sessions := heard.sessions
    rw [List.append_nil] at sessions
    refine (heard.planned planned).imp id ?_
    rintro ⟨session, listening, listed⟩
    have present : session ∈ workspace.sessions := listening
    cases reacts : ({ workspace with registry := outcome.registry } : Workspace φ).reaction
        clock update session with
    | rest =>
      rw [reacts] at listed
      exact nomatch listed
    | sync direction =>
      rw [reacts] at listed
      cases List.mem_singleton.mp listed
      refine .call session present direction ?_ ?_
      · intro later member same
        rw [sessions] at member
        obtain ⟨earlier, was, rfl⟩ := List.mem_map.mp member
        rw [number_respond] at same
        cases numbered.unique present was same
        rw [reacts]
        exact Nat.lt_succ_self _
      · intro other again
        refine (heard.planned again).imp id ?_
        rintro ⟨listener, there, named⟩
        obtain ⟨responds, same, _⟩ := sync_of_mem_tasks named
        cases numbered.unique present there same.symm
        cases reacts.symm.trans responds
        rfl
    | resolve side =>
      have automatic : workspace.settings.resolution.preferred = some side :=
        automatic_of_reaction reacts
      rw [reacts] at listed
      cases List.mem_singleton.mp listed
      exact .resolution session present side automatic

section Acts

variable {may : Licence → Prop} {stage : Stage} {before after : Workspace φ}

/-- The settings of a desk never change. -/
theorem Act.settings_eq (act : Act may stage before after) (numbered : before.Numbered) :
    after.settings = before.settings := by
  unfold Workspace.settings
  cases act with
  | noted _ _ _ alike => rw [alike.coordinator]
  | adopted _ clock uri leaver outcome turns _ =>
    obtain ⟨_, alike⟩ | ⟨update, _, heard⟩ := adopt_cases numbered clock turns.once
    · rw [alike.coordinator]
    · rw [heard.coordinator]
      split <;> rfl
  | disconnected _ _ uri client _ =>
    exact before.coordinator.settings_disconnect uri client
  | started _ _ uri coordinator free =>
    obtain ⟨course, _, rfl⟩ := Option.map_eq_some_iff.mp free
    rfl
  | _ => rfl

/-- A planned task was planned before, or is planned for a session that is there. -/
theorem Act.planned (act : Act may stage before after) (orderly : before.Orderly) {task : Task}
    (planned : after.Planned task) : before.Planned task ∨ before.Plans after task := by
  cases act with
  | noted _ _ _ alike =>
    unfold Planned at planned
    rw [alike.agenda] at planned
    exact .inl planned
  | adopted _ clock uri leaver outcome turns _ =>
    exact planned_adopt orderly.numbered clock turns.once planned
  | ticksBegun _ _ number present =>
    rcases planned with ready | waiting
    · rcases List.mem_append.mp ready with before | added
      · exact .inl (.inl before)
      · cases List.mem_singleton.mp added
        exact .inr (.ticks number present)
    · exact .inl (.inr waiting)
  | tickPlanned _ _ number present _ =>
    rcases planned with ready | ⟨due, waiting⟩
    · exact .inl (.inl ready)
    · rcases List.mem_append.mp waiting with before | added
      · exact .inl (.inr ⟨due, before⟩)
      · cases List.mem_singleton.mp added
        exact .inr (.tick number present)
  | taken _ _ position =>
    exact .inl (planned.imp List.mem_of_mem_eraseIdx id)
  | begun _ _ position session call direction present ready _ =>
    rcases planned with ready | ⟨due, waiting⟩
    · exact .inl (.inl (List.mem_of_mem_eraseIdx ready))
    · rcases List.mem_append.mp waiting with before | added
      · exact .inl (.inr ⟨due, before⟩)
      · cases List.mem_singleton.mp added
        exact .inr (.wait session.number call direction (.inl (List.mem_of_getElem? ready)))
  | moved _ _ time _ =>
    left
    rcases planned with ready | ⟨due, waiting⟩
    · rcases List.mem_append.mp ready with before | now
      · exact .inl before
      · obtain ⟨⟨due, _⟩, waited, rfl⟩ := List.mem_map.mp now
        exact .inr ⟨due, List.mem_of_mem_filter waited⟩
    · exact .inr ⟨due, List.mem_of_mem_filter waiting⟩
  | _ => exact .inl planned

/-- A session was there before with no more calls registered, or gets the next number. -/
theorem Act.earlier (act : Act may stage before after) (orderly : before.Orderly)
    {session : Session} (member : session ∈ after.sessions) :
    (∃ earlier ∈ before.sessions, earlier.number = session.number ∧
      earlier.debouncer.next ≤ session.debouncer.next ∧
        session.debouncer.delay = earlier.debouncer.delay) ∨
    session.number = before.nextSession ∧
      session.debouncer.delay = before.settings.debounceDelay.toNat := by
  have same : session ∈ before.sessions →
      ∃ earlier ∈ before.sessions, earlier.number = session.number ∧
        earlier.debouncer.next ≤ session.debouncer.next ∧
          session.debouncer.delay = earlier.debouncer.delay :=
    fun present => ⟨session, present, rfl, Nat.le_refl _, rfl⟩
  cases act with
  | noted _ _ _ alike => exact .inl (same (alike.sessions ▸ member))
  | adopted _ clock uri leaver outcome turns _ =>
    obtain ⟨_, _, respond, sessions⟩ := adopt_frame orderly.numbered clock turns.once
    rw [sessions] at member
    obtain ⟨earlier, present, rfl⟩ := List.mem_map.mp member
    refine .inl ⟨earlier, present, (number_respond _ _).symm, ?_⟩
    cases respond earlier with
    | rest | resolve => exact ⟨Nat.le_refl _, rfl⟩
    | sync => exact ⟨Nat.le_succ _, rfl⟩
  | enrolled _ uri client _ =>
    rcases List.mem_append.mp member with present | added
    · exact .inl (same present)
    · cases List.mem_singleton.mp added
      exact .inr ⟨rfl, rfl⟩
  | withdrawn _ _ gone _ _ => exact .inl (same (List.mem_of_mem_filter member))
  | shown _ shown draft build _ _ _ =>
    obtain ⟨earlier, was, ⟨_, rfl⟩ | ⟨_, rfl⟩⟩ := of_mem_changeSession member
    · exact .inl ⟨earlier, was, rfl, Nat.le_refl _, rfl⟩
    · exact .inl (same was)
  | expired _ _ waited call debouncer present due =>
    unfold Debouncer.expire? at due
    split at due
    · cases due
      obtain ⟨earlier, was, ⟨is, rfl⟩ | ⟨_, rfl⟩⟩ := of_mem_changeSession member
      · cases orderly.numbered.unique present was is
        exact .inl ⟨waited, was, rfl, Nat.le_refl _, rfl⟩
      · exact .inl (same was)
    · cases due
  | filed | connected | disconnected | judged | settled | accepted | started | finished
  | ticksBegun | tickPlanned | taken | begun | moved => exact .inl (same member)

/-- Time never goes back. -/
theorem Act.now_le (act : Act may stage before after) (orderly : before.Orderly) :
    before.agenda.now ≤ after.agenda.now := by
  cases act with
  | noted _ _ _ alike => exact Nat.le_of_eq (congrArg Agenda.now alike.agenda).symm
  | adopted _ clock uri leaver outcome turns _ =>
    obtain ⟨_, alike⟩ | ⟨update, _, heard⟩ := adopt_cases orderly.numbered clock turns.once
    · exact Nat.le_of_eq (congrArg Agenda.now alike.agenda).symm
    · exact Nat.le_of_eq (congrArg Agenda.now heard.agenda).symm
  | moved _ _ time later => exact later
  | _ => exact Nat.le_refl _

end Acts

theorem now_le_act [Files.Store φ] {workspace : Workspace φ} (orderly : workspace.Orderly)
    (move : Move φ) : workspace.agenda.now ≤ (workspace.act move).agenda.now := by
  refine (act_happens orderly move).keep_orderly orderly (workspace.agenda.now ≤ ·.agenda.now) ?_
    (Nat.le_refl _)
  intro stage before after inOrder reached act
  exact Nat.le_trans reached (act.now_le inOrder)

/-- Whether the wait of a call of a session has yet to begin or to end. -/
def CallPlanned (workspace : Workspace φ) (number call : Nat) (direction : Direction) : Prop :=
  workspace.Planned (.beginWait number call direction) ∨
    workspace.Planned (.endWait number call direction)

/-- Whether what is planned is in order: calls are those that sessions registered, each
with one direction, and nothing waits but the ends of waits and ticks, for a time to
come. -/
structure Punctual (workspace : Workspace φ) : Prop where
  known : ∀ number call direction, workspace.CallPlanned number call direction →
    number < workspace.nextSession ∧
      ∀ session ∈ workspace.sessions, session.number = number → call < session.debouncer.next
  agree : ∀ number call first second, workspace.CallPlanned number call first →
    workspace.CallPlanned number call second → first = second
  waits : ∀ due task, (due, task) ∈ workspace.agenda.waiting → workspace.agenda.now < due ∧
    ((∃ number call direction, task = .endWait number call direction ∧
      due ≤ workspace.agenda.now + workspace.settings.debounceDelay.toNat) ∨
        ∃ number, task = .tick number)
  delay : ∀ session ∈ workspace.sessions,
    session.debouncer.delay = workspace.settings.debounceDelay.toNat

theorem punctual_create (files : φ) (settings : Settings) : (create files settings).Punctual where
  known := by
    rintro number call direction ((ready | ⟨due, waiting⟩) | (ready | ⟨due, waiting⟩))
    · exact nomatch ready
    · exact nomatch waiting
    · exact nomatch ready
    · exact nomatch waiting
  agree := by
    rintro number call first second ((ready | ⟨due, waiting⟩) | (ready | ⟨due, waiting⟩))
    · exact nomatch ready
    · exact nomatch waiting
    · exact nomatch ready
    · exact nomatch waiting
  waits _ _ waiting := nomatch waiting
  delay _ member := nomatch member

/-- A resolution that is planned is ready. -/
theorem Punctual.ready_of_resolve {workspace : Workspace φ} (punctual : workspace.Punctual)
    {number : Nat} {side : Side} (planned : workspace.Planned (.resolve number side)) :
    .resolve number side ∈ workspace.agenda.ready := by
  rcases planned with ready | ⟨due, waiting⟩
  · exact ready
  · obtain ⟨_, ⟨_, _, _, ends, _⟩ | ⟨_, tick⟩⟩ := punctual.waits _ _ waiting
    · exact nomatch ends
    · exact nomatch tick

section Acts

variable {may : Licence → Prop} {stage : Stage} {before after : Workspace φ}

/-- A call that is planned was planned before or is registered now. -/
theorem Act.callPlanned (act : Act may stage before after) (orderly : before.Orderly)
    {number call : Nat} {direction : Direction}
    (planned : after.CallPlanned number call direction) :
    before.CallPlanned number call direction ∨
      before.Plans after (.beginWait number call direction) := by
  rcases planned with begins | ends
  · exact (act.planned orderly begins).imp .inl id
  · rcases act.planned orderly ends with before | new
    · exact .inl (.inr before)
    · cases new with
      | wait _ _ _ planned => exact .inl (.inl planned)

/-- A call that was known stays known. -/
theorem Act.known (act : Act may stage before after) (orderly : before.Orderly)
    (punctual : before.Punctual) {number call : Nat} {direction : Direction}
    (planned : before.CallPlanned number call direction) :
    number < after.nextSession ∧
      ∀ session ∈ after.sessions, session.number = number → call < session.debouncer.next := by
  obtain ⟨below, registered⟩ := punctual.known number call direction planned
  refine ⟨Nat.lt_of_lt_of_le below (act.nextSession_le orderly), ?_⟩
  intro session member same
  rcases act.earlier orderly member with ⟨earlier, was, continues, grown, _⟩ | ⟨fresh, _⟩
  · exact Nat.lt_of_lt_of_le (registered earlier was (continues.trans same)) grown
  · exact absurd below (by omega)

/-- What waits after an act waits for a time to come. -/
theorem Act.waits (act : Act may stage before after) (orderly : before.Orderly)
    (punctual : before.Punctual) {due : Nat} {task : Task}
    (waiting : (due, task) ∈ after.agenda.waiting) : after.agenda.now < due ∧
      ((∃ number call direction, task = .endWait number call direction ∧
        due ≤ after.agenda.now + before.settings.debounceDelay.toNat) ∨
          ∃ number, task = .tick number) := by
  cases act with
  | noted _ _ _ alike =>
    rw [alike.agenda] at waiting ⊢
    exact punctual.waits due task waiting
  | adopted _ clock uri leaver outcome turns _ =>
    obtain ⟨_, alike⟩ | ⟨update, _, heard⟩ := adopt_cases orderly.numbered clock turns.once
    · rw [alike.agenda] at waiting ⊢
      exact punctual.waits due task waiting
    · rw [heard.agenda] at waiting ⊢
      exact punctual.waits due task waiting
  | tickPlanned _ _ number present period =>
    rcases List.mem_append.mp waiting with before | added
    · exact punctual.waits due task before
    · cases List.mem_singleton.mp added
      exact ⟨Nat.lt_add_of_pos_right (Nat.pos_of_ne_zero period), .inr ⟨number, rfl⟩⟩
  | begun _ _ position session call direction present ready patient =>
    rcases List.mem_append.mp waiting with before | added
    · exact punctual.waits due task before
    · cases List.mem_singleton.mp added
      refine ⟨Nat.lt_add_of_pos_right (Nat.pos_of_ne_zero patient), .inl ⟨_, _, _, rfl, ?_⟩⟩
      rw [punctual.delay session present]
      exact Nat.le_refl _
  | moved _ _ time later =>
    obtain ⟨waited, ahead⟩ := List.mem_filter.mp waiting
    refine ⟨of_decide_eq_true ahead, (punctual.waits due task waited).2.imp_left ?_⟩
    rintro ⟨number, call, direction, same, bound⟩
    exact ⟨number, call, direction, same, Nat.le_trans bound (Nat.add_le_add_right later _)⟩
  | _ => exact punctual.waits due task waiting

/-- Every act keeps what is planned in order. -/
theorem Act.punctual (act : Act may stage before after) (orderly : before.Orderly)
    (punctual : before.Punctual) : after.Punctual where
  known := by
    intro number call direction planned
    rcases act.callPlanned orderly planned with before | new
    · exact act.known orderly punctual before
    · cases new with
      | call session present _ registered _ =>
        exact ⟨Nat.lt_of_lt_of_le (orderly.numbered.below session present)
          (act.nextSession_le orderly), registered⟩
  agree := by
    -- A call that is registered now was not planned before, so both plans of it are new.
    have fresh : ∀ session ∈ before.sessions, ∀ direction,
        ¬before.CallPlanned session.number session.debouncer.next direction := by
      intro session present direction planned
      have registered := (punctual.known _ _ _ planned).2 session present rfl
      exact absurd registered (Nat.lt_irrefl _)
    intro number call first second one other
    rcases act.callPlanned orderly one with before | new
    · rcases act.callPlanned orderly other with again | new
      · exact punctual.agree number call first second before again
      · cases new with
        | call session present _ _ _ => exact absurd before (fresh session present first)
    · cases new with
      | call session present _ _ single =>
        rcases act.callPlanned orderly other with before | new
        · exact absurd before (fresh session present second)
        · rcases other with begins | ends
          · rcases single second begins with before | same
            · exact absurd (.inl before) (fresh session present second)
            · exact same.symm
          · rcases act.planned orderly ends with before | wait
            · exact absurd (.inr before) (fresh session present second)
            · cases wait with
              | wait _ _ _ planned => exact absurd (.inl planned) (fresh session present second)
  waits := by
    intro due task waiting
    rw [act.settings_eq orderly.numbered]
    exact act.waits orderly punctual waiting
  delay := by
    intro session member
    rw [act.settings_eq orderly.numbered]
    rcases act.earlier orderly member with ⟨earlier, was, _, _, same⟩ | ⟨_, begun⟩
    · exact same.trans (punctual.delay earlier was)
    · exact begun

/-- Whatever happens keeps what is planned in order. -/
theorem Happens.punctual (happens : Happens may before after) (orderly : before.Orderly)
    (punctual : before.Punctual) : after.Punctual := by
  refine happens.keep_orderly orderly Punctual ?_ punctual
  intro stage earlier later settled still act
  exact act.punctual settled still

end Acts

theorem settings_after [Files.Store φ] {workspace : Workspace φ} (orderly : workspace.Orderly)
    (moves : List (Move φ)) : (workspace.after moves).settings = workspace.settings := by
  refine after_keep orderly moves (·.settings = workspace.settings) ?_ rfl
  intro earlier move settled same
  refine (act_happens settled move).keep_orderly settled (·.settings = workspace.settings) ?_ same
  intro stage before after inOrder agreed act
  exact (act.settings_eq inOrder.numbered).trans agreed

theorem punctual_after [Files.Store φ] {workspace : Workspace φ} (orderly : workspace.Orderly)
    (punctual : workspace.Punctual) (moves : List (Move φ)) : (workspace.after moves).Punctual := by
  refine after_keep orderly moves Punctual ?_ punctual
  intro workspace move settled still
  exact (act_happens settled move).punctual settled still

end Workspace

end Flowdesk
