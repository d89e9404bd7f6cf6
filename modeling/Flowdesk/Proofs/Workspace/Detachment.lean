import Flowdesk.Proofs.Workspace.Purge
import Flowdesk.Proofs.Workspace.Showing
import Flowdesk.Proofs.Workspace.Standoff

/-!
# After a session has ended

When a session ends, what was planned for it stays on the agenda: the wait of a debounced
sync, the replay of a side of a conflict, the next tick. Each of these looks for its
session when its turn comes, and numbers of sessions are never given again, so it finds
none and does nothing. The workspace goes on as if these tasks had been taken off the
agenda when the session ended, and nothing is sent but by sessions that are there.
-/

namespace Flowdesk

open Data Sync Workflow

section Lists

variable {α β : Type} {items : List α} {position : Nat} {item : α}

/-- A list is what comes before an item, the item, and what comes after it. -/
theorem eq_take_cons_drop (stands : items[position]? = some item) :
    items = items.take position ++ item :: items.drop (position + 1) := by
  obtain ⟨inside, rfl⟩ := List.getElem?_eq_some_iff.mp stands
  rw [List.getElem_cons_drop, List.take_append_drop]

variable {choose : α → Option β}

/-- An item that is chosen stands behind those that were chosen before it, and is missed
there if it is taken away. -/
theorem filterMap_at (stands : items[position]? = some item) {chosen : β}
    (chooses : choose item = some chosen) :
    (items.filterMap choose)[((items.take position).filterMap choose).length]? = some chosen ∧
      (items.eraseIdx position).filterMap choose =
        (items.filterMap choose).eraseIdx ((items.take position).filterMap choose).length := by
  have among : items.filterMap choose = (items.take position).filterMap choose ++
      chosen :: (items.drop (position + 1)).filterMap choose := by
    conv_lhs => rw [eq_take_cons_drop stands]
    rw [List.filterMap_append, List.filterMap_cons_some chooses]
  rw [among]
  constructor
  · rw [List.getElem?_append_right (Nat.le_refl _), Nat.sub_self, List.getElem?_cons_zero]
  · rw [List.eraseIdx_append_of_length_le (Nat.le_refl _), Nat.sub_self, List.eraseIdx_cons_zero,
      List.eraseIdx_eq_take_drop_succ, List.filterMap_append]

/-- An item that is not chosen is not missed. -/
theorem filterMap_eraseIdx_of_none (stands : items[position]? = some item)
    (spurned : choose item = none) :
    (items.eraseIdx position).filterMap choose = items.filterMap choose := by
  conv_rhs => rw [eq_take_cons_drop stands]
  rw [List.eraseIdx_eq_take_drop_succ, List.filterMap_append, List.filterMap_append,
    List.filterMap_cons_none spurned]

end Lists

namespace Workspace

variable {φ : Type}

/-- Whether a session was there and is no more. -/
structure Departed (workspace : Workspace φ) (number : Nat) : Prop where
  known : number < workspace.nextSession
  lacks : workspace.Lacks number

/-- The moves that a move comes to without the tasks of a session. One that carries out
such a task is not made; the other ready tasks have moved up. -/
def spared (workspace : Workspace φ) (number : Nat) : Move φ → List (Move φ)
  | .work position =>
      match workspace.agenda.ready[position]? with
      | some task =>
          if taskSession task = number then []
          else
            let earlier := workspace.agenda.ready.take position
            [.work (earlier.filterMap (Task.unlessOf number)).length]
      | none => []
  | move => [move]

section Departed

variable {workspace : Workspace φ} {number : Nat}

/-- A task of a session that is not there is taken off the agenda, and that is all. -/
theorem workAt_of_lacks (lacks : workspace.Lacks number) {position : Nat} {task : Task}
    (ready : workspace.agenda.ready[position]? = some task) (of : taskSession task = number) :
    workspace.workAt position = workspace.without position := by
  have nobody : (workspace.without position).session? (taskSession task) = none := by
    rw [Option.eq_none_iff_forall_ne_some]
    intro session found
    obtain ⟨present, same⟩ := of_session? found
    exact lacks session present (same.trans of)
  unfold workAt perform
  simp only [ready, nobody]

/-- To take such a task off the agenda makes no difference once they all are. -/
theorem purge_without_of_eq {position : Nat} {task : Task}
    (ready : workspace.agenda.ready[position]? = some task) (of : taskSession task = number) :
    (workspace.without position).purge number = workspace.purge number := by
  unfold purge without Agenda.pick
  simp only
  rw [filterMap_eraseIdx_of_none ready (if_pos of)]

/-- A ready task of a session that is there is carried out from where it stands. -/
theorem workAt_purge (lacks : workspace.Lacks number) {position : Nat} {task : Task}
    (ready : workspace.agenda.ready[position]? = some task) (other : taskSession task ≠ number) :
    (workspace.purge number).workAt
        ((workspace.agenda.ready.take position).filterMap (Task.unlessOf number)).length =
      (workspace.workAt position).purge number := by
  obtain ⟨stands, rest⟩ := filterMap_at ready (Task.unlessOf_of_ne other)
  have left : (workspace.purge number).without
      ((workspace.agenda.ready.take position).filterMap (Task.unlessOf number)).length =
        (workspace.without position).purge number := by
    unfold purge without Agenda.pick
    simp only
    rw [rest]
  have purged : (workspace.purge number).agenda.ready =
      workspace.agenda.ready.filterMap (Task.unlessOf number) := rfl
  have still : (workspace.without position).Lacks number := lacks
  unfold workAt
  rw [purged, stands, ready]
  simp only
  rw [left, perform_purge still]

variable [Files.Store φ]

/-- What a move comes to without the tasks of a session that is not there is what it comes
to with them, but for these tasks. -/
theorem purge_act (orderly : workspace.Orderly) (departed : workspace.Departed number)
    (move : Move φ) :
    (workspace.act move).purge number =
      (workspace.purge number).after (workspace.spared number move) := by
  have lacks := departed.lacks
  have adopted {α : Type} (clock : Clock) (outcome : Registry.Outcome φ α) :
      (workspace.adopt clock outcome).1.purge number =
        ((workspace.purge number).adopt clock outcome).1 :=
    (congrArg Prod.fst (adopt_purge lacks clock outcome)).symm
  cases move with
  | openFor | save | close | rebuild | reload => exact adopted .within _
  | update clock => exact adopted clock _
  | refile | connect | disconnect | beginResolution | collect | hangUp => rfl
  | observe uri => exact (observeCurrent_purge uri).symm
  | attach uri client =>
    exact (congrArg Prod.fst (attach_purge orderly lacks departed.known uri client)).symm
  | detach other => exact (detach_purge lacks other).symm
  | sync other direction => exact (congrArg Prod.fst (run_purge lacks other direction)).symm
  | syncAndSend other direction =>
    exact (congrArg Prod.fst (runAndPublish_purge lacks other direction)).symm
  | resolve other side => exact (congrArg Prod.fst (resolve_purge lacks other side)).symm
  | submitPatch other patch =>
    change (workspace.ask other _).purge number = (workspace.purge number).ask other _
    unfold ask
    rw [session?_purge]
    cases workspace.session? other with
    | none => rfl
    | some session => exact (congrArg Prod.fst (submitPatch_purge lacks session patch)).symm
  | submitText other text =>
    change (workspace.ask other _).purge number = (workspace.purge number).ask other _
    unfold ask
    rw [session?_purge]
    cases workspace.session? other with
    | none => rfl
    | some session => exact (congrArg Prod.fst (commit_purge lacks session text)).symm
  | wait time => exact (waitFor_purge time).symm
  | work position =>
    cases ready : workspace.agenda.ready[position]? with
    | none =>
      simp only [spared, act, workAt, ready]
      rfl
    | some task =>
      simp only [spared, ready]
      -- a task of the session comes to nothing; any other one has moved up
      split
      · next of =>
        change (workspace.workAt position).purge number = workspace.purge number
        rw [workAt_of_lacks lacks ready of, purge_without_of_eq ready of]
      · next other => exact (workAt_purge lacks ready other).symm

/-- A session that has ended does not come back. -/
theorem Departed.act (departed : workspace.Departed number) (orderly : workspace.Orderly)
    (move : Move φ) : (workspace.act move).Departed number := by
  have happens := act_happens orderly move
  constructor
  · exact Nat.lt_of_lt_of_le departed.known (happens.nextSession_le orderly)
  · intro session present same
    cases happens.sessions orderly present with
    | continued earlier was continues =>
      exact departed.lacks earlier was (continues.number.trans same)
    | begun fresh =>
      exact Nat.lt_irrefl _ (Nat.lt_of_lt_of_le departed.known (same ▸ fresh))

/-- The moves that moves come to without the tasks of a session. -/
def thinned (number : Nat) : Workspace φ → List (Move φ) → List (Move φ)
  | _, [] => []
  | workspace, move :: moves =>
      workspace.spared number move ++ thinned number (workspace.act move) moves

/-- After any moves a session that has ended is still not there, and the workspace is, but
for the tasks of this session, what the moves come to without these tasks. -/
theorem purge_after (orderly : workspace.Orderly) (departed : workspace.Departed number)
    (moves : List (Move φ)) :
    (workspace.after moves).Departed number ∧
      (workspace.after moves).purge number =
        (workspace.purge number).after (thinned number workspace moves) := by
  induction moves generalizing workspace with
  | nil => exact ⟨departed, rfl⟩
  | cons first moves inductionHypothesis =>
    obtain ⟨still, same⟩ := inductionHypothesis (orderly_act orderly first)
      (departed.act orderly first)
    refine ⟨still, same.trans ?_⟩
    rw [purge_act orderly departed, thinned, after_append]

end Departed

section Detach

variable {workspace : Workspace φ} {session : Session}

theorem departed_detach (orderly : workspace.Orderly) (present : session ∈ workspace.sessions) :
    (workspace.detach session.number).Departed session.number := by
  have guests := guests_detach orderly (orderly.numbered.session?_eq present)
  constructor
  · have next : (workspace.detach session.number).nextSession = workspace.nextSession :=
      congrArg Guests.next guests
    exact next ▸ orderly.numbered.below session present
  · intro other still same
    have listed : other.entry ∈ (workspace.detach session.number).sessions.map Session.entry :=
      List.mem_map_of_mem still
    rw [show (workspace.detach session.number).sessions.map Session.entry =
      (workspace.sessions.map Session.entry).filter (·.1 ≠ session.number) from
        congrArg Guests.entries guests] at listed
    exact of_decide_eq_true (List.mem_filter.mp listed).2 same

/-- A document is closed with the session of its last holder. -/
theorem isOpen_detach (orderly : workspace.Orderly) (present : session ∈ workspace.sessions)
    (last : ∀ client, client ∈ workspace.registry.holders session.uri → client = session.client)
    (sound : (workspace.detach session.number).registry.Sound) :
    (workspace.detach session.number).registry.isOpen session.uri = false := by
  have guests := guests_detach orderly (orderly.numbered.session?_eq present)
  rw [Bool.eq_false_iff, Ne, Registry.isOpen_iff sound]
  rintro ⟨client, holds⟩
  change client ∈ (workspace.detach session.number).guests.holders session.uri at holds
  rw [guests] at holds
  obtain ⟨other, held⟩ := (Guests.mem_changed_erase _ _ _ _ _).mp holds
  exact other (congrArg (session.uri, ·) (last client held).symm)

end Detach

section Runs

variable [Files.Store φ]

/-- Take any moves, let a session end, and make any moves after that. No session goes by
its number any longer. A task that was planned for it is taken off the agenda when its turn
comes, and that is all. The workspace is, but for such tasks, what it comes to if they are
all taken off the agenda at once when the session ends. All that is sent from the end of
the session on is sent by other sessions, to their clients and about their documents. If
the client of the session was the last one that held the document, it is closed with the
session.

Proof: what is planned for the session finds no session and does nothing, so a workspace and the
same without these tasks make the same moves, but for the turns of these tasks. Whatever is sent
is sent by a session that is there, and none that is there has the number, which is never given
again. -/
theorem ended_session_leaves_no_trace (files : φ) (settings : Settings)
    (earlier later : List (Move φ)) (session : Session)
    (attached : session ∈ ((create files settings).after earlier).sessions) :
    let workspace := (create files settings).after earlier
    let left := workspace.detach session.number
    let now := left.after later
    (∀ other ∈ now.sessions, other.number ≠ session.number) ∧
    (∀ position task, now.agenda.ready[position]? = some task →
      taskSession task = session.number → now.act (.work position) = now.without position) ∧
    now.purge session.number =
      (left.purge session.number).after (thinned session.number left later) ∧
    (∃ fresh, left.sent = fresh ++ workspace.sent ∧
      ∀ batch ∈ fresh, ∃ other ∈ left.sessions,
        other.number ≠ session.number ∧ other.Speaks batch) ∧
    (∀ move, ∃ fresh kept, (now.act move).sent = fresh ++ kept ∧
      (kept = now.sent ∨ move = .collect) ∧
      ∀ batch ∈ fresh, ∃ other ∈ (now.act move).sessions,
        other.number ≠ session.number ∧ other.Speaks batch) ∧
    ((∀ client, client ∈ workspace.registry.holders session.uri → client = session.client) →
      left.registry.isOpen session.uri = false) := by
  intro workspace left now
  have orderly : workspace.Orderly := orderly_after (orderly_create files settings) earlier
  have settled : left.Orderly := orderly_act orderly (.detach session.number)
  have departed : left.Departed session.number := departed_detach orderly attached
  obtain ⟨gone, purged⟩ := purge_after settled departed later
  refine ⟨gone.lacks, ?_, purged, ?_, ?_, ?_⟩
  · intro position task ready of
    exact workAt_of_lacks gone.lacks ready of
  · obtain ⟨fresh, grown, said⟩ := said_detach workspace session.number
    refine ⟨fresh, grown, fun batch member => ?_⟩
    obtain ⟨other, present, speaks⟩ := said batch member
    exact ⟨other, present, departed.lacks other present, speaks⟩
  · intro move
    obtain ⟨fresh, kept, grown, beside, said⟩ := said_act now move
    refine ⟨fresh, kept, grown, beside, fun batch member => ?_⟩
    obtain ⟨other, present, speaks⟩ := said batch member
    have still : (now.act move).Departed session.number :=
      gone.act (orderly_after settled later) move
    exact ⟨other, present, still.lacks other present, speaks⟩
  · exact fun last => isOpen_detach orderly attached last settled.sound

end Runs

/-- A session is the only one that is left of a document whose text has just changed. -/
def lastGuest : List (Move Files.Memory) :=
  [.openFor ⟨"file:///a.wf", "t1", none, some 1, some (smallFlow "first")⟩,
    .attach "file:///a.wf" "g1",
    .update .within "file:///a.wf" 2 (smallFlow "second") "t1",
    .close "file:///a.wf" "t1"]

/-- It ends while its ticks and a debounced sync of it are planned. The document is closed,
and when the sync is due much later nothing comes of it. -/
theorem last_guest_leaves_no_trace :
    let workspace := (create Files.Memory.empty .usual).after lastGuest
    let left := workspace.detach 0
    let now := left.after [.wait 5000]
    (∃ session ∈ workspace.sessions, session.number = 0) ∧
      now.agenda.ready[1]? = some (.beginWait 0 0 .semanticToGraph) ∧
      now.act (.work 1) = now.without 1 ∧
      left.registry.isOpen "file:///a.wf" = false := by
  have run :
      let workspace := (create Files.Memory.empty .usual).after lastGuest
      ((workspace.session? 0).map Session.entry,
        (workspace.registry.holders "file:///a.wf").names,
        ((workspace.detach 0).after [.wait 5000]).agenda.ready[1]?) =
      (some (0, "file:///a.wf", "g1"), ["g1"], some (.beginWait 0 0 .semanticToGraph)) := by
    decide +kernel
  have silent := ended_session_leaves_no_trace Files.Memory.empty .usual lastGuest [.wait 5000]
  generalize (create Files.Memory.empty .usual).after lastGuest = workspace at run silent ⊢
  simp only [Prod.mk.injEq, Option.map_eq_some_iff] at run
  obtain ⟨⟨session, found, known⟩, holders, ready⟩ := run
  obtain ⟨attached, number⟩ := of_session? found
  have uri : session.uri = "file:///a.wf" := congrArg (·.2.1) known
  have client : session.client = "g1" := congrArg (·.2.2) known
  obtain ⟨_, idle, _, _, _, closed⟩ := silent session attached
  rw [number] at idle closed
  refine ⟨⟨session, attached, number⟩, ready, idle 1 _ ready rfl, ?_⟩
  rw [uri, client] at closed
  refine closed fun other holds => ?_
  rw [NameSet.mem_def, holders] at holds
  exact List.mem_singleton.mp holds

end Workspace

end Flowdesk
