import Flowdesk.Proofs.Workspace.Hearing
import Flowdesk.Workspace.Agenda
import Mathlib.Logic.Relation

/-!
# Acts of a workspace

Whatever happens to a workspace is a chain of acts of a few kinds: an operation of the
registry is adopted and heard of, the course of a document changes, a session begins,
ends or is shown a build, a task is planned, put off, taken up or becomes due. A law
that every act keeps is kept by everything that happens, in any order.

Three things are told apart. Some acts need a licence, since most laws hold only while
nobody leaves or sets conflicts aside. And of the others some change documents, and some
carry a document as it is into a course or a view: whatever happens at once first gets
ready, then changes documents in one act at most, and tells of them at last.
-/

namespace Flowdesk.Workspace

open Data Sync Workflow

variable {φ α : Type}

/-- What not every chain of acts may do. -/
inductive Licence where
  /-- Let the hold of a client on a document go. -/
  | hold (uri client : String)
  /-- Take the part of a client in the syncs of a document away. -/
  | link (uri client : String)
  /-- Set the conflicts of a document aside. -/
  | settle (uri : String)

/-- How far something that happens has got. -/
inductive Stage where
  /-- No document was changed or told of yet. -/
  | ready
  /-- The one act that may change documents. -/
  | write
  /-- No document is changed any longer. -/
  | tell

/-- The workspace without a ready task. -/
def without (workspace : Workspace φ) (position : Nat) : Workspace φ :=
  { workspace with agenda := { workspace.agenda with
      ready := workspace.agenda.ready.eraseIdx position } }

/-- Whether a session of a number is there. -/
def Present (workspace : Workspace φ) (number : Nat) : Prop :=
  ∃ session ∈ workspace.sessions, session.number = number

/-- One act at a stage, with no more licences than there are. -/
inductive Act (may : Licence → Prop) : Stage → Workspace φ → Workspace φ → Prop where
  | noted (stage : Stage) (workspace after : Workspace φ) (alike : Alike workspace after) :
      Act may stage workspace after
  | filed (stage : Stage) (workspace : Workspace φ) (files : φ) :
      Act may stage workspace { workspace with registry := { workspace.registry with files } }
  | adopted {α : Type} (workspace : Workspace φ) (clock : Clock) (uri : String)
      (leaver : Option String) (outcome : Registry.Outcome φ α)
      (turns : outcome.Turns workspace.registry uri leaver)
      (allowed : ∀ client, leaver = some client → may (.hold uri client)) :
      Act may .write workspace (workspace.adopt clock outcome).1
  | connected (stage : Stage) (workspace : Workspace φ) (uri client : String) (method : Method) :
      Act may stage workspace (workspace.coordinate (·.connect uri client method))
  | disconnected (stage : Stage) (workspace : Workspace φ) (uri client : String)
      (allowed : may (.link uri client)) :
      Act may stage workspace (workspace.coordinate (·.disconnect uri client))
  | judged (workspace : Workspace φ) (uri : String) (draft : Draft)
      (found : workspace.registry.draft? uri = some draft) :
      Act may .tell workspace (workspace.coordinate fun coordinator =>
        (coordinator.observe uri (draft.current workspace.timestamp)).2)
  | settled (stage : Stage) (workspace : Workspace φ) (uri : String)
      (allowed : may (.settle uri)) :
      Act may stage workspace (workspace.coordinate (·.beginResolution uri none))
  | accepted (workspace : Workspace φ) (uri : String) (draft : Draft)
      (found : workspace.registry.draft? uri = some draft) (allowed : may (.settle uri)) :
      Act may .tell workspace (workspace.coordinate
        (·.beginResolution uri (some (draft.current workspace.timestamp))))
  | started (stage : Stage) (workspace : Workspace φ) (uri : String) (coordinator : Coordinator)
      (free : workspace.coordinator.start? uri = some coordinator) :
      Act may stage workspace { workspace with coordinator }
  | finished (stage : Stage) (workspace : Workspace φ) (uri : String) (direction : Direction)
      (ending : Ending) :
      Act may stage workspace
        (workspace.coordinate (·.finish uri direction ending workspace.timestamp))
  | shown (workspace : Workspace φ) (session : Session) (draft : Draft) (build : Build)
      (present : session ∈ workspace.sessions)
      (found : workspace.registry.draft? session.uri = some draft)
      (built : workspace.registry.build? session.uri = some build) :
      Act may .tell workspace (workspace.display session build draft).1
  | enrolled (workspace : Workspace φ) (uri client : String)
      (held : workspace.registry.Holds uri client) :
      Act may .tell workspace (workspace.enrol uri client)
  | withdrawn (stage : Stage) (workspace : Workspace φ) (session : Session)
      (present : session ∈ workspace.sessions) (allowed : may (.link session.uri session.client)) :
      Act may stage workspace { workspace with
        sessions := workspace.sessions.filter (·.number ≠ session.number) }
  | expired (stage : Stage) (workspace : Workspace φ) (session : Session) (call : Nat)
      (debouncer : Debouncer String) (present : session ∈ workspace.sessions)
      (due : session.debouncer.expire? session.uri call = some debouncer) :
      Act may stage workspace
        (workspace.changeSession session.number ({ · with debouncer }))
  | ticksBegun (stage : Stage) (workspace : Workspace φ) (number : Nat)
      (present : workspace.Present number) :
      Act may stage workspace (workspace.plan (.beginTicks number))
  | tickPlanned (stage : Stage) (workspace : Workspace φ) (number : Nat)
      (present : workspace.Present number)
      (period : workspace.settings.autoSyncInterval.toNat ≠ 0) :
      Act may stage workspace
        (workspace.putOff workspace.settings.autoSyncInterval.toNat (.tick number))
  | taken (stage : Stage) (workspace : Workspace φ) (position : Nat) :
      Act may stage workspace (workspace.without position)
  | begun (stage : Stage) (workspace : Workspace φ) (position : Nat) (session : Session)
      (call : Nat) (direction : Direction) (present : session ∈ workspace.sessions)
      (ready : workspace.agenda.ready[position]? =
        some (.beginWait session.number call direction))
      (patient : session.debouncer.delay ≠ 0) :
      Act may stage workspace ((workspace.without position).putOff session.debouncer.delay
        (.endWait session.number call direction))
  | moved (stage : Stage) (workspace : Workspace φ) (time : Nat)
      (later : workspace.agenda.now ≤ time) :
      Act may stage workspace { workspace with agenda := workspace.agenda.moveTo time }

/-- Any number of acts at a stage. -/
abbrev Acts (may : Licence → Prop) (stage : Stage) : Workspace φ → Workspace φ → Prop :=
  Relation.ReflTransGen (Act may stage)

/-- What happens at once: everything is got ready, documents are changed in one act at
most, and they are told of. -/
inductive Happens (may : Licence → Prop) (before after : Workspace φ) : Prop where
  | writing (ready written : Workspace φ) (prepared : Acts may .ready before ready)
      (write : Act may .write ready written) (told : Acts may .tell written after)
  | telling (ready : Workspace φ) (prepared : Acts may .ready before ready)
      (told : Acts may .tell ready after)

section Happens

variable {may : Licence → Prop} {stage : Stage} {before between after : Workspace φ}

/-- A law that is kept by every act is kept by any number of them. -/
theorem Acts.keep {law : Workspace φ → Prop}
    (step : ∀ before after, law before → Act may stage before after → law after)
    (acts : Acts may stage before after) (holds : law before) : law after := by
  induction acts with
  | refl => exact holds
  | tail _ last inductionHypothesis => exact step _ _ inductionHypothesis last

/-- A law that is kept by every act is kept by whatever happens. -/
theorem Happens.keep {law : Workspace φ → Prop}
    (step : ∀ stage before after, law before → Act may stage before after → law after)
    (happens : Happens may before after) (holds : law before) : law after := by
  cases happens with
  | writing ready written prepared write told =>
    exact told.keep (step .tell) (step .write _ _ (prepared.keep (step .ready) holds) write)
  | telling ready prepared told =>
    exact told.keep (step .tell) (prepared.keep (step .ready) holds)

/-- Nothing happens. -/
theorem Happens.refl (workspace : Workspace φ) : Happens may workspace workspace :=
  .telling workspace .refl .refl

/-- Documents are told of and that is all. -/
theorem Acts.happens (told : Acts may .tell before after) : Happens may before after :=
  .telling before .refl told

/-- An act that changes documents, and that is all. -/
theorem Act.happens (write : Act may .write before after) : Happens may before after :=
  .writing before after .refl write .refl

/-- One more act to get ready. -/
theorem Happens.head (first : Act may .ready before between) (rest : Happens may between after) :
    Happens may before after := by
  cases rest with
  | writing ready written prepared write told =>
    exact .writing ready written (prepared.head first) write told
  | telling ready prepared told => exact .telling ready (prepared.head first) told

/-- More acts that tell of documents. -/
theorem Happens.trans (first : Happens may before between) (rest : Acts may .tell between after) :
    Happens may before after := by
  cases first with
  | writing ready written prepared write told =>
    exact .writing ready written prepared write (told.trans rest)
  | telling ready prepared told => exact .telling ready prepared (told.trans rest)

end Happens

/-- Whether a workspace keeps its documents and its sessions in order. -/
structure Orderly (workspace : Workspace φ) : Prop where
  sound : workspace.registry.Sound
  numbered : workspace.Numbered

/-- The workspace without documents is orderly. -/
theorem orderly_create (files : φ) (settings : Settings) :
    (create files settings).Orderly where
  sound := Registry.sound_create files
  numbered := ⟨List.nodup_nil, fun _ member => nomatch member⟩

/-- A workspace with the sessions and numbers of an orderly one, and a sound registry, is
orderly. -/
theorem Orderly.congr {before after : Workspace φ} (orderly : before.Orderly)
    (sound : after.registry.Sound)
    (numbers : after.sessions.map (·.number) = before.sessions.map (·.number))
    (nextSession : after.nextSession = before.nextSession) : after.Orderly := by
  refine ⟨sound, numbers ▸ orderly.numbered.distinct, ?_⟩
  intro session member
  have listed : session.number ∈ before.sessions.map (·.number) :=
    numbers ▸ List.mem_map_of_mem member
  obtain ⟨other, present, same⟩ := List.mem_map.mp listed
  rw [nextSession, ← same]
  exact orderly.numbered.below other present

theorem orderly_without {workspace : Workspace φ} (orderly : workspace.Orderly)
    (position : Nat) : (workspace.without position).Orderly :=
  orderly.congr orderly.sound rfl rfl

/-- A session that begins gets a number of its own. -/
theorem Orderly.enrol {workspace : Workspace φ} (orderly : workspace.Orderly)
    (uri client : String) : (workspace.enrol uri client).Orderly := by
  refine ⟨orderly.sound, ?_, ?_⟩
  · simp only [Workspace.enrol, List.map_append, List.map_cons, List.map_nil]
    refine List.nodup_append.mpr ⟨orderly.numbered.distinct, List.nodup_singleton _, ?_⟩
    intro number listed other fresh
    obtain ⟨session, present, rfl⟩ := List.mem_map.mp listed
    rw [List.mem_singleton.mp fresh]
    exact Nat.ne_of_lt (orderly.numbered.below session present)
  · intro session member
    simp only [Workspace.enrol] at member ⊢
    rcases List.mem_append.mp member with present | fresh
    · exact Nat.lt_succ_of_lt (orderly.numbered.below session present)
    · rw [List.mem_singleton.mp fresh]
      exact Nat.lt_succ_self _

/-- A change that leaves the numbers of sessions alone. -/
theorem numbers_changeSession (workspace : Workspace φ) (number : Nat)
    (change : Session → Session) (keeps : ∀ session, (change session).number = session.number) :
    (workspace.changeSession number change).sessions.map (·.number) =
      workspace.sessions.map (·.number) := by
  rw [changeSession, List.map_map]
  apply List.map_congr_left
  intro session _
  simp only [Function.comp]
  split
  · exact keeps session
  · rfl

/-- A session after a change of the session of a number. -/
theorem of_mem_changeSession {workspace : Workspace φ} {number : Nat}
    {change : Session → Session} {session : Session}
    (member : session ∈ (workspace.changeSession number change).sessions) :
    ∃ earlier ∈ workspace.sessions,
      (earlier.number = number ∧ session = change earlier) ∨
        (earlier.number ≠ number ∧ session = earlier) := by
  obtain ⟨earlier, present, rfl⟩ := List.mem_map.mp member
  refine ⟨earlier, present, ?_⟩
  by_cases same : earlier.number = number
  · exact .inl ⟨same, if_pos same⟩
  · exact .inr ⟨same, if_neg same⟩

/-- Adopting an operation leaves the registry of its outcome, and the sessions with their
numbers. -/
theorem adopt_frame {workspace : Workspace φ} (numbered : workspace.Numbered) (clock : Clock)
    {outcome : Registry.Outcome φ α} (once : (Registry.updates outcome.events).length ≤ 1) :
    (workspace.adopt clock outcome).1.registry = outcome.registry ∧
      (workspace.adopt clock outcome).1.nextSession = workspace.nextSession ∧
      ∃ respond : Session → Reaction, (workspace.adopt clock outcome).1.sessions =
        workspace.sessions.map fun session => session.respond (respond session) := by
  obtain ⟨_, alike⟩ | ⟨update, _, heard⟩ := adopt_cases numbered clock once
  · refine ⟨alike.registry, alike.nextSession, fun _ => .rest, ?_⟩
    rw [alike.sessions]
    exact (List.map_id workspace.sessions).symm
  · have sessions := heard.sessions
    rw [List.append_nil] at sessions
    exact ⟨heard.registry, heard.nextSession, _, sessions⟩

section Orderly

variable {may : Licence → Prop} {stage : Stage} {before after : Workspace φ}

/-- Every act keeps a workspace orderly. -/
theorem Act.orderly (act : Act may stage before after) (orderly : before.Orderly) :
    after.Orderly := by
  cases act with
  | noted _ _ _ alike =>
    exact orderly.congr (alike.registry ▸ orderly.sound) (by rw [alike.sessions]) alike.nextSession
  | filed _ _ files => exact orderly.congr (orderly.sound.withFiles files) rfl rfl
  | adopted _ clock uri leaver outcome turns _ =>
    obtain ⟨registry, nextSession, respond, sessions⟩ :=
      adopt_frame orderly.numbered clock turns.once
    refine orderly.congr (registry ▸ turns.sound) ?_ nextSession
    rw [sessions]
    simp
  | connected | disconnected | judged | settled | accepted | started | finished | ticksBegun
  | tickPlanned | taken | begun | moved => exact orderly.congr orderly.sound rfl rfl
  | shown _ session draft build _ _ _ =>
    exact orderly.congr orderly.sound (numbers_changeSession _ _ _ fun _ => rfl) rfl
  | expired _ _ session call debouncer _ _ =>
    exact orderly.congr orderly.sound (numbers_changeSession _ _ _ fun _ => rfl) rfl
  | enrolled _ uri client _ => exact orderly.enrol uri client
  | withdrawn _ _ session _ _ =>
    refine ⟨orderly.sound, ?_, ?_⟩
    · exact orderly.numbered.distinct.sublist (List.filter_sublist.map _)
    · intro other member
      exact orderly.numbered.below other (List.mem_of_mem_filter member)

theorem Acts.orderly (acts : Acts may stage before after) (orderly : before.Orderly) :
    after.Orderly :=
  acts.keep (fun _ _ holds act => act.orderly holds) orderly

/-- Whatever happens keeps a workspace orderly. -/
theorem Happens.orderly (happens : Happens may before after) (orderly : before.Orderly) :
    after.Orderly :=
  happens.keep (fun _ _ _ holds act => act.orderly holds) orderly

/-- A law that every act keeps of an orderly workspace is kept of it by whatever happens. -/
theorem Happens.keep_orderly (happens : Happens may before after) (orderly : before.Orderly)
    (law : Workspace φ → Prop)
    (step : ∀ stage before after, before.Orderly → law before → Act may stage before after →
      law after) (holds : law before) : law after := by
  have kept : after.Orderly ∧ law after := by
    apply happens.keep
    · rintro stage earlier later ⟨settled, still⟩ act
      exact ⟨act.orderly settled, step stage earlier later settled still act⟩
    · exact ⟨orderly, holds⟩
  exact kept.2

end Orderly

theorem present_of_numbers {before after : Workspace φ}
    (numbers : after.sessions.map (·.number) = before.sessions.map (·.number)) {number : Nat}
    (present : before.Present number) : after.Present number := by
  obtain ⟨session, member, rfl⟩ := present
  have listed : session.number ∈ after.sessions.map (·.number) :=
    numbers ▸ List.mem_map_of_mem member
  obtain ⟨other, still, same⟩ := List.mem_map.mp listed
  exact ⟨other, still, same⟩

/-- While nobody leaves, a session that is there stays there. -/
theorem Act.present {may : Licence → Prop} {stage : Stage} {before after : Workspace φ}
    (act : Act may stage before after) (stay : ∀ uri client, ¬may (.link uri client))
    (orderly : before.Orderly) {number : Nat} (present : before.Present number) :
    after.Present number := by
  cases act with
  | noted _ _ _ alike => exact present_of_numbers (by rw [alike.sessions]) present
  | adopted _ clock uri leaver outcome turns _ =>
    obtain ⟨_, _, respond, sessions⟩ := adopt_frame orderly.numbered clock turns.once
    refine present_of_numbers ?_ present
    rw [sessions]
    simp
  | filed | connected | disconnected | judged | settled | accepted | started | finished
  | ticksBegun | tickPlanned | taken | begun | moved => exact present
  | shown _ session draft build _ _ _ =>
    refine present_of_numbers ?_ present
    exact numbers_changeSession _ _ _ fun _ => rfl
  | expired _ _ session call debouncer _ _ =>
    refine present_of_numbers ?_ present
    exact numbers_changeSession _ _ _ fun _ => rfl
  | enrolled _ uri client _ =>
    obtain ⟨session, member, same⟩ := present
    exact ⟨session, List.mem_append_left _ member, same⟩
  | withdrawn _ _ session _ allowed => exact absurd allowed (stay _ _)

theorem Acts.present {may : Licence → Prop} {stage : Stage} {before after : Workspace φ}
    (acts : Acts may stage before after) (stay : ∀ uri client, ¬may (.link uri client))
    (orderly : before.Orderly) {number : Nat} (present : before.Present number) :
    after.Present number := by
  induction acts with
  | refl => exact present
  | tail earlier last inductionHypothesis =>
    exact last.present stay (Acts.orderly earlier orderly) inductionHypothesis

end Flowdesk.Workspace
