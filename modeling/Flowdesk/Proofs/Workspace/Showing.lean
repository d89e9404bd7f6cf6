import Flowdesk.Proofs.Workspace.Act

/-!
# What acts do to documents and views

A document that a client holds stays open and becomes no earlier until the client lets
go of it. A view changes only when documents are told of, and then shows its document
as it is; a new session has the view of nothing. Put together, whatever happens leaves
each view as it was or shows it the document as it is afterwards.
-/

namespace Flowdesk

open Data Sync Workflow

/-- Being shown a text twice is being shown it once. -/
theorem View.update_update (view : View) (build : Build) (first second : Revision)
    (text : String) :
    (view.update build first text).update build second text = view.update build second text := by
  unfold update
  cases build.root <;> rfl

namespace Workspace

variable {φ : Type}

/-- Whether a view came out of another one by showing it a document as it is. -/
def Refreshed (workspace : Workspace φ) (uri : String) (earlier view : View) : Prop :=
  ∃ draft now, workspace.registry.draft? uri = some draft ∧
    view = earlier.update (Build.of uri draft.text) (draft.current now) draft.text

/-- Whether a session is an earlier one, apart from the calls it registered and from what
it was shown. -/
structure Continues (earlier session : Session) : Prop where
  number : earlier.number = session.number
  uri : earlier.uri = session.uri
  client : earlier.client = session.client

theorem Continues.refl (session : Session) : Continues session session := ⟨rfl, rfl, rfl⟩

theorem Continues.trans {first second third : Session} (early : Continues first second)
    (late : Continues second third) : Continues first third :=
  ⟨early.number.trans late.number, early.uri.trans late.uri, early.client.trans late.client⟩

theorem continues_respond (session : Session) (reaction : Reaction) :
    Continues session (session.respond reaction) ∧
      (session.respond reaction).view = session.view := by
  cases reaction <;> exact ⟨⟨rfl, rfl, rfl⟩, rfl⟩

/-- Where a session that is there afterwards comes from: it is an earlier one or a new
one, and if its view is not what it was then it was shown the document. -/
inductive Origin (before after : Workspace φ) (session : Session) : Prop where
  | continued (earlier : Session) (present : earlier ∈ before.sessions)
      (continues : Continues earlier session)
      (view : session.view = earlier.view ∨
        after.Refreshed session.uri earlier.view session.view)
  | begun (fresh : before.nextSession ≤ session.number)
      (view : session.view = .initial ∨ after.Refreshed session.uri .initial session.view)

section Acts

variable {may : Licence → Prop} {stage : Stage} {before after : Workspace φ}

/-- Only the writing act changes documents. -/
theorem Act.draft?_eq (act : Act may stage before after) (still : stage ≠ .write) (uri : String) :
    after.registry.draft? uri = before.registry.draft? uri := by
  cases act with
  | noted _ _ _ alike => rw [alike.registry]
  | adopted => exact absurd rfl still
  | _ => rfl

/-- A document stays open, and becomes no earlier, while a client of it stays. -/
theorem Act.holds (act : Act may stage before after) (orderly : before.Orderly)
    {uri client : String} (keeps : ¬may (.hold uri client)) {draft : Draft}
    (found : before.registry.draft? uri = some draft) (holds : client ∈ draft.holders) :
    ∃ next, after.registry.draft? uri = some next ∧ client ∈ next.holders ∧ draft.Later next := by
  by_cases still : stage = .write
  · cases act with
    | adopted _ clock changed leaver outcome turns allowed =>
      obtain ⟨registry, _⟩ := adopt_frame orderly.numbered clock turns.once
      rw [registry]
      refine turns.hold ?_ found holds
      rintro rfl leaves
      exact keeps (allowed client leaves)
    | noted _ _ _ alike => exact ⟨draft, by rw [alike.registry, found], holds, .refl draft⟩
    | judged | accepted | shown | enrolled => exact nomatch still
    | _ => exact ⟨draft, found, holds, .refl draft⟩
  · exact ⟨draft, (act.draft?_eq still uri).trans found, holds, .refl draft⟩

/-- Where a session comes from: it continues a session with the same view or with a view
that was shown the document, or it is new and its client holds the document. -/
theorem Act.sessions (act : Act may stage before after) (orderly : before.Orderly)
    {session : Session} (member : session ∈ after.sessions) :
    (∃ earlier ∈ before.sessions, Continues earlier session ∧
      (session.view = earlier.view ∨
        stage = .tell ∧ before.Refreshed session.uri earlier.view session.view)) ∨
    stage = .tell ∧ before.nextSession ≤ session.number ∧ session.view = .initial ∧
      before.registry.Holds session.uri session.client := by
  have same : session ∈ before.sessions →
      ∃ earlier ∈ before.sessions, Continues earlier session ∧
        (session.view = earlier.view ∨
          stage = .tell ∧ before.Refreshed session.uri earlier.view session.view) :=
    fun present => ⟨session, present, .refl session, .inl rfl⟩
  cases act with
  | noted _ _ _ alike => exact .inl (same (alike.sessions ▸ member))
  | adopted _ clock changed leaver outcome turns allowed =>
    obtain ⟨_, _, respond, sessions⟩ := adopt_frame orderly.numbered clock turns.once
    rw [sessions] at member
    obtain ⟨earlier, present, rfl⟩ := List.mem_map.mp member
    obtain ⟨continues, view⟩ := continues_respond earlier (respond earlier)
    exact .inl ⟨earlier, present, continues, .inl view⟩
  | shown _ shown draft build present found built =>
    rw [Registry.build?, orderly.sound.built, found] at built
    cases built
    obtain ⟨earlier, was, ⟨shows, rfl⟩ | ⟨_, rfl⟩⟩ := of_mem_changeSession member
    · have itself : earlier = shown := orderly.numbered.unique present was shows
      subst itself
      exact .inl ⟨earlier, present, ⟨rfl, rfl, rfl⟩,
        .inr ⟨rfl, draft, before.timestamp, found, rfl⟩⟩
    · exact .inl (same was)
  | enrolled _ uri client held =>
    rcases List.mem_append.mp member with present | added
    · exact .inl (same present)
    · cases List.mem_singleton.mp added
      exact .inr ⟨rfl, Nat.le_refl _, rfl, held⟩
  | withdrawn _ _ gone _ _ => exact .inl (same (List.mem_of_mem_filter member))
  | expired _ _ _ call debouncer _ _ =>
    obtain ⟨earlier, was, ⟨_, rfl⟩ | ⟨_, rfl⟩⟩ := of_mem_changeSession member
    · exact .inl ⟨earlier, was, ⟨rfl, rfl, rfl⟩, .inl rfl⟩
    · exact .inl (same was)
  | filed | connected | disconnected | judged | settled | accepted | started | finished
  | ticksBegun | tickPlanned | taken | begun | moved => exact .inl (same member)

/-- No act takes back the number of a session. -/
theorem Act.nextSession_le (act : Act may stage before after) (orderly : before.Orderly) :
    before.nextSession ≤ after.nextSession := by
  cases act with
  | noted _ _ _ alike => exact Nat.le_of_eq alike.nextSession.symm
  | adopted _ clock changed leaver outcome turns _ =>
    obtain ⟨_, nextSession, _⟩ := adopt_frame orderly.numbered clock turns.once
    exact Nat.le_of_eq nextSession.symm
  | enrolled => exact Nat.le_succ _
  | _ => exact Nat.le_refl _

theorem Acts.nextSession_le (acts : Acts may stage before after) (orderly : before.Orderly) :
    before.nextSession ≤ after.nextSession := by
  induction acts with
  | refl => exact Nat.le_refl _
  | tail earlier last inductionHypothesis =>
    exact Nat.le_trans inductionHypothesis (last.nextSession_le (Acts.orderly earlier orderly))

/-- What the telling acts make of sessions, all of them together. -/
theorem Acts.told (acts : Acts may .tell before after) (orderly : before.Orderly)
    {session : Session} (member : session ∈ after.sessions) : Origin before after session := by
  induction acts generalizing session with
  | refl => exact .continued session member (.refl session) (.inl rfl)
  | @tail between after earlier last inductionHypothesis =>
    have settled : between.Orderly := Acts.orderly earlier orderly
    have still : ∀ uri, after.registry.draft? uri = between.registry.draft? uri :=
      last.draft?_eq Stage.noConfusion
    have again : ∀ uri view shown, between.Refreshed uri view shown →
        after.Refreshed uri view shown := by
      rintro uri view shown ⟨draft, now, found, made⟩
      exact ⟨draft, now, (still uri).trans found, made⟩
    -- Of two views of the same document the second one tells all.
    have compose : ∀ (uri : String) (first middle view : View),
        middle = first ∨ between.Refreshed uri first middle →
          view = middle ∨ between.Refreshed uri middle view →
            view = first ∨ after.Refreshed uri first view := by
      intro uri first middle view early late
      rcases early with rfl | ⟨draft, now, found, rfl⟩
      · exact late.imp_right (again _ _ _)
      · rcases late with rfl | ⟨same, later, found', rfl⟩
        · exact .inr (again _ _ _ ⟨draft, now, found, rfl⟩)
        · cases found.symm.trans found'
          exact .inr ⟨draft, later, (still uri).trans found, View.update_update first _ _ _ _⟩
    rcases last.sessions settled member with
      ⟨middle, present, continues, view⟩ | ⟨_, new, initial, _⟩
    · have late := view.imp_right And.right
      cases inductionHypothesis present with
      | continued first was continued earlierView =>
        rw [continues.uri] at earlierView
        exact .continued first was (continued.trans continues) (compose _ _ _ _ earlierView late)
      | begun fresh earlierView =>
        rw [continues.uri] at earlierView
        exact .begun (continues.number ▸ fresh) (compose _ _ _ _ earlierView late)
    · exact .begun (Nat.le_trans (Acts.nextSession_le earlier orderly) new) (.inl initial)

/-- Until documents are told of, sessions keep their views. -/
theorem Acts.untold (acts : Acts may stage before after) (untold : stage ≠ .tell)
    (orderly : before.Orderly) {session : Session} (member : session ∈ after.sessions) :
    ∃ earlier ∈ before.sessions, Continues earlier session ∧ session.view = earlier.view := by
  induction acts generalizing session with
  | refl => exact ⟨session, member, .refl session, rfl⟩
  | tail earlier last inductionHypothesis =>
    rcases last.sessions (Acts.orderly earlier orderly) member with
      ⟨middle, present, continues, same | ⟨told, _⟩⟩ | ⟨told, _⟩
    · obtain ⟨first, was, continued, view⟩ := inductionHypothesis present
      exact ⟨first, was, continued.trans continues, same.trans view⟩
    · exact absurd told untold
    · exact absurd told untold

/-- Whatever happens leaves the view of a session as it was or shows it its document as
it is afterwards. -/
theorem Happens.sessions (happens : Happens may before after) (orderly : before.Orderly)
    {session : Session} (member : session ∈ after.sessions) : Origin before after session := by
  have back : ∀ written : Workspace φ, written.Orderly →
      before.nextSession ≤ written.nextSession →
      (∀ session ∈ written.sessions, ∃ earlier ∈ before.sessions,
        Continues earlier session ∧ session.view = earlier.view) →
      Acts may .tell written after → Origin before after session := by
    intro written settled grown kept told
    cases told.told settled member with
    | continued middle present continues view =>
      obtain ⟨first, was, continued, same⟩ := kept middle present
      exact .continued first was (continued.trans continues) (same ▸ view)
    | begun fresh view => exact .begun (Nat.le_trans grown fresh) view
  cases happens with
  | telling ready prepared told =>
    exact back ready (Acts.orderly prepared orderly) (Acts.nextSession_le prepared orderly)
      (fun _ present => prepared.untold Stage.noConfusion orderly present) told
  | writing ready written prepared write told =>
    have settled : ready.Orderly := Acts.orderly prepared orderly
    have all : Acts may .write ready written := .single write
    refine back written (write.orderly settled) ?_ ?_ told
    · exact Nat.le_trans (Acts.nextSession_le prepared orderly) (write.nextSession_le settled)
    · intro session present
      obtain ⟨middle, was, continues, view⟩ := all.untold Stage.noConfusion settled present
      obtain ⟨first, first', continued, same⟩ := prepared.untold Stage.noConfusion orderly was
      exact ⟨first, first', continued.trans continues, view.trans same⟩

/-- A document stays open, and becomes no earlier, whatever happens while a client of it
stays. -/
theorem Happens.holds (happens : Happens may before after) (orderly : before.Orderly)
    {uri client : String} (keeps : ¬may (.hold uri client)) {draft : Draft}
    (found : before.registry.draft? uri = some draft) (holds : client ∈ draft.holders) :
    ∃ next, after.registry.draft? uri = some next ∧ client ∈ next.holders ∧ draft.Later next := by
  refine happens.keep_orderly orderly (fun workspace => ∃ next,
    workspace.registry.draft? uri = some next ∧ client ∈ next.holders ∧ draft.Later next) ?_
    ⟨draft, found, holds, .refl draft⟩
  rintro stage earlier later settled ⟨now, current, held, after⟩ act
  obtain ⟨next, reached, still, late⟩ := act.holds settled keeps current held
  exact ⟨next, reached, still, after.trans late⟩

theorem Happens.nextSession_le (happens : Happens may before after) (orderly : before.Orderly) :
    before.nextSession ≤ after.nextSession := by
  refine happens.keep_orderly orderly (before.nextSession ≤ ·.nextSession) ?_ (Nat.le_refl _)
  intro stage earlier later settled grown act
  exact Nat.le_trans grown (act.nextSession_le settled)

end Acts

end Workspace

end Flowdesk
