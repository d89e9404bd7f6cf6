import Flowdesk.Proofs.Workspace.Carrying
import Flowdesk.Proofs.Workspace.Edition
import Flowdesk.Proofs.Workspace.Faithful
import Flowdesk.Proofs.Workspace.Standoff

/-!
# What a resolution makes of a document

A resolution sets the conflicts of a document aside and replays one side of them. For the
text, the document is accepted as it is and shown to the session. For the model, the session
writes its model over the document, as the next version, unless the document has that text
already. Either way the document ends as one draft that the session shows, and that raises
no conflict when it is judged again: where it was not written, what is accepted at its
version has its text; where it was, its version is ahead of all that was known.
-/

namespace Flowdesk

open Data Sync Workflow

/-- Whether a view was turned to a draft: it has its text and its version, and its model
wherever the text can be read. -/
structure View.Turned (before after : View) (draft : Draft) : Prop where
  text : after.text = draft.text
  revision : after.revision.map (·.version) = some draft.version
  root : after.root = (Document.parse draft.text).toOption.or before.root

theorem Session.turned_see (session : Session) (draft : Draft) (now : UInt64) :
    session.view.Turned (session.see draft now).view draft where
  text := rfl
  revision := rfl
  root := View.root_take session.view ⟨session.uri, draft.text, draft.current now⟩

/-- A draft that has the text of a model is not changed by it. -/
theorem Session.Fits.overwrite_eq {session : Session} {draft : Draft} (fits : session.Fits draft) :
    session.overwrite draft = draft := by
  obtain ⟨root, shown, written⟩ := fits
  refine (overwrite_eq_self_iff session draft).mpr ?_
  intro other held
  cases held.symm.trans shown
  exact .inl written

namespace Sync.Course

/-- A course after a sync that was carried over: what is accepted, judged and in conflict is
as the sync left it. -/
structure Carried (left after : Course) : Prop where
  phase : after.status.phase = .synced
  conflicts : after.status.conflicts = left.status.conflicts
  accepted : after.accepted = left.accepted
  judged : after.judged = left.judged

theorem carried_finish (course : Course) (direction : Direction) (now : UInt64) :
    course.Carried (course.finish direction .carried now) := ⟨rfl, rfl, rfl, rfl⟩

/-- A revision that was just judged is seen again in every one of its version and text. -/
theorem seen?_observe (course : Course) (uri : String) {revision again : Revision}
    (version : again.version = revision.version) (content : again.checksum = revision.checksum) :
    (course.observe uri revision).2.seen? again = some (course.observe uri revision).1 := by
  have alike : ∀ course : Course, course.seen? again = course.seen? revision := by
    intro course
    simp only [seen?, version, content]
  cases seen : course.seen? revision with
  | some observation => rw [observe_seen seen, alike, seen]
  | none =>
    rw [observe_unseen seen, alike]
    simp [seen?, record, Option.filter]

/-- A revision that was accepted raises no conflict when it is told of again, at any time, as
long as it was the last one that was judged. -/
theorem observe_accepted {course after : Course} (uri : String) {revision again : Revision}
    (advanced : (course.observe uri revision).1 = .advanced)
    (judged : after.judged = (course.observe uri revision).2.judged)
    (version : again.version = revision.version) (content : again.checksum = revision.checksum)
    (conflict : Conflict) : (after.observe uri again).1 ≠ .conflict conflict := by
  have seen : after.seen? again = some .advanced := by
    rw [seen?, judged, ← advanced]
    exact course.seen?_observe uri version content
  rw [observe_seen seen]
  exact Observation.noConfusion

end Sync.Course

namespace Workspace

variable {φ : Type} {workspace : Workspace φ} {session : Session} {draft : Draft}

/-- A sync whose attempt succeeds is carried over. -/
theorem carried_runAndPublish (found : workspace.session? session.number = some session)
    (direction : Direction) {coordinator : Coordinator}
    (started : workspace.coordinator.start? session.uri = some coordinator)
    {left : Workspace φ} {actions : List Action}
    (attempt : ({ workspace with coordinator } : Workspace φ).attempt session direction =
      (left, .ok actions)) :
    (left.course session.uri).Carried
      ((workspace.runAndPublish session.number direction).1.course session.uri) := by
  have alike := runAndPublish_alike workspace session.number direction
  rw [run_of_attempt found _ started attempt] at alike
  simp only [Workspace.course, alike.coordinator, coordinate, Coordinator.course_finish, if_true]
  exact Course.carried_finish _ _ _

/-- Whether a draft prevails on a document: the document is that draft, a session was turned
to it, no conflict is active, the last sync went through, and the document raises no
conflict when it is judged as it is. -/
structure Prevails (after : Workspace φ) (session : Session) (draft : Draft) : Prop where
  opened : after.registry.draft? session.uri = some draft
  shown : ∃ turned, after.session? session.number = some turned ∧ turned.uri = session.uri ∧
    session.view.Turned turned.view draft
  calm : (after.coordinator.status session.uri).conflicts = []
  synced : (after.coordinator.status session.uri).phase = .synced
  undisputed : ∀ now conflict,
    (after.coordinator.observe session.uri (draft.current now)).1 ≠ .conflict conflict

/-- The session of a number has a view of the document as it is, if the session was shown it
and others were changed as well. -/
theorem exists_turned {after : Workspace φ} (numbered : after.Numbered) {turned : Session}
    (present : turned ∈ after.sessions) (number : turned.number = session.number)
    (uri : turned.uri = session.uri) {now : UInt64}
    (view : turned.view = (session.see draft now).view) :
    ∃ turned, after.session? session.number = some turned ∧ turned.uri = session.uri ∧
      session.view.Turned turned.view draft :=
  ⟨turned, number ▸ numbered.session?_eq present, uri, view ▸ session.turned_see draft now⟩

/-- Where a sync does nothing but show a session its document, the document prevails, as
long as what is accepted at its version has its text. -/
theorem prevails_of_shown (aside : workspace.SetAside session.uri) (idle : workspace.Idle)
    (found : workspace.session? session.number = some session)
    (opened : workspace.registry.draft? session.uri = some draft) {direction : Direction}
    (shows : workspace.With (seeing workspace.sessions session draft workspace.timestamp)
      (workspace.runAndPublish session.number direction).1)
    (attempts : ∀ coordinator, workspace.coordinator.start? session.uri = some coordinator →
      ∃ (left : Workspace φ) (actions : List Action), left.coordinator = coordinator ∧
        ({ workspace with coordinator } : Workspace φ).attempt session direction =
          (left, .ok actions))
    (agrees : ∀ snapshot, workspace.accepted session.uri = some snapshot →
      snapshot.version = draft.version → snapshot.checksum = some (checksum draft.text)) :
    (workspace.runAndPublish session.number direction).1.Prevails session draft := by
  obtain ⟨present, _⟩ := of_session? found
  have happens : Happens (fun _ => True) workspace
      (workspace.runAndPublish session.number direction).1 :=
    runAndPublish_happens aside.orderly session.number direction
  obtain ⟨coordinator, started⟩ := Coordinator.start?_of_free (idle session.uri)
  obtain ⟨left, actions, still, attempt⟩ := attempts coordinator started
  have carried := carried_runAndPublish found direction started attempt
  obtain ⟨accepted, conflicts, judged⟩ := Coordinator.start?_same started session.uri
  rw [Workspace.course, still] at carried
  constructor
  · rw [shows.registry]
    exact opened
  · have turned : session.see draft workspace.timestamp ∈
        (workspace.runAndPublish session.number direction).1.sessions := by
      rw [shows.sessions]
      exact List.mem_map.mpr ⟨session, present, if_pos rfl⟩
    exact exists_turned (happens.orderly aside.orderly).numbered turned rfl rfl rfl
  · exact (carried.conflicts.trans conflicts).trans aside.calm
  · exact carried.phase
  · intro now conflict
    apply Course.observe_calm
    · intro ours is level
      exact agrees ours ((carried.accepted.trans accepted).symm.trans is) level
    · exact (carried.judged.trans judged).trans aside.anew

/-- An announcement of a draft is judged by the time all sessions heard of it. -/
theorem course_announced {before after : Workspace φ} {now : UInt64}
    (present : session ∈ before.sessions)
    (heard : Heard .within (announcement session draft now) before after) :
    after.course session.uri = ((before.course session.uri).observe session.uri
      (announcement session draft now).revision).2 := by
  have about : (announcement session draft now).build.uri = session.uri := Registry.uri_of _ _
  have concerned : ∃ other ∈ before.sessions, concerns (announcement session draft now) other :=
    ⟨session, present, Registry.Reason.noConfusion, about.symm⟩
  rw [Workspace.course, heard.coordinator, if_pos concerned, judgedBy, about,
    Coordinator.course_observe, if_pos rfl]
  rfl

/-- Where a session writes its model over its document, the draft that comes of it
prevails, as long as no version that is known is ahead of the document. -/
theorem prevails_of_writes (aside : workspace.SetAside session.uri) (idle : workspace.Idle)
    (found : workspace.session? session.number = some session)
    (opened : workspace.registry.draft? session.uri = some draft) (writes : session.Writes draft)
    (abreast : workspace.Abreast session.uri) :
    (workspace.runAndPublish session.number .graphToSemantic).1.Prevails session
      (session.overwrite draft) := by
  obtain ⟨present, _⟩ := of_session? found
  have happens : Happens (fun _ => True) workspace
      (workspace.runAndPublish session.number .graphToSemantic).1 :=
    runAndPublish_happens aside.orderly session.number .graphToSemantic
  obtain ⟨react, overwritten⟩ := replay_writes aside.orderly idle found opened writes
  obtain ⟨coordinator, started⟩ := Coordinator.start?_of_free (idle session.uri)
  let begun : Workspace φ := { workspace with coordinator }
  have waiting : begun.SetAside session.uri := aside.started started
  have still : begun.registry.draft? session.uri = some draft := opened
  obtain ⟨registry, put, _, heard, attempt⟩ := writeBack_of_writes waiting.orderly still writes
  let told := (announcement session (session.overwrite draft) begun.timestamp).revision
  have carried : ((begun.course session.uri).observe session.uri told).2.Carried
      ((workspace.runAndPublish session.number .graphToSemantic).1.course session.uri) := by
    have member : session ∈ ({ begun with registry } : Workspace φ).sessions := present
    have carried := carried_runAndPublish found .graphToSemantic started attempt
    change (put.course session.uri).Carried _ at carried
    rw [course_announced member heard] at carried
    exact carried
  obtain ⟨accepted, _, judged⟩ := Coordinator.start?_same started session.uri
  -- The version that is announced is ahead of all that is known, so it is accepted.
  have ahead : ∀ version, (begun.course session.uri).Knows version →
      version < (session.overwrite draft).version := by
    intro version knows
    obtain ⟨current, open', bound⟩ := abreast version (knows.congr accepted judged)
    cases opened.symm.trans open'
    exact UInt64.lt_of_le_of_lt bound writes.version_lt
  have claimed : told.claimed = told.version := rfl
  obtain ⟨advanced, same⟩ := Course.observe_of_ahead session.uri ahead claimed
  constructor
  · rw [overwritten.documents, replayed, if_pos rfl, opened]
    rfl
  · have turned : { session.respond (react session) with
          view := (session.see (session.overwrite draft) workspace.timestamp).view } ∈
        (workspace.runAndPublish session.number .graphToSemantic).1.sessions := by
      rw [overwritten.sessions]
      exact List.mem_map.mpr ⟨session, present, if_pos rfl⟩
    exact exists_turned (happens.orderly aside.orderly).numbered turned (number_respond _ _)
      (uri_respond _ _) rfl
  · exact carried.conflicts.trans (same.trans waiting.calm)
  · exact carried.phase
  · exact fun now => Course.observe_accepted session.uri advanced carried.judged rfl rfl

/-- After a resolution for the text, the document prevails as it is. -/
theorem resolve_semantic (orderly : workspace.Orderly) (idle : workspace.Idle)
    (found : workspace.session? session.number = some session)
    (opened : workspace.registry.draft? session.uri = some draft) :
    (workspace.resolve session.number .semantic).1.registry = workspace.registry ∧
      (workspace.resolve session.number .semantic).1.Prevails session draft := by
  have current : workspace.current? session.uri = some (draft.current workspace.timestamp) := by
    rw [current?, opened]
    rfl
  simp only [resolve, found, current, Side.direction]
  refine ⟨registry_runAndPublish _ _, ?_⟩
  have aside := setAside orderly session.uri (some (draft.current workspace.timestamp))
  have free := idle_beginResolution idle session.uri (some (draft.current workspace.timestamp))
  refine prevails_of_shown aside free found opened
    (refresh_shows aside.orderly free found opened aside.clear) ?_ ?_
  · intro coordinator started
    have waiting := aside.started started
    exact ⟨_, _, rfl, refresh_of_open waiting.orderly.sound opened waiting.clear⟩
  · -- What is accepted is the document as it is.
    intro snapshot is _
    rw [Workspace.accepted, course_setAside] at is
    cases is
    rfl

/-- After a resolution for the model, the document prevails with the text of the model. -/
theorem resolve_graph (orderly : workspace.Orderly) (idle : workspace.Idle)
    (found : workspace.session? session.number = some session)
    (opened : workspace.registry.draft? session.uri = some draft)
    (capable : session.Fits draft ∨ session.Writes draft)
    (faithful : workspace.Faithful session.uri) :
    (workspace.resolve session.number .graph).1.Prevails session (session.overwrite draft) := by
  simp only [resolve, found, Side.direction]
  have aside := setAside orderly session.uri none
  have free := idle_beginResolution idle session.uri none
  rcases capable with fits | writes
  · rw [fits.overwrite_eq]
    refine prevails_of_shown aside free found opened
      (replay_shows aside.orderly free found opened fits) ?_ ?_
    · intro coordinator started
      have waiting := aside.started started
      exact ⟨_, _, rfl, writeBack_of_fits waiting.orderly.sound opened fits⟩
    · intro snapshot is
      rw [Workspace.accepted, course_setAside] at is
      exact faithful.content draft snapshot opened is
  · refine prevails_of_writes aside free found opened writes ?_
    intro version knows
    rw [course_setAside] at knows
    rcases Course.knows_of_beginResolution knows with known | ⟨_, absent, _⟩
    · exact faithful.abreast version known
    · cases absent

section Runs

variable [Files.Store φ]

/-- **A resolution replays one side, and settles.** Take any session that has a model, on a
document that has a version left and has been registered ever since one of its revisions
was observed first. No sync outlives a move, so none is under way.

A resolution for the text leaves all documents as they are, and the document prevails. One
for the model gives the document the text of the session's model, as a higher version by the
client of the session exactly if the text was another one, leaves all other documents
alone, and what the document has become prevails: the session shows it, no conflict is
active, the document is synced, and judging it again raises no conflict.

Proof: no sync is under way, so the replay is started once the conflicts were set aside. A
resolution for the text shows the session the document as it is. One for the model writes the text
first, which is judged like any revision, and is shown to the session when the coordinator has
accepted it. -/
theorem resolution_prevails (files : φ) (settings : Settings) (moves : List (Move φ))
    (number : Nat) {session : Session} {root : Document} {draft : Draft}
    (found : ((create files settings).after moves).session? number = some session)
    (shown : session.view.root = some root)
    (opened : ((create files settings).after moves).registry.draft? session.uri = some draft)
    (notLast : draft.version ≠ Draft.lastVersion)
    (stays : StaysRegistered session.uri (create files settings) moves) :
    let workspace := (create files settings).after moves
    let byText := (workspace.resolve number .semantic).1
    let byModel := (workspace.resolve number .graph).1
    byText.registry = workspace.registry ∧ byText.Prevails session draft ∧
    (∀ uri, uri ≠ session.uri → byModel.registry.draft? uri = workspace.registry.draft? uri) ∧
    ∃ next, byModel.Prevails session next ∧ next.text = root.write ∧
      (draft.text = root.write → next = draft) ∧
      (draft.text ≠ root.write → next.author = session.client) ∧
      (draft.version < next.version ↔ draft.text ≠ root.write) := by
  intro workspace byText byModel
  have orderly : workspace.Orderly := orderly_after (orderly_create files settings) moves
  have idle : workspace.Idle :=
    idle_after (orderly_create files settings) (idle_create files settings) moves
  obtain ⟨_, rfl⟩ := of_session? found
  obtain ⟨same, prevails⟩ := resolve_semantic orderly idle found opened
  refine ⟨same, prevails, ?_, session.overwrite draft, ?_, ?_⟩
  · intro uri elsewhere
    exact (draft?_resolve orderly idle found uri).trans (if_neg (Ne.symm elsewhere))
  · refine resolve_graph orderly idle found opened ?_ (faithful_after files settings stays)
    by_cases same : draft.text = root.write
    · exact .inl ⟨root, shown, same⟩
    · exact .inr ⟨root, shown, same, notLast⟩
  · by_cases same : draft.text = root.write
    · have fits : session.Fits draft := ⟨root, shown, same⟩
      rw [fits.overwrite_eq]
      exact ⟨same, fun _ => rfl, fun different => absurd same different,
        fun higher => absurd higher (UInt64.lt_irrefl _), fun different => absurd same different⟩
    · have written := Session.overwrite_eq shown same notLast
      have higher := Session.Writes.version_lt ⟨root, shown, same, notLast⟩
      refine ⟨congrArg Draft.text written, fun equal => absurd equal same,
        fun _ => congrArg Draft.author written, fun _ => same, fun _ => higher⟩

end Runs

/-- A document that a conflict was recorded on has been registered all along. -/
theorem staysRegistered_conflicting :
    StaysRegistered "file:///a.wf" (create Files.Memory.empty byHand) conflicting :=
  staysRegistered_of_open (by decide +kernel)

/-- Each side of a conflict can be replayed, and prevails. -/
theorem both_sides_prevail :
    let workspace := (create Files.Memory.empty byHand).after conflicting
    workspace.coordinator.hasConflict "file:///a.wf" = true ∧
    ∃ session draft next, workspace.session? 0 = some session ∧
      draft.text = smallFlow "second" ∧ next.text = smallFlow "first" ∧
      draft.version < next.version ∧ next.author = "g1" ∧
      (workspace.resolve 0 .semantic).1.Prevails session draft ∧
      (workspace.resolve 0 .graph).1.Prevails session next := by
  intro workspace
  have run : (workspace.coordinator.hasConflict "file:///a.wf",
      (workspace.session? 0).map fun session =>
        (session.uri, session.client, session.view.root.map Document.write),
      (workspace.registry.draft? "file:///a.wf").map fun draft => (draft.text, draft.version)) =
      (true, some ("file:///a.wf", "g1", some (smallFlow "first")),
        some (smallFlow "second", 2)) := by
    decide +kernel
  simp only [Prod.mk.injEq, Option.map_eq_some_iff] at run
  obtain ⟨recorded, ⟨session, found, about, client, root, shown, written⟩,
    draft, opened, text, version⟩ := run
  have different : draft.text ≠ root.write := by
    rw [text, written]
    decide
  have notLast : draft.version ≠ Draft.lastVersion := by
    rw [version]
    decide
  obtain ⟨_, prevails, _, next, replayed, model, _, author, higher⟩ :=
    resolution_prevails Files.Memory.empty byHand conflicting 0 found shown (about ▸ opened)
      notLast (about ▸ staysRegistered_conflicting)
  exact ⟨recorded, session, draft, next, found, text, model.trans written,
    higher.mpr different, (author different).trans client, prevails, replayed⟩

end Workspace

end Flowdesk
