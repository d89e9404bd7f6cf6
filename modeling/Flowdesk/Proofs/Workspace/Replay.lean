import Flowdesk.Proofs.Workspace.Edit
import Flowdesk.Proofs.Workspace.Idle

/-!
# What replays write

A replay gives the document of a session the text of the session's model as its next
version, by the client of the session. It asks nothing about what became of the document
since the model was built: it does nothing only without a model, where the document has
that text already, or where no version is left. Among the tasks, those that replay are
the ends of debounced syncs that nothing overtook and the resolutions for the graph; no
other task changes a document.
-/

namespace Flowdesk

open Data Sync Workflow

/-- A draft after the model of a session was written over it. -/
def Session.overwrite (session : Session) (draft : Draft) : Draft :=
  match session.view.root with
  | none => draft
  | some root =>
      if draft.text = root.write ∨ draft.version = Draft.lastVersion then draft
      else
        { draft with text := root.write, version := draft.version + 1, author := session.client }

/-- Whether a call is the one that a session waits for. -/
def Session.Awaits (session : Session) (call : Nat) : Prop :=
  session.debouncer.latest.get? session.uri = some call

instance (session : Session) (call : Nat) : Decidable (session.Awaits call) :=
  inferInstanceAs (Decidable (_ = _))

/-- The session once it gave up waiting for its latest call. -/
def Session.unwaiting (session : Session) : Session :=
  { session with debouncer := session.debouncer.cancel session.uri }

theorem Session.latest_unwaiting (session : Session) :
    session.unwaiting.debouncer.latest.get? session.uri = none := by
  simp [unwaiting, Debouncer.cancel]

namespace Workspace

variable {φ : Type}

/-- A document after a replay of the model of a session. -/
def replayed (workspace : Workspace φ) (session : Session) (uri : String) : Option Draft :=
  if session.uri = uri then (workspace.registry.draft? uri).map session.overwrite
  else workspace.registry.draft? uri

/-- The session whose model a task replays, if it does. -/
def Task.replays? (workspace : Workspace φ) : Task → Option Session
  | .beginWait number call .graphToSemantic =>
      (workspace.session? number).filter fun session =>
        session.debouncer.delay = 0 ∧ session.Awaits call
  | .endWait number call .graphToSemantic =>
      (workspace.session? number).filter fun session => session.Awaits call
  | .resolve number .graph => workspace.session? number
  | _ => none

/-- A task replays no other session than the one it was planned for. -/
theorem session?_of_replays {workspace : Workspace φ} {task : Task} {session : Session}
    (replays : Task.replays? workspace task = some session) :
    workspace.session? (taskSession task) = some session := by
  cases task with
  | beginWait number call direction =>
    cases direction with
    | semanticToGraph => exact nomatch replays
    | graphToSemantic => exact (Option.filter_eq_some_iff.mp replays).1
  | endWait number call direction =>
    cases direction with
    | semanticToGraph => exact nomatch replays
    | graphToSemantic => exact (Option.filter_eq_some_iff.mp replays).1
  | beginTicks | tick => exact nomatch replays
  | resolve number side =>
    cases side with
    | semantic => exact nomatch replays
    | graph => exact replays

/-- The session whose model a move replays, if it does. -/
def Move.replays? (workspace : Workspace φ) : Move φ → Option Session
  | .sync number .graphToSemantic | .syncAndSend number .graphToSemantic | .resolve number .graph =>
      workspace.session? number
  | .work position => workspace.agenda.ready[position]?.bind (Task.replays? workspace)
  | _ => none

/-- A text that is put in a document becomes its next version, if there is one. -/
theorem draft?_putText {workspace : Workspace φ} (orderly : workspace.Orderly)
    {session : Session} {root : Document} (shown : session.view.root = some root) (uri : String) :
    (workspace.putText session root.write).1.registry.draft? uri =
      workspace.replayed session uri := by
  unfold putText replayed
  cases found : workspace.registry.draft? session.uri with
  | none =>
    simp only
    split
    · next same => rw [← same, found, Option.map_none]
    · rfl
  | some draft =>
    simp only
    have wanted : session.overwrite draft =
        if draft.text = root.write ∨ draft.version = Draft.lastVersion then draft
        else { draft with
          text := root.write, version := draft.version + 1, author := session.client } := by
      rw [Session.overwrite, shown]
    by_cases written : draft.text = root.write
    · rw [if_pos written]
      split
      · next same => rw [← same, found, Option.map_some, wanted, if_pos (.inl written)]
      · rfl
    · rw [if_neg written]
      by_cases last : draft.version = Draft.lastVersion
      · rw [update_last found last]
        split
        · next same => rw [← same, found, Option.map_some, wanted, if_pos (.inr last)]
        · rfl
      · obtain ⟨registry, _, reached, elsewhere, _, _, _, heard⟩ :=
          update_next orderly found last root.write session.client
        simp only
        rw [heard.registry]
        split
        · next same =>
          rw [← same, found, Option.map_some, wanted, if_neg (not_or.mpr ⟨written, last⟩)]
          exact reached
        · next different => exact elsewhere uri different

/-- A replay overwrites the document of its session. -/
theorem draft?_writeBack {workspace : Workspace φ} (orderly : workspace.Orderly)
    (session : Session) (uri : String) :
    (workspace.writeBack session).1.registry.draft? uri = workspace.replayed session uri := by
  refine writeBack_branches ?rootless ?put ?shown
  case rootless =>
    intro none
    unfold replayed Session.overwrite
    rw [none]
    simp
  case put => exact fun root shown => draft?_putText orderly shown uri
  case shown =>
    intro root written draft build shown result _ _
    have put := draft?_putText orderly shown uri
    rw [result] at put
    exact put

/-- A replay that is run overwrites the document of its session. -/
theorem draft?_run {workspace : Workspace φ} (orderly : workspace.Orderly)
    (idle : workspace.Idle) {number : Nat} {session : Session}
    (found : workspace.session? number = some session) (uri : String) :
    (workspace.run number .graphToSemantic).1.registry.draft? uri =
      workspace.replayed session uri := by
  obtain ⟨coordinator, started⟩ := Coordinator.start?_of_free (idle session.uri)
  have begun : Act (fun _ => False) .ready workspace { workspace with coordinator } :=
    .started .ready workspace session.uri coordinator started
  have carried := draft?_writeBack (begun.orderly orderly) session uri
  unfold run
  rw [found]
  simp only [started]
  exact carried

theorem draft?_runAndPublish {workspace : Workspace φ} (orderly : workspace.Orderly)
    (idle : workspace.Idle) {number : Nat} {session : Session}
    (found : workspace.session? number = some session) (uri : String) :
    (workspace.runAndPublish number .graphToSemantic).1.registry.draft? uri =
      workspace.replayed session uri := by
  rw [(runAndPublish_alike workspace number _).registry]
  exact draft?_run orderly idle found uri

/-- So does a resolution for the graph. -/
theorem draft?_resolve {workspace : Workspace φ} (orderly : workspace.Orderly)
    (idle : workspace.Idle) {number : Nat} {session : Session}
    (found : workspace.session? number = some session) (uri : String) :
    (workspace.resolve number .graph).1.registry.draft? uri = workspace.replayed session uri := by
  unfold resolve
  rw [found]
  exact draft?_runAndPublish (orderly_beginResolution orderly session.uri none)
    (idle_beginResolution idle session.uri none) found uri

/-- Nothing comes of the end of a wait that nobody waits for. -/
theorem endWait_of_not_awaits (workspace : Workspace φ) {session : Session} {call : Nat}
    (direction : Direction) (overtaken : ¬session.Awaits call) :
    workspace.endWait session call direction = workspace := by
  have expired : session.debouncer.expire? session.uri call = none := if_neg overtaken
  rw [endWait, expired]

/-- The workspace after a session gave up waiting. -/
def unwait (workspace : Workspace φ) (session : Session) : Workspace φ :=
  workspace.changeSession session.number
    ({ · with debouncer := session.debouncer.cancel session.uri })

/-- A call that is waited for is carried out, and waited for no more. -/
theorem endWait_of_awaits (workspace : Workspace φ) {session : Session} {call : Nat}
    (direction : Direction) (awaited : session.Awaits call) :
    workspace.endWait session call direction =
      ((workspace.unwait session).runAndPublish session.number direction).1 := by
  have expired : session.debouncer.expire? session.uri call =
      some (session.debouncer.cancel session.uri) := if_pos awaited
  rw [endWait, expired]
  rfl

theorem orderly_unwait {workspace : Workspace φ} (orderly : workspace.Orderly)
    (session : Session) : (workspace.unwait session).Orderly :=
  orderly.congr orderly.sound (numbers_changeSession _ _ _ fun _ => rfl) rfl

/-- A session that gave up waiting is found without the call. -/
theorem session?_unwait {workspace : Workspace φ} (orderly : workspace.Orderly)
    {session : Session} (present : session ∈ workspace.sessions) :
    (workspace.unwait session).session? session.number = some session.unwaiting := by
  have still : session.unwaiting ∈ (workspace.unwait session).sessions :=
    List.mem_map.mpr ⟨session, present, if_pos rfl⟩
  exact (orderly_unwait orderly session).numbered.session?_eq still

/-- The end of a wait for a replay overwrites the document, if it is waited for. -/
theorem draft?_endWait {workspace : Workspace φ} (orderly : workspace.Orderly)
    (idle : workspace.Idle) {session : Session} (present : session ∈ workspace.sessions)
    {call : Nat} (awaited : session.Awaits call) (uri : String) :
    (workspace.endWait session call .graphToSemantic).registry.draft? uri =
      workspace.replayed session uri := by
  rw [endWait_of_awaits workspace .graphToSemantic awaited]
  exact draft?_runAndPublish (orderly_unwait orderly session) idle
    (session?_unwait orderly present) uri

theorem registry_runAndPublish (workspace : Workspace φ) (number : Nat) :
    (workspace.runAndPublish number .semanticToGraph).1.registry = workspace.registry := by
  rw [(runAndPublish_alike workspace number _).registry]
  exact registry_run workspace number

theorem registry_endWait (workspace : Workspace φ) (session : Session) (call : Nat) :
    (workspace.endWait session call .semanticToGraph).registry = workspace.registry := by
  by_cases awaited : session.Awaits call
  · rw [endWait_of_awaits workspace .semanticToGraph awaited]
    exact registry_runAndPublish (workspace.unwait session) session.number
  · rw [endWait_of_not_awaits workspace .semanticToGraph awaited]

theorem registry_planTick (workspace : Workspace φ) (number : Nat) :
    (workspace.planTick number).registry = workspace.registry :=
  planTick_branches rfl fun _ => rfl

theorem registry_tick (workspace : Workspace φ) (session : Session) :
    (workspace.tick session).registry = workspace.registry :=
  tick_branches (registry_planTick workspace _) fun _ =>
    (registry_planTick _ _).trans (registry_runAndPublish workspace session.number)

/-- A resolution for the text leaves the documents alone. -/
theorem registry_resolve (workspace : Workspace φ) (number : Nat) :
    (workspace.resolve number .semantic).1.registry = workspace.registry :=
  resolve_branches rfl fun _ _ _ _ => registry_runAndPublish _ number

/-- A task overwrites the document of the session that it replays, if there is one, and
leaves all other documents alone. -/
theorem draft?_perform {workspace : Workspace φ} (orderly : workspace.Orderly)
    (idle : workspace.Idle) (task : Task) (uri : String) :
    (workspace.perform task).registry.draft? uri =
      match Task.replays? workspace task with
      | some session => workspace.replayed session uri
      | none => workspace.registry.draft? uri := by
  have rests : Task.replays? workspace task = none → ∀ after : Workspace φ,
      after.registry = workspace.registry → after.registry.draft? uri =
        match Task.replays? workspace task with
        | some session => workspace.replayed session uri
        | none => workspace.registry.draft? uri := by
    intro none after same
    rw [none, same]
  refine perform_branches ?gone ?begun ?ended ?ticksBegun ?ticked ?resolved
  case gone =>
    intro absent
    refine rests ?_ workspace rfl
    cases replays : Task.replays? workspace task with
    | none => rfl
    | some session => exact nomatch absent.symm.trans (session?_of_replays replays)
  case begun =>
    rintro session number call direction found rfl patient
    refine rests ?_ _ rfl
    cases direction with
    | semanticToGraph => rfl
    | graphToSemantic =>
      have known : workspace.session? number = some session := found
      simp [Task.replays?, known, Option.filter, patient]
  case ended =>
    intro session number call direction found waits
    cases direction with
    | semanticToGraph =>
      refine rests ?_ _ (registry_endWait workspace session call)
      rcases waits with ⟨rfl, _⟩ | rfl <;> rfl
    | graphToSemantic =>
      have replays : Task.replays? workspace task =
          if session.Awaits call then some session else none := by
        rcases waits with ⟨rfl, immediate⟩ | rfl
        · have known : workspace.session? number = some session := found
          simp [Task.replays?, known, Option.filter, immediate]
        · have known : workspace.session? number = some session := found
          simp [Task.replays?, known, Option.filter]
      by_cases awaited : session.Awaits call
      · rw [replays, if_pos awaited]
        exact draft?_endWait orderly idle (of_session? found).1 awaited uri
      · refine rests (replays.trans (if_neg awaited)) _ ?_
        rw [endWait_of_not_awaits workspace .graphToSemantic awaited]
  case ticksBegun =>
    rintro _ number _ rfl
    exact rests rfl _ (registry_planTick workspace number)
  case ticked =>
    rintro session _ _ rfl
    exact rests rfl _ (registry_tick workspace session)
  case resolved =>
    rintro session number side found rfl
    cases side with
    | semantic => exact rests rfl _ (registry_resolve workspace number)
    | graph =>
      have replays : Task.replays? workspace (.resolve number .graph) = some session := found
      rw [replays]
      exact draft?_resolve orderly idle found uri

/-- A ready task overwrites the document of the session that it replays, if there is one,
and leaves all other documents alone. -/
theorem draft?_workAt {workspace : Workspace φ} (orderly : workspace.Orderly)
    (idle : workspace.Idle) (position : Nat) (uri : String) :
    (workspace.workAt position).registry.draft? uri =
      match workspace.agenda.ready[position]?.bind (Task.replays? workspace) with
      | some session => workspace.replayed session uri
      | none => workspace.registry.draft? uri := by
  have left := orderly_without orderly position
  unfold workAt
  cases ready : workspace.agenda.ready[position]? with
  | none => rfl
  | some task => exact draft?_perform left idle task uri

/-- Whatever replays a session overwrites its document, and leaves the others alone. -/
theorem draft?_act [Files.Store φ] {workspace : Workspace φ} (orderly : workspace.Orderly)
    (idle : workspace.Idle) {move : Move φ} {session : Session}
    (replays : move.replays? workspace = some session) (uri : String) :
    (workspace.act move).registry.draft? uri = workspace.replayed session uri := by
  cases move with
  | sync number direction =>
    cases direction with
    | semanticToGraph => exact nomatch replays
    | graphToSemantic => exact draft?_run orderly idle replays uri
  | syncAndSend number direction =>
    cases direction with
    | semanticToGraph => exact nomatch replays
    | graphToSemantic => exact draft?_runAndPublish orderly idle replays uri
  | resolve number side =>
    cases side with
    | semantic => exact nomatch replays
    | graph => exact draft?_resolve orderly idle replays uri
  | work position =>
    have worked := draft?_workAt orderly idle position uri
    change workspace.agenda.ready[position]?.bind (Task.replays? workspace) = some session
      at replays
    rw [replays] at worked
    exact worked
  | _ => exact nomatch replays

end Workspace

end Flowdesk
