import Flowdesk.Proofs.Workspace.Act
import Flowdesk.Proofs.Workspace.Branch

/-!
# Moves of a workspace

A move is one thing that may happen to a workspace from outside: a client of the
registry, of the coordinator or of a session asks for something, the files change, a
ready task is carried out, or time goes by. Ready tasks are carried out in any order.
Every move is a chain of acts, by which no client gives up more than the move says.
-/

namespace Flowdesk.Workspace

open Data Sync Workflow

/-- What may happen to a workspace. -/
inductive Move (φ : Type) where
  | openFor (opening : Registry.Opening)
  | update (clock : Clock) (uri : String) (claimed : UInt64) (text client : String)
  | save (uri text client : String)
  | close (uri client : String)
  | rebuild (uri client : String)
  | reload (uri : String)
  /-- The files change behind the back of the desk. -/
  | refile (files : φ)
  | connect (uri client : String) (method : Method)
  | disconnect (uri client : String)
  /-- The document as it is is judged. -/
  | observe (uri : String)
  /-- The conflicts of a document are set aside, with or without accepting its text. -/
  | beginResolution (uri : String) (accept : Bool)
  | attach (uri client : String)
  | detach (session : Nat)
  | sync (session : Nat) (direction : Direction)
  | syncAndSend (session : Nat) (direction : Direction)
  | resolve (session : Nat) (side : Side)
  | submitPatch (session : Nat) (patch : Patch)
  | submitText (session : Nat) (text : String)
  /-- The ready task at a position is carried out. -/
  | work (position : Nat)
  /-- Time goes on to a point that is not before now. -/
  | wait (time : Nat)
  /-- What was sent and announced is taken away. -/
  | collect
  /-- Nobody receives actions any longer. -/
  | hangUp

variable {φ : Type}

/-- The workspace after the ready task at a position was carried out. -/
def workAt (workspace : Workspace φ) (position : Nat) : Workspace φ :=
  match workspace.agenda.ready[position]? with
  | some task => (workspace.without position).perform task
  | none => workspace

/-- The workspace at a later time. -/
def waitFor (workspace : Workspace φ) (time : Nat) : Workspace φ :=
  if workspace.agenda.now ≤ time then
    { workspace with agenda := workspace.agenda.moveTo time }
  else workspace

/-- The workspace after something was asked of the session of a number. -/
def ask (workspace : Workspace φ) (number : Nat) (answer : Session → Workspace φ) : Workspace φ :=
  match workspace.session? number with
  | some session => answer session
  | none => workspace

section Branches

variable {motive : Workspace φ → Prop} {workspace : Workspace φ}

/-- A ready task is taken off the agenda and carried out, if there is one at a position. -/
@[elab_as_elim] theorem workAt_branches {position : Nat} (same : motive workspace)
    (taken : ∀ task, workspace.agenda.ready[position]? = some task →
      motive ((workspace.without position).perform task)) :
    motive (workspace.workAt position) := by
  unfold workAt
  split
  · next task ready => exact taken task ready
  · exact same

@[elab_as_elim] theorem waitFor_branches {time : Nat} (same : motive workspace)
    (moved : workspace.agenda.now ≤ time →
      motive { workspace with agenda := workspace.agenda.moveTo time }) :
    motive (workspace.waitFor time) := by
  unfold waitFor
  split
  · next later => exact moved later
  · exact same

@[elab_as_elim] theorem ask_branches {number : Nat} {answer : Session → Workspace φ}
    (same : motive workspace)
    (asked : ∀ session, workspace.session? number = some session → motive (answer session)) :
    motive (workspace.ask number answer) := by
  unfold ask
  split
  · next session found => exact asked session found
  · exact same

end Branches

/-- The workspace after a move. -/
def act [Files.Store φ] (workspace : Workspace φ) : Move φ → Workspace φ
  | .openFor opening => (workspace.openFor opening).1
  | .update clock uri claimed text client => (workspace.update clock uri claimed text client).1
  | .save uri text client => (workspace.save uri text client).1
  | .close uri client => (workspace.close uri client).1
  | .rebuild uri client => (workspace.rebuild uri client).1
  | .reload uri => (workspace.reload uri).1
  | .refile files => { workspace with registry := { workspace.registry with files } }
  | .connect uri client method => workspace.coordinate (·.connect uri client method)
  | .disconnect uri client => workspace.coordinate (·.disconnect uri client)
  | .observe uri => workspace.observeCurrent uri
  | .beginResolution uri accept => workspace.coordinate
      (·.beginResolution uri (if accept then workspace.current? uri else none))
  | .attach uri client => (workspace.attach uri client).1
  | .detach session => workspace.detach session
  | .sync session direction => (workspace.run session direction).1
  | .syncAndSend session direction => (workspace.runAndPublish session direction).1
  | .resolve session side => (workspace.resolve session side).1
  | .submitPatch session patch => workspace.ask session fun found =>
      (workspace.submitPatch found patch).1
  | .submitText session text => workspace.ask session fun found =>
      (workspace.commit found text).1
  | .work position => workspace.workAt position
  | .wait time => workspace.waitFor time
  | .collect => workspace.collectSent.2.collectAnnounced.2
  | .hangUp => { workspace with receiving := false }

/-- The workspace after moves. -/
def after [Files.Store φ] (workspace : Workspace φ) (moves : List (Move φ)) : Workspace φ :=
  moves.foldl act workspace

/-- The licences that a task makes use of. -/
def Task.uses (workspace : Workspace φ) : Task → Licence → Prop
  | .resolve number _, licence => ∃ session, workspace.session? number = some session ∧
      licence = .settle session.uri
  | _, _ => False

/-- The licences that a move makes use of. -/
def Move.uses (workspace : Workspace φ) : Move φ → Licence → Prop
  | .close uri client, licence => licence = .hold uri client
  | .disconnect uri client, licence => licence = .link uri client
  | .beginResolution uri _, licence => licence = .settle uri
  | .detach number, licence => ∃ session, workspace.session? number = some session ∧
      (licence = .hold session.uri session.client ∨ licence = .link session.uri session.client)
  | .resolve number side, licence => Task.uses workspace (.resolve number side) licence
  | .work position, licence => ∃ task, workspace.agenda.ready[position]? = some task ∧
      Task.uses workspace task licence
  | _, _ => False

/-- No client leaves a document by the tasks that are carried out. -/
theorem work_keeps (workspace : Workspace φ) (position : Nat) (uri client : String) :
    ¬(Move.work position).uses workspace (.hold uri client) ∧
      ¬(Move.work position).uses workspace (.link uri client) := by
  constructor
  all_goals
    rintro ⟨task, _, used⟩
    cases task with
    | resolve number side =>
      obtain ⟨_, _, same⟩ := used
      exact nomatch same
    | _ => exact used

section Happens

variable {may : Licence → Prop} {stage : Stage}

/-- An act by itself. -/
theorem Act.alone {before after : Workspace φ} (act : Act may stage before after) :
    Acts may stage before after := .single act

theorem Alike.acts {before after : Workspace φ} (alike : Alike before after) :
    Acts may stage before after := Act.alone (.noted stage before after alike)

/-- An update is adopted. -/
theorem update_act {workspace : Workspace φ} (orderly : workspace.Orderly) (clock : Clock)
    (uri : String) (claimed : UInt64) (text client : String) :
    Act may .write workspace (workspace.update clock uri claimed text client).1 :=
  .adopted workspace clock uri none _
    (Registry.update_turns orderly.sound uri claimed text client workspace.timestamp)
    (fun _ absent => nomatch absent)

/-- An opening is adopted, whether or not it succeeds. -/
theorem openFor_act [Files.Store φ] {workspace : Workspace φ} (orderly : workspace.Orderly)
    (opening : Registry.Opening) : Act may .write workspace (workspace.openFor opening).1 :=
  .adopted workspace .within opening.uri none _
    (Registry.openFor_turns orderly.sound opening workspace.timestamp)
    (fun _ absent => nomatch absent)

/-- After an operation was adopted a session is there as before, except for the calls it
registered. -/
theorem session?_adopt {α : Type} {workspace : Workspace φ} (numbered : workspace.Numbered)
    (clock : Clock) {outcome : Registry.Outcome φ α}
    (once : (Registry.updates outcome.events).length ≤ 1) {session : Session}
    (present : session ∈ workspace.sessions) :
    ∃ reaction, session.respond reaction ∈ (workspace.adopt clock outcome).1.sessions := by
  obtain ⟨_, _, respond, sessions⟩ := adopt_frame numbered clock once
  refine ⟨respond session, ?_⟩
  rw [sessions]
  exact List.mem_map_of_mem present

/-- What a session is shown depends on nothing it registers. -/
theorem display_respond (workspace : Workspace φ) (session : Session) (reaction : Reaction)
    (build : Build) (draft : Draft) :
    workspace.display (session.respond reaction) build draft =
      workspace.display session build draft := by
  cases reaction <;> rfl

@[simp] theorem uri_respond (session : Session) (reaction : Reaction) :
    (session.respond reaction).uri = session.uri := by
  cases reaction <;> rfl

/-- A refresh shows a session its document or does nothing. -/
theorem refresh_acts (workspace : Workspace φ) {session : Session}
    (present : session ∈ workspace.sessions) :
    Acts may .tell workspace (workspace.refresh session).1 := by
  refine refresh_branches .refl ?_
  intro draft build _ found built
  exact Act.alone (.shown workspace session draft build present found built)

/-- Putting a text is an update or nothing, after which the session is still there. -/
theorem putText_cases {workspace : Workspace φ} (orderly : workspace.Orderly) {session : Session}
    (present : session ∈ workspace.sessions) (text : String) :
    ((workspace.putText session text).1 = workspace ∨
      Act may .write workspace (workspace.putText session text).1) ∧
      ∃ reaction, session.respond reaction ∈ (workspace.putText session text).1.sessions := by
  refine putText_branches ?_ ?_
  · exact ⟨.inl rfl, .rest, present⟩
  · intro draft _ _
    refine ⟨.inr ?_, ?_⟩
    · exact update_act orderly .within session.uri draft.nextVersion text session.client
    · exact session?_adopt orderly.numbered .within
        (Registry.update_turns orderly.sound session.uri draft.nextVersion text session.client
          workspace.timestamp).once present

/-- A replay puts the text of the model and shows the session what came of it. -/
theorem writeBack_happens {workspace : Workspace φ} (orderly : workspace.Orderly)
    {session : Session} (present : session ∈ workspace.sessions) :
    Happens may workspace (workspace.writeBack session).1 := by
  have stored : ∀ text, Happens may workspace (workspace.putText session text).1 := by
    intro text
    rcases (putText_cases orderly present text).1 with same | write
    · rw [same]
      exact .refl workspace
    · exact write.happens
  refine writeBack_branches (fun _ => .refl workspace)
    (fun root _ => stored root.write) ?_
  intro root written draft build _ result found built
  have put := stored root.write
  have cases : (_ ∨ Act may .write workspace _) ∧ _ := putText_cases orderly present root.write
  obtain ⟨_, reaction, still⟩ := cases
  rw [result] at put still
  -- the session may have registered a call meanwhile, which makes no difference to its view
  refine put.trans (Act.alone ?_)
  rw [← display_respond written session reaction build draft]
  exact .shown written (session.respond reaction) draft build still
    ((uri_respond session reaction).symm ▸ found) ((uri_respond session reaction).symm ▸ built)

/-- A refresh is begun, carried out and finished, or nothing happens. -/
theorem run_refresh_acts (workspace : Workspace φ) (number : Nat) :
    Acts may .tell workspace (workspace.run number .semanticToGraph).1 := by
  refine run_branches .refl ?_
  rintro session coordinator _ ending found free rfl
  have begun : Act may .tell workspace { workspace with coordinator } :=
    .started .tell workspace session.uri coordinator free
  have carried : Acts may .tell { workspace with coordinator }
      (({ workspace with coordinator } : Workspace φ).refresh session).1 :=
    refresh_acts _ (of_session? found).1
  exact (Relation.ReflTransGen.head begun carried).tail (.finished .tell _ session.uri _ ending)

/-- A sync is begun, carried out and finished, or nothing happens. -/
theorem run_happens {workspace : Workspace φ} (orderly : workspace.Orderly) (number : Nat)
    (direction : Direction) : Happens may workspace (workspace.run number direction).1 := by
  cases direction with
  | semanticToGraph => exact (run_refresh_acts workspace number).happens
  | graphToSemantic =>
    refine run_branches (.refl workspace) ?_
    rintro session coordinator _ ending found free rfl
    have begun : Act may .ready workspace { workspace with coordinator } :=
      .started .ready workspace session.uri coordinator free
    have carried : Happens may { workspace with coordinator }
        (({ workspace with coordinator } : Workspace φ).writeBack session).1 :=
      writeBack_happens (begun.orderly orderly) (of_session? found).1
    exact (carried.trans (Act.alone (.finished .tell _ session.uri _ ending))).head begun

theorem alike_publishBy (workspace : Workspace φ) (number : Nat) (actions : List Action) :
    Alike workspace (workspace.publishBy number actions) :=
  publishBy_branches (.refl workspace)
    fun session _ => alike_publish workspace session actions

/-- Sending what came of a sync changes nothing else. -/
theorem runAndPublish_alike (workspace : Workspace φ) (number : Nat) (direction : Direction) :
    Alike (workspace.run number direction).1 (workspace.runAndPublish number direction).1 :=
  alike_publishBy _ number _

theorem runAndPublish_refresh_acts (workspace : Workspace φ) (number : Nat) :
    Acts may .tell workspace (workspace.runAndPublish number .semanticToGraph).1 :=
  (run_refresh_acts workspace number).trans (workspace.runAndPublish_alike number _).acts

theorem runAndPublish_happens {workspace : Workspace φ} (orderly : workspace.Orderly)
    (number : Nat) (direction : Direction) :
    Happens may workspace (workspace.runAndPublish number direction).1 :=
  (run_happens orderly number direction).trans (workspace.runAndPublish_alike number direction).acts

/-- Conflicts are set aside and a side of them is replayed. -/
theorem resolve_happens {workspace : Workspace φ} (orderly : workspace.Orderly) (number : Nat)
    (side : Side) (allowed : ∀ session, workspace.session? number = some session →
      may (.settle session.uri)) : Happens may workspace (workspace.resolve number side).1 := by
  refine resolve_branches (.refl workspace) ?_
  rintro session _ found (⟨rfl, rfl⟩ | ⟨rfl, rfl⟩)
  · apply Acts.happens
    refine Relation.ReflTransGen.head ?_ (runAndPublish_refresh_acts _ number)
    simp only [current?]
    cases opened : workspace.registry.draft? session.uri with
    | none => exact .settled .tell workspace session.uri (allowed session found)
    | some draft => exact .accepted workspace session.uri draft opened (allowed session found)
  · have setAside : Act may .ready workspace
        (workspace.coordinate (·.beginResolution session.uri none)) :=
      .settled .ready workspace session.uri (allowed session found)
    exact (runAndPublish_happens (setAside.orderly orderly) number _).head setAside

/-- A text is committed and comes back into the view, or nothing happens. -/
theorem commit_happens {workspace : Workspace φ} (orderly : workspace.Orderly)
    (session : Session) (text : String) :
    Happens may workspace (workspace.commit session text).1 := by
  have updated : ∀ draft : Draft, Happens may workspace
      (workspace.update .within session.uri draft.nextVersion text session.client).1 :=
    fun draft => (update_act orderly .within session.uri draft.nextVersion text _).happens
  refine commit_branches ?same ?updated ?shown
  case same => exact .refl workspace
  case updated => exact fun draft _ _ => updated draft
  case shown => exact fun draft _ _ => (updated draft).trans (runAndPublish_refresh_acts _ _)

theorem submitPatch_happens {workspace : Workspace φ} (orderly : workspace.Orderly)
    (session : Session) (patch : Patch) :
    Happens may workspace (workspace.submitPatch session patch).1 :=
  submitPatch_branches (.refl workspace)
    fun _ _ _ _ _ _ => commit_happens orderly session _

/-- The next tick is planned, unless ticks have no period. -/
theorem planTick_acts (workspace : Workspace φ) {number : Nat}
    (present : workspace.Present number) :
    Acts may stage workspace (workspace.planTick number) :=
  planTick_branches .refl
    fun period => Act.alone (.tickPlanned stage workspace number present period)

theorem tick_acts {workspace : Workspace φ} (orderly : workspace.Orderly) {session : Session}
    (present : session ∈ workspace.sessions) :
    Acts may .tell workspace (workspace.tick session) := by
  refine tick_branches ?rests ?carried
  case rests => exact planTick_acts workspace ⟨session, present, rfl⟩
  case carried =>
    intro _
    have calm : Acts (fun _ => False) .tell workspace
        (workspace.runAndPublish session.number .semanticToGraph).1 :=
      runAndPublish_refresh_acts workspace session.number
    exact (runAndPublish_refresh_acts workspace session.number).trans
      (planTick_acts _ (calm.present (fun _ _ => id) orderly ⟨session, present, rfl⟩))

/-- A call that nothing overtook is carried out. -/
theorem endWait_happens {workspace : Workspace φ} (orderly : workspace.Orderly)
    {session : Session} (present : session ∈ workspace.sessions) (call : Nat)
    (direction : Direction) :
    Happens may workspace (workspace.endWait session call direction) := by
  refine endWait_branches (.refl workspace) ?_
  intro debouncer due
  have begun : Act may .ready workspace
      (workspace.changeSession session.number ({ · with debouncer })) :=
    .expired .ready workspace session call debouncer present due
  exact (runAndPublish_happens (begun.orderly orderly) _ _).head begun

/-- A ready task is taken up and carried out. -/
theorem workAt_happens {workspace : Workspace φ} (orderly : workspace.Orderly) (position : Nat)
    (allowed : ∀ task, workspace.agenda.ready[position]? = some task →
      ∀ licence, Task.uses workspace task licence → may licence) :
    Happens may workspace (workspace.workAt position) := by
  have taken : Act may .ready workspace (workspace.without position) :=
    .taken .ready workspace position
  have left : (workspace.without position).Orderly := taken.orderly orderly
  refine workAt_branches (.refl workspace) ?_
  intro task ready
  refine perform_branches ?gone ?begun ?ended ?ticksBegun ?ticked ?resolved
  case gone => exact fun _ => (Happens.refl _).head taken
  case begun =>
    rintro session number call direction found rfl patient
    obtain ⟨present, rfl⟩ := of_session? found
    exact Acts.happens (Act.alone
      (.begun .tell workspace position session call direction present ready patient))
  case ended =>
    intro session _ call direction found _
    exact (endWait_happens left (of_session? found).1 call direction).head taken
  case ticksBegun =>
    rintro session number found rfl
    obtain ⟨present, named⟩ := of_session? found
    exact (planTick_acts _ ⟨session, present, named⟩).happens.head taken
  case ticked =>
    intro session _ found _
    exact (tick_acts left (of_session? found).1).happens.head taken
  case resolved =>
    rintro _ number side _ rfl
    refine (resolve_happens left number side ?_).head taken
    exact fun resolving is => allowed _ ready _ ⟨resolving, is, rfl⟩

/-- A session and its client's hold end together. -/
theorem detach_happens {workspace : Workspace φ} (orderly : workspace.Orderly) (number : Nat)
    (allowed : ∀ session, workspace.session? number = some session →
      may (.hold session.uri session.client) ∧ may (.link session.uri session.client)) :
    Happens may workspace (workspace.detach number) := by
  refine detach_branches (.refl workspace) ?_
  intro session found
  obtain ⟨present, rfl⟩ := of_session? found
  obtain ⟨hold, link⟩ := allowed session found
  have unlinked : Act may .ready workspace
      (workspace.coordinate (·.disconnect session.uri session.client)) :=
    .disconnected .ready workspace session.uri session.client link
  have ended : Act may .ready (workspace.coordinate (·.disconnect session.uri session.client))
      { workspace.coordinate (·.disconnect session.uri session.client) with
        sessions := workspace.sessions.filter (·.number ≠ session.number) } :=
    .withdrawn .ready _ session present link
  have sound := (ended.orderly (unlinked.orderly orderly)).sound
  refine Happens.head unlinked (Happens.head ended (Act.happens ?_))
  refine .adopted _ .within session.uri (some session.client) _
    (Registry.close_turns sound session.uri session.client _) ?_
  intro client same
  cases same
  exact hold

/-- The current revision of a document is judged if it is open. -/
theorem observeCurrent_acts (workspace : Workspace φ) (uri : String) :
    Acts may .tell workspace (workspace.observeCurrent uri) :=
  observeCurrent_branches .refl
    fun draft found => Act.alone (.judged workspace uri draft found)

/-- Judging a revision leaves documents and sessions in order. -/
theorem orderly_observeCurrent {workspace : Workspace φ} (orderly : workspace.Orderly)
    (uri : String) : (workspace.observeCurrent uri).Orderly := by
  have judged : Acts (fun _ => False) .tell workspace (workspace.observeCurrent uri) :=
    observeCurrent_acts workspace uri
  exact judged.orderly orderly

/-- Attaching fails to open the document, or begins a session of a client that holds it.
All that follows is done while nobody leaves. -/
theorem attach_cases [Files.Store φ] {workspace : Workspace φ} (orderly : workspace.Orderly)
    (uri client : String) :
    (∃ failure, (workspace.attach uri client).2 = .error failure ∧
      Act may .write workspace (workspace.attach uri client).1) ∨
    ∃ opened : Workspace φ, Act may .write workspace opened ∧ opened.Orderly ∧
      opened.registry.Holds uri client ∧
      (workspace.attach uri client).2 = .ok opened.nextSession ∧
      ∀ permitted : Licence → Prop,
        Acts permitted .tell (opened.enrol uri client) (workspace.attach uri client).1 := by
  let opening : Registry.Opening := ⟨uri, client, none, none, none⟩
  have turns := Registry.openFor_turns orderly.sound opening workspace.timestamp
  have opens : Act may .write workspace (workspace.openFor opening).1 := openFor_act orderly _
  have begun : ∀ opened, workspace.openFor opening = (opened, .ok ()) →
      Act may .write workspace opened ∧ opened.Orderly ∧ opened.registry.Holds uri client := by
    intro opened result
    have holds : (workspace.openFor opening).1.registry.Holds uri client := by
      obtain ⟨registry, _⟩ := adopt_frame orderly.numbered .within turns.once
      exact registry.symm ▸ Registry.openFor_holds orderly.sound opening workspace.timestamp
        (congrArg Prod.snd result)
    rw [result] at opens holds
    exact ⟨opens, opens.orderly orderly, holds⟩
  have shown : ∀ (opened : Workspace φ) (permitted : Licence → Prop),
      Acts permitted .tell (opened.enrol uri client)
        (((opened.enrol uri client).observeCurrent uri).runAndPublish opened.nextSession
          .semanticToGraph).1 :=
    fun opened permitted => (observeCurrent_acts _ uri).trans (runAndPublish_refresh_acts _ _)
  refine attach_branches ?failed ?shown ?ticksBegun
  case failed =>
    intro opened failure result
    rw [result] at opens
    exact .inl ⟨failure, rfl, opens⟩
  case shown =>
    intro opened result
    obtain ⟨write, settled, holds⟩ := begun opened result
    exact .inr ⟨opened, write, settled, holds, rfl, shown opened⟩
  case ticksBegun =>
    intro opened result
    obtain ⟨write, settled, holds⟩ := begun opened result
    have enrolled : Act (fun _ => False) .tell opened (opened.enrol uri client) :=
      .enrolled opened uri client holds
    have fresh : (opened.enrol uri client).Present opened.nextSession :=
      ⟨_, List.mem_append_right _ List.mem_cons_self, rfl⟩
    have present := (shown opened fun _ => False).present (fun _ _ => id)
      (enrolled.orderly settled) fresh
    exact .inr ⟨opened, write, settled, holds, rfl, fun permitted =>
      (shown opened permitted).tail (.ticksBegun .tell _ _ present)⟩

/-- A document is opened for a client, and a session begun and shown the document. -/
theorem attach_happens [Files.Store φ] {workspace : Workspace φ} (orderly : workspace.Orderly)
    (uri client : String) : Happens may workspace (workspace.attach uri client).1 := by
  obtain ⟨_, _, opening⟩ | ⟨opened, opening, _, holds, _, shown⟩ :=
    attach_cases orderly uri client
  · exact opening.happens
  · exact opening.happens.trans
      (.head (.enrolled opened uri client holds) (shown may))

end Happens

/-- What a move comes to happens at once, by no more licences than the move says. -/
theorem act_happens [Files.Store φ] {workspace : Workspace φ} (orderly : workspace.Orderly)
    (move : Move φ) : Happens (move.uses workspace) workspace (workspace.act move) := by
  cases move with
  | openFor opening => exact (openFor_act orderly opening).happens
  | update clock uri claimed text client =>
    exact (update_act orderly clock uri claimed text client).happens
  | save uri text client =>
    exact Act.happens (.adopted workspace .within uri none _
      (Registry.save_turns orderly.sound uri text client workspace.timestamp)
      fun _ absent => nomatch absent)
  | close uri client =>
    refine Act.happens (.adopted workspace .within uri (some client) _
      (Registry.close_turns orderly.sound uri client workspace.timestamp) ?_)
    intro leaver same
    cases same
    rfl
  | rebuild uri client =>
    exact Act.happens (.adopted workspace .within uri none _
      (Registry.rebuild_turns orderly.sound uri client workspace.timestamp)
      fun _ absent => nomatch absent)
  | reload uri =>
    exact Act.happens (.adopted workspace .within uri none _
      (Registry.reload_turns orderly.sound uri workspace.timestamp) fun _ absent => nomatch absent)
  | refile files => exact (Act.alone (.filed .tell workspace files)).happens
  | connect uri client method =>
    exact (Act.alone (.connected .tell workspace uri client method)).happens
  | disconnect uri client =>
    refine Acts.happens (Act.alone ?_)
    exact .disconnected .tell workspace uri client rfl
  | observe uri => exact (observeCurrent_acts workspace uri).happens
  | beginResolution uri accept =>
    apply Acts.happens
    apply Act.alone
    cases accept with
    | false => exact .settled .tell workspace uri rfl
    | true =>
      simp only [act, current?]
      cases opened : workspace.registry.draft? uri with
      | none => exact .settled .tell workspace uri rfl
      | some draft => exact .accepted workspace uri draft opened rfl
  | attach uri client => exact attach_happens orderly uri client
  | detach number =>
    exact detach_happens orderly number fun session found =>
      ⟨⟨session, found, .inl rfl⟩, session, found, .inr rfl⟩
  | sync number direction => exact run_happens orderly number direction
  | syncAndSend number direction => exact runAndPublish_happens orderly number direction
  | resolve number side =>
    exact resolve_happens orderly number side fun session found => ⟨session, found, rfl⟩
  | submitPatch number patch =>
    exact ask_branches (motive := Happens _ workspace) (.refl workspace)
      fun session _ => submitPatch_happens orderly session patch
  | submitText number text =>
    exact ask_branches (motive := Happens _ workspace) (.refl workspace)
      fun session _ => commit_happens orderly session text
  | work position =>
    exact workAt_happens orderly position fun task ready licence used => ⟨task, ready, used⟩
  | wait time =>
    exact waitFor_branches (motive := Happens _ workspace) (.refl workspace)
      fun later => (Act.alone (.moved .tell workspace time later)).happens
  | collect => exact Acts.happens (Alike.acts ⟨rfl, rfl, rfl, rfl, rfl⟩)
  | hangUp => exact Acts.happens (Alike.acts ⟨rfl, rfl, rfl, rfl, rfl⟩)

/-- Moves keep a workspace orderly. -/
theorem orderly_act [Files.Store φ] {workspace : Workspace φ} (orderly : workspace.Orderly)
    (move : Move φ) : (workspace.act move).Orderly :=
  (act_happens orderly move).orderly orderly

theorem orderly_after [Files.Store φ] {workspace : Workspace φ} (orderly : workspace.Orderly)
    (moves : List (Move φ)) : (workspace.after moves).Orderly := by
  induction moves generalizing workspace with
  | nil => exact orderly
  | cons move moves inductionHypothesis => exact inductionHypothesis (orderly_act orderly move)

section Runs

variable [Files.Store φ]

@[simp] theorem after_append (workspace : Workspace φ) (earlier later : List (Move φ)) :
    workspace.after (earlier ++ later) = (workspace.after earlier).after later :=
  List.foldl_append

theorem after_snoc (workspace : Workspace φ) (moves : List (Move φ)) (move : Move φ) :
    workspace.after (moves ++ [move]) = (workspace.after moves).act move :=
  after_append workspace moves [move]

/-- A law that every move keeps of an orderly workspace is kept by any number of them. -/
theorem after_keep {workspace : Workspace φ} (orderly : workspace.Orderly)
    (moves : List (Move φ)) (law : Workspace φ → Prop)
    (step : ∀ workspace move, workspace.Orderly → law workspace → law (workspace.act move))
    (holds : law workspace) : law (workspace.after moves) := by
  induction moves generalizing workspace with
  | nil => exact holds
  | cons move moves inductionHypothesis =>
    exact inductionHypothesis (orderly_act orderly move) (step workspace move orderly holds)

/-- Whether every one of some moves is as it should be in the workspace in which it is
made. -/
def Throughout (fits : Workspace φ → Move φ → Prop) : Workspace φ → List (Move φ) → Prop
  | _, [] => True
  | workspace, move :: moves => fits workspace move ∧ Throughout fits (workspace.act move) moves

instance decidableThroughout {fits : Workspace φ → Move φ → Prop}
    [∀ workspace move, Decidable (fits workspace move)] :
    (workspace : Workspace φ) → (moves : List (Move φ)) →
      Decidable (Throughout fits workspace moves)
  | _, [] => isTrue trivial
  | workspace, move :: moves =>
    let _ : Decidable (Throughout fits (workspace.act move) moves) := decidableThroughout _ moves
    inferInstanceAs (Decidable (fits workspace move ∧ Throughout fits (workspace.act move) moves))

theorem throughout_append (fits : Workspace φ → Move φ → Prop) (workspace : Workspace φ)
    (earlier later : List (Move φ)) :
    Throughout fits workspace (earlier ++ later) ↔
      Throughout fits workspace earlier ∧ Throughout fits (workspace.after earlier) later := by
  induction earlier generalizing workspace with
  | nil => exact (true_and _).symm.to_iff
  | cons move earlier inductionHypothesis =>
    simp only [List.cons_append, Throughout, inductionHypothesis, and_assoc]
    rfl

/-- A law that is kept by every move that is as it should be. -/
theorem Throughout.keep {fits : Workspace φ → Move φ → Prop} {workspace : Workspace φ}
    {moves : List (Move φ)} (fitting : Throughout fits workspace moves)
    (orderly : workspace.Orderly) (law : Workspace φ → Prop)
    (step : ∀ workspace move, workspace.Orderly → fits workspace move → law workspace →
      law (workspace.act move)) (holds : law workspace) : law (workspace.after moves) := by
  induction moves generalizing workspace with
  | nil => exact holds
  | cons move moves inductionHypothesis =>
    obtain ⟨first, rest⟩ := fitting
    exact inductionHypothesis rest (orderly_act orderly move)
      (step workspace move orderly first holds)

/-- Whether a client keeps its hold on a document while moves are made. -/
abbrev KeepsHold (uri client : String) : Workspace φ → List (Move φ) → Prop :=
  Throughout fun workspace move => ¬move.uses workspace (.hold uri client)

/-- Whether no client of a document leaves it while moves are made. -/
abbrev NobodyLeaves (uri : String) : Workspace φ → List (Move φ) → Prop :=
  Throughout fun workspace move => ∀ client,
    ¬move.uses workspace (.hold uri client) ∧ ¬move.uses workspace (.link uri client)

end Runs

end Flowdesk.Workspace
