import Flowdesk.Proofs.Workflow.RoundTrip
import Flowdesk.Proofs.Workspace.Edition
import Flowdesk.Proofs.Workspace.Hindrance
import Flowdesk.Proofs.Workspace.Showing

/-!
# Models that are written back again

Once a session has written its model back, the document has the text of the model, and the
session is shown the build of that text. What is written is read as itself, so the build has
the same model again. The session then stands before its document as before a mirror:
writing the model back once more finds the text already there, and shows the session what it
shows.
-/

namespace Flowdesk

open Data Sync Workflow

/-- The build of the text of a model has that model, if the text of each coordinate names
it. -/
theorem Workflow.Build.root_of_write (uri : String) {root : Document}
    (printed : Named root.coordinates) :
    (Build.of uri root.write).root = some root := by
  rw [Build.root_of, Document.parse, isBlankText_write]
  simp only [Bool.false_eq_true, if_false, decode_of_write root printed]
  rfl

/-- A revision without its time. -/
def Revision.untimed (revision : Revision) : Revision := { revision with timestamp := 0 }

/-- A view without the time of its revision. -/
def View.untimed (view : View) : View := { view with revision := view.revision.map (·.untimed) }

namespace Session

/-- A session whose view is without a time. -/
def untimed (session : Session) : Session := { session with view := session.view.untimed }

/-- Whether a session shows a draft as it is, and the draft has the text of the model that
is shown. -/
structure Mirrors (session : Session) (draft : Draft) : Prop where
  fits : session.Fits draft
  shown : ∃ (view : View) (now : UInt64), session.view =
    view.update (Build.of session.uri draft.text) (draft.current now) draft.text

/-- A session that is shown a draft with the text of its model mirrors it, whatever its view
was. -/
theorem mirrors_of_shown {session : Session} {view : View} {draft : Draft} {root : Document}
    (printed : Named root.coordinates)
    (written : draft.text = root.write) {now : UInt64}
    (shown : session.view =
      view.update (Build.of session.uri draft.text) (draft.current now) draft.text) :
    session.Mirrors draft := by
  refine ⟨⟨root, ?_, written⟩, view, now, shown⟩
  rw [shown, View.update, written, Build.root_of_write session.uri printed]
  rfl

/-- A session that mirrors a draft is the same after it was shown the draft again, but for
the time. -/
theorem Mirrors.untimed_see {session : Session} {draft : Draft} (mirrors : session.Mirrors draft)
    (now : UInt64) : (session.see draft now).untimed = session.untimed := by
  obtain ⟨view, time, shown⟩ := mirrors.shown
  have again : (session.see draft now).view =
      view.update (Build.of session.uri draft.text) (draft.current now) draft.text := by
    rw [see, shown, View.update_update]
  rw [untimed, untimed, again, shown]
  rfl

/-- And so are the actions that show it. -/
theorem Mirrors.actions_see {session : Session} {draft : Draft} (mirrors : session.Mirrors draft)
    (now : UInt64) : (session.see draft now).view.actions = session.view.actions := by
  obtain ⟨view, time, shown⟩ := mirrors.shown
  have again : (session.see draft now).view =
      view.update (Build.of session.uri draft.text) (draft.current now) draft.text := by
    rw [see, shown, View.update_update]
  rw [again, shown]
  rfl

end Session

namespace Workspace

variable {φ : Type} {workspace : Workspace φ} {session : Session}

/-- A replay that is run and comes to some actions was attempted on a draft that has the text
of the model or is given it. -/
theorem capable_of_done (idle : workspace.Idle)
    (found : workspace.session? session.number = some session)
    (done : (workspace.run session.number .graphToSemantic).2 ≠ []) :
    ∃ draft, workspace.registry.draft? session.uri = some draft ∧
      (session.Fits draft ∨ session.Writes draft) := by
  obtain ⟨coordinator, started⟩ := Coordinator.start?_of_free (idle session.uri)
  rcases writeBack_side { workspace with coordinator } session with
    ⟨_, failure, failed, _⟩ | capable
  · rw [run_of_attempt found .graphToSemantic started failed] at done
    exact absurd rfl done
  · exact capable

/-- Time that goes by changes nothing but the agenda. -/
theorem waitFor_eq (workspace : Workspace φ) (time : Nat) :
    ∃ agenda, workspace.waitFor time = { workspace with agenda } :=
  waitFor_branches (motive := fun after => ∃ agenda, after = { workspace with agenda })
    ⟨workspace.agenda, rfl⟩ fun _ => ⟨_, rfl⟩

/-- Whether the session of a number mirrors its document, and some actions show it. -/
def Mirrored (workspace : Workspace φ) (number : Nat) (actions : List Action) : Prop :=
  ∃ mirror draft, workspace.session? number = some mirror ∧
    workspace.registry.draft? mirror.uri = some draft ∧ mirror.Mirrors draft ∧
    mirror.view.actions = actions

section Replays

variable (orderly : workspace.Orderly) (idle : workspace.Idle)
  (found : workspace.session? session.number = some session) {draft : Draft}
  (opened : workspace.registry.draft? session.uri = some draft)

include orderly idle found opened

/-- A session whose model has the text of the document mirrors it once it was shown it. -/
theorem mirrored_of_fits (printed : ∀ root, session.view.root = some root → Named root.coordinates)
    (fits : session.Fits draft) :
    (workspace.run session.number .graphToSemantic).1.Mirrored session.number
      (workspace.run session.number .graphToSemantic).2 := by
  obtain ⟨present, _⟩ := of_session? found
  obtain ⟨coordinator, started⟩ := Coordinator.start?_of_free (idle session.uri)
  obtain ⟨root, shown, written⟩ := fits
  have fits : session.Fits draft := ⟨root, shown, written⟩
  have shows := replay_shows orderly idle found opened fits
  have alike := runAndPublish_alike workspace session.number .graphToSemantic
  let begun : Workspace φ := { workspace with coordinator }
  have sound : begun.registry.Sound := orderly.sound
  have run := run_of_attempt found .graphToSemantic started (writeBack_of_fits sound opened fits)
  have happens : Happens (fun _ => True) workspace
      (workspace.run session.number .graphToSemantic).1 :=
    run_happens orderly session.number .graphToSemantic
  have mirror : session.see draft workspace.timestamp ∈
      (workspace.run session.number .graphToSemantic).1.sessions := by
    rw [← alike.sessions, shows.sessions]
    exact List.mem_map.mpr ⟨session, present, if_pos rfl⟩
  refine ⟨session.see draft workspace.timestamp, draft,
    (happens.orderly orderly).numbered.session?_eq mirror, ?_, ?_, ?_⟩
  · rw [← alike.registry, shows.registry]
    exact opened
  · exact Session.mirrors_of_shown (printed root shown) written rfl
  · exact (congrArg Prod.snd run).symm

/-- A session that writes its model over the document mirrors what comes of it. -/
theorem mirrored_of_writes
    (printed : ∀ root, session.view.root = some root → Named root.coordinates)
    (writes : session.Writes draft) :
    (workspace.run session.number .graphToSemantic).1.Mirrored session.number
      (workspace.run session.number .graphToSemantic).2 := by
  obtain ⟨present, _⟩ := of_session? found
  obtain ⟨coordinator, started⟩ := Coordinator.start?_of_free (idle session.uri)
  obtain ⟨react, overwritten⟩ := replay_writes orderly idle found opened writes
  have alike := runAndPublish_alike workspace session.number .graphToSemantic
  let begun : Workspace φ := { workspace with coordinator }
  have settled : begun.Orderly := orderly.congr orderly.sound rfl rfl
  obtain ⟨registry, put, _, _, attempt⟩ := writeBack_of_writes settled opened writes
  have run := run_of_attempt found .graphToSemantic started attempt
  have happens : Happens (fun _ => True) workspace
      (workspace.run session.number .graphToSemantic).1 :=
    run_happens orderly session.number .graphToSemantic
  obtain ⟨root, shown, different, notLast⟩ := writes
  have written := congrArg Draft.text (Session.overwrite_eq shown different notLast)
  let mirror : Session := { session.respond (react session) with
    view := (session.see (session.overwrite draft) workspace.timestamp).view }
  have about : mirror.uri = session.uri := uri_respond session (react session)
  have still : mirror ∈ (workspace.run session.number .graphToSemantic).1.sessions := by
    rw [← alike.sessions, overwritten.sessions]
    exact List.mem_map.mpr ⟨session, present, if_pos rfl⟩
  have number : mirror.number = session.number := number_respond session (react session)
  refine ⟨mirror, session.overwrite draft,
    number ▸ (happens.orderly orderly).numbered.session?_eq still, ?_, ?_, ?_⟩
  · rw [about, ← alike.registry, overwritten.documents, replayed, if_pos rfl, opened]
    rfl
  · have shows : mirror.view = session.view.update
        (Build.of mirror.uri (session.overwrite draft).text)
        ((session.overwrite draft).current workspace.timestamp)
        (session.overwrite draft).text := by
      rw [about]
      rfl
    exact Session.mirrors_of_shown (printed root shown) written shows
  · exact (congrArg Prod.snd run).symm

/-- A replay of a session that mirrors its document changes nothing but times. -/
theorem run_of_mirrors (mirrors : session.Mirrors draft) :
    let after := workspace.run session.number .graphToSemantic
    after.2 = session.view.actions ∧ after.1.registry = workspace.registry ∧
      after.1.announced = workspace.announced ∧ after.1.agenda = workspace.agenda ∧
      after.1.sessions.map Session.untimed = workspace.sessions.map Session.untimed := by
  intro after
  obtain ⟨present, _⟩ := of_session? found
  obtain ⟨coordinator, started⟩ := Coordinator.start?_of_free (idle session.uri)
  let begun : Workspace φ := { workspace with coordinator }
  have sound : begun.registry.Sound := orderly.sound
  have run : after = _ := run_of_attempt found .graphToSemantic started
    (writeBack_of_fits sound opened mirrors.fits)
  rw [run]
  refine ⟨mirrors.actions_see workspace.timestamp, rfl, rfl, rfl, ?_⟩
  simp only [coordinate, display, changeSession, List.map_map]
  apply List.map_congr_left
  intro other member
  simp only [Function.comp]
  split
  · next same =>
    cases orderly.numbered.unique present member same
    exact mirrors.untimed_see workspace.timestamp
  · rfl

end Replays

/-- Once the session of a number mirrors its document, a replay at any later time changes
nothing but times. -/
theorem Mirrored.again {number : Nat} {actions : List Action}
    (mirrored : workspace.Mirrored number actions) (orderly : workspace.Orderly)
    (idle : workspace.Idle) (time : Nat) :
    let between := workspace.waitFor time
    let after := between.run number .graphToSemantic
    after.2 = actions ∧ after.1.registry = workspace.registry ∧
      after.1.announced = workspace.announced ∧ after.1.agenda = between.agenda ∧
      after.1.sessions.map Session.untimed = workspace.sessions.map Session.untimed := by
  obtain ⟨mirror, draft, found, opened, mirrors, rfl⟩ := mirrored
  obtain ⟨_, rfl⟩ := of_session? found
  obtain ⟨agenda, waited⟩ := workspace.waitFor_eq time
  rw [waited]
  let between : Workspace φ := { workspace with agenda }
  have settled : between.Orderly := orderly.congr orderly.sound rfl rfl
  exact run_of_mirrors settled idle found opened mirrors

section Runs

variable [Files.Store φ]

/-- **Writing a model back twice is writing it back once.** Take whatever moves lead to, and
any session whose replay comes to some actions, that is, succeeds. Any time may pass before
the session replays its model again, as long as nothing else is done.

The second replay succeeds too and comes to the same actions. It leaves the documents and
their builds as they are, announces nothing, plans nothing, and changes in no session
anything but the time of what it was shown. It is assumed that the text of each coordinate
of the model names it.

Proof: the first replay leaves the session mirroring its document, because the model that is
built of the text of a model is that model. -/
theorem replay_is_idempotent (files : φ) (settings : Settings) (moves : List (Move φ))
    (number : Nat) {session : Session}
    (found : ((create files settings).after moves).session? number = some session)
    (printed : ∀ root, session.view.root = some root → Named root.coordinates)
    (done : (((create files settings).after moves).run number .graphToSemantic).2 ≠ [])
    (time : Nat) :
    let first := ((create files settings).after moves).run number .graphToSemantic
    let between := first.1.waitFor time
    let second := between.run number .graphToSemantic
    second.2 = first.2 ∧ second.1.registry = first.1.registry ∧
      second.1.announced = first.1.announced ∧ second.1.agenda = between.agenda ∧
      second.1.sessions.map Session.untimed = first.1.sessions.map Session.untimed := by
  intro first between second
  let workspace := (create files settings).after moves
  have orderly : workspace.Orderly := orderly_after (orderly_create files settings) moves
  have idle : workspace.Idle :=
    idle_after (orderly_create files settings) (idle_create files settings) moves
  obtain ⟨_, rfl⟩ := of_session? found
  obtain ⟨draft, opened, capable⟩ := capable_of_done idle found done
  have mirrored : first.1.Mirrored session.number first.2 := by
    rcases capable with fits | writes
    · exact mirrored_of_fits orderly idle found opened printed fits
    · exact mirrored_of_writes orderly idle found opened printed writes
  have happens : Happens (fun _ => True) workspace first.1 :=
    run_happens orderly session.number .graphToSemantic
  exact mirrored.again (happens.orderly orderly)
    (idle_run orderly idle session.number .graphToSemantic) time

end Runs

/-- The text of a workflow with a node that has a place, not as it is written back. -/
def placedFlow : String :=
  "workflow:\n  name: placed\n  nodes:\n  - id: s\n    type: auto\n    position:\n" ++
    "      x: 10\n      y: -2.5\n  edges: []\n"

/-- A session is attached to the document with that text. -/
def placing : List (Move Files.Memory) :=
  [.openFor ⟨"file:///a.wf", "t1", none, none, some placedFlow⟩, .attach "file:///a.wf" "g1"]

/-- The session writes its model back once, as a version of its own, and not again. -/
theorem placed_model_is_written_once :
    let workspace := (create Files.Memory.empty Settings.usual).after placing
    let first := workspace.run 0 .graphToSemantic
    let second := (first.1.waitFor 7).run 0 .graphToSemantic
    (workspace.registry.draft? "file:///a.wf").map (·.version) = some 0 ∧
      (first.1.registry.draft? "file:///a.wf").map (·.version) = some 1 ∧
      second.2 ≠ [] ∧ second.1.registry = first.1.registry := by
  intro workspace first second
  have run : ((workspace.registry.draft? "file:///a.wf").map (·.version),
      (first.1.registry.draft? "file:///a.wf").map (·.version), first.2.isEmpty,
      (workspace.session? 0).map fun session => session.view.root.all fun root =>
        root.coordinates.all fun x => Yaml.floatOf? (Yaml.writeNumber x) = some x) =
      (some 0, some 1, false, some true) := by
    decide +kernel
  simp only [Prod.mk.injEq] at run
  obtain ⟨before, after, shows, model⟩ := run
  obtain ⟨session, found, named⟩ := Option.map_eq_some_iff.mp model
  have done : first.2 ≠ [] := List.isEmpty_eq_false_iff.mp shows
  have printed : ∀ root, session.view.root = some root → Named root.coordinates := by
    intro root shown
    simpa [shown, Named] using named
  obtain ⟨actions, registry, _⟩ := replay_is_idempotent Files.Memory.empty Settings.usual placing 0
    found printed done 7
  have again : second.2 ≠ [] := fun nothing => done (actions.symm.trans nothing)
  refine ⟨before, after, again, ?_⟩
  simpa only [second, first, workspace] using registry

end Workspace

end Flowdesk
