import Flowdesk.Proofs.Workspace.Replay

/-!
# What syncs carry over

Between moves a sync that is run on an open document does one of three things. It shows
the document to its session, as a refresh does while there is no conflict, and a replay
where the document has the text of the model already. It writes the model over the
document, which all sessions on it hear of, and shows that. Or it fails and leaves
everything as it was, the conflicts of all documents included.
-/

namespace Flowdesk

open Data Sync Workflow

namespace Session

/-- Whether a draft has the text of the model of a session. -/
def Fits (session : Session) (draft : Draft) : Prop :=
  ∃ root, session.view.root = some root ∧ draft.text = root.write

/-- Whether the model of a session can be written over a draft and has another text. -/
def Writes (session : Session) (draft : Draft) : Prop :=
  ∃ root, session.view.root = some root ∧ draft.text ≠ root.write ∧
    draft.version ≠ Draft.lastVersion

/-- A model that can be written becomes the next version of a draft. -/
theorem overwrite_eq {session : Session} {draft : Draft} {root : Document}
    (shown : session.view.root = some root) (different : draft.text ≠ root.write)
    (notLast : draft.version ≠ Draft.lastVersion) :
    session.overwrite draft = { draft with
      text := root.write, version := draft.version + 1, author := session.client } := by
  simp [overwrite, shown, different, notLast]

theorem Writes.version_lt {session : Session} {draft : Draft} (writes : session.Writes draft) :
    draft.version < (session.overwrite draft).version := by
  obtain ⟨root, shown, different, notLast⟩ := writes
  rw [overwrite_eq shown different notLast, UInt64.lt_iff_toNat_lt, Draft.toNat_succ notLast]
  exact Nat.lt_succ_self _

/-- The session after it was shown a draft. -/
def see (session : Session) (draft : Draft) (now : UInt64) : Session :=
  { session with
    view := session.view.update (Build.of session.uri draft.text) (draft.current now) draft.text }

end Session

namespace Workspace

variable {φ : Type}

/-- Whether two workspaces have the same conflicts. -/
def SameConflicts (before after : Workspace φ) : Prop :=
  ∀ uri, after.coordinator.hasConflict uri = before.coordinator.hasConflict uri

/-- A workspace with other sessions than before, and nothing else changed but what was
sent and how syncs stand. -/
structure With (before : Workspace φ) (sessions : List Session) (after : Workspace φ) : Prop where
  registry : after.registry = before.registry
  sessions : after.sessions = sessions
  agenda : after.agenda = before.agenda
  settings : after.settings = before.settings
  conflicts : SameConflicts before after

/-- The sessions after one of them was shown a draft. -/
def seeing (sessions : List Session) (session : Session) (draft : Draft) (now : UInt64) :
    List Session :=
  sessions.map fun other => if other.number = session.number then session.see draft now else other

/-- A sync that is begun or ended leaves the conflicts alone. -/
theorem sameConflicts_finish (workspace : Workspace φ) (uri : String) (direction : Direction)
    (ending : Ending) (now : UInt64) :
    SameConflicts workspace (workspace.coordinate (·.finish uri direction ending now)) := by
  intro other
  apply Coordinator.hasConflict_congr
  exact (Coordinator.finish_same workspace.coordinator uri direction ending now other).2.1

theorem sameConflicts_start {workspace : Workspace φ} {uri : String} {coordinator : Coordinator}
    (started : workspace.coordinator.start? uri = some coordinator) :
    SameConflicts workspace { workspace with coordinator } := by
  intro other
  apply Coordinator.hasConflict_congr
  exact (Coordinator.start?_same started other).2.1

/-- A workspace in which the conflicts of a document were set aside: none of them is left, and
what was judged of it is forgotten. -/
structure SetAside (workspace : Workspace φ) (uri : String) : Prop where
  orderly : workspace.Orderly
  calm : (workspace.course uri).status.conflicts = []
  anew : (workspace.course uri).judged = none

theorem course_setAside (workspace : Workspace φ) (uri : String) (accepted : Option Revision) :
    (workspace.coordinate (·.beginResolution uri accepted)).course uri =
      (workspace.course uri).beginResolution accepted := by
  simp [Workspace.course, coordinate]

theorem setAside {workspace : Workspace φ} (orderly : workspace.Orderly) (uri : String)
    (accepted : Option Revision) :
    (workspace.coordinate (·.beginResolution uri accepted)).SetAside uri := by
  have aside := course_setAside workspace uri accepted
  exact ⟨orderly_beginResolution orderly uri accepted, congrArg (·.status.conflicts) aside,
    congrArg Course.judged aside⟩

/-- Conflicts that were set aside do not come back by a sync that is begun. -/
theorem SetAside.started {workspace : Workspace φ} {uri : String}
    (aside : workspace.SetAside uri) {coordinator : Coordinator}
    (started : workspace.coordinator.start? uri = some coordinator) :
    ({ workspace with coordinator } : Workspace φ).SetAside uri := by
  obtain ⟨_, conflicts, judged⟩ := Coordinator.start?_same started uri
  exact ⟨aside.orderly.congr aside.orderly.sound rfl rfl, conflicts.trans aside.calm,
    judged.trans aside.anew⟩

theorem SetAside.clear {workspace : Workspace φ} {uri : String} (aside : workspace.SetAside uri) :
    workspace.coordinator.hasConflict uri = false :=
  Coordinator.hasConflict_of_nil aside.calm

/-- A sync that can be begun ends as its attempt does, and comes to the same actions. -/
theorem run_of_attempt {workspace : Workspace φ} {session : Session}
    (found : workspace.session? session.number = some session) (direction : Direction)
    {coordinator : Coordinator}
    (started : workspace.coordinator.start? session.uri = some coordinator)
    {after : Workspace φ} {result : Except Sync.Failure (List Action)}
    (attempt : ({ workspace with coordinator } : Workspace φ).attempt session direction =
      (after, result)) :
    workspace.run session.number direction =
      (after.coordinate (·.finish session.uri direction (.of result) after.timestamp),
        result.toOption.getD []) := by
  simp only [run, found, started, attempt]

/-- A sync that can be begun is attempted and finished. -/
theorem runAndPublish_attempt {workspace : Workspace φ} {session : Session}
    (found : workspace.session? session.number = some session) (direction : Direction)
    {coordinator : Coordinator}
    (started : workspace.coordinator.start? session.uri = some coordinator) :
    ∃ ending now, Alike
      ((({ workspace with coordinator } : Workspace φ).attempt session direction).1.coordinate
        (·.finish session.uri direction ending now))
      (workspace.runAndPublish session.number direction).1 := by
  have alike := runAndPublish_alike workspace session.number direction
  rw [run_of_attempt found direction started rfl] at alike
  exact ⟨_, _, alike⟩

/-- A sync whose attempt leaves documents and conflicts alone leaves them alone. -/
theorem with_run {workspace : Workspace φ} (idle : workspace.Idle) {session : Session}
    (found : workspace.session? session.number = some session) (direction : Direction)
    (sessions : List Session)
    (attempted : ∀ coordinator, workspace.coordinator.start? session.uri = some coordinator →
      ({ workspace with coordinator } : Workspace φ).With sessions
        (({ workspace with coordinator } : Workspace φ).attempt session direction).1) :
    workspace.With sessions (workspace.runAndPublish session.number direction).1 := by
  obtain ⟨coordinator, started⟩ := Coordinator.start?_of_free (idle session.uri)
  have attempt := attempted coordinator started
  obtain ⟨ending, now, alike⟩ := runAndPublish_attempt found direction started
  refine ⟨alike.registry.trans attempt.registry, alike.sessions.trans attempt.sessions,
    alike.agenda.trans attempt.agenda, ?_, ?_⟩
  · have begun : ({ workspace with coordinator } : Workspace φ).settings = workspace.settings := by
      obtain ⟨course, _, rfl⟩ := Option.map_eq_some_iff.mp started
      rfl
    have kept := congrArg Coordinator.settings alike.coordinator
    exact kept.trans (attempt.settings.trans begun)
  · intro uri
    rw [alike.coordinator]
    exact (sameConflicts_finish _ _ _ _ _ uri).trans
      ((attempt.conflicts uri).trans (sameConflicts_start started uri))

/-- The build that is kept of an open document is that of its text. -/
theorem build?_of_open {registry : Registry φ} (sound : registry.Sound) {uri : String}
    {draft : Draft} (opened : registry.draft? uri = some draft) :
    registry.build? uri = some (Build.of uri draft.text) := by
  rw [Registry.build?, sound.built, opened]
  rfl

theorem with_display (workspace : Workspace φ) (session : Session) (draft : Draft) :
    workspace.With
      (workspace.sessions.map fun other =>
        if other.number = session.number then
          { other with view := (session.see draft workspace.timestamp).view }
        else other)
      (workspace.display session (Build.of session.uri draft.text) draft).1 :=
  ⟨rfl, rfl, rfl, rfl, fun _ => rfl⟩

/-- With numbers of their own, only the session itself is shown the draft. -/
theorem seeing_eq {workspace : Workspace φ} (numbered : workspace.Numbered) {session : Session}
    (present : session ∈ workspace.sessions) (draft : Draft) (now : UInt64) :
    (workspace.sessions.map fun other =>
      if other.number = session.number then
        { other with view := (session.see draft now).view }
      else other) = seeing workspace.sessions session draft now := by
  apply List.map_congr_left
  intro other member
  split
  · next same =>
    rw [numbered.unique present member same]
    rfl
  · rfl

/-- While there is no conflict, a refresh of an open document comes to showing it. -/
theorem refresh_of_open {workspace : Workspace φ} (sound : workspace.registry.Sound)
    {session : Session} {draft : Draft}
    (opened : workspace.registry.draft? session.uri = some draft)
    (calm : workspace.coordinator.hasConflict session.uri = false) :
    workspace.refresh session =
      ((workspace.display session (Build.of session.uri draft.text) draft).1,
        .ok (workspace.display session (Build.of session.uri draft.text) draft).2) := by
  simp only [refresh, calm, Bool.false_eq_true, if_false, opened, build?_of_open sound opened]

/-- So does a replay of a model whose text the document has. -/
theorem writeBack_of_fits {workspace : Workspace φ} (sound : workspace.registry.Sound)
    {session : Session} {draft : Draft}
    (opened : workspace.registry.draft? session.uri = some draft) (fits : session.Fits draft) :
    workspace.writeBack session =
      ((workspace.display session (Build.of session.uri draft.text) draft).1,
        .ok (workspace.display session (Build.of session.uri draft.text) draft).2) := by
  obtain ⟨root, shown, written⟩ := fits
  have built := build?_of_open sound opened
  simp only [writeBack, shown, putText, opened, written, if_true, built]

/-- While there is no conflict, a refresh shows the session its document. -/
theorem refresh_shows {workspace : Workspace φ} (orderly : workspace.Orderly)
    (idle : workspace.Idle) {session : Session}
    (found : workspace.session? session.number = some session) {draft : Draft}
    (opened : workspace.registry.draft? session.uri = some draft)
    (calm : workspace.coordinator.hasConflict session.uri = false) :
    workspace.With (seeing workspace.sessions session draft workspace.timestamp)
      (workspace.runAndPublish session.number .semanticToGraph).1 := by
  obtain ⟨present, _⟩ := of_session? found
  apply with_run idle found
  intro coordinator started
  let begun : Workspace φ := { workspace with coordinator }
  have sound : begun.registry.Sound := orderly.sound
  have still := (sameConflicts_start started session.uri).trans calm
  rw [attempt, refresh_of_open sound opened still, ← seeing_eq orderly.numbered present]
  exact with_display { workspace with coordinator } session draft

/-- A refresh of a document that is not open, or has a conflict, leaves everything as it
was. -/
theorem refresh_fails {workspace : Workspace φ} (idle : workspace.Idle) {session : Session}
    (found : workspace.session? session.number = some session)
    (blocked : workspace.coordinator.hasConflict session.uri = true ∨
      workspace.registry.draft? session.uri = none) :
    workspace.With workspace.sessions
      (workspace.runAndPublish session.number .semanticToGraph).1 := by
  apply with_run idle found
  intro coordinator started
  have same := sameConflicts_start started session.uri
  simp only [attempt, refresh]
  split
  · exact ⟨rfl, rfl, rfl, rfl, fun _ => rfl⟩
  · next calm =>
    rcases blocked with conflicted | missing
    · exact absurd (same.trans conflicted) calm
    · simp only [missing]
      exact ⟨rfl, rfl, rfl, rfl, fun _ => rfl⟩

/-- A replay of a model whose text the document has shows the session the document. -/
theorem replay_shows {workspace : Workspace φ} (orderly : workspace.Orderly)
    (idle : workspace.Idle) {session : Session}
    (found : workspace.session? session.number = some session) {draft : Draft}
    (opened : workspace.registry.draft? session.uri = some draft) (fits : session.Fits draft) :
    workspace.With (seeing workspace.sessions session draft workspace.timestamp)
      (workspace.runAndPublish session.number .graphToSemantic).1 := by
  obtain ⟨present, _⟩ := of_session? found
  apply with_run idle found
  intro coordinator started
  let begun : Workspace φ := { workspace with coordinator }
  have sound : begun.registry.Sound := orderly.sound
  rw [attempt, writeBack_of_fits sound opened fits, ← seeing_eq orderly.numbered present]
  exact with_display { workspace with coordinator } session draft

/-- A replay of no model, without a document, or over a draft without a next version,
leaves everything as it was. -/
theorem replay_fails {workspace : Workspace φ} (idle : workspace.Idle) {session : Session}
    (found : workspace.session? session.number = some session)
    (unfit : ∀ draft, workspace.registry.draft? session.uri = some draft →
      ¬session.Fits draft ∧ ¬session.Writes draft) :
    workspace.With workspace.sessions
      (workspace.runAndPublish session.number .graphToSemantic).1 := by
  apply with_run idle found
  intro coordinator started
  cases shown : session.view.root with
  | none =>
    simp only [attempt, writeBack, shown]
    exact ⟨rfl, rfl, rfl, rfl, fun _ => rfl⟩
  | some root =>
    cases opened : workspace.registry.draft? session.uri with
    | none =>
      simp only [attempt, writeBack, shown, putText, opened]
      exact ⟨rfl, rfl, rfl, rfl, fun _ => rfl⟩
    | some draft =>
      obtain ⟨unfit, stuck⟩ := unfit draft opened
      have different : draft.text ≠ root.write := fun same => unfit ⟨root, shown, same⟩
      have last : draft.version = Draft.lastVersion := by
        by_contra higher
        exact stuck ⟨root, shown, different, higher⟩
      have stands : ({ workspace with coordinator } : Workspace φ).registry.draft? session.uri =
          some draft := opened
      have failed := update_last stands last draft.nextVersion root.write session.client
      simp only [attempt, writeBack, shown, putText, opened, different, if_false, failed]
      exact ⟨rfl, rfl, rfl, rfl, fun _ => rfl⟩

/-- The update by which a session announces its model as the next version of a draft. -/
def announcement (session : Session) (next : Draft) (now : UInt64) : Registry.Update :=
  ⟨Build.of session.uri next.text, session.client, .changed,
    ⟨next.version, next.version, session.client, now, checksum next.text⟩⟩

/-- The text of a model that can be written is heard of by all sessions. -/
theorem putText_heard {workspace : Workspace φ} (orderly : workspace.Orderly) {session : Session}
    {draft : Draft} (opened : workspace.registry.draft? session.uri = some draft) {root : Document}
    (shown : session.view.root = some root) (different : draft.text ≠ root.write)
    (notLast : draft.version ≠ Draft.lastVersion) :
    ∃ registry : Registry φ, registry.Sound ∧
      registry.draft? session.uri = some (session.overwrite draft) ∧
      (workspace.putText session root.write).2 = .ok () ∧
      Heard .within (announcement session (session.overwrite draft) workspace.timestamp)
        { workspace with registry } (workspace.putText session root.write).1 := by
  have next := Session.overwrite_eq shown different notLast
  obtain ⟨registry, sound, reached, _, revision, moment, result, heard⟩ :=
    update_next orderly opened notLast root.write session.client
  rw [← next] at reached
  refine ⟨registry, sound, reached, ?_, ?_⟩
  · simp only [putText, opened, different, if_false, asSync, result]
    rfl
  · simp only [putText, opened, different, if_false]
    rw [announcement, next, ← moment]
    exact heard

/-- A session whose model can be written writes it, and is shown the draft that comes of it
once all sessions heard of the update. -/
theorem writeBack_of_writes {workspace : Workspace φ} (orderly : workspace.Orderly)
    {session : Session} {draft : Draft}
    (opened : workspace.registry.draft? session.uri = some draft) (writes : session.Writes draft) :
    ∃ (registry : Registry φ) (put : Workspace φ),
      registry.draft? session.uri = some (session.overwrite draft) ∧
      Heard .within (announcement session (session.overwrite draft) workspace.timestamp)
        { workspace with registry } put ∧
      workspace.writeBack session =
        ((put.display session (Build.of session.uri (session.overwrite draft).text)
            (session.overwrite draft)).1,
          .ok (put.display session (Build.of session.uri (session.overwrite draft).text)
            (session.overwrite draft)).2) := by
  obtain ⟨root, shown, different, notLast⟩ := writes
  obtain ⟨registry, sound, reached, done, heard⟩ :=
    putText_heard orderly opened shown different notLast
  have put : workspace.putText session root.write =
      ((workspace.putText session root.write).1, .ok ()) := Prod.ext rfl done
  have stored : (workspace.putText session root.write).1.registry.draft? session.uri =
      some (session.overwrite draft) := by
    rw [heard.registry]
    exact reached
  have built : (workspace.putText session root.write).1.registry.build? session.uri =
      some (Build.of session.uri (session.overwrite draft).text) := by
    rw [heard.registry]
    exact build?_of_open sound reached
  refine ⟨registry, (workspace.putText session root.write).1, reached, heard, ?_⟩
  simp only [writeBack, shown]
  rw [put]
  simp only [stored, built]

/-- A workspace after a session wrote its model over its document and was shown the
draft that came of it. All sessions heard of the update before. -/
structure Overwritten (before : Workspace φ) (session : Session) (next : Draft)
    (react : Session → Reaction) (after : Workspace φ) : Prop where
  documents : ∀ uri, after.registry.draft? uri = before.replayed session uri
  sessions : after.sessions = before.sessions.map fun other =>
    if other.number = session.number then
      { other.respond (react other) with view := (session.see next before.timestamp).view }
    else other.respond (react other)
  agenda : after.agenda = { before.agenda with
    ready := before.agenda.ready ++ before.sessions.flatMap fun other => other.tasks (react other) }
  settings : after.settings = before.settings
  elsewhere : ∀ uri, session.uri ≠ uri →
    after.coordinator.hasConflict uri = before.coordinator.hasConflict uri
  unconcerned : ∀ other, other.uri ≠ session.uri → react other = .rest
  /-- Where no later version is known, the other clients are to follow. -/
  followed : before.Abreast session.uri →
    (∀ other, other.uri = session.uri → react other =
      if other.client = session.client then .rest else .sync .semanticToGraph) ∧
    after.coordinator.hasConflict session.uri = before.coordinator.hasConflict session.uri

/-- The coordinator after an announcement, where another document is concerned. -/
theorem hasConflict_announced {before after : Workspace φ} {clock : Clock}
    {update : Registry.Update} (heard : Heard clock update before after) {uri : String}
    (different : update.build.uri ≠ uri) :
    after.coordinator.hasConflict uri = before.coordinator.hasConflict uri := by
  rw [heard.coordinator]
  split
  · apply Coordinator.hasConflict_congr
    simp [judgedBy, different]
  · rfl

/-- What sessions do about an update to a version that is ahead of all that is known: the
other clients of the document follow, and no conflict is raised. -/
theorem heard_ahead {before after : Workspace φ} {update : Registry.Update}
    (heard : Heard .within update before after) (standing : update.reason ≠ .deleted)
    (ahead : ∀ version, (before.course update.build.uri).Knows version →
      version < update.revision.version)
    (claimed : update.revision.claimed = update.revision.version) :
    (∀ other, other.uri = update.build.uri → before.reaction .within update other =
      if other.client = update.client then .rest else .sync .semanticToGraph) ∧
    after.coordinator.hasConflict update.build.uri =
      before.coordinator.hasConflict update.build.uri := by
  obtain ⟨advanced, conflicts⟩ := Course.observe_of_ahead update.build.uri ahead claimed
  constructor
  · intro other same
    have concerned : concerns update other := ⟨standing, same⟩
    have accepted : (before.coordinator.observe update.build.uri update.revision).1 = .advanced :=
      advanced
    rw [reaction, if_pos concerned, accepted]
    simp only [answer, follow, true_and]
    split
    · next apart =>
      have foreign : other.client ≠ update.client := fun own => apart own.symm
      rw [if_neg foreign]
    · next own =>
      have own : other.client = update.client := (not_not.mp own).symm
      rw [if_pos own]
  · rw [heard.coordinator]
    split
    · apply Coordinator.hasConflict_congr
      simp only [judgedBy, Coordinator.course_observe, if_true]
      exact conflicts
    · rfl

/-- What sessions do about an announcement of a version that is ahead of all that is
known: the other clients of the document follow, and no conflict is raised. -/
theorem announced_ahead {before after : Workspace φ} {session : Session} {next : Draft}
    {now : UInt64} (heard : Heard .within (announcement session next now) before after)
    (ahead : ∀ version, (before.course session.uri).Knows version → version < next.version) :
    (∀ other, other.uri = session.uri →
      before.reaction .within (announcement session next now) other =
        if other.client = session.client then .rest else .sync .semanticToGraph) ∧
    after.coordinator.hasConflict session.uri = before.coordinator.hasConflict session.uri := by
  have about : (announcement session next now).build.uri = session.uri := Registry.uri_of _ _
  have followed := heard_ahead heard Registry.Reason.noConfusion (about.symm ▸ ahead) rfl
  rw [about] at followed
  exact followed

/-- A replay of a model that can be written overwrites the document. -/
theorem replay_writes {workspace : Workspace φ} (orderly : workspace.Orderly)
    (idle : workspace.Idle) {session : Session}
    (found : workspace.session? session.number = some session) {draft : Draft}
    (opened : workspace.registry.draft? session.uri = some draft)
    (writes : session.Writes draft) :
    ∃ react, workspace.Overwritten session (session.overwrite draft) react
      (workspace.runAndPublish session.number .graphToSemantic).1 := by
  obtain ⟨coordinator, started⟩ := Coordinator.start?_of_free (idle session.uri)
  obtain ⟨ending, now, alike⟩ := runAndPublish_attempt found .graphToSemantic started
  let begun : Workspace φ := { workspace with coordinator }
  have settled : begun.Orderly := orderly.congr orderly.sound rfl rfl
  have still : begun.registry.draft? session.uri = some draft := opened
  obtain ⟨registry, put, _, heard, attempted⟩ := writeBack_of_writes settled still writes
  change Alike ((begun.writeBack session).1.coordinate _) _ at alike
  rw [attempted] at alike
  have time : put.timestamp = workspace.timestamp := by
    rw [Workspace.timestamp, heard.agenda]
    rfl
  have sessions := heard.sessions
  rw [List.append_nil] at sessions
  have courses : ∀ version, (coordinator.course session.uri).Knows version →
      (workspace.course session.uri).Knows version := by
    intro version knows
    obtain ⟨accepted, _, judged⟩ := Coordinator.start?_same started session.uri
    exact knows.congr accepted judged
  have conflicts : SameConflicts put
      (workspace.runAndPublish session.number .graphToSemantic).1 := by
    intro uri
    rw [alike.coordinator]
    exact sameConflicts_finish _ _ _ _ _ uri
  have about : (announcement session (session.overwrite draft) begun.timestamp).build.uri =
      session.uri := Registry.uri_of _ _
  refine ⟨({ begun with registry } : Workspace φ).reaction .within
    (announcement session (session.overwrite draft) begun.timestamp), ?_⟩
  exact {
    documents := fun uri => draft?_runAndPublish orderly idle found uri
    sessions := by
      rw [alike.sessions]
      change List.map _ put.sessions = _
      rw [sessions, List.map_map]
      apply List.map_congr_left
      intro other member
      simp only [Function.comp, number_respond]
      rw [time]
      rfl
    agenda := by
      rw [alike.agenda]
      exact heard.agenda
    settings := by
      have same : begun.settings = workspace.settings := by
        obtain ⟨course, _, rfl⟩ := Option.map_eq_some_iff.mp started
        rfl
      exact (congrArg Coordinator.settings alike.coordinator).trans (heard.settings.trans same)
    elsewhere := by
      intro uri different
      have announced := hasConflict_announced heard (about.symm ▸ different)
      exact (conflicts uri).trans (announced.trans (sameConflicts_start started uri))
    unconcerned := by
      intro other different
      exact if_neg fun concerned => different (concerned.2.trans about)
    followed := by
      intro abreast
      obtain ⟨follow, calm⟩ := announced_ahead heard fun known knows => by
        obtain ⟨current, open', bound⟩ := abreast known (courses known knows)
        cases opened.symm.trans open'
        exact UInt64.lt_of_le_of_lt bound writes.version_lt
      exact ⟨follow, (conflicts _).trans (calm.trans (sameConflicts_start started _))⟩ }

/-- Whatever is synced, everything is left as it was, or the session is shown its document,
or it writes over it. -/
theorem runAndPublish_cases {workspace : Workspace φ} (orderly : workspace.Orderly)
    (idle : workspace.Idle) {session : Session}
    (found : workspace.session? session.number = some session) (direction : Direction) :
    workspace.With workspace.sessions (workspace.runAndPublish session.number direction).1 ∨
    ∃ draft, workspace.registry.draft? session.uri = some draft ∧
      (workspace.With (seeing workspace.sessions session draft workspace.timestamp)
          (workspace.runAndPublish session.number direction).1 ∨
        ∃ react, workspace.Overwritten session (session.overwrite draft) react
          (workspace.runAndPublish session.number direction).1) := by
  cases opened : workspace.registry.draft? session.uri with
  | none =>
    left
    cases direction with
    | semanticToGraph => exact refresh_fails idle found (.inr opened)
    | graphToSemantic =>
      refine replay_fails idle found ?_
      intro draft open'
      exact nomatch opened.symm.trans open'
  | some draft =>
    cases direction with
    | semanticToGraph =>
      cases conflict : workspace.coordinator.hasConflict session.uri with
      | true => exact .inl (refresh_fails idle found (.inl conflict))
      | false => exact .inr ⟨draft, rfl, .inl (refresh_shows orderly idle found opened conflict)⟩
    | graphToSemantic =>
      by_cases fits : session.Fits draft
      · exact .inr ⟨draft, rfl, .inl (replay_shows orderly idle found opened fits)⟩
      · by_cases writes : session.Writes draft
        · exact .inr ⟨draft, rfl, .inr (replay_writes orderly idle found opened writes)⟩
        · left
          refine replay_fails idle found ?_
          intro current open'
          cases opened.symm.trans open'
          exact ⟨fits, writes⟩

end Workspace

end Flowdesk
