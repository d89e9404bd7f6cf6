import Flowdesk.Proofs.Workspace.Convergence
import Flowdesk.Proofs.Workspace.Drawn
import Flowdesk.Proofs.Workspace.Faithful

/-!
# Bursts of edits

Edits of a document that follow each other in less than the debounce delay are drawn for a
session once, as the last of them left the document. Each edit overtakes the refresh that
the one before it had planned, and as long as a refresh is awaited no tick carries anything
over; the refresh that is carried out in the end settles all that the edits have left
pending, so that no tick finds anything to carry over after it.

This needs a session that is alone on its document, and no resolution that is ready to run:
it would carry the document over at once. And it needs edits that come in on the desk's own
clock, since nothing can be planned outside of it.
-/

namespace Flowdesk

open Data Sync Workflow

/-- What a view draws is drawn at the version that it shows. -/
theorem View.revision_of_drawing? {view : View} {drawing : Drawing}
    (drawn : view.drawing? = some drawing) : drawing.revision = view.version := by
  obtain ⟨root, _, rfl⟩ := Option.map_eq_some_iff.mp drawn
  unfold Drawing.of
  split <;> rfl

namespace Workspace

variable {φ : Type}

/-- An edit of a document: when it came in, the version that it claimed, and its text. -/
structure Edit where
  time : Nat
  claimed : UInt64
  text : String

/-- Whether a document stands as an edit left it. -/
def StandsAt (workspace : Workspace φ) (uri : String) (edit : Edit) : Prop :=
  ∃ draft, workspace.registry.draft? uri = some draft ∧ draft.version = edit.claimed ∧
    draft.text = edit.text

/-- An edit of the document of a session comes in, from another client and at a version
above that of the document. -/
inductive ComesIn [Files.Store φ] (session : Session) (before : Workspace φ) :
    Edit → Workspace φ → Prop where
  | updated (author : String) (claimed : UInt64) (text : String) (draft : Draft)
      (foreign : author ≠ session.client)
      (opened : before.registry.draft? session.uri = some draft)
      (above : draft.version < claimed) :
      ComesIn session before ⟨before.agenda.now, claimed, text⟩
        (before.act (.update .within session.uri claimed text author))

/-- What a burst of edits of the document of a session leads to from where it starts, the
last of its edits being given: each edit comes in before the debounce delay has passed
after the one before it, and nothing else is asked in between. -/
inductive Burst [Files.Store φ] (session : Session) (start : Workspace φ) :
    Edit → Workspace φ → Prop where
  | first {edit : Edit} {after : Workspace φ} (edited : ComesIn session start edit after) :
      Burst session start edit after
  | next {last edit : Edit} {before after : Workspace φ} (burst : Burst session start last before)
      (soon : before.agenda.now < last.time + start.settings.debounceDelay.toNat)
      (edited : ComesIn session before edit after) : Burst session start edit after
  | quiet {last : Edit} {before : Workspace φ} (burst : Burst session start last before)
      (move : Move φ) (quiet : before.Quietly move) : Burst session start last (before.act move)

/-- What lasts throughout a burst: the session is alone on a document without a conflict, and
has a model. -/
structure Solo (session : Session) (start workspace : Workspace φ) : Prop where
  steady : Steady session.uri workspace
  calm : workspace.coordinator.hasConflict session.uri = false
  settings : workspace.settings = start.settings
  receiving : workspace.receiving = start.receiving
  alone : ∀ other ∈ workspace.sessions, other.uri = session.uri → other.number = session.number
  modelled : ∃ current, workspace.session? session.number = some current ∧
    Continues session current ∧ current.view.root.isSome

/-- Whether the session was drawn its document once since a burst started, as it stands, and
nothing is left to be carried over. -/
structure DrawnOnce (session : Session) (start workspace : Workspace φ) : Prop where
  settled : workspace.coordinator.pendingChanges session.uri = 0
  seen : ∃ current drawing, workspace.session? session.number = some current ∧
    workspace.Current current ∧ current.view.drawing? = some drawing ∧
    workspace.drawn session.uri session.client =
      (if start.receiving then [drawing] else []) ++ start.drawn session.uri session.client

/-- How a session follows a burst: it waits for the refresh that the last edit planned and was
drawn nothing yet, or that refresh was due and was carried out. -/
inductive Follows (session : Session) (start : Workspace φ) (last : Edit)
    (workspace : Workspace φ) : Prop where
  | waiting
      (awaits : ∀ direction due, workspace.Awaits session.uri session.number direction due ↔
        direction = .semanticToGraph ∧ due = last.time + start.settings.debounceDelay.toNat)
      (undrawn : workspace.drawn session.uri session.client =
        start.drawn session.uri session.client)
  | shown
      (passed : last.time + start.settings.debounceDelay.toNat ≤ workspace.agenda.now)
      (free : ∀ direction due, ¬workspace.Awaits session.uri session.number direction due)
      (drawn : DrawnOnce session start workspace)

section Steps

variable {session : Session} {start before after : Workspace φ} {last edit : Edit}

/-- The session of whoever awaits a sync of the document is the one that is alone on it. -/
theorem Solo.number_of_awaits (solo : Solo session start before) {number due : Nat}
    {direction : Direction} (awaits : before.Awaits session.uri number direction due) :
    number = session.number := by
  obtain ⟨other, _, found, about, _⟩ := awaits
  obtain ⟨present, rfl⟩ := of_session? found
  exact solo.alone other present about

/-- What lasts throughout a burst lasts through all that leaves the session a model. -/
theorem Solo.spared (solo : Solo session start before) {touched : Nat → Prop}
    (steady : Steady session.uri after) (spared : Sparing session.uri touched before after)
    (receiving : after.receiving = before.receiving)
    (modelled : ∃ current, after.session? session.number = some current ∧
      current.view.root.isSome) : Solo session start after where
  steady := steady
  calm := spared.conflict.trans solo.calm
  settings := spared.settings.trans solo.settings
  receiving := receiving.trans solo.receiving
  alone := by
    obtain ⟨change, sessions, continues⟩ := spared.sessions
    intro other member about
    rw [sessions] at member
    obtain ⟨earlier, present, rfl⟩ := List.mem_map.mp member
    rw [← (continues earlier).number]
    exact solo.alone earlier present ((continues earlier).uri.trans about)
  modelled := by
    obtain ⟨current, found, same, _⟩ := solo.modelled
    obtain ⟨later, reached, continues⟩ := spared.later found
    obtain ⟨known, again, root⟩ := modelled
    cases reached.symm.trans again
    exact ⟨later, reached, same.trans continues, root⟩

/-- What a session does about an edit of a document by a client: it plans a refresh, unless
it is elsewhere or the client's own. -/
def followUp (uri author : String) (session : Session) : Reaction :=
  if session.uri = uri ∧ session.client ≠ author then .sync .semanticToGraph else .rest

/-- How all sessions take an edit of a document by a client, where no conflict comes of it. -/
structure Taken (uri author : String) (before after : Workspace φ) : Prop where
  sessions : after.sessions =
    before.sessions.map fun other => other.respond (followUp uri author other)
  agenda : after.agenda = { before.agenda with
    ready := before.agenda.ready ++
      before.sessions.flatMap fun other => other.tasks (followUp uri author other) }
  conflict : after.coordinator.hasConflict uri = before.coordinator.hasConflict uri

/-- No resolution is planned by those who take an edit so. -/
theorem Taken.resolves {uri author : String} (taken : Taken uri author before after)
    {number : Nat} {side : Side} (planned : after.Planned (.resolve number side)) :
    before.Planned (.resolve number side) := by
  unfold Planned at planned
  rw [taken.agenda] at planned
  rcases planned with ready | waiting
  · rcases List.mem_append.mp ready with before | added
    · exact .inl before
    · obtain ⟨other, _, listed⟩ := List.mem_flatMap.mp added
      obtain ⟨resolves, _⟩ := resolve_of_mem_tasks listed
      unfold followUp at resolves
      split at resolves <;> exact nomatch resolves
  · exact .inr waiting

/-- The next version of a document is ahead of all that is known of it, so that an edit which
claims it is taken without a conflict. -/
theorem Solo.taken [Files.Store φ] (solo : Solo session start before)
    (edited : ComesIn session before edit after) : after.StandsAt session.uri edit ∧
      ∃ author, author ≠ session.client ∧ Taken session.uri author before after := by
  obtain ⟨author, claimed, text, draft, foreign, opened, above⟩ := edited
  let update : Registry.Update := ⟨Build.of session.uri text, author, .changed,
    ⟨claimed, claimed, author, before.timestamp, checksum text⟩⟩
  obtain ⟨registry, _, reached, _, _, heard⟩ := update_revised solo.steady.orderly .within opened
    (Draft.revise_above above text author before.timestamp)
  let stored : Workspace φ := { before with registry }
  have about : update.build.uri = session.uri := Registry.uri_of _ _
  have ahead : ∀ version, (stored.course update.build.uri).Knows version → version < claimed := by
    intro version knows
    rw [about] at knows
    obtain ⟨current, stands, bound⟩ := solo.steady.abreast version knows
    cases opened.symm.trans stands
    exact UInt64.lt_of_le_of_lt bound above
  have told : Heard .within update stored
    (before.act (.update .within session.uri claimed text author)) := heard
  obtain ⟨followed, conflict⟩ := heard_ahead told Registry.Reason.noConfusion ahead rfl
  have reacts : ∀ other,
      stored.reaction .within update other = followUp session.uri author other := by
    intro other
    unfold followUp
    by_cases on : other.uri = session.uri
    · rw [followed other (on.trans about.symm)]
      by_cases own : other.client = author <;> simp [update, on, own]
    · rw [if_neg fun both => on both.1]
      exact if_neg fun concerned => on (concerned.2.trans about)
  have agenda := told.agenda
  have sessions := told.sessions
  rw [List.append_nil] at sessions
  simp only [reacts] at agenda sessions
  exact ⟨⟨_, (congrArg (Registry.draft? · session.uri) told.registry).trans reached, rfl, rfl⟩,
    author, foreign, sessions, agenda, about ▸ conflict⟩

/-- An edit that comes in makes the session await a refresh of the document and nothing else;
nothing is drawn. -/
theorem Solo.edited [Files.Store φ] (solo : Solo session start before)
    (edited : ComesIn session before edit after) :
    Solo session start after ∧ after.StandsAt session.uri edit ∧
      (∀ direction due, after.Awaits session.uri session.number direction due ↔
        direction = .semanticToGraph ∧
          due = edit.time + start.settings.debounceDelay.toNat) ∧
      after.drawn session.uri session.client = before.drawn session.uri session.client := by
  have orderly := solo.steady.orderly
  obtain ⟨stands, author, foreign, taken⟩ := solo.taken edited
  obtain ⟨writer, claimed, text, draft, _, _, _⟩ := edited
  let move : Move φ := .update .within session.uri claimed text writer
  have undrawn : Undrawn before (before.act move) := undrawn_adopt before .within _
  have settings : (before.act move).settings = before.settings := settings_after orderly [move]
  have continues : ∀ other : Session, Continues other (other.respond (followUp session.uri author
      other)) := fun other => (continues_respond other _).1
  have spared : Sparing session.uri (fun _ => True) before (before.act move) :=
    sparing_of taken.sessions continues settings taken.conflict
      (fun _ _ _ apart => absurd trivial apart) (fun _ _ _ apart => absurd trivial apart)
      fun _ _ planned => .inl (taken.resolves planned)
  obtain ⟨current, found, same, root⟩ := solo.modelled
  obtain ⟨present, _⟩ := of_session? found
  have refreshes : followUp session.uri author current = .sync .semanticToGraph :=
    if_pos ⟨same.uri.symm, fun own => foreign (own.symm.trans same.client.symm)⟩
  have reached : (before.act move).session? session.number =
      some (current.respond (.sync .semanticToGraph)) := by
    rw [session?_map taken.sessions continues, found, Option.map_some, refreshes]
  have responded := reached
  rw [same.number] at responded
  have steady := solo.steady.act_of ⟨fun _ => ⟨id, id⟩, trivial⟩ spared
  refine ⟨solo.spared steady spared undrawn.receiving ⟨_, reached, root⟩, stands, ?_,
    undrawn.drawn _ _⟩
  have awaits := awaits_iff_of_reacted orderly.numbered solo.steady.punctual taken.agenda settings
    present refreshes responded
  rw [← same.uri, ← same.number, solo.settings] at awaits
  exact awaits

/-- A document that is not touched stands as an edit left it. -/
theorem StandsAt.congr {uri : String} (stands : before.StandsAt uri last)
    (document : after.registry.draft? uri = before.registry.draft? uri) :
    after.StandsAt uri last := by
  obtain ⟨draft, opened, level⟩ := stands
  exact ⟨draft, document.trans opened, level⟩

/-- While a session follows a burst no replay is awaited, and no tick of the session has
anything to carry over: either the refresh is awaited, or no change is pending. -/
theorem Follows.rests (follows : Follows session start last before)
    (solo : Solo session start before) :
    (∀ number due, ¬before.Awaits session.uri number .graphToSemantic due) ∧
    ∀ other, before.session? other.number = some other → other.uri = session.uri →
      before.dueAtTick other = false := by
  constructor
  · intro number due awaits
    cases solo.number_of_awaits awaits
    cases follows with
    | waiting expected _ => exact nomatch ((expected _ _).mp awaits).1
    | shown _ free _ => exact free _ _ awaits
  · intro other found about
    have itself := solo.alone other (of_session? found).1 about
    cases follows with
    | waiting awaits _ =>
      have awaited := (awaits _ _).mpr ⟨rfl, rfl⟩
      rw [← itself, ← about] at awaited
      by_contra due
      have nothing := (of_dueAtTick (eq_true_of_ne_false due)).2
      exact not_awaits found nothing _ _ awaited
    | shown _ _ drawn =>
      have settled := drawn.settled
      rw [← about] at settled
      simp [dueAtTick, settled]

/-- A session keeps following a burst through what leaves it and its document as they are. -/
theorem Follows.left (follows : Follows session start last before)
    {current : Session} (found : before.session? current.number = some current)
    (same : Continues session current)
    (document : after.registry.draft? session.uri = before.registry.draft? session.uri)
    (kept : Kept before after current) (apart : Apart session.uri before after)
    (later : before.agenda.now ≤ after.agenda.now) : Follows session start last after := by
  have awaits : ∀ direction due, after.Awaits session.uri session.number direction due ↔
      before.Awaits session.uri session.number direction due := by
    rw [same.uri, same.number]
    exact kept.awaits
  cases follows with
  | waiting expected undrawn =>
    refine .waiting ?_ ((apart.drawn _).trans undrawn)
    intro direction due
    rw [awaits, expected]
  | shown passed free drawn =>
    have settled : after.coordinator.pendingChanges session.uri = 0 :=
      (congrArg (·.status.pendingChanges) apart.course).trans drawn.settled
    refine .shown (Nat.le_trans passed later)
      (fun _ _ awaited => free _ _ ((awaits _ _).mp awaited)) ⟨settled, ?_⟩
    obtain ⟨seen, drawing, known, ⟨draft, opened, shows⟩, drew, sent⟩ := drawn.seen
    rw [same.number, found] at known
    cases known
    rw [← same.uri] at opened
    refine ⟨current, drawing, same.number ▸ kept.found, ?_, drew, (apart.drawn _).trans sent⟩
    exact ⟨draft, same.uri ▸ document.trans opened, shows⟩

/-- A session that waited for the refresh of a burst was drawn the document once when the
refresh was carried out. -/
theorem Follows.redrawn (follows : Follows session start last before)
    (receiving : before.receiving = start.receiving) {current : Session}
    (found : before.session? current.number = some current) (same : Continues session current)
    (root : current.view.root.isSome) {draft : Draft}
    (due : before.Awaits session.uri session.number .semanticToGraph before.agenda.now)
    (redrawn : Redrawn current draft before after) (later : before.agenda.now ≤ after.agenda.now) :
    (∃ seen, after.session? session.number = some seen ∧ seen.view.root.isSome) ∧
      Follows session start last after := by
  cases follows with
  | shown _ free _ => exact absurd due (free _ _)
  | waiting awaits undrawn =>
    obtain ⟨seen, now, reached, view, sent⟩ := redrawn.seen
    obtain ⟨known, again, continues⟩ := redrawn.spared.later found
    cases reached.symm.trans again
    rw [← same.number] at reached
    have model : seen.view.root.isSome := by
      rw [view]
      simp [Session.see, View.update, root]
    obtain ⟨drawing, drew⟩ : ∃ drawing, seen.view.drawing? = some drawing := by
      obtain ⟨model, holds⟩ := Option.isSome_iff_exists.mp model
      exact ⟨_, congrArg (Option.map _) holds⟩
    have settled := redrawn.settled
    rw [drew, receiving, ← same.uri, ← same.client, undrawn] at sent
    rw [← same.uri] at settled
    obtain ⟨_, moment⟩ := (awaits _ _).mp due
    refine ⟨⟨seen, reached, model⟩, .shown (moment ▸ later) ?_ ⟨settled, seen, drawing, reached, ?_,
      drew, sent⟩⟩
    · rw [same.uri, same.number]
      exact redrawn.free
    · refine ⟨draft, ?_, ?_, ?_⟩
      · rw [← continues.uri]
        exact redrawn.document
      · rw [view]
        rfl
      · rw [view]
        rfl

/-- A quiet move leaves a session waiting for the refresh of a burst, or shows it the
document, since the refresh was due. -/
theorem Follows.quiet [Files.Store φ] (follows : Follows session start last before)
    (solo : Solo session start before) (stands : before.StandsAt session.uri last)
    {move : Move φ} (quiet : before.Quietly move) :
    Solo session start (before.act move) ∧ (before.act move).StandsAt session.uri last ∧
      Follows session start last (before.act move) := by
  obtain ⟨current, found, same, root⟩ := solo.modelled
  have known : before.session? current.number = some current := same.number ▸ found
  have steady := solo.steady.act quiet
  have later := now_le_act solo.steady.orderly move
  obtain ⟨unreplayed, untimely⟩ := follows.rests solo
  cases solo.steady.draws solo.calm unreplayed untimely quiet with
  | left document spared apart =>
    have kept := spared.kept current known same.uri.symm id
    exact ⟨solo.spared steady spared apart.receiving ⟨current, same.number ▸ kept.found, root⟩,
      stands.congr document, follows.left known same document kept apart later⟩
  | redrawn shown draft there about opened due redrawn =>
    have itself := solo.alone shown (of_session? there).1 about
    rw [itself] at there due
    cases found.symm.trans there
    obtain ⟨seen, drawn⟩ := follows.redrawn solo.receiving known same root due redrawn later
    have document := redrawn.document
    have spared := redrawn.spared
    rw [about] at document spared
    exact ⟨solo.spared steady spared redrawn.receiving seen,
      stands.congr (document.trans opened.symm), drawn⟩

/-- Throughout a burst the session follows it.

Proof: by induction on the burst. An edit that comes in while the refresh is awaited puts it
off, and none comes in after it was carried out: it was due then. -/
theorem Burst.follows [Files.Store φ] (burst : Burst session start last after)
    (solo : Solo session start start) :
    Solo session start after ∧ after.StandsAt session.uri last ∧
      Follows session start last after := by
  induction burst with
  | first edited =>
    obtain ⟨still, stands, awaits, undrawn⟩ := solo.edited edited
    exact ⟨still, stands, .waiting awaits undrawn⟩
  | next _ soon edited inductionHypothesis =>
    obtain ⟨sofar, _, follows⟩ := inductionHypothesis
    obtain ⟨still, stands, awaits, undrawn⟩ := sofar.edited edited
    cases follows with
    | waiting _ before => exact ⟨still, stands, .waiting awaits (undrawn.trans before)⟩
    | shown passed _ _ => exact absurd soon (Nat.not_lt.mpr passed)
  | quiet _ move quiet inductionHypothesis =>
    obtain ⟨sofar, stands, follows⟩ := inductionHypothesis
    exact follows.quiet sofar stands quiet

/-- A burst goes on through quiet moves. -/
theorem Burst.quietly [Files.Store φ] (burst : Burst session start last before)
    (moves : List (Move φ)) (quiet : Throughout Quietly before moves) :
    Burst session start last (before.after moves) := by
  induction moves generalizing before with
  | nil => exact burst
  | cons move moves inductionHypothesis =>
    exact inductionHypothesis (burst.quiet move quiet.1) quiet.2

/-- The document of a burst is open when it starts. -/
theorem Burst.opened [Files.Store φ] (burst : Burst session start last after) :
    ∃ draft, start.registry.draft? session.uri = some draft := by
  induction burst with
  | first edited =>
    obtain ⟨_, _, _, draft, _, opened, _⟩ := edited
    exact ⟨draft, opened⟩
  | next _ _ _ inductionHypothesis => exact inductionHypothesis
  | quiet _ _ _ inductionHypothesis => exact inductionHypothesis

/-- A refresh that is awaited has not been due before, and is not due now if no task is
ready. -/
theorem Awaits.not_due {workspace : Workspace φ} (punctual : workspace.Punctual) {uri : String}
    {number due : Nat} {direction : Direction}
    (awaits : workspace.Awaits uri number direction due) :
    ¬(due < workspace.agenda.now ∨ workspace.agenda.now = due ∧ workspace.agenda.ready = []) := by
  rintro (passed | ⟨reached, rests⟩)
  · exact absurd (awaits.now_le punctual) (Nat.not_le.mpr passed)
  · obtain ⟨_, _, _, _, _, planned⟩ := awaits
    cases planned with
    | begins ready | ends ready => exact absurd (rests ▸ ready) List.not_mem_nil
    | waits _ waiting => exact absurd reached (Nat.ne_of_lt (punctual.waits _ _ waiting).1)

end Steps

section Runs

variable [Files.Store φ]

/-- A session, after moves that lead to it: alone, and with a model, on a document that has
stayed registered since a revision of it was first observed, and that has no conflict. -/
structure Lone (files : φ) (settings : Settings) (moves : List (Move φ)) (session : Session) :
    Prop where
  registered : StaysRegistered session.uri (create files settings) moves
  found : ((create files settings).after moves).session? session.number = some session
  alone : ∀ other ∈ ((create files settings).after moves).sessions,
    other.uri = session.uri → other.number = session.number
  modelled : session.view.root.isSome
  calm : ((create files settings).after moves).coordinator.hasConflict session.uri = false

/-- Nothing stands in the way of a burst of edits of the document of such a session, unless a
resolution for it is ready. -/
theorem Lone.solo {files : φ} {settings : Settings} {moves : List (Move φ)} {session : Session}
    (lone : Lone files settings moves session)
    (unresolved : ∀ side, Task.resolve session.number side ∉
      ((create files settings).after moves).agenda.ready) {draft : Draft}
    (opened : ((create files settings).after moves).registry.draft? session.uri = some draft) :
    Solo session ((create files settings).after moves) ((create files settings).after moves) := by
  have orderly := orderly_create files settings
  have punctual := punctual_after orderly (punctual_create files settings) moves
  refine ⟨⟨orderly_after orderly moves, idle_after orderly (idle_create files settings) moves,
    punctual, (faithful_after files settings lone.registered).abreast,
    fun _ _ _ => ⟨draft, opened⟩, ?_⟩, lone.calm, rfl, rfl, lone.alone, session, lone.found,
    .refl session, lone.modelled⟩
  intro other known about side planned
  rw [lone.alone other (of_session? known).1 about] at planned
  exact unresolved side (punctual.ready_of_resolve planned)

/-- A burst of edits becomes one drawing. Take whatever moves lead to, with a session that is
alone on a document without a conflict and has a model, and no resolution for the session
ready. Then edits of other clients come in, each claiming a version above that of the
document, and each before the debounce delay has passed after the one before it; in between
and afterwards tasks are carried out and time goes by, ticks included.

Until the delay has passed after the last edit, no drawing is sent to the session. Once it has
passed, one has been sent, if anybody receives it: the one that the session's view shows, at
the version and with the text of the last edit. No change is left to be carried over.

Proof: the session awaits the refresh after the last edit, with no drawing sent since the
beginning, until it is shown the document. An edit begins the wait anew and overtakes the one
before, and a tick shows nothing while a wait goes on. This is kept by all that a burst is made
of, by induction on the burst. When the delay has passed the wait has ended, since nothing is left
behind that is due. -/
theorem burst_is_drawn_once (files : φ) (settings : Settings) (moves : List (Move φ))
    (session : Session) (lone : Lone files settings moves session)
    (unresolved : ∀ side, Task.resolve session.number side ∉
      ((create files settings).after moves).agenda.ready)
    {last : Edit} {workspace : Workspace φ}
    (burst : Burst session ((create files settings).after moves) last workspace) :
    let start := (create files settings).after moves
    let due := last.time + settings.debounceDelay.toNat
    (workspace.agenda.now < due →
      workspace.drawn session.uri session.client = start.drawn session.uri session.client) ∧
    (due < workspace.agenda.now ∨ workspace.agenda.now = due ∧ workspace.agenda.ready = [] →
      workspace.StandsAt session.uri last ∧
      workspace.coordinator.pendingChanges session.uri = 0 ∧
      ∃ current drawing, workspace.session? session.number = some current ∧
        current.view.version = last.claimed ∧ current.view.text = last.text ∧
        current.view.drawing? = some drawing ∧ drawing.revision = last.claimed ∧
        workspace.drawn session.uri session.client =
          (if start.receiving then [drawing] else []) ++
            start.drawn session.uri session.client) := by
  intro start due
  obtain ⟨before, present⟩ := burst.opened
  have delay : start.settings = settings := settings_after (orderly_create files settings) moves
  obtain ⟨still, stands, follows⟩ := burst.follows (lone.solo unresolved present)
  cases follows with
  | waiting awaits undrawn =>
    refine ⟨fun _ => undrawn, fun passed => ?_⟩
    have awaited := (awaits _ _).mpr ⟨rfl, rfl⟩
    rw [delay] at awaited
    exact absurd passed (awaited.not_due still.steady.punctual)
  | shown passed _ drawn =>
    rw [delay] at passed
    refine ⟨fun early => absurd passed (Nat.not_le.mpr early), fun _ => ?_⟩
    obtain ⟨current, drawing, reached, shows, drew, sent⟩ := drawn.seen
    obtain ⟨draft, opened, version, text⟩ := stands
    have on : current.uri = session.uri := by
      obtain ⟨same, known, continues, _⟩ := still.modelled
      cases reached.symm.trans known
      exact continues.uri.symm
    obtain ⟨known, again, level, told⟩ := shows
    rw [on, opened] at again
    cases again
    refine ⟨⟨draft, opened, version, text⟩, drawn.settled, current, drawing, reached,
      level.trans version, told.trans text, drew, ?_, sent⟩
    exact (View.revision_of_drawing? drew).trans (level.trans version)

end Runs

/-- A document is opened at a version and shown to a session. -/
def shown (version : UInt64) : List (Move Files.Memory) :=
  [.openFor ⟨"file:///a.wf", "t1", none, some version, some (smallFlow "first")⟩,
    .attach "file:///a.wf" "g1", .work 0]

/-- That document is edited. -/
def edit (claimed : UInt64) (name : String) : Move Files.Memory :=
  .update .within "file:///a.wf" claimed (smallFlow name) "t1"

/-- A conflict is recorded, and set aside before the resolution that it brought about runs. -/
def contested : List (Move Files.Memory) :=
  [edit 1 "second", .beginResolution "file:///a.wf" true]

/-- A session that no other is beside, on a document that is open throughout. -/
theorem lone_of_sessions {settings : Settings} {moves : List (Move Files.Memory)}
    (opened : Throughout (fun workspace move =>
      ((workspace.act move).registry.draft? "file:///a.wf").isSome)
      (create Files.Memory.empty settings) moves)
    (known :
      let workspace := (create Files.Memory.empty settings).after moves
      (workspace.coordinator.hasConflict "file:///a.wf", workspace.sessions.map fun session =>
        (session.number, session.uri, session.client, session.view.root.isSome)) =
          (false, [(0, "file:///a.wf", "g1", true)])) :
    ∃ session, Lone Files.Memory.empty settings moves session ∧
      session.uri = "file:///a.wf" ∧ session.client = "g1" := by
  have registered := staysRegistered_of_open opened
  obtain ⟨calm, listed⟩ := Prod.mk.inj known
  obtain ⟨session, sessions, values⟩ := List.map_eq_singleton_iff.mp listed
  obtain ⟨number, about, client, modelled⟩ : session.number = 0 ∧ session.uri = "file:///a.wf" ∧
      session.client = "g1" ∧ session.view.root.isSome = true := by
    simpa only [Prod.mk.injEq] using values
  refine ⟨session, ⟨about ▸ registered, ?_, ?_, modelled, about ▸ calm⟩, about, client⟩
  · simp [session?, sessions]
  · rw [sessions]
    intro other member _
    rw [List.mem_singleton.mp member]

/-- A session that shows a document is alone on it. -/
theorem lone_shown : ∃ session,
    Lone Files.Memory.empty Settings.usual (shown 0) session ∧
      session.uri = "file:///a.wf" ∧ session.client = "g1" :=
  lone_of_sessions (by decide +kernel) (by decide +kernel)

/-- A session that shows a document of which a conflict was set aside is alone on it. -/
theorem lone_contested : ∃ session,
    Lone Files.Memory.empty Settings.usual (shown 1 ++ contested) session ∧
      session.uri = "file:///a.wf" ∧ session.client = "g1" :=
  lone_of_sessions (by decide +kernel) (by decide +kernel)

/-- An edit of a document by another client than that of a session comes in. -/
theorem comesIn_edit {session : Session} (about : session.uri = "file:///a.wf")
    (client : session.client = "g1") {before : Workspace Files.Memory} {claimed : UInt64}
    {draft : Draft} (opened : before.registry.draft? "file:///a.wf" = some draft)
    (above : draft.version < claimed) (name : String) :
    ComesIn session before ⟨before.agenda.now, claimed, smallFlow name⟩
      (before.act (edit claimed name)) := by
  unfold edit
  rw [← about] at opened ⊢
  exact .updated "t1" claimed (smallFlow name) draft (by rw [client]; decide) opened above

/-- A first edit, and the time that its refresh waits. -/
theorem burst_of_edit {session : Session} (about : session.uri = "file:///a.wf")
    (client : session.client = "g1") :
    let start := (create Files.Memory.empty Settings.usual).after (shown 0)
    let revised := (start.act (edit 3 "second")).after [.work 0, .wait 200]
    Burst session start ⟨0, 3, smallFlow "second"⟩ revised := by
  have run :
      let start := (create Files.Memory.empty Settings.usual).after (shown 0)
      let planned := (start.act (edit 3 "second")).act (.work 0)
      (planned.agenda.ready, planned.agenda.waiting) =
        ([], [(500, .tick 0), (250, .endWait 0 0 .semanticToGraph)]) ∧
      (start.agenda.now, (start.registry.draft? "file:///a.wf").map (·.version)) =
        (0, some 0) := by
    decide +kernel
  dsimp only at run ⊢
  generalize (create Files.Memory.empty Settings.usual).after (shown 0) = start at run ⊢
  simp only [Prod.mk.injEq, Option.map_eq_some_iff] at run
  obtain ⟨⟨rests, waits⟩, began, draft, opened, version⟩ := run
  have above : draft.version < 3 := by
    rw [version]
    decide
  have edited := comesIn_edit about client opened above "second"
  rw [began] at edited
  exact (Burst.first edited).quietly [.work 0, .wait 200]
    ⟨trivial, quietly_wait (Prod.ext rests waits) (by decide), trivial⟩

/-- A second edit before the refresh is due, and the time that its own refresh waits. -/
theorem burst_of_two_edits {session : Session} (about : session.uri = "file:///a.wf")
    (client : session.client = "g1") :
    let start := (create Files.Memory.empty Settings.usual).after (shown 0)
    let revised := (start.act (edit 3 "second")).after [.work 0, .wait 200]
    let workspace := (revised.act (edit 5 "third")).after
      [.work 0, .wait 250, .work 0, .wait 450, .work 0]
    Burst session start ⟨200, 5, smallFlow "third"⟩ workspace := by
  have run :
      let start := (create Files.Memory.empty Settings.usual).after (shown 0)
      let revised := (start.act (edit 3 "second")).after [.work 0, .wait 200]
      let planned := (revised.act (edit 5 "third")).act (.work 0)
      let overtaken := (planned.act (.wait 250)).act (.work 0)
      (planned.agenda.ready, planned.agenda.waiting) =
        ([], [(500, .tick 0), (250, .endWait 0 0 .semanticToGraph),
          (450, .endWait 0 1 .semanticToGraph)]) ∧
      (overtaken.agenda.ready, overtaken.agenda.waiting) =
        ([], [(500, .tick 0), (450, .endWait 0 1 .semanticToGraph)]) ∧
      (revised.agenda.now, (revised.registry.draft? "file:///a.wf").map (·.version)) =
        (200, some 3) := by
    decide +kernel
  have delay : ((create Files.Memory.empty Settings.usual).after (shown 0)).settings =
    Settings.usual := settings_after (orderly_create _ _) _
  have first := burst_of_edit about client
  dsimp only at run first ⊢
  generalize (create Files.Memory.empty Settings.usual).after (shown 0) = start
    at run first delay ⊢
  generalize (start.act (edit 3 "second")).after [.work 0, .wait 200] = revised at run first ⊢
  simp only [Prod.mk.injEq, Option.map_eq_some_iff] at run
  obtain ⟨⟨rests, waits⟩, ⟨overtaken, next⟩, now, draft, opened, version⟩ := run
  have soon : revised.agenda.now < 0 + start.settings.debounceDelay.toNat := by
    rw [now, delay]
    decide
  have above : draft.version < 5 := by
    rw [version]
    decide
  have edited := comesIn_edit about client opened above "third"
  rw [now] at edited
  exact (Burst.next first soon edited).quietly [.work 0, .wait 250, .work 0, .wait 450, .work 0]
    ⟨trivial, quietly_wait (Prod.ext rests waits) (by decide), trivial,
      quietly_wait (Prod.ext overtaken next) (by decide), trivial, trivial⟩

/-- An edit that another one follows soon is not drawn for a session; the other one is. -/
theorem second_edit_is_drawn :
    let start := (create Files.Memory.empty Settings.usual).after (shown 0)
    let revised := (start.act (edit 3 "second")).after [.work 0, .wait 200]
    let workspace := (revised.act (edit 5 "third")).after
      [.work 0, .wait 250, .work 0, .wait 450, .work 0]
    ∃ session last drawing, Lone Files.Memory.empty Settings.usual (shown 0) session ∧
      Burst session start last workspace ∧ last = ⟨200, 5, smallFlow "third"⟩ ∧
      workspace.agenda.now = 450 ∧ workspace.StandsAt session.uri last ∧
      workspace.coordinator.pendingChanges session.uri = 0 ∧ drawing.revision = 5 ∧
      workspace.drawn session.uri session.client =
        drawing :: start.drawn session.uri session.client := by
  have run :
      let start := (create Files.Memory.empty Settings.usual).after (shown 0)
      let revised := (start.act (edit 3 "second")).after [.work 0, .wait 200]
      let workspace := (revised.act (edit 5 "third")).after
        [.work 0, .wait 250, .work 0, .wait 450, .work 0]
      start.agenda.ready = [] ∧ start.receiving = true ∧ workspace.agenda.now = 450 ∧
        workspace.agenda.ready = [] := by
    decide +kernel
  obtain ⟨session, lone, about, client⟩ := lone_shown
  have burst := burst_of_two_edits about client
  have drawnOnce := burst_is_drawn_once Files.Memory.empty Settings.usual (shown 0) session lone
  dsimp only at run burst drawnOnce ⊢
  generalize (create Files.Memory.empty Settings.usual).after (shown 0) = start
    at run burst drawnOnce ⊢
  obtain ⟨rests, receiving, now, done⟩ := run
  obtain ⟨_, passed⟩ := drawnOnce (fun _ ready => absurd (rests ▸ ready) List.not_mem_nil) burst
  obtain ⟨stands, settled, _, drawing, _, _, _, _, revision, sent⟩ := passed (.inr ⟨now, done⟩)
  rw [receiving] at sent
  exact ⟨session, _, drawing, lone, burst, rfl, now, stands, settled, revision, sent⟩

/-- An edit that comes in outside of the desk's own clock is not drawn when the delay has
passed; an edit that comes in when a resolution is under way is drawn before it has passed. -/
theorem edit_is_undrawn_or_drawn_early :
    (let start := (create Files.Memory.empty Settings.usual).after (shown 0)
    let revised := start.act (.update .without "file:///a.wf" 1 (smallFlow "second") "t1")
    let workspace := revised.act (.wait 251)
    ∃ session, Lone Files.Memory.empty Settings.usual (shown 0) session ∧
      session.uri = "file:///a.wf" ∧ session.client = "g1" ∧ start.agenda.now = 0 ∧
      (start.registry.draft? "file:///a.wf").map (·.version) = some 0 ∧
      (revised.registry.draft? "file:///a.wf").map (·.version) = some 1 ∧
      Settings.usual.debounceDelay.toNat < workspace.agenda.now ∧ workspace.agenda.ready = [] ∧
      (start.drawn "file:///a.wf" "g1").map (·.revision) = [0] ∧
      (workspace.drawn "file:///a.wf" "g1").map (·.revision) = [0]) ∧
    (let start := (create Files.Memory.empty Settings.usual).after (shown 1 ++ contested)
    let workspace := (start.act (edit 3 "third")).act (.work 0)
    ∃ session, Lone Files.Memory.empty Settings.usual (shown 1 ++ contested) session ∧
      session.uri = "file:///a.wf" ∧ session.client = "g1" ∧
      Burst session start ⟨0, 3, smallFlow "third"⟩ workspace ∧
      workspace.agenda.now < Settings.usual.debounceDelay.toNat ∧
      (start.drawn "file:///a.wf" "g1").map (·.revision) = [1] ∧
      (workspace.drawn "file:///a.wf" "g1").map (·.revision) = [3, 1]) := by
  constructor
  · obtain ⟨session, lone, about, client⟩ := lone_shown
    exact ⟨session, lone, about, client, by decide +kernel⟩
  · have run :
        let start := (create Files.Memory.empty Settings.usual).after (shown 1 ++ contested)
        let workspace := (start.act (edit 3 "third")).act (.work 0)
        (start.agenda.now, (start.registry.draft? "file:///a.wf").map (·.version)) =
          (0, some 2) ∧
        workspace.agenda.now < Settings.usual.debounceDelay.toNat ∧
        (start.drawn "file:///a.wf" "g1").map (·.revision) = [1] ∧
        (workspace.drawn "file:///a.wf" "g1").map (·.revision) = [3, 1] := by
      decide +kernel
    obtain ⟨session, lone, about, client⟩ := lone_contested
    dsimp only at run ⊢
    refine ⟨session, lone, about, client, ?_, run.2⟩
    generalize (create Files.Memory.empty Settings.usual).after (shown 1 ++ contested) = start
      at run ⊢
    simp only [Prod.mk.injEq, Option.map_eq_some_iff] at run
    obtain ⟨⟨began, draft, opened, version⟩, _⟩ := run
    have above : draft.version < 3 := by
      rw [version]
      decide
    have edited := comesIn_edit about client opened above "third"
    rw [began] at edited
    exact (Burst.first edited).quiet (.work 0) trivial

end Workspace

end Flowdesk
