import Flowdesk.Proofs.Workspace.Quiet

/-!
# What sessions show once edits stop

Not every session shows its document in the end. Those that await a refresh do, and all
of them do if a replay is awaited that writes: what it writes is followed by the other
clients' sessions, at the latest a delay after it. A session that missed the last update,
because nothing was planned when it was heard, is shown the document only by a tick that
finds changes to carry over; and since the changes are counted for all sessions together,
the tick of another session may have left none.
-/

namespace Flowdesk

open Data Sync Workflow

namespace Workspace

variable {φ : Type} {uri : String}

/-- Whether a session shows its document, or awaits a sync that will show it. -/
inductive Served (workspace : Workspace φ) (session : Session) : Prop where
  | current (shows : workspace.Current session)
  | refresh (due : Nat)
      (awaits : workspace.Awaits session.uri session.number .semanticToGraph due)
  | replay (due : Nat) (draft : Draft) (opened : workspace.registry.draft? session.uri = some draft)
      (awaits : workspace.Awaits session.uri session.number .graphToSemantic due)
      (fits : session.Fits draft)

/-- Whether a session awaits a replay that will write over its document. -/
structure Rewrites (workspace : Workspace φ) (session : Session) (draft : Draft) : Prop where
  found : workspace.session? session.number = some session
  opened : workspace.registry.draft? session.uri = some draft
  awaits : ∃ due, workspace.Awaits session.uri session.number .graphToSemantic due
  writes : session.Writes draft

/-- Whether a replay is awaited that will write over a document. -/
def Rewritten (workspace : Workspace φ) (uri : String) : Prop :=
  ∃ session draft, session.uri = uri ∧ workspace.Rewrites session draft

/-- Whether the session of a number on a document is served. -/
def ServedBy (workspace : Workspace φ) (uri : String) (number : Nat) : Prop :=
  ∃ session, workspace.session? number = some session ∧ session.uri = uri ∧
    workspace.Served session

/-- Whether the session of a number on a document will be shown it without the help of a
tick. -/
def Provided (workspace : Workspace φ) (uri : String) (number : Nat) : Prop :=
  workspace.Rewritten uri ∨ workspace.ServedBy uri number

section Step

variable {before after : Workspace φ} {session : Session} {touched : Nat → Prop}

/-- A document and a session that stay as they are keep how the session is served. -/
theorem served_congr
    (document : after.registry.draft? session.uri = before.registry.draft? session.uri)
    (kept : Kept before after session) : after.Served session ↔ before.Served session := by
  constructor
  · intro served
    cases served with
    | current shows =>
      obtain ⟨draft, opened, shown⟩ := shows
      exact .current ⟨draft, document ▸ opened, shown⟩
    | refresh due awaits => exact .refresh due ((kept.awaits _ due).mp awaits)
    | replay due draft opened awaits fits =>
      exact .replay due draft (document ▸ opened) ((kept.awaits _ due).mp awaits) fits
  · intro served
    cases served with
    | current shows =>
      obtain ⟨draft, opened, shown⟩ := shows
      exact .current ⟨draft, document ▸ opened, shown⟩
    | refresh due awaits => exact .refresh due ((kept.awaits _ due).mpr awaits)
    | replay due draft opened awaits fits =>
      exact .replay due draft (document ▸ opened) ((kept.awaits _ due).mpr awaits) fits

/-- No new replay is awaited where only sessions are touched that await nothing
afterwards. -/
theorem rewritten_of_spared (document : after.registry.draft? uri = before.registry.draft? uri)
    (spared : Sparing uri touched before after)
    (free : ∀ number, touched number → ∀ direction due, ¬after.Awaits uri number direction due)
    (rewritten : after.Rewritten uri) : before.Rewritten uri := by
  obtain ⟨session, draft, rfl, found, opened, ⟨due, awaits⟩, writes⟩ := rewritten
  have apart : ¬touched session.number := fun touches => free _ touches _ _ awaits
  obtain ⟨earlier, was, continues⟩ := spared.earlier found
  have kept := spared.kept earlier (continues.number ▸ was) continues.uri
    (continues.number ▸ apart)
  have same : earlier = session := by
    have again := kept.found
    rw [continues.number, found] at again
    exact (Option.some.inj again).symm
  subst same
  exact ⟨earlier, draft, rfl, was, document ▸ opened, ⟨due, (kept.awaits _ due).mp awaits⟩, writes⟩

/-- A replay that is awaited stays so where no session is touched that awaits one. -/
theorem rewritten_spared (document : after.registry.draft? uri = before.registry.draft? uri)
    (spared : Sparing uri touched before after)
    (others : ∀ session draft, session.uri = uri → before.Rewrites session draft →
      ¬touched session.number)
    (rewritten : before.Rewritten uri) : after.Rewritten uri := by
  obtain ⟨session, draft, rfl, rewrites⟩ := rewritten
  have kept := spared.kept session rewrites.found rfl (others session draft rfl rewrites)
  obtain ⟨due, awaits⟩ := rewrites.awaits
  exact ⟨session, draft, rfl, kept.found, document ▸ rewrites.opened,
    ⟨due, (kept.awaits _ due).mpr awaits⟩, rewrites.writes⟩

/-- A session that is shown the document awaits no replay that writes. -/
theorem not_rewrites_of_shown (steady : Steady uri before) {move : Move φ} {draft : Draft}
    (found : before.session? session.number = some session) (about : session.uri = uri)
    (opened : before.registry.draft? uri = some draft)
    (cause : (∃ due, before.Awaits uri session.number .semanticToGraph due) ∨
      (∃ due, before.Awaits uri session.number .graphToSemantic due) ∧ session.Fits draft ∨
      move.rescues before session.number)
    {other : Session} {current : Draft} (rewrites : before.Rewrites other current) :
    other.number ≠ session.number := by
  intro same
  have itself := rewrites.found
  rw [same, found] at itself
  cases itself
  subst about
  obtain ⟨due, awaits⟩ := rewrites.awaits
  rcases cause with ⟨_, refresh⟩ | ⟨_, root, shown, fits⟩ | rescued
  · exact nomatch refresh.agree steady.punctual awaits
  · obtain ⟨written, model, different, _⟩ := rewrites.writes
    cases opened.symm.trans rewrites.opened
    cases shown.symm.trans model
    exact different fits
  · cases move with
    | work position =>
      obtain ⟨_, known, same, due⟩ := rescued
      cases found.symm.trans same
      exact not_awaits found (of_dueAtTick due).2 _ _ awaits
    | _ => exact rescued

/-- Nor does one whose replay cannot write. -/
theorem not_rewrites_of_stuck {draft : Draft}
    (found : before.session? session.number = some session)
    (opened : before.registry.draft? uri = some draft) (stuck : ¬session.Writes draft)
    {other : Session} {current : Draft} (on : other.uri = uri)
    (rewrites : before.Rewrites other current) : other.number ≠ session.number := by
  intro same
  have itself := rewrites.found
  rw [same, found] at itself
  cases itself
  subst on
  cases opened.symm.trans rewrites.opened
  exact stuck rewrites.writes

/-- A session that is not touched is served as before. -/
theorem servedBy_spared (document : after.registry.draft? uri = before.registry.draft? uri)
    (spared : Sparing uri touched before after)
    (found : before.session? session.number = some session) (about : session.uri = uri)
    (apart : ¬touched session.number) :
    after.ServedBy uri session.number ↔ before.ServedBy uri session.number := by
  subst about
  have kept := spared.kept session found rfl apart
  unfold ServedBy
  rw [kept.found, found]
  simp only [Option.some.injEq, exists_eq_left', true_and]
  exact served_congr document kept

/-- A session that shows its document is served. -/
theorem servedBy_of_current (spared : Sparing uri touched before after)
    (found : before.session? session.number = some session) (about : session.uri = uri)
    (seen : ∃ current, after.session? session.number = some current ∧ after.Current current) :
    after.ServedBy uri session.number := by
  obtain ⟨current, reached, shows⟩ := seen
  obtain ⟨earlier, was, continues⟩ := spared.earlier reached
  cases found.symm.trans was
  exact ⟨current, reached, continues.uri.symm.trans about, .current shows⟩

/-- A session whose replay is dropped is served only if it shows its document already. -/
theorem servedBy_dropped (steady : Steady uri before) {draft : Draft}
    (found : before.session? session.number = some session) (about : session.uri = uri)
    (opened : before.registry.draft? uri = some draft)
    (cause : ∃ due, before.Awaits uri session.number .graphToSemantic due)
    (unfit : ¬session.Fits draft)
    (document : after.registry.draft? uri = before.registry.draft? uri)
    (spared : Sparing uri touched before after)
    (still : ∃ current, after.session? session.number = some current ∧
      current.view = session.view)
    (free : ∀ direction due, ¬after.Awaits uri session.number direction due) :
    after.ServedBy uri session.number ↔ before.ServedBy uri session.number := by
  obtain ⟨current, reached, view⟩ := still
  obtain ⟨earlier, was, continues⟩ := spared.earlier reached
  cases found.symm.trans was
  have on : current.uri = uri := continues.uri.symm.trans about
  have number : current.number = session.number := continues.number.symm
  constructor
  · rintro ⟨known, same, _, served⟩
    cases reached.symm.trans same
    refine ⟨session, found, about, ?_⟩
    cases served with
    | current shows =>
      obtain ⟨now, stands, shown⟩ := shows
      rw [on, document, ← about] at stands
      rw [view] at shown
      exact .current ⟨now, stands, shown⟩
    | refresh due awaits =>
      rw [on, number] at awaits
      exact absurd awaits (free _ due)
    | replay due _ _ awaits _ =>
      rw [on, number] at awaits
      exact absurd awaits (free _ due)
  · rintro ⟨known, same, _, served⟩
    cases found.symm.trans same
    refine ⟨current, reached, on, ?_⟩
    obtain ⟨due, awaited⟩ := cause
    cases served with
    | current shows =>
      obtain ⟨now, stands, shown⟩ := shows
      refine .current ⟨now, ?_, view ▸ shown⟩
      rw [on, document, ← about]
      exact stands
    | refresh _ awaits =>
      rw [about] at awaits
      exact nomatch awaits.agree steady.punctual awaited
    | replay _ now stands _ fits =>
      rw [about, opened] at stands
      cases stands
      exact absurd fits unfit

/-- Where only a session is touched that awaits no replay that writes, and awaits nothing
afterwards, replays are awaited as before. -/
theorem rewritten_iff (document : after.registry.draft? uri = before.registry.draft? uri)
    (spared : Sparing uri touched before after)
    (free : ∀ number, touched number → ∀ direction due, ¬after.Awaits uri number direction due)
    (others : ∀ session draft, session.uri = uri → before.Rewrites session draft →
      ¬touched session.number) : after.Rewritten uri ↔ before.Rewritten uri :=
  ⟨rewritten_of_spared document spared free, rewritten_spared document spared others⟩

/-- How a quiet move changes whether a session will be shown its document: only a tick
does, if no other session on the document has the same client.

Proof: by cases on what the move does to the document and the sessions on it. A session
that is neither shown the document nor replayed keeps what it awaits; and a replay that
writes makes all others await a refresh. -/
theorem provided_step (steady : Steady uri before) {move : Move φ}
    (change : Change uri move before after)
    (found : before.session? session.number = some session) (about : session.uri = uri)
    (alone : ∀ other, before.session? other.number = some other → other.uri = uri →
      other.client = session.client → other.number = session.number) :
    (after.Provided uri session.number →
      before.Provided uri session.number ∨ move.rescues before session.number) ∧
    (before.Provided uri session.number → after.Provided uri session.number) := by
  unfold Provided
  cases change with
  | left document spared =>
    rw [rewritten_iff document spared (fun _ never => never.elim) fun _ _ _ _ => id,
      servedBy_spared document spared found about id]
    exact ⟨.inl, id⟩
  | shown shown draft known on opened cause shows =>
    have rewritten : after.Rewritten uri ↔ before.Rewritten uri := by
      refine rewritten_iff shows.document shows.spared ?_ ?_
      · rintro number rfl
        exact shows.free
      · intro other current _ rewrites
        exact not_rewrites_of_shown steady known on opened cause rewrites
    rw [rewritten]
    by_cases itself : session.number = shown.number
    · rw [← itself, found] at known
      cases known
      have served := servedBy_of_current shows.spared found about shows.seen
      refine ⟨fun _ => ?_, fun _ => .inr served⟩
      subst about
      rcases cause with ⟨due, refresh⟩ | ⟨⟨due, replay⟩, fits⟩ | rescued
      · exact .inl (.inr ⟨session, found, rfl, .refresh due refresh⟩)
      · exact .inl (.inr ⟨session, found, rfl, .replay due draft opened replay fits⟩)
      · exact .inr rescued
    · rw [servedBy_spared shows.document shows.spared found about itself]
      exact ⟨.inl, id⟩
  | dropped dropped draft known on opened cause unfit stuck document spared still free =>
    have rewritten : after.Rewritten uri ↔ before.Rewritten uri := by
      refine rewritten_iff document spared ?_ ?_
      · rintro number rfl
        exact free
      · intro other current near rewrites
        exact not_rewrites_of_stuck known opened stuck near rewrites
    rw [rewritten]
    by_cases itself : session.number = dropped.number
    · rw [← itself, found] at known
      cases known
      rw [servedBy_dropped steady found about opened cause unfit document spared still free]
      exact ⟨.inl, id⟩
    · rw [servedBy_spared document spared found about itself]
      exact ⟨.inl, id⟩
  | written writer draft known on opened cause writes spared seen free followed =>
    have was : before.Rewritten uri := by
      subst on
      exact ⟨writer, draft, rfl, known, opened, cause, writes⟩
    refine ⟨fun _ => .inl (.inl was), fun _ => .inr ?_⟩
    by_cases itself : session.number = writer.number
    · rw [← itself, found] at known
      cases known
      exact servedBy_of_current spared found about seen
    · have foreign : session.client ≠ writer.client := by
        intro same
        exact itself (alone writer known on same.symm).symm
      obtain ⟨current, reached, continues⟩ := spared.later found
      have awaits := (followed session found about foreign _ _).mpr ⟨rfl, rfl⟩
      have there : current.uri = uri := continues.uri.symm.trans about
      rw [← there, continues.number] at awaits
      exact ⟨current, reached, there, .refresh _ awaits⟩

/-- Whether the replays that are awaited on a document are due by a time, and the refreshes
at most a delay after it. -/
structure DueBy (workspace : Workspace φ) (uri : String) (limit : Nat) : Prop where
  replays : ∀ number due, workspace.Awaits uri number .graphToSemantic due → due ≤ limit
  refreshes : ∀ number due, workspace.Awaits uri number .semanticToGraph due →
    due ≤ limit + workspace.settings.debounceDelay.toNat

/-- What is awaited was awaited before, or is the refresh that follows what was just
written. -/
theorem awaits_step {move : Move φ}
    (change : Change uri move before after) {number due : Nat} {direction : Direction}
    (awaits : after.Awaits uri number direction due) :
    before.Awaits uri number direction due ∨ direction = .semanticToGraph ∧
      due = before.agenda.now + before.settings.debounceDelay.toNat ∧
        ∃ writer replayed, before.Awaits uri writer .graphToSemantic replayed := by
  obtain ⟨session, _, found, about, _⟩ := id awaits
  have spare : ∀ touched, Sparing uri touched before after → ¬touched number →
      before.Awaits uri number direction due := by
    intro touched spared apart
    obtain ⟨earlier, was, continues⟩ := spared.earlier found
    obtain ⟨_, named⟩ := of_session? was
    subst named
    have on : earlier.uri = uri := continues.uri.trans about
    have kept := spared.kept earlier was on apart
    rw [← on] at awaits ⊢
    exact (kept.awaits _ _).mp awaits
  cases change with
  | left document spared => exact .inl (spare _ spared id)
  | shown shown draft known on opened cause shows =>
    refine .inl (spare _ shows.spared ?_)
    rintro rfl
    exact shows.free _ _ awaits
  | dropped dropped draft known on opened cause unfit stuck document spared still free =>
    refine .inl (spare _ spared ?_)
    rintro rfl
    exact free _ _ awaits
  | written writer draft known on opened cause writes spared seen free followed =>
    by_cases touched : ∃ other, before.session? number = some other ∧
        (number = writer.number ∨ other.client ≠ writer.client)
    · obtain ⟨other, was, rfl | foreign⟩ := touched
      · exact absurd awaits (free _ _)
      · obtain ⟨earlier, same, continues⟩ := spared.earlier found
        cases was.symm.trans same
        obtain ⟨_, named⟩ := of_session? was
        subst named
        obtain ⟨towards, moment⟩ :=
          (followed other was (continues.uri.trans about) foreign _ _).mp awaits
        obtain ⟨replayed, replays⟩ := cause
        exact .inr ⟨towards, moment, writer.number, replayed, replays⟩
    · exact .inl (spare _ spared touched)

/-- What is awaited on a document stays due in time. -/
theorem dueBy_step (steady : Steady uri before) {move : Move φ}
    (change : Change uri move before after) (settings : after.settings = before.settings)
    {limit : Nat} (dueBy : before.DueBy uri limit) : after.DueBy uri limit where
  replays := by
    intro number due awaits
    rcases awaits_step change awaits with before | ⟨towards, _⟩
    · exact dueBy.replays number due before
    · exact nomatch towards
  refreshes := by
    intro number due awaits
    rw [settings]
    rcases awaits_step change awaits with before | ⟨_, rfl, writer, replayed, replays⟩
    · exact dueBy.refreshes number due before
    · have now := replays.now_le steady.punctual
      have soon := dueBy.replays writer replayed replays
      omega

end Step

/-- Where no task is ready, all that is awaited is due in a delay. -/
theorem dueBy_of_settled {workspace : Workspace φ} (punctual : workspace.Punctual)
    (settled : workspace.agenda.ready = []) :
    workspace.DueBy uri (workspace.agenda.now + workspace.settings.debounceDelay.toNat) := by
  have soon : ∀ number due direction, workspace.Awaits uri number direction due →
      due ≤ workspace.agenda.now + workspace.settings.debounceDelay.toNat := by
    rintro number due direction ⟨session, call, _, _, _, planned⟩
    cases planned with
    | begins ready => exact absurd (settled ▸ ready) List.not_mem_nil
    | ends ready => exact Nat.le_add_right _ _
    | waits _ waiting =>
      obtain ⟨_, ⟨_, _, _, _, bound⟩ | ⟨_, tick⟩⟩ := punctual.waits _ _ waiting
      · exact bound
      · exact nomatch tick
  refine ⟨fun number due awaits => soon number due _ awaits, ?_⟩
  intro number due awaits
  exact Nat.le_trans (soon number due _ awaits) (Nat.le_add_right _ _)

/-- No patch is refused as outdated by a session that shows its document. -/
theorem not_stale_of_current {workspace : Workspace φ} {session : Session}
    (shows : workspace.Current session) (patch : Patch) (uri : String) (base version : UInt64) :
    (workspace.submitPatch session patch).2 ≠ .error (.stale uri base version) := by
  obtain ⟨draft, opened, level, _⟩ := shows
  have committed : ∀ text,
      (workspace.commit session text).2 ≠ .error (.stale uri base version) := by
    intro text
    unfold commit
    simp only [opened]
    rw [if_neg fun different => different level.symm]
    split
    · exact fun same => nomatch same
    · exact fun same => nomatch same
  unfold submitPatch
  split
  · exact fun same => nomatch same
  · exact fun same => nomatch same
  · split
    · exact fun same => nomatch same
    · split
      · exact fun same => nomatch same
      · exact committed _

section Runs

variable [Files.Store φ] {workspace : Workspace φ} {session : Session}

/-- Whether one of some moves is as described in the workspace in which it is made. -/
def Once (described : Workspace φ → Move φ → Prop) : Workspace φ → List (Move φ) → Prop
  | _, [] => False
  | workspace, move :: moves =>
      described workspace move ∨ Once described (workspace.act move) moves

/-- A session that a tick has something carried over for is served from then on. -/
theorem provided_of_rescues (steady : Steady uri workspace)
    (found : workspace.session? session.number = some session) (about : session.uri = uri)
    {move : Move φ} (rescued : move.rescues workspace session.number) :
    (workspace.act move).Provided uri session.number := by
  cases move with
  | work position =>
    obtain ⟨ready, same, known, due⟩ := rescued
    cases found.symm.trans known
    have shown := steady.tick_shows ready found about due
    exact .inr (servedBy_of_current shown.spared found about shown.seen)
  | _ => exact rescued.elim

/-- While nothing is asked of a desk, it depends on ticks alone whether a session will be
shown its document that would not be anyway. -/
theorem provided_after (steady : Steady uri workspace)
    (calm : workspace.coordinator.hasConflict uri = false) {moves : List (Move φ)}
    (quiet : Throughout Quietly workspace moves)
    (found : workspace.session? session.number = some session) (about : session.uri = uri)
    (alone : ∀ other, workspace.session? other.number = some other → other.uri = uri →
      other.client = session.client → other.number = session.number) :
    (workspace.after moves).Provided uri session.number ↔
      workspace.Provided uri session.number ∨
        Once (fun earlier move => move.rescues earlier session.number) workspace moves := by
  induction moves generalizing workspace session with
  | nil => exact (or_false _).symm.to_iff
  | cons move moves inductionHypothesis =>
    obtain ⟨first, rest⟩ := quiet
    have sparing := steady.sparing first
    obtain ⟨current, reached, continues⟩ := sparing.later found
    have on : current.uri = uri := continues.uri.symm.trans about
    have still : ∀ other, (workspace.act move).session? other.number = some other →
        other.uri = uri → other.client = current.client → other.number = current.number := by
      intro other known near same
      obtain ⟨earlier, was, continued⟩ := sparing.earlier known
      rw [← continued.number] at was ⊢
      rw [← continues.number]
      exact alone earlier was (continued.uri.trans near)
        (continued.client.trans (same.trans continues.client.symm))
    obtain ⟨forward, backward⟩ :=
      provided_step steady (steady.change calm first) found about alone
    have later := inductionHypothesis (steady.act first) (sparing.conflict.trans calm) rest
      (continues.number ▸ reached) on still
    rw [← continues.number] at later
    have step : ((workspace.act move).Provided uri session.number ↔
        workspace.Provided uri session.number ∨ move.rescues workspace session.number) := by
      refine ⟨forward, ?_⟩
      rintro (provided | rescued)
      · exact backward provided
      · exact provided_of_rescues steady found about rescued
    change ((workspace.act move).after moves).Provided uri session.number ↔ _
    rw [later, step, or_assoc]
    rfl

/-- Quiet moves leave a steady document steady, and its conflicts as they are. -/
theorem steady_after (steady : Steady uri workspace) {moves : List (Move φ)}
    (quiet : Throughout Quietly workspace moves) :
    Steady uri (workspace.after moves) ∧
      Sparing uri (fun _ => True) workspace (workspace.after moves) := by
  refine quiet.keep steady.orderly (fun later => Steady uri later ∧
    Sparing uri (fun _ => True) workspace later) ?_ ⟨steady, .refl workspace⟩
  rintro later move _ first ⟨still, sparing⟩
  exact ⟨still.act first, sparing.trans (still.sparing first)⟩

/-- Quiet moves leave what is awaited due in time. -/
theorem dueBy_after (steady : Steady uri workspace)
    (calm : workspace.coordinator.hasConflict uri = false) {moves : List (Move φ)}
    (quiet : Throughout Quietly workspace moves) {limit : Nat} (dueBy : workspace.DueBy uri limit) :
    (workspace.after moves).DueBy uri limit := by
  have kept := quiet.keep steady.orderly (fun later => Steady uri later ∧
    later.coordinator.hasConflict uri = false ∧ later.DueBy uri limit) ?_ ⟨steady, calm, dueBy⟩
  · exact kept.2.2
  · rintro later move _ first ⟨still, free, due⟩
    have sparing := still.sparing first
    exact ⟨still.act first, sparing.conflict.trans free,
      dueBy_step still (still.change free first) sparing.settings due⟩

/-- Where no task is ready, a document of which nobody left is steady. -/
theorem steady_of_settled (files : φ) (settings : Settings) {moves : List (Move φ)}
    (stay : NobodyLeaves uri (create files settings) moves)
    (settled : ((create files settings).after moves).agenda.ready = []) :
    Steady uri ((create files settings).after moves) := by
  have orderly := orderly_create files settings
  have punctual := punctual_after orderly (punctual_create files settings) moves
  refine ⟨orderly_after orderly moves, idle_after orderly (idle_create files settings) moves,
    punctual, abreast_after orderly (abreast_create files settings uri) stay,
    housed_after orderly (fun _ absent => nomatch absent) stay, ?_⟩
  intro session found about side planned
  exact absurd (settled ▸ punctual.ready_of_resolve planned) List.not_mem_nil

/-- Once edits stop, a session shows its document exactly if a replay was awaited that
writes, or the session showed the document already or awaited what shows it, or a tick
finds something to carry over for it. Anything may have happened before, as long as
nobody left the document; then nothing is asked for longer than the debounce delay, and
there is no conflict on the document.

After one delay all replays have come, and the session shows the document or awaits the
refresh that follows the last of them; after another delay nothing is awaited. A session
that shows its document refuses no patch as outdated.

Proof: quiet moves keep whether a session is provided for, but for ticks, and what is
awaited is due in time. When time has gone beyond that, being provided for is showing the
document. -/
theorem sessions_converge_iff (files : φ) (settings : Settings) (moves later : List (Move φ))
    (session : Session) (stay : NobodyLeaves session.uri (create files settings) moves)
    (settled : ((create files settings).after moves).agenda.ready = [])
    (found : ((create files settings).after moves).session? session.number = some session)
    (alone : ∀ other ∈ ((create files settings).after moves).sessions,
      other.uri = session.uri → other.client = session.client → other.number = session.number)
    (quiet : Throughout Quietly ((create files settings).after moves) later)
    (long : ((create files settings).after moves).agenda.now + settings.debounceDelay.toNat <
      (((create files settings).after moves).after later).agenda.now)
    (calm : (((create files settings).after moves).after later).coordinator.hasConflict
      session.uri = false) :
    let workspace := (create files settings).after moves
    let still := workspace.after later
    ∃ current, still.session? session.number = some current ∧ Continues session current ∧
      (still.Current current ∨
          (∃ due, still.Awaits session.uri session.number .semanticToGraph due) ↔
        workspace.Rewritten session.uri ∨ workspace.Served session ∨
          Once (fun earlier move => move.rescues earlier session.number) workspace later) ∧
      (workspace.agenda.now + 2 * settings.debounceDelay.toNat < still.agenda.now →
        ∀ direction due, ¬still.Awaits session.uri session.number direction due) ∧
      (still.Current current → ∀ patch uri base version,
        (still.submitPatch current patch).2 ≠ .error (.stale uri base version)) := by
  intro workspace still
  have steady : Steady session.uri workspace := steady_of_settled files settings stay settled
  obtain ⟨after, sparing⟩ := steady_after steady quiet
  have free : workspace.coordinator.hasConflict session.uri = false :=
    sparing.conflict.symm.trans calm
  have before : workspace.settings = settings :=
    settings_after (orderly_create files settings) moves
  have dueBy := dueBy_after steady free quiet (dueBy_of_settled steady.punctual settled)
  rw [before] at dueBy
  obtain ⟨current, reached, continues⟩ := sparing.later found
  have ended : ∀ number due, ¬still.Awaits session.uri number .graphToSemantic due := by
    intro number due awaits
    have now := awaits.now_le after.punctual
    exact absurd long (Nat.not_lt.mpr (Nat.le_trans now (dueBy.replays number due awaits)))
  have provided := provided_after steady free quiet found rfl fun other known =>
    alone other (of_session? known).1
  refine ⟨current, reached, continues, ?_, ?_, fun shows => not_stale_of_current shows⟩
  · have served : workspace.ServedBy session.uri session.number ↔ workspace.Served session := by
      unfold ServedBy
      rw [found]
      simp
    rw [← or_assoc, ← served]
    refine Iff.trans ⟨?_, ?_⟩ provided
    · rintro (shows | ⟨due, awaits⟩)
      · exact .inr ⟨current, reached, continues.uri.symm, .current shows⟩
      · rw [continues.uri, continues.number] at awaits
        exact .inr ⟨current, reached, continues.uri.symm, .refresh due awaits⟩
    · rintro (⟨writer, draft, about, rewrites⟩ | ⟨known, same, _, served⟩)
      · obtain ⟨due, awaits⟩ := rewrites.awaits
        rw [about] at awaits
        exact absurd awaits (ended _ due)
      · cases reached.symm.trans same
        cases served with
        | current shows => exact .inl shows
        | refresh due awaits =>
          rw [← continues.uri, ← continues.number] at awaits
          exact .inr ⟨due, awaits⟩
        | replay due draft opened awaits fits =>
          rw [← continues.uri] at awaits
          exact absurd awaits (ended _ due)
  · intro longer direction due awaits
    have now := awaits.now_le after.punctual
    cases direction with
    | graphToSemantic => exact ended _ due awaits
    | semanticToGraph =>
      have soon := dueBy.refreshes _ due awaits
      rw [sparing.settings, before] at soon
      have reached : still.agenda.now ≤ workspace.agenda.now + settings.debounceDelay.toNat +
        settings.debounceDelay.toNat := Nat.le_trans now soon
      omega

end Runs

/-- A document that a session shows is updated with a text, claimed to be made from a
version. -/
def updated (claimed : UInt64) (text : String) : List (Move Files.Memory) :=
  [.openFor ⟨"file:///a.wf", "t1", none, some 0, some (smallFlow "first")⟩,
    .attach "file:///a.wf" "g1", .work 0, .update .within "file:///a.wf" claimed text "t1"]

/-- Ticks come and go. -/
def ticking : List (Move Files.Memory) := [.wait 500, .work 0, .wait 1000]

theorem nobodyLeaves_updated (workspace : Workspace Files.Memory) (claimed : UInt64)
    (text : String) : NobodyLeaves "file:///a.wf" workspace (updated claimed text) :=
  ⟨fun _ => ⟨id, id⟩, fun _ => ⟨id, id⟩, work_keeps _ 0 _, fun _ => ⟨id, id⟩, trivial⟩

/-- Time goes by quietly where only a tick waits. -/
theorem quietly_wait {workspace : Workspace Files.Memory} {time : Nat} {tasks : List (Nat × Task)}
    (rests : (workspace.agenda.ready, workspace.agenda.waiting) = ([], tasks))
    (next : ∀ waiting ∈ tasks, time ≤ waiting.1) : workspace.Quietly (.wait time) := by
  obtain ⟨ready, waiting⟩ := Prod.mk.inj rests
  refine ⟨ready, ?_⟩
  intro due task waits
  exact next (due, task) (waiting ▸ waits)

theorem quietly_ticking {workspace : Workspace Files.Memory}
    (first : (workspace.agenda.ready, workspace.agenda.waiting) = ([], [(500, .tick 0)]))
    (second : ((workspace.after [.wait 500, .work 0]).agenda.ready,
      (workspace.after [.wait 500, .work 0]).agenda.waiting) = ([], [(1000, .tick 0)])) :
    Throughout Quietly workspace ticking :=
  ⟨quietly_wait first (by decide), trivial, quietly_wait second (by decide), trivial⟩

/-- What stands in the way of a patch. -/
def refusal (workspace : Workspace Files.Memory) (session : Session) (patch : Patch) :
    Option Sync.Failure :=
  match (workspace.submitPatch session patch).2 with
  | .error failure => some failure
  | .ok _ => none

theorem of_refusal {workspace : Workspace Files.Memory} {session : Session} {patch : Patch}
    {failure : Sync.Failure} (refused : workspace.refusal session patch = some failure) :
    (workspace.submitPatch session patch).2 = .error failure := by
  unfold refusal at refused
  split at refused
  · next result =>
    cases refused
    exact result
  · exact nomatch refused

/-- An update with the same text leaves a session behind for good: nothing is planned, and no
tick finds anything to carry over. Its patches are refused as outdated. -/
theorem unchanged_text_leaves_session_behind :
    let start := create Files.Memory.empty Settings.usual
    let workspace := start.after (updated 0 (smallFlow "first"))
    let still := workspace.after ticking
    start.settings.autoSyncEnabled = true ∧
    NobodyLeaves "file:///a.wf" start (updated 0 (smallFlow "first")) ∧
    workspace.agenda.ready = [] ∧ Throughout Quietly workspace ticking ∧
    workspace.agenda.now + Settings.usual.debounceDelay.toNat +
      Settings.usual.autoSyncInterval.toNat < still.agenda.now ∧
    still.coordinator.hasConflict "file:///a.wf" = false ∧
    ∃ session flow edited, still.session? 0 = some session ∧ session.uri = "file:///a.wf" ∧
      ¬still.Current session ∧ session.view.flow = some flow ∧
      (Patch.rename "s" "t").apply flow = .ok edited ∧
      (still.submitPatch session (.rename "s" "t")).2 = .error (.stale "file:///a.wf" 0 1) := by
  have times :
      let workspace := (create Files.Memory.empty Settings.usual).after
        (updated 0 (smallFlow "first"))
      let ticked := workspace.after [.wait 500, .work 0]
      ((workspace.agenda.ready, workspace.agenda.waiting),
        (ticked.agenda.ready, ticked.agenda.waiting), workspace.agenda.now,
        (workspace.after ticking).agenda.now) =
      (([], [(500, .tick 0)]), ([], [(1000, .tick 0)]), 0, 1000) := by
    decide +kernel
  have shows :
      let still := ((create Files.Memory.empty Settings.usual).after
        (updated 0 (smallFlow "first"))).after ticking
      (still.coordinator.hasConflict "file:///a.wf",
        (still.registry.draft? "file:///a.wf").map (·.version)) = (false, some 1) ∧
      ((still.session? 0).map fun session => (session.uri, session.view.version,
        session.view.flow.map fun flow => ((Patch.rename "s" "t").apply flow).isOk,
        still.refusal session (.rename "s" "t"))) =
          some ("file:///a.wf", 0, some true, some (.stale "file:///a.wf" 0 1)) := by
    decide +kernel
  dsimp only at times shows ⊢
  generalize (create Files.Memory.empty Settings.usual).after (updated 0 (smallFlow "first")) =
    workspace at times shows ⊢
  simp only [Prod.mk.injEq, Option.map_eq_some_iff] at times shows
  obtain ⟨⟨rests, waits⟩, ⟨ticked, next⟩, began, ended⟩ := times
  obtain ⟨⟨calm, draft, opened, moved⟩, session, found, about, shown, ⟨flow, model, applies⟩,
    refused⟩ := shows
  have quiet := quietly_ticking (Prod.ext rests waits) (Prod.ext ticked next)
  have behind : ¬(workspace.after ticking).Current session := by
    rintro ⟨current, stands, level, _⟩
    rw [about, opened] at stands
    cases stands
    rw [shown, moved] at level
    exact absurd level (by decide)
  obtain ⟨edited, applied⟩ : ∃ edited, (Patch.rename "s" "t").apply flow = .ok edited := by
    cases result : (Patch.rename "s" "t").apply flow with
    | ok edited => exact ⟨edited, rfl⟩
    | error failure =>
      rw [result] at applies
      exact nomatch applies
  refine ⟨rfl, nobodyLeaves_updated _ _ _, rests, quiet, ?_, calm, session, flow, edited, found,
    about, behind, model, applied, of_refusal refused⟩
  rw [began, ended]
  decide

/-- An update with another text is shown to a session that awaits its refresh. -/
theorem advanced_text_reaches_session :
    let workspace := (create Files.Memory.empty Settings.usual).after
      (updated 1 (smallFlow "second") ++ [Move.work 0])
    let still := workspace.after (.wait 250 :: .work 0 :: ticking)
    ∃ session, still.session? 0 = some session ∧ session.uri = "file:///a.wf" ∧
      still.Current session := by
  have converge := sessions_converge_iff Files.Memory.empty Settings.usual
    (updated 1 (smallFlow "second") ++ [Move.work 0]) (.wait 250 :: .work 0 :: ticking)
  have stay : NobodyLeaves "file:///a.wf" (create Files.Memory.empty Settings.usual)
      (updated 1 (smallFlow "second") ++ [Move.work 0]) :=
    (throughout_append _ _ _ _).mpr ⟨nobodyLeaves_updated _ _ _, work_keeps _ 0 _, trivial⟩
  have times :
      let workspace := (create Files.Memory.empty Settings.usual).after
        (updated 1 (smallFlow "second") ++ [Move.work 0])
      let shown := workspace.after [.wait 250, .work 0]
      let ticked := shown.after [.wait 500, .work 0]
      ((workspace.agenda.ready, workspace.agenda.waiting),
        (shown.agenda.ready, shown.agenda.waiting),
        (ticked.agenda.ready, ticked.agenda.waiting)) =
      (([], [(500, .tick 0), (250, .endWait 0 0 .semanticToGraph)]), ([], [(500, .tick 0)]),
        ([], [(1000, .tick 0)])) := by
    decide +kernel
  have awaits :
      let workspace := (create Files.Memory.empty Settings.usual).after
        (updated 1 (smallFlow "second") ++ [Move.work 0])
      let still := workspace.after (.wait 250 :: .work 0 :: ticking)
      (workspace.agenda.now, still.agenda.now, still.coordinator.hasConflict "file:///a.wf") =
        (0, 1000, false) ∧
      workspace.sessions.map (·.number) = [0] ∧
      ((workspace.session? 0).map fun session => (session.uri,
        session.debouncer.latest.get? session.uri)) = some ("file:///a.wf", some 0) := by
    decide +kernel
  dsimp only at times awaits converge ⊢
  generalize (create Files.Memory.empty Settings.usual).after
    (updated 1 (smallFlow "second") ++ [Move.work 0]) = workspace at times awaits converge ⊢
  simp only [Prod.mk.injEq, Option.map_eq_some_iff] at times awaits
  obtain ⟨⟨rests, waits⟩, ⟨shown, ticks⟩, ticked, next⟩ := times
  obtain ⟨⟨began, ended, calm⟩, numbers, session, known, about, latest⟩ := awaits
  obtain ⟨_, number⟩ := of_session? known
  have found : workspace.session? session.number = some session := number ▸ known
  have served : workspace.Served session := by
    refine .refresh 250 ⟨session, 0, found, rfl, latest, .waits 250 ?_⟩
    rw [waits, number]
    decide
  have quiet : Throughout Quietly workspace
      (.wait 250 :: .work 0 :: ticking) :=
    ⟨quietly_wait (Prod.ext rests waits) (by decide), trivial,
      quietly_wait (Prod.ext shown ticks) (by decide), trivial,
      quietly_wait (Prod.ext ticked next) (by decide), trivial⟩
  have alone : ∀ other ∈ workspace.sessions, other.uri = session.uri →
      other.client = session.client → other.number = session.number := by
    intro other member _ _
    have listed : other.number ∈ workspace.sessions.map (·.number) := List.mem_map_of_mem member
    rw [numbers] at listed
    rw [List.mem_singleton.mp listed, number]
  have long : workspace.agenda.now + 2 * Settings.usual.debounceDelay.toNat <
      (workspace.after (.wait 250 :: .work 0 :: ticking)).agenda.now := by
    rw [began, ended]
    decide
  have once : workspace.agenda.now + Settings.usual.debounceDelay.toNat <
      (workspace.after (.wait 250 :: .work 0 :: ticking)).agenda.now := by
    rw [began, ended]
    decide
  obtain ⟨current, reached, continues, shows, nothing, _⟩ := converge session (about ▸ stay) rests
    found alone quiet once (about ▸ calm)
  rw [number] at reached
  refine ⟨current, reached, continues.uri.symm.trans about, ?_⟩
  rcases shows.mpr (.inr (.inl served)) with stands | ⟨due, awaits⟩
  · exact stands
  · exact absurd awaits (nothing long _ due)

end Workspace

end Flowdesk
