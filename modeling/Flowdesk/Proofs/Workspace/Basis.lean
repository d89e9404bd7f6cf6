import Flowdesk.Proofs.Workspace.Replay
import Mathlib.Data.List.Induction

/-!
# What replays are based on

The basis of a session is the version of the text that its model was built from. It may
be older than its document, and older than the revision that was accepted last, since
neither is asked before a replay writes the model. It is no older than the accepted
revision exactly when the session was up to date at some time since that one was
accepted; otherwise the replay takes an accepted revision back.
-/

namespace Flowdesk

open Data Sync Workflow

namespace View

/-- Whether a view shows a text that can be read. -/
def Readable (view : View) (uri : String) : Prop :=
  view.revision.isSome ∧ (Build.of uri view.text).root.isSome

instance (view : View) (uri : String) : Decidable (view.Readable uri) :=
  inferInstanceAs (Decidable (_ ∧ _))

/-- The version of the text that the model of a view was built from, given the one that
the model before it was built from. -/
def basis (view : View) (uri : String) (earlier : UInt64) : UInt64 :=
  if view.Readable uri then view.version else earlier

/-- Whether a version is the basis of a view: the version that is shown if its text can
be read, and an earlier one otherwise. -/
structure Based (view : View) (uri : String) (basis : UInt64) : Prop where
  behind : basis ≤ view.version
  level : view.Readable uri → basis = view.version
  lag : view.root.isSome → ¬view.Readable uri → basis < view.version

theorem based_initial (uri : String) : View.initial.Based uri 0 where
  behind := UInt64.le_refl _
  level readable := nomatch readable.1
  lag rooted := nomatch rooted

/-- A view that is left as it is keeps its basis. -/
theorem Based.same {view : View} {uri : String} {basis : UInt64} (based : view.Based uri basis) :
    view.basis uri basis = basis := by
  unfold View.basis
  split
  · next readable => exact (based.level readable).symm
  · rfl

/-- A view that is shown a text which cannot be read keeps its model. -/
theorem root_of_not_readable {view : View} {uri : String} {draft : Draft} {now : UInt64}
    (unreadable : ¬(view.update (Build.of uri draft.text) (draft.current now) draft.text).Readable
      uri) :
    (view.update (Build.of uri draft.text) (draft.current now) draft.text).root = view.root := by
  apply root_update_of_none
  by_contra built
  exact unreadable ⟨rfl, Option.isSome_iff_ne_none.mpr built⟩

/-- A view that is shown a later state of its document gets no older basis. -/
theorem Based.shown {view : View} {uri : String} {basis : UInt64} (based : view.Based uri basis)
    {next : Draft} (follows : view = .initial ∨
      ∃ draft, draft.Later next ∧ view.Follows uri draft) (now : UInt64) :
    let shown := view.update (Build.of uri next.text) (next.current now) next.text
    shown.Based uri (shown.basis uri basis) ∧ basis ≤ shown.basis uri basis := by
  intro shown
  have grown : view.version ≤ next.version := by
    obtain rfl | ⟨draft, later, follows⟩ := follows
    · exact UInt64.zero_le
    · exact UInt64.le_trans follows.behind later.version
  have behind : basis ≤ shown.version := UInt64.le_trans based.behind grown
  unfold View.basis
  split
  · next readable =>
    exact ⟨⟨UInt64.le_refl _, fun _ => rfl, fun _ unreadable => absurd readable unreadable⟩, behind⟩
  · next unreadable =>
    refine ⟨⟨behind, fun readable => absurd readable unreadable, ?_⟩, UInt64.le_refl _⟩
    intro rooted _
    rw [root_of_not_readable unreadable] at rooted
    by_cases readable : view.Readable uri
    · -- At the same version the text would be the same, and could be read as before.
      rw [based.level readable]
      refine UInt64.lt_of_le_of_ne grown ?_
      intro same
      obtain rfl | ⟨draft, later, follows⟩ := follows
      · exact nomatch rooted
      · have standing : next.version = draft.version :=
          UInt64.le_antisymm (UInt64.le_trans (UInt64.le_of_eq same.symm) follows.behind)
            later.version
        have text : view.text = next.text :=
          (follows.level readable.1 (same.trans standing)).trans (later.same standing).1.symm
        refine unreadable ⟨rfl, ?_⟩
        change (Build.of uri next.text).root.isSome
        rw [← text]
        exact readable.2
    · exact UInt64.lt_of_lt_of_le (based.lag rooted readable) grown

end View

namespace Workspace

variable {φ : Type}

/-- The basis of the session of a number, given the one it had before. -/
def basisOf (workspace : Workspace φ) (number : Nat) (earlier : UInt64) : UInt64 :=
  match workspace.session? number with
  | some session => session.view.basis session.uri earlier
  | none => earlier

/-- Whether the session of a number shows its document as it stands, with a text that can
be read. -/
structure UpToDate (workspace : Workspace φ) (number : Nat) (session : Session) (draft : Draft) :
    Prop where
  found : workspace.session? number = some session
  opened : workspace.registry.draft? session.uri = some draft
  readable : session.view.Readable session.uri
  version : session.view.version = draft.version
  text : session.view.text = draft.text

/-- What the session of a number on a document shows. A session that is yet to come shows
nothing. -/
inductive Showing (workspace : Workspace φ) (number : Nat) (uri : String) : View → Prop where
  | yet (fresh : workspace.nextSession ≤ number) : Showing workspace number uri .initial
  | shown (session : Session) (found : workspace.session? number = some session)
      (about : session.uri = uri) : Showing workspace number uri session.view

/-- There is no session of a number that is yet to come. -/
theorem session?_of_fresh {workspace : Workspace φ} (numbered : workspace.Numbered) {number : Nat}
    (fresh : workspace.nextSession ≤ number) : workspace.session? number = none := by
  by_contra there
  obtain ⟨session, found⟩ := Option.ne_none_iff_exists'.mp there
  obtain ⟨present, rfl⟩ := of_session? found
  exact absurd (numbered.below session present) (Nat.not_lt.mpr fresh)

theorem Showing.basisOf {workspace : Workspace φ} {number : Nat} {uri : String} {view : View}
    (showing : workspace.Showing number uri view) (numbered : workspace.Numbered)
    (earlier : UInt64) : workspace.basisOf number earlier = view.basis uri earlier := by
  unfold Workspace.basisOf
  cases showing with
  | yet fresh =>
    rw [session?_of_fresh numbered fresh]
    exact (if_neg fun readable : View.initial.Readable uri => nomatch readable.1).symm
  | shown session found about =>
    subst about
    rw [found]

/-- Whoever is found under the number shows the view. -/
theorem Showing.view_eq {workspace : Workspace φ} {number : Nat} {uri : String} {view : View}
    (showing : workspace.Showing number uri view) (numbered : workspace.Numbered)
    {session : Session} (found : workspace.session? number = some session) :
    session.view = view := by
  cases showing with
  | yet fresh => exact nomatch (session?_of_fresh numbered fresh).symm.trans found
  | shown other known _ =>
    cases known.symm.trans found
    rfl

/-- A session with a readable view that is level with its document is up to date. -/
theorem Showing.upToDate {workspace : Workspace φ} {number : Nat} {uri : String} {view : View}
    (showing : workspace.Showing number uri view) (readable : view.Readable uri) {draft : Draft}
    (opened : workspace.registry.draft? uri = some draft) (version : view.version = draft.version)
    (text : view.text = draft.text) :
    ∃ session current, workspace.UpToDate number session current ∧ session.uri = uri := by
  cases showing with
  | yet _ => exact nomatch readable.1
  | shown session found about =>
    subst about
    exact ⟨session, draft, ⟨found, opened, readable, version, text⟩, rfl⟩

/-- Whatever happens, a session shows what it showed before or its document as it is. -/
theorem Happens.showing {may : Licence → Prop} {before after : Workspace φ}
    (happens : Happens may before after) (orderly : before.Orderly) {number : Nat} {uri : String}
    {view : View} (showing : after.Showing number uri view) :
    ∃ earlier, before.Showing number uri earlier ∧
      (view = earlier ∨ after.Refreshed uri earlier view) := by
  cases showing with
  | yet fresh =>
    exact ⟨.initial, .yet (Nat.le_trans (happens.nextSession_le orderly) fresh), .inl rfl⟩
  | shown session found about =>
    obtain ⟨present, rfl⟩ := of_session? found
    subst about
    cases happens.sessions orderly present with
    | continued earlier was continues view =>
      refine ⟨earlier.view, .shown earlier ?_ continues.uri, view⟩
      rw [← continues.number]
      exact orderly.numbered.session?_eq was
    | begun fresh view => exact ⟨.initial, .yet fresh, view⟩

section Runs

variable [Files.Store φ]

/-- The basis of the session of a number after moves. -/
def basisAfter (number : Nat) : Workspace φ → UInt64 → List (Move φ) → UInt64
  | _, basis, [] => basis
  | workspace, basis, move :: moves =>
      basisAfter number (workspace.act move) ((workspace.act move).basisOf number basis) moves

theorem basisAfter_snoc (number : Nat) (workspace : Workspace φ) (basis : UInt64)
    (moves : List (Move φ)) (move : Move φ) :
    basisAfter number workspace basis (moves ++ [move]) =
      (workspace.after (moves ++ [move])).basisOf number
        (basisAfter number workspace basis moves) := by
  induction moves generalizing workspace basis with
  | nil => rfl
  | cons first moves inductionHypothesis => exact inductionHypothesis _ _

/-- Whether something held at some time during moves. -/
def Sometime (start : Workspace φ) (moves : List (Move φ)) (held : Workspace φ → Prop) : Prop :=
  ∃ earlier later, moves = earlier ++ later ∧ held (start.after earlier)

theorem sometime_nil (start : Workspace φ) (held : Workspace φ → Prop) :
    Sometime start [] held ↔ held start := by
  constructor
  · rintro ⟨earlier, later, whole, holds⟩
    obtain ⟨rfl, rfl⟩ := List.append_eq_nil_iff.mp whole.symm
    exact holds
  · intro holds
    exact ⟨[], [], rfl, holds⟩

/-- What held at some time held before the last move or holds after it. -/
theorem sometime_snoc (start : Workspace φ) (moves : List (Move φ)) (move : Move φ)
    (held : Workspace φ → Prop) :
    Sometime start (moves ++ [move]) held ↔
      Sometime start moves held ∨ held (start.after (moves ++ [move])) := by
  constructor
  · rintro ⟨earlier, later, whole, holds⟩
    rcases List.eq_nil_or_concat later with rfl | ⟨between, last, rfl⟩
    · rw [List.append_nil] at whole
      exact .inr (whole ▸ holds)
    · rw [List.concat_eq_append, ← List.append_assoc] at whole
      obtain ⟨rfl, _⟩ := List.append_inj' whole rfl
      exact .inl ⟨earlier, between, rfl, holds⟩
  · rintro (⟨earlier, later, rfl, holds⟩ | holds)
    · exact ⟨earlier, later ++ [move], List.append_assoc _ _ _, holds⟩
    · exact ⟨moves ++ [move], [], (List.append_nil _).symm, holds⟩

/-- What is known after moves of a view of a document by the session of a number, which
is based on a version. -/
structure Traced (start : Workspace φ) (moves : List (Move φ)) (number : Nat) (uri : String)
    (view : View) (basis : UInt64) : Prop where
  based : view.Based uri basis
  follows : view = .initial ∨
    ∃ draft, (start.after moves).registry.draft? uri = some draft ∧ view.Follows uri draft
  source : ∀ root, view.root = some root → Sometime start moves fun workspace =>
    ∃ draft, workspace.registry.draft? uri = some draft ∧ draft.version = basis ∧
      Document.parse draft.text = .ok root
  /-- The session was never up to date with a later version. -/
  highest : ∀ version, (Sometime start moves fun workspace => ∃ session draft,
    workspace.UpToDate number session draft ∧ session.uri = uri ∧ draft.version = version) →
      version ≤ basis
  informed : view.root.isSome → ∀ accepted, (start.after moves).accepted uri = some accepted →
    accepted.version ≤ basis → Sometime start moves fun workspace =>
      (∃ session draft, workspace.UpToDate number session draft ∧ session.uri = uri) ∧
        workspace.accepted uri = some accepted

/-- A session that is yet to come when nothing has happened is based on nothing. -/
theorem traced_create (files : φ) (settings : Settings) {number : Nat} {uri : String} {view : View}
    (showing : (create files settings).Showing number uri view) :
    Traced (create files settings) [] number uri view 0 := by
  cases showing with
  | shown session found _ => exact nomatch found
  | yet fresh =>
    refine ⟨View.based_initial uri, .inl rfl, nofun, ?_, nofun⟩
    intro version sometime
    obtain ⟨session, draft, upToDate, _⟩ := (sometime_nil _ _).mp sometime
    exact nomatch upToDate.found

/-- A document that was open stays open while nobody leaves it, and becomes no earlier. -/
theorem later_of_stay {start : Workspace φ} (orderly : start.Orderly) {uri : String} {move : Move φ}
    (stay : ∀ client, ¬move.uses start (.hold uri client)) {draft : Draft}
    (found : start.registry.draft? uri = some draft) :
    ∃ next, (start.act move).registry.draft? uri = some next ∧ draft.Later next := by
  obtain ⟨client, member⟩ := Registry.exists_mem (orderly.sound.held uri draft found)
  obtain ⟨next, now, _, later⟩ :=
    (act_happens orderly move).holds orderly (stay client) found member
  exact ⟨next, now, later⟩

section Step

variable {files : φ} {settings : Settings} {moves : List (Move φ)} {move : Move φ} {number : Nat}
  {uri : String} {earlier view : View} {basis : UInt64}

/-- With a move a view keeps its basis or gets a later one, and follows its document. -/
theorem Traced.based_snoc
    (traced : Traced (create files settings) moves number uri earlier basis)
    (stay : ∀ client, ¬move.uses ((create files settings).after moves) (.hold uri client))
    (origin : view = earlier ∨
      ((create files settings).after (moves ++ [move])).Refreshed uri earlier view) :
    view.Based uri (view.basis uri basis) ∧ basis ≤ view.basis uri basis ∧
      (view = .initial ∨ ∃ draft,
        ((create files settings).after (moves ++ [move])).registry.draft? uri = some draft ∧
          view.Follows uri draft) := by
  have orderly := orderly_after (orderly_create files settings) moves
  have later : earlier = .initial ∨ ∃ draft next,
      ((create files settings).after (moves ++ [move])).registry.draft? uri = some next ∧
        draft.Later next ∧ earlier.Follows uri draft := by
    refine traced.follows.imp id ?_
    rintro ⟨draft, found, follows⟩
    obtain ⟨next, reached, later⟩ := later_of_stay orderly stay found
    rw [after_snoc]
    exact ⟨draft, next, reached, later, follows⟩
  obtain rfl | ⟨current, now, opened, rfl⟩ := origin
  · rw [traced.based.same]
    refine ⟨traced.based, UInt64.le_refl _, later.imp id ?_⟩
    rintro ⟨draft, next, reached, later, follows⟩
    exact ⟨next, reached, follows.later later⟩
  · have followed : earlier = .initial ∨
        ∃ draft, draft.Later current ∧ earlier.Follows uri draft := by
      refine later.imp id ?_
      rintro ⟨draft, next, reached, later, follows⟩
      cases reached.symm.trans opened
      exact ⟨draft, later, follows⟩
    obtain ⟨based, grown⟩ := traced.based.shown followed now
    exact ⟨based, grown, .inr ⟨current, opened, View.follows_update _ _ _ _⟩⟩

/-- The model of a view is that of a text of the document, at the version that is the
basis of the view. -/
theorem Traced.source_snoc
    (traced : Traced (create files settings) moves number uri earlier basis)
    (origin : view = earlier ∨
      ((create files settings).after (moves ++ [move])).Refreshed uri earlier view)
    (root : Document) (rooted : view.root = some root) :
    Sometime (create files settings) (moves ++ [move]) fun workspace =>
      ∃ draft, workspace.registry.draft? uri = some draft ∧
        draft.version = view.basis uri basis ∧ Document.parse draft.text = .ok root := by
  rw [sometime_snoc]
  obtain rfl | ⟨current, now, opened, made⟩ := origin
  · rw [traced.based.same]
    exact .inl (traced.source root rooted)
  · by_cases readable : view.Readable uri
    · right
      have level : view.basis uri basis = current.version := by
        rw [View.basis, if_pos readable, made]
        rfl
      refine ⟨current, opened, level.symm, ?_⟩
      rw [made] at readable rooted
      cases read : Document.parse current.text with
      | error fault =>
        have unread : (Build.of uri current.text).root = none := by simp [Build.of, read]
        have built : (Build.of uri current.text).root.isSome := readable.2
        rw [unread] at built
        cases built
      | ok document =>
        have built : (Build.of uri current.text).root = some document := by simp [Build.of, read]
        have shown : some document = some root := by
          simpa [View.update, built] using rooted
        rw [Option.some.inj shown]
    · left
      have kept : view.basis uri basis = basis := if_neg readable
      rw [kept]
      rw [made] at readable rooted
      rw [View.root_of_not_readable readable] at rooted
      exact traced.source root rooted

/-- No session of a later version was up to date yet. -/
theorem Traced.highest_snoc
    (traced : Traced (create files settings) moves number uri earlier basis)
    (grown : basis ≤ view.basis uri basis)
    (showing : ((create files settings).after (moves ++ [move])).Showing number uri view)
    (version : UInt64)
    (sometime : Sometime (create files settings) (moves ++ [move]) fun workspace =>
      ∃ session draft, workspace.UpToDate number session draft ∧ session.uri = uri ∧
        draft.version = version) : version ≤ view.basis uri basis := by
  have orderly := orderly_after (orderly_create files settings) (moves ++ [move])
  rcases (sometime_snoc _ _ _ _).mp sometime with before | ⟨session, draft, upToDate, rfl, rfl⟩
  · exact UInt64.le_trans (traced.highest version before) grown
  · have shows := showing.view_eq orderly.numbered upToDate.found
    have readable := upToDate.readable
    rw [shows] at readable
    rw [View.basis, if_pos readable, ← shows, upToDate.version]
    exact UInt64.le_refl _

/-- A session with a model whose basis is not behind the accepted revision was up to date
since that one was accepted. -/
theorem Traced.informed_snoc
    (traced : Traced (create files settings) moves number uri earlier basis)
    (stay : ∀ client, ¬move.uses ((create files settings).after moves) (.link uri client))
    (showing : ((create files settings).after (moves ++ [move])).Showing number uri view)
    (origin : view = earlier ∨
      ((create files settings).after (moves ++ [move])).Refreshed uri earlier view)
    (based : view.Based uri (view.basis uri basis))
    (follows : view = .initial ∨ ∃ draft,
      ((create files settings).after (moves ++ [move])).registry.draft? uri = some draft ∧
        view.Follows uri draft)
    (rooted : view.root.isSome) (accepted : Snapshot)
    (is : ((create files settings).after (moves ++ [move])).accepted uri = some accepted)
    (covered : accepted.version ≤ view.basis uri basis) :
    Sometime (create files settings) (moves ++ [move]) fun workspace =>
      (∃ session draft, workspace.UpToDate number session draft ∧ session.uri = uri) ∧
        workspace.accepted uri = some accepted := by
  have orderly := orderly_after (orderly_create files settings) moves
  rw [sometime_snoc]
  have happens := act_happens orderly move
  rw [← after_snoc] at happens
  rcases happens.level stay orderly with same | ⟨draft, snapshot, opened, known, level⟩
  · obtain rfl | ⟨current, time, opened, made⟩ := origin
    · rw [traced.based.same] at covered
      exact .inl (traced.informed rooted accepted (same ▸ is) covered)
    · by_cases readable : view.Readable uri
      · refine .inr ⟨showing.upToDate readable opened ?_ ?_, is⟩
        · rw [made]
          rfl
        · rw [made]
          rfl
      · have kept : view.basis uri basis = basis := if_neg readable
        rw [kept] at covered
        rw [made] at readable rooted
        rw [View.root_of_not_readable readable] at rooted
        exact .inl (traced.informed rooted accepted (same ▸ is) covered)
  · cases known.symm.trans is
    obtain rfl | ⟨shown, found, follows⟩ := follows
    · exact nomatch rooted
    · cases found.symm.trans opened
      have reached : draft.version ≤ view.basis uri basis := level ▸ covered
      have version : view.version = draft.version :=
        UInt64.le_antisymm follows.behind (UInt64.le_trans reached based.behind)
      have readable : view.Readable uri := by
        by_contra unreadable
        have lag := based.lag rooted unreadable
        exact absurd (version ▸ reached) (UInt64.not_le.mpr lag)
      have text := follows.level readable.1 version
      exact .inr ⟨showing.upToDate readable opened version text, is⟩

/-- Moves by which nobody leaves a document keep track of what is shown of it.

Proof: by induction on the moves. With each of them a session shows what it showed before
or is shown its document as it is. -/
theorem traced_after (files : φ) (settings : Settings) (moves : List (Move φ)) (number : Nat)
    (uri : String) (stay : NobodyLeaves uri (create files settings) moves) (view : View)
    (showing : ((create files settings).after moves).Showing number uri view) :
    Traced (create files settings) moves number uri view
      (basisAfter number (create files settings) 0 moves) := by
  induction moves using List.reverseRecOn generalizing view with
  | nil => exact traced_create files settings showing
  | append_singleton moves move inductionHypothesis =>
    obtain ⟨sofar, last, _⟩ := (throughout_append _ _ _ _).mp stay
    have orderly := orderly_after (orderly_create files settings) moves
    have happens := act_happens orderly move
    rw [← after_snoc] at happens
    obtain ⟨earlier, shown, origin⟩ := happens.showing orderly showing
    have traced := inductionHypothesis sofar earlier shown
    have settled := orderly_after (orderly_create files settings) (moves ++ [move])
    rw [basisAfter_snoc, showing.basisOf settled.numbered]
    obtain ⟨based, grown, follows⟩ := traced.based_snoc (fun client => (last client).1) origin
    exact {
      based, follows
      source := traced.source_snoc origin
      highest := traced.highest_snoc grown showing
      informed :=
        traced.informed_snoc (fun client => (last client).2) showing origin based follows }

end Step

/-- A replay keeps to the accepted revision exactly when its session was up to date since
that revision was accepted. Anything may have happened before, as long as nobody left the
document. Whatever replays the session writes its model over the document; the model was
read from the text that the document had at the basis of the session; and the basis is
not behind the revision that is accepted just before the replay if and only if the
session showed the document as it was at some time while that revision was the accepted
one.

Proof: a session that is up to date has the version of the document as its basis, which
never falls and which the accepted revision is not ahead of. Conversely, a basis that
reaches the accepted revision was reached by being shown the document after that revision
was accepted, or stands at the document when it is accepted. -/
theorem replay_keeps_accepted_iff (files : φ) (settings : Settings) (moves : List (Move φ))
    (number : Nat) (session : Session) (root : Document)
    (stay : NobodyLeaves session.uri (create files settings) moves)
    (found : ((create files settings).after moves).session? number = some session)
    (shown : session.view.root = some root) :
    let start := create files settings
    let workspace := start.after moves
    let basis := basisAfter number start 0 moves
    (∀ move : Move φ, move.replays? workspace = some session → ∀ uri,
      (workspace.act move).registry.draft? uri = workspace.replayed session uri) ∧
    (Sometime start moves fun earlier => ∃ draft,
      earlier.registry.draft? session.uri = some draft ∧ draft.version = basis ∧
        Document.parse draft.text = .ok root) ∧
    ∀ accepted, workspace.accepted session.uri = some accepted →
      (accepted.version ≤ basis ↔ Sometime start moves fun earlier =>
        (∃ then' draft, earlier.UpToDate number then' draft ∧ then'.uri = session.uri) ∧
          earlier.accepted session.uri = some accepted) := by
  intro start workspace basis
  have orderly : workspace.Orderly := orderly_after (orderly_create files settings) moves
  have idle : workspace.Idle :=
    idle_after (orderly_create files settings) (idle_create files settings) moves
  have traced : Traced start moves number session.uri session.view basis :=
    traced_after files settings moves number session.uri stay session.view
      (.shown session found rfl)
  refine ⟨fun move replays uri => draft?_act orderly idle replays uri, traced.source root shown, ?_⟩
  intro accepted is
  constructor
  · exact traced.informed (by rw [shown]; rfl) accepted is
  · rintro ⟨earlier, later, rfl, ⟨known, draft, upToDate, about⟩, same⟩
    obtain ⟨sofar, _⟩ := (throughout_append _ _ _ _).mp stay
    have abreast : (start.after earlier).Abreast session.uri :=
      abreast_after (orderly_create files settings) (abreast_create files settings _) sofar
    obtain ⟨current, opened, bound⟩ := abreast accepted.version (.accepted accepted same)
    have reached := upToDate.opened
    rw [about] at reached
    cases reached.symm.trans opened
    refine UInt64.le_trans bound (traced.highest draft.version ?_)
    exact ⟨earlier, later, rfl, known, draft, upToDate, about, rfl⟩

end Runs

/-- A text is accepted, another one comes from a client that did not know it, and what
the two led to is taken up. -/
def staleEdits : List (Move Files.Memory) :=
  [.openFor ⟨"file:///a.wf", "t1", none, none, some (smallFlow "first")⟩,
    .attach "file:///a.wf" "g1",
    .update .within "file:///a.wf" 1 (smallFlow "second") "t1",
    .update .within "file:///a.wf" 0 (smallFlow "third") "t1", .work 0, .work 0, .wait 250, .work 0]

/-- The workspace after the stale edit, where the only ready task is a replay. -/
def afterStaleEdits : Workspace Files.Memory :=
  (create Files.Memory.empty { Settings.usual with autoSyncEnabled := false }).after staleEdits

/-- The replay that a stale edit leads to overtakes the refresh that was waiting, and
takes the accepted revision back: it writes a model that is older. -/
theorem stale_edit_takes_accepted_revision_back :
    ∃ session accepted draft next,
      Move.replays? afterStaleEdits (.work 0) = some session ∧
      afterStaleEdits.accepted "file:///a.wf" = some accepted ∧
      afterStaleEdits.registry.draft? "file:///a.wf" = some draft ∧
      (afterStaleEdits.act (.work 0)).registry.draft? "file:///a.wf" = some next ∧
      draft.text ≠ next.text ∧
      basisAfter session.number
        (create Files.Memory.empty { Settings.usual with autoSyncEnabled := false }) 0 staleEdits <
          accepted.version := by
  have run :
      ((Move.replays? afterStaleEdits (.work 0)).map (·.number),
        (afterStaleEdits.accepted "file:///a.wf").map (·.version),
        (afterStaleEdits.registry.draft? "file:///a.wf").map (·.text),
        ((afterStaleEdits.act (.work 0)).registry.draft? "file:///a.wf").map (·.text),
        basisAfter 0 (create Files.Memory.empty { Settings.usual with autoSyncEnabled := false }) 0
          staleEdits) =
      (some 0, some 1, some (smallFlow "third"), some (smallFlow "first"), 0) := by
    decide +kernel
  simp only [Prod.mk.injEq, Option.map_eq_some_iff] at run
  obtain ⟨⟨session, replays, number⟩, ⟨accepted, is, version⟩, ⟨draft, found, text⟩,
    ⟨next, written, other⟩, basis⟩ := run
  refine ⟨session, accepted, draft, next, replays, is, found, written, ?_, ?_⟩
  · rw [text, other]
    decide
  · rw [number, basis, version]
    decide

/-- At no time since the revision was accepted was the session up to date. -/
theorem stale_session_was_not_up_to_date :
    ∃ session accepted, afterStaleEdits.session? 0 = some session ∧
      afterStaleEdits.accepted session.uri = some accepted ∧
      ¬Sometime (create Files.Memory.empty { Settings.usual with autoSyncEnabled := false })
        staleEdits fun earlier =>
          (∃ then' draft, earlier.UpToDate 0 then' draft ∧ then'.uri = session.uri) ∧
            earlier.accepted session.uri = some accepted := by
  have run :
      ((afterStaleEdits.session? 0).map fun session => (session.uri, session.view.root.isSome),
        (afterStaleEdits.accepted "file:///a.wf").map (·.version),
        basisAfter 0 (create Files.Memory.empty { Settings.usual with autoSyncEnabled := false }) 0
          staleEdits) =
      (some ("file:///a.wf", true), some 1, 0) := by
    decide +kernel
  simp only [Prod.mk.injEq, Option.map_eq_some_iff] at run
  obtain ⟨⟨session, found, uri, rooted⟩, ⟨accepted, is, version⟩, basis⟩ := run
  obtain ⟨root, shown⟩ := Option.isSome_iff_exists.mp rooted
  have stay : NobodyLeaves session.uri
      (create Files.Memory.empty { Settings.usual with autoSyncEnabled := false }) staleEdits :=
    ⟨fun _ => ⟨id, id⟩, fun _ => ⟨id, id⟩, fun _ => ⟨id, id⟩, fun _ => ⟨id, id⟩,
      work_keeps _ 0 _, work_keeps _ 0 _, fun _ => ⟨id, id⟩, work_keeps _ 0 _, trivial⟩
  obtain ⟨_, _, precise⟩ := replay_keeps_accepted_iff Files.Memory.empty
    { Settings.usual with autoSyncEnabled := false } staleEdits 0 session root stay found shown
  refine ⟨session, accepted, found, uri ▸ is, ?_⟩
  intro informed
  have covered := (precise accepted (uri ▸ is)).mpr informed
  rw [basis, version] at covered
  exact absurd covered (by decide)

end Workspace

end Flowdesk
