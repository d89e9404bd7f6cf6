import Flowdesk.Proofs.Workspace.Basis

/-!
# What views tell of what they were shown

A view is made by showing it one edition of a document after another. Where a text cannot
be read, the model and its index stay behind and everything else moves on. So the model is
that of the last edition that could be read, and only a view that may not be edited can
have the model of another text than its own: an edition that cannot be read comes with an
error.
-/

namespace Flowdesk

open Data Sync

/-- A text under an address, with the revision that records it. -/
structure Edition where
  uri : String
  text : String
  revision : Revision

namespace Edition

/-- What an edition is read as, if it can be read. -/
def read? (edition : Edition) : Option Workflow.Document :=
  (Workflow.Document.parse edition.text).toOption

/-- What the last one of some editions that can be read is read as. -/
def lastRead? (editions : List Edition) : Option Workflow.Document :=
  (editions.filterMap read?).getLast?

end Edition

namespace Workflow

/-- The model of a build is what its text is read as. -/
theorem Build.root_of (uri text : String) :
    (Build.of uri text).root = (Document.parse text).toOption := by
  unfold Build.of
  cases Document.parse text <;> rfl

/-- A text may not be edited if it cannot be read, or has an error then. -/
theorem Build.readonly_iff (uri text : String) :
    EditMode.of (Build.of uri text).findings = .readonly ↔
      (∃ fault, Document.parse text = .error fault) ∨
        ∃ root, Document.parse text = .ok root ∧ Workflow.hasErrors (check root) = true := by
  have wrong : EditMode.of (Build.of uri text).findings = .readonly ↔
      (Build.of uri text).hasErrors = true := by
    unfold EditMode.of Build.hasErrors
    split
    · next wrong => simp [wrong]
    · next sound => simp [sound]
  rw [wrong]
  cases read : Document.parse text with
  | ok root => simp [Build.hasErrors, Build.of, read]
  | error fault =>
    have unread : (Build.of uri text).root = none := by
      rw [Build.root_of, read]
      rfl
    simp [Build.hasErrors_of_root_none uri text unread]

end Workflow

namespace View

open Workflow

/-- The view after it was shown an edition. -/
def take (view : View) (edition : Edition) : View :=
  view.update (Build.of edition.uri edition.text) edition.revision edition.text

/-- The view after it was shown editions, one after the other. -/
def after (view : View) (editions : List Edition) : View := editions.foldl take view

theorem after_snoc (view : View) (editions : List Edition) (last : Edition) :
    view.after (editions ++ [last]) = (view.after editions).take last := by
  simp [after]

/-- An edition that can be read gives a view its model, and no other one does. -/
theorem root_take (view : View) (edition : Edition) :
    (view.take edition).root = edition.read?.or view.root := by
  unfold take update Edition.read?
  rw [Build.root_of]
  cases Document.parse edition.text <;> rfl

/-- The model of a view is that of the last edition that could be read. -/
theorem root_after (view : View) (editions : List Edition) :
    (view.after editions).root = (Edition.lastRead? editions).or view.root := by
  induction editions using List.reverseRecOn with
  | nil => rfl
  | append_singleton editions last inductionHypothesis =>
    rw [after_snoc, root_take, inductionHypothesis]
    unfold Edition.lastRead?
    rw [List.filterMap_append, List.getLast?_append, List.filterMap_cons, List.filterMap_nil]
    cases last.read? <;> simp

/-- Whether the index of a view is that of its model. -/
def Indexed (view : View) : Prop := view.index = (view.root.map Index.of).getD .empty

/-- The index of a view changes with its model. -/
theorem Indexed.take {view : View} (indexed : view.Indexed) (edition : Edition) :
    (view.take edition).Indexed := by
  unfold Indexed View.take update
  cases (Build.of edition.uri edition.text).root with
  | none => exact indexed
  | some root => rfl

theorem Indexed.after {view : View} (indexed : view.Indexed) (editions : List Edition) :
    (view.after editions).Indexed := by
  induction editions using List.reverseRecOn with
  | nil => exact indexed
  | append_singleton editions last inductionHypothesis =>
    rw [after_snoc]
    exact inductionHypothesis.take last

/-- A view that may be edited was last shown a text that is read as its model. -/
theorem root_of_editable {view : View} {edition : Edition}
    (mode : (view.take edition).mode = .editable) :
    ∃ root, Document.parse edition.text = .ok root ∧ (view.take edition).root = some root := by
  cases read : Document.parse edition.text with
  | ok root =>
    refine ⟨root, rfl, ?_⟩
    rw [root_take, Edition.read?, read]
    rfl
  | error fault =>
    have refused : (view.take edition).mode = .readonly :=
      (Build.readonly_iff edition.uri edition.text).mpr (.inl ⟨fault, read⟩)
    exact nomatch refused.symm.trans mode

end View

namespace Workspace

section Sessions

variable {φ : Type} [Files.Store φ]

/-- Whether an edition is one that a document had at some time. -/
def Had (start : Workspace φ) (moves : List (Move φ)) (uri : String) (edition : Edition) : Prop :=
  edition.uri = uri ∧ Sometime start moves fun workspace => ∃ draft now,
    workspace.registry.draft? uri = some draft ∧ edition.text = draft.text ∧
      edition.revision = draft.current now

/-- The view of a session was made of editions that its document had.

Proof: by induction on the moves. Each of them leaves a view as it was or shows it its
document, and a new session has the view of nothing. -/
theorem editions_of_session (files : φ) (settings : Settings) (moves : List (Move φ))
    {session : Session} (present : session ∈ ((create files settings).after moves).sessions) :
    ∃ editions : List Edition, session.view = View.initial.after editions ∧
      ∀ edition ∈ editions, Had (create files settings) moves session.uri edition := by
  induction moves using List.reverseRecOn generalizing session with
  | nil => exact nomatch present
  | append_singleton moves move inductionHypothesis =>
    have orderly := orderly_after (orderly_create files settings) moves
    have happens := act_happens orderly move
    rw [← after_snoc] at happens
    -- What a view is shown by the last move is one more edition.
    have shown : ∀ (earlier : View) (editions : List Edition),
        earlier = View.initial.after editions →
        (∀ edition ∈ editions, Had (create files settings) moves session.uri edition) →
        session.view = earlier ∨ ((create files settings).after (moves ++ [move])).Refreshed
          session.uri earlier session.view →
        ∃ editions : List Edition, session.view = View.initial.after editions ∧
          ∀ edition ∈ editions,
            Had (create files settings) (moves ++ [move]) session.uri edition := by
      intro earlier editions made had view
      have kept : ∀ edition ∈ editions,
          Had (create files settings) (moves ++ [move]) session.uri edition := by
        intro edition member
        obtain ⟨about, sometime⟩ := had edition member
        exact ⟨about, (sometime_snoc _ _ _ _).mpr (.inl sometime)⟩
      rcases view with same | ⟨draft, now, opened, refreshed⟩
      · exact ⟨editions, same.trans made, kept⟩
      · refine ⟨editions ++ [⟨session.uri, draft.text, draft.current now⟩], ?_, ?_⟩
        · rw [View.after_snoc, ← made]
          exact refreshed
        · intro edition member
          rcases List.mem_append.mp member with earlier | last
          · exact kept edition earlier
          · cases List.mem_singleton.mp last
            exact ⟨rfl, (sometime_snoc _ _ _ _).mpr (.inr ⟨draft, now, opened, rfl, rfl⟩)⟩
    cases happens.sessions orderly present with
    | continued earlier was continues view =>
      obtain ⟨editions, made, had⟩ := inductionHypothesis was
      exact shown earlier.view editions made (continues.uri ▸ had) view
    | begun fresh view => exact shown .initial [] rfl (fun _ none => nomatch none) view

/-- **What a view means after any history.** However often it was shown an edition, its
model is that of the last edition that could be read, and its index is the index of this
model. Its text, its version and its findings are those of the last edition of all. It may
be edited exactly if that edition can be read and has no error then, and its model is then
what its text is read as.

The view of every session, whatever happened so far, was made in this way of editions of
its document.

Proof: induction over the editions from the end, since an edition that cannot be read leaves the
model and its index alone and replaces all else. For the sessions, induction over the moves: a
view only ever changes by being shown the build of its document as it is then. -/
theorem views_tell_their_editions (files : φ) (settings : Settings) (moves : List (Move φ)) :
    (∀ editions : List Edition,
      (View.initial.after editions).root = Edition.lastRead? editions ∧
      (View.initial.after editions).index =
        ((Edition.lastRead? editions).map Workflow.Index.of).getD .empty) ∧
    (∀ (editions : List Edition) (last : Edition),
      let view := View.initial.after (editions ++ [last])
      view.text = last.text ∧ view.revision = some last.revision ∧
      view.version = last.revision.version ∧
      view.findings = (Workflow.Build.of last.uri last.text).findings ∧
      (view.mode = .readonly ↔ (∃ fault, Workflow.Document.parse last.text = .error fault) ∨
        ∃ root, Workflow.Document.parse last.text = .ok root ∧
          Workflow.hasErrors (Workflow.check root) = true) ∧
      (view.mode = .editable → ∃ root, Workflow.Document.parse last.text = .ok root ∧
        view.root = some root)) ∧
    ∀ session ∈ ((create files settings).after moves).sessions,
      ∃ editions : List Edition, session.view = View.initial.after editions ∧
        ∀ edition ∈ editions, Had (create files settings) moves session.uri edition := by
  have model : ∀ editions : List Edition,
      (View.initial.after editions).root = Edition.lastRead? editions := by
    intro editions
    rw [View.root_after]
    exact Option.or_none
  have initial : View.initial.Indexed := rfl
  refine ⟨fun editions => ⟨model editions, model editions ▸ initial.after editions⟩, ?_,
    fun session present => editions_of_session files settings moves present⟩
  intro editions last view
  have made : view = (View.initial.after editions).take last := View.after_snoc _ editions last
  rw [made]
  exact ⟨rfl, rfl, rfl, rfl, Workflow.Build.readonly_iff last.uri last.text, View.root_of_editable⟩

end Sessions

/-- A document that a session shows, and is then given a text that cannot be read. -/
def brokenOff : List (Move Files.Memory) :=
  [.openFor ⟨"file:///a.wf", "t1", none, none, some (smallFlow "first")⟩,
    .attach "file:///a.wf" "g1", .update .within "file:///a.wf" 1 "workflow: [" "t1",
    .syncAndSend 0 .semanticToGraph]

/-- The session then shows the broken text, with the model of the one before. -/
theorem broken_edition_keeps_model :
    ∃ session ∈ ((create Files.Memory.empty Settings.usual).after brokenOff).sessions,
      session.view.text = "workflow: [" ∧ session.view.mode = .readonly ∧
      session.view.root.isSome ∧
      ∃ editions : List Edition, session.view = View.initial.after editions ∧
        session.view.root = Edition.lastRead? editions ∧
        ∀ edition ∈ editions,
          Had (create Files.Memory.empty Settings.usual) brokenOff session.uri edition := by
  have run : (((create Files.Memory.empty Settings.usual).after brokenOff).session? 0).map
      (fun session => (session.view.text, session.view.mode, session.view.root.isSome)) =
        some ("workflow: [", .readonly, true) := by
    decide +kernel
  obtain ⟨session, found, shows⟩ := Option.map_eq_some_iff.mp run
  simp only [Prod.mk.injEq] at shows
  obtain ⟨present, _⟩ := of_session? found
  obtain ⟨models, _, sessions⟩ :=
    views_tell_their_editions Files.Memory.empty Settings.usual brokenOff
  obtain ⟨editions, made, had⟩ := sessions session present
  exact ⟨session, present, shows.1, shows.2.1, shows.2.2, editions, made,
    made ▸ (models editions).1, had⟩

end Workspace

end Flowdesk
