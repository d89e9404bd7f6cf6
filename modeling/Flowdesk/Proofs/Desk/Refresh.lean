import Flowdesk.Proofs.Desk.Agreement
import Flowdesk.Proofs.Desk.File

/-!
# Opening a document again

A document that is open can be opened once more in two ways. A client that does not hold it
yet joins the others, and its text is recorded if it is another one. A client that holds it
already is not let in again; its text is recorded all the same, even if it is the one that
the document has. So the two do the same to the document, to its build and to what is
announced, each in the name of its client, exactly if the text is not that of the document.
-/

namespace Flowdesk

open Data Sync Workflow

/-- The update in the name of a client. -/
def Registry.Update.inNameOf (update : Registry.Update) (client : String) : Registry.Update :=
  { update with client, revision := { update.revision with client } }

/-- The answer of a desk for one of its registry, apart from how the sync stands. -/
def Refusal.answer {α : Type} : Except Registry.Failure α → Except Refusal Unit
  | .ok _ => .ok ()
  | .error failure => .error (.failed (.registry failure))

/-- Whether two clients that opened a document as it was in a workspace, each for itself, did
the same to it: its text and version are the same and so is its author, unless each client
became the author; the same build is kept, the same updates were announced, each in the name
of its client, and both were answered or both were refused for the same cause. -/
structure Workspace.OpenedAlike {φ : Type} (before : Workspace φ) (draft : Draft)
    (uri holder newcomer : String) (held joined : Workspace φ × Except Refusal Unit) : Prop where
  text : (held.1.registry.draft? uri).map (·.text) = (joined.1.registry.draft? uri).map (·.text)
  version : (held.1.registry.draft? uri).map (·.version) =
    (joined.1.registry.draft? uri).map (·.version)
  author :
    (held.1.registry.draft? uri).map (·.author) = some draft.author ∧
        (joined.1.registry.draft? uri).map (·.author) = some draft.author ∨
      (held.1.registry.draft? uri).map (·.author) = some holder ∧
        (joined.1.registry.draft? uri).map (·.author) = some newcomer
  build : held.1.registry.builds.get? uri = joined.1.registry.builds.get? uri
  announced : ∃ updates : List Registry.Update,
    held.1.announced = updates.map (.updated <| ·.inNameOf holder) ++ before.announced ∧
      joined.1.announced = updates.map (.updated <| ·.inNameOf newcomer) ++ before.announced
  answer : held.2 = joined.2

/-- What an opening does to a document that is open. -/
structure Draft.Effect where
  text : String
  version : UInt64
  author : String
  /-- What is announced, if anything is. -/
  update : Option Registry.Update
  answer : Except Refusal Unit

namespace Draft

/-- Nothing is done to a draft. -/
def kept (draft : Draft) : Effect := ⟨draft.text, draft.version, draft.author, none, .ok ()⟩

/-- A text is recorded, unless no version is left for it. -/
def recorded (draft : Draft) (claimed : UInt64) (text client : String) (now : UInt64) : Effect :=
  match draft.revise claimed text client now with
  | some (revised, revision) =>
      ⟨revised.text, revised.version, revised.author,
        some ⟨Build.of draft.uri revised.text, client, .changed, revision⟩, .ok ()⟩
  | none =>
      { draft.kept with answer := .error (.failed (.registry (.versionExhausted draft.uri))) }

/-- What a client does that holds the document: its text is recorded, if it brings one. -/
def refreshedBy (draft : Draft) (opening : Registry.Opening) (now : UInt64) : Effect :=
  match opening.text with
  | some text =>
      draft.recorded (opening.version.getD draft.nextVersion) text opening.client now
  | none => draft.kept

/-- What a client does that joins the holders: its text is recorded if it is another one. -/
def joinedBy (draft : Draft) (opening : Registry.Opening) (now : UInt64) : Effect :=
  if opening.text = some draft.text then draft.kept else draft.refreshedBy opening now

/-- Whether what two clients are to do to a draft is the same, each in its own name. -/
structure Effect.Alike (draft : Draft) (holder newcomer : String) (mine theirs : Effect) :
    Prop where
  text : mine.text = theirs.text
  version : mine.version = theirs.version
  author : mine.author = draft.author ∧ theirs.author = draft.author ∨
    mine.author = holder ∧ theirs.author = newcomer
  update : ∃ update : Option Registry.Update, mine.update = update.map (·.inNameOf holder) ∧
    theirs.update = update.map (·.inNameOf newcomer)
  answer : mine.answer = theirs.answer

theorem kept_alike (draft : Draft) (holder newcomer : String) :
    Effect.Alike draft holder newcomer draft.kept draft.kept :=
  ⟨rfl, rfl, .inl ⟨rfl, rfl⟩, ⟨none, rfl, rfl⟩, rfl⟩

/-- A text is recorded alike for every client. -/
theorem recorded_alike (draft : Draft) (holder newcomer : String) (claimed : UInt64)
    (text : String) (now : UInt64) :
    Effect.Alike draft holder newcomer (draft.recorded claimed text holder now)
      (draft.recorded claimed text newcomer now) := by
  unfold recorded revise
  by_cases last : draft.version = lastVersion
  · simp only [if_pos last]
    exact ⟨rfl, rfl, .inl ⟨rfl, rfl⟩, ⟨none, rfl, rfl⟩, rfl⟩
  · simp only [if_neg last]
    let revision : Revision :=
      ⟨claimed, max claimed (draft.version + 1), holder, now, checksum text⟩
    exact ⟨rfl, rfl, .inr ⟨rfl, rfl⟩,
      ⟨some ⟨Build.of draft.uri text, holder, .changed, revision⟩, rfl, rfl⟩, rfl⟩

/-- Clients that hold a document refresh it alike. -/
theorem refreshedBy_alike (draft : Draft) (opening : Registry.Opening) (newcomer : String)
    (now : UInt64) :
    Effect.Alike draft opening.client newcomer (draft.refreshedBy opening now)
      (draft.refreshedBy { opening with client := newcomer } now) := by
  unfold refreshedBy
  cases opening.text with
  | none => exact kept_alike draft opening.client newcomer
  | some text => exact recorded_alike draft opening.client newcomer _ text now

/-- A text that is recorded raises the version, or it is refused. -/
theorem recorded_unlike_kept (draft : Draft) (claimed : UInt64) (text client : String)
    (now : UInt64) (version : (draft.recorded claimed text client now).version = draft.version) :
    (draft.recorded claimed text client now).answer ≠ draft.kept.answer := by
  revert version
  unfold recorded
  split
  · next revised revision done =>
    intro same
    have higher := version_lt_of_revise draft revised claimed text client now revision done
    exact absurd same.symm (UInt64.ne_of_lt higher)
  · intro _ answered
    exact nomatch answered

/-- Who else holds a document makes no difference to what is recorded. -/
theorem recorded_heldAlsoBy (draft : Draft) (holder : Option String) (claimed : UInt64)
    (text client : String) (now : UInt64) :
    (draft.heldAlsoBy holder).recorded claimed text client now =
      draft.recorded claimed text client now := by
  cases holder with
  | none => rfl
  | some name =>
    unfold recorded heldAlsoBy revise
    by_cases last : draft.version = lastVersion
    · simp only [if_pos last]
      rfl
    · simp only [if_neg last]

end Draft

namespace Registry

variable {φ : Type} {registry : Registry φ} {draft : Draft} {claimed now : UInt64}
  {uri text client : String}

/-- Whether an operation does to an open document what an opening is to do. -/
structure Outcome.Does {α : Type} (outcome : Outcome φ α) (uri : String) (effect : Draft.Effect) :
    Prop where
  text : (outcome.registry.draft? uri).map (·.text) = some effect.text
  version : (outcome.registry.draft? uri).map (·.version) = some effect.version
  author : (outcome.registry.draft? uri).map (·.author) = some effect.author
  events : outcome.events = effect.update.toList.map .updated
  answer : Refusal.answer outcome.result = effect.answer

/-- An operation that succeeds and changes nothing keeps an open document as it is. -/
theorem does_answer {α : Type} (found : registry.draft? uri = some draft) (value : α) :
    (registry.answer value).Does uri draft.kept where
  text := congrArg (Option.map (·.text)) found
  version := congrArg (Option.map (·.version)) found
  author := congrArg (Option.map (·.author)) found
  events := rfl
  answer := rfl

/-- Another value of the result makes no difference to what an operation does. -/
theorem Outcome.Does.map {α β : Type} {outcome : Outcome φ α} {effect : Draft.Effect}
    (does : outcome.Does uri effect) (change : α → β) : (outcome.map change).Does uri effect where
  text := does.text
  version := does.version
  author := does.author
  events := does.events
  answer := by
    rw [← does.answer]
    unfold Outcome.map
    cases outcome.result <;> rfl

/-- Giving an open document another text records it. -/
theorem does_revise (named : draft.uri = uri) (found : registry.draft? uri = some draft) :
    (registry.revise draft claimed text client now).Does uri
      (draft.recorded claimed text client now) := by
  unfold Draft.recorded revise
  cases done : draft.revise claimed text client now with
  | none =>
    exact ⟨congrArg (Option.map (·.text)) found, congrArg (Option.map (·.version)) found,
      congrArg (Option.map (·.author)) found, rfl, rfl⟩
  | some made =>
    obtain ⟨revised, revision⟩ := made
    have itself : revised.uri = uri := by
      rw [(Draft.revise_eq_some done).2.1]
      exact named
    have stored : (registry.setDraft revised).draft? uri = some revised := by
      rw [draft?_setDraft, if_pos itself]
    simp only [named, rebuildAs_of_open _ _ _ _ _ _ stored]
    have kept : ((registry.setDraft revised).keepBuild revision.version
        (Build.of uri revised.text)).draft? uri = some revised := by
      rw [draft?_keepBuild, stored]
    exact ⟨congrArg (Option.map (·.text)) kept, congrArg (Option.map (·.version)) kept,
      congrArg (Option.map (·.author)) kept, rfl, rfl⟩

/-- Joining the holders of a document records a text that is another one. -/
theorem does_join {opening : Opening} (named : draft.uri = opening.uri) :
    (registry.join draft opening now).Does opening.uri (draft.joinedBy opening now) := by
  have itself : (draft.heldAlsoBy (some opening.client)).uri = opening.uri := named
  have stored : (registry.setDraft (draft.heldAlsoBy (some opening.client))).draft? opening.uri =
      some (draft.heldAlsoBy (some opening.client)) := by
    rw [draft?_setDraft, if_pos itself]
  have silent := does_answer stored ()
  unfold join Draft.joinedBy Draft.refreshedBy
  cases brought : opening.text with
  | none => exact silent
  | some text =>
    simp only [Option.some.injEq]
    split
    · exact silent
    · rw [← draft.recorded_heldAlsoBy (some opening.client)]
      exact (does_revise itself stored).map _

/-- A client that opens an open document joins its holders, if the document has a path. -/
theorem openFor_eq_join [Files.Store φ] {opening : Opening} {path : String}
    (named : Address.pathOf? opening.uri = some path)
    (found : registry.draft? opening.uri = some draft) :
    registry.openFor opening now = registry.join draft opening now := by
  simp only [openFor, named, found]

/-- No document is opened by an address that names no path. -/
theorem pathOf?_of_openFor [Files.Store φ] {opening : Opening}
    (opened : (registry.openFor opening now).result = .ok ()) :
    ∃ path, Address.pathOf? opening.uri = some path := by
  cases named : Address.pathOf? opening.uri with
  | some path => exact ⟨path, rfl⟩
  | none =>
    simp only [openFor, named] at opened
    exact nomatch opened

end Registry

namespace Workspace

variable {φ α : Type} {before : Workspace φ} {uri : String} {draft : Draft}

/-- Whether a workspace shows that an open document had done to it what an opening is to do. -/
structure Shows (before : Workspace φ) (uri : String) (effect : Draft.Effect)
    (outcome : Workspace φ × Except Refusal Unit) : Prop where
  text : (outcome.1.registry.draft? uri).map (·.text) = some effect.text
  version : (outcome.1.registry.draft? uri).map (·.version) = some effect.version
  author : (outcome.1.registry.draft? uri).map (·.author) = some effect.author
  announced : outcome.1.announced = effect.update.toList.map .updated ++ before.announced
  answer : outcome.2 = effect.answer

/-- What an operation does is shown once it was adopted. -/
theorem shows_adopt (numbered : before.Numbered) {outcome : Registry.Outcome φ α}
    {effect : Draft.Effect} (does : outcome.Does uri effect) :
    before.Shows uri effect
      ((before.adopt .within outcome).1, Refusal.answer (before.adopt .within outcome).2) := by
  have once : (Registry.updates outcome.events).length ≤ 1 := by
    rw [does.events]
    cases effect.update with
    | none => exact Nat.zero_le 1
    | some update => exact Nat.le_refl 1
  have same := (adopt_frame numbered .within once).1
  refine ⟨?_, ?_, ?_, ?_, does.answer⟩
  · rw [same, does.text]
  · rw [same, does.version]
  · rw [same, does.author]
  · rw [announced_adopt, does.events]
    cases effect.update <;> rfl

/-- Openings do the same to a document if what they are to do is the same. The build that is
kept is that of the document, so it needs no law of its own. -/
theorem openedAlike_of_alike {holder newcomer : String} {mine theirs : Draft.Effect}
    {held joined : Workspace φ × Except Refusal Unit} (heldSound : held.1.registry.Sound)
    (joinedSound : joined.1.registry.Sound) (shown : before.Shows uri mine held)
    (shownToo : before.Shows uri theirs joined) (alike : mine.Alike draft holder newcomer theirs) :
    before.OpenedAlike draft uri holder newcomer held joined := by
  have text : (held.1.registry.draft? uri).map (·.text) =
      (joined.1.registry.draft? uri).map (·.text) := by
    rw [shown.text, shownToo.text, alike.text]
  have version : (held.1.registry.draft? uri).map (·.version) =
      (joined.1.registry.draft? uri).map (·.version) := by
    rw [shown.version, shownToo.version, alike.version]
  refine ⟨text, version, ?_, ?_, ?_, ?_⟩
  · rw [shown.author, shownToo.author]
    simpa only [Option.some.injEq] using alike.author
  · have builds : ∀ document : Option Draft,
        document.map (fun draft => (draft.version, Build.of uri draft.text)) =
          (document.map (·.version)).bind fun version =>
            (document.map (·.text)).map fun text => (version, Build.of uri text) := by
      intro document
      cases document <;> rfl
    rw [heldSound.built, joinedSound.built, builds, builds, text, version]
  · obtain ⟨update, told, toldToo⟩ := alike.update
    refine ⟨update.toList, ?_, ?_⟩
    · rw [shown.announced, told]
      cases update <;> rfl
    · rw [shownToo.announced, toldToo]
      cases update <;> rfl
  · rw [shown.answer, shownToo.answer, alike.answer]

end Workspace

namespace Desk

variable {φ : Type} [Files.Store φ]

section Held

variable {desk : Desk φ} {uri client : String}

/-- The address of a document that a client opens names a path. -/
theorem pathOf?_of_opens {move : Move φ}
    (visits : desk.visit? move = some ((uri, client), .opens)) :
    ∃ path, Address.pathOf? uri = some path := by
  revert visits
  cases move with
  | request request =>
    cases request with
    | openFor opening method =>
      simp only [visit?]
      split
      · rintro ⟨⟩
      · split
        · next opened =>
          rintro ⟨⟩
          exact Registry.pathOf?_of_openFor opened
        · split <;> rintro ⟨⟩
    | attach about name =>
      simp only [visit?]
      split
      · rintro ⟨⟩
      · split <;> rintro ⟨⟩
    | close about name | detach about name =>
      simp only [visit?]
      split <;> rintro ⟨⟩
    | _ => rintro ⟨⟩
  | _ => rintro ⟨⟩

/-- A client that holds a document after a move held it before, unless the move opened the
document for it. -/
theorem held_act (orderly : desk.workspace.Orderly) (seated : desk.roll.Seated) (move : Move φ)
    (held : (uri, client) ∈ (desk.act move).holds) :
    (uri, client) ∈ desk.holds ∨ desk.visit? move = some ((uri, client), .opens) := by
  have listed : (uri, client) ∈ (desk.roll.after (desk.visit? move)).holds := by
    rw [← roll_act orderly seated move]
    exact held
  cases visits : desk.visit? move with
  | none =>
    rw [visits] at listed
    exact .inl listed
  | some what =>
    obtain ⟨⟨about, name⟩, visit⟩ := what
    rw [visits] at listed
    cases visit with
    | opens =>
      rcases List.mem_cons.mp listed with same | before
      · cases same
        exact .inr rfl
      · exact .inl before
    | refused => exact .inl listed
    | attaches => exact .inl listed
    | closes => exact .inl (List.mem_filter.mp listed).1
    | detaches =>
      unfold Roll.after Roll.visit at listed
      simp only at listed
      split at listed
      · exact .inl listed
      · exact .inl listed

/-- The address of a document that a client holds names a path. -/
theorem pathOf?_of_held (names : Nat → String) (files : φ) (settings : Settings)
    (moves : List (Move φ))
    (held : (uri, client) ∈ ((createNaming names files settings).after moves).holds) :
    ∃ path, Address.pathOf? uri = some path := by
  induction moves using List.reverseRecOn with
  | nil => exact nomatch held
  | append_singleton moves last inductionHypothesis =>
    have attended : Attended uri client ((createNaming names files settings).after moves) :=
      (sways_agrees uri client).invariant_foldl (attended_create names files settings uri client)
        moves
    rw [after, List.foldl_append, List.foldl_cons, List.foldl_nil] at held
    rcases held_act attended.orderly attended.seated last held with before | opens
    · exact inductionHypothesis before
    · exact pathOf?_of_opens opens

end Held

section Openings

variable {desk : Desk φ} {draft : Draft} {opening : Registry.Opening}

omit [Files.Store φ] in
theorem answer_report {α : Type} (desk : Desk φ) (uri client : String)
    (outcome : Workspace φ × Except Registry.Failure α) :
    (desk.report .registry uri client outcome).2.map (fun _ => ()) = Refusal.answer outcome.2 := by
  obtain ⟨workspace, result⟩ := outcome
  cases result <;> rfl

/-- A client that holds a document has its text recorded. -/
theorem shows_refresh (orderly : desk.workspace.Orderly)
    (held : (opening.uri, opening.client) ∈ desk.holds)
    (found : desk.workspace.registry.draft? opening.uri = some draft) (method : Method) :
    desk.workspace.Shows opening.uri (draft.refreshedBy opening desk.workspace.timestamp)
      ((desk.openFor opening method).1.workspace,
        (desk.openFor opening method).2.map fun _ => ()) := by
  unfold openFor
  rw [if_pos held]
  unfold refresh Draft.refreshedBy
  cases opening.text with
  | none =>
    exact ⟨congrArg (Option.map (·.text)) found, congrArg (Option.map (·.version)) found,
      congrArg (Option.map (·.author)) found, rfl, rfl⟩
  | some text =>
    have does : (desk.workspace.registry.update opening.uri
        (opening.version.getD draft.nextVersion) text opening.client
        desk.workspace.timestamp).Does opening.uri
          (draft.recorded (opening.version.getD draft.nextVersion) text opening.client
            desk.workspace.timestamp) := by
      simp only [Registry.update, found]
      exact Registry.does_revise (orderly.sound.named opening.uri draft found) found
    simp only [workspace_report, answer_report, found, Option.map_some, Option.getD_some]
    exact Workspace.shows_adopt orderly.numbered does

/-- A client that joins the holders of a document has its text recorded if it is another. -/
theorem shows_openFor {workspace : Workspace φ} {path : String} (orderly : workspace.Orderly)
    (opening : Registry.Opening) (named : Address.pathOf? opening.uri = some path)
    (found : workspace.registry.draft? opening.uri = some draft) :
    workspace.Shows opening.uri (draft.joinedBy opening workspace.timestamp)
      ((workspace.openFor opening).1, Refusal.answer (workspace.openFor opening).2) := by
  apply Workspace.shows_adopt orderly.numbered
  rw [Registry.openFor_eq_join named found]
  exact Registry.does_join (orderly.sound.named opening.uri draft found)

end Openings

/-- Whatever happened to a desk before: a client that holds a document and opens it again does
the same to it as one that joins its holders with the same opening, exactly if the opening
does not bring the text that the document has.

Proof: each opening is told by one function of the draft and the opening: the one records the text
that it brings, the other does so only if it is another text. The two functions agree, but for the
name of the client, exactly for a text that is another one, or none. -/
theorem opened_alike_iff (names : Nat → String) (files : φ) (settings : Settings)
    (moves : List (Move φ)) (opening : Registry.Opening) (method : Method) (newcomer : String)
    (draft : Draft)
    (held : (opening.uri, opening.client) ∈
      ((createNaming names files settings).after moves).holds)
    (found : ((createNaming names files settings).after moves).workspace.registry.draft?
      opening.uri = some draft) :
    let desk := (createNaming names files settings).after moves
    let refreshed := desk.openFor opening method
    let joined := desk.workspace.openFor { opening with client := newcomer }
    desk.workspace.OpenedAlike draft opening.uri opening.client newcomer
        (refreshed.1.workspace, refreshed.2.map fun _ => ())
        (joined.1, Refusal.answer joined.2) ↔
      opening.text ≠ some draft.text := by
  intro desk refreshed joined
  have orderly : desk.workspace.Orderly :=
    (makes_after _ moves).orderly (Workspace.orderly_create files settings)
  obtain ⟨path, named⟩ := pathOf?_of_held names files settings moves held
  have shown : desk.workspace.Shows opening.uri
      (draft.refreshedBy opening desk.workspace.timestamp)
      (refreshed.1.workspace, refreshed.2.map fun _ => ()) :=
    shows_refresh orderly held found method
  have shownToo : desk.workspace.Shows opening.uri
      (draft.joinedBy { opening with client := newcomer } desk.workspace.timestamp)
      (joined.1, Refusal.answer joined.2) :=
    shows_openFor orderly { opening with client := newcomer } named found
  by_cases same : opening.text = some draft.text
  · refine iff_of_false ?_ (not_not_intro same)
    intro alike
    have effect : draft.joinedBy { opening with client := newcomer } desk.workspace.timestamp =
        draft.kept := if_pos same
    have version := alike.version
    have answer := alike.answer
    rw [shown.version, shownToo.version, effect, Option.some.injEq] at version
    rw [shown.answer, shownToo.answer, effect] at answer
    simp only [Draft.refreshedBy, same] at version answer
    exact draft.recorded_unlike_kept _ _ _ _ version answer
  · refine iff_of_true ?_ same
    have effect : draft.joinedBy { opening with client := newcomer } desk.workspace.timestamp =
        draft.refreshedBy { opening with client := newcomer } desk.workspace.timestamp :=
      if_neg same
    rw [effect] at shownToo
    exact Workspace.openedAlike_of_alike
      ((proceeds_openFor desk opening method).makes.orderly orderly).sound
      ((Makes.one desk.workspace (.openFor { opening with client := newcomer })).orderly
        orderly).sound
      shown shownToo (draft.refreshedBy_alike opening newcomer desk.workspace.timestamp)

/-- A client that opens a document with a text. -/
def openingOf (text : String) : Registry.Opening := ⟨"file:///a.wf", "c1", none, none, some text⟩

/-- The desk on which a client has opened a document. -/
def openedDesk : Desk Files.Memory :=
  (create Files.Memory.empty .usual).after [.request (.openFor (openingOf "workflow:\n") .text)]

/-- The document that the client has opened. -/
def openedByHolder : Draft :=
  ⟨"file:///a.wf", "workflow", "workflow:\n", 0, "c1", NameSet.empty.insert "c1"⟩

/-- With another text it makes no difference whether a client holds the document. -/
theorem other_text_opened_alike :
    openedDesk.workspace.OpenedAlike openedByHolder "file:///a.wf" "c1" "c2"
      ((openedDesk.openFor (openingOf "workflow:\n  name: a\n") .text).1.workspace,
        (openedDesk.openFor (openingOf "workflow:\n  name: a\n") .text).2.map fun _ => ())
      ((openedDesk.workspace.openFor
          { openingOf "workflow:\n  name: a\n" with client := "c2" }).1,
        Refusal.answer (openedDesk.workspace.openFor
          { openingOf "workflow:\n  name: a\n" with client := "c2" }).2) :=
  (opened_alike_iff givenName Files.Memory.empty .usual
    [.request (.openFor (openingOf "workflow:\n") .text)] (openingOf "workflow:\n  name: a\n")
    .text "c2" openedByHolder (by decide +kernel) (by decide +kernel)).mpr (by decide +kernel)

/-- The text that the document has is recorded once more for a client that holds it, and not
for one that joins it. -/
theorem same_text_recorded_for_holder :
    let held := openedDesk.openFor (openingOf "workflow:\n") .text
    let joined := openedDesk.workspace.openFor { openingOf "workflow:\n" with client := "c2" }
    ("file:///a.wf", "c1") ∈ openedDesk.holds ∧
      openedDesk.workspace.registry.draft? "file:///a.wf" = some openedByHolder ∧
      "c2" ∉ openedDesk.workspace.registry.holders "file:///a.wf" ∧
      (held.1.workspace.registry.draft? "file:///a.wf").map (·.version) = some 1 ∧
      held.1.workspace.announced.length = 2 ∧
      (joined.1.registry.draft? "file:///a.wf").map (·.version) = some 0 ∧
      joined.1.announced.length = 1 ∧
      ¬openedDesk.workspace.OpenedAlike openedByHolder "file:///a.wf" "c1" "c2"
        (held.1.workspace, held.2.map fun _ => ()) (joined.1, Refusal.answer joined.2) := by
  intro held joined
  have version : (held.1.workspace.registry.draft? "file:///a.wf").map (·.version) = some 1 := by
    decide +kernel
  have joinedVersion : (joined.1.registry.draft? "file:///a.wf").map (·.version) = some 0 := by
    decide +kernel
  refine ⟨by decide +kernel, by decide +kernel, by decide +kernel, version, by decide +kernel,
    joinedVersion, by decide +kernel, ?_⟩
  intro alike
  have same := alike.version
  rw [version, joinedVersion] at same
  exact absurd same (by decide)

end Desk

end Flowdesk
