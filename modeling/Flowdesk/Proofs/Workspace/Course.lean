import Flowdesk.Proofs.Sync.Course
import Flowdesk.Proofs.Workspace.Move
import Flowdesk.Proofs.Workspace.Showing

/-!
# What acts do to the course of a document

As long as nobody who takes part in the syncs of a document leaves, the revision that
is accepted for it is never ahead of the document, and whenever another revision is
accepted it is the one at which the document stands. Its conflicts stay until they are
set aside.
-/

namespace Flowdesk

open Data Sync Workflow

namespace Workspace

variable {φ α : Type}

/-- The course of a document in a workspace. -/
def course (workspace : Workspace φ) (uri : String) : Course := workspace.coordinator.course uri

/-- The revision that is accepted for a document. -/
def accepted (workspace : Workspace φ) (uri : String) : Option Snapshot :=
  (workspace.course uri).accepted

/-- Whether the revision that is accepted for a document is the one it stands at. -/
def Level (workspace : Workspace φ) (uri : String) : Prop :=
  ∃ draft snapshot, workspace.registry.draft? uri = some draft ∧
    workspace.accepted uri = some snapshot ∧ snapshot.version = draft.version

/-- Whether a document is open at a version that no version known of it is ahead of. -/
def Abreast (workspace : Workspace φ) (uri : String) : Prop :=
  ∀ version, (workspace.course uri).Knows version →
    ∃ draft, workspace.registry.draft? uri = some draft ∧ version ≤ draft.version

/-- An adopted operation leaves the courses of all documents alone but that of the one it
is about. -/
theorem course_adopt_of_ne {workspace : Workspace φ} (numbered : workspace.Numbered) (clock : Clock)
    {changed : String} {leaver : Option String} {outcome : Registry.Outcome φ α}
    (turns : outcome.Turns workspace.registry changed leaver) {uri : String}
    (different : changed ≠ uri) :
    (workspace.adopt clock outcome).1.course uri = workspace.course uri := by
  obtain ⟨_, alike⟩ | ⟨update, single, heard⟩ := adopt_cases numbered clock turns.once
  · exact congrArg (Coordinator.course · uri) alike.coordinator
  · obtain ⟨about, _⟩ := turns.turns.announced single
    have coordinator := heard.coordinator
    split at coordinator
    · rw [course, coordinator, judgedBy, Coordinator.course_observe, about, if_neg different]
      rfl
    · exact congrArg (Coordinator.course · uri) coordinator

/-- What an adopted operation does to the course of a document: the update that
describes the document is judged, or nothing happens. -/
theorem course_adopt {workspace : Workspace φ} (numbered : workspace.Numbered) (clock : Clock)
    {changed : String} {leaver : Option String} {outcome : Registry.Outcome φ α}
    (turns : outcome.Turns workspace.registry changed leaver) (uri : String) :
    (workspace.adopt clock outcome).1.course uri = workspace.course uri ∨
      ∃ (update : Registry.Update) (draft : Draft),
        outcome.registry.draft? uri = some draft ∧ update.Describes draft ∧
        (workspace.adopt clock outcome).1.course uri =
          ((workspace.course uri).observe uri update.revision).2 := by
  by_cases same : changed = uri
  swap
  · exact .inl (course_adopt_of_ne numbered clock turns same)
  subst same
  obtain ⟨_, alike⟩ | ⟨update, single, heard⟩ := adopt_cases numbered clock turns.once
  · exact .inl (congrArg (Coordinator.course · changed) alike.coordinator)
  · obtain ⟨about, gone⟩ := turns.turns.announced single
    have coordinator := heard.coordinator
    split at coordinator
    · next concerned =>
      obtain ⟨session, _, standing, _⟩ := concerned
      obtain ⟨deleted, _⟩ | ⟨draft, open', describes⟩ := gone
      · exact absurd deleted standing
      · refine .inr ⟨update, draft, open', describes, ?_⟩
        rw [course, coordinator, judgedBy, Coordinator.course_observe, about, if_pos rfl]
        rfl
    · exact .inl (congrArg (Coordinator.course · changed) coordinator)

section Acts

variable {may : Licence → Prop} {stage : Stage} {before after : Workspace φ} {uri : String}

/-- What an act comes to for the course of a document. -/
inductive Steers (may : Licence → Prop) (stage : Stage) (uri : String)
    (before after : Workspace φ) : Prop where
  | kept (accepted : (after.course uri).accepted = (before.course uri).accepted)
      (judged : (after.course uri).judged = (before.course uri).judged)
      (conflicts : (after.course uri).status.conflicts = (before.course uri).status.conflicts)
  /-- A revision with the version and the content of the document is judged. -/
  | observed (draft : Draft) (revision : Revision) (late : stage ≠ .ready)
      (opened : after.registry.draft? uri = some draft)
      (version : revision.version = draft.version)
      (content : revision.checksum = checksum draft.text)
      (judged : after.course uri = ((before.course uri).observe uri revision).2)
  /-- The conflicts are set aside, and the text as it is may be accepted with that. -/
  | resolved (accepted : Option Revision) (allowed : may (.settle uri))
      (early : stage = .ready → accepted = none)
      (current : ∀ revision, accepted = some revision →
        ∃ draft, after.registry.draft? uri = some draft ∧ revision.version = draft.version ∧
          revision.checksum = checksum draft.text)
      (aside : after.course uri = (before.course uri).beginResolution accepted)
  | dropped (client : String) (allowed : may (.link uri client))
      (initial : after.course uri = .initial)

/-- What leaves a course as it is. -/
theorem steers_of_same (same : after.course uri = before.course uri) :
    Steers may stage uri before after := by
  apply Steers.kept
  all_goals rw [same]

/-- What is done to the course of one document, told of any. -/
theorem steers_of_written {other : String} {course : Course}
    (written : after.course uri = if other = uri then course else before.course uri)
    (here : other = uri → after.course uri = course → Steers may stage uri before after) :
    Steers may stage uri before after := by
  by_cases same : other = uri
  · exact here same (written.trans (if_pos same))
  · exact steers_of_same (written.trans (if_neg same))

/-- Every act comes to one of these for the course of a document. -/
theorem Act.steers (act : Act may stage before after) (orderly : before.Orderly) (uri : String) :
    Steers may stage uri before after := by
  cases act with
  | noted _ _ _ alike =>
    exact steers_of_same (congrArg (Coordinator.course · uri) alike.coordinator)
  | adopted _ clock changed leaver outcome turns _ =>
    obtain ⟨registry, _⟩ := adopt_frame orderly.numbered clock turns.once
    rcases course_adopt orderly.numbered clock turns uri with
      unchanged | ⟨update, draft, found, describes, judged⟩
    · exact steers_of_same unchanged
    · exact .observed draft update.revision Stage.noConfusion (registry ▸ found) describes.version
        describes.checksum judged
  | connected _ _ other client method =>
    obtain ⟨accepted, conflicts, judged⟩ :=
      Coordinator.connect_same before.coordinator other client method uri
    exact .kept accepted judged conflicts
  | enrolled _ other client _ =>
    obtain ⟨accepted, conflicts, judged⟩ :=
      Coordinator.connect_same before.coordinator other client .graphical uri
    exact .kept accepted judged conflicts
  | disconnected _ _ other client allowed =>
    by_cases is : other = uri
    · subst is
      have left := Coordinator.course_disconnect before.coordinator other client
      change (before.coordinate (·.disconnect other client)).course other = _ at left
      split at left
      · exact .dropped client allowed left
      · refine .kept ?_ ?_ ?_ <;> rw [left] <;> rfl
    · exact steers_of_same (Coordinator.course_disconnect_of_ne _ client is)
  | judged _ other draft found =>
    refine steers_of_written (Coordinator.course_observe _ other uri _) ?_
    rintro rfl judged
    exact .observed draft _ Stage.noConfusion found rfl rfl judged
  | settled _ _ other allowed =>
    refine steers_of_written (Coordinator.course_beginResolution _ other uri _) ?_
    rintro rfl aside
    exact .resolved none allowed (fun _ => rfl) (by simp) aside
  | accepted _ other draft found allowed =>
    refine steers_of_written (Coordinator.course_beginResolution _ other uri _) ?_
    rintro rfl aside
    refine .resolved (some (draft.current before.timestamp)) allowed ?_ ?_ aside
    · exact fun early => Stage.noConfusion early
    · rintro revision ⟨⟩
      exact ⟨draft, found, rfl, rfl⟩
  | started _ _ other coordinator free =>
    obtain ⟨accepted, conflicts, judged⟩ := Coordinator.start?_same free uri
    exact .kept accepted judged conflicts
  | finished _ _ other direction ending =>
    obtain ⟨accepted, conflicts, judged⟩ :=
      Coordinator.finish_same before.coordinator other direction ending before.timestamp uri
    exact .kept accepted judged conflicts
  | filed | shown | withdrawn | expired | ticksBegun | tickPlanned | taken | begun | moved =>
    exact steers_of_same rfl

/-- Getting ready leaves what is accepted for a document alone, if nobody leaves it. -/
theorem Act.accepted_eq (act : Act may .ready before after)
    (linked : ∀ client, ¬may (.link uri client)) (orderly : before.Orderly) :
    after.accepted uri = before.accepted uri := by
  cases act.steers orderly uri with
  | kept accepted => exact accepted
  | observed _ _ late => exact absurd rfl late
  | resolved _ _ early _ aside =>
    have taken := congrArg Course.accepted aside
    cases early rfl
    exact taken
  | dropped client allowed => exact absurd allowed (linked client)

/-- Whatever else is done leaves what is accepted alone or accepts the revision at which
the document stands, if nobody leaves it. -/
theorem Act.level (act : Act may stage before after) (linked : ∀ client, ¬may (.link uri client))
    (orderly : before.Orderly) :
    after.accepted uri = before.accepted uri ∨ after.Level uri := by
  cases act.steers orderly uri with
  | kept accepted => exact .inl accepted
  | observed draft revision _ opened version _ judged =>
    rcases (before.course uri).accepted_observe uri revision with kept | accepted
    · exact .inl ((congrArg Course.accepted judged).trans kept)
    · exact .inr ⟨draft, _, opened, (congrArg Course.accepted judged).trans accepted, version⟩
  | resolved accepted _ _ current aside =>
    have taken := congrArg Course.accepted aside
    cases accepted with
    | none => exact .inl taken
    | some revision =>
      obtain ⟨draft, opened, version, _⟩ := current revision rfl
      exact .inr ⟨draft, _, opened, taken, version⟩
  | dropped client allowed => exact absurd allowed (linked client)

/-- Whatever happens while nobody leaves a document leaves what is accepted for it alone,
or accepts the revision at which the document then stands. -/
theorem Happens.level (happens : Happens may before after)
    (linked : ∀ client, ¬may (.link uri client)) (orderly : before.Orderly) :
    after.accepted uri = before.accepted uri ∨ after.Level uri := by
  have prepare : ∀ ready, Acts may .ready before ready →
      ready.accepted uri = before.accepted uri := by
    intro ready prepared
    induction prepared with
    | refl => rfl
    | @tail between _ prepared last inductionHypothesis =>
      have known : between.Orderly := Acts.orderly prepared orderly
      exact (last.accepted_eq linked known).trans inductionHypothesis
  have tell : ∀ written final : Workspace φ, written.Orderly →
      written.accepted uri = before.accepted uri ∨ written.Level uri →
        Acts may .tell written final →
          final.accepted uri = before.accepted uri ∨ final.Level uri := by
    intro written final settled sofar told
    induction told with
    | refl => exact sofar
    | @tail between final told last inductionHypothesis =>
      have known : between.Orderly := Acts.orderly told settled
      rcases last.level linked known with same | level
      · refine inductionHypothesis.imp same.trans ?_
        rintro ⟨draft, snapshot, found, accepted, version⟩
        exact ⟨draft, snapshot, (last.draft?_eq Stage.noConfusion uri).trans found,
          same.trans accepted, version⟩
      · exact .inr level
  cases happens with
  | telling ready prepared told =>
    exact tell ready after (Acts.orderly prepared orderly) (.inl (prepare ready prepared)) told
  | writing ready written prepared write told =>
    have settled : ready.Orderly := Acts.orderly prepared orderly
    refine tell written after (write.orderly settled) ?_ told
    rw [← prepare ready prepared]
    exact write.level linked settled

/-- A conflict stays while nobody leaves the document or sets its conflicts aside. -/
theorem Act.hasConflict (act : Act may stage before after)
    (linked : ∀ client, ¬may (.link uri client)) (unsettled : ¬may (.settle uri))
    (orderly : before.Orderly) (conflicted : before.coordinator.hasConflict uri = true) :
    after.coordinator.hasConflict uri = true := by
  change (before.course uri).status.hasConflicts = true at conflicted
  change (after.course uri).status.hasConflicts = true
  cases act.steers orderly uri with
  | kept _ _ conflicts =>
    rw [Status.hasConflicts, conflicts]
    exact conflicted
  | observed _ revision _ _ _ _ judged =>
    rw [judged]
    exact Course.conflicts_observe _ uri revision conflicted
  | resolved _ allowed => exact absurd allowed unsettled
  | dropped client allowed => exact absurd allowed (linked client)

/-- What the course of a document comes to know: nothing, but for the revision at which the
document stands then. -/
structure Learns (before after : Workspace φ) (uri : String) : Prop where
  knows : ∀ version, (after.course uri).Knows version → (before.course uri).Knows version ∨
    ∃ draft, after.registry.draft? uri = some draft ∧ version = draft.version
  accepted : ∀ snapshot, after.accepted uri = some snapshot →
    before.accepted uri = some snapshot ∨
      ∃ draft, after.registry.draft? uri = some draft ∧ snapshot.version = draft.version ∧
        snapshot.checksum = some (checksum draft.text)

theorem learns_of_same (accepted : (after.course uri).accepted = (before.course uri).accepted)
    (judged : (after.course uri).judged = (before.course uri).judged) :
    Learns before after uri where
  knows := fun _ knows => .inl (knows.congr accepted judged)
  accepted := fun _ is => .inl (accepted.symm.trans is)

/-- A course that is dropped knows nothing. -/
theorem learns_of_dropped (dropped : after.course uri = .initial) : Learns before after uri where
  knows := by
    intro version knows
    rw [dropped] at knows
    cases knows with
    | accepted snapshot is => exact nomatch is
    | judged judged was => exact nomatch was
  accepted := by
    intro snapshot is
    rw [Workspace.accepted, dropped] at is
    exact nomatch is

/-- A judgement makes the judged revision known. -/
theorem learns_of_observed {revision : Revision} {draft : Draft}
    (judged : after.course uri = ((before.course uri).observe uri revision).2)
    (found : after.registry.draft? uri = some draft) (version : revision.version = draft.version)
    (content : revision.checksum = checksum draft.text) : Learns before after uri where
  knows := by
    intro known knows
    rw [judged] at knows
    refine (Course.knows_of_observe knows).imp id fun is => ?_
    exact ⟨draft, found, is.trans version⟩
  accepted := by
    intro snapshot is
    rw [Workspace.accepted, judged] at is
    rcases (before.course uri).accepted_observe uri revision with kept | accepted
    · exact .inl (kept.symm.trans is)
    · cases accepted.symm.trans is
      exact .inr ⟨draft, found, version, congrArg some content⟩

/-- Setting conflicts aside makes nothing known but the revision that is accepted with it. -/
theorem learns_of_resolved {accepted : Option Revision}
    (resolved : after.course uri = (before.course uri).beginResolution accepted)
    (current : ∀ revision, accepted = some revision →
      ∃ draft, after.registry.draft? uri = some draft ∧ revision.version = draft.version ∧
        revision.checksum = checksum draft.text) : Learns before after uri where
  knows := by
    intro known knows
    rw [resolved] at knows
    refine (Course.knows_of_beginResolution knows).imp id ?_
    rintro ⟨revision, taken, is⟩
    obtain ⟨draft, found, version, _⟩ := current revision taken
    exact ⟨draft, found, is.trans version⟩
  accepted := by
    intro snapshot is
    rw [Workspace.accepted, resolved] at is
    cases accepted with
    | none => exact .inl is
    | some revision =>
      obtain ⟨draft, found, version, content⟩ := current revision rfl
      cases is
      exact .inr ⟨draft, found, version, congrArg some content⟩

/-- By no act more is learnt of a document. -/
theorem Act.learns (act : Act may stage before after) (orderly : before.Orderly) :
    Learns before after uri := by
  cases act.steers orderly uri with
  | kept accepted judged => exact learns_of_same accepted judged
  | observed _ _ _ opened version content judged =>
    exact learns_of_observed judged opened version content
  | resolved _ _ _ current aside => exact learns_of_resolved aside current
  | dropped _ _ initial => exact learns_of_dropped initial

/-- While a document stays open, no version known of it gets ahead. -/
theorem Act.abreast (act : Act may stage before after) (orderly : before.Orderly)
    (lasts : ∀ draft, before.registry.draft? uri = some draft →
      ∃ next, after.registry.draft? uri = some next ∧ draft.Later next)
    (abreast : before.Abreast uri) : after.Abreast uri := by
  intro version knows
  rcases (act.learns orderly).knows version knows with known | ⟨draft, found, same⟩
  · obtain ⟨draft, found, bound⟩ := abreast version known
    obtain ⟨next, reached, later⟩ := lasts draft found
    exact ⟨next, reached, UInt64.le_trans bound later.version⟩
  · exact ⟨draft, found, UInt64.le_of_eq same⟩

end Acts

theorem abreast_create (files : φ) (settings : Settings) (uri : String) :
    (create files settings).Abreast uri := by
  intro version knows
  cases knows with
  | accepted snapshot is => exact nomatch is
  | judged judged was => exact nomatch was

/-- While nobody leaves a document, its course knows of no version that is ahead of it. -/
theorem abreast_after [Files.Store φ] {workspace : Workspace φ} (orderly : workspace.Orderly)
    {uri : String} (abreast : workspace.Abreast uri) {moves : List (Move φ)}
    (stay : NobodyLeaves uri workspace moves) : (workspace.after moves).Abreast uri := by
  refine stay.keep orderly (·.Abreast uri) ?_ abreast
  intro workspace move settled stays still
  refine (act_happens settled move).keep_orderly settled (·.Abreast uri) ?_ still
  intro stage before after inOrder level act
  refine act.abreast inOrder ?_ level
  intro draft found
  obtain ⟨client, member⟩ := Registry.exists_mem (inOrder.sound.held uri draft found)
  obtain ⟨next, reached, _, later⟩ := act.holds inOrder (stays client).1 found member
  exact ⟨next, reached, later⟩

end Workspace

end Flowdesk
