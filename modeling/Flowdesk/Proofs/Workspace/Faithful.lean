import Flowdesk.Proofs.Sync.Judgement
import Flowdesk.Proofs.Workspace.Course

/-!
# Documents that stay registered

A document may be closed by its last client and opened again later, at any version and with
any text, while its course still remembers the revisions of before. As long as a document is
registered whenever its course knows of a revision, this does not happen: then no version
that is known is ahead of the document, and at the version of the document what is accepted
has its text. So the document as it is can raise no conflict when it is judged.

The documents in between the acts of a move are not looked at. A move changes documents in
one act at most, so a document that is registered before and after it was so all along.
-/

namespace Flowdesk

open Data Sync Workflow

namespace Sync.Course

/-- A revision that agrees with what is accepted at its version raises no conflict. -/
theorem judge_calm {course : Course} (uri : String) {revision : Revision}
    (agrees : ∀ ours, course.accepted = some ours → ours.version = revision.claimed →
      ours.checksum = some revision.checksum) (conflict : Conflict) :
    course.judge uri revision ≠ .conflict conflict := by
  cases is : course.accepted with
  | none =>
    rw [judge_first is]
    exact Observation.noConfusion
  | some ours =>
    let theirs := course.snapshot revision revision.claimed
    have calm : detectConflict uri ours theirs = none := by
      by_cases level : ours.version = theirs.version
      · have content : sameContent? ours theirs = some true := by
          simp [sameContent?, agrees ours is level, theirs, snapshot]
        have standing := compareVersions_of_eq level
        rw [if_pos content] at standing
        simp only [detectConflict, standing]
      · by_cases newer : ours.version < theirs.version
        · simp only [detectConflict, compareVersions_of_lt newer]
        · have older : theirs.version < ours.version :=
            UInt64.lt_of_le_of_ne (UInt64.not_lt.mp newer) fun same => level same.symm
          simp only [detectConflict, compareVersions_of_gt older]
    simp only [judge, is]
    rw [calm]
    cases compareVersions ours theirs <;> exact Observation.noConfusion

/-- Nor does it when it is judged anew or was just judged so. -/
theorem observe_calm {course : Course} (uri : String) {revision : Revision}
    (agrees : ∀ ours, course.accepted = some ours → ours.version = revision.claimed →
      ours.checksum = some revision.checksum) (anew : course.judged = none) (conflict : Conflict) :
    (course.observe uri revision).1 ≠ .conflict conflict := by
  have unseen : course.seen? revision = none := by
    rw [seen?, anew]
    rfl
  rw [observe_unseen unseen]
  exact judge_calm uri agrees conflict

end Sync.Course

namespace Workspace

variable {φ : Type}

/-- Whether a document is open. -/
def Registered (workspace : Workspace φ) (uri : String) : Prop :=
  ∃ draft, workspace.registry.draft? uri = some draft

/-- Whether what is known of a document is true of it: no version is ahead of it, and what is
accepted at its version has its text. -/
structure Faithful (workspace : Workspace φ) (uri : String) : Prop where
  abreast : workspace.Abreast uri
  content : ∀ draft snapshot, workspace.registry.draft? uri = some draft →
    workspace.accepted uri = some snapshot → snapshot.version = draft.version →
      snapshot.checksum = some (checksum draft.text)

section Acts

variable {may : Licence → Prop} {stage : Stage} {before after : Workspace φ} {uri : String}

/-- A document that is open before and after an act becomes no earlier by it. -/
theorem Act.later (act : Act may stage before after) (orderly : before.Orderly) {draft next : Draft}
    (found : before.registry.draft? uri = some draft)
    (reached : after.registry.draft? uri = some next) : draft.Later next := by
  have same : after.registry.draft? uri = before.registry.draft? uri → draft.Later next := by
    intro same
    obtain rfl := Option.some.inj (found.symm.trans (same.symm.trans reached))
    exact .refl _
  by_cases still : stage = .write
  · cases act with
    | adopted _ clock changed leaver outcome turns _ =>
      obtain ⟨registry, _⟩ := adopt_frame orderly.numbered clock turns.once
      rw [registry] at reached same
      by_cases about : changed = uri
      · subst about
        exact turns.turns.later turns.once found reached
      · exact same (turns.elsewhere uri about)
    | noted _ _ _ alike => exact same (congrArg (Registry.draft? · uri) alike.registry)
    | judged | accepted | shown | enrolled => exact nomatch still
    | _ => exact same rfl
  · exact same (act.draft?_eq still uri)

/-- What is known of a document stays true of it in an act that leaves it open. -/
theorem Act.faithful (act : Act may stage before after) (orderly : before.Orderly)
    (stands : before.Registered uri → after.Registered uri) (faithful : before.Faithful uri) :
    after.Faithful uri := by
  constructor
  · refine act.abreast orderly ?_ faithful.abreast
    intro draft found
    obtain ⟨next, reached⟩ := stands ⟨draft, found⟩
    exact ⟨next, reached, act.later orderly found reached⟩
  · intro next snapshot reached is level
    rcases (act.learns orderly).accepted snapshot is with was | ⟨current, found, _, content⟩
    · obtain ⟨draft, found, bound⟩ := faithful.abreast snapshot.version (.accepted snapshot was)
      have later := act.later orderly found reached
      have back : next.version = draft.version :=
        UInt64.le_antisymm (level ▸ bound) later.version
      rw [(later.same back).1]
      exact faithful.content draft snapshot found was (level.trans back)
    · obtain rfl := Option.some.inj (found.symm.trans reached)
      exact content

/-- So it does in whatever happens at once, if the document is open afterwards or nothing is
known of it then. -/
theorem Happens.faithful (happens : Happens may before after) (orderly : before.Orderly)
    (stands : ∀ version, (after.course uri).Knows version → after.Registered uri)
    (faithful : before.Faithful uri) : after.Faithful uri := by
  by_cases open' : after.Registered uri
  swap
  · constructor
    · exact fun version knows => absurd (stands version knows) open'
    · exact fun draft _ found => absurd ⟨draft, found⟩ open'
  have kept : ∀ {stage : Stage} {first last : Workspace φ}, stage ≠ .write → first.Orderly →
      Acts may stage first last →
        (last.Registered uri ↔ first.Registered uri) ∧
          (first.Faithful uri → last.Faithful uri) := by
    intro stage first last still settled acts
    induction acts with
    | refl => exact ⟨Iff.rfl, id⟩
    | @tail between last earlier act inductionHypothesis =>
      have same := act.draft?_eq still uri
      have alike : last.Registered uri ↔ between.Registered uri := by
        simp only [Registered, same]
      exact ⟨alike.trans inductionHypothesis.1, fun known =>
        act.faithful (Acts.orderly earlier settled) alike.mpr (inductionHypothesis.2 known)⟩
  cases happens with
  | telling ready prepared told =>
    have settled := Acts.orderly prepared orderly
    exact (kept Stage.noConfusion settled told).2
      ((kept Stage.noConfusion orderly prepared).2 faithful)
  | writing ready written prepared write told =>
    have settled := Acts.orderly prepared orderly
    obtain ⟨alike, tell⟩ := kept Stage.noConfusion (write.orderly settled) told
    exact tell (write.faithful settled (fun _ => alike.mp open')
      ((kept Stage.noConfusion orderly prepared).2 faithful))

end Acts

/-- Whether a document is registered, throughout moves, whenever its course knows of a
revision: it has stayed so ever since one was observed, or accepted, for the first time. -/
abbrev StaysRegistered [Files.Store φ] (uri : String) : Workspace φ → List (Move φ) → Prop :=
  Throughout fun workspace move => ∀ version, ((workspace.act move).course uri).Knows version →
    (workspace.act move).Registered uri

/-- A document that is open after every one of some moves stays registered. -/
theorem staysRegistered_of_open [Files.Store φ] {uri : String} {workspace : Workspace φ}
    {moves : List (Move φ)} (opened : Throughout (fun workspace move =>
      ((workspace.act move).registry.draft? uri).isSome) workspace moves) :
    StaysRegistered uri workspace moves := by
  induction moves generalizing workspace with
  | nil => trivial
  | cons move moves inductionHypothesis =>
    obtain ⟨first, rest⟩ := opened
    exact ⟨fun _ _ => Option.isSome_iff_exists.mp first, inductionHypothesis rest⟩

/-- What is known of a document that stays registered is true of it. -/
theorem faithful_after [Files.Store φ] (files : φ) (settings : Settings) {uri : String}
    {moves : List (Move φ)} (stays : StaysRegistered uri (create files settings) moves) :
    ((create files settings).after moves).Faithful uri := by
  have orderly := orderly_create files settings
  refine stays.keep orderly (·.Faithful uri) ?_ ?_
  · intro workspace move settled stands faithful
    exact (act_happens settled move).faithful settled stands faithful
  · exact ⟨abreast_create files settings uri, fun _ _ found => nomatch found⟩

end Workspace

end Flowdesk
