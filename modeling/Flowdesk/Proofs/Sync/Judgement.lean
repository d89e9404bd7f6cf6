import Flowdesk.Proofs.Sync.Touch
import Mathlib.Data.List.Induction

/-!
# How revisions are judged

A revision is judged by the version that its client claimed, against the version that
was accepted last, and at the same version by the checksums. The timestamps never
matter: whatever is accepted carries a checksum, so the contents of two revisions of
one version are always known to be the same or not. A revision that repeats the last
one observed since the conflicts were set aside is not judged again.
-/

namespace Flowdesk.Sync

open Data

/-- Whether a conflict is one of different contents under the same version. -/
structure Conflict.OfContent (conflict : Conflict) : Prop where
  kind : conflict.kind = .dataInconsistency
  versions : conflict.localVersion = conflict.remoteVersion

/-- What is accepted carries a checksum, and every conflict that is recorded or
remembered is one of contents. -/
structure Course.Informed (course : Course) : Prop where
  checksummed : ∀ snapshot, course.accepted = some snapshot →
    ∃ checksum, snapshot.checksum = some checksum
  recorded : ∀ conflict ∈ course.status.conflicts, conflict.OfContent
  remembered : ∀ judged, course.judged = some judged →
    ∀ conflict, judged.observation = .conflict conflict → conflict.OfContent

/-- The judgement of a revision against the last accepted one. -/
inductive Judges (ours : Snapshot) (revision : Revision) : Observation → Prop where
  | advanced (newer : ours.version < revision.claimed) : Judges ours revision .advanced
  | keepLocal (older : revision.claimed < ours.version) : Judges ours revision .keepLocal
  | inSync (level : revision.claimed = ours.version)
      (same : ours.checksum = some revision.checksum) : Judges ours revision .inSync
  | conflict (conflict : Conflict) (level : revision.claimed = ours.version)
      (different : ours.checksum ≠ some revision.checksum) (content : conflict.OfContent) :
      Judges ours revision (.conflict conflict)

namespace Course

section Judge

variable {course : Course} {uri : String} {revision : Revision}

/-- The judgement goes by the claimed version, and then by the checksum. No case is left
for the timestamps, since both checksums are known. -/
theorem judge_judges (uri : String) (revision : Revision) {ours : Snapshot} {checksum : String}
    (is : course.accepted = some ours) (known : ours.checksum = some checksum) :
    Judges ours revision (course.judge uri revision) := by
  have compared : sameContent? ours (course.snapshot revision revision.claimed) =
      some (decide (checksum = revision.checksum)) := by
    unfold sameContent?
    rw [known]
    rfl
  have content : ours.checksum = some revision.checksum ↔ checksum = revision.checksum := by
    rw [known, Option.some.injEq]
  unfold judge
  rw [is]
  by_cases newer : ours.version < revision.claimed
  · have standing : compareVersions ours (course.snapshot revision revision.claimed) =
        .remoteNewer := compareVersions_of_lt newer
    simp only [detectConflict, standing]
    exact .advanced newer
  by_cases older : revision.claimed < ours.version
  · have standing : compareVersions ours (course.snapshot revision revision.claimed) =
        .localNewer := compareVersions_of_gt older
    simp only [detectConflict, standing]
    exact .keepLocal older
  have level : ours.version = (course.snapshot revision revision.claimed).version :=
    UInt64.le_antisymm (UInt64.not_lt.mp older) (UInt64.not_lt.mp newer)
  have standing := compareVersions_of_eq level
  by_cases same : checksum = revision.checksum
  · rw [compared, decide_eq_true same, if_pos rfl] at standing
    simp only [detectConflict, standing]
    exact .inSync level.symm (content.mpr same)
  · rw [decide_eq_false same] at compared
    rw [compared, if_neg (by simp)] at standing
    simp only [detectConflict, standing, compared, if_true]
    exact .conflict _ level.symm (fun equal => same (content.mp equal)) ⟨rfl, level⟩

/-- Where nothing was accepted yet, every revision is. -/
theorem judge_first (unknown : course.accepted = none) :
    course.judge uri revision = .advanced := by
  unfold judge
  rw [unknown]

/-- What is remembered of a repeated revision. -/
theorem judged_of_seen? {observation : Observation}
    (seen : course.seen? revision = some observation) :
    ∃ judged, course.judged = some judged ∧ judged.version = revision.version ∧
      judged.checksum = revision.checksum ∧ judged.observation = observation := by
  obtain ⟨judged, found, same⟩ := Option.map_eq_some_iff.mp seen
  obtain ⟨was, repeats⟩ := Option.filter_eq_some_iff.mp found
  have repeats : judged.version = revision.version ∧ judged.checksum = revision.checksum :=
    of_decide_eq_true repeats
  exact ⟨judged, was, repeats.1, repeats.2, same⟩

/-- The answer to any revision is a conflict of contents, if it is a conflict. -/
theorem Informed.answer (informed : course.Informed) {conflict : Conflict}
    (answer : (course.observe uri revision).1 = .conflict conflict) : conflict.OfContent := by
  cases seen : course.seen? revision with
  | some observation =>
    rw [observe_seen seen] at answer
    obtain ⟨judged, was, _, _, told⟩ := judged_of_seen? seen
    exact informed.remembered judged was conflict (told.trans answer)
  | none =>
    rw [observe_unseen seen] at answer
    change course.judge uri revision = .conflict conflict at answer
    cases is : course.accepted with
    | none => exact nomatch (judge_first is).symm.trans answer
    | some ours =>
      obtain ⟨checksum, known⟩ := informed.checksummed ours is
      have judges := judge_judges uri revision is known
      rw [answer] at judges
      cases judges with
      | conflict _ _ _ content => exact content

end Judge

theorem informed_initial : Course.initial.Informed where
  checksummed := fun _ is => nomatch is
  recorded := fun _ member => nomatch member
  remembered := fun _ was => nomatch was

/-- What is accepted, judged and in conflict is all that matters. -/
theorem Informed.congr {course other : Course} (informed : course.Informed)
    (accepted : other.accepted = course.accepted)
    (conflicts : other.status.conflicts = course.status.conflicts)
    (judged : other.judged = course.judged) : other.Informed where
  checksummed := fun snapshot is => informed.checksummed snapshot (accepted ▸ is)
  recorded := fun conflict member => informed.recorded conflict (conflicts ▸ member)
  remembered := fun last was => informed.remembered last (judged ▸ was)

/-- A judgement keeps the course informed: what it accepts comes with its checksum. -/
theorem Informed.observe {course : Course} (informed : course.Informed) (uri : String)
    (revision : Revision) : (course.observe uri revision).2.Informed := by
  cases seen : course.seen? revision with
  | some observation =>
    rw [observe_seen seen]
    exact informed
  | none =>
    have answered {conflict : Conflict} (judged : course.judge uri revision = .conflict conflict) :
        conflict.OfContent :=
      informed.answer (by rw [observe_unseen seen]; exact judged)
    rw [observe_unseen seen]
    unfold record
    constructor
    · intro snapshot is
      rcases course.accepted_observe uri revision with kept | accepted
      · rw [observe_unseen seen] at kept
        exact informed.checksummed snapshot (kept ▸ is)
      · rw [observe_unseen seen] at accepted
        obtain rfl := Option.some.inj (accepted.symm.trans is)
        exact ⟨revision.checksum, rfl⟩
    · intro conflict member
      cases judged : course.judge uri revision with
      | conflict found =>
        simp only [judged] at member
        rcases List.mem_append.mp member with old | new
        · exact informed.recorded conflict old
        · exact List.mem_singleton.mp new ▸ answered judged
      | inSync | advanced | keepLocal =>
        simp only [judged] at member
        exact informed.recorded conflict member
    · intro last was conflict told
      obtain rfl := Option.some.inj was
      exact answered told

/-- An accepted revision comes with its checksum when conflicts are set aside, too. -/
theorem Informed.beginResolution {course : Course} (informed : course.Informed)
    (accepted : Option Revision) : (course.beginResolution accepted).Informed where
  checksummed := by
    intro snapshot is
    cases accepted with
    | none => exact informed.checksummed snapshot is
    | some revision =>
      obtain rfl := Option.some.inj is
      exact ⟨revision.checksum, rfl⟩
  recorded := fun _ member => nomatch member
  remembered := fun _ was => nomatch was

end Course

namespace Timeline

/-- Every touch keeps a course informed. -/
theorem informed_touched {timeline : Timeline} {uri : String} {move : Move} {course : Course}
    (informed : (timeline.course uri).Informed) (touches : timeline.Touches uri move course) :
    course.Informed := by
  cases touches with
  | spared => exact informed
  | dropped => exact Course.informed_initial
  | judged revision => exact informed.observe uri revision
  | resolved accepted => exact informed.beginResolution accepted
  | joined | left | released => exact informed.congr rfl rfl rfl
  | begun _ _ _ _ _ _ _ started =>
    rw [(Course.start?_eq_some started).2]
    exact informed.congr rfl rfl rfl
  | ended _ _ _ _ ending => cases ending <;> exact informed.congr rfl rfl rfl

/-- The revision of a document that was observed last since its conflicts were last set
aside. -/
def lastObserved (uri : String) (moves : List Move) : Option Revision :=
  moves.foldl (fun last move =>
    match move with
    | .observe about revision => if about = uri then some revision else last
    | .beginResolution about _ => if about = uri then none else last
    | _ => last) none

/-- Whether a revision repeats the one that was observed last: it has the same version
and the same checksum. -/
def Repeats (uri : String) (moves : List Move) (revision : Revision) : Prop :=
  ∃ last, lastObserved uri moves = some last ∧ last.version = revision.version ∧
    last.checksum = revision.checksum

/-- What is remembered as judged is the version and checksum observed last. -/
def Remembers (last : Option Revision) (course : Course) : Prop :=
  ∀ judged, course.judged = some judged →
    ∃ revision, last = some revision ∧ judged.version = revision.version ∧
      judged.checksum = revision.checksum

theorem lastObserved_snoc (uri : String) (moves : List Move) (move : Move) :
    lastObserved uri (moves ++ [move]) =
      match move with
      | .observe about revision => if about = uri then some revision else lastObserved uri moves
      | .beginResolution about _ => if about = uri then none else lastObserved uri moves
      | _ => lastObserved uri moves := by
  unfold lastObserved
  rw [List.foldl_append]
  rfl

/-- What was observed last of a document depends on the moves about it. -/
theorem lastObserved_elsewhere {uri : String} (moves : List Move) {move : Move}
    (elsewhere : move.about? ≠ some uri) :
    lastObserved uri (moves ++ [move]) = lastObserved uri moves := by
  rw [lastObserved_snoc]
  cases move with
  | observe about revision => exact if_neg fun here => elsewhere (congrArg some here)
  | beginResolution about accepted => exact if_neg fun here => elsewhere (congrArg some here)
  | connect | disconnect | ask | abandon | work | wait => rfl

/-- What is remembered depends on what was judged. -/
theorem Remembers.congr {last : Option Revision} {course other : Course}
    (remembers : Remembers last course) (judged : other.judged = course.judged) :
    Remembers last other := fun found was => remembers found (judged ▸ was)

/-- A course that judges a revision remembers it afterwards: it either was the one
remembered or has replaced it. -/
theorem remembers_observe (course : Course) (uri : String) (revision : Revision) :
    Remembers (some revision) (course.observe uri revision).2 := by
  intro judged was
  cases seen : course.seen? revision with
  | some observation =>
    rw [Course.observe_seen seen] at was
    obtain ⟨last, found, version, checksum, _⟩ := Course.judged_of_seen? seen
    obtain rfl := Option.some.inj (found.symm.trans was)
    exact ⟨revision, rfl, version, checksum⟩
  | none =>
    rw [Course.observe_unseen seen] at was
    obtain rfl := Option.some.inj was
    exact ⟨revision, rfl, rfl, rfl⟩

/-- After any moves a course remembers no judgement but that of the revision observed
last. -/
theorem remembers_after (settings : Settings) (uri : String) (moves : List Move) :
    Remembers (lastObserved uri moves) (((create settings).after moves).course uri) := by
  induction moves using List.reverseRecOn with
  | nil => exact fun _ was => nomatch was
  | append_singleton moves move inductionHypothesis =>
    have step : (create settings).after (moves ++ [move]) =
        ((create settings).after moves).act move := List.foldl_append
    rw [step]
    have touches := act_touches ((create settings).after moves) move uri
    generalize (((create settings).after moves).act move).course uri = course at touches ⊢
    cases touches with
    | spared _ elsewhere =>
      rw [lastObserved_elsewhere moves elsewhere]
      exact inductionHypothesis
    | judged revision =>
      rw [lastObserved_snoc]
      simp only [if_true]
      exact remembers_observe _ uri revision
    | dropped | resolved => exact fun _ was => nomatch was
    | joined | left | released =>
      rw [lastObserved_snoc]
      exact inductionHypothesis.congr rfl
    | begun _ _ _ _ _ _ _ started =>
      rw [lastObserved_snoc, (Course.start?_eq_some started).2]
      exact inductionHypothesis.congr rfl
    | ended _ _ _ _ ending =>
      rw [lastObserved_snoc]
      exact inductionHypothesis.congr rfl

/-- A revision that does not repeat the one observed last is judged anew. -/
theorem unseen_of_not_repeats {settings : Settings} {moves : List Move} {uri : String}
    {revision : Revision} (fresh : ¬Repeats uri moves revision) :
    (((create settings).after moves).course uri).seen? revision = none := by
  cases seen : (((create settings).after moves).course uri).seen? revision with
  | none => rfl
  | some observation =>
    obtain ⟨judged, was, version, checksum, _⟩ := Course.judged_of_seen? seen
    obtain ⟨last, observed, sameVersion, sameChecksum⟩ :=
      remembers_after settings uri moves judged was
    exact absurd ⟨last, observed, sameVersion.symm.trans version, sameChecksum.symm.trans checksum⟩
      fresh

/-- What a judgement makes of the accepted version, if the revision has at least the
version that was claimed for it: an accepted revision is ahead of what was accepted. -/
theorem accepted_rises {course : Course} (uri : String) {revision : Revision} {ours : Snapshot}
    (informed : course.Informed) (is : course.accepted = some ours)
    (claimed : revision.claimed ≤ revision.version) :
    ∃ theirs, (course.observe uri revision).2.accepted = some theirs ∧
      ours.version ≤ theirs.version ∧
      (course.seen? revision = none → (course.observe uri revision).1 = .advanced →
        ours.version < theirs.version) := by
  cases seen : course.seen? revision with
  | some observation =>
    rw [Course.observe_seen seen]
    exact ⟨ours, is, UInt64.le_refl _, fun unseen => nomatch unseen⟩
  | none =>
    obtain ⟨checksum, known⟩ := informed.checksummed ours is
    have judges := Course.judge_judges uri revision is known
    rw [Course.observe_unseen seen]
    generalize course.judge uri revision = answer at judges ⊢
    cases judges with
    | advanced newer =>
      have ahead : ours.version < revision.version := UInt64.lt_of_lt_of_le newer claimed
      exact ⟨course.snapshot revision revision.version, rfl, UInt64.le_of_lt ahead,
        fun _ _ => ahead⟩
    | keepLocal | inSync | conflict =>
      exact ⟨ours, is, UInt64.le_refl _, fun _ advanced => nomatch advanced⟩

/-- After any moves the accepted version of a document carries a checksum, and every
conflict recorded or answered is one of different contents under one version. A revision
that does not repeat the one observed last is answered by its claimed version alone, and
at the accepted version by its checksum. If a revision has at least the version claimed
for it, a judgement never lowers the accepted version, and raises it by accepting a
revision that is no repetition.

The answer is read off the accepted version, since what is remembered as judged is the
revision observed last.

Proof: what a course knows is sound in any run, by cases on what touches it. A judgement of a
revision that was not seen last is then one of four, told by how the two versions compare. -/
theorem judgements_follow_versions (settings : Settings) (moves : List Move) (uri : String) :
    let coordinator := ((create settings).after moves).coordinator
    let known := (coordinator.course uri).accepted
    (∀ ours, known = some ours → ∃ checksum, ours.checksum = some checksum) ∧
    (∀ conflict ∈ (coordinator.status uri).conflicts, conflict.OfContent) ∧
    ∀ revision,
      let answer := (coordinator.observe uri revision).1
      (∀ conflict, answer = .conflict conflict → conflict.OfContent) ∧
      (¬Repeats uri moves revision →
        (answer = .advanced ↔
          known = none ∨ ∃ ours, known = some ours ∧ ours.version < revision.claimed) ∧
        (answer = .keepLocal ↔ ∃ ours, known = some ours ∧ revision.claimed < ours.version) ∧
        (answer = .inSync ↔ ∃ ours, known = some ours ∧ revision.claimed = ours.version ∧
          ours.checksum = some revision.checksum) ∧
        ((∃ conflict, answer = .conflict conflict) ↔ ∃ ours, known = some ours ∧
          revision.claimed = ours.version ∧ ours.checksum ≠ some revision.checksum)) ∧
      (revision.claimed ≤ revision.version → ∀ ours, known = some ours →
        ∃ theirs, ((coordinator.observe uri revision).2.course uri).accepted = some theirs ∧
          ours.version ≤ theirs.version ∧
          (¬Repeats uri moves revision → answer = .advanced → ours.version < theirs.version)) := by
  intro coordinator known
  let course := coordinator.course uri
  have initial : ((create settings).course uri).Informed := Course.informed_initial
  have informed : course.Informed := course_after (fun _ _ _ => informed_touched) initial moves
  refine ⟨informed.checksummed, informed.recorded, fun revision => ?_⟩
  intro answer
  refine ⟨fun conflict told => informed.answer told, fun fresh => ?_, fun claimed ours is => ?_⟩
  · have judged : answer = course.judge uri revision :=
      congrArg Prod.fst (Course.observe_unseen (unseen_of_not_repeats fresh))
    cases is : known with
    | none =>
      have first : answer = .advanced := judged.trans (Course.judge_first is)
      simp [first]
    | some ours =>
      obtain ⟨checksum, carried⟩ := informed.checksummed ours is
      have judges : Judges ours revision answer :=
        judged ▸ Course.judge_judges uri revision is carried
      generalize answer = told at judges
      cases judges with
      | advanced newer =>
        have unlike := UInt64.ne_of_lt newer
        have above := UInt64.lt_asymm newer
        simp [newer, above, Ne.symm unlike]
      | keepLocal older =>
        have unlike := UInt64.ne_of_lt older
        have below := UInt64.lt_asymm older
        simp [older, below, unlike]
      | inSync level same => simp [level, same, UInt64.lt_irrefl]
      | conflict conflict level different => simp [level, different, UInt64.lt_irrefl]
  · obtain ⟨theirs, accepted, kept, raised⟩ := accepted_rises uri informed is claimed
    refine ⟨theirs, ?_, kept, fun fresh => raised (unseen_of_not_repeats fresh)⟩
    rw [Coordinator.course_observe, if_pos rfl]
    exact accepted

/-- A revision that was given a later version than it claimed is accepted, after one of
the version before it, and the accepted version rises to the given one. -/
theorem later_claim_raises_accepted_version :
    let moves : List Move := [.connect "file:///a.wf" "a" .text,
      .observe "file:///a.wf" ⟨1, 4, "a", 0, "first"⟩]
    let revision : Revision := ⟨5, 7, "a", 0, "second"⟩
    let coordinator := ((create .usual).after moves).coordinator
    ¬Repeats "file:///a.wf" moves revision ∧ revision.claimed ≤ revision.version ∧
      (coordinator.observe "file:///a.wf" revision).1 = .advanced ∧
      ∃ theirs, ((coordinator.observe "file:///a.wf" revision).2.course "file:///a.wf").accepted =
        some theirs ∧ 4 < theirs.version := by
  intro moves revision coordinator
  have fresh : ¬Repeats "file:///a.wf" moves revision := by
    rintro ⟨last, observed, version, _⟩
    obtain rfl : (⟨1, 4, "a", 0, "first"⟩ : Revision) = last := Option.some.inj observed
    exact absurd version (by decide)
  have claimed : revision.claimed ≤ revision.version := by decide
  obtain ⟨_, _, judged⟩ := judgements_follow_versions .usual moves "file:///a.wf"
  obtain ⟨_, answered, risen⟩ := judged revision
  have known : (coordinator.course "file:///a.wf").accepted =
      some ⟨4, 0, "a", .text, some "first"⟩ := by decide +kernel
  have advanced := (answered fresh).1.mpr (.inr ⟨_, known, by decide⟩)
  obtain ⟨theirs, accepted, _, raised⟩ := risen claimed _ known
  exact ⟨fresh, claimed, advanced, theirs, accepted, raised fresh advanced⟩

end Timeline

end Flowdesk.Sync
