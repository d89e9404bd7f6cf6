import Flowdesk.Sync.Coordinator

/-!
# Changes of a course

What each operation of a coordinator leaves alone of a course: the revisions that are
accepted and judged, the conflicts, and whether a sync is under way. Only what starts,
ends or gives up a sync changes whether one is under way.
-/

namespace Flowdesk.Sync

open Data

namespace Course

section Observe

variable {course : Course} {uri : String} {revision : Revision}

/-- A revision that repeats the last judged one is answered as that one was. -/
theorem observe_seen {observation : Observation} (seen : course.seen? revision = some observation) :
    course.observe uri revision = (observation, course) := by
  unfold observe
  rw [seen]

/-- A revision that is judged is recorded with the judgement. -/
theorem observe_unseen (unseen : course.seen? revision = none) :
    course.observe uri revision =
      (course.judge uri revision, course.record revision (course.judge uri revision)) := by
  unfold observe
  rw [unseen]

/-- A revision is answered as before, or judged and recorded. -/
@[elab_as_elim] theorem observe_branches {motive : Course → Prop} (same : motive course)
    (recorded : ∀ observation, course.seen? revision = none →
      course.judge uri revision = observation → motive (course.record revision observation)) :
    motive (course.observe uri revision).2 := by
  cases seen : course.seen? revision with
  | some observation =>
    rw [observe_seen seen]
    exact same
  | none =>
    rw [observe_unseen seen]
    exact recorded _ seen rfl

end Observe

/-- What a sync that begins makes of a course. -/
theorem start?_eq_some {course begun : Course} (started : course.start? = some begun) :
    course.inFlight = false ∧
      begun = { course with
        status := { course.status with
          phase := if course.status.phase = .conflict then .conflict else .syncing }
        inFlight := true } := by
  unfold start? at started
  split at started
  · exact nomatch started
  · next free => exact ⟨Bool.eq_false_iff.mpr free, (Option.some.inj started).symm⟩

/-- A judgement accepts the judged revision or none. -/
theorem accepted_observe (course : Course) (uri : String) (revision : Revision) :
    (course.observe uri revision).2.accepted = course.accepted ∨
      (course.observe uri revision).2.accepted =
        some (course.snapshot revision revision.version) := by
  refine observe_branches (.inl rfl) ?_
  intro observation _ _
  cases observation with
  | advanced => exact .inr rfl
  | inSync | keepLocal | conflict => exact .inl rfl

/-- A judgement takes no conflict away. -/
theorem conflicts_observe (course : Course) (uri : String) (revision : Revision)
    (conflicted : course.status.hasConflicts = true) :
    (course.observe uri revision).2.status.hasConflicts = true := by
  refine observe_branches conflicted ?_
  intro observation _ _
  cases observation with
  | advanced | inSync | keepLocal => exact conflicted
  | conflict found => simp [record, Status.hasConflicts]

/-- Whether a course knows of a version of its document: it accepted or judged it last. -/
inductive Knows (course : Course) : UInt64 → Prop where
  | accepted (snapshot : Snapshot) (is : course.accepted = some snapshot) :
      Knows course snapshot.version
  | judged (judged : Judged) (was : course.judged = some judged) : Knows course judged.version

/-- A judgement makes no version known but the judged one. -/
theorem knows_of_observe {course : Course} {uri : String} {revision : Revision} {version : UInt64}
    (knows : (course.observe uri revision).2.Knows version) :
    course.Knows version ∨ version = revision.version := by
  cases knows with
  | accepted snapshot is =>
    rcases course.accepted_observe uri revision with kept | accepted
    · exact .inl (.accepted snapshot (kept ▸ is))
    · cases accepted.symm.trans is
      exact .inr rfl
  | judged judged was =>
    cases seen : course.seen? revision with
    | some observation =>
      rw [observe_seen seen] at was
      exact .inl (.judged judged was)
    | none =>
      rw [observe_unseen seen] at was
      cases was
      exact .inr rfl

/-- Nor does setting conflicts aside, but for the accepted one. -/
theorem knows_of_beginResolution {course : Course} {accepted : Option Revision} {version : UInt64}
    (knows : (course.beginResolution accepted).Knows version) :
    course.Knows version ∨ ∃ revision, accepted = some revision ∧ version = revision.version := by
  cases knows with
  | judged judged was => exact nomatch was
  | accepted snapshot is =>
    cases accepted with
    | none => exact .inl (.accepted snapshot is)
    | some revision =>
      cases is
      exact .inr ⟨revision, rfl, rfl⟩

/-- A revision that is ahead of all that is known, by its own claim, is accepted, and
raises no conflict. -/
theorem observe_of_ahead {course : Course} (uri : String) {revision : Revision}
    (ahead : ∀ version, course.Knows version → version < revision.version)
    (claimed : revision.claimed = revision.version) :
    (course.observe uri revision).1 = .advanced ∧
      (course.observe uri revision).2.status.conflicts = course.status.conflicts := by
  have unseen : course.seen? revision = none := by
    unfold seen?
    cases was : course.judged with
    | none => rfl
    | some judged =>
      have older := ahead judged.version (.judged judged was)
      have different : ¬(judged.version = revision.version ∧ judged.checksum = revision.checksum) :=
        fun same => UInt64.ne_of_lt older same.1
      simp [Option.filter, different]
  have judged : course.judge uri revision = .advanced := by
    unfold judge
    cases is : course.accepted with
    | none => rfl
    | some ours =>
      have older := ahead ours.version (.accepted ours is)
      have newer : compareVersions ours (course.snapshot revision revision.claimed) =
          .remoteNewer := by
        unfold compareVersions
        have above : ours.version < (course.snapshot revision revision.claimed).version := by
          rw [claimed]
          exact older
        rw [if_neg fun same => UInt64.ne_of_lt above same.1, if_pos above]
      simp only [detectConflict, newer]
  rw [observe_unseen unseen, judged]
  exact ⟨rfl, rfl⟩

/-- What is known depends on what was accepted and judged. -/
theorem Knows.congr {course other : Course} {version : UInt64} (knows : course.Knows version)
    (accepted : course.accepted = other.accepted) (judged : course.judged = other.judged) :
    other.Knows version := by
  cases knows with
  | accepted snapshot is => exact .accepted snapshot (accepted ▸ is)
  | judged found was => exact .judged found (judged ▸ was)

/-- Judging a revision neither begins nor ends a sync. -/
theorem inFlight_observe (course : Course) (uri : String) (revision : Revision) :
    (course.observe uri revision).2.inFlight = course.inFlight :=
  observe_branches rfl fun observation _ _ => by cases observation <;> rfl

/-- A judgement that raises no conflict leaves the conflicts and the phase as they are. -/
theorem status_observe {course : Course} {uri : String} {revision : Revision}
    (calm : ∀ conflict, course.seen? revision = none →
      course.judge uri revision ≠ .conflict conflict) :
    (course.observe uri revision).2.status.conflicts = course.status.conflicts ∧
      (course.observe uri revision).2.status.phase = course.status.phase := by
  refine observe_branches ⟨rfl, rfl⟩ ?_
  intro observation unseen judged
  cases observation with
  | conflict found => exact absurd judged (calm found unseen)
  | inSync | advanced | keepLocal => exact ⟨rfl, rfl⟩

/-- A judgement leaves the clients alone. -/
theorem clients_observe (course : Course) (uri : String) (revision : Revision) :
    (course.observe uri revision).2.status.connectedClients = course.status.connectedClients :=
  observe_branches rfl fun observation _ _ => by cases observation <;> rfl

/-- A judgement that raises a conflict shows it at once. -/
theorem phase_of_conflict {course : Course} {uri : String} {revision : Revision}
    {conflict : Conflict} (unseen : course.seen? revision = none)
    (judged : course.judge uri revision = .conflict conflict) :
    (course.observe uri revision).2.status.phase = .conflict := by
  rw [observe_unseen unseen, judged]
  rfl

end Course

namespace Coordinator

/-- Whether a conflict is active depends on the conflicts alone. -/
theorem hasConflict_congr {first second : Coordinator} {uri : String}
    (same : (first.course uri).status.conflicts = (second.course uri).status.conflicts) :
    first.hasConflict uri = second.hasConflict uri := by
  unfold hasConflict status Status.hasConflicts
  rw [same]

/-- There is no conflict where none is listed. -/
theorem hasConflict_of_nil {coordinator : Coordinator} {uri : String}
    (none : (coordinator.course uri).status.conflicts = []) :
    coordinator.hasConflict uri = false := by
  unfold hasConflict status Status.hasConflicts
  rw [none]
  rfl

/-- What the written course of a document shares with the earlier one, all courses share with
what they were. -/
theorem setCourse_same {β : Type} (part : Course → β) {coordinator : Coordinator}
    {written : String} {course : Course} (same : part course = part (coordinator.course written))
    (uri : String) :
    part ((coordinator.setCourse written course).course uri) = part (coordinator.course uri) := by
  rw [course_setCourse]
  split
  · next here => rw [same, here]
  · rfl

/-- A sync that is begun leaves all parts of a course alone but for the phase. -/
theorem start?_part {β : Type} (part : Course → β) {coordinator begun : Coordinator}
    {other : String} (started : coordinator.start? other = some begun)
    (same : ∀ phase, part { coordinator.course other with
      status := { (coordinator.course other).status with phase }
      inFlight := true } = part (coordinator.course other)) (uri : String) :
    part (begun.course uri) = part (coordinator.course uri) := by
  obtain ⟨course, begins, rfl⟩ := Option.map_eq_some_iff.mp started
  refine setCourse_same part ?_ uri
  rw [(Course.start?_eq_some begins).2]
  exact same _

/-- A client that takes part in a document leaves what is accepted and judged and the
conflicts alone. -/
theorem connect_same (coordinator : Coordinator) (other client : String) (method : Method)
    (uri : String) :
    ((coordinator.connect other client method).course uri).accepted =
        (coordinator.course uri).accepted ∧
      ((coordinator.connect other client method).course uri).status.conflicts =
        (coordinator.course uri).status.conflicts ∧
      ((coordinator.connect other client method).course uri).judged =
        (coordinator.course uri).judged :=
  ⟨setCourse_same (·.accepted) (by rfl) uri, setCourse_same (·.status.conflicts) (by rfl) uri,
    setCourse_same (·.judged) (by rfl) uri⟩

/-- So does a sync that is begun. -/
theorem start?_same {coordinator begun : Coordinator} {other : String}
    (free : coordinator.start? other = some begun) (uri : String) :
    (begun.course uri).accepted = (coordinator.course uri).accepted ∧
      (begun.course uri).status.conflicts = (coordinator.course uri).status.conflicts ∧
      (begun.course uri).judged = (coordinator.course uri).judged :=
  ⟨start?_part (·.accepted) free (fun _ => rfl) uri,
    start?_part (·.status.conflicts) free (fun _ => rfl) uri,
    start?_part (·.judged) free (fun _ => rfl) uri⟩

/-- So does a sync that ends. -/
theorem finish_same (coordinator : Coordinator) (other : String) (direction : Direction)
    (ending : Ending) (now : UInt64) (uri : String) :
    ((coordinator.finish other direction ending now).course uri).accepted =
        (coordinator.course uri).accepted ∧
      ((coordinator.finish other direction ending now).course uri).status.conflicts =
        (coordinator.course uri).status.conflicts ∧
      ((coordinator.finish other direction ending now).course uri).judged =
        (coordinator.course uri).judged :=
  ⟨setCourse_same (·.accepted) (by rfl) uri,
    setCourse_same (·.status.conflicts) (by cases ending <;> rfl) uri,
    setCourse_same (·.judged) (by rfl) uri⟩

/-- A client that comes neither begins nor ends a sync. -/
theorem syncing_connect (coordinator : Coordinator) (other client : String) (method : Method)
    (uri : String) :
    (coordinator.connect other client method).syncing uri = coordinator.syncing uri :=
  setCourse_same (·.inFlight) (by rfl) uri

/-- Judging a revision begins no sync. -/
theorem syncing_observe (coordinator : Coordinator) (other : String) (revision : Revision)
    (uri : String) :
    (coordinator.observe other revision).2.syncing uri = coordinator.syncing uri :=
  setCourse_same (·.inFlight) (Course.inFlight_observe _ other revision) uri

/-- Nor does setting conflicts aside. -/
theorem syncing_beginResolution (coordinator : Coordinator) (other : String)
    (accepted : Option Revision) (uri : String) :
    (coordinator.beginResolution other accepted).syncing uri = coordinator.syncing uri :=
  setCourse_same (·.inFlight) (by rfl) uri

/-- The course of a document that a client left is dropped if nothing else keeps it. -/
theorem course_disconnect (coordinator : Coordinator) (uri client : String) :
    (coordinator.disconnect uri client).course uri =
      if ((coordinator.course uri).disconnect client).abandoned then .initial
      else (coordinator.course uri).disconnect client := by
  unfold disconnect
  cases begun : coordinator.courses.get? uri with
  | none =>
    have untouched : coordinator.course uri = .initial := by
      simp [Coordinator.course, Table.getD, begun]
    rw [untouched]
    rfl
  | some course =>
    have was : coordinator.course uri = course := by
      simp [Coordinator.course, Table.getD, begun]
    rw [was]
    simp only
    split
    · simp [Coordinator.course, Table.getD]
    · exact (course_setCourse coordinator uri uri _).trans (if_pos rfl)

/-- Nor does a client that leaves: while a sync is under way its course is kept. -/
theorem syncing_disconnect (coordinator : Coordinator) (other client uri : String) :
    (coordinator.disconnect other client).syncing uri = coordinator.syncing uri := by
  by_cases same : other = uri
  · subst same
    rw [syncing, course_disconnect]
    split
    · next unkept =>
      have free : coordinator.syncing other = false := by
        simpa [syncing, Course.disconnect] using (Bool.and_eq_true_iff.mp unkept).2
      exact free.symm
    · rfl
  · rw [syncing, syncing, course_disconnect_of_ne coordinator client same]

/-- A sync that is begun is one of its document only. -/
theorem syncing_start? {coordinator begun : Coordinator} {other : String}
    (started : coordinator.start? other = some begun) {uri : String} (different : other ≠ uri) :
    begun.syncing uri = coordinator.syncing uri := by
  obtain ⟨course, _, rfl⟩ := Option.map_eq_some_iff.mp started
  simp [syncing, different]

/-- A sync is begun where none is under way, and then one is. -/
theorem syncing_of_start? {coordinator begun : Coordinator} {uri : String}
    (started : coordinator.start? uri = some begun) :
    coordinator.syncing uri = false ∧ begun.syncing uri = true := by
  obtain ⟨course, begins, rfl⟩ := Option.map_eq_some_iff.mp started
  obtain ⟨free, rfl⟩ := Course.start?_eq_some begins
  exact ⟨free, by simp [syncing]⟩

/-- A sync that is begun hides no conflict that is shown, and shows none that is hidden. -/
theorem phase_start? {coordinator begun : Coordinator} {other : String}
    (started : coordinator.start? other = some begun) (uri : String) :
    (begun.course uri).status.phase = .conflict ↔
      (coordinator.course uri).status.phase = .conflict := by
  obtain ⟨course, begins, rfl⟩ := Option.map_eq_some_iff.mp started
  rw [course_setCourse]
  split
  · next same =>
    subst same
    rw [(Course.start?_eq_some begins).2]
    by_cases shown : (coordinator.course other).status.phase = .conflict
    · simp [shown]
    · simp [shown]
  · rfl

/-- A sync is refused only where one is under way. -/
theorem syncing_of_start?_eq_none {coordinator : Coordinator} {uri : String}
    (refused : coordinator.start? uri = none) : coordinator.syncing uri = true := by
  have stopped := Option.map_eq_none_iff.mp refused
  unfold Course.start? at stopped
  split at stopped
  · next busy => exact busy
  · exact nomatch stopped

/-- A sync that ends is one of its document only, and none is under way then. -/
theorem syncing_finish (coordinator : Coordinator) (other uri : String) (direction : Direction)
    (ending : Ending) (now : UInt64) :
    (coordinator.finish other direction ending now).syncing uri =
      if other = uri then false else coordinator.syncing uri := by
  rw [syncing, course_finish]
  split <;> rfl

/-- So is one that is given up. -/
theorem course_release (coordinator : Coordinator) (other uri : String) :
    (coordinator.release other).course uri =
      if other = uri then (coordinator.course uri).release else coordinator.course uri := by
  unfold release Table.alter
  cases begun : coordinator.courses.get? other with
  | none =>
    by_cases same : other = uri
    · subst same
      rw [if_pos rfl]
      simp only [Coordinator.course, Table.getD, begun]
      rfl
    · rw [if_neg same]
  | some course =>
    simp only [Coordinator.course, Table.getD, Table.get?_put]
    split
    · next same =>
      subst same
      rw [begun]
      rfl
    · rfl

/-- A sync that is given up is under way no longer. -/
theorem syncing_release (coordinator : Coordinator) (other uri : String) :
    (coordinator.release other).syncing uri =
      if other = uri then false else coordinator.syncing uri := by
  rw [syncing, course_release]
  split <;> rfl

/-- A sync can be begun where none is under way. -/
theorem start?_of_free {coordinator : Coordinator} {uri : String}
    (free : coordinator.syncing uri = false) :
    ∃ begun, coordinator.start? uri = some begun := by
  change (coordinator.course uri).inFlight = false at free
  unfold start? Course.start?
  rw [free]
  exact ⟨_, rfl⟩

section Clients

/-- The clients that take part in the syncs of a document. -/
def clients (coordinator : Coordinator) (uri : String) : NameSet :=
  (coordinator.status uri).connectedClients

variable {first second : Coordinator} {uri : String}

/-- The clients of a document depend on its course alone. -/
theorem clients_congr
    (same : (second.course uri).status.connectedClients =
      (first.course uri).status.connectedClients) :
    second.clients uri = first.clients uri := same

/-- A client joins those of its document. -/
theorem clients_connect (coordinator : Coordinator) (about client : String) (method : Method)
    (uri : String) :
    (coordinator.connect about client method).clients uri =
      if about = uri then (coordinator.clients uri).insert client
      else coordinator.clients uri := by
  unfold clients status
  rw [course_connect]
  split
  · next same => exact same ▸ rfl
  · rfl

/-- A client that leaves takes no part any longer. A course that is dropped had no other
clients. -/
theorem clients_disconnect (coordinator : Coordinator) (about client uri : String) :
    (coordinator.disconnect about client).clients uri =
      if about = uri then (coordinator.clients uri).erase client
      else coordinator.clients uri := by
  unfold clients status
  by_cases same : about = uri
  · subst same
    rw [if_pos rfl, course_disconnect]
    split
    · next unkept =>
      have nobody := (Bool.and_eq_true_iff.mp unkept).1
      apply NameSet.ext_of_mem
      intro name
      refine iff_of_false (NameSet.not_mem_empty name) ?_
      intro member
      exact List.ne_nil_of_mem member (List.isEmpty_iff.mp nobody)
    · rfl
  · rw [if_neg same, course_disconnect_of_ne coordinator client same]

/-- Judging a revision lets nobody in or out. -/
theorem clients_observe (coordinator : Coordinator) (about : String) (revision : Revision)
    (uri : String) :
    (coordinator.observe about revision).2.clients uri = coordinator.clients uri :=
  setCourse_same (·.status.connectedClients) (Course.clients_observe _ about revision) uri

theorem clients_beginResolution (coordinator : Coordinator) (about : String)
    (accepted : Option Revision) (uri : String) :
    (coordinator.beginResolution about accepted).clients uri = coordinator.clients uri :=
  setCourse_same (·.status.connectedClients) (by rfl) uri

theorem clients_start? {coordinator begun : Coordinator} {about : String}
    (started : coordinator.start? about = some begun) (uri : String) :
    begun.clients uri = coordinator.clients uri :=
  start?_part (·.status.connectedClients) started (fun _ => rfl) uri

theorem clients_finish (coordinator : Coordinator) (about : String) (direction : Direction)
    (ending : Ending) (now : UInt64) (uri : String) :
    (coordinator.finish about direction ending now).clients uri = coordinator.clients uri :=
  setCourse_same (·.status.connectedClients) (by cases ending <;> rfl) uri

end Clients

end Coordinator

end Flowdesk.Sync
