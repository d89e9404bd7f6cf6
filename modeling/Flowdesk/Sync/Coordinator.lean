import Flowdesk.Data.Table
import Flowdesk.Draft
import Flowdesk.Sync.Settings
import Flowdesk.Sync.Status

/-!
# Coordination of syncs

The coordinator keeps a course for every document: what of it is reconciled, which
revisions came in since, which conflicts they raised, and whether a sync is under
way. A revision is judged by the version its client claimed, against the last
revision that was accepted; seeing a revision again changes nothing. At most one
sync of a document is under way at a time.

A course is begun by whatever first concerns its document, and dropped with the
last client that leaves it, unless a sync is under way.
-/

namespace Flowdesk.Sync

open Data

/-- How a revision relates to what is reconciled. -/
inductive Observation where
  /-- Nothing new. -/
  | inSync
  /-- The revision is accepted, and waits to be carried over. -/
  | advanced
  /-- The revision is older than what is reconciled. -/
  | keepLocal
  | conflict (conflict : Conflict)
  deriving DecidableEq, Repr

/-- How a sync ended. -/
inductive Ending where
  /-- The changes were carried over. -/
  | carried
  /-- A conflict has to be resolved first. -/
  | deferred
  | failed
  deriving DecidableEq, Repr

/-- A judged revision: its version and checksum, and the judgement. -/
structure Judged where
  version : UInt64
  checksum : String
  observation : Observation
  deriving DecidableEq, Repr

/-- How the sync of one document stands (`UriState`). -/
structure Course where
  status : Status
  /-- How each client edits the document. -/
  methods : Table String Method
  /-- The last revision that was accepted. -/
  accepted : Option Snapshot
  /-- The last revision that was judged since the last resolution. -/
  judged : Option Judged
  /-- Whether a sync is under way. -/
  inFlight : Bool

namespace Course

/-- The course of a document that nothing concerned yet. -/
def initial : Course := ⟨.initial, .empty, none, none, false⟩

instance : Inhabited Course := ⟨initial⟩

/-- How a client edits. -/
def methodOf (course : Course) (client : String) : Method := course.methods.getD client .usual

/-- The snapshot that a revision amounts to at a version. -/
def snapshot (course : Course) (revision : Revision) (version : UInt64) : Snapshot where
  version := version
  timestamp := revision.timestamp
  client := revision.client
  method := course.methodOf revision.client
  checksum := some revision.checksum

/-- The course with one more client. -/
def connect (course : Course) (client : String) (method : Method) : Course :=
  { course with
    status := { course.status with connectedClients := course.status.connectedClients.insert client }
    methods := course.methods.put client method }

/-- The course without a client. -/
def disconnect (course : Course) (client : String) : Course :=
  { course with
    status := { course.status with connectedClients := course.status.connectedClients.erase client }
    methods := course.methods.erase client }

/-- Whether nothing keeps the course. -/
def abandoned (course : Course) : Bool :=
  course.status.connectedClients.isEmpty && !course.inFlight

/-- The last judgement, if it was of the same version and content. -/
def seen? (course : Course) (revision : Revision) : Option Observation :=
  (course.judged.filter fun judged =>
    judged.version = revision.version ∧ judged.checksum = revision.checksum).map (·.observation)

/-- How a revision relates to the accepted one. -/
def judge (course : Course) (uri : String) (revision : Revision) : Observation :=
  match course.accepted with
  | none => .advanced
  | some ours =>
      let theirs := course.snapshot revision revision.claimed
      match detectConflict uri ours theirs with
      | some conflict => .conflict conflict
      | none =>
          match compareVersions ours theirs with
          | .inSync => .inSync
          | .localNewer => .keepLocal
          | .remoteNewer | .diverged => .advanced

/-- The course with one more change to carry over. -/
def addPending (course : Course) : Course :=
  { course with
    status := { course.status with pendingChanges := course.status.pendingChanges + 1 } }

/-- The course after a new revision was judged. -/
def record (course : Course) (revision : Revision) (observation : Observation) : Course :=
  let course :=
    match observation with
    | .inSync => course
    | .advanced =>
        { course.addPending with accepted := some (course.snapshot revision revision.version) }
    | .keepLocal => course.addPending
    | .conflict conflict =>
        { course with
          status := { course.status with
            conflicts := course.status.conflicts ++ [conflict]
            phase := .conflict } }
  { course with judged := some ⟨revision.version, revision.checksum, observation⟩ }

/-- Judge a revision, unless it was just judged. -/
def observe (course : Course) (uri : String) (revision : Revision) : Observation × Course :=
  match course.seen? revision with
  | some observation => (observation, course)
  | none =>
      let observation := course.judge uri revision
      (observation, course.record revision observation)

/-- The course without its conflicts, before a side of them is replayed. A revision
that is accepted with it becomes the reconciled one. -/
def beginResolution (course : Course) (accepted : Option Revision) : Course :=
  { course with
    status := { course.status with
      conflicts := []
      phase := if course.status.phase = .conflict then .idle else course.status.phase }
    accepted :=
      (accepted.map fun revision => course.snapshot revision revision.version) <|> course.accepted
    judged := none }

/-- The course with a sync under way, if none is yet. -/
def start? (course : Course) : Option Course :=
  if course.inFlight then none
  else
    some { course with
      status := { course.status with
        phase := if course.status.phase = .conflict then .conflict else .syncing }
      inFlight := true }

/-- The course after its sync was given up. -/
def release (course : Course) : Course := { course with inFlight := false }

/-- The course after its sync ended. Only what came from the text counts as carried
over. -/
def finish (course : Course) (direction : Direction) (ending : Ending) (now : UInt64) : Course :=
  let status :=
    match ending with
    | .carried =>
        { course.status with
          phase := .synced
          lastSyncTime := some now
          pendingChanges :=
            if direction = .semanticToGraph then 0 else course.status.pendingChanges }
    | .deferred => { course.status with phase := .conflict }
    | .failed => { course.status with phase := .error }
  { course with status, inFlight := false }

/-- Judging a revision again gives the same answer and changes nothing. -/
theorem observe_observe (course : Course) (uri : String) (revision : Revision) :
    (course.observe uri revision).2.observe uri revision = course.observe uri revision := by
  have again : ∀ course : Course, ∀ observation, course.seen? revision = some observation →
      course.observe uri revision = (observation, course) := by
    intro course observation seen
    simp [observe, seen]
  cases seen : course.seen? revision with
  | some observation =>
    rw [again course observation seen]
    exact again course observation seen
  | none =>
    have first : course.observe uri revision =
        (course.judge uri revision, course.record revision (course.judge uri revision)) := by
      simp [observe, seen]
    rw [first]
    apply again
    simp [seen?, record, Option.filter]

end Course

/-- The settings of a desk and the courses of its documents (`SyncManager`). -/
structure Coordinator where
  settings : Settings
  courses : Table String Course

namespace Coordinator

/-- The coordinator without courses. -/
def create (settings : Settings) : Coordinator := ⟨settings, .empty⟩

/-- The course of a document. -/
def course (coordinator : Coordinator) (uri : String) : Course :=
  coordinator.courses.getD uri .initial

/-- The coordinator with another course of a document. -/
def setCourse (coordinator : Coordinator) (uri : String) (course : Course) : Coordinator :=
  { coordinator with courses := coordinator.courses.put uri course }

/-- The coordinator with a client that edits a document in some way. -/
def connect (coordinator : Coordinator) (uri client : String) (method : Method) : Coordinator :=
  coordinator.setCourse uri ((coordinator.course uri).connect client method)

/-- The coordinator without a client of a document. -/
def disconnect (coordinator : Coordinator) (uri client : String) : Coordinator :=
  match coordinator.courses.get? uri with
  | none => coordinator
  | some course =>
      let course := course.disconnect client
      if course.abandoned then { coordinator with courses := coordinator.courses.erase uri }
      else coordinator.setCourse uri course

/-- How a client edits a document. -/
def methodOf (coordinator : Coordinator) (uri client : String) : Method :=
  (coordinator.course uri).methodOf client

/-- Judge a revision of a document. -/
def observe (coordinator : Coordinator) (uri : String) (revision : Revision) :
    Observation × Coordinator :=
  let (observation, course) := (coordinator.course uri).observe uri revision
  (observation, coordinator.setCourse uri course)

/-- The coordinator before a side of a document's conflicts is replayed. -/
def beginResolution (coordinator : Coordinator) (uri : String) (accepted : Option Revision) :
    Coordinator :=
  coordinator.setCourse uri ((coordinator.course uri).beginResolution accepted)

/-- The coordinator with a sync of a document under way, if none is yet. -/
def start? (coordinator : Coordinator) (uri : String) : Option Coordinator :=
  (coordinator.course uri).start?.map (coordinator.setCourse uri)

/-- The coordinator after the sync of a document was given up. -/
def release (coordinator : Coordinator) (uri : String) : Coordinator :=
  { coordinator with courses := coordinator.courses.alter uri Course.release }

/-- The coordinator after the sync of a document ended. -/
def finish (coordinator : Coordinator) (uri : String) (direction : Direction) (ending : Ending)
    (now : UInt64) : Coordinator :=
  coordinator.setCourse uri ((coordinator.course uri).finish direction ending now)

/-- The status of a document. -/
def status (coordinator : Coordinator) (uri : String) : Status := (coordinator.course uri).status

/-- Whether a conflict on a document is active. -/
def hasConflict (coordinator : Coordinator) (uri : String) : Bool :=
  (coordinator.status uri).hasConflicts

/-- Whether a sync of a document is under way. -/
def syncing (coordinator : Coordinator) (uri : String) : Bool := (coordinator.course uri).inFlight

/-- How many changes of a document wait to be carried over. -/
def pendingChanges (coordinator : Coordinator) (uri : String) : Nat :=
  (coordinator.status uri).pendingChanges

@[simp] theorem course_setCourse (coordinator : Coordinator) (written uri : String)
    (course : Course) :
    (coordinator.setCourse written course).course uri =
      if written = uri then course else coordinator.course uri := by
  simp only [setCourse, Coordinator.course, Table.getD, Table.get?_put]
  split <;> rfl

@[simp] theorem course_connect (coordinator : Coordinator) (uri client other : String)
    (method : Method) :
    (coordinator.connect uri client method).course other =
      if uri = other then (coordinator.course uri).connect client method
      else coordinator.course other :=
  course_setCourse coordinator uri other _

@[simp] theorem course_observe (coordinator : Coordinator) (uri other : String)
    (revision : Revision) :
    (coordinator.observe uri revision).2.course other =
      if uri = other then ((coordinator.course uri).observe uri revision).2
      else coordinator.course other :=
  course_setCourse coordinator uri other _

@[simp] theorem course_beginResolution (coordinator : Coordinator) (uri other : String)
    (accepted : Option Revision) :
    (coordinator.beginResolution uri accepted).course other =
      if uri = other then (coordinator.course uri).beginResolution accepted
      else coordinator.course other :=
  course_setCourse coordinator uri other _

@[simp] theorem course_finish (coordinator : Coordinator) (uri other : String)
    (direction : Direction) (ending : Ending) (now : UInt64) :
    (coordinator.finish uri direction ending now).course other =
      if uri = other then (coordinator.course uri).finish direction ending now
      else coordinator.course other :=
  course_setCourse coordinator uri other _

/-- A client that leaves a document has no part in the course of another one. -/
theorem course_disconnect_of_ne (coordinator : Coordinator) {uri other : String} (client : String)
    (different : uri ≠ other) :
    (coordinator.disconnect uri client).course other = coordinator.course other := by
  unfold disconnect
  split
  · rfl
  · simp only
    split
    · simp [Coordinator.course, Table.getD, different]
    · simp [different]

/-- Of two courses written for a document only the second one is kept. -/
@[simp] theorem setCourse_setCourse (coordinator : Coordinator) (uri : String)
    (first second : Course) :
    (coordinator.setCourse uri first).setCourse uri second = coordinator.setCourse uri second := by
  simp [setCourse]

/-- Judging a revision of a document again gives the same answer and changes nothing. -/
theorem observe_observe (coordinator : Coordinator) (uri : String) (revision : Revision) :
    (coordinator.observe uri revision).2.observe uri revision =
      coordinator.observe uri revision := by
  have again := Course.observe_observe (coordinator.course uri) uri revision
  simp only [observe, course_setCourse, if_true, again, setCourse_setCourse]

end Coordinator

end Flowdesk.Sync
