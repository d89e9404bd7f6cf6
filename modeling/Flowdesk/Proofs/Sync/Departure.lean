import Flowdesk.Proofs.Sync.Flight
import Flowdesk.Proofs.Sync.Judgement

/-!
# What the last client leaves behind

A course goes with the last client of its document, but only if no run executes when
that client leaves. A run that executes keeps the course, and nobody comes back for it
when the run ends: ending a run lowers its flag and leaves the course where it is. So a
course outlives its clients until somebody leaves the document once more, although no
client is left that could. What was accepted, judged and in conflict when the last client
left is what the next revision is judged by.
-/

namespace Flowdesk.Sync

open Data

namespace Coordinator

/-- Whether there is a course of a document. -/
def keeps (coordinator : Coordinator) (uri : String) : Bool := coordinator.courses.contains uri

/-- A document without a course stands as at the start. -/
theorem course_of_unkept {coordinator : Coordinator} {uri : String}
    (unkept : coordinator.keeps uri = false) : coordinator.course uri = .initial := by
  have absent : coordinator.courses.get? uri = none := Option.isSome_eq_false_iff.mp unkept
    |> Option.isNone_iff_eq_none.mp
  simp only [course, Table.getD, absent, Option.getD_none]

/-- A document with a client has a course. -/
theorem keeps_of_client {coordinator : Coordinator} {uri client : String}
    (connected : client ∈ coordinator.clients uri) : coordinator.keeps uri = true := by
  by_contra unkept
  unfold clients status at connected
  rw [course_of_unkept (Bool.eq_false_iff.mpr unkept)] at connected
  exact NameSet.not_mem_empty client connected

/-- So does one that is being synced. -/
theorem keeps_of_syncing {coordinator : Coordinator} {uri : String}
    (busy : coordinator.syncing uri = true) : coordinator.keeps uri = true := by
  by_contra unkept
  unfold syncing at busy
  rw [course_of_unkept (Bool.eq_false_iff.mpr unkept)] at busy
  exact Bool.false_ne_true busy

/-- Writing the course of one document leaves it to the others whether they have one. -/
theorem keeps_setCourse (coordinator : Coordinator) (written uri : String) (course : Course) :
    (coordinator.setCourse written course).keeps uri =
      (decide (written = uri) || coordinator.keeps uri) :=
  Table.contains_put coordinator.courses written uri course

/-- A sync that is given up neither begins nor drops a course. -/
theorem keeps_release (coordinator : Coordinator) (other uri : String) :
    (coordinator.release other).keeps uri = coordinator.keeps uri := by
  unfold keeps release Table.alter
  split
  · next course begun =>
    rw [Table.contains_put]
    by_cases same : other = uri
    · subst same
      simp only [Table.contains, begun, Option.isSome_some, Bool.or_true]
    · simp only [same, decide_false, Bool.false_or]
  · rfl

/-- A client that leaves a document drops its course if nothing else keeps it. -/
theorem keeps_disconnect (coordinator : Coordinator) (uri client : String) :
    (coordinator.disconnect uri client).keeps uri =
      (coordinator.keeps uri && !((coordinator.course uri).disconnect client).abandoned) := by
  unfold disconnect
  cases begun : coordinator.courses.get? uri with
  | none => simp only [keeps, Table.contains, begun, Option.isSome_none, Bool.false_and]
  | some course =>
    have was : coordinator.course uri = course := by
      simp only [Coordinator.course, Table.getD, begun, Option.getD_some]
    have kept : coordinator.keeps uri = true := by
      simp only [keeps, Table.contains, begun, Option.isSome_some]
    rw [was, kept, Bool.true_and]
    simp only
    split
    · next unkept =>
      rw [unkept]
      exact (Table.contains_erase coordinator.courses uri uri).trans (by simp)
    · next remains =>
      rw [Bool.eq_false_iff.mpr remains, keeps_setCourse]
      simp

theorem keeps_disconnect_of_ne (coordinator : Coordinator) {other uri : String} (client : String)
    (different : other ≠ uri) :
    (coordinator.disconnect other client).keeps uri = coordinator.keeps uri := by
  unfold disconnect
  split
  · rfl
  · simp only
    split
    · exact (Table.contains_erase coordinator.courses other uri).trans (by simp [different, keeps])
    · rw [keeps_setCourse]
      simp [different]

end Coordinator

namespace Timeline

/-- Whether an event happens in the course of moves. -/
def Occurs (event : Timeline → Move → Prop) : Timeline → List Move → Prop
  | _, [] => False
  | timeline, move :: moves => event timeline move ∨ Occurs event (timeline.act move) moves

/-- Whether a move is one by which the course of a document may be begun. -/
def Renews (uri : String) (timeline : Timeline) : Move → Prop
  | .connect about _ _ | .observe about _ | .beginResolution about _ => about = uri
  | .work position => ∃ number run, timeline.agenda.ready[position]? = some (.start number) ∧
      timeline.run? number = some run ∧ run.uri = uri
  | .disconnect .. | .ask .. | .abandon _ | .wait _ => False

/-- Whether a client leaves a document on which no run executes. -/
def Clears (uri : String) (timeline : Timeline) : Move → Prop
  | .disconnect about _ => about = uri ∧ ∀ number, ¬timeline.Executes uri number
  | _ => False

section Leaving

variable {timeline : Timeline} {uri : String}

/-- The last client that leaves a document drops its course, unless a run executes. -/
theorem keeps_leave (single : timeline.Single) {client : String}
    (alone : ∀ name, name ∈ timeline.coordinator.clients uri → name = client) :
    (timeline.act (.disconnect uri client)).coordinator.keeps uri = true ↔
      timeline.coordinator.keeps uri = true ∧ ∃ number, timeline.Executes uri number := by
  have deserted : ((timeline.course uri).disconnect client).status.connectedClients.isEmpty =
      true := by
    refine List.isEmpty_iff.mpr (List.eq_nil_iff_forall_not_mem.mpr ?_)
    intro name member
    obtain ⟨connected, other⟩ := (NameSet.mem_erase _ client name).mp member
    exact other (alone name connected)
  have abandoned : ((timeline.course uri).disconnect client).abandoned =
      !timeline.coordinator.syncing uri := by
    unfold Course.abandoned
    rw [deserted, Bool.true_and]
    rfl
  have left := Coordinator.keeps_disconnect timeline.coordinator uri client
  change (timeline.coordinator.disconnect uri client).keeps uri = true ↔ _
  rw [left, ← single.flagged uri, Bool.and_eq_true]
  change _ ∧ (!((timeline.course uri).disconnect client).abandoned) = true ↔ _
  rw [abandoned, Bool.not_not]

/-- A turn of a run that is not its start neither begins nor drops the course of its
document: a sync that ends had been under way. -/
theorem Turn.keeps {after : Timeline} {task : RunTask} {run : Run} {position : Nat}
    (turn : Turn (timeline.without position) run task after) (single : timeline.Single)
    (ready : timeline.agenda.ready[position]? = some task)
    (goes : timeline.run? task.number = some run) (suits : task.Suits run)
    (unrenewed : ¬Renews uri timeline (.work position)) :
    after.coordinator.keeps uri = timeline.coordinator.keeps uri := by
  cases turn with
  | refused | resumed | repeated => rfl
  | started number coordinator free =>
    have elsewhere : run.uri ≠ uri := fun here => unrenewed ⟨number, run, ready, goes, here⟩
    obtain ⟨course, _, rfl⟩ := Option.map_eq_some_iff.mp free
    refine (Coordinator.keeps_setCourse _ run.uri uri course).trans ?_
    simp only [elsewhere, decide_false, Bool.false_or]
    rfl
  | ended number outcome ending actions last =>
    refine (Coordinator.keeps_setCourse _ run.uri uri _).trans ?_
    by_cases here : run.uri = uri
    · have executes : timeline.Executes uri number := ⟨run, goes, here, suits⟩
      have kept := Coordinator.keeps_of_syncing ((single.flagged uri).mpr ⟨number, executes⟩)
      rw [kept, decide_eq_true here, Bool.true_or]
    · simp only [here, decide_false, Bool.false_or]
      rfl

/-- Once nobody takes part in a document its course stays until somebody leaves the
document while no run executes. -/
theorem keeps_act (planned : timeline.Planned) (single : timeline.Single)
    (deserted : ∀ name, name ∉ timeline.coordinator.clients uri) {move : Move}
    (unrenewed : ¬Renews uri timeline move) :
    (timeline.act move).coordinator.keeps uri = true ↔
      timeline.coordinator.keeps uri = true ∧ ¬Clears uri timeline move := by
  have unmoved (same : (timeline.act move).coordinator.keeps uri = timeline.coordinator.keeps uri)
      (unleft : ¬Clears uri timeline move) :
      (timeline.act move).coordinator.keeps uri = true ↔
        timeline.coordinator.keeps uri = true ∧ ¬Clears uri timeline move := by
    rw [same]
    exact (and_iff_left unleft).symm
  cases move with
  | connect about | observe about | beginResolution about =>
    refine unmoved ?_ id
    refine (Coordinator.keeps_setCourse _ about uri _).trans ?_
    rw [decide_eq_false (show about ≠ uri from unrenewed), Bool.false_or]
  | ask => exact unmoved rfl id
  | wait time =>
    refine unmoved ?_ id
    simp only [act]
    exact waitFor_branches rfl fun _ => rfl
  | abandon number =>
    refine unmoved ?_ id
    simp only [act]
    exact abandon_branches (fun _ => rfl) (fun _ _ _ => rfl)
      fun run _ _ => Coordinator.keeps_release _ run.uri uri
  | work position =>
    refine unmoved ?_ id
    simp only [act]
    refine workAt_branches (fun _ => rfl) (fun _ _ _ => rfl) ?turned
    case turned =>
      exact fun task run after ready goes turn => turn.keeps single ready goes
        (planned.suited task (planned.take ready).2.2 run goes) unrenewed
  | disconnect about client =>
    by_cases here : about = uri
    · subst here
      rw [keeps_leave single fun name connected => absurd connected (deserted name)]
      simp only [Clears, true_and, not_forall, not_not]
    · exact unmoved (Coordinator.keeps_disconnect_of_ne _ client here) fun clears => here clears.1

/-- What is left of a course that nobody takes part in. -/
structure LeftFrom (source : Course) (uri : String) (timeline : Timeline) : Prop where
  deserted : ∀ name, name ∉ timeline.coordinator.clients uri
  behind : timeline.coordinator.keeps uri = true →
    (timeline.course uri).accepted = source.accepted ∧
    (timeline.course uri).judged = source.judged ∧
    (timeline.course uri).status.conflicts = source.status.conflicts

/-- A client that leaves takes nothing with it of a course that is kept. -/
theorem leftFrom_leave {source : Course} {client : String}
    (alone : ∀ name, name ∈ timeline.coordinator.clients uri → name = client)
    (behind : timeline.coordinator.keeps uri = true →
      (timeline.course uri).accepted = source.accepted ∧
      (timeline.course uri).judged = source.judged ∧
      (timeline.course uri).status.conflicts = source.status.conflicts) :
    LeftFrom source uri (timeline.act (.disconnect uri client)) := by
  constructor
  · intro name
    change name ∉ (timeline.coordinator.disconnect uri client).clients uri
    rw [Coordinator.clients_disconnect, if_pos rfl, NameSet.mem_erase]
    exact fun ⟨connected, other⟩ => other (alone name connected)
  · intro kept
    change (timeline.coordinator.disconnect uri client).keeps uri = true at kept
    rw [Coordinator.keeps_disconnect, Bool.and_eq_true, Bool.not_eq_true'] at kept
    have left : (timeline.act (.disconnect uri client)).course uri =
        (timeline.course uri).disconnect client := by
      refine (Coordinator.course_disconnect timeline.coordinator uri client).trans ?_
      exact if_neg (Bool.eq_false_iff.mp kept.2)
    rw [left]
    exact behind kept.1

/-- Nothing is added to what is left of a course, and nothing of it is taken away as long
as it is kept. -/
theorem leftFrom_act {source : Course} (planned : timeline.Planned) (single : timeline.Single)
    (left : LeftFrom source uri timeline) {move : Move} (unrenewed : ¬Renews uri timeline move) :
    LeftFrom source uri (timeline.act move) := by
  have kept (after : (timeline.act move).coordinator.keeps uri = true) :
      timeline.coordinator.keeps uri = true :=
    ((keeps_act planned single left.deserted unrenewed).mp after).1
  -- A course whose clients, answers and conflicts are as they were is left as it was.
  have carried (clients : ((timeline.act move).course uri).status.connectedClients =
        (timeline.course uri).status.connectedClients)
      (accepted : ((timeline.act move).course uri).accepted = (timeline.course uri).accepted)
      (judged : ((timeline.act move).course uri).judged = (timeline.course uri).judged)
      (conflicts : ((timeline.act move).course uri).status.conflicts =
        (timeline.course uri).status.conflicts) :
      LeftFrom source uri (timeline.act move) := by
    constructor
    · intro name
      rw [Coordinator.clients_congr clients]
      exact left.deserted name
    · intro after
      rw [accepted, judged, conflicts]
      exact left.behind (kept after)
  have touches := act_touches timeline move uri
  generalize result : (timeline.act move).course uri = course at touches carried
  cases touches with
  | spared => exact carried rfl rfl rfl rfl
  | joined | judged | resolved => exact absurd rfl unrenewed
  | left client | dropped client =>
    exact leftFrom_leave (fun name connected => absurd connected (left.deserted name)) left.behind
  | begun position number run course ready goes here started =>
    exact absurd ⟨number, run, ready, goes, here⟩ unrenewed
  | ended position number outcome run ending =>
    cases ending <;> exact carried rfl rfl rfl rfl
  | released => exact carried rfl rfl rfl rfl

/-- The course of a document that nobody takes part in is kept as long as nobody leaves the
document while no run executes. -/
theorem leftFrom_after {source : Course} (planned : timeline.Planned) (single : timeline.Single)
    (left : LeftFrom source uri timeline) {moves : List Move}
    (unrenewed : ¬Occurs (Renews uri) timeline moves) :
    LeftFrom source uri (timeline.after moves) ∧
      ((timeline.after moves).coordinator.keeps uri = true ↔
        timeline.coordinator.keeps uri = true ∧ ¬Occurs (Clears uri) timeline moves) := by
  induction moves generalizing timeline with
  | nil => exact ⟨left, (and_iff_left id).symm⟩
  | cons first moves inductionHypothesis =>
    obtain ⟨here, later⟩ := not_or.mp unrenewed
    obtain ⟨still, kept⟩ := inductionHypothesis (planned_act planned first)
      ((act_flight planned first).single single) (leftFrom_act planned single left here) later
    refine ⟨still, kept.trans ?_⟩
    rw [keeps_act planned single left.deserted here, and_assoc, ← not_or]
    rfl

end Leaving

/-- Take any moves by which one client is left of a document, then that client leaves, and
then any moves follow none of which connects to the document, observes it, resolves its
conflicts or starts a run of it. The course of the document is dropped exactly if somebody
left the document while no run executed on it: the last client did, or a client that was
gone already left once more. A course that is dropped leaves the status of a document
that nobody has touched, and the next revision is accepted whatever it claims. A course
that is not dropped stays without clients, also when the run that kept it has ended, and
the next revision is judged by what was accepted and judged when the last client left.

Proof: after the last client has left nobody comes back, as long as nothing renews the course. By
induction over the later moves the course is dropped by the first departure that finds no run
under way, and until then nothing but the run that kept it can change it. -/
theorem last_client_takes_course_iff (settings : Settings) (earlier later : List Move)
    (uri client : String)
    (last : ∀ name, name ∈ ((create settings).after earlier).coordinator.clients uri ↔
      name = client)
    (unrenewed : ¬Occurs (Renews uri)
      (((create settings).after earlier).act (.disconnect uri client)) later) :
    let timeline := (create settings).after earlier
    let ended := (timeline.act (.disconnect uri client)).after later
    (ended.coordinator.keeps uri = false ↔
      Occurs (Clears uri) timeline (.disconnect uri client :: later)) ∧
    (ended.coordinator.keeps uri = false →
      ended.coordinator.status uri = .initial ∧
      ∀ revision, (ended.coordinator.observe uri revision).1 = .advanced) ∧
    (ended.coordinator.keeps uri = true →
      (∀ name, name ∉ ended.coordinator.clients uri) ∧
      (ended.course uri).accepted = (timeline.course uri).accepted ∧
      (ended.course uri).judged = (timeline.course uri).judged ∧
      (ended.course uri).status.conflicts = (timeline.course uri).status.conflicts) := by
  intro timeline ended
  have planned : timeline.Planned := planned_after (planned_create settings) earlier
  have single : timeline.Single :=
    single_after (planned_create settings) (single_create settings) earlier
  have alone (name : String) := (last name).mp
  have begun : timeline.coordinator.keeps uri = true :=
    Coordinator.keeps_of_client ((last client).mpr rfl)
  have left : LeftFrom (timeline.course uri) uri (timeline.act (.disconnect uri client)) :=
    leftFrom_leave alone fun _ => ⟨rfl, rfl, rfl⟩
  obtain ⟨still, kept⟩ := leftFrom_after (planned_act planned (.disconnect uri client))
    ((act_flight planned (.disconnect uri client)).single single) left unrenewed
  refine ⟨?_, ?_, fun remains => ⟨still.deserted, still.behind remains⟩⟩
  · rw [← Bool.not_eq_true, kept, keeps_leave single alone]
    simp only [begun, true_and, Occurs, Clears, not_and_or, not_exists, not_not]
  · intro dropped
    have initial : ended.course uri = .initial := Coordinator.course_of_unkept dropped
    refine ⟨congrArg Course.status initial, fun revision => ?_⟩
    change ((ended.course uri).observe uri revision).1 = .advanced
    rw [initial]
    rfl

/-- A run executes for a while on a document with a single client. -/
def hastyDeparture (uri : String) : List Move :=
  [.connect uri "a" .text, .observe uri ⟨5, 5, "a", 0, "first"⟩,
    .ask uri .semanticToGraph [⟨100, .ok 1⟩], .work 0]

/-- The client leaves, and leaves once more after the run has ended. The course is dropped
then, and a first revision is accepted. -/
theorem second_departure_takes_course :
    let timeline := (create .usual).after (hastyDeparture "file:///a.wf")
    let left := timeline.act (.disconnect "file:///a.wf" "a")
    let later : List Move := [.wait 100, .work 0, .disconnect "file:///a.wf" "a"]
    (∀ name, name ∈ timeline.coordinator.clients "file:///a.wf" ↔ name = "a") ∧
      ¬Occurs (Renews "file:///a.wf") left later ∧
      ((left.after later).coordinator.observe "file:///a.wf" ⟨1, 1, "a", 0, "again"⟩).1 =
        .advanced := by
  intro timeline left later
  have last : ∀ name, name ∈ timeline.coordinator.clients "file:///a.wf" ↔ name = "a" :=
    fun _ => List.mem_singleton
  have unrenewed : ¬Occurs (Renews "file:///a.wf") left later := by
    rintro (waits | ⟨_, _, ready, _⟩ | leaves | nothing)
    · exact waits
    · exact nomatch ready
    · exact leaves
    · exact nothing
  have dropped : (left.after later).coordinator.keeps "file:///a.wf" = false := by decide +kernel
  have taken := (last_client_takes_course_iff .usual (hastyDeparture "file:///a.wf") later
    "file:///a.wf" "a" last unrenewed).2.1 dropped
  exact ⟨last, unrenewed, taken.2 _⟩

/-- If the client leaves but once, nobody is connected and no run executes when the run has
ended. Yet the document is said to be synced, and a first revision is taken for an old
one. -/
theorem hasty_departure_leaves_course :
    let timeline := (create .usual).after (hastyDeparture "file:///a.wf")
    let left := timeline.act (.disconnect "file:///a.wf" "a")
    let ended := left.after [.wait 100, .work 0]
    (∀ name, name ∈ timeline.coordinator.clients "file:///a.wf" ↔ name = "a") ∧
      ¬Occurs (Renews "file:///a.wf") left [.wait 100, .work 0] ∧
      (∀ number, ¬ended.Executes "file:///a.wf" number) ∧
      ended.coordinator.status "file:///a.wf" ≠ .initial ∧
      (ended.coordinator.observe "file:///a.wf" ⟨1, 1, "a", 0, "again"⟩).1 ≠ .advanced := by
  intro timeline left ended
  refine ⟨fun _ => List.mem_singleton, ?_, ?_, by decide +kernel, by decide +kernel⟩
  · rintro (waits | ⟨_, _, ready, _⟩ | nothing)
    · exact waits
    · exact nomatch ready
    · exact nothing
  · have nobody : ended.running = .empty := rfl
    rintro number ⟨run, goes, _⟩
    rw [run?, nobody] at goes
    cases goes

end Timeline

end Flowdesk.Sync
