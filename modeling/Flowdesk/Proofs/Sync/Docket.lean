import Flowdesk.Proofs.Sync.Move
import Mathlib.Data.List.Induction

/-!
# Events that are addressed to documents

Moves name runs by numbers that are counted over all documents, and tasks by where they
stand among all that are ready. So a move that is about one document is written
differently when other documents have runs as well. A docket knows which document each
run is about; what is asked about a document can then be addressed to it alone, with its
runs named by their turn among its own. Nothing is lost by this: whatever moves make of
a timeline is made of it by events that are addressed to documents.
-/

namespace Flowdesk.Sync

open Data

/-- What may be asked about one document. A run of it is named by how many of its runs
were asked for before. -/
inductive Errand where
  | connect (client : String) (method : Method)
  | disconnect (client : String)
  | observe (revision : Revision)
  | beginResolution (accepted : Option Revision)
  | ask (direction : Direction) (attempts : List (Attempt Nat))
  /-- Nobody waits for a run any longer. -/
  | abandon (turn : Nat)
  /-- The first ready task about a run is carried out. -/
  | work (turn : Nat)

/-- Something that is asked about a document, or time that goes by for all of them. -/
inductive Event where
  | errand (uri : String) (errand : Errand)
  | wait (time : Nat)

/-- The documents that an event asks a run for. -/
def Event.asked : Event → List String
  | .errand uri (.ask _ _) => [uri]
  | _ => []

/-- A timeline with the documents that its runs are about, by number. -/
structure Docket where
  timeline : Timeline
  runs : List String

namespace Docket

/-- The docket at the start of time. -/
def create (settings : Settings) : Docket := ⟨.create settings, []⟩

/-- The turn that the run of a number has among the runs of a document. -/
def turn? (docket : Docket) (uri : String) (number : Nat) : Option Nat :=
  if docket.runs[number]? = some uri then some ((docket.runs.take number).count uri) else none

/-- The number of the run of a document that has a turn. -/
def number? (docket : Docket) (uri : String) (turn : Nat) : Option Nat :=
  (List.range docket.runs.length).find? (docket.turn? uri · = some turn)

/-- What was reported of a run of a document. -/
def report? (docket : Docket) (uri : String) (turn : Nat) : Option Report :=
  (docket.number? uri turn).bind docket.timeline.reports.get?

/-- The move that an event amounts to. -/
def move? (docket : Docket) : Event → Option Timeline.Move
  | .wait time => some (.wait time)
  | .errand uri errand =>
      match errand with
      | .connect client method => some (.connect uri client method)
      | .disconnect client => some (.disconnect uri client)
      | .observe revision => some (.observe uri revision)
      | .beginResolution accepted => some (.beginResolution uri accepted)
      | .ask direction attempts => some (.ask uri direction attempts)
      | .abandon turn => (docket.number? uri turn).map .abandon
      | .work turn => (docket.number? uri turn).bind fun number =>
          (docket.timeline.agenda.ready.findIdx? (·.number = number)).map .work

/-- The docket after an event. -/
def act (docket : Docket) (event : Event) : Docket where
  timeline := (docket.move? event).elim docket.timeline docket.timeline.act
  runs := docket.runs ++ event.asked

/-- The docket after events. -/
def after (docket : Docket) (events : List Event) : Docket := events.foldl act docket

section Turns

variable {docket : Docket} {uri : String} {number turn : Nat}

/-- A run has a turn if it is about the document. -/
theorem turn?_eq_some_iff :
    docket.turn? uri number = some turn ↔
      docket.runs[number]? = some uri ∧ (docket.runs.take number).count uri = turn := by
  simp [turn?]

/-- Of two runs of a document the later one has the later turn. -/
theorem count_take_lt {runs : List String} {first second : Nat} (about : runs[first]? = some uri)
    (later : first < second) : (runs.take first).count uri < (runs.take second).count uri := by
  have upTo : runs.take (first + 1) = runs.take first ++ [uri] := by
    rw [List.take_add_one, about, Option.toList_some]
  have counted : (runs.take (first + 1)).count uri = (runs.take first).count uri + 1 := by
    rw [upTo, List.count_append, List.count_singleton_self]
  have grown : (runs.take (first + 1)).count uri ≤ (runs.take second).count uri :=
    (List.take_sublist_take_left later).count_le uri
  exact Nat.lt_of_lt_of_le (counted ▸ Nat.lt_succ_self _) grown

/-- So no two runs have one turn. -/
theorem turn?_injective {first second : Nat} (one : docket.turn? uri first = some turn)
    (other : docket.turn? uri second = some turn) : first = second := by
  obtain ⟨here, rfl⟩ := turn?_eq_some_iff.mp one
  obtain ⟨there, same⟩ := turn?_eq_some_iff.mp other
  rcases Nat.lt_trichotomy first second with before | equal | behind
  · exact absurd same (Nat.ne_of_gt (count_take_lt here before))
  · exact equal
  · exact absurd same (Nat.ne_of_lt (count_take_lt there behind))

/-- The run that has a turn is the one of that number. -/
theorem number?_eq_some_iff : docket.number? uri turn = some number ↔
    docket.turn? uri number = some turn := by
  rw [number?, List.find?_range_eq_some]
  constructor
  · exact fun found => of_decide_eq_true found.1
  · intro taken
    have about := (turn?_eq_some_iff.mp taken).1
    obtain ⟨known, _⟩ := List.getElem?_eq_some_iff.mp about
    refine ⟨decide_eq_true taken, List.mem_range.mpr known, fun other before => ?_⟩
    simp only [Bool.not_eq_true', decide_eq_false_iff_not]
    exact fun same => Nat.ne_of_lt before (turn?_injective same taken)

/-- There is a run for every turn below the number of runs. -/
theorem exists_number {runs : List String} (below : turn < runs.count uri) :
    ∃ number, runs[number]? = some uri ∧ (runs.take number).count uri = turn := by
  induction runs using List.reverseRecOn with
  | nil => exact nomatch below
  | append_singleton runs last inductionHypothesis =>
    by_cases earlier : turn < runs.count uri
    · obtain ⟨number, about, counted⟩ := inductionHypothesis earlier
      obtain ⟨known, _⟩ := List.getElem?_eq_some_iff.mp about
      refine ⟨number, (List.getElem?_append_left known).trans about, ?_⟩
      rwa [List.take_append_of_le_length (Nat.le_of_lt known)]
    · rw [List.count_append, List.count_singleton] at below
      split at below
      · next same =>
        refine ⟨runs.length, List.getElem?_concat_length.trans (congrArg some (eq_of_beq same)), ?_⟩
        rw [List.take_left']
        · omega
        · rfl
      · exact absurd below earlier

/-- A run is about some document, at some turn, if it was asked for. -/
theorem exists_turn (known : number < docket.runs.length) :
    ∃ uri turn, docket.number? uri turn = some number :=
  ⟨docket.runs[number], _, number?_eq_some_iff.mpr
    (turn?_eq_some_iff.mpr ⟨List.getElem?_eq_getElem known, rfl⟩)⟩

end Turns

/-- The documents of all runs are known, and the plans are in order. -/
structure Sound (docket : Docket) : Prop where
  planned : docket.timeline.Planned
  counted : docket.timeline.next = docket.runs.length
  addressed : ∀ number run, docket.timeline.run? number = some run →
    docket.runs[number]? = some run.uri
  reported : ∀ number report, docket.timeline.reports.get? number = some report →
    number < docket.runs.length

theorem sound_create (settings : Settings) : (create settings).Sound where
  planned := Timeline.planned_create settings
  counted := rfl
  addressed := fun _ _ found => nomatch found
  reported := fun _ _ found => nomatch found

end Docket

namespace Timeline

/-- What a move that asks for no run leaves of the runs and reports: the next number is the
same, a run that goes on went on before, and a report is of a run that was known. -/
structure Carries (before after : Timeline) : Prop where
  next : after.next = before.next
  runs : ∀ number run, after.run? number = some run →
    ∃ earlier, before.run? number = some earlier ∧ earlier.uri = run.uri
  reports : ∀ number report, after.reports.get? number = some report →
    before.reports.get? number = some report ∨ number < before.next

section Carries

variable {before after : Timeline}

/-- A timeline with the same runs and reports carries them. -/
theorem Carries.same (runs : after.running = before.running)
    (reports : after.reports = before.reports) (next : after.next = before.next) :
    Carries before after where
  next := next
  runs := fun number run goes => ⟨run, by rwa [run?, runs] at goes, rfl⟩
  reports := fun number report found => .inl (reports ▸ found)

/-- One run comes to an end, with a report or without. -/
theorem Carries.erase {number : Nat} (known : number < before.next)
    (runs : after.running = before.running.erase number)
    (reports : after.reports = before.reports ∨
      ∃ report, after.reports = before.reports.put number report)
    (next : after.next = before.next) : Carries before after where
  next := next
  runs := by
    intro other run goes
    rw [run?, runs, Table.get?_erase] at goes
    split at goes
    · cases goes
    · exact ⟨run, goes, rfl⟩
  reports := by
    intro other report found
    rcases reports with same | ⟨last, written⟩
    · exact .inl (same ▸ found)
    · rw [written, Table.get?_put] at found
      split at found
      · next same => exact .inr (same ▸ known)
      · exact .inl found

/-- One run goes on, on the same document. -/
theorem Carries.put {number : Nat} {run : Run} (goes : before.run? number = some run)
    (again : Run) (same : run.uri = again.uri)
    (runs : after.running = before.running.put number again)
    (reports : after.reports = before.reports) (next : after.next = before.next) :
    Carries before after where
  next := next
  runs := by
    intro other found going
    rw [run?, runs, Table.get?_put] at going
    split at going
    · next here =>
      obtain rfl := Option.some.inj going
      exact ⟨run, here ▸ goes, same⟩
    · exact ⟨found, going, rfl⟩
  reports := fun _ _ found => .inl (reports ▸ found)

/-- So does a turn of a run. -/
theorem Turn.carries {task : RunTask} {run : Run} (turn : Turn before run task after)
    (goes : before.run? task.number = some run) (known : task.number < before.next) :
    Carries before after := by
  cases turn with
  | refused | ended => exact .erase known rfl (.inr ⟨_, rfl⟩) rfl
  | started | resumed => exact .put goes { run with made := run.made + 1 } rfl rfl rfl rfl
  | repeated => exact .put goes { run with repeated := run.repeated + 1 } rfl rfl rfl rfl

/-- Every move but one that asks for a run carries the runs. -/
theorem carries_act {timeline : Timeline} (planned : timeline.Planned) {move : Move}
    (other : ∀ uri direction attempts, move ≠ .ask uri direction attempts) :
    Carries timeline (timeline.act move) := by
  cases move with
  | ask uri direction attempts => exact absurd rfl (other uri direction attempts)
  | connect | disconnect | observe | beginResolution => exact .same rfl rfl rfl
  | wait time =>
    simp only [act]
    exact waitFor_branches (.same rfl rfl rfl) fun _ => .same rfl rfl rfl
  | abandon number =>
    simp only [act]
    exact abandon_branches (fun _ => .same rfl rfl rfl)
      (fun run goes _ => .erase (planned.known number run goes) rfl (.inl rfl) rfl)
      fun run goes _ => .erase (planned.known number run goes) rfl (.inl rfl) rfl
  | work position =>
    simp only [act]
    refine workAt_branches ?same ?gone ?turned
    case same => exact fun _ => .same rfl rfl rfl
    case gone => exact fun _ _ _ => .same rfl rfl rfl
    case turned =>
      intro task run after _ goes turn
      have carries := turn.carries goes (planned.known task.number run goes)
      exact ⟨carries.next, carries.runs, carries.reports⟩

end Carries

end Timeline

namespace Docket

section Sound

variable {docket : Docket}

/-- A docket stays sound under every move but one that asks for a run. -/
theorem Sound.act (sound : docket.Sound) (move : Timeline.Move)
    (other : ∀ uri direction attempts, move ≠ .ask uri direction attempts) :
    Sound ⟨docket.timeline.act move, docket.runs⟩ := by
  have carries := Timeline.carries_act sound.planned other
  constructor
  · exact Timeline.planned_act sound.planned move
  · exact carries.next.trans sound.counted
  · intro number run goes
    obtain ⟨earlier, was, same⟩ := carries.runs number run goes
    exact same ▸ sound.addressed number earlier was
  · intro number report found
    rcases carries.reports number report found with was | known
    · exact sound.reported number report was
    · exact sound.counted ▸ known

/-- It stays sound when a run is asked for and its document noted. -/
theorem Sound.ask (sound : docket.Sound) (uri : String) (direction : Direction)
    (attempts : List (Attempt Nat)) :
    Sound ⟨docket.timeline.act (.ask uri direction attempts), docket.runs ++ [uri]⟩ := by
  constructor
  · exact Timeline.planned_act sound.planned (.ask uri direction attempts)
  · rw [List.length_append]
    exact congrArg (· + 1) sound.counted
  · intro number run goes
    have written := Table.get?_put docket.timeline.running docket.timeline.next number
      ⟨uri, direction, attempts, docket.timeline.agenda.now, 0, 0⟩
    have goes := written.symm.trans goes
    split at goes
    · next last =>
      rw [← last, sound.counted, ← Option.some.inj goes]
      exact List.getElem?_concat_length
    · have about := sound.addressed number run goes
      obtain ⟨known, _⟩ := List.getElem?_eq_some_iff.mp about
      exact (List.getElem?_append_left known).trans about
  · intro number report found
    rw [List.length_append]
    exact Nat.lt_succ_of_lt (sound.reported number report found)

/-- Every event leaves a docket sound. -/
theorem sound_act (sound : docket.Sound) (event : Event) : (docket.act event).Sound := by
  -- Only a run that is asked for is noted.
  have other (move? : Option Timeline.Move)
      (nothing : ∀ uri direction attempts, move? ≠ some (.ask uri direction attempts)) :
      Sound ⟨move?.elim docket.timeline docket.timeline.act, docket.runs ++ []⟩ := by
    rw [List.append_nil]
    cases move? with
    | none => exact sound
    | some move =>
      refine sound.act move fun uri direction attempts same => ?_
      exact nothing uri direction attempts (congrArg some same)
  cases event with
  | wait time => exact other (some (.wait time)) fun _ _ _ => nofun
  | errand uri errand =>
    cases errand with
    | ask direction attempts => exact sound.ask uri direction attempts
    | connect | disconnect | observe | beginResolution => exact other (some _) fun _ _ _ => nofun
    | abandon turn =>
      refine other ((docket.number? uri turn).map .abandon) fun _ _ _ same => ?_
      obtain ⟨_, _, impossible⟩ := Option.map_eq_some_iff.mp same
      exact nomatch impossible
    | work turn =>
      refine other (docket.move? (.errand uri (.work turn))) fun _ _ _ same => ?_
      obtain ⟨_, _, found⟩ := Option.bind_eq_some_iff.mp same
      obtain ⟨_, _, impossible⟩ := Option.map_eq_some_iff.mp found
      exact nomatch impossible

theorem sound_after (sound : docket.Sound) (events : List Event) : (docket.after events).Sound := by
  induction events generalizing docket with
  | nil => exact sound
  | cons first events inductionHypothesis => exact inductionHypothesis (sound_act sound first)

/-- The first ready task about a run is its only one. -/
theorem findIdx?_of_ready (sound : docket.Sound) {position : Nat} {task : RunTask}
    (ready : docket.timeline.agenda.ready[position]? = some task) :
    docket.timeline.agenda.ready.findIdx? (·.number = task.number) = some position := by
  have distinct : (docket.timeline.agenda.ready.map RunTask.number).Nodup := by
    have planned := sound.planned.distinct
    rw [Timeline.tasks, Agenda.planned, List.map_append] at planned
    exact (List.nodup_append.mp planned).1
  obtain ⟨inside, rfl⟩ := List.getElem?_eq_some_iff.mp ready
  rw [List.findIdx?_eq_some_iff_getElem]
  refine ⟨inside, decide_eq_true rfl, fun other before => ?_⟩
  have apart := List.pairwise_iff_getElem.mp distinct other position
    (by simpa using Nat.lt_trans before inside) (by simpa using inside) before
  simpa using apart

/-- Whatever a move makes of the timeline of a docket, an event does, or none. -/
theorem exists_event (sound : docket.Sound) (move : Timeline.Move) :
    ∃ events, (docket.after events).timeline = docket.timeline.act move := by
  cases move with
  | connect uri client method => exact ⟨[.errand uri (.connect client method)], rfl⟩
  | disconnect uri client => exact ⟨[.errand uri (.disconnect client)], rfl⟩
  | observe uri revision => exact ⟨[.errand uri (.observe revision)], rfl⟩
  | beginResolution uri accepted => exact ⟨[.errand uri (.beginResolution accepted)], rfl⟩
  | ask uri direction attempts => exact ⟨[.errand uri (.ask direction attempts)], rfl⟩
  | wait time => exact ⟨[.wait time], rfl⟩
  | abandon number =>
    cases goes : docket.timeline.running.get? number with
    | none =>
      refine ⟨[], ?_⟩
      simp only [Timeline.act, Timeline.abandon, goes]
      rfl
    | some run =>
      have known := sound.counted ▸ sound.planned.known number run goes
      obtain ⟨uri, turn, named⟩ := exists_turn known
      refine ⟨[.errand uri (.abandon turn)], ?_⟩
      simp only [after, List.foldl_cons, List.foldl_nil, Docket.act, move?, named, Option.map_some,
        Option.elim_some]
  | work position =>
    cases ready : docket.timeline.agenda.ready[position]? with
    | none =>
      refine ⟨[], ?_⟩
      simp only [Timeline.act, Timeline.workAt, ready]
      rfl
    | some task =>
      have known := sound.planned.numbered task (sound.planned.take ready).2.2
      obtain ⟨uri, turn, named⟩ := exists_turn (sound.counted ▸ known)
      refine ⟨[.errand uri (.work turn)], ?_⟩
      simp only [after, List.foldl_cons, List.foldl_nil, Docket.act, move?, named,
        findIdx?_of_ready sound ready, Option.bind_some, Option.map_some, Option.elim_some]

/-- Whatever moves make of the timeline of a docket, events do. -/
theorem exists_events (sound : docket.Sound) (moves : List Timeline.Move) :
    ∃ events, (docket.after events).timeline = docket.timeline.after moves := by
  induction moves generalizing docket with
  | nil => exact ⟨[], rfl⟩
  | cons first moves inductionHypothesis =>
    obtain ⟨begun, same⟩ := exists_event sound first
    obtain ⟨rest, ends⟩ := inductionHypothesis (sound_after sound begun)
    refine ⟨begun ++ rest, ?_⟩
    rw [after, List.foldl_append]
    exact ends.trans (congrArg (·.after moves) same)

end Sound

end Docket

end Flowdesk.Sync
