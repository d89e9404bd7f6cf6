import Flowdesk.Proofs.Sync.Docket
import Flowdesk.Proofs.Sync.Slice
import Flowdesk.Proofs.Sync.Touch

/-!
# Documents keep apart

Documents share a coordinator, its agenda and its runs, and their runs overlap in time.
Still each fares as if it were alone. The slice of a docket for a document is the docket
that comes of the events that concern the document: one of these events does to the
slice what it does to the whole, and every other one leaves the slice as it is. All that
is answered about the document and all that is known of it is found in the slice.
-/

namespace Flowdesk.Sync

open Data

/-- Whether an event has to do with a document. Time goes by for every one. -/
def Event.concerns (uri : String) : Event → Bool
  | .errand about _ => about = uri
  | .wait _ => true

/-- The answer to what is asked about a document. -/
inductive Answer where
  | done
  | judged (observation : Observation)
  /-- What is reported of a run by then. -/
  | reported (report? : Option Report)
  deriving DecidableEq

namespace Docket

/-- The answer to an event if it is addressed to a document. -/
def answer? (docket : Docket) (uri : String) : Event → Option Answer
  | .wait _ => none
  | .errand about errand =>
      if about = uri then
        match errand with
        | .observe revision => some (.judged (docket.timeline.coordinator.observe uri revision).1)
        | .abandon turn | .work turn =>
            some (.reported ((docket.act (.errand uri errand)).report? uri turn))
        | .connect .. | .disconnect _ | .beginResolution _ | .ask .. => some .done
      else none

/-- The answers to the events that are addressed to a document, in order. -/
def answersTo (uri : String) : Docket → List Event → List Answer
  | _, [] => []
  | docket, event :: events =>
      (docket.answer? uri event).toList ++ answersTo uri (docket.act event) events

/-- What a docket holds of one document. -/
def slice (docket : Docket) (uri : String) : Docket where
  timeline := docket.timeline.slice uri (docket.turn? uri) (docket.runs.count uri)
  runs := List.replicate (docket.runs.count uri) uri

section Slice

variable {docket : Docket} {uri about : String} {number turn : Nat}

theorem slice_create (settings : Settings) (uri : String) :
    (create settings).slice uri = create settings := rfl

theorem distinguishes_turn? (docket : Docket) (uri : String) : Distinguishes (docket.turn? uri) :=
  fun _ _ _ => turn?_injective

/-- The runs of the slice go by their turns. -/
theorem turn?_slice : (docket.slice uri).turn? uri number =
    if number < docket.runs.count uri then some number else none := by
  unfold turn? slice
  rw [List.getElem?_replicate, List.take_replicate, List.count_replicate_self]
  split
  · next below => rw [if_pos rfl, Nat.min_eq_left (Nat.le_of_lt below)]
  · rfl

theorem number?_slice : (docket.slice uri).number? uri turn =
    (docket.number? uri turn).map fun _ => turn := by
  cases named : docket.number? uri turn with
  | some number =>
    obtain ⟨about, rfl⟩ := turn?_eq_some_iff.mp (number?_eq_some_iff.mp named)
    obtain ⟨known, _⟩ := List.getElem?_eq_some_iff.mp about
    have below := count_take_lt about known
    rw [List.take_length] at below
    exact number?_eq_some_iff.mpr (turn?_slice.trans (if_pos below))
  | none =>
    rw [Option.map_none, Option.eq_none_iff_forall_ne_some]
    intro number listed
    have taken := number?_eq_some_iff.mp listed
    rw [turn?_slice] at taken
    split at taken
    · next below =>
      obtain rfl := Option.some.inj taken
      obtain ⟨earlier, found⟩ := exists_number below
      have listed := number?_eq_some_iff.mpr (turn?_eq_some_iff.mpr found)
      exact nomatch named.symm.trans listed
    · exact nomatch taken

/-- What was reported of the runs of the document is found in the slice. -/
theorem report?_slice : (docket.slice uri).report? uri turn = docket.report? uri turn := by
  unfold report?
  rw [number?_slice]
  cases named : docket.number? uri turn with
  | none => rfl
  | some number =>
    exact Table.get?_pick _ (docket.distinguishes_turn? uri) (number?_eq_some_iff.mp named)

/-- So is its course. -/
theorem course_slice : (docket.slice uri).timeline.course uri = docket.timeline.course uri :=
  docket.timeline.coordinator.course_slice

/-- A run that has a turn is about the document. -/
theorem Sound.uri_of_turn? (sound : docket.Sound) (taken : docket.turn? uri number = some turn)
    (run : Run) (goes : docket.timeline.run? number = some run) : run.uri = uri :=
  Option.some.inj
    ((sound.addressed number run goes).symm.trans (turn?_eq_some_iff.mp taken).1)

/-- A run of another document has no turn. -/
theorem turn?_elsewhere (taken : docket.turn? about number = some turn) (elsewhere : about ≠ uri) :
    docket.turn? uri number = none := by
  have other := (turn?_eq_some_iff.mp taken).1
  unfold turn?
  rw [other]
  exact if_neg fun same => elsewhere (Option.some.inj same)

/-- The turns of the runs that are known stay when another run is noted. -/
theorem turn?_noted {noted : Docket} (grown : noted.runs = docket.runs ++ [about])
    (known : number < docket.runs.length) : noted.turn? uri number = docket.turn? uri number := by
  unfold turn?
  rw [grown, List.getElem?_append_left known, List.take_append_of_le_length (Nat.le_of_lt known)]

/-- The run that is noted has the next turn. -/
theorem turn?_last {noted : Docket} (grown : noted.runs = docket.runs ++ [about]) :
    noted.turn? uri docket.runs.length =
      if about = uri then some (docket.runs.count uri) else none := by
  unfold turn?
  rw [grown, List.getElem?_concat_length, List.take_left']
  · simp only [Option.some.injEq]
  · rfl

/-- So the slice of what is known already stays as well. -/
theorem Sound.slice_noted (sound : docket.Sound) {noted : Docket}
    (grown : noted.runs = docket.runs ++ [about]) (next : Nat) :
    docket.timeline.slice uri (noted.turn? uri) next =
      docket.timeline.slice uri (docket.turn? uri) next := by
  have known (number : Nat) (below : number < docket.timeline.next) :
      noted.turn? uri number = docket.turn? uri number :=
    turn?_noted grown (sound.counted ▸ below)
  apply Timeline.slice_congr
  · exact fun task planned => known task.number (sound.planned.numbered task planned)
  · exact fun number run goes => known number (sound.planned.known number run goes)
  · exact fun number report found => turn?_noted grown (sound.reported number report found)

/-- An event that asks for no run makes its move. -/
theorem act_of_move {event : Event} {move : Timeline.Move} (unasked : event.asked = [])
    (made : docket.move? event = some move) :
    docket.act event = { docket with timeline := docket.timeline.act move } := by
  unfold act
  rw [unasked, made, List.append_nil]
  rfl

theorem act_abandon (docket : Docket) (uri : String) (turn : Nat) :
    docket.act (.errand uri (.abandon turn)) = { docket with
      timeline := (docket.number? uri turn).elim docket.timeline docket.timeline.abandon } := by
  unfold act move?
  cases named : docket.number? uri turn <;>
    simp only [named, Option.map_none, Option.map_some, Option.elim_none, Option.elim_some,
      Event.asked, List.append_nil, Timeline.act]

theorem act_work (docket : Docket) (uri : String) (turn : Nat) :
    docket.act (.errand uri (.work turn)) = { docket with
      timeline := (docket.number? uri turn).elim docket.timeline docket.timeline.workOn } := by
  unfold act move?
  cases named : docket.number? uri turn with
  | none => simp only [named, Option.bind_none, Option.elim_none, Event.asked, List.append_nil]
  | some number =>
    simp only [named, Option.bind_some, Option.elim_some, Event.asked, List.append_nil,
      Timeline.workOn]
    cases docket.timeline.agenda.ready.findIdx? (·.number = number) <;> rfl

/-- A move is made in the slice as in the whole, if it is the same move there. -/
theorem slice_move {event : Event} {move : Timeline.Move} (unasked : event.asked = [])
    (made : docket.move? event = some move) (again : (docket.slice uri).move? event = some move)
    (same : (docket.timeline.act move).slice uri (docket.turn? uri) (docket.runs.count uri) =
      (docket.slice uri).timeline.act move) :
    (docket.act event).slice uri = (docket.slice uri).act event := by
  rw [act_of_move unasked made, act_of_move unasked again]
  exact congrArg (Docket.mk · (docket.slice uri).runs) same

/-- A move about another document leaves no trace. -/
theorem slice_move_elsewhere {event : Event} {move : Timeline.Move} (unasked : event.asked = [])
    (made : docket.move? event = some move)
    (same : (docket.timeline.act move).slice uri (docket.turn? uri) (docket.runs.count uri) =
      (docket.slice uri).timeline) : (docket.act event).slice uri = docket.slice uri := by
  rw [act_of_move unasked made]
  exact congrArg (Docket.mk · (docket.slice uri).runs) same

/-- A run that is asked for has the same turn in the slice as in the whole. -/
theorem Sound.slice_ask (sound : docket.Sound) (uri : String) (direction : Direction)
    (attempts : List (Attempt Nat)) :
    (docket.act (.errand uri (.ask direction attempts))).slice uri =
      (docket.slice uri).act (.errand uri (.ask direction attempts)) := by
  -- The turns in the slice are read off all the runs, the new one included.
  let asked : Docket := docket.act (.errand uri (.ask direction attempts))
  have grown : asked.runs = docket.runs ++ [uri] := rfl
  have counted : asked.runs.count uri = docket.runs.count uri + 1 := by
    rw [grown, List.count_append, List.count_singleton_self]
  have last : asked.turn? uri docket.timeline.next = some (docket.runs.count uri) :=
    sound.counted ▸ (turn?_last grown).trans (if_pos rfl)
  have timeline : asked.timeline.slice uri (asked.turn? uri) (asked.runs.count uri) =
      ((docket.slice uri).timeline.ask uri direction attempts).2 := by
    rw [counted, slice, ← sound.slice_noted grown]
    exact Timeline.slice_ask (asked.distinguishes_turn? uri) direction attempts last
  have runs : List.replicate (asked.runs.count uri) uri = (docket.slice uri).runs ++ [uri] := by
    rw [counted, List.replicate_succ', slice]
  exact congrArg₂ Docket.mk timeline runs

theorem Sound.slice_ask_elsewhere (sound : docket.Sound) (elsewhere : about ≠ uri)
    (direction : Direction) (attempts : List (Attempt Nat)) :
    (docket.act (.errand about (.ask direction attempts))).slice uri = docket.slice uri := by
  let asked : Docket := docket.act (.errand about (.ask direction attempts))
  have grown : asked.runs = docket.runs ++ [about] := rfl
  have counted : asked.runs.count uri = docket.runs.count uri := by
    rw [grown, List.count_append, List.count_singleton, if_neg (by simpa using elsewhere),
      Nat.add_zero]
  have unnamed : asked.turn? uri docket.timeline.next = none :=
    sound.counted ▸ (turn?_last grown).trans (if_neg elsewhere)
  have timeline : asked.timeline.slice uri (asked.turn? uri) (asked.runs.count uri) =
      (docket.slice uri).timeline := by
    rw [counted, slice, ← sound.slice_noted grown]
    exact Timeline.slice_ask_elsewhere unnamed about direction attempts
  exact congrArg₂ Docket.mk timeline (congrArg (List.replicate · uri) counted)

/-- What is asked about the document is done in the slice as in the whole. -/
theorem Sound.slice_errand (sound : docket.Sound) (uri : String) (errand : Errand) :
    (docket.act (.errand uri errand)).slice uri = (docket.slice uri).act (.errand uri errand) := by
  let coordinator : Coordinator := docket.timeline.coordinator
  have distinct := docket.distinguishes_turn? uri
  cases errand with
  | connect client method =>
    refine slice_move rfl rfl rfl (Timeline.slice_coordinate (·.connect uri client method) ?_)
    exact coordinator.slice_connect client method
  | disconnect client =>
    refine slice_move rfl rfl rfl (Timeline.slice_coordinate (·.disconnect uri client) ?_)
    exact coordinator.slice_disconnect client
  | observe revision =>
    refine slice_move rfl rfl rfl (Timeline.slice_coordinate (·.observe uri revision |>.2) ?_)
    exact congrArg Prod.snd (coordinator.slice_observe revision).symm
  | beginResolution accepted =>
    refine slice_move rfl rfl rfl (Timeline.slice_coordinate (·.beginResolution uri accepted) ?_)
    exact coordinator.slice_beginResolution accepted
  | ask direction attempts => exact sound.slice_ask uri direction attempts
  | abandon turn =>
    rw [act_abandon, act_abandon, number?_slice]
    cases named : docket.number? uri turn with
    | none => rfl
    | some number =>
      have taken := number?_eq_some_iff.mp named
      exact congrArg (Docket.mk · _)
        (Timeline.slice_abandon distinct taken (sound.uri_of_turn? taken))
  | work turn =>
    rw [act_work, act_work, number?_slice]
    cases named : docket.number? uri turn with
    | none => rfl
    | some number =>
      have taken := number?_eq_some_iff.mp named
      exact congrArg (Docket.mk · _)
        (Timeline.slice_workOn distinct taken (sound.uri_of_turn? taken))

/-- What is asked about another document leaves the slice as it is. -/
theorem Sound.slice_errand_elsewhere (sound : docket.Sound) (elsewhere : about ≠ uri)
    (errand : Errand) : (docket.act (.errand about errand)).slice uri = docket.slice uri := by
  let coordinator : Coordinator := docket.timeline.coordinator
  have other (number turn : Nat) (taken : docket.turn? about number = some turn) (run : Run)
      (goes : docket.timeline.run? number = some run) : run.uri ≠ uri :=
    sound.uri_of_turn? taken run goes ▸ elsewhere
  cases errand with
  | connect client method =>
    refine slice_move_elsewhere rfl rfl (Timeline.slice_coordinate_elsewhere _ ?_)
    exact coordinator.slice_setCourse_elsewhere elsewhere _
  | disconnect client =>
    refine slice_move_elsewhere rfl rfl (Timeline.slice_coordinate_elsewhere _ ?_)
    exact coordinator.slice_disconnect_elsewhere elsewhere client
  | observe revision =>
    refine slice_move_elsewhere rfl rfl (Timeline.slice_coordinate_elsewhere _ ?_)
    exact coordinator.slice_setCourse_elsewhere elsewhere _
  | beginResolution accepted =>
    refine slice_move_elsewhere rfl rfl (Timeline.slice_coordinate_elsewhere _ ?_)
    exact coordinator.slice_setCourse_elsewhere elsewhere _
  | ask direction attempts => exact sound.slice_ask_elsewhere elsewhere direction attempts
  | abandon turn =>
    rw [act_abandon]
    cases named : docket.number? about turn with
    | none => rfl
    | some number =>
      have taken := number?_eq_some_iff.mp named
      exact congrArg (Docket.mk · _) (Timeline.slice_abandon_elsewhere
        (turn?_elsewhere taken elsewhere) (other number turn taken))
  | work turn =>
    rw [act_work]
    cases named : docket.number? about turn with
    | none => rfl
    | some number =>
      have taken := number?_eq_some_iff.mp named
      exact congrArg (Docket.mk · _) (Timeline.slice_workOn_elsewhere
        (turn?_elsewhere taken elsewhere) (other number turn taken))

/-- An event does to the slice what it does to the whole if it concerns the document, and
nothing otherwise. -/
theorem Sound.slice_act (sound : docket.Sound) (uri : String) (event : Event) :
    (docket.act event).slice uri =
      if event.concerns uri then (docket.slice uri).act event else docket.slice uri := by
  cases event with
  | wait time => exact slice_move rfl rfl rfl (Timeline.slice_waitFor time)
  | errand about errand =>
    by_cases here : about = uri
    · subst here
      have concerned : (Event.errand about errand).concerns about = true := decide_eq_true rfl
      rw [if_pos concerned]
      exact sound.slice_errand about errand
    · have spared : ¬(Event.errand about errand).concerns uri = true := by
        simpa [Event.concerns] using here
      rw [if_neg spared]
      exact sound.slice_errand_elsewhere here errand

/-- The slice after events is the docket that comes of those that concern the document. -/
theorem Sound.slice_after (sound : docket.Sound) (uri : String) (events : List Event) :
    (docket.after events).slice uri =
      (docket.slice uri).after (events.filter (Event.concerns uri)) := by
  induction events generalizing docket with
  | nil => rfl
  | cons first events inductionHypothesis =>
    refine (inductionHypothesis (sound_act sound first)).trans ?_
    rw [sound.slice_act, List.filter_cons]
    split <;> rfl

/-- An event that is addressed to the document is answered from the slice. -/
theorem Sound.answer?_slice (sound : docket.Sound) (uri : String) (event : Event) :
    (docket.slice uri).answer? uri event = docket.answer? uri event := by
  have reported (errand : Errand) (turn : Nat) :
      ((docket.slice uri).act (.errand uri errand)).report? uri turn =
        (docket.act (.errand uri errand)).report? uri turn := by
    rw [← sound.slice_errand, report?_slice]
  cases event with
  | wait time => rfl
  | errand about errand =>
    cases errand with
    | connect | disconnect | beginResolution | ask => rfl
    | abandon turn => simp only [answer?, reported]
    | work turn => simp only [answer?, reported]
    | observe revision =>
      have judged : ((docket.slice uri).timeline.coordinator.observe uri revision).1 =
          (docket.timeline.coordinator.observe uri revision).1 := by
        change ((docket.timeline.coordinator.slice uri).observe uri revision).1 = _
        rw [Coordinator.slice_observe]
      simp only [answer?, judged]

/-- An event that does not concern the document is not answered. -/
theorem answer?_of_spared {event : Event} (spared : ¬event.concerns uri = true) :
    docket.answer? uri event = none := by
  cases event with
  | wait => rfl
  | errand about errand => exact if_neg fun here => spared (decide_eq_true here)

/-- So are all of them. -/
theorem Sound.answersTo_slice (sound : docket.Sound) (uri : String) (events : List Event) :
    answersTo uri (docket.slice uri) (events.filter (Event.concerns uri)) =
      answersTo uri docket events := by
  induction events generalizing docket with
  | nil => rfl
  | cons first events inductionHypothesis =>
    have rest := inductionHypothesis (sound_act sound first)
    rw [sound.slice_act] at rest
    rw [List.filter_cons, answersTo]
    by_cases concerned : first.concerns uri = true
    · rw [if_pos concerned] at rest ⊢
      rw [answersTo, sound.answer?_slice, rest]
    · rw [if_neg concerned] at rest ⊢
      rw [answer?_of_spared concerned, rest]
      rfl

end Slice

/-- Whatever happens to documents in turn and with overlapping runs, each document fares as
if only what is asked about it had happened, at the same times: it gets the same answers,
its runs are reported alike, and its course comes out the same, with its status, conflicts,
pending changes and methods, the revision that is accepted and whether a sync is under
way. Every interleaving of moves is one of events.

Proof: what happens to one document can be looked at by itself, in a slice that keeps its course
and its runs under their turns. An event about the document does in the slice what it does in the
whole, any other one leaves no trace there, and so the slice of the whole is the run of what
concerns the document. Every move is done by an event, since a task that is carried out is the
first one of its run. -/
theorem documents_keep_apart :
    (∀ (settings : Settings) (moves : List Timeline.Move), ∃ events : List Event,
      ((create settings).after events).timeline = (Timeline.create settings).after moves) ∧
    ∀ (settings : Settings) (events : List Event) (uri : String),
      let alone := events.filter (Event.concerns uri)
      answersTo uri (create settings) events = answersTo uri (create settings) alone ∧
      (∀ turn, ((create settings).after events).report? uri turn =
        ((create settings).after alone).report? uri turn) ∧
      ((create settings).after events).timeline.course uri =
        ((create settings).after alone).timeline.course uri := by
  refine ⟨fun settings moves => exists_events (sound_create settings) moves, ?_⟩
  intro settings events uri alone
  have sound := sound_create settings
  have sliced : ((create settings).after events).slice uri = (create settings).after alone := by
    rw [sound.slice_after, slice_create]
  refine ⟨?_, fun turn => ?_, ?_⟩
  · rw [← sound.answersTo_slice, slice_create]
  · rw [← sliced, report?_slice]
  · rw [← sliced, course_slice]

end Docket

end Flowdesk.Sync
