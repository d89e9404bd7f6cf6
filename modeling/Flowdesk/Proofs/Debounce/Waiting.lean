import Flowdesk.Proofs.Debounce.Lapse

/-!
# Calls that are left alone

A debounced call is carried out once, at the end of its wait, if its key is left alone until
then, and not at all otherwise. Which calls that are is told by what is asked alone: the
moves after a call have to let the time come at which its wait ends before one of them makes
another call of its key or cancels it.

What will have been carried out in the end can be told before every move, from the calls that
wait and the moves that are to come. No move changes it.
-/

namespace Flowdesk

variable {κ α : Type} [DecidableEq κ]

namespace Calls

/-- What may be asked of a debouncer on a clock. A call may come from outside of the clock. -/
inductive Move (κ α : Type) where
  | call (clocked : Bool) (key : κ) (content : α)
  | cancel (key : κ)
  | sleep (duration : Nat)

/-- The calls after a move. Waits begin and end while one sleeps, be it for no time. -/
def act (calls : Calls κ α) : Move κ α → Calls κ α
  | .call clocked key content => calls.callFrom clocked key content
  | .cancel key => calls.cancel key
  | .sleep duration => Busy.sleep (Busy.settle calls) duration

/-- Whether a move concerns a key: as time does, but not what is asked of other keys or from
outside of the clock. -/
def Move.concerns (key : κ) : Move κ α → Bool
  | .call clocked other _ => clocked && other = key
  | .cancel other => other = key
  | .sleep _ => true

/-- The calls after moves. -/
def after (calls : Calls κ α) (moves : List (Move κ α)) : Calls κ α := moves.foldl act calls

/-- Whether a point in time comes, in a sleep, before one of the moves from now on calls or
cancels a key. -/
def undisturbed (key : κ) (time : Nat) : Nat → List (Move κ α) → Bool
  | _, [] => false
  | now, .call clocked other _ :: later =>
      !(clocked && other = key) && undisturbed key time now later
  | now, .cancel other :: later => !decide (other = key) && undisturbed key time now later
  | now, .sleep duration :: later =>
      time ≤ now + duration || undisturbed key time (now + duration) later

/-- The calls among moves from now on that are left alone, each with the time at which its wait
ends, in order. -/
def leftAlone (delay : Nat) : Nat → List (Move κ α) → List (Carried κ α)
  | _, [] => []
  | now, .call true key content :: later =>
      if undisturbed key (now + delay) now later then
        ⟨key, content, now + delay⟩ :: leftAlone delay now later
      else leftAlone delay now later
  | now, .call false _ _ :: later | now, .cancel _ :: later => leftAlone delay now later
  | now, .sleep duration :: later => leftAlone delay (now + duration) later

/-- What holds between moves: some calls are about to begin their waits, after those that have
begun theirs. All of these waits end within a delay. -/
structure Standing (calls : Calls κ α) (begun fresh : List (Wait κ α)) : Prop where
  ready : calls.agenda.ready = fresh.map fun wait => .begin wait.call
  waiting : calls.agenda.waiting = begun.map Wait.task
  ordered : begun.Pairwise (·.due ≤ ·.due)
  ahead : ∀ wait ∈ begun,
    calls.agenda.now < wait.due ∧ wait.due ≤ calls.agenda.now + calls.debouncer.delay
  whole : ∀ wait ∈ fresh, wait.due = calls.agenda.now + calls.debouncer.delay
  awaits : calls.debouncer.Awaits (begun ++ fresh)

section Standing

variable {calls : Calls κ α} {begun fresh : List (Wait κ α)}

/-- No calls wait at the beginning. -/
theorem standing_create (delay : Nat) : Standing (create delay : Calls κ α) [] [] where
  ready := rfl
  waiting := rfl
  ordered := .nil
  ahead _ member := nomatch member
  whole _ member := nomatch member
  awaits := {
    distinct := .nil
    known := fun _ member => nomatch member
    awaited := fun _ _ latest => nomatch latest }

/-- Waits that begin later do not end earlier. -/
theorem Standing.ordered_append (standing : Standing calls begun fresh) :
    (begun ++ fresh).Pairwise (·.due ≤ ·.due) := by
  refine List.pairwise_append.mpr ⟨standing.ordered, ?_, ?_⟩
  · refine List.pairwise_of_forall_mem_list fun one left other right => ?_
    exact Nat.le_of_eq ((standing.whole one left).trans (standing.whole other right).symm)
  · intro one left other right
    rw [standing.whole other right]
    exact (standing.ahead one left).2

/-- Every wait ends within a delay. -/
theorem Standing.due_le (standing : Standing calls begun fresh) (wait : Wait κ α)
    (member : wait ∈ begun ++ fresh) :
    wait.due ≤ calls.agenda.now + calls.debouncer.delay := by
  rcases List.mem_append.mp member with member | member
  · exact (standing.ahead wait member).2
  · exact Nat.le_of_eq (standing.whole wait member)

/-- The waits of fresh calls begin, if they have a length. -/
theorem settle_begin (fresh : List (Wait κ α)) {calls : Calls κ α}
    (positive : calls.debouncer.delay ≠ 0)
    (ready : calls.agenda.ready = fresh.map fun wait => .begin wait.call)
    (whole : ∀ wait ∈ fresh, wait.due = calls.agenda.now + calls.debouncer.delay) :
    Busy.settle calls = { calls with agenda :=
      ⟨calls.agenda.now, [], calls.agenda.waiting ++ fresh.map Wait.task⟩ } := by
  induction fresh generalizing calls with
  | nil =>
    have idle : calls.agenda.ready = [] := ready
    rw [Busy.settle_of_idle calls idle, List.map_nil, List.append_nil, ← idle]
  | cons wait fresh inductionHypothesis =>
    let taken : Calls κ α := { calls with agenda :=
      { calls.agenda with ready := fresh.map fun wait => .begin wait.call } }
    let begun : Calls κ α := { taken with
      agenda := taken.agenda.putOff calls.debouncer.delay (.expire wait.call) }
    have performed : taken.perform (.begin wait.call) = begun := if_neg positive
    have settled : Busy.settle calls = Busy.settle begun := by
      rw [← performed]
      exact Busy.settle_of_ready calls ready
    have task : (calls.agenda.now + calls.debouncer.delay, CallTask.expire wait.call) = wait.task :=
      congrArg (·, CallTask.expire wait.call) (whole wait List.mem_cons_self).symm
    have others : ∀ other ∈ fresh,
        other.due = begun.agenda.now + begun.debouncer.delay :=
      fun other member => whole other (List.mem_cons_of_mem _ member)
    have finished := @inductionHypothesis begun positive rfl others
    rw [settled, finished]
    simp only [Agenda.putOff, begun, taken, task, List.append_assoc, List.singleton_append,
      List.map_cons]

/-- When nothing is ready any more, the waits that are over have lapsed. -/
theorem Standing.lapses_begin (standing : Standing calls begun fresh) :
    Lapses calls ((begun ++ fresh).filter (·.due ≤ calls.agenda.now))
        ((begun ++ fresh).filter (calls.agenda.now < ·.due)) (Busy.settle calls) ∧
      (Busy.settle calls).agenda = ⟨calls.agenda.now, [],
        ((begun ++ fresh).filter (calls.agenda.now < ·.due)).map Wait.task⟩ := by
  by_cases none : calls.debouncer.delay = 0
  · -- No wait has a length, so none has begun before and all end at once.
    have unbegun : begun = [] := List.eq_nil_iff_forall_not_mem.mpr fun wait member => by
      have ahead := standing.ahead wait member
      omega
    subst unbegun
    have whole : ∀ wait ∈ fresh, calls.agenda.now = wait.due := fun wait member => by
      rw [standing.whole wait member, none, Nat.add_zero]
    obtain ⟨ended, left⟩ := Wait.filter_of_early fun wait member =>
      Nat.le_of_eq (whole wait member).symm
    rw [List.nil_append, ended, left]
    obtain ⟨lapses, agenda⟩ := lapses_settle fresh [] .begin
      (fun later call delay => if_pos (delay.trans none)) standing.ready whole
      (by simpa using standing.awaits)
    refine ⟨lapses, ?_⟩
    rw [agenda]
    exact congrArg (Agenda.mk calls.agenda.now []) standing.waiting
  · have ahead : ∀ wait ∈ begun ++ fresh, calls.agenda.now < wait.due := by
      intro wait member
      rcases List.mem_append.mp member with member | member
      · exact (standing.ahead wait member).1
      · rw [standing.whole wait member]
        omega
    obtain ⟨ended, left⟩ := Wait.filter_of_late ahead
    rw [ended, left, settle_begin fresh none standing.ready standing.whole, standing.waiting,
      List.map_append]
    exact ⟨lapses_nil standing.awaits _, rfl⟩

/-- A sleep lets the waits lapse that end by its end. -/
theorem Standing.lapses_sleep (standing : Standing calls begun fresh) (duration : Nat) :
    Lapses calls ((begun ++ fresh).filter (·.due ≤ calls.agenda.now + duration))
        ((begun ++ fresh).filter (calls.agenda.now + duration < ·.due))
        (calls.act (.sleep duration)) ∧
      (calls.act (.sleep duration)).agenda = ⟨calls.agenda.now + duration, [],
        ((begun ++ fresh).filter (calls.agenda.now + duration < ·.due)).map Wait.task⟩ := by
  obtain ⟨first, settled⟩ := standing.lapses_begin
  obtain ⟨second, reached⟩ := lapses_reach (calls.agenda.now + duration)
    (congrArg Agenda.ready settled) (congrArg Agenda.waiting settled)
    (standing.ordered_append.filter _) first.awaits
  have slept : calls.act (.sleep duration) =
      Busy.reach (calls.agenda.now + duration) (Busy.settle calls) := by
    have now : Busy.now (Busy.settle calls) = calls.agenda.now := by
      change (Busy.settle calls).agenda.now = calls.agenda.now
      rw [settled]
    rw [act, Busy.sleep, now]
    exact Busy.settle_of_idle _ (congrArg Agenda.ready reached)
  have order : calls.agenda.now ≤ calls.agenda.now + duration := Nat.le_add_right _ _
  rw [slept, reached, Wait.filter_after order]
  exact ⟨first.later order standing.ordered_append second, rfl⟩

/-- After a while those calls wait that are due later, and none is new any more. -/
theorem Standing.sleep (standing : Standing calls begun fresh) (duration : Nat) :
    Standing (calls.act (.sleep duration))
      ((begun ++ fresh).filter (calls.agenda.now + duration < ·.due)) [] where
  ready := congrArg Agenda.ready (standing.lapses_sleep duration).2
  waiting := congrArg Agenda.waiting (standing.lapses_sleep duration).2
  ordered := standing.ordered_append.filter _
  ahead wait member := by
    obtain ⟨lapses, agenda⟩ := standing.lapses_sleep duration
    obtain ⟨listed, late⟩ := List.mem_filter.mp member
    have soon := standing.due_le wait listed
    rw [agenda, lapses.delay]
    exact ⟨of_decide_eq_true late, by dsimp only; omega⟩
  whole _ member := nomatch member
  awaits := by
    rw [List.append_nil]
    exact (standing.lapses_sleep duration).1.awaits

/-- A new call waits behind the others, under a number of its own. -/
theorem Standing.call (standing : Standing calls begun fresh) (key : κ) (content : α) :
    Standing (calls.call key content) begun (fresh ++ [⟨calls.agenda.now + calls.debouncer.delay,
      key, content, calls.debouncer.next⟩]) where
  ready := by
    rw [List.map_append, ← standing.ready]
    rfl
  waiting := standing.waiting
  ordered := standing.ordered
  ahead := standing.ahead
  whole wait member := by
    rcases List.mem_append.mp member with member | same
    · exact standing.whole wait member
    · rw [List.mem_singleton.mp same]
      rfl
  awaits := by
    rw [← List.append_assoc]
    exact standing.awaits.call _ key content

/-- A call that is cancelled goes on waiting, and will find that it was. -/
theorem Standing.cancel (standing : Standing calls begun fresh) (key : κ) :
    Standing (calls.cancel key) begun fresh :=
  ⟨standing.ready, standing.waiting, standing.ordered, standing.ahead, standing.whole,
    standing.awaits.cancel key⟩

theorem Standing.collect (standing : Standing calls begun fresh) :
    Standing calls.collect.2 begun fresh :=
  ⟨standing.ready, standing.waiting, standing.ordered, standing.ahead, standing.whole,
    standing.awaits⟩

/-- Whether the call of a wait will be carried out, as far as one can tell before some moves:
it is heeded so far, and left alone until its time. -/
def foresees (calls : Calls κ α) (moves : List (Move κ α)) (wait : Wait κ α) : Bool :=
  calls.debouncer.heeds wait.call && undisturbed wait.call.key wait.due calls.agenda.now moves

/-- What will have been carried out after some moves: what was carried out before them, the
calls that wait and are foreseen to come to the end of their waits, and the later calls that
are left alone. -/
def outlook (calls : Calls κ α) (waits : List (Wait κ α)) (moves : List (Move κ α)) :
    List (Carried κ α) :=
  calls.carried.reverse ++ (waits.filter (calls.foresees moves)).map Wait.carried ++
    leftAlone calls.debouncer.delay calls.agenda.now moves

/-- A call overtakes those of its key before it, and may be left alone itself. -/
theorem outlook_call {waits : List (Wait κ α)} (awaits : calls.debouncer.Awaits waits) (key : κ)
    (content : α) (later : List (Move κ α)) :
    (calls.call key content).outlook (waits ++ [⟨calls.agenda.now + calls.debouncer.delay,
        key, content, calls.debouncer.next⟩]) later =
      calls.outlook waits (.call true key content :: later) := by
  let wait : Wait κ α := ⟨calls.agenda.now + calls.debouncer.delay, key, content,
    calls.debouncer.next⟩
  have before : waits.filter ((calls.call key content).foresees later) =
      waits.filter (calls.foresees (.call true key content :: later)) := by
    refine List.filter_congr fun wait member => ?_
    have overtaken := Debouncer.heeds_call calls.debouncer key (awaits.known wait member)
    change ((calls.debouncer.call key).2.heeds wait.call && _) = _
    rw [overtaken, foresees, undisturbed, Bool.true_and, Bool.and_comm (!_), Bool.and_assoc]
    rfl
  have itself : (calls.call key content).foresees later wait =
      undisturbed key wait.due calls.agenda.now later := by
    have heeded : (calls.debouncer.call key).2.heeds wait.call = true := by
      simp [wait, Debouncer.heeds, Debouncer.call]
    change ((calls.debouncer.call key).2.heeds wait.call && _) = _
    rw [heeded, Bool.true_and]
    rfl
  change calls.carried.reverse ++
      ((waits ++ [wait]).filter ((calls.call key content).foresees later)).map Wait.carried ++
    leftAlone calls.debouncer.delay calls.agenda.now later = _
  rw [List.filter_append, before, outlook, leftAlone, List.filter_cons, itself]
  split <;> simp [wait, Wait.carried]

/-- What a cancellation does to the calls that wait it does before all that comes later. -/
theorem outlook_cancel (waits : List (Wait κ α)) (key : κ) (later : List (Move κ α)) :
    (calls.cancel key).outlook waits later = calls.outlook waits (.cancel key :: later) := by
  have same : waits.filter ((calls.cancel key).foresees later) =
      waits.filter (calls.foresees (.cancel key :: later)) := by
    refine List.filter_congr fun wait _ => ?_
    change ((calls.debouncer.cancel key).heeds wait.call && _) = _
    rw [Debouncer.heeds_cancel, foresees, undisturbed, Bool.and_comm (!_), Bool.and_assoc]
    rfl
  rw [outlook, outlook, ← same]
  rfl

/-- A sleep carries out what it was foreseen to carry out. -/
theorem outlook_sleep {waits : List (Wait κ α)} {duration : Nat}
    (ordered : waits.Pairwise (·.due ≤ ·.due))
    (lapses : Lapses calls (waits.filter (·.due ≤ calls.agenda.now + duration))
      (waits.filter (calls.agenda.now + duration < ·.due)) (calls.act (.sleep duration)))
    (now : (calls.act (.sleep duration)).agenda.now = calls.agenda.now + duration)
    (later : List (Move κ α)) :
    (calls.act (.sleep duration)).outlook
        (waits.filter (calls.agenda.now + duration < ·.due)) later =
      calls.outlook waits (.sleep duration :: later) := by
  let time := calls.agenda.now + duration
  have ended : (waits.filter (·.due ≤ time)).filter (calls.debouncer.heeds ·.call) =
      (waits.filter (·.due ≤ time)).filter (calls.foresees (.sleep duration :: later)) := by
    refine List.filter_congr fun wait member => ?_
    rw [foresees, undisturbed, (List.mem_filter.mp member).2, Bool.true_or, Bool.and_true]
  have rest : (waits.filter (time < ·.due)).filter
        ((calls.act (.sleep duration)).foresees later) =
      (waits.filter (time < ·.due)).filter (calls.foresees (.sleep duration :: later)) := by
    refine List.filter_congr fun wait member => ?_
    have late : ¬wait.due ≤ time :=
      Nat.not_le.mpr (of_decide_eq_true (List.mem_filter.mp member).2)
    rw [foresees, foresees, lapses.heeded wait member, now, undisturbed, decide_eq_false late,
      Bool.false_or]
  rw [outlook, outlook, lapses.carried, lapses.delay, now, rest, ended, leftAlone]
  conv => rhs; rw [← Wait.filter_append_filter ordered time]
  simp [time]

/-- No move changes what will have been carried out. -/
theorem Standing.act (standing : Standing calls begun fresh) (move : Move κ α)
    (later : List (Move κ α)) :
    ∃ begun' fresh', Standing (calls.act move) begun' fresh' ∧
      (calls.act move).debouncer.delay = calls.debouncer.delay ∧
      (calls.act move).outlook (begun' ++ fresh') later =
        calls.outlook (begun ++ fresh) (move :: later) := by
  cases move with
  | call clocked key content =>
    cases clocked with
    | false => exact ⟨begun, fresh, standing, rfl, rfl⟩
    | true =>
      refine ⟨begun, _, standing.call key content, rfl, ?_⟩
      rw [← List.append_assoc]
      exact outlook_call standing.awaits key content later
  | cancel key => exact ⟨begun, fresh, standing.cancel key, rfl, outlook_cancel _ key later⟩
  | sleep duration =>
    obtain ⟨lapses, agenda⟩ := standing.lapses_sleep duration
    refine ⟨_, _, standing.sleep duration, lapses.delay, ?_⟩
    rw [List.append_nil]
    exact outlook_sleep standing.ordered_append lapses (congrArg Agenda.now agenda) later

/-- After the moves, their outlook has come true. -/
theorem Standing.after (standing : Standing calls begun fresh) (moves : List (Move κ α)) :
    ∃ begun' fresh', Standing (calls.after moves) begun' fresh' ∧
      (calls.after moves).debouncer.delay = calls.debouncer.delay ∧
      (calls.after moves).collect.1 = calls.outlook (begun ++ fresh) moves := by
  induction moves generalizing calls begun fresh with
  | nil =>
    refine ⟨begun, fresh, standing, rfl, ?_⟩
    simp [Calls.after, Calls.collect, outlook, foresees, undisturbed, leftAlone]
  | cons move later inductionHypothesis =>
    obtain ⟨begun', fresh', next, delay, outlook⟩ := standing.act move later
    obtain ⟨begun'', fresh'', final, delay', carried⟩ := inductionHypothesis next
    exact ⟨begun'', fresh'', final, delay'.trans delay, carried.trans outlook⟩

/-- A key waits exactly if one of its calls is carried out once time passes. -/
theorem Standing.pending_iff (standing : Standing calls begun fresh) (key : κ) (more : Nat) :
    calls.debouncer.pending key = true ↔
      ∃ carried ∈ (calls.collect.2.act (.sleep (calls.debouncer.delay + more))).collect.1,
        carried.key = key := by
  obtain ⟨lapses, -⟩ := standing.collect.lapses_sleep (calls.debouncer.delay + more)
  have all : (begun ++ fresh).filter
      (·.due ≤ calls.agenda.now + (calls.debouncer.delay + more)) = begun ++ fresh := by
    refine (Wait.filter_of_early fun wait member => ?_).1
    have soon := standing.due_le wait member
    omega
  have collected : (calls.collect.2.act (.sleep (calls.debouncer.delay + more))).collect.1 =
      ((begun ++ fresh).filter (calls.debouncer.heeds ·.call)).map Wait.carried := by
    have carried := congrArg List.reverse lapses.carried
    rw [List.reverse_append, List.reverse_reverse] at carried
    change (calls.collect.2.act _).carried.reverse = _
    rw [carried]
    change [] ++ (((begun ++ fresh).filter
      (·.due ≤ calls.agenda.now + (calls.debouncer.delay + more))).filter _).map _ = _
    rw [all]
    rfl
  rw [collected, standing.awaits.pending_iff]
  simp only [List.mem_map, List.mem_filter]
  constructor
  · rintro ⟨wait, member, same, heeded⟩
    exact ⟨wait.carried, ⟨wait, ⟨member, heeded⟩, rfl⟩, same⟩
  · rintro ⟨_, ⟨wait, ⟨member, heeded⟩, rfl⟩, same⟩
    exact ⟨wait, member, same, heeded⟩

end Standing

section Concerns

variable (key other : κ)

@[simp] theorem concerns_call (clocked : Bool) (content : α) :
    (Move.call clocked other content).concerns key = (clocked && other = key) := rfl

@[simp] theorem concerns_cancel :
    (Move.cancel other : Move κ α).concerns key = decide (other = key) := rfl

@[simp] theorem concerns_sleep (duration : Nat) :
    (Move.sleep duration : Move κ α).concerns key = true := rfl

/-- Whether a key is disturbed is told by the moves that concern it. -/
theorem undisturbed_filter (key : κ) (time now : Nat) (moves : List (Move κ α)) :
    undisturbed key time now (moves.filter (·.concerns key)) = undisturbed key time now moves := by
  induction moves generalizing now with
  | nil => rfl
  | cons move later inductionHypothesis =>
    rw [List.filter_cons]
    cases move with
    | call clocked other content =>
      cases disturbs : clocked && decide (other = key) <;>
        simp [undisturbed, disturbs, inductionHypothesis]
    | cancel other =>
      by_cases disturbs : other = key <;>
        simp [undisturbed, disturbs, inductionHypothesis]
    | sleep duration => simp [undisturbed, inductionHypothesis]

/-- The calls of a key that are left alone are told by the moves that concern it. -/
theorem leftAlone_filter (delay now : Nat) (key : κ) (moves : List (Move κ α)) :
    leftAlone delay now (moves.filter (·.concerns key)) =
      (leftAlone delay now moves).filter (·.key = key) := by
  induction moves generalizing now with
  | nil => rfl
  | cons move later inductionHypothesis =>
    rw [List.filter_cons]
    cases move with
    | call clocked other content =>
      cases clocked with
      | false => exact inductionHypothesis now
      | true =>
        by_cases same : other = key
        · subst same
          simp only [concerns_call, leftAlone, decide_true, Bool.and_true, if_true,
            undisturbed_filter, inductionHypothesis]
          split <;> simp
        · simp only [concerns_call, leftAlone, same, decide_false, Bool.and_false,
            Bool.false_eq_true, if_false, inductionHypothesis]
          split <;> simp [same]
    | cancel other =>
      by_cases same : other = key <;>
        simp [leftAlone, same, inductionHypothesis]
    | sleep duration => simp [leftAlone, inductionHypothesis]

end Concerns

/-- The calls that are carried out are those that are left alone, each once and at the end of its
wait. What is asked of other keys or from outside of the clock never matters to a key. At any
point, a key waits exactly if one of its calls is carried out once time passes without anything
else.

Proof: the calls that wait are told in order of the end of their wait, and a call is awaited
exactly if no later call or cancellation of its key has come since. What is still to be carried
out is then a function of the calls that wait and of the moves to come, which every move
preserves. A key without a call that waits has no influence on that of another one. -/
theorem calls_left_alone_are_carried (delay : Nat) (moves : List (Move κ α)) :
    ((create delay).after moves).collect.1 = leftAlone delay 0 moves ∧
      (∀ key, ((create delay).after moves).collect.1.filter (·.key = key) =
        ((create delay).after (moves.filter (·.concerns key))).collect.1) ∧
      ∀ key more, ((create delay).after moves).debouncer.pending key = true ↔
        ∃ carried ∈ (((create delay).after moves).collect.2.act
          (.sleep (delay + more))).collect.1, carried.key = key := by
  have carried : ∀ moves : List (Move κ α),
      ((create delay).after moves).collect.1 = leftAlone delay 0 moves := by
    intro moves
    obtain ⟨_, _, _, _, collected⟩ := (standing_create delay).after moves
    rw [collected]
    rfl
  refine ⟨carried moves, fun key => ?_, fun key more => ?_⟩
  · rw [carried, carried, leftAlone_filter]
  · obtain ⟨begun, fresh, standing, same, _⟩ := (standing_create delay).after moves
    have pending := standing.pending_iff key more
    rwa [same] at pending

example : leftAlone 250 0 [.call true 'a' 0, .sleep 100, .call true 'a' 1, .sleep 300] =
    [⟨'a', 1, 350⟩] := rfl

end Calls

end Flowdesk
