import Flowdesk.Debounce.Calls

/-!
# Waits that lapse

The calls that wait, in the order in which their waits end. An end of a wait takes one off the
list; what a key heeds tells which of the others are still to be carried out. Waits that were
overtaken go on and end without a trace, since a key heeds the number of its latest call only,
and never one that it has carried out.
-/

namespace Flowdesk

variable {κ α : Type}

/-- A call that waits, with the time at which its wait ends. -/
structure Wait (κ α : Type) where
  due : Nat
  call : Call κ α

/-- What is carried out at the end of a wait. -/
def Wait.carried (wait : Wait κ α) : Carried κ α := ⟨wait.call.key, wait.call.content, wait.due⟩

/-- The task at the end of a wait. -/
def Wait.task (wait : Wait κ α) : Nat × CallTask κ α := (wait.due, .expire wait.call)

namespace Wait

variable {waits : List (Wait κ α)} {agenda : Agenda (CallTask κ α)} {early time : Nat}

theorem filter_of_early (early : ∀ wait ∈ waits, wait.due ≤ time) :
    waits.filter (·.due ≤ time) = waits ∧ waits.filter (time < ·.due) = [] := by
  constructor
  · exact List.filter_eq_self.mpr fun wait member => decide_eq_true (early wait member)
  · exact List.filter_eq_nil_iff.mpr fun wait member => by simpa using early wait member

theorem filter_of_late (late : ∀ wait ∈ waits, time < wait.due) :
    waits.filter (·.due ≤ time) = [] ∧ waits.filter (time < ·.due) = waits := by
  constructor
  · exact List.filter_eq_nil_iff.mpr fun wait member => by simpa using late wait member
  · exact List.filter_eq_self.mpr fun wait member => decide_eq_true (late wait member)

/-- Waits in the order in which they end: first those that end by some time, then the others. -/
theorem filter_append_filter (ordered : waits.Pairwise (·.due ≤ ·.due)) (time : Nat) :
    waits.filter (·.due ≤ time) ++ waits.filter (time < ·.due) = waits := by
  induction waits with
  | nil => rfl
  | cons first waits inductionHypothesis =>
    obtain ⟨before, ordered⟩ := List.pairwise_cons.mp ordered
    by_cases early : first.due ≤ time
    · have notLate : ¬time < first.due := Nat.not_lt.mpr early
      simp only [List.filter_cons, decide_eq_true early, decide_eq_false notLate, if_true,
        Bool.false_eq_true, if_false, List.cons_append, inductionHypothesis ordered]
    · have late : ∀ wait ∈ first :: waits, time < wait.due := by
        intro wait member
        rcases List.mem_cons.mp member with rfl | member
        · exact Nat.not_le.mp early
        · exact Nat.lt_of_lt_of_le (Nat.not_le.mp early) (before wait member)
      rw [(filter_of_late late).1, (filter_of_late late).2, List.nil_append]

/-- What ends after a time ends after an earlier time. -/
theorem filter_after (order : early ≤ time) (waits : List (Wait κ α)) :
    (waits.filter (early < ·.due)).filter (time < ·.due) = waits.filter (time < ·.due) := by
  rw [List.filter_filter]
  refine List.filter_congr fun wait _ => ?_
  simp only [Bool.and_eq_left_iff_imp, decide_eq_true_eq]
  exact Nat.lt_of_le_of_lt order

/-- What ends by a time ends by an earlier time or after it. -/
theorem filter_by (order : early ≤ time) (ordered : waits.Pairwise (·.due ≤ ·.due)) :
    waits.filter (·.due ≤ early) ++ (waits.filter (early < ·.due)).filter (·.due ≤ time) =
      waits.filter (·.due ≤ time) := by
  have sooner : ∀ wait ∈ waits.filter (·.due ≤ early), wait.due ≤ time := fun wait member =>
    Nat.le_trans (of_decide_eq_true (List.mem_filter.mp member).2) order
  have parts := congrArg (List.filter (·.due ≤ time)) (filter_append_filter ordered early)
  rwa [List.filter_append, (filter_of_early sooner).1] at parts

/-- Where time moves on, the waits that end by then become ready. -/
theorem moveTo_waits (idle : agenda.ready = [])
    (waiting : agenda.waiting = waits.map Wait.task) (time : Nat) :
    agenda.moveTo time = ⟨time, (waits.filter (·.due ≤ time)).map fun wait => .expire wait.call,
      (waits.filter (time < ·.due)).map Wait.task⟩ := by
  rw [Agenda.moveTo, idle, waiting, List.filter_map, List.filter_map, List.map_map, List.nil_append]
  rfl

/-- The next point in time is the end of the first wait. -/
theorem next?_waits (waiting : agenda.waiting = waits.map Wait.task)
    (ordered : waits.Pairwise (·.due ≤ ·.due)) : agenda.next? = waits.head?.map Wait.due := by
  have dues : agenda.waiting.map (·.1) = waits.map Wait.due := by
    rw [waiting, List.map_map]
    rfl
  rw [Agenda.next?, dues]
  cases waits with
  | nil => rfl
  | cons first others =>
    refine List.min?_eq_some_iff.mpr ⟨List.mem_cons_self, fun due member => ?_⟩
    obtain ⟨wait, listed, rfl⟩ := List.mem_map.mp member
    rcases List.mem_cons.mp listed with rfl | listed
    · exact Nat.le_refl _
    · exact (List.pairwise_cons.mp ordered).1 wait listed

end Wait

variable [DecidableEq κ]

namespace Debouncer

/-- Whether a debouncer heeds a call: it is the latest one of its key and still waits. -/
def heeds (debouncer : Debouncer κ) (call : Call κ α) : Bool :=
  debouncer.latest.get? call.key = some call.number

/-- What a debouncer knows of the calls that wait: no two have one number, and whenever a key
has a latest call, that call waits. -/
structure Awaits (debouncer : Debouncer κ) (waits : List (Wait κ α)) : Prop where
  distinct : waits.Pairwise (·.call.number ≠ ·.call.number)
  known : ∀ wait ∈ waits, wait.call.number < debouncer.next
  awaited : ∀ key number, debouncer.latest.get? key = some number →
    ∃ wait ∈ waits, wait.call.key = key ∧ wait.call.number = number

section Awaits

variable {debouncer : Debouncer κ} {waits rest : List (Wait κ α)} {wait : Wait κ α}

theorem expire?_eq (debouncer : Debouncer κ) (call : Call κ α) :
    debouncer.expire? call.key call.number =
      if debouncer.heeds call then some (debouncer.cancel call.key) else none := by
  simp only [expire?, heeds, decide_eq_true_eq]

theorem heeds_cancel (debouncer : Debouncer κ) (key : κ) (call : Call κ α) :
    (debouncer.cancel key).heeds call = (!decide (key = call.key) && debouncer.heeds call) := by
  simp only [heeds, cancel, Data.Table.get?_erase]
  by_cases same : key = call.key <;> simp [same]

/-- A debouncer may forget the latest call of a key. -/
theorem Awaits.cancel (awaits : debouncer.Awaits waits) (key : κ) :
    (debouncer.cancel key).Awaits waits where
  distinct := awaits.distinct
  known := awaits.known
  awaited other number latest := by
    rw [Debouncer.cancel, Data.Table.get?_erase] at latest
    split at latest
    · cases latest
    · exact awaits.awaited other number latest

/-- A wait that is over is waited for no longer, unless its call is still heeded. -/
theorem Awaits.tail (awaits : debouncer.Awaits (wait :: rest))
    (unheeded : debouncer.heeds wait.call = false) : debouncer.Awaits rest where
  distinct := awaits.distinct.of_cons
  known other member := awaits.known other (List.mem_cons_of_mem _ member)
  awaited key number latest := by
    obtain ⟨other, member, rfl, rfl⟩ := awaits.awaited key number latest
    rcases List.mem_cons.mp member with rfl | member
    · exact absurd latest (of_decide_eq_false unheeded)
    · exact ⟨other, member, rfl, rfl⟩

/-- A new call of a key overtakes the others. -/
theorem heeds_call (debouncer : Debouncer κ) (key : κ) {call : Call κ α}
    (known : call.number < debouncer.next) :
    (debouncer.call key).2.heeds call = (!decide (key = call.key) && debouncer.heeds call) := by
  simp only [heeds, Debouncer.call, Data.Table.get?_put]
  by_cases same : key = call.key <;> simp [same, Nat.ne_of_gt known]

theorem Awaits.call (awaits : debouncer.Awaits waits) (due : Nat) (key : κ) (content : α) :
    (debouncer.call key).2.Awaits (waits ++ [⟨due, key, content, debouncer.next⟩]) where
  distinct := by
    refine List.pairwise_append.mpr ⟨awaits.distinct, List.pairwise_singleton _ _, ?_⟩
    intro wait member last same
    rw [List.mem_singleton.mp same]
    exact Nat.ne_of_lt (awaits.known wait member)
  known wait member := by
    rcases List.mem_append.mp member with member | same
    · exact Nat.lt_succ_of_lt (awaits.known wait member)
    · rw [List.mem_singleton.mp same]
      exact Nat.lt_succ_self debouncer.next
  awaited other number latest := by
    rw [Debouncer.call, Data.Table.get?_put] at latest
    split at latest
    · next same =>
      exact ⟨_, List.mem_append_right _ List.mem_cons_self, same, Option.some.inj latest⟩
    · obtain ⟨wait, member, about⟩ := awaits.awaited other number latest
      exact ⟨wait, List.mem_append_left _ member, about⟩

/-- A key waits exactly if it heeds one of the calls that wait. -/
theorem Awaits.pending_iff (awaits : debouncer.Awaits waits) (key : κ) :
    debouncer.pending key = true ↔ ∃ wait ∈ waits, wait.call.key = key ∧
      debouncer.heeds wait.call = true := by
  rw [pending, Data.Table.contains, Option.isSome_iff_exists]
  constructor
  · rintro ⟨number, latest⟩
    obtain ⟨wait, member, rfl, rfl⟩ := awaits.awaited key number latest
    exact ⟨wait, member, rfl, decide_eq_true latest⟩
  · rintro ⟨wait, member, rfl, heeded⟩
    exact ⟨_, of_decide_eq_true heeded⟩

end Awaits

end Debouncer

namespace Calls

/-- Waits come to an end, one after the other, while others go on: those that are heeded are
carried out, and what is heeded of the others stays the same. -/
structure Lapses (before : Calls κ α) (ended rest : List (Wait κ α)) (after : Calls κ α) :
    Prop where
  awaits : after.debouncer.Awaits rest
  delay : after.debouncer.delay = before.debouncer.delay
  carried : after.carried =
    ((ended.filter (before.debouncer.heeds ·.call)).map Wait.carried).reverse ++ before.carried
  heeded : ∀ wait ∈ rest, after.debouncer.heeds wait.call = before.debouncer.heeds wait.call

section Lapses

variable {calls before middle after : Calls κ α} {ended more rest : List (Wait κ α)}

/-- If no wait ends, nothing but the agenda changes. -/
theorem lapses_nil {calls : Calls κ α} {rest : List (Wait κ α)}
    (awaits : calls.debouncer.Awaits rest) (agenda : Agenda (CallTask κ α)) :
    Lapses calls [] rest { calls with agenda } := ⟨awaits, rfl, rfl, fun _ _ => rfl⟩

/-- The agenda before does not matter. -/
theorem Lapses.of_agenda {agenda : Agenda (CallTask κ α)}
    (lapses : Lapses { before with agenda } ended rest after) : Lapses before ended rest after :=
  ⟨lapses.awaits, lapses.delay, lapses.carried, lapses.heeded⟩

theorem Lapses.trans (first : Lapses before ended (more ++ rest) middle)
    (second : Lapses middle more rest after) : Lapses before (ended ++ more) rest after where
  awaits := second.awaits
  delay := second.delay.trans first.delay
  carried := by
    have same : more.filter (middle.debouncer.heeds ·.call) =
        more.filter (before.debouncer.heeds ·.call) :=
      List.filter_congr fun wait member => first.heeded wait (List.mem_append_left _ member)
    rw [second.carried, first.carried, same, List.filter_append, List.map_append,
      List.reverse_append, List.append_assoc]
  heeded wait member := (second.heeded wait member).trans
    (first.heeded wait (List.mem_append_right _ member))

/-- The end of one wait, at its time. -/
theorem lapses_expire {wait : Wait κ α} (awaits : calls.debouncer.Awaits (wait :: rest))
    (now : calls.agenda.now = wait.due) : Lapses calls [wait] rest (calls.expire wait.call) := by
  unfold expire
  rw [Debouncer.expire?_eq]
  by_cases heeded : calls.debouncer.heeds wait.call = true
  · have emptied : (calls.debouncer.cancel wait.call.key).heeds wait.call = false := by
      rw [Debouncer.heeds_cancel, decide_eq_true rfl]
      rfl
    simp only [heeded, if_true]
    refine ⟨(awaits.cancel _).tail emptied, rfl, by simp [heeded, Wait.carried, now], ?_⟩
    intro other member
    rw [Debouncer.heeds_cancel]
    by_cases same : wait.call.key = other.call.key
    · -- Another call of the key has another number, so it was not heeded before either.
      have different := (List.pairwise_cons.mp awaits.distinct).1 other member
      have latest := of_decide_eq_true heeded
      rw [same] at latest
      have unheeded : calls.debouncer.heeds other.call = false :=
        decide_eq_false fun found => different (Option.some.inj (latest.symm.trans found))
      rw [unheeded, Bool.and_false]
    · rw [decide_eq_false same]
      rfl
  · have unheeded := Bool.eq_false_iff.mpr heeded
    simp only [unheeded, Bool.false_eq_true, if_false]
    exact ⟨awaits.tail unheeded, rfl, by simp [unheeded], fun _ _ => rfl⟩

theorem agenda_expire (calls : Calls κ α) (call : Call κ α) :
    (calls.expire call).agenda = calls.agenda := by
  unfold expire
  split <;> rfl

/-- Ready tasks that end waits are done in order, all at their time. -/
theorem lapses_settle (ended rest : List (Wait κ α)) (task : Call κ α → CallTask κ α)
    {calls : Calls κ α}
    (ends : ∀ (later : Calls κ α) (call : Call κ α),
      later.debouncer.delay = calls.debouncer.delay → later.perform (task call) = later.expire call)
    (ready : calls.agenda.ready = ended.map fun wait => task wait.call)
    (now : ∀ wait ∈ ended, calls.agenda.now = wait.due)
    (awaits : calls.debouncer.Awaits (ended ++ rest)) :
    Lapses calls ended rest (Busy.settle calls) ∧
      (Busy.settle calls).agenda = { calls.agenda with ready := [] } := by
  induction ended generalizing calls with
  | nil =>
    have idle : calls.agenda.ready = [] := ready
    rw [Busy.settle_of_idle calls idle]
    refine ⟨lapses_nil awaits calls.agenda, ?_⟩
    rw [← idle]
  | cons wait ended inductionHypothesis =>
    let taken : Calls κ α := { calls with agenda :=
      { calls.agenda with ready := ended.map fun wait => task wait.call } }
    have agenda : (taken.expire wait.call).agenda = taken.agenda := agenda_expire taken wait.call
    have first : Lapses taken [wait] (ended ++ rest) (taken.expire wait.call) :=
      lapses_expire awaits (now wait List.mem_cons_self)
    have settled : Busy.settle calls = Busy.settle (taken.expire wait.call) := by
      rw [← ends taken wait.call rfl]
      exact Busy.settle_of_ready calls ready
    have others : ∀ other ∈ ended, (taken.expire wait.call).agenda.now = other.due := by
      intro other member
      rw [agenda]
      exact now other (List.mem_cons_of_mem _ member)
    obtain ⟨lapses, still⟩ := inductionHypothesis
      (fun later call delay => ends later call (delay.trans first.delay))
      (congrArg Agenda.ready agenda) others first.awaits
    rw [settled, still, agenda]
    exact ⟨(first.trans lapses).of_agenda, rfl⟩

end Lapses

section Reach

variable {calls : Calls κ α} {waits ended rest : List (Wait κ α)} {time : Nat}

/-- What lapses by a time lapses in two steps, first by an earlier time. -/
theorem Lapses.later {before middle after : Calls κ α} {early : Nat} (order : early ≤ time)
    (ordered : waits.Pairwise (·.due ≤ ·.due))
    (first : Lapses before (waits.filter (·.due ≤ early)) (waits.filter (early < ·.due)) middle)
    (second : Lapses middle ((waits.filter (early < ·.due)).filter (·.due ≤ time))
      ((waits.filter (early < ·.due)).filter (time < ·.due)) after) :
    Lapses before (waits.filter (·.due ≤ time)) (waits.filter (time < ·.due)) after := by
  rw [← Wait.filter_append_filter (ordered.filter (early < ·.due)) time] at first
  rw [← Wait.filter_by order ordered, ← Wait.filter_after order]
  exact first.trans second

/-- Where time stops, the waits that end then lapse. -/
theorem lapses_stop (idle : calls.agenda.ready = [])
    (waiting : calls.agenda.waiting = waits.map Wait.task)
    (ordered : waits.Pairwise (·.due ≤ ·.due)) (least : ∀ wait ∈ waits, time ≤ wait.due)
    (awaits : calls.debouncer.Awaits waits) :
    Lapses calls (waits.filter (·.due ≤ time)) (waits.filter (time < ·.due))
        (Busy.settle (Busy.plan calls (·.moveTo time))) ∧
      (Busy.settle (Busy.plan calls (·.moveTo time))).agenda =
        ⟨time, [], (waits.filter (time < ·.due)).map Wait.task⟩ := by
  let moved : Calls κ α := Busy.plan calls (·.moveTo time)
  have agenda : moved.agenda = ⟨time, (waits.filter (·.due ≤ time)).map fun wait =>
      .expire wait.call, (waits.filter (time < ·.due)).map Wait.task⟩ :=
    Wait.moveTo_waits idle waiting time
  have now : ∀ wait ∈ waits.filter (·.due ≤ time), moved.agenda.now = wait.due := by
    intro wait member
    obtain ⟨listed, early⟩ := List.mem_filter.mp member
    rw [agenda]
    exact Nat.le_antisymm (least wait listed) (of_decide_eq_true early)
  rw [← Wait.filter_append_filter ordered time] at awaits
  have settled : Lapses moved _ _ (Busy.settle moved) ∧ _ :=
    lapses_settle _ _ .expire (fun _ _ _ => rfl) (congrArg Agenda.ready agenda) now awaits
  rw [agenda] at settled
  exact ⟨settled.1.of_agenda, settled.2⟩

/-- Until a point in time is reached, the waits that end by then lapse, each at its time. -/
theorem lapses_reach (time : Nat) (idle : calls.agenda.ready = [])
    (waiting : calls.agenda.waiting = waits.map Wait.task)
    (ordered : waits.Pairwise (·.due ≤ ·.due)) (awaits : calls.debouncer.Awaits waits) :
    Lapses calls (waits.filter (·.due ≤ time)) (waits.filter (time < ·.due))
        (Busy.reach time calls) ∧
      (Busy.reach time calls).agenda =
        ⟨time, [], (waits.filter (time < ·.due)).map Wait.task⟩ := by
  induction length : waits.length using Nat.strongRecOn generalizing calls waits with
  | _ length' inductionHypothesis =>
    subst length
    have next := Wait.next?_waits waiting ordered
    by_cases late : ∀ wait ∈ waits, time < wait.due
    · obtain ⟨none, all⟩ := Wait.filter_of_late late
      have after : ∀ due ∈ calls.agenda.next?, time < due := by
        intro due stop
        rw [next] at stop
        obtain ⟨wait, first, rfl⟩ := Option.map_eq_some_iff.mp stop
        exact late wait (List.mem_of_head? first)
      rw [Busy.reach_of_late time calls after, none]
      refine ⟨lapses_nil (all.symm ▸ awaits) _, ?_⟩
      have moved := Wait.moveTo_waits idle waiting time
      rw [none] at moved
      exact moved
    · obtain ⟨first, others, rfl⟩ : ∃ first others, waits = first :: others :=
        List.exists_cons_of_ne_nil fun none => late (none ▸ fun _ member => by cases member)
      have least : ∀ wait ∈ first :: others, first.due ≤ wait.due := by
        intro wait member
        rcases List.mem_cons.mp member with rfl | member
        · exact Nat.le_refl _
        · exact (List.pairwise_cons.mp ordered).1 wait member
      have due : first.due ≤ time := Nat.not_lt.mp fun after =>
        late fun wait member => Nat.lt_of_lt_of_le after (least wait member)
      obtain ⟨stop, agenda⟩ := lapses_stop idle waiting ordered least awaits
      have shorter : ((first :: others).filter (first.due < ·.due)).length <
          (first :: others).length := List.length_filter_lt_length_iff_exists.mpr
        ⟨first, List.mem_cons_self, by simp⟩
      obtain ⟨lapses, reached⟩ := inductionHypothesis _ shorter (congrArg Agenda.ready agenda)
        (congrArg Agenda.waiting agenda) (ordered.filter _) stop.awaits rfl
      have whole := stop.later due ordered lapses
      rw [Busy.reach_of_due calls next due]
      refine ⟨whole, ?_⟩
      rw [reached, Wait.filter_after due]

end Reach

end Calls

end Flowdesk
