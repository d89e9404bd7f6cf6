import Flowdesk.Proofs.Registry.History
import Flowdesk.Workspace.Studio
import Mathlib.Data.List.Nodup

/-!
# The audience of a registry

Watchers come and go while a registry is worked with. A studio knows every watcher by
its name and keeps one subscription for a name, which is why a watcher sees each update
of its document once: those that are announced from when it begins to watch until it is
dropped or another one takes its name.
-/

namespace Flowdesk.Studio

open Data Registry

variable {φ : Type}

/-- The subscriptions under a name. -/
def listening (studio : Studio φ) (name : String) : List (Nat × Watcher) :=
  studio.watchers.subscriptions.filter (·.2.name = name)

/-- A studio that notes the number of every subscription under its name, and no other
numbers. Nobody is changing its list of watchers, so that a watcher can be dropped. -/
structure Attentive (studio : Studio φ) : Prop where
  free : studio.watchers.writing = false
  noted : ∀ subscription ∈ studio.watchers.subscriptions,
    studio.watching.get? subscription.2.name = some subscription.1
  live : ∀ name number, studio.watching.get? name = some number →
    ∃ watcher : Watcher, (number, watcher) ∈ studio.watchers.subscriptions ∧ watcher.name = name
  distinct : (studio.watchers.subscriptions.map (·.1)).Nodup

/-- The subscription that is noted for a name is the one under that name. -/
theorem Attentive.noted_iff {studio : Studio φ} (attentive : studio.Attentive) (name : String)
    {subscription : Nat × Watcher} (member : subscription ∈ studio.watchers.subscriptions) :
    studio.watching.get? name = some subscription.1 ↔ subscription.2.name = name := by
  constructor
  · intro found
    obtain ⟨watcher, present, named⟩ := attentive.live name subscription.1 found
    rw [List.inj_on_of_nodup_map attentive.distinct member present rfl]
    exact named
  · rintro rfl
    exact attentive.noted subscription member

@[simp] theorem watching_unwatch (studio : Studio φ) (name other : String) :
    (studio.unwatch name).watching.get? other =
      if name = other then none else studio.watching.get? other := by
  unfold unwatch
  split
  · next missing =>
    split
    · next same => rw [← same, missing]
    · rfl
  · exact Table.get?_erase studio.watching name other

/-- A watcher goes without the bus being left in the middle of a change. -/
theorem writing_unwatch (studio : Studio φ) (name : String) :
    (studio.unwatch name).watchers.writing = studio.watchers.writing := by
  unfold unwatch
  split
  · rfl
  · next number _ => exact studio.watchers.writing_drop number

/-- Not to watch any more is to drop the subscription that is noted. -/
theorem subscriptions_unwatch {studio : Studio φ} (free : studio.watchers.writing = false)
    (name : String) :
    (studio.unwatch name).watchers.subscriptions =
      studio.watchers.subscriptions.filter (studio.watching.get? name ≠ some ·.1) := by
  unfold unwatch
  split
  · next missing => exact (List.filter_eq_self.mpr fun _ _ => by simp [missing]).symm
  · next number found =>
    dsimp only
    rw [Bus.drop_of_free free]
    refine List.filter_congr fun subscription _ => ?_
    simp [found, eq_comm]

/-- The subscription that is noted for a name is dropped, the others are kept. -/
theorem Attentive.dropped {studio : Studio φ} (attentive : studio.Attentive) (name : String) :
    studio.watchers.subscriptions.filter (studio.watching.get? name ≠ some ·.1) =
      studio.watchers.subscriptions.filter (·.2.name ≠ name) := by
  refine List.filter_congr fun subscription member => ?_
  exact decide_eq_decide.mpr (not_congr (attentive.noted_iff name member))

/-- Whoever watches takes the place of the one who watched under the same name. -/
theorem Attentive.subscriptions_watch {studio : Studio φ} (attentive : studio.Attentive)
    (watcher : Watcher) :
    (studio.watch watcher).watchers.subscriptions =
      studio.watchers.subscriptions.filter (·.2.name ≠ watcher.name) ++
        [(studio.watchers.next, watcher)] := by
  have latest : studio.watching.get? watcher.name ≠ some studio.watchers.next := by
    intro found
    obtain ⟨_, present, _⟩ := attentive.live _ _ found
    exact absurd (studio.watchers.fresh _ present) (Nat.lt_irrefl _)
  refine (subscriptions_unwatch ?_ watcher.name).trans ?_
  · exact attentive.free
  change List.filter _ (studio.watchers.subscriptions ++ [(studio.watchers.next, watcher)]) = _
  rw [List.filter_append, ← attentive.dropped watcher.name]
  simp [latest]

theorem watching_watch (studio : Studio φ) (watcher : Watcher) (name : String) :
    (studio.watch watcher).watching.get? name =
      if watcher.name = name then some studio.watchers.next else studio.watching.get? name := by
  change ((unwatch _ watcher.name).watching.put watcher.name studio.watchers.next).get? name = _
  rw [Table.get?_put, watching_unwatch]
  split
  · rfl
  · rfl

namespace Attentive

variable {studio : Studio φ}

/-- Who watches is known by name and number after one of them has gone. -/
theorem unwatch (attentive : studio.Attentive) (name : String) :
    (studio.unwatch name).Attentive := by
  have subscriptions := (subscriptions_unwatch attentive.free name).trans (attentive.dropped name)
  constructor
  · exact (writing_unwatch studio name).trans attentive.free
  · rw [subscriptions]
    intro subscription member
    obtain ⟨present, other⟩ := List.mem_filter.mp member
    rw [watching_unwatch, if_neg (Ne.symm (of_decide_eq_true other))]
    exact attentive.noted subscription present
  · rw [subscriptions]
    intro other number found
    rw [watching_unwatch] at found
    split at found
    · cases found
    · next different =>
      obtain ⟨watcher, present, named⟩ := attentive.live other number found
      exact ⟨watcher, List.mem_filter.mpr ⟨present,
        decide_eq_true fun same => different (same.symm.trans named)⟩, named⟩
  · rw [subscriptions]
    exact attentive.distinct.sublist (List.filter_sublist.map _)

/-- So it is after one has come, in place of the one of the same name. -/
theorem watch (attentive : studio.Attentive) (watcher : Watcher) :
    (studio.watch watcher).Attentive := by
  have subscriptions := attentive.subscriptions_watch watcher
  constructor
  · exact (writing_unwatch _ watcher.name).trans attentive.free
  · rw [subscriptions]
    intro subscription member
    rw [watching_watch]
    rcases List.mem_append.mp member with old | new
    · obtain ⟨present, other⟩ := List.mem_filter.mp old
      rw [if_neg (Ne.symm (of_decide_eq_true other))]
      exact attentive.noted subscription present
    · rw [List.mem_singleton.mp new, if_pos rfl]
  · rw [subscriptions]
    intro name number found
    rw [watching_watch] at found
    split at found
    · next same =>
      cases found
      exact ⟨watcher, List.mem_append_right _ List.mem_cons_self, same⟩
    · next different =>
      obtain ⟨other, present, named⟩ := attentive.live name number found
      exact ⟨other, List.mem_append_left _ (List.mem_filter.mpr ⟨present,
        decide_eq_true fun same => different (same.symm.trans named)⟩), named⟩
  · rw [subscriptions, List.map_append, List.nodup_append]
    refine ⟨attentive.distinct.sublist (List.filter_sublist.map _), List.nodup_singleton _, ?_⟩
    intro number old next new
    obtain ⟨subscription, member, rfl⟩ := List.mem_map.mp old
    rw [List.mem_singleton.mp new]
    exact Nat.ne_of_lt (studio.watchers.fresh _ (List.mem_filter.mp member).1)

/-- Nobody listens under a name that was dropped. The others still listen. -/
theorem listening_unwatch (attentive : studio.Attentive) (name other : String) :
    (studio.unwatch name).listening other =
      if name = other then [] else studio.listening other := by
  rw [listening, subscriptions_unwatch attentive.free, attentive.dropped, List.filter_filter]
  split
  · next same =>
    subst same
    exact List.filter_eq_nil_iff.mpr fun _ _ both => by simp at both
  · next different =>
    refine List.filter_congr fun subscription _ => ?_
    by_cases named : subscription.2.name = other
    · simp [named, Ne.symm different]
    · simp [named]

/-- The one who watches is the only one to listen under its name. -/
theorem listening_watch (attentive : studio.Attentive) (watcher : Watcher) (other : String) :
    (studio.watch watcher).listening other =
      if watcher.name = other then [(studio.watchers.next, watcher)]
      else studio.listening other := by
  have before := attentive.listening_unwatch watcher.name other
  rw [listening, subscriptions_unwatch attentive.free, attentive.dropped] at before
  rw [listening, attentive.subscriptions_watch, List.filter_append, before]
  split
  · next same => simp [same]
  · next different => simp [different]

end Attentive

/-- The updates that a watcher of a document sees are those of the document. -/
theorem filter_sees (name uri client : String) (events : List Event) :
    events.filter (⟨name, false, uri, client⟩ : Watcher).sees =
      (updatesOf uri events).map .updated := by
  induction events with
  | nil => rfl
  | cons event rest inductionHypothesis =>
    have split : updatesOf uri (event :: rest) = updatesOf uri [event] ++ updatesOf uri rest :=
      updatesOf_append uri [event] rest
    rw [split, List.map_append, ← inductionHypothesis, ← List.singleton_append, List.filter_append]
    cases event with
    | updated update =>
      by_cases here : update.build.uri = uri
      · simp [updatesOf, updates, Watcher.sees, Event.uri, here]
      · simp [updatesOf, updates, Watcher.sees, Event.uri, here, Ne.symm here]
    | saved saved => simp [updatesOf, updates, Watcher.sees]

/-- Under a name it is seen what those see who listen under it. -/
theorem seen_under (studio : Studio φ) (name : String) (events : List Event) :
    ((studio.seen events).filter (·.1.name = name)).map (·.2) =
      events.flatMap fun event =>
        ((studio.listening name).filter (·.2.sees event)).map fun _ => event := by
  rw [seen, List.filter_flatMap, List.map_flatMap]
  congr 1
  funext event
  simp only [Bus.subscribers, listening, List.filter_map, List.map_map, List.filter_filter]
  exact congrArg (List.map _) (List.filter_congr fun subscription _ => Bool.and_comm ..)

/-- What happens in a studio in which documents are worked with directly. -/
inductive Step (φ : Type) where
  | ask (now : UInt64) (operation : Operation φ)
  | watch (watcher : Watcher)
  | unwatch (name : String)

/-- Whether a step changes who listens under a name. -/
def Step.concerns (name : String) : Step φ → Bool
  | .ask .. => false
  | .watch watcher => watcher.name = name
  | .unwatch dropped => dropped = name

section Run

variable [Files.Store φ]

/-- The studio after a step. -/
def take (studio : Studio φ) : Step φ → Studio φ
  | .ask now operation => studio.work { studio.workspace with
      registry := (studio.workspace.registry.perform now operation).registry }
  | .watch watcher => studio.watch watcher
  | .unwatch name => studio.unwatch name

/-- What is announced in a step. -/
def told (studio : Studio φ) : Step φ → List Event
  | .ask now operation => (studio.workspace.registry.perform now operation).events
  | .watch _ | .unwatch _ => []

/-- What is announced in steps, in order. -/
def toldAll : Studio φ → List (Step φ) → List Event
  | _, [] => []
  | studio, step :: later => studio.told step ++ (studio.take step).toldAll later

/-- What is seen in steps under a name, in order. -/
def heard (name : String) : Studio φ → List (Step φ) → List Event
  | _, [] => []
  | studio, step :: later =>
      ((studio.seen (studio.told step)).filter (·.1.name = name)).map (·.2) ++
        heard name (studio.take step) later

/-- Every step leaves the audience attentive. -/
theorem Attentive.take {studio : Studio φ} (attentive : studio.Attentive) (step : Step φ) :
    (studio.take step).Attentive := by
  cases step with
  | ask now operation =>
    exact ⟨attentive.free, attentive.noted, attentive.live, attentive.distinct⟩
  | watch watcher => exact attentive.watch watcher
  | unwatch name => exact attentive.unwatch name

/-- The same one listens under a name after a step that does not concern it. -/
theorem Attentive.listening_take {studio : Studio φ} (attentive : studio.Attentive)
    {step : Step φ} {name : String} (apart : step.concerns name = false) :
    (studio.take step).listening name = studio.listening name := by
  cases step with
  | ask now operation => rfl
  | watch watcher =>
    exact (attentive.listening_watch watcher name).trans (if_neg (of_decide_eq_false apart))
  | unwatch dropped =>
    exact (attentive.listening_unwatch dropped name).trans (if_neg (of_decide_eq_false apart))

/-- What is seen as long as a watcher listens is what is announced of what it watches,
each announcement once and in order. -/
theorem Attentive.heard_of_listening {studio : Studio φ} (attentive : studio.Attentive)
    {number : Nat} {watcher : Watcher} {name : String}
    (listens : studio.listening name = [(number, watcher)]) (later : List (Step φ))
    (apart : ∀ step ∈ later, step.concerns name = false) :
    heard name studio later = (studio.toldAll later).filter watcher.sees := by
  induction later generalizing studio with
  | nil => rfl
  | cons step later inductionHypothesis =>
    have still := (attentive.listening_take (apart step List.mem_cons_self)).trans listens
    have now : ((studio.seen (studio.told step)).filter (·.1.name = name)).map (·.2) =
        (studio.told step).filter watcher.sees := by
      rw [seen_under, listens]
      rw [← List.filterMap_eq_filter, List.filterMap_eq_flatMap_toList]
      congr 1
      funext event
      by_cases sees : watcher.sees event = true
      · simp [Option.guard, sees]
      · simp [Option.guard, sees]
    rw [heard, toldAll, List.filter_append, now, inductionHypothesis (attentive.take step) still
      fun other member => apart other (List.mem_cons_of_mem step member)]

/-- Nothing is seen under a name as long as nobody listens under it. -/
theorem Attentive.heard_of_nobody {studio : Studio φ} (attentive : studio.Attentive)
    {name : String} (nobody : studio.listening name = []) (later : List (Step φ))
    (apart : ∀ step ∈ later, step.concerns name = false) : heard name studio later = [] := by
  induction later generalizing studio with
  | nil => rfl
  | cons step later inductionHypothesis =>
    have still := (attentive.listening_take (apart step List.mem_cons_self)).trans nobody
    have now : ((studio.seen (studio.told step)).filter (·.1.name = name)).map (·.2) = [] := by
      rw [seen_under, nobody]
      exact List.flatMap_eq_nil_iff.mpr fun _ _ => rfl
    rw [heard, now, inductionHypothesis (attentive.take step) still
      fun other member => apart other (List.mem_cons_of_mem step member)]
    rfl

/-- What watching the updates of a document under a name comes to. -/
structure Hears (studio : Studio φ) (name uri client : String) : Prop where
  /-- All updates of the document are seen in their order, each once, until the watcher is
  dropped or another one takes its name. -/
  watched : ∀ later : List (Step φ), (∀ step ∈ later, step.concerns name = false) →
    heard name (studio.watch ⟨name, false, uri, client⟩) later =
      (updatesOf uri ((studio.watch ⟨name, false, uri, client⟩).toldAll later)).map .updated
  dropped : ∀ later : List (Step φ), (∀ step ∈ later, step.concerns name = false) →
    heard name (studio.unwatch name) later = []
  /-- Nothing is seen before anybody watches. -/
  unwatched : studio.watching.get? name = none → ∀ later : List (Step φ),
    (∀ step ∈ later, step.concerns name = false) → heard name studio later = []

theorem Attentive.hears {studio : Studio φ} (attentive : studio.Attentive)
    (name uri client : String) : studio.Hears name uri client where
  watched later apart := by
    have listens := attentive.listening_watch ⟨name, false, uri, client⟩ name
    rw [if_pos rfl] at listens
    rw [(attentive.watch _).heard_of_listening listens later apart, filter_sees]
  dropped later apart := by
    have nobody := attentive.listening_unwatch name name
    rw [if_pos rfl] at nobody
    exact (attentive.unwatch name).heard_of_nobody nobody later apart
  unwatched missing later apart := by
    refine attentive.heard_of_nobody ?_ later apart
    refine List.filter_eq_nil_iff.mpr fun subscription member named => ?_
    have found := (attentive.noted_iff name member).mpr (of_decide_eq_true named)
    exact nomatch missing.symm.trans found

end Run

end Flowdesk.Studio
