import Flowdesk.Bus.Exchange

/-!
# Who is subscribed, as the history tells it

The history of an exchange names every subscription that was made on it, and every handle
that was dropped. A subscription is live as long as its handle was not dropped. The bus may
have more subscriptions than that: those whose handle was dropped in vain are still
registered. The numbers of new subscriptions grow, so that a number stands for one
subscription throughout a history.
-/

namespace Flowdesk

variable {ε : Type}

namespace Happening

/-- The subscription that was made, if that is what happened. -/
def made? : Happening ε → Option (Nat × Listener ε)
  | .subscribed subscription => some subscription
  | .dropped .. | .entrusted .. | .emitted _ | .received .. => none

/-- Whether what happened is that the handle of a subscription was dropped. -/
def drops (number : Nat) : Happening ε → Bool
  | .dropped other _ => other = number
  | .subscribed _ | .entrusted .. | .emitted _ | .received .. => false

/-- Whether what happened is that the handle of a subscription was dropped and its listener
removed with that. -/
def removes (number : Nat) : Happening ε → Bool
  | .dropped other removed => removed && other = number
  | .subscribed _ | .entrusted .. | .emitted _ | .received .. => false

/-- The number of the subscription that was made or dropped. -/
def number? : Happening ε → Option Nat
  | .subscribed subscription => some subscription.1
  | .dropped number _ => some number
  | .entrusted .. | .emitted _ | .received .. => none

/-- Whether one thing may happen before another: the numbers of new subscriptions grow. -/
def Precedes (earlier later : Happening ε) : Prop :=
  ∀ subscription ∈ later.made?, ∀ number ∈ earlier.number?, number < subscription.1

/-- A subscription is not removed by being made. -/
@[simp] theorem removes_subscribed (number : Nat) (subscription : Nat × Listener ε) :
    (subscribed subscription).removes number = false := rfl

/-- A handle that is dropped in vain removes nobody. -/
@[simp] theorem removes_dropped (number other : Nat) (removed : Bool) :
    (dropped other removed : Happening ε).removes number = (removed && decide (other = number)) :=
  rfl

/-- Whoever is removed was dropped. -/
theorem drops_of_removes {happening : Happening ε} {number : Nat}
    (removes : happening.removes number = true) : happening.drops number = true := by
  cases happening with
  | dropped other removed => exact (Bool.and_eq_true_iff.mp removes).2
  | subscribed | entrusted | emitted | received => cases removes

/-- What drops a subscription is about its number. -/
theorem number_of_drops {happening : Happening ε} {number : Nat}
    (drops : happening.drops number = true) : happening.number? = some number := by
  cases happening with
  | dropped other removed => exact congrArg some (of_decide_eq_true drops)
  | subscribed | entrusted | emitted | received => cases drops

end Happening

/-- The subscriptions that were made in the course of a history, in order. -/
def made (history : List (Happening ε)) : List (Nat × Listener ε) :=
  history.filterMap Happening.made?

/-- The subscriptions that were made in the course of a history and not dropped. -/
def live (history : List (Happening ε)) : List (Nat × Listener ε) :=
  (made history).filter fun subscription => !history.any (·.drops subscription.1)

/-- The subscriptions that were made in the course of a history and not removed: the live
ones, and those that were dropped in vain. -/
def registered (history : List (Happening ε)) : List (Nat × Listener ε) :=
  (made history).filter fun subscription => !history.any (·.removes subscription.1)

/-- A history in which a handle is dropped in vain only after its keeper has been removed. -/
def Explained (history : List (Happening ε)) : Prop :=
  ∀ earlier number later, history = earlier ++ .dropped number false :: later →
    ∃ keeper, .entrusted number keeper ∈ earlier ∧ .dropped keeper true ∈ earlier

section Registered

variable (history : List (Happening ε))

/-- The history tells of every subscription that was made. -/
theorem subscribed_of_mem_made {history : List (Happening ε)} {subscription : Nat × Listener ε}
    (member : subscription ∈ made history) : .subscribed subscription ∈ history := by
  obtain ⟨happening, present, told⟩ := List.mem_filterMap.mp member
  cases happening with
  | subscribed => exact Option.some.inj told ▸ present
  | dropped | entrusted | emitted | received => cases told

/-- What neither makes nor removes a subscription changes nothing about who is registered. -/
theorem registered_concat {happening : Happening ε} (unmade : happening.made? = none)
    (unremoved : ∀ number, happening.removes number = false) :
    registered (history ++ [happening]) = registered history := by
  simp [registered, made, unmade, unremoved]

/-- A subscription under a number that was not used before is registered after all others. -/
theorem registered_concat_subscribed {subscription : Nat × Listener ε}
    (unused : ∀ happening ∈ history, ∀ number ∈ happening.number?, number < subscription.1) :
    registered (history ++ [.subscribed subscription]) = registered history ++ [subscription] := by
  have stays : history.any (·.removes subscription.1) = false := by
    refine List.any_eq_false.mpr fun happening member removes => ?_
    have about := Happening.number_of_drops (Happening.drops_of_removes removes)
    exact Nat.lt_irrefl _ (unused happening member _ about)
  simp [registered, made, Happening.made?, stays]

/-- One that is removed is registered no longer, and the others keep their order. -/
theorem registered_concat_dropped (number : Nat) :
    registered (history ++ [.dropped number true]) =
      (registered history).filter (·.1 ≠ number) := by
  have unmade : made (history ++ [.dropped number true]) = made history := by
    simp [made, Happening.made?]
  rw [registered, registered, unmade, List.filter_filter]
  refine List.filter_congr fun subscription _ => ?_
  simp [eq_comm, Bool.and_comm]

/-- Those that are live are those that are registered and were not dropped in vain. -/
theorem live_eq_filter :
    live history = (registered history).filter fun subscription =>
      !history.any (·.drops subscription.1) := by
  rw [live, registered, List.filter_filter]
  refine List.filter_congr fun subscription _ => ?_
  cases dropped : history.any (·.drops subscription.1) with
  | true => rfl
  | false =>
    have unremoved : history.any (·.removes subscription.1) = false :=
      List.any_eq_false.mpr fun happening member removes =>
        List.any_eq_false.mp dropped happening member (Happening.drops_of_removes removes)
    rw [unremoved]
    rfl

/-- Where the numbers of new subscriptions grow, so do those of the registered ones. -/
theorem registered_increasing {history : List (Happening ε)}
    (ordered : history.Pairwise Happening.Precedes) :
    (registered history).Pairwise (·.1 < ·.1) := by
  refine List.Pairwise.filter _ (List.Pairwise.filterMap Happening.made? ?_ ordered)
  intro earlier later before first madeFirst second madeSecond
  have about : earlier.number? = some first.1 := by
    cases earlier with
    | subscribed => exact congrArg some (congrArg Prod.fst (Option.some.inj madeFirst))
    | dropped | entrusted | emitted | received => cases madeFirst
  exact before second madeSecond first.1 about

/-- Nobody who is registered was removed. -/
theorem not_removed_of_mem {history : List (Happening ε)} {subscription : Nat × Listener ε}
    (member : subscription ∈ registered history) : .dropped subscription.1 true ∉ history := by
  intro removed
  have stays := (List.mem_filter.mp member).2
  rw [Bool.not_eq_true', List.any_eq_false] at stays
  exact stays _ removed (by simp)

/-- One that is registered is live unless its handle was dropped in vain. -/
theorem dropped_iff_of_mem {history : List (Happening ε)} {subscription : Nat × Listener ε}
    (member : subscription ∈ registered history) :
    history.any (·.drops subscription.1) = true ↔ .dropped subscription.1 false ∈ history := by
  rw [List.any_eq_true]
  constructor
  · rintro ⟨happening, present, drops⟩
    cases happening with
    | dropped number removed =>
      have same : number = subscription.1 := of_decide_eq_true drops
      cases removed with
      | true => exact absurd (same ▸ present) (not_removed_of_mem member)
      | false => exact same ▸ present
    | subscribed | entrusted | emitted | received => cases drops
  · exact fun dropped => ⟨_, dropped, decide_eq_true rfl⟩

/-- The history stays explained if its last happening is explained by what was before. -/
theorem explained_concat {history : List (Happening ε)} (explained : Explained history)
    {happening : Happening ε} (last : ∀ number, happening = .dropped number false →
      ∃ keeper, .entrusted number keeper ∈ history ∧ .dropped keeper true ∈ history) :
    Explained (history ++ [happening]) := by
  intro earlier number later split
  rcases List.eq_nil_or_concat later with rfl | ⟨rest, other, rfl⟩
  · obtain ⟨rfl, same⟩ := List.append_inj' split rfl
    exact last number (List.singleton_inj.mp same)
  · have whole : history ++ [happening] =
        (earlier ++ .dropped number false :: rest) ++ [other] := by simpa using split
    exact explained earlier number rest (List.append_inj' whole rfl).1

end Registered

end Flowdesk
