/-!
# Buses

A bus holds subscriptions in the order in which they were made. Whoever
emits an event takes the list of subscriptions at that moment and goes through it, so
that what subscribers do meanwhile shows only in the events after it. No number is ever
given to two subscriptions.

The list is changed by one party at a time. To drop a subscription is to try and change
it: whoever drops one while the list is being changed changes nothing and does not come
back to it, so that the subscription stays. Other threads could read or change the list at the
same time and have the same effect; here all is done on one thread.
-/

namespace Flowdesk

/-- Subscribers under the numbers of their subscriptions, in order (`EventBus`). -/
structure Bus (σ : Type) where
  subscriptions : List (Nat × σ)
  /-- The number of the next subscription. It has no bound here: a counter of a machine word,
  which it stands for, would start over only after more subscriptions than any run makes. -/
  next : Nat
  /-- Whether the list is being changed at the moment. -/
  writing : Bool
  fresh : ∀ subscription ∈ subscriptions, subscription.1 < next

namespace Bus

variable {σ : Type}

/-- The bus without subscriptions. -/
def empty : Bus σ := ⟨[], 0, false, by simp⟩

instance : Inhabited (Bus σ) := ⟨empty⟩

/-- The bus with one more subscription, which comes last, and its number. -/
def subscribe (bus : Bus σ) (subscriber : σ) : Nat × Bus σ :=
  (bus.next, {
    subscriptions := bus.subscriptions ++ [(bus.next, subscriber)]
    next := bus.next + 1
    writing := bus.writing
    fresh := by
      intro subscription member
      rcases List.mem_append.mp member with member | member
      · exact Nat.lt_succ_of_lt (bus.fresh subscription member)
      · rw [List.mem_singleton.mp member]
        exact Nat.lt_succ_self bus.next })

/-- The bus without a subscription. -/
def remove (bus : Bus σ) (number : Nat) : Bus σ where
  subscriptions := bus.subscriptions.filter (·.1 ≠ number)
  next := bus.next
  writing := bus.writing
  fresh := fun subscription member => bus.fresh subscription (List.mem_filter.mp member).1

/-- The bus after a subscription was dropped, which removes it unless the list is being
changed at the moment. -/
def drop (bus : Bus σ) (number : Nat) : Bus σ := if bus.writing then bus else bus.remove number

/-- Whether the bus has a subscription of a number. -/
def has (bus : Bus σ) (number : Nat) : Bool := bus.subscriptions.any (·.1 = number)

/-- The subscribers, in order of subscription. -/
def subscribers (bus : Bus σ) : List σ := bus.subscriptions.map (·.2)

/-- While the list is not being changed, a subscription that is dropped goes. -/
theorem drop_of_free {bus : Bus σ} (free : bus.writing = false) (number : Nat) :
    bus.drop number = bus.remove number := by rw [drop, free]; rfl

/-- While it is being changed, it stays. -/
theorem drop_of_writing {bus : Bus σ} (busy : bus.writing = true) (number : Nat) :
    bus.drop number = bus := if_pos busy

/-- The list is being changed after a drop as it was before. -/
@[simp] theorem writing_drop (bus : Bus σ) (number : Nat) :
    (bus.drop number).writing = bus.writing := by
  unfold drop
  split <;> rfl

/-- Numbers are not given back. -/
@[simp] theorem next_drop (bus : Bus σ) (number : Nat) : (bus.drop number).next = bus.next := by
  unfold drop
  split <;> rfl

end Bus

end Flowdesk
