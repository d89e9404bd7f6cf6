import Flowdesk.Proofs.Bus.History

/-!
# The account of an emission

An emission that goes on is owed the deliveries that are still to come. A stretch of history
accounts for them if it pays what the emissions before it are owed, settles every emission
that begins in it, and delivers nothing for any other one. Two stretches in a row account for
what both are owed, and an emission that is owed what its event comes to at its beginning
leaves nothing to be paid. So it is enough to account for one command after the other.
-/

namespace Flowdesk

variable {ε : Type}

namespace Happening

/-- The subscription and the event, if what happened is a delivery of an emission. -/
def delivery? (emission : Nat) : Happening ε → Option ((Nat × Listener ε) × ε)
  | .received other subscription event =>
      if other = emission then some (subscription, event) else none
  | .subscribed _ | .dropped .. | .entrusted .. | .emitted _ => none

/-- Whether what happened neither begins an emission nor delivers for one. -/
def silent : Happening ε → Bool
  | .subscribed _ | .dropped .. | .entrusted .. => true
  | .emitted _ | .received .. => false

end Happening

/-- The deliveries of an emission in the course of a history. -/
def deliveries (emission : Nat) (history : List (Happening ε)) : List ((Nat × Listener ε) × ε) :=
  history.filterMap (Happening.delivery? emission)

/-- The deliveries of an event to those of given subscriptions whose listeners accept it. -/
def handedTo (subscriptions : List (Nat × Listener ε)) (event : ε) :
    List ((Nat × Listener ε) × ε) :=
  (subscriptions.filter (·.2.accepts event)).map fun subscription => (subscription, event)

/-- An event comes to the same for those who are registered and those who are live exactly when
nobody who accepts it was dropped in vain.

Proof: both are filters of those who are registered, and two filters agree exactly when nobody
is in one of them only. -/
theorem handedTo_registered_eq_live_iff (history : List (Happening ε)) (event : ε) :
    handedTo (registered history) event = handedTo (live history) event ↔
      ∀ subscription ∈ registered history, subscription.2.accepts event = true →
        .dropped subscription.1 false ∉ history := by
  have undropped (subscription : Nat × Listener ε) (present : subscription ∈ registered history) :
      (!history.any (·.drops subscription.1)) = true ↔ .dropped subscription.1 false ∉ history := by
    rw [Bool.not_eq_true', ← Bool.not_eq_true, dropped_iff_of_mem present]
  rw [handedTo, handedTo, live_eq_filter,
    List.map_inj_right fun _ _ same => (Prod.mk.inj same).1, List.filter_filter]
  constructor
  · intro same subscription present accepts
    have reached : subscription ∈ (registered history).filter (·.2.accepts event) :=
      List.mem_filter.mpr ⟨present, accepts⟩
    rw [same] at reached
    have both := Bool.and_eq_true_iff.mp (List.mem_filter.mp reached).2
    exact (undropped subscription present).mp both.2
  · intro spared
    refine List.filter_congr fun subscription present => ?_
    cases accepts : subscription.2.accepts event with
    | false => rfl
    | true =>
      have stays := (undropped subscription present).mpr (spared subscription present accepts)
      exact stays.symm

section Accounts

/-- The deliveries in two stretches are those in the one and those in the other. -/
theorem deliveries_append (emission : Nat) (history later : List (Happening ε)) :
    deliveries emission (history ++ later) =
      deliveries emission history ++ deliveries emission later := List.filterMap_append

/-- A stretch of history after another one accounts for the deliveries that emissions are
owed: it pays what the emissions of the past are owed, settles each that begins in it, and
delivers nothing for any that is yet to come. -/
structure Accounts (past : List (Happening ε)) (owed : Nat → List ((Nat × Listener ε) × ε))
    (stretch : List (Happening ε)) : Prop where
  paid : ∀ emission, emission < past.length → deliveries emission stretch = owed emission
  settled : ∀ before event after, stretch = before ++ .emitted event :: after →
    deliveries (past ++ before).length stretch = handedTo (registered (past ++ before)) event
  unborn : ∀ emission, (past ++ stretch).length ≤ emission → deliveries emission stretch = []

/-- Nothing is owed to any emission. -/
def nothing (_ : Nat) : List ((Nat × Listener ε) × ε) := []

/-- Deliveries are owed to one emission only. -/
def owedTo (emission : Nat) (owed : List ((Nat × Listener ε) × ε)) (other : Nat) :
    List ((Nat × Listener ε) × ε) := if other = emission then owed else []

/-- To owe an emission no deliveries is to owe nothing. -/
theorem owedTo_nil (emission : Nat) : owedTo (ε := ε) emission [] = nothing :=
  funext fun _ => ite_self _

/-- What an emission is owed may be told in two parts. -/
theorem owedTo_append (emission : Nat) (first second : List ((Nat × Listener ε) × ε)) :
    (fun other => owedTo emission first other ++ owedTo emission second other) =
      owedTo emission (first ++ second) := by
  funext other
  unfold owedTo
  split <;> rfl

variable {past stretch more : List (Happening ε)} {owed next : Nat → List ((Nat × Listener ε) × ε)}

/-- A stretch in which nothing happens accounts for nothing. -/
theorem accounts_nil (past : List (Happening ε)) : Accounts past nothing [] where
  paid := fun _ _ => rfl
  settled := fun before _ _ split => absurd split.symm (by simp)
  unborn := fun _ _ => rfl

/-- A stretch that emits and delivers nothing. -/
theorem accounts_silent {happening : Happening ε} (silent : happening.silent = true) :
    Accounts past nothing [happening] := by
  have undelivered (emission : Nat) : deliveries emission [happening] = [] := by
    cases happening with
    | subscribed | dropped | entrusted => rfl
    | emitted | received => cases silent
  refine ⟨fun emission _ => undelivered emission, ?_, fun emission _ => undelivered emission⟩
  intro before event after split
  rcases List.append_eq_singleton_iff.mp split.symm with ⟨-, same⟩ | ⟨-, impossible⟩
  · cases (List.cons.inj same).1
    cases silent
  · cases impossible

/-- A delivery of an emission that has begun. -/
theorem accounts_received {emission : Nat} (begun : emission < past.length)
    (subscription : Nat × Listener ε) (event : ε) :
    Accounts past (owedTo emission [(subscription, event)])
      [.received emission subscription event] where
  paid other _ := by
    by_cases same : other = emission
    · simp [deliveries, Happening.delivery?, owedTo, same]
    · simp [deliveries, Happening.delivery?, owedTo, same, Ne.symm same]
  settled before event after split := by
    rcases List.append_eq_singleton_iff.mp split.symm with ⟨-, same⟩ | ⟨-, impossible⟩
    · cases (List.cons.inj same).1
    · cases impossible
  unborn other later := by
    have different : emission ≠ other := by
      simp only [List.length_append] at later
      omega
    simp [deliveries, Happening.delivery?, different]

/-- Two stretches in a row, the second of which pays only what the past before both is owed. -/
theorem Accounts.append (first : Accounts past owed stretch)
    (second : Accounts (past ++ stretch) next more)
    (apart : ∀ emission, past.length ≤ emission → next emission = []) :
    Accounts past (fun emission => owed emission ++ next emission) (stretch ++ more) where
  paid emission begun := by
    have longer : emission < (past ++ stretch).length := by
      rw [List.length_append]
      omega
    rw [deliveries_append, first.paid emission begun, second.paid emission longer]
  settled before event after split := by
    have second_settled {between after : List (Happening ε)}
        (rest : more = between ++ .emitted event :: after) :
        deliveries (past ++ (stretch ++ between)).length (stretch ++ more) =
          handedTo (registered (past ++ (stretch ++ between))) event := by
      have early := first.unborn (past ++ (stretch ++ between)).length (by simp)
      have settled := second.settled between event after rest
      rw [List.append_assoc] at settled
      rw [deliveries_append, early, settled, List.nil_append]
    rcases List.append_eq_append_iff.mp split with ⟨between, rfl, rest⟩ | ⟨rest, within, beyond⟩
    · exact second_settled rest
    · cases rest with
      | nil =>
        have whole : before = stretch ++ [] := by rw [within, List.append_nil, List.append_nil]
        exact whole ▸ second_settled beyond.symm
      | cons head rest =>
        obtain ⟨rfl, -⟩ := List.cons.inj beyond
        have inside : (past ++ before).length < (past ++ stretch).length := by
          rw [within]
          simp
        have beyondPast : past.length ≤ (past ++ before).length := by simp
        rw [deliveries_append, first.settled before event rest within, second.paid _ inside,
          apart _ beyondPast, List.append_nil]
  unborn emission later := by
    have early := first.unborn emission (by
      simp only [List.length_append] at later ⊢
      omega)
    have late := second.unborn emission (by rwa [List.append_assoc])
    rw [deliveries_append, early, late, List.append_nil]

/-- An emission settles itself with what it is owed from its beginning on. -/
theorem accounts_emitted {event : ε}
    (rest : Accounts (past ++ [.emitted event])
      (owedTo past.length (handedTo (registered past) event)) stretch) :
    Accounts past nothing (.emitted event :: stretch) where
  paid emission begun := by
    have paid := rest.paid emission (by
      rw [List.length_append]
      exact Nat.lt_add_right _ begun)
    rw [owedTo, if_neg (Nat.ne_of_lt begun)] at paid
    exact paid
  settled before other after split := by
    cases before with
    | nil =>
      obtain ⟨same, -⟩ := List.cons.inj split
      cases same
      have paid := rest.paid past.length (by simp)
      rw [owedTo, if_pos rfl] at paid
      rw [List.append_nil]
      exact paid
    | cons first before =>
      obtain ⟨rfl, rest'⟩ := List.cons.inj split
      have settled := rest.settled before other after rest'
      rw [List.append_assoc] at settled
      exact settled
  unborn emission later := by
    have unborn := rest.unborn emission (by simpa using later)
    exact unborn

end Accounts

end Flowdesk
