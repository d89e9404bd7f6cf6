import Flowdesk.Proofs.Bus.Account

/-!
# Deliveries

Every event that is emitted on an exchange is delivered once to each subscription that is
registered when its emission begins and whose listener accepts it, in the order in which the
subscriptions were made, and to no other one. Whatever listeners do in answer to an event, it
changes the deliveries of later emissions and not those of an emission that goes on, however
deep emissions nest.

The registered subscriptions are those that are live, except for one case. A handle that is
kept by a listener is dropped when its keeper goes. If the keeper goes while it is being
removed from the bus, the bus cannot be changed for the handle, its subscription stays
registered, and every later emission reaches it although it was dropped.
-/

namespace Flowdesk.Exchange

variable {ε : Type}

/-- What is known of an exchange: its bus can be changed and holds the subscriptions that are
registered, its numbers grow, and what listeners keep was given to them. -/
structure Sound (exchange : Exchange ε) : Prop where
  bus : exchange.bus.subscriptions = registered exchange.history
  free : exchange.bus.writing = false
  ordered : exchange.history.Pairwise Happening.Precedes
  used : ∀ happening ∈ exchange.history, ∀ number ∈ happening.number?, number < exchange.bus.next
  named : ∀ name number, exchange.numbers.get? name = some number → number < exchange.bus.next
  kept : ∀ handle ∈ exchange.kept,
    handle.2 < exchange.bus.next ∧ .entrusted handle.2 handle.1 ∈ exchange.history
  explained : Explained exchange.history

/-- One exchange comes from another by a stretch of history that accounts for what emissions
are owed. -/
structure Extends (before after : Exchange ε) (owed : Nat → List ((Nat × Listener ε) × ε)) :
    Prop where
  sound : after.Sound
  grown : ∃ stretch, after.history = before.history ++ stretch ∧
    Accounts before.history owed stretch

section Steps

variable {exchange before middle after : Exchange ε}
  {owed next : Nat → List ((Nat × Listener ε) × ε)}

/-- Nothing is known of an exchange on which nothing happened but that its bus is free. -/
theorem sound_empty : (empty : Exchange ε).Sound where
  bus := rfl
  free := rfl
  ordered := .nil
  used _ member := nomatch member
  named _ _ found := nomatch found
  kept _ member := nomatch member
  explained earlier _ _ split := absurd split.symm (by simp [history, empty])

/-- What is noted is the last thing in the history. -/
theorem history_note (exchange : Exchange ε) (happening : Happening ε) :
    (exchange.note happening).history = exchange.history ++ [happening] := List.reverse_cons

/-- An exchange to which nothing is done owes nothing. -/
theorem Extends.refl (sound : exchange.Sound) : Extends exchange exchange nothing :=
  ⟨sound, [], (List.append_nil _).symm, accounts_nil _⟩

/-- Two stretches in a row pay what both are owed, if the second one owes nothing to emissions that
began after the first. -/
theorem Extends.trans (first : Extends before middle owed) (second : Extends middle after next)
    (apart : ∀ emission, before.history.length ≤ emission → next emission = []) :
    Extends before after fun emission => owed emission ++ next emission := by
  obtain ⟨stretch, grown, accounts⟩ := first.grown
  obtain ⟨more, further, rest⟩ := second.grown
  rw [grown] at rest further
  exact ⟨second.sound, stretch ++ more, by rw [further, List.append_assoc],
    accounts.append rest apart⟩

/-- What was in the history of an exchange stays there. -/
theorem Extends.mem (extended : Extends before after owed) {happening : Happening ε}
    (member : happening ∈ before.history) : happening ∈ after.history := by
  obtain ⟨stretch, grown, -⟩ := extended.grown
  exact grown ▸ List.mem_append_left stretch member

/-- Two things in a row that owe nothing owe nothing together. -/
theorem Extends.andThen (first : Extends before middle nothing)
    (second : Extends middle after nothing) : Extends before after nothing :=
  first.trans second fun _ _ => rfl

/-- The exchange is as sound after one more thing happened, if its bus holds those who are
registered then, if a new subscription has a number above all others, and if a handle that was
dropped in vain is explained. -/
theorem Sound.grow (sound : exchange.Sound) {after : Exchange ε} {happening : Happening ε}
    (history : after.history = exchange.history ++ [happening])
    (bus : after.bus.subscriptions = registered (exchange.history ++ [happening]))
    (free : after.bus.writing = false) (next : exchange.bus.next ≤ after.bus.next)
    (made : ∀ subscription ∈ happening.made?, exchange.bus.next ≤ subscription.1)
    (used : ∀ number ∈ happening.number?, number < after.bus.next)
    (named : ∀ name number, after.numbers.get? name = some number → number < after.bus.next)
    (kept : after.kept = exchange.kept)
    (explained : ∀ number, happening = .dropped number false → ∃ keeper,
      .entrusted number keeper ∈ exchange.history ∧ .dropped keeper true ∈ exchange.history) :
    after.Sound where
  bus := history ▸ bus
  free := free
  ordered := by
    rw [history, List.pairwise_append]
    refine ⟨sound.ordered, List.pairwise_singleton _ _, fun earlier member later last => ?_⟩
    rw [List.mem_singleton.mp last]
    intro subscription makes number about
    exact Nat.lt_of_lt_of_le (sound.used earlier member number about) (made subscription makes)
  used := by
    intro later member number about
    rw [history] at member
    rcases List.mem_append.mp member with member | member
    · exact Nat.lt_of_lt_of_le (sound.used later member number about) next
    · exact used number (List.mem_singleton.mp member ▸ about)
  named := named
  kept := by
    rw [kept, history]
    intro handle member
    obtain ⟨lower, entrusted⟩ := sound.kept handle member
    exact ⟨Nat.lt_of_lt_of_le lower next, List.mem_append_left _ entrusted⟩
  explained := history ▸ explained_concat sound.explained explained

/-- So it is with one more thing on record that is no new subscription and no removal of
one. -/
theorem Sound.note (sound : exchange.Sound) {happening : Happening ε}
    (unmade : happening.made? = none) (unremoved : ∀ number, happening.removes number = false)
    (used : ∀ number ∈ happening.number?, number < exchange.bus.next)
    (explained : ∀ number, happening = .dropped number false → ∃ keeper,
      .entrusted number keeper ∈ exchange.history ∧ .dropped keeper true ∈ exchange.history) :
    (exchange.note happening).Sound := by
  refine sound.grow (history_note exchange happening) ?_ sound.free (Nat.le_refl _) ?_ used
    sound.named rfl explained
  · rw [registered_concat _ unmade unremoved]
    exact sound.bus
  · rw [unmade]
    exact nofun

/-- What is not told of the names, the kept handles and the listeners in use may change. -/
theorem Sound.rearrange (sound : exchange.Sound) {numbers : Data.Table String Nat}
    {kept : List (Nat × Nat)} {held : List Nat}
    (named : ∀ name number, numbers.get? name = some number → number < exchange.bus.next)
    (keeps : ∀ handle ∈ kept,
      handle.2 < exchange.bus.next ∧ .entrusted handle.2 handle.1 ∈ exchange.history) :
    ({ exchange with numbers, kept, held } : Exchange ε).Sound :=
  ⟨sound.bus, sound.free, sound.ordered, sound.used, named, keeps, sound.explained⟩

/-- An exchange that differs by what is not on record extends the other one. -/
theorem Extends.same (before : Exchange ε) (sound : after.Sound)
    (same : after.history = before.history) : Extends before after nothing :=
  ⟨sound, [], by rw [same, List.append_nil], accounts_nil _⟩

/-- Something silent that happened to a sound exchange. -/
theorem extends_note {happening : Happening ε} (sound : (exchange.note happening).Sound)
    (silent : happening.silent = true) : Extends exchange (exchange.note happening) nothing :=
  ⟨sound, _, history_note exchange happening, accounts_silent silent⟩

end Steps

section Drops

variable {exchange : Exchange ε}

/-- The bus is free again after it was changed. -/
theorem setWriting_of_free (free : exchange.bus.writing = false) :
    (exchange.setWriting true).setWriting false = exchange := by
  obtain ⟨⟨subscriptions, next, writing, fresh⟩, numbers, kept, held, record, told⟩ := exchange
  cases free
  rfl

/-- A handle that is dropped while the bus is being changed is dropped in vain. -/
theorem dropHandle_setWriting (exchange : Exchange ε) (number : Nat) :
    (exchange.setWriting true).dropHandle number =
      (exchange.note (.dropped number false)).setWriting true := by
  rw [dropHandle, Bus.drop_of_writing rfl]
  rfl

/-- So are any number of handles. -/
theorem foldl_dropHandle_setWriting (numbers : List Nat) (exchange : Exchange ε) :
    numbers.foldl dropHandle (exchange.setWriting true) =
      (numbers.foldl (fun after number => after.note (.dropped number false))
        exchange).setWriting true := by
  induction numbers generalizing exchange with
  | nil => rfl
  | cons number rest inductionHypothesis =>
    rw [List.foldl_cons, List.foldl_cons, dropHandle_setWriting, inductionHypothesis]

/-- Handles are dropped in vain after their keeper was removed. -/
theorem extends_vain {keeper : Nat} (numbers : List Nat) (sound : exchange.Sound)
    (kept : ∀ number ∈ numbers,
      number < exchange.bus.next ∧ .entrusted number keeper ∈ exchange.history)
    (removed : .dropped keeper true ∈ exchange.history) :
    Extends exchange
        (numbers.foldl (fun after number => after.note (.dropped number false)) exchange)
        nothing ∧
      (numbers.foldl (fun after number => after.note (.dropped number false)) exchange).bus =
        exchange.bus := by
  induction numbers generalizing exchange with
  | nil => exact ⟨.refl sound, rfl⟩
  | cons number rest inductionHypothesis =>
    obtain ⟨⟨used, entrusted⟩, others⟩ := List.forall_mem_cons.mp kept
    have first : Extends exchange (exchange.note (.dropped number false)) nothing := by
      refine extends_note (sound.note rfl (fun _ => rfl) ?_ ?_) rfl
      · exact fun mentioned about => Option.some.inj about ▸ used
      · intro other same
        cases same
        exact ⟨keeper, entrusted, removed⟩
    obtain ⟨later, bus⟩ := inductionHypothesis first.sound
      (fun other member => ⟨(others other member).1, first.mem (others other member).2⟩)
      (first.mem removed)
    exact ⟨first.andThen later, bus⟩

/-- A listener is removed while the bus is free. -/
theorem extends_dropHandle (sound : exchange.Sound) {number : Nat}
    (used : number < exchange.bus.next) :
    Extends exchange (exchange.dropHandle number) nothing ∧
      .dropped number true ∈ (exchange.dropHandle number).history := by
  have history : (exchange.dropHandle number).history =
      exchange.history ++ [.dropped number true] := by
    rw [dropHandle, sound.free]
    exact history_note exchange _
  have next : (exchange.dropHandle number).bus.next = exchange.bus.next :=
    exchange.bus.next_drop number
  have known : (exchange.dropHandle number).Sound := by
    refine sound.grow history ?_ ((exchange.bus.writing_drop number).trans sound.free)
      (Nat.le_of_eq next.symm) nofun ?_ (next ▸ sound.named) rfl nofun
    · rw [registered_concat_dropped, ← sound.bus, dropHandle, Bus.drop_of_free sound.free]
      rfl
    · rintro _ ⟨⟩
      exact next ▸ used
  have last : .dropped number true ∈ (exchange.dropHandle number).history :=
    history ▸ List.mem_append_right _ List.mem_cons_self
  exact ⟨⟨known, _, history, accounts_silent rfl⟩, last⟩

/-- A handle that a listener keeps was given to it. -/
theorem keptBy_sound (sound : exchange.Sound) {keeper number : Nat}
    (kept : number ∈ exchange.keptBy keeper) :
    number < exchange.bus.next ∧ .entrusted number keeper ∈ exchange.history := by
  obtain ⟨handle, member, rfl⟩ := List.mem_map.mp kept
  obtain ⟨present, same⟩ := List.mem_filter.mp member
  rw [← of_decide_eq_true same]
  exact sound.kept handle present

/-- The exchange is as sound without what a listener keeps. -/
theorem Sound.withoutKept (sound : exchange.Sound) (keeper : Nat) :
    ({ exchange with kept := exchange.kept.filter (·.1 ≠ keeper) } : Exchange ε).Sound :=
  sound.rearrange sound.named fun handle member => sound.kept handle (List.mem_filter.mp member).1

/-- To drop a handle is to remove its listener, and to drop in vain what the listener keeps if
it goes with that. -/
theorem extends_dropNumber (sound : exchange.Sound) {number : Nat}
    (used : number < exchange.bus.next) :
    Extends exchange (exchange.dropNumber number) nothing ∧
      (exchange.dropNumber number).bus.next = exchange.bus.next := by
  obtain ⟨removed, present⟩ := extends_dropHandle sound used
  have next : (exchange.dropHandle number).bus.next = exchange.bus.next :=
    exchange.bus.next_drop number
  unfold dropNumber
  split
  · exact ⟨removed, next⟩
  · let rest : Exchange ε := { exchange.dropHandle number with
      kept := (exchange.dropHandle number).kept.filter (·.1 ≠ number) }
    obtain ⟨vain, bus⟩ := extends_vain ((exchange.dropHandle number).keptBy number)
      (removed.sound.withoutKept number) (fun other kept => keptBy_sound removed.sound kept) present
    have gone : (((exchange.dropHandle number).setWriting true).bury dropHandle number).setWriting
        false = ((exchange.dropHandle number).keptBy number).foldl
          (fun after other => after.note (.dropped other false)) rest :=
      (congrArg (setWriting · false) (foldl_dropHandle_setWriting _ rest)).trans
        (setWriting_of_free vain.sound.free)
    have emptied : Extends (exchange.dropHandle number) rest nothing :=
      .same _ (removed.sound.withoutKept number) rfl
    rw [gone, bus]
    exact ⟨(removed.andThen emptied).andThen vain, next⟩

/-- Each handle that a listener keeps is dropped when it goes. -/
theorem extends_bury (sound : exchange.Sound) (keeper : Nat) :
    Extends exchange (exchange.bury dropNumber keeper) nothing := by
  have dropAll (numbers : List Nat) {start : Exchange ε} (known : start.Sound)
      (used : ∀ number ∈ numbers, number < start.bus.next) :
      Extends start (numbers.foldl dropNumber start) nothing := by
    induction numbers generalizing start with
    | nil => exact .refl known
    | cons number rest inductionHypothesis =>
      obtain ⟨here, others⟩ := List.forall_mem_cons.mp used
      obtain ⟨first, next⟩ := extends_dropNumber known here
      exact first.andThen
        (inductionHypothesis first.sound fun other member => next ▸ others other member)
  have emptied := sound.withoutKept keeper
  have used : ∀ number ∈ exchange.keptBy keeper, number < exchange.bus.next :=
    fun number kept => (keptBy_sound sound kept).1
  exact (Extends.same exchange emptied rfl).andThen (dropAll (exchange.keptBy keeper) emptied used)

/-- When an emission is done with a listener, the listener goes if it was removed meanwhile. The
bus is free then, so what it keeps is dropped as if by anybody. -/
theorem extends_letGo (sound : exchange.Sound) (number : Nat) :
    Extends exchange (exchange.letGo number) nothing := by
  have known : ({ exchange with held := exchange.held.erase number } : Exchange ε).Sound :=
    sound.rearrange sound.named sound.kept
  unfold letGo
  dsimp only
  split
  · exact .same exchange known rfl
  · exact (Extends.same exchange known rfl).andThen (extends_bury known number)

/-- To drop a listener by its name is to drop the handle under that name, if there is one. -/
theorem extends_drop (sound : exchange.Sound) (name : String) :
    Extends exchange (exchange.drop name) nothing := by
  unfold drop
  split
  · next number found =>
    have known : ({ exchange with numbers := exchange.numbers.erase name } : Exchange ε).Sound := by
      refine sound.rearrange (fun other mentioned present => ?_) sound.kept
      rw [Data.Table.get?_erase] at present
      split at present
      · cases present
      · exact sound.named other mentioned present
    exact (Extends.same exchange known rfl).andThen
      (extends_dropNumber known (sound.named name number found)).1
  · exact .refl sound

/-- A new listener gets a number above all others, and then the one of the same name is
dropped. -/
theorem extends_subscribe (sound : exchange.Sound) (listener : Listener ε) :
    Extends exchange (exchange.subscribe listener) nothing := by
  let heard : Exchange ε := { exchange.note (.subscribed (exchange.bus.next, listener)) with
    bus := (exchange.bus.subscribe listener).2
    numbers := exchange.numbers.put listener.name exchange.bus.next }
  have history : heard.history = exchange.history ++ [.subscribed (exchange.bus.next, listener)] :=
    history_note exchange _
  have used : ∀ number, number < exchange.bus.next → number < heard.bus.next :=
    fun _ lower => Nat.lt_succ_of_lt lower
  have known : heard.Sound := by
    refine sound.grow history ?_ sound.free (Nat.le_succ _) ?_ ?_ ?_ rfl nofun
    · rw [registered_concat_subscribed _ sound.used, ← sound.bus]
      rfl
    · rintro _ ⟨⟩
      exact Nat.le_refl _
    · rintro _ ⟨⟩
      exact Nat.lt_succ_self _
    · intro name number found
      have written : heard.numbers = exchange.numbers.put listener.name exchange.bus.next := rfl
      rw [written, Data.Table.get?_put] at found
      split at found
      · exact Option.some.inj found ▸ Nat.lt_succ_self exchange.bus.next
      · exact used number (sound.named _ number found)
  have made : Extends exchange heard nothing := ⟨known, _, history, accounts_silent rfl⟩
  have replaces : exchange.subscribe listener =
      (exchange.numbers.get? listener.name).elim heard heard.dropNumber := by
    unfold subscribe
    cases exchange.numbers.get? listener.name <;> rfl
  rw [replaces]
  cases found : exchange.numbers.get? listener.name with
  | none => exact made
  | some number =>
    exact made.andThen (extends_dropNumber known (used number (sound.named _ number found))).1

/-- A handle that is given to a listener is on record with its keeper from then on, and goes by its
name no longer. -/
theorem extends_entrust (sound : exchange.Sound) (name keeper : String) :
    Extends exchange (exchange.entrust name keeper) nothing := by
  unfold entrust
  split
  · next number holder found _ =>
    have noted : (exchange.note (.entrusted number holder)).Sound :=
      sound.note rfl (fun _ => rfl) nofun nofun
    refine (extends_note noted rfl).andThen (Extends.same _ (noted.rearrange ?_ ?_) rfl)
    · intro other mentioned present
      rw [Data.Table.get?_erase] at present
      split at present
      · cases present
      · exact sound.named other mentioned present
    · refine List.forall_mem_cons.mpr ⟨⟨sound.named name number found, ?_⟩, noted.kept⟩
      rw [history_note]
      exact List.mem_append_right _ List.mem_cons_self
  · exact .refl sound

end Drops

section Run

variable {exchange after : Exchange ε}

mutual

/-- A command owes nothing, if emitting owes nothing. -/
theorem extends_obey {emit : Exchange ε → ε → Option (Exchange ε)}
    (emits : ∀ exchange event after, exchange.Sound → emit exchange event = some after →
      Extends exchange after nothing) :
    ∀ (command : Command ε) (exchange after : Exchange ε), exchange.Sound →
      obey emit command exchange = some after → Extends exchange after nothing
  | .drop name, exchange, after, sound, obeyed => by
    rw [obey] at obeyed
    exact Option.some.inj obeyed ▸ extends_drop sound name
  | .subscribe listener, exchange, after, sound, obeyed => by
    rw [obey] at obeyed
    exact Option.some.inj obeyed ▸ extends_subscribe sound listener
  | .emit event, exchange, after, sound, obeyed => by
    rw [obey] at obeyed
    exact emits exchange event after sound obeyed
  | .entrust name keeper, exchange, after, sound, obeyed => by
    rw [obey] at obeyed
    exact Option.some.inj obeyed ▸ extends_entrust sound name keeper
  | .consider decide, exchange, after, sound, obeyed => by
    rw [obey] at obeyed
    exact extends_obeyAll emits (decide exchange.receipts) exchange after sound obeyed

/-- Commands in a row owe nothing, if emitting owes nothing. -/
theorem extends_obeyAll {emit : Exchange ε → ε → Option (Exchange ε)}
    (emits : ∀ exchange event after, exchange.Sound → emit exchange event = some after →
      Extends exchange after nothing) :
    ∀ (commands : List (Command ε)) (exchange after : Exchange ε), exchange.Sound →
      obeyAll emit commands exchange = some after → Extends exchange after nothing
  | [], exchange, after, sound, obeyed => by
    rw [obeyAll] at obeyed
    exact Option.some.inj obeyed ▸ .refl sound
  | command :: rest, exchange, after, sound, obeyed => by
    rw [obeyAll] at obeyed
    obtain ⟨middle, first, then'⟩ := Option.bind_eq_some_iff.mp obeyed
    have here := extends_obey emits command exchange middle sound first
    exact here.andThen (extends_obeyAll emits rest middle after here.sound then')

end

section Deliver

variable {emit : Exchange ε → ε → Option (Exchange ε)}
  (emits : ∀ exchange event after, exchange.Sound → emit exchange event = some after →
    Extends exchange after nothing)
  {emission : Nat} {event : ε}

include emits

/-- The delivery to one subscription pays what the emission is owed by it. What the listener
does in answer, and what goes with it when the emission is done with it, owes nothing. -/
theorem extends_deliver (sound : exchange.Sound) (begun : emission < exchange.history.length)
    {subscription : Nat × Listener ε}
    (delivered : deliver emit emission event exchange subscription = some after) :
    Extends exchange after (owedTo emission (handedTo [subscription] event)) := by
  obtain ⟨answered, met, rfl⟩ := Option.map_eq_some_iff.mp delivered
  have paid : Extends exchange answered (owedTo emission (handedTo [subscription] event)) := by
    split at met
    · next accepted =>
      let noted := exchange.note (.received emission subscription event)
      have known : noted.Sound := sound.note rfl (fun _ => rfl) nofun nofun
      have received : Extends exchange noted (owedTo emission [(subscription, event)]) :=
        ⟨known, _, history_note exchange _, accounts_received begun subscription event⟩
      have whole := received.trans (extends_obeyAll emits _ noted answered known met) fun _ _ => rfl
      simpa [handedTo, accepted, nothing] using whole
    · next refused =>
      cases Option.some.inj met
      simpa [handedTo, refused, owedTo_nil] using Extends.refl sound
  have whole := paid.trans (extends_letGo paid.sound subscription.1) fun _ _ => rfl
  simpa [nothing] using whole

/-- Going through subscriptions pays an emission that has begun what it is owed by them. -/
theorem extends_deliverAll (subscriptions : List (Nat × Listener ε)) (sound : exchange.Sound)
    (begun : emission < exchange.history.length)
    (delivered : subscriptions.foldlM (deliver emit emission event) exchange = some after) :
    Extends exchange after (owedTo emission (handedTo subscriptions event)) := by
  induction subscriptions generalizing exchange with
  | nil =>
    cases Option.some.inj delivered
    simpa [handedTo, owedTo_nil] using Extends.refl sound
  | cons first rest inductionHypothesis =>
    rw [List.foldlM_cons] at delivered
    obtain ⟨middle, here, later⟩ := Option.bind_eq_some_iff.mp delivered
    have delivery := extends_deliver emits sound begun here
    obtain ⟨stretch, grown, -⟩ := delivery.grown
    have begun' : emission < middle.history.length := by
      rw [grown, List.length_append]
      exact Nat.lt_add_right _ begun
    have whole := delivery.trans (inductionHypothesis delivery.sound begun' later)
      fun other past => if_neg (Nat.ne_of_gt (Nat.lt_of_lt_of_le begun past))
    rw [owedTo_append, handedTo, handedTo, ← List.map_append, ← List.filter_append] at whole
    exact whole

end Deliver

/-- An emission, as deep as answers nest, owes nothing once it is over.

Proof: induction on the depth. At its beginning the emission is owed what its event comes to
for the subscriptions on the bus, which are the registered ones, and going through these pays
it, since emissions that are nested in it owe nothing by the induction hypothesis. -/
theorem extends_emitWithin (depth : Nat) :
    ∀ (exchange : Exchange ε) (event : ε) (after : Exchange ε), exchange.Sound →
      emitWithin depth exchange event = some after → Extends exchange after nothing := by
  induction depth with
  | zero => exact nofun
  | succ depth inductionHypothesis =>
    intro exchange event after sound emitted
    rw [emitWithin] at emitted
    have length : exchange.record.length = exchange.history.length := List.length_reverse.symm
    have history : (exchange.beginEmission event).history = exchange.history ++ [.emitted event] :=
      history_note exchange (.emitted event)
    have begun : exchange.record.length < (exchange.beginEmission event).history.length := by
      rw [history, List.length_append, length]
      exact Nat.lt_succ_self _
    have noted : (exchange.note (.emitted event)).Sound :=
      sound.note rfl (fun _ => rfl) nofun nofun
    have known : (exchange.beginEmission event).Sound := noted.rearrange noted.named noted.kept
    obtain ⟨known, stretch, grown, accounts⟩ :=
      extends_deliverAll inductionHypothesis _ known begun emitted
    rw [history] at grown accounts
    rw [length, sound.bus] at accounts
    exact ⟨known, _, by rw [grown, List.append_assoc]; rfl, accounts_emitted accounts⟩

end Run

/-- Whatever is done to an exchange from its beginning, however deep answers nest: an emission
is delivered to the subscriptions that were registered when it began and whose listeners
accept its event, to each exactly once and in the order in which they were made. None of them
was made later, and none was removed before. They are the live ones, so that nobody is reached
after being dropped, exactly when none of those that accept the event was dropped in vain. No
handle is dropped in vain but one that was given to a listener which was removed later.

Proof: every step of the run extends the exchange by a stretch of history that accounts for
what emissions are owed, and the account of the whole run settles the emission. Its deliveries
and those that the live subscriptions come to are two filters of the registered ones, which
agree exactly when nobody is in one of them only. -/
theorem emissions_reach_live_subscriptions_iff {depth : Nat} {commands : List (Command ε)}
    {exchange : Exchange ε} (ran : obeyAll (emitWithin depth) commands empty = some exchange)
    {before after : List (Happening ε)} {event : ε}
    (emitted : exchange.history = before ++ .emitted event :: after) :
    (deliveries before.length exchange.history = handedTo (registered before) event ∧
      ((registered before).map (·.1)).Nodup ∧
      ∀ delivery ∈ deliveries before.length exchange.history,
        (∀ subscription, .subscribed subscription ∈ after → subscription.1 ≠ delivery.1.1) ∧
        .dropped delivery.1.1 true ∉ before) ∧
    (deliveries before.length exchange.history = handedTo (live before) event ↔
      ∀ subscription ∈ registered before, subscription.2.accepts event = true →
        .dropped subscription.1 false ∉ before) ∧
    Explained exchange.history := by
  have whole := extends_obeyAll (extends_emitWithin depth) commands empty exchange sound_empty ran
  obtain ⟨stretch, grown, accounts⟩ := whole.grown
  have history : exchange.history = stretch := grown
  have delivered : deliveries before.length exchange.history =
      handedTo (registered before) event := by
    rw [history] at emitted ⊢
    exact accounts.settled before event after emitted
  have ordered := whole.sound.ordered
  rw [emitted, List.pairwise_append] at ordered
  obtain ⟨first, _, across⟩ := ordered
  have increasing := registered_increasing first
  refine ⟨⟨delivered, List.pairwise_map.mpr (increasing.imp Nat.ne_of_lt), ?_⟩, ?_,
    whole.sound.explained⟩
  · rw [delivered]
    intro delivery member
    obtain ⟨subscription, accepted, rfl⟩ := List.mem_map.mp member
    have present : subscription ∈ registered before := (List.mem_filter.mp accepted).1
    refine ⟨fun later made => ?_, not_removed_of_mem present⟩
    have known := subscribed_of_mem_made (List.mem_filter.mp present).1
    have greater : subscription.1 < later.1 :=
      across _ known _ (List.mem_cons_of_mem _ made) later rfl subscription.1 rfl
    exact Nat.ne_of_gt greater
  · rw [delivered]
    exact handedTo_registered_eq_live_iff before event

section Meddler

/-- A listener that only hears even numbers. -/
def latecomer : Listener Nat := .mk "latecomer" (· % 2 = 0) fun _ => []

/-- A listener that hears everything. -/
def victim : Listener Nat := .mk "victim" (fun _ => true) fun _ => []

/-- A listener that drops another one when it hears a one, lets a third one listen, and goes on
to emit twos until three of them were heard. -/
def meddler : Listener Nat := .mk "meddler" (fun _ => true) fun event =>
  if event = 1 then [.drop "victim", .subscribe latecomer, .emit 2]
  else [.consider fun receipts =>
    if (receipts.filter (·.2 = 2)).length < 3 then [.emit 2] else []]

/-- A listener that is dropped while an event is delivered still receives that event, and one
that begins to listen meanwhile does not. -/
theorem meddling_changes_no_delivery :
    ∃ (exchange : Exchange Nat) (after : List (Happening Nat)),
      obeyAll (emitWithin 4) [.subscribe meddler, .subscribe victim, .emit 1] empty =
        some exchange ∧
      exchange.history =
        [.subscribed (0, meddler), .subscribed (1, victim)] ++ .emitted 1 :: after ∧
      deliveries 2 exchange.history = [((0, meddler), 1), ((1, victim), 1)] := by
  have begins : (obeyAll (emitWithin 4) [.subscribe meddler, .subscribe victim, .emit 1]
      (empty : Exchange Nat)).map (·.history.take 3) =
        some [.subscribed (0, meddler), .subscribed (1, victim), .emitted 1] := rfl
  obtain ⟨exchange, ran, start⟩ := Option.map_eq_some_iff.mp begins
  have emitted : exchange.history = [.subscribed (0, meddler), .subscribed (1, victim)] ++
      .emitted 1 :: exchange.history.drop 3 := by
    have whole := List.take_append_drop 3 exchange.history
    rw [start] at whole
    exact whole.symm
  obtain ⟨_, reaches, _⟩ := emissions_reach_live_subscriptions_iff ran emitted
  exact ⟨exchange, _, ran, emitted, reaches.mpr (by simp)⟩

end Meddler

section Keeper

/-- A listener that keeps the handle of another one. -/
def keeper : Listener Nat := .mk "keeper" (fun _ => true) fun _ => []

/-- The victim is dropped when its keeper is removed, and yet hears what is emitted then. -/
theorem dropped_listener_still_hears :
    ∃ (exchange : Exchange Nat) (before : List (Happening Nat)),
      obeyAll (emitWithin 1) [.subscribe victim, .subscribe keeper, .entrust "victim" "keeper",
        .drop "keeper", .emit 7] empty = some exchange ∧
      exchange.history = before ++ [.emitted 7, .received 5 (0, victim) 7] ∧
      .dropped 0 false ∈ before ∧ live before = [] ∧
      deliveries before.length exchange.history = [((0, victim), 7)] := by
  refine ⟨_, [.subscribed (0, victim), .subscribed (1, keeper), .entrusted 0 1, .dropped 1 true,
    .dropped 0 false], rfl, rfl, ?_, rfl, rfl⟩
  simp

end Keeper

end Flowdesk.Exchange
