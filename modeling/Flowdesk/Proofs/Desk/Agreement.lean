import Flowdesk.Files.Memory
import Flowdesk.Proofs.Data.Lapse
import Flowdesk.Proofs.Desk.Roll

/-!
# Agreement about who is at a document

Three parts of a desk say who is at a document: the desk itself by its holds and
sessions, the registry by the holders of the document, and the coordinator by the clients
that take part in its syncs. The desk tells a client that holds a document open from one
that has a session on it; the other two know a client by its name alone. So a client that
stays both ways is known there once, and is gone as soon as one of its two stays ends.
And an opening that is refused for want of a version leaves a holder that does not stay.
Nothing else parts the three, and they agree again about a client as soon as it begins to
stay in some way, or ends its last stay.
-/

namespace Flowdesk

open Data Sync

/-- What is said of one client at one document. -/
@[ext] structure Place where
  /-- Whether it is a holder of the document. -/
  holder : Bool
  /-- Whether it takes part in the syncs of the document. -/
  linked : Bool
  /-- Whether it holds the document open at the desk. -/
  holding : Bool
  /-- Whether it has a session on the document. -/
  attached : Bool
  deriving DecidableEq

namespace Place

/-- Whether a client stays at a document in some way. -/
def stays (place : Place) : Bool := place.holding || place.attached

/-- Whether all say the same of a client at a document. -/
def Agrees (place : Place) : Prop := place.holder = place.stays ∧ place.linked = place.stays

/-- Whether a client that takes part in the syncs of a document holds it and stays. -/
def Linked (place : Place) : Prop :=
  place.linked = true → place.holder = true ∧ place.stays = true

/-- Whether a client is in the place to make a visit. -/
def Fits (place : Place) : Visit → Prop
  | .opens | .refused => place.holding = false
  | .attaches => place.attached = false
  | .closes => place.holding = true
  | .detaches => place.attached = true

/-- The place of a client after its visit. -/
def after (place : Place) : Visit → Place
  | .opens => { place with holder := true, linked := true, holding := true }
  | .refused => { place with holder := true }
  | .attaches => { place with holder := true, linked := true, attached := true }
  | .closes => { place with holder := false, linked := false, holding := false }
  | .detaches => { place with holder := false, linked := false, attached := false }

/-- Whether a visit parts what is said of a client: it ends one of two stays, or it is
refused to a client that does not stay. -/
def Parted (place : Place) : Visit → Prop
  | .closes => place.attached = true
  | .detaches => place.holding = true
  | .refused => place.stays = false
  | .opens | .attaches => False

/-- Whether a visit unites what is said of a client: it begins a stay, or it ends the
only one. -/
def United (place : Place) : Visit → Prop
  | .opens | .attaches => True
  | .closes => place.attached = false
  | .detaches => place.holding = false
  | .refused => False

variable {place : Place} {visit : Visit}

theorem Linked.after (linked : place.Linked) (fits : place.Fits visit) :
    (place.after visit).Linked := by
  obtain ⟨holder, link, holding, attached⟩ := place
  cases visit with
  | opens => exact fun _ => ⟨rfl, rfl⟩
  | attaches => exact fun _ => ⟨rfl, Bool.or_true holding⟩
  | refused => exact fun told => ⟨rfl, (linked told).2⟩
  | closes => exact fun told => nomatch told
  | detaches => exact fun told => nomatch told

theorem Parted.not_agrees (parted : place.Parted visit) (fits : place.Fits visit) :
    ¬(place.after visit).Agrees := by
  obtain ⟨holder, link, holding, attached⟩ := place
  cases visit <;> simp_all [Parted, Fits, Agrees, stays, Place.after]

theorem United.agrees (united : place.United visit) (fits : place.Fits visit) :
    (place.after visit).Agrees := by
  obtain ⟨holder, link, holding, attached⟩ := place
  cases visit <;> simp_all [United, Fits, Agrees, stays, Place.after]

/-- A visit that neither parts nor unites is refused to a client that stays. -/
theorem agrees_after (linked : place.Linked) (whole : ¬place.Parted visit)
    (apart : ¬place.United visit) : (place.after visit).Agrees ↔ place.Agrees := by
  obtain ⟨holder, link, holding, attached⟩ := place
  cases visit with
  | opens => exact absurd trivial apart
  | attaches => exact absurd trivial apart
  | closes => exact absurd (Bool.eq_false_or_eq_true attached) (not_or.mpr ⟨whole, apart⟩)
  | detaches => exact absurd (Bool.eq_false_or_eq_true holding) (not_or.mpr ⟨whole, apart⟩)
  | refused =>
    -- it is a holder afterwards, as it was before if it takes part; if it does not take
    -- part, it stays without, before and after
    have stays : (holding || attached) = true := Bool.of_not_eq_false whole
    cases link with
    | true =>
      have holds : holder = true := (linked rfl).1
      subst holds
      rfl
    | false =>
      refine iff_of_false ?_ ?_
      · exact fun agrees => Bool.false_ne_true (agrees.2.trans stays)
      · exact fun agrees => Bool.false_ne_true (agrees.2.trans stays)

end Place

namespace Roll

/-- What a roll says of a client at a document. -/
def place (roll : Roll) (uri client : String) : Place where
  holder := decide (client ∈ roll.guests.holders uri)
  linked := decide (client ∈ roll.guests.linked uri)
  holding := decide ((uri, client) ∈ roll.holds)
  attached := roll.sessions.contains (uri, client)

variable {roll : Roll} {uri client : String} {visit : Visit}

/-- A visit changes the place of its client at its document. -/
theorem place_visit (fits : (roll.place uri client).Fits visit) :
    (roll.visit uri client visit).place uri client = (roll.place uri client).after visit := by
  have enters (sets : String → NameSet) :
      decide (client ∈ Guests.changed sets uri (·.insert client) uri) = true :=
    decide_eq_true ((Guests.mem_changed_insert sets uri client uri client).mpr (.inl rfl))
  have leaves (sets : String → NameSet) :
      decide (client ∈ Guests.changed sets uri (·.erase client) uri) = false :=
    decide_eq_false fun member =>
      ((Guests.mem_changed_erase sets uri client uri client).mp member).1 rfl
  cases visit with
  | opens => exact Place.ext (enters _) (enters _) (decide_eq_true List.mem_cons_self) rfl
  | refused => exact Place.ext (enters _) rfl rfl rfl
  | attaches =>
    refine Place.ext (enters _) (enters _) rfl ((Table.contains_put ..).trans ?_)
    rw [decide_eq_true rfl, Bool.true_or]
    rfl
  | closes =>
    refine Place.ext (leaves _) (leaves _) (decide_eq_false fun member => ?_) rfl
    exact of_decide_eq_true (List.mem_filter.mp member).2 rfl
  | detaches =>
    obtain ⟨number, found⟩ := Option.isSome_iff_exists.mp fits
    simp only [Roll.visit, found]
    refine Place.ext (leaves _) (leaves _) rfl ((Table.contains_erase ..).trans ?_)
    rw [decide_eq_true rfl, Bool.not_true, Bool.false_and]
    rfl

/-- A visit leaves every other place as it was. -/
theorem place_visit_of_ne {other name : String} (different : (uri, client) ≠ (other, name)) :
    (roll.visit uri client visit).place other name = roll.place other name := by
  have enters (sets : String → NameSet) :
      decide (name ∈ Guests.changed sets uri (·.insert client) other) =
        decide (name ∈ sets other) :=
    decide_eq_decide.mpr
      ((Guests.mem_changed_insert sets uri client other name).trans (or_iff_right different))
  have leaves (sets : String → NameSet) :
      decide (name ∈ Guests.changed sets uri (·.erase client) other) =
        decide (name ∈ sets other) :=
    decide_eq_decide.mpr
      ((Guests.mem_changed_erase sets uri client other name).trans (and_iff_right different))
  cases visit with
  | opens =>
    refine Place.ext (enters _) (enters _) (decide_eq_decide.mpr ?_) rfl
    exact List.mem_cons.trans (or_iff_right different.symm)
  | refused => exact Place.ext (enters _) rfl rfl rfl
  | attaches =>
    refine Place.ext (enters _) (enters _) rfl ((Table.contains_put ..).trans ?_)
    rw [decide_eq_false different, Bool.false_or]
    rfl
  | closes =>
    refine Place.ext (leaves _) (leaves _) (decide_eq_decide.mpr ?_) rfl
    exact List.mem_filter.trans (and_iff_left (decide_eq_true different.symm))
  | detaches =>
    unfold Roll.visit
    simp only
    split
    · rfl
    · refine Place.ext (leaves _) (leaves _) rfl ((Table.contains_erase ..).trans ?_)
      rw [decide_eq_false different, Bool.not_false, Bool.true_and]
      rfl

end Roll

namespace Desk

variable {φ : Type}

/-- Whether a client stays at a document in some way. -/
def Stays (desk : Desk φ) (uri client : String) : Prop :=
  (uri, client) ∈ desk.holds ∨ desk.sessions.contains (uri, client) = true

theorem stays_iff (desk : Desk φ) (uri client : String) :
    desk.Stays uri client ↔ (desk.roll.place uri client).stays = true :=
  ((Bool.or_eq_true ..).to_iff.trans (or_congr_left decide_eq_true_iff)).symm

/-- Whether the registry, the coordinator and the desk say the same of a client. -/
theorem agrees_iff (desk : Desk φ) (uri client : String) :
    (desk.roll.place uri client).Agrees ↔
      (client ∈ desk.workspace.registry.holders uri ↔ desk.Stays uri client) ∧
      (client ∈ (desk.workspace.coordinator.status uri).connectedClients ↔
        desk.Stays uri client) := by
  rw [stays_iff]
  exact and_congr (Bool.eq_iff_iff.trans (iff_congr decide_eq_true_iff Iff.rfl))
    (Bool.eq_iff_iff.trans (iff_congr decide_eq_true_iff Iff.rfl))

/-- What holds of a desk at all times, at a document and a client. -/
structure Attended (uri client : String) (desk : Desk φ) : Prop where
  orderly : desk.workspace.Orderly
  seated : desk.roll.Seated
  linked : (desk.roll.place uri client).Linked

theorem attended_create (names : Nat → String) (files : φ) (settings : Settings)
    (uri client : String) : Attended uri client (createNaming names files settings) where
  orderly := Workspace.orderly_create files settings
  seated := seated_create names files settings
  linked := nofun

section Moves

variable [Files.Store φ] {desk : Desk φ} {uri client : String} {move : Move φ}

/-- Whether a move parts what is said of a client at a document. -/
def Parts (uri client : String) (desk : Desk φ) (move : Move φ) : Prop :=
  ∃ visit, desk.visit? move = some ((uri, client), visit) ∧
    (desk.roll.place uri client).Parted visit

/-- Whether a move unites what is said of a client at a document. -/
def Unites (uri client : String) (desk : Desk φ) (move : Move φ) : Prop :=
  ∃ visit, desk.visit? move = some ((uri, client), visit) ∧
    (desk.roll.place uri client).United visit

/-- Nobody makes a visit that it is not in the place to make. -/
theorem fits_of_visit? {visit : Visit} (visits : desk.visit? move = some ((uri, client), visit)) :
    (desk.roll.place uri client).Fits visit := by
  revert visits
  cases move with
  | request request =>
    cases request with
    | openFor opening method =>
      simp only [visit?]
      split
      · rintro ⟨⟩
      · next absent =>
        split
        · rintro ⟨⟩
          exact decide_eq_false absent
        · split
          · rintro ⟨⟩
            exact decide_eq_false absent
          · rintro ⟨⟩
    | attach about name =>
      simp only [visit?]
      split
      · rintro ⟨⟩
      · next absent =>
        split
        · rintro ⟨⟩
          exact Bool.of_not_eq_true absent
        · rintro ⟨⟩
    | close about name =>
      simp only [visit?]
      split
      · next present =>
        rintro ⟨⟩
        exact decide_eq_true present
      · rintro ⟨⟩
    | detach about name =>
      simp only [visit?]
      split
      · next present =>
        rintro ⟨⟩
        exact present
      · rintro ⟨⟩
    | _ => rintro ⟨⟩
  | _ => rintro ⟨⟩

/-- A visit changes the place of its client. -/
theorem place_act (orderly : desk.workspace.Orderly) (seated : desk.roll.Seated) {visit : Visit}
    (visits : desk.visit? move = some ((uri, client), visit)) :
    (desk.act move).roll.place uri client = (desk.roll.place uri client).after visit := by
  rw [roll_act orderly seated, visits]
  exact Roll.place_visit (fits_of_visit? visits)

/-- A move that is no visit of a client leaves its place as it was. -/
theorem place_act_of_none (orderly : desk.workspace.Orderly) (seated : desk.roll.Seated)
    (away : ¬∃ visit, desk.visit? move = some ((uri, client), visit)) :
    (desk.act move).roll.place uri client = desk.roll.place uri client := by
  rw [roll_act orderly seated]
  cases visits : desk.visit? move with
  | none => rfl
  | some what =>
    obtain ⟨⟨other, name⟩, visit⟩ := what
    apply Roll.place_visit_of_ne
    intro same
    exact away ⟨visit, visits.trans (by rw [same])⟩

theorem Attended.act (attended : Attended uri client desk) (move : Move φ) :
    Attended uri client (desk.act move) where
  orderly := (makes_act desk move).orderly attended.orderly
  seated := seated_act attended.orderly attended.seated move
  linked := by
    by_cases visits : ∃ visit, desk.visit? move = some ((uri, client), visit)
    · obtain ⟨visit, visits⟩ := visits
      rw [place_act attended.orderly attended.seated visits]
      exact attended.linked.after (fits_of_visit? visits)
    · rw [place_act_of_none attended.orderly attended.seated visits]
      exact attended.linked

/-- What moves do to the agreement about a client: they part it, unite it or leave it. -/
theorem sways_agrees (uri client : String) :
    Sways act (Attended (φ := φ) uri client) (fun desk => (desk.roll.place uri client).Agrees)
      (Parts uri client) (Unites uri client) where
  kept _ move attended := attended.act move
  broken desk move attended parts := by
    obtain ⟨visit, visits, parted⟩ := parts
    rw [place_act attended.orderly attended.seated visits]
    exact parted.not_agrees (fits_of_visit? visits)
  restored desk move attended unites := by
    obtain ⟨visit, visits, united⟩ := unites
    rw [place_act attended.orderly attended.seated visits]
    exact united.agrees (fits_of_visit? visits)
  left desk move attended whole apart := by
    by_cases visits : ∃ visit, desk.visit? move = some ((uri, client), visit)
    · obtain ⟨visit, visits⟩ := visits
      rw [place_act attended.orderly attended.seated visits]
      exact Place.agrees_after attended.linked (fun parted => whole ⟨visit, visits, parted⟩)
        fun united => apart ⟨visit, visits, united⟩
    · rw [place_act_of_none attended.orderly attended.seated visits]

end Moves

variable [Files.Store φ]

/-- After any moves the holders of a document, the clients that take part in its syncs
and the clients that stay at it are the same exactly if there is no client whose stays
were parted by a move that no later move made good. As long as the holders are the
clients that stay, the document is open exactly while some client stays.

Proof: for one client the agreement is swayed by its visits. It is a law of the place of the
client alone, by the cases of a visit, which other moves leave as it is. So the agreement holds
exactly where no parting has gone without a visit that unites after it. -/
theorem stays_agree_iff (names : Nat → String) (files : φ) (settings : Settings)
    (moves : List (Move φ)) (uri : String) :
    let desk := (createNaming names files settings).after moves
    ((∀ client,
        (client ∈ desk.workspace.registry.holders uri ↔ desk.Stays uri client) ∧
        (client ∈ (desk.workspace.coordinator.status uri).connectedClients ↔
          desk.Stays uri client)) ↔
      ∀ client, ¬Lapsed act (Parts uri client) (Unites uri client)
        (createNaming names files settings) moves) ∧
    ((∀ client, client ∈ desk.workspace.registry.holders uri ↔ desk.Stays uri client) →
      (desk.workspace.registry.isOpen uri = true ↔ ∃ client, desk.Stays uri client)) := by
  intro desk
  constructor
  · apply forall_congr'
    intro client
    rw [← agrees_iff]
    exact (sways_agrees uri client).law_iff (attended_create names files settings uri client)
      ⟨rfl, rfl⟩ moves
  · intro same
    have orderly : desk.workspace.Orderly :=
      (makes_after _ moves).orderly (Workspace.orderly_create files settings)
    exact (Registry.isOpen_iff orderly.sound uri).trans (exists_congr same)

/-- Whoever takes part in the syncs of a document holds it and stays at it, whatever
happens. -/
theorem linked_clients_stay (names : Nat → String) (files : φ) (settings : Settings)
    (moves : List (Move φ)) (uri client : String) :
    let desk := (createNaming names files settings).after moves
    client ∈ (desk.workspace.coordinator.status uri).connectedClients →
      client ∈ desk.workspace.registry.holders uri ∧ desk.Stays uri client := by
  intro desk takesPart
  have attended : Attended uri client desk :=
    (sways_agrees uri client).invariant_foldl (attended_create names files settings uri client)
      moves
  obtain ⟨holds, stays⟩ := attended.linked (decide_eq_true takesPart)
  exact ⟨of_decide_eq_true holds, (stays_iff desk uri client).mpr stays⟩

/-- A client opens a document, begins a session on it, and lets go of its hold. -/
def stayingTwice (uri : String) : List (Move Files.Memory) :=
  [.request (.openFor ⟨uri, "c", none, none, some "workflow:\n"⟩ .text),
    .request (.attach uri (some "c")), .request (.close uri "c")]

/-- The session goes on at a document that is open no longer. -/
theorem closed_hold_takes_session_off :
    let desk := (create Files.Memory.empty .usual).after (stayingTwice "file:///a.wf")
    desk.Stays "file:///a.wf" "c" ∧
      "c" ∉ desk.workspace.registry.holders "file:///a.wf" ∧
      "c" ∉ (desk.workspace.coordinator.status "file:///a.wf").connectedClients ∧
      desk.workspace.registry.isOpen "file:///a.wf" = false := by
  have run :
      let desk := (create Files.Memory.empty .usual).after (stayingTwice "file:///a.wf")
      (desk.sessions.contains ("file:///a.wf", "c"),
        (desk.workspace.registry.holders "file:///a.wf").names,
        (desk.workspace.coordinator.status "file:///a.wf").connectedClients.names,
        desk.workspace.registry.isOpen "file:///a.wf") = (true, [], [], false) := by
    decide +kernel
  simp only [Prod.mk.injEq] at run
  obtain ⟨attached, holders, linked, shut⟩ := run
  refine ⟨.inr attached, ?_, ?_, shut⟩
  · rw [NameSet.mem_def, holders]
    exact List.not_mem_nil
  · rw [NameSet.mem_def, linked]
    exact List.not_mem_nil

end Desk

end Flowdesk
