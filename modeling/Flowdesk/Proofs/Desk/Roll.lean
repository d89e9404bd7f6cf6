import Flowdesk.Proofs.Desk.Move
import Flowdesk.Proofs.Workspace.Guests

/-!
# The roll of a desk

The roll of a desk is what is known there of who stays at which document: the guests of
its workspace, the holds of text and form clients, and the numbers of the graphical
sessions. A move is a visit of one client at one document, or it leaves the roll alone.
What a visit does to the roll is said here once. That a session that ends is the one the
desk has under the document and the client is an invariant of the roll.
-/

namespace Flowdesk

open Data Sync

/-- Stays are told apart as pairs of strings. -/
instance Stay.lawful : LawfulBEq Stay := inferInstance

/-- What is known of who stays where. -/
@[ext] structure Roll where
  guests : Guests
  /-- The documents that text and form clients hold open. -/
  holds : List Stay
  /-- The numbers of the graphical sessions. -/
  sessions : Table Stay Nat

/-- What a client does at a document. -/
inductive Visit where
  /-- It opens the document, which it did not hold. -/
  | opens
  /-- It tries to, and is refused because no version is left for its text. -/
  | refused
  /-- It begins a session. -/
  | attaches
  /-- It lets go of the document, which it held. -/
  | closes
  /-- It ends its session. -/
  | detaches
  deriving DecidableEq

namespace Roll

/-- The roll after a visit of a client at a document. -/
def visit (roll : Roll) (uri client : String) : Visit → Roll
  | .opens => { roll with
      guests := (roll.guests.letIn uri client).link uri client
      holds := (uri, client) :: roll.holds }
  | .refused => { roll with guests := roll.guests.letIn uri client }
  | .attaches => { roll with
      guests := ((roll.guests.letIn uri client).link uri client).enrol uri client
      sessions := roll.sessions.put (uri, client) roll.guests.next }
  | .closes => { roll with
      guests := (roll.guests.letOut uri client).unlink uri client
      holds := roll.holds.filter (· ≠ (uri, client)) }
  | .detaches =>
      match roll.sessions.get? (uri, client) with
      | none => roll
      | some number => { roll with
          guests := ((roll.guests.unlink uri client).withdraw number).letOut uri client
          sessions := roll.sessions.erase (uri, client) }

/-- The roll after a visit, if there was one. -/
def after (roll : Roll) : Option (Stay × Visit) → Roll
  | none => roll
  | some ((uri, client), visit) => roll.visit uri client visit

/-- Whether every session on a roll is known under its number, and is the only one that
is. -/
structure Seated (roll : Roll) : Prop where
  distinct : (roll.guests.entries.map (·.1)).Nodup
  known : ∀ uri client number, roll.sessions.get? (uri, client) = some number →
    (number, uri, client) ∈ roll.guests.entries

/-- A session is known by its number alone. -/
theorem Seated.entry_eq {roll : Roll} (seated : roll.Seated) {first second : Nat × String × String}
    (here : first ∈ roll.guests.entries) (there : second ∈ roll.guests.entries)
    (same : first.1 = second.1) : first = second :=
  List.inj_on_of_nodup_map seated.distinct here there same

/-- Visits leave every other session known. -/
theorem known_visit {roll : Roll} (seated : roll.Seated) (uri client : String) (visit : Visit)
    (other name : String) (number : Nat)
    (kept : (roll.visit uri client visit).sessions.get? (other, name) = some number) :
    (number, other, name) ∈ (roll.visit uri client visit).guests.entries := by
  cases visit with
  | opens => exact seated.known other name number kept
  | refused => exact seated.known other name number kept
  | closes => exact seated.known other name number kept
  | attaches =>
    have written := (Table.get?_put roll.sessions (uri, client) (other, name) _).symm.trans kept
    split at written
    · next same =>
      cases same
      cases written
      exact List.mem_append_right _ List.mem_cons_self
    · exact List.mem_append_left _ (seated.known other name number written)
  | detaches =>
    unfold Roll.visit at kept ⊢
    simp only at kept ⊢
    split
    · next none =>
      rw [none] at kept
      exact seated.known other name number kept
    · next ended found =>
      rw [found] at kept
      have left := (Table.get?_erase roll.sessions (uri, client) (other, name)).symm.trans kept
      split at left
      · cases left
      · next different =>
        have here := seated.known other name number left
        -- the number that goes belongs to the session that ends and to no other
        refine List.mem_filter.mpr ⟨here, decide_eq_true ?_⟩
        rintro rfl
        have same := seated.entry_eq (seated.known uri client number found) here rfl
        exact different (congrArg Prod.snd same)

end Roll

namespace Desk

variable {φ : Type}

/-- The roll of a desk. -/
def roll (desk : Desk φ) : Roll := ⟨desk.workspace.guests, desk.holds, desk.sessions⟩

/-- Another workspace with the same guests makes no difference to the roll. -/
theorem roll_work (desk : Desk φ) {workspace : Workspace φ}
    (same : workspace.guests = desk.workspace.guests) : (desk.work workspace).roll = desk.roll :=
  Roll.ext same rfl rfl

/-- The sessions of an orderly desk are told apart by their numbers. -/
theorem entries_distinct {desk : Desk φ} (orderly : desk.workspace.Orderly) :
    (desk.roll.guests.entries.map (·.1)).Nodup := by
  change ((desk.workspace.sessions.map Session.entry).map _).Nodup
  rw [List.map_map]
  exact orderly.numbered.distinct

theorem seated_create (names : Nat → String) (files : φ) (settings : Settings) :
    (createNaming names files settings).roll.Seated :=
  ⟨List.nodup_nil, fun _ _ _ found => nomatch found⟩

variable [Files.Store φ]

/-- The visit that a move is, if it is one. -/
def visit? (desk : Desk φ) : Move φ → Option (Stay × Visit)
  | .request (.openFor opening _) =>
      if (opening.uri, opening.client) ∈ desk.holds then none
      else
        match (desk.workspace.openFor opening).2 with
        | .ok () => some ((opening.uri, opening.client), .opens)
        | .error failure =>
            if failure = .versionExhausted opening.uri then
              some ((opening.uri, opening.client), .refused)
            else none
  | .request (.attach uri client) =>
      let name := client.getD (desk.names (desk.named + 1))
      if desk.sessions.contains (uri, name) then none
      else
        match (desk.workspace.attach uri name).2 with
        | .ok _ => some ((uri, name), .attaches)
        | .error _ => none
  | .request (.close uri client) =>
      if (uri, client) ∈ desk.holds then some ((uri, client), .closes) else none
  | .request (.detach uri client) =>
      if desk.sessions.contains (uri, client) then some ((uri, client), .detaches) else none
  | _ => none

variable {desk : Desk φ}

/-- An opening is a visit, unless the client holds the document or the opening fails
for another reason than the want of a version. -/
theorem roll_openFor (orderly : desk.workspace.Orderly) (opening : Registry.Opening)
    (method : Method) :
    (desk.openFor opening method).1.roll =
      desk.roll.after (desk.visit? (.request (.openFor opening method))) := by
  simp only [visit?]
  unfold openFor
  split
  · unfold refresh
    split
    · rfl
    · rw [workspace_report]
      exact roll_work desk (Workspace.guests_update orderly .within opening.uri _ _ opening.client)
  · rcases taken : desk.workspace.openFor opening with ⟨workspace, result⟩
    have reached : (desk.workspace.openFor opening).1 = workspace := congrArg Prod.fst taken
    have answered : (desk.workspace.openFor opening).2 = result := congrArg Prod.snd taken
    rw [← reached]
    cases result with
    | ok done =>
      have guests := Workspace.guests_openFor orderly answered
      refine Roll.ext ?_ rfl rfl
      refine (Workspace.guests_connect _ opening.uri opening.client method).trans ?_
      rw [guests]
      rfl
    | error failure =>
      simp only
      split
      · next exhausted =>
        subst exhausted
        exact Roll.ext (Workspace.guests_openFor_exhausted orderly answered) rfl rfl
      · next different =>
        exact roll_work desk (Workspace.guests_openFor_failed orderly answered different)

theorem roll_save (orderly : desk.workspace.Orderly) (uri client : String)
    (text : Option String) : (desk.save uri client text).1.roll = desk.roll := by
  unfold save
  split
  · rfl
  · next text _ =>
    have same := Workspace.guests_save orderly uri text client
    split
    · next result =>
      rw [result] at same
      exact roll_work desk same
    · next result =>
      rw [result] at same
      exact roll_work desk same

theorem roll_close (orderly : desk.workspace.Orderly) (uri client : String) :
    (desk.close uri client).1.roll =
      desk.roll.after (desk.visit? (.request (.close uri client))) := by
  simp only [visit?]
  unfold close
  split
  · refine Roll.ext ?_ rfl rfl
    refine (Workspace.guests_disconnect _ uri client).trans ?_
    rw [Workspace.guests_close orderly]
    rfl
  · rfl

/-- Beginning a session is a visit, unless the client has one or it cannot begin. -/
theorem roll_attachAs (orderly : desk.workspace.Orderly) (uri client : String) :
    (desk.attachAs uri client).1.roll =
      desk.roll.after (desk.visit? (.request (.attach uri (some client)))) := by
  simp only [visit?, Option.getD_some]
  unfold attachAs
  split
  · rfl
  · obtain ⟨answered, guests⟩ | ⟨failure, answered, guests⟩ :=
      Workspace.guests_attach orderly uri client
    · rw [answered]
      split
      · next result => cases (congrArg Prod.snd result).symm.trans answered
      · next workspace number result =>
        obtain rfl := Except.ok.inj ((congrArg Prod.snd result).symm.trans answered)
        rw [result] at guests
        exact Roll.ext guests rfl rfl
    · rw [answered]
      split
      · next result =>
        rw [result] at guests
        exact roll_work desk guests
      · next result => cases (congrArg Prod.snd result).symm.trans answered

theorem roll_attach (orderly : desk.workspace.Orderly) (uri : String) (client : Option String) :
    (desk.attach uri client).1.roll =
      desk.roll.after (desk.visit? (.request (.attach uri client))) := by
  cases client with
  | some client => exact roll_attachAs orderly uri client
  | none =>
    refine Eq.trans ?_ (roll_attachAs orderly uri (desk.names (desk.named + 1)))
    unfold attach
    simp only
    split
    · next result => rw [result]; rfl
    · next result => rw [result]

/-- The session that ends is the one that is known under the document and the client. -/
theorem roll_detach (orderly : desk.workspace.Orderly) (seated : desk.roll.Seated)
    (uri client : String) :
    (desk.detach uri client).1.roll =
      desk.roll.after (desk.visit? (.request (.detach uri client))) := by
  cases found : desk.sessions.get? (uri, client) with
  | none =>
    have absent : desk.sessions.contains (uri, client) = false := congrArg Option.isSome found
    simp only [visit?, absent, detach, found]
    rfl
  | some number =>
    have present : desk.sessions.contains (uri, client) = true := congrArg Option.isSome found
    obtain ⟨session, member, entry⟩ := List.mem_map.mp (seated.known uri client number found)
    cases entry
    have guests := Workspace.guests_detach orderly (orderly.numbered.session?_eq member)
    have listed : desk.roll.sessions.get? (session.uri, session.client) = some session.number :=
      found
    simp only [visit?, present, if_true, detach, found, Roll.after, Roll.visit, listed]
    exact Roll.ext guests rfl rfl

/-- What a move does to the roll is what the visit does, if the move is one. -/
theorem roll_act (orderly : desk.workspace.Orderly) (seated : desk.roll.Seated) (move : Move φ) :
    (desk.act move).roll = desk.roll.after (desk.visit? move) := by
  cases move with
  | request request =>
    cases request with
    | openFor opening method => exact roll_openFor orderly opening method
    | update uri client version text =>
      simp only [act, handle, workspace_report]
      exact roll_work desk (Workspace.guests_update orderly .within uri version text client)
    | save uri client text => exact roll_save orderly uri client text
    | close uri client => exact roll_close orderly uri client
    | attach uri client => exact roll_attach orderly uri client
    | detach uri client => exact roll_detach orderly seated uri client
    | patch uri client patch =>
      simp only [act, handle, withSession]
      split
      · rfl
      · rw [workspace_report]
        exact roll_work desk (Workspace.guests_submitPatch orderly _ patch)
    | resolve uri client side =>
      simp only [act, handle, withSession]
      split
      · rfl
      · exact roll_work desk (Workspace.guests_resolve orderly _ side)
    | status uri => rfl
  | fileChanged path =>
    simp only [act, fileChanged]
    split
    · rfl
    · split
      · exact roll_work desk (Workspace.guests_reload orderly _)
      · rfl
  | refile files => exact roll_work desk rfl
  | work position => exact roll_work desk (Workspace.guests_workAt orderly position)
  | wait time => exact roll_work desk (Workspace.guests_waitFor _ time)
  | collect => exact roll_work desk rfl

/-- Moves leave the sessions of a desk seated. -/
theorem seated_act (orderly : desk.workspace.Orderly) (seated : desk.roll.Seated)
    (move : Move φ) : (desk.act move).roll.Seated where
  distinct := entries_distinct ((makes_act desk move).orderly orderly)
  known := by
    rw [roll_act orderly seated move]
    cases visited : desk.visit? move with
    | none => exact seated.known
    | some what =>
      obtain ⟨⟨uri, client⟩, visit⟩ := what
      exact Roll.known_visit seated uri client visit

end Desk

end Flowdesk
