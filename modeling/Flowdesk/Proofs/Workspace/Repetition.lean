import Flowdesk.Proofs.Sync.Judgement
import Flowdesk.Proofs.Workspace.Hearing

/-!
# Revisions that are observed repeatedly

A revision is observed once for each session that hears of it. Since an observation that
repeats the last one is answered from memory and changes nothing, it does not matter how
often a revision is observed before the next one comes in: a run of observations can be
thinned out to one of each revision. So the coordinator is the same after an update no
matter how many sessions heard of it, and in which order.
-/

namespace Flowdesk

open Data Sync Workflow

namespace Sync.Coordinator

/-- Observe revisions of a document one after the other, with the answers in order. -/
def observeAll (coordinator : Coordinator) (uri : String) :
    List Revision → List Observation × Coordinator
  | [] => ([], coordinator)
  | revision :: revisions =>
      let first := coordinator.observe uri revision
      let others := first.2.observeAll uri revisions
      (first.1 :: others.1, others.2)

/-- Each revision as often as it is observed in a row, which is once and some times
again. -/
def sightings (revisions : List (Revision × Nat)) : List Revision :=
  revisions.flatMap fun (revision, again) => List.replicate (again + 1) revision

/-- Revisions that come after one that is observed repeatedly find the coordinator as
after one observation. -/
theorem observeAll_replicate (coordinator : Coordinator) (uri : String) (revision : Revision)
    (again : Nat) (revisions : List Revision) :
    coordinator.observeAll uri (List.replicate (again + 1) revision ++ revisions) =
      (List.replicate (again + 1) (coordinator.observe uri revision).1 ++
          ((coordinator.observe uri revision).2.observeAll uri revisions).1,
        ((coordinator.observe uri revision).2.observeAll uri revisions).2) := by
  induction again generalizing coordinator with
  | zero => rfl
  | succ again inductionHypothesis =>
    have repeated := inductionHypothesis (coordinator.observe uri revision).2
    rw [observe_observe] at repeated
    rw [List.replicate_succ, List.cons_append, observeAll]
    simp only [repeated]
    rfl

/-- The coordinator after all sightings is the one after one of each, and every sighting is
answered as the first of its revision. -/
theorem observeAll_sightings (coordinator : Coordinator) (uri : String)
    (revisions : List (Revision × Nat)) :
    coordinator.observeAll uri (sightings revisions) =
      (((coordinator.observeAll uri (revisions.map (·.1))).1.zip revisions).flatMap
          fun (answer, _, again) => List.replicate (again + 1) answer,
        (coordinator.observeAll uri (revisions.map (·.1))).2) := by
  induction revisions generalizing coordinator with
  | nil => rfl
  | cons first revisions inductionHypothesis =>
    obtain ⟨revision, again⟩ := first
    have split : sightings ((revision, again) :: revisions) =
        List.replicate (again + 1) revision ++ sightings revisions := rfl
    rw [split, observeAll_replicate, inductionHypothesis]
    rfl

end Sync.Coordinator

namespace Workspace

variable {φ : Type}

/-- Whether the session of a number is there and an update concerns it. -/
def hears (workspace : Workspace φ) (update : Registry.Update) (number : Nat) : Bool :=
  (workspace.session? number).any fun session => concerns update session

/-- Who hears of an update depends on the numbers and documents of the sessions. -/
theorem hears_map {before after : Workspace φ} {change : Session → Session}
    (sessions : after.sessions = before.sessions.map change)
    (number : ∀ session, (change session).number = session.number)
    (uri : ∀ session, (change session).uri = session.uri) (update : Registry.Update)
    (other : Nat) : after.hears update other = before.hears update other := by
  have numbers : ((fun session : Session => decide (session.number = other)) ∘ change) =
      fun session => decide (session.number = other) := by
    funext session
    simp only [Function.comp, number]
  have concerned : ∀ session, concerns update (change session) ↔ concerns update session := by
    intro session
    unfold concerns
    rw [uri]
  unfold hears session?
  rw [sessions, List.find?_map, numbers, Option.any_map]
  simp only [concerned]

/-- One session that hears of an update has the coordinator judge the revision. -/
theorem coordinator_hearBy (workspace : Workspace φ) (clock : Clock) (update : Registry.Update)
    (number : Nat) :
    (hearBy clock update workspace number).coordinator =
      if workspace.hears update number then workspace.judgedBy update
      else workspace.coordinator := by
  unfold hearBy hears
  cases workspace.session? number with
  | none => rfl
  | some session =>
    simp only [Option.any_some, decide_eq_true_eq]
    by_cases concerned : concerns update session
    · rw [if_pos concerned, if_pos concerned.2,
        (workspace.hear_alike clock session update concerned).coordinator]
      cases workspace.reaction clock update session <;> rfl
    · rw [if_neg concerned]
      by_cases here : session.uri = update.build.uri
      · have deleted : update.reason = .deleted := by
          by_contra standing
          exact concerned ⟨standing, here⟩
        rw [if_pos here, hear, if_pos deleted]
      · rw [if_neg here]

/-- A reaction makes nobody hear of an update who would not have, or the other way. -/
theorem hears_carryOut (workspace : Workspace φ) (session : Session) (reaction : Reaction)
    (update : Registry.Update) (other : Nat) :
    (workspace.carryOut session reaction).hears update other = workspace.hears update other := by
  cases reaction with
  | rest | resolve => rfl
  | sync direction =>
    refine hears_map rfl (fun another => ?_) (fun another => ?_) update other
    · split <;> rfl
    · split <;> rfl

/-- Whoever hears of an update after a session did so would have before it. -/
theorem hears_hearBy (workspace : Workspace φ) (clock : Clock) (update : Registry.Update)
    (number other : Nat) :
    (hearBy clock update workspace number).hears update other = workspace.hears update other := by
  unfold hearBy
  cases workspace.session? number with
  | none => rfl
  | some session =>
    simp only
    split
    · next here =>
      by_cases deleted : update.reason = .deleted
      · rw [hear, if_pos deleted]
      · have alike := workspace.hear_alike clock session update ⟨deleted, here⟩
        have carried := hears_carryOut
          ({ workspace with coordinator := workspace.judgedBy update } : Workspace φ) session
          (workspace.reaction clock update session) update other
        unfold hears session? at carried ⊢
        rw [alike.sessions]
        exact carried
    · rfl

/-- After an update was heard by sessions, in any order, the coordinator has judged its
revision once, if it concerned any of them. -/
theorem coordinator_foldl_hearBy (workspace : Workspace φ) (clock : Clock)
    (update : Registry.Update) (numbers : List Nat) :
    (numbers.foldl (hearBy clock update) workspace).coordinator =
      if numbers.any (workspace.hears update) then workspace.judgedBy update
      else workspace.coordinator := by
  induction numbers generalizing workspace with
  | nil => rfl
  | cons number numbers inductionHypothesis =>
    have same : (hearBy clock update workspace number).hears update = workspace.hears update :=
      funext (hears_hearBy workspace clock update number)
    have judged : (hearBy clock update workspace number).judgedBy update =
        workspace.judgedBy update := by
      unfold judgedBy
      rw [coordinator_hearBy]
      split
      · exact congrArg Prod.snd (Coordinator.observe_observe workspace.coordinator _ _)
      · rfl
    rw [List.foldl_cons, inductionHypothesis, same, judged, coordinator_hearBy, List.any_cons]
    cases workspace.hears update number
    · rw [Bool.false_or, if_neg Bool.false_ne_true]
    · rw [Bool.true_or, if_pos rfl, ite_self]

end Workspace

/-- For every coordinator, and all revisions of a document, each observed one or more times
before the next: the coordinator ends up as if each were observed once, and all
observations of a revision in a row are answered alike. So an update changes the
coordinator by one observation of its revision, whichever sessions hear of it and in
whichever order, as long as it concerns one of them; an announced update is one that all
sessions hear of.

Proof: induction over the revisions. What was observed last is remembered with its answer, so a
second observation finds it, and changes nothing. Sessions that hear of an update observe it one
after the other. -/
theorem Sync.Coordinator.repetitions_count_once :
    (∀ (coordinator : Coordinator) (uri : String) (revisions : List (Revision × Nat)),
      let once := coordinator.observeAll uri (revisions.map (·.1))
      let often := coordinator.observeAll uri (sightings revisions)
      often.2 = once.2 ∧
        often.1 = (once.1.zip revisions).flatMap
          fun (answer, _, again) => List.replicate (again + 1) answer) ∧
    ∀ {φ : Type} (workspace : Workspace φ) (clock : Workspace.Clock) (update : Registry.Update),
      let judged := (workspace.coordinator.observe update.build.uri update.revision).2
      (∀ numbers : List Nat,
        (numbers.foldl (Workspace.hearBy clock update) workspace).coordinator =
          if numbers.any (workspace.hears update) then judged else workspace.coordinator) ∧
      (Workspace.announce clock workspace (.updated update)).coordinator =
        if (workspace.sessions.map (·.number)).any (workspace.hears update) then judged
        else workspace.coordinator := by
  refine ⟨fun coordinator uri revisions => ?_, fun workspace clock update => ⟨?_, ?_⟩⟩
  · rw [observeAll_sightings]
    exact ⟨rfl, rfl⟩
  · exact workspace.coordinator_foldl_hearBy clock update
  · exact Workspace.coordinator_foldl_hearBy
      { workspace with announced := .updated update :: workspace.announced } clock update _

end Flowdesk
