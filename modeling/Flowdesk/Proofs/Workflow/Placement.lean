import Flowdesk.Proofs.Workflow.Editing
import Flowdesk.Proofs.Workflow.Faultless
import Mathlib.Data.List.Flatten

/-!
# Where nodes are placed

A node should be placed in one lane, and there once. An edit that puts a node in a lane takes
it out of all lanes first, or finds that it is new. What it does not look at is whether the
lane that it creates lists a node twice: such a lane is accepted as it is. So edits keep every
node in one place exactly as long as no accepted one creates such a lane, and the checks
report a node that is placed again exactly from then on.
-/

namespace Flowdesk.Workflow

/-- The nodes that are placed, lane by lane. -/
def Flow.placed (flow : Flow) : List String := flow.lanes.flatMap (·.nodes)

/-- Whether an edit creates a lane that lists a node more than once. -/
def Patch.ListsAgain : Patch → Prop
  | .createLane lane => ¬lane.nodes.Nodup
  | _ => False

/-- The error about a node that is placed more than once. -/
def placedAgain (member : String) : Finding :=
  (Finding.error ("node " ++ named member ++ " is placed in more than one swimlane")).on member

open Flowdesk.Workflow.Flow

section Lanes

variable {lanes : List Lane}

/-- Nodes that leave all lanes are placed nowhere, and the others where they were. -/
theorem placed_leaving (gone : List String) :
    (lanes.map (Lane.leaving gone)).flatMap (·.nodes) =
      (lanes.flatMap (·.nodes)).filter (· ∉ gone) := by
  rw [List.flatMap_map, List.filter_flatMap]
  rfl

/-- A node that joins a lane is placed once more. -/
theorem placed_joined {lane node : String} (known : lane ∈ lanes.map (·.id)) :
    ((changeFirst (·.id = lane) (Lane.joined node) lanes).flatMap (·.nodes)).Perm
      (node :: lanes.flatMap (·.nodes)) := by
  obtain ⟨front, found, rest, rfl, -, -, changed, -⟩ := exists_first known
  rw [changed]
  simp only [List.flatMap_append, List.flatMap_cons, Lane.joined, List.append_assoc,
    List.singleton_append]
  rw [← List.append_assoc, ← List.append_assoc]
  exact List.perm_middle

end Lanes

variable {flow after : Flow} {patch : Patch}

/-- An edit lets every node be placed once, unless it creates a lane that lists one again. -/
theorem Patch.Edits.placed_nodup_iff (edits : patch.Edits flow after) (coherent : flow.Coherent)
    (once : flow.placed.Nodup) : after.placed.Nodup ↔ ¬patch.ListsAgain := by
  have unplaced {id : String} (free : id ∉ flow.ids) : id ∉ flow.placed := by
    intro inLane
    obtain ⟨lane, present, member⟩ := List.mem_flatMap.mp inLane
    exact free (mem_ids_iff.mpr (.inl (coherent.refers.lanes lane present id member)))
  cases edits with
  | moveNode | changeBounds | createNode | createEdge | deleteEdge | renameNode | renameEdge =>
    exact iff_of_true once not_false
  | createNodeIn free known =>
    refine iff_of_true ?_ not_false
    exact (placed_joined known).nodup_iff.mpr (List.nodup_cons.mpr ⟨unplaced free, once⟩)
  | @createLane lane free members =>
    have others :
        Flow.placed { flow with lanes := flow.lanes.map (Lane.leaving lane.nodes) ++ [lane] } =
          flow.placed.filter (· ∉ lane.nodes) ++ lane.nodes := by
      simp only [placed, List.flatMap_append, placed_leaving, List.flatMap_singleton]
    rw [others, List.nodup_append]
    constructor
    · exact fun distinct again => again distinct.2.1
    · refine fun distinct => ⟨once.filter _, not_not.mp distinct, ?_⟩
      rintro name left _ member rfl
      exact of_decide_eq_true (List.mem_filter.mp left).2 member
  | deleteNode | takeOut =>
    refine iff_of_true ?_ not_false
    rw [placed, placed_leaving]
    exact once.filter _
  | deleteLane => exact iff_of_true (once.sublist (List.eraseP_sublist.flatMap _)) not_false
  | @renameLane id label =>
    have same :
        Flow.placed { flow with lanes := changeFirst (·.id = id) (Lane.renamed label) flow.lanes } =
          flow.placed := by
      simp only [placed, List.flatMap_def]
      rw [map_changeFirst _ (Lane.nodes_renamed label)]
    rw [same]
    exact iff_of_true once not_false
  | @assignLane node lane known place =>
    refine iff_of_true ?_ not_false
    have stays : lane ∈ (flow.lanes.map (Lane.leaving [node])).map (·.id) := by
      rw [Lane.ids_leaving]
      exact place
    refine (placed_joined stays).nodup_iff.mpr ?_
    rw [placed_leaving]
    refine List.nodup_cons.mpr ⟨fun still => ?_, once.filter _⟩
    exact of_decide_eq_true (List.mem_filter.mp still).2 (List.mem_singleton_self node)

section Findings

variable (flow)

/-- Where all members of lanes are nodes, each repetition is an error, and nothing else is. -/
theorem checkPlacements_of_known {placed : List String} {members : List (Lane × String)}
    (known : ∀ member ∈ members, member.2 ∈ flow.nodeIds) :
    checkPlacements flow placed members =
      (repetitions placed (members.map (·.2))).map placedAgain := by
  induction members generalizing placed with
  | nil => rfl
  | cons member rest inductionHypothesis =>
    obtain ⟨lane, name⟩ := member
    obtain ⟨here, others⟩ := List.forall_mem_cons.mp known
    have found : ¬(flow.node? name).isNone = true :=
      fun unknown => (isNone_node?_iff flow name).mp unknown here
    rw [checkPlacements, if_neg found, List.map_cons, repetitions]
    split
    · rw [inductionHypothesis others, List.map_cons]
      rfl
    · exact inductionHypothesis others

/-- The first character of a message, which tells the error about a node that is placed again
from every other finding. -/
def Finding.initial (finding : Finding) : Option Char := finding.message.toList.head?

theorem initial_placedAgain (name : String) : (placedAgain name).initial = some 'n' := by
  simp [placedAgain, Finding.initial, Finding.on, Finding.error]

theorem eq_of_mem_reportIf {condition : Bool} {finding other : Finding}
    (member : other ∈ reportIf condition finding) : other = finding := by
  cases condition with
  | false => exact nomatch member
  | true => exact List.mem_singleton.mp member

theorem initial_checkContents {finding : Finding} (member : finding ∈ checkContents flow) :
    finding.initial ≠ some 'n' := by
  rw [checkContents, List.mem_append, List.mem_append] at member
  rcases member with (member | member) | member <;> rw [eq_of_mem_reportIf member] <;>
    simp [Finding.initial, Finding.error, Finding.warning]

theorem initial_checkIds {finding : Finding} (member : finding ∈ checkIds flow) :
    finding.initial ≠ some 'n' := by
  obtain ⟨id, -, rfl⟩ := List.mem_map.mp member
  simp [Finding.initial, Finding.on, Finding.error]

theorem initial_checkEdge {edge : Edge} {finding : Finding}
    (member : finding ∈ checkEdge flow edge) :
    finding.initial ≠ some 'n' := by
  rcases List.mem_append.mp member with member | member
  · obtain ⟨id, -, rfl⟩ := List.mem_map.mp member
    simp [Finding.initial, Finding.on, Finding.error]
  · rw [eq_of_mem_reportIf member]
    simp [Finding.initial, Finding.on, Finding.warning]

theorem initial_checkNode {node : Node} {finding : Finding}
    (member : finding ∈ checkNode flow node) :
    finding.initial ≠ some 'n' := by
  unfold checkNode at member
  split at member
  case h_7 | h_8 | h_9 | h_10 => exact absurd member List.not_mem_nil
  all_goals
    rw [eq_of_mem_reportIf member]
    simp [Finding.initial, Finding.on, Finding.error, Finding.warning]

/-- The errors about nodes that are placed again are those of the pass over the lanes. -/
theorem placedAgain_mem_check_iff (name : String) :
    placedAgain name ∈ check ⟨some flow⟩ ↔
      placedAgain name ∈ checkPlacements flow [] (memberships flow) := by
  have apart {finding : Finding} (other : finding.initial ≠ some 'n') :
      placedAgain name ≠ finding :=
    fun same => other (same ▸ initial_placedAgain name)
  change placedAgain name ∈ checkFlow flow ↔ _
  simp only [checkFlow, List.mem_append, List.mem_flatMap]
  constructor
  · rintro ((((contents | ids) | ⟨edge, -, finding⟩) | ⟨node, -, finding⟩) | places)
    · exact absurd rfl (apart (initial_checkContents flow contents))
    · exact absurd rfl (apart (initial_checkIds flow ids))
    · exact absurd rfl (apart (initial_checkEdge flow finding))
    · exact absurd rfl (apart (initial_checkNode flow finding))
    · exact places
  · exact .inr

/-- Where all members of lanes are nodes, the checks find one that is placed again exactly if
one is placed more than once. -/
theorem placedAgain_reported_iff (refers : flow.RefersTo flow.nodeIds) :
    (∃ name, placedAgain name ∈ check ⟨some flow⟩) ↔ ¬flow.placed.Nodup := by
  have known : ∀ member ∈ memberships flow, member.2 ∈ flow.nodeIds := by
    rintro ⟨lane, name⟩ member
    obtain ⟨present, inLane⟩ := (mem_memberships_iff flow).mp member
    exact refers.lanes lane present name inLane
  have first : repetitions [] flow.placed = [] ↔ flow.placed.Nodup := by
    rw [repetitions_eq_nil_iff]
    exact and_iff_left fun _ _ => List.not_mem_nil
  have errors : checkPlacements flow [] (memberships flow) =
      (repetitions [] flow.placed).map placedAgain := by
    rw [checkPlacements_of_known flow known, map_memberships, placed]
  simp only [placedAgain_mem_check_iff, errors]
  rw [← first]
  constructor
  · rintro ⟨name, member⟩ none
    rw [none] at member
    exact absurd member List.not_mem_nil
  · intro some
    obtain ⟨name, member⟩ := List.exists_mem_of_ne_nil _ some
    exact ⟨name, List.mem_map_of_mem member⟩

end Findings

/-- Whether every node is placed once, and no error says otherwise. -/
structure Flow.PlacesOnce (flow : Flow) : Prop where
  once : flow.placed.Nodup
  unreported : ∀ name, placedAgain name ∉ check ⟨some flow⟩

theorem Flow.Coherent.placesOnce_iff (coherent : flow.Coherent) :
    flow.PlacesOnce ↔ flow.placed.Nodup := by
  refine ⟨PlacesOnce.once, fun once => ⟨once, fun name reported => ?_⟩⟩
  exact (placedAgain_reported_iff flow coherent.refers).mp ⟨name, reported⟩ once

section Prefixes

variable {α : Type} {first : α} {rest : List α}

/-- What holds of the beginnings of a list holds of none and of what the first element
begins. -/
theorem forall_prefix_cons_iff {holds : List α → Prop} :
    (∀ taken, taken <+: first :: rest → holds taken) ↔
      holds [] ∧ ∀ taken, taken <+: rest → holds (first :: taken) := by
  constructor
  · intro all
    refine ⟨all [] List.nil_prefix, fun taken begins => ?_⟩
    exact all (first :: taken) (List.cons_prefix_cons.mpr ⟨rfl, begins⟩)
  · rintro ⟨none, all⟩ taken begins
    rcases List.prefix_cons_iff.mp begins with rfl | ⟨others, rfl, continues⟩
    · exact none
    · exact all others continues

/-- What holds of each element with those before it holds of the first one with none before
it. -/
theorem forall_prefix_snoc_cons_iff {holds : List α → α → Prop} :
    (∀ taken last, taken ++ [last] <+: first :: rest → holds taken last) ↔
      holds [] first ∧ ∀ taken last, taken ++ [last] <+: rest → holds (first :: taken) last := by
  constructor
  · intro all
    refine ⟨all [] first (List.cons_prefix_cons.mpr ⟨rfl, List.nil_prefix⟩), ?_⟩
    exact fun taken last begins =>
      all (first :: taken) last (List.cons_prefix_cons.mpr ⟨rfl, begins⟩)
  · rintro ⟨here, all⟩ taken last begins
    cases taken with
    | nil => exact (List.cons_prefix_cons.mp begins).1 ▸ here
    | cons other taken =>
      obtain ⟨rfl, continues⟩ := List.cons_prefix_cons.mp begins
      exact all taken last continues

end Prefixes

/-- Edits of a coherent workflow in which every node is placed once keep it so, one after the
other, exactly if none that is accepted creates a lane which lists a node again. -/
theorem placesOnce_throughout_iff (coherent : flow.Coherent) (once : flow.placed.Nodup)
    (patches : List Patch) :
    (∀ taken, taken <+: patches → (flow.edited taken).PlacesOnce) ↔
      ∀ taken patch, taken ++ [patch] <+: patches →
        (∃ after, patch.apply (flow.edited taken) = .ok after) → ¬patch.ListsAgain := by
  have here : flow.PlacesOnce := coherent.placesOnce_iff.mpr once
  induction patches generalizing flow with
  | nil =>
    constructor
    · exact fun _ taken patch begins => absurd (List.prefix_nil.mp begins) (by simp)
    · exact fun _ taken begins => List.prefix_nil.mp begins ▸ here
  | cons first rest inductionHypothesis =>
    rw [forall_prefix_cons_iff, forall_prefix_snoc_cons_iff]
    cases done : first.apply flow with
    | error failure =>
      have same (taken : List Patch) : flow.edited (first :: taken) = flow.edited taken := by
        rw [edited, List.foldl_cons, done]
        rfl
      have refused : (∃ after, first.apply (flow.edited []) = .ok after) → ¬first.ListsAgain := by
        rintro ⟨after, accepted⟩
        exact nomatch done.symm.trans accepted
      simp only [same, iff_true_intro refused, true_and]
      exact (and_iff_right here).trans (inductionHypothesis coherent once here)
    | ok after =>
      have same (taken : List Patch) : flow.edited (first :: taken) = after.edited taken := by
        rw [edited, List.foldl_cons, done]
        rfl
      have kept : after.placed.Nodup ↔ ¬first.ListsAgain :=
        (Patch.edits_of_apply done).placed_nodup_iff coherent once
      simp only [same]
      by_cases again : first.ListsAgain
      · refine iff_of_false ?_ fun without => without.1 ⟨after, done⟩ again
        exact fun throughout => kept.mp (throughout.2 [] List.nil_prefix).once again
      · have still : after.Coherent := coherent.apply first done
        have next := inductionHypothesis still (kept.mpr again)
          (still.placesOnce_iff.mpr (kept.mpr again))
        exact and_congr (iff_of_true here fun _ => again) next

/-- Edits of a workflow in which the checks find no error place every node once, after each of
them, exactly if none that is accepted creates a lane which lists a node again; and it is
then, and only then, that the checks report no node that is placed again.

Proof: whether nodes are placed once is told by the lanes alone, and the checks report it since
the lanes refer to nodes that are there. By induction over the edits, an accepted one keeps it
exactly if it does not list a node again, by cases on the kind of edit. -/
theorem placed_once_iff_no_lane_repeats (sound : Harmless (check ⟨some flow⟩))
    (patches : List Patch) :
    (∀ taken, taken <+: patches → (flow.edited taken).PlacesOnce) ↔
      ∀ taken patch, taken ++ [patch] <+: patches →
        (∃ after, patch.apply (flow.edited taken) = .ok after) → ¬patch.ListsAgain := by
  have faultless : flow.Faultless := (harmless_checkFlow_iff flow).mp sound
  exact placesOnce_throughout_iff faultless.coherent faultless.placedOnce patches

theorem harmless_laned : Harmless (check ⟨some laned⟩) := by
  have none : check ⟨some laned⟩ = [] := by decide +kernel
  exact none ▸ harmless_nil

/-- A node goes to a lane, from there to a new one, and another one after it; each is in one
place all the time. -/
theorem rearranged_nodes_placed_once :
    Harmless (check ⟨some laned⟩) ∧
      (∀ taken, taken <+: rearranging → (laned.edited taken).PlacesOnce) ∧
      (laned.edited rearranging).placed = ["check", "start"] := by
  have fresh : ∀ patch ∈ rearranging, ¬patch.ListsAgain := by
    simp [rearranging, Patch.ListsAgain]
  refine ⟨harmless_laned, ?_, by decide +kernel⟩
  refine (placed_once_iff_no_lane_repeats harmless_laned rearranging).mpr ?_
  intro taken patch begins _
  exact fresh patch (begins.subset (List.mem_append_right _ (List.mem_singleton_self patch)))

/-- A new lane may list a node twice. The node is taken out of the lane it was in, and is then
placed in more than one. -/
theorem repeated_member_placed_twice :
    Harmless (check ⟨some laned⟩) ∧
      ∃ after, (Patch.createLane ⟨"other", "Other", ["start", "start"]⟩).apply laned = .ok after ∧
        after.placed = ["done", "start", "start"] ∧ ¬after.placed.Nodup ∧
        placedAgain "start" ∈ check ⟨some after⟩ := by
  refine ⟨harmless_laned, _, rfl, ?_, ?_, ?_⟩
  · decide +kernel
  · decide +kernel
  · decide +kernel

end Flowdesk.Workflow
