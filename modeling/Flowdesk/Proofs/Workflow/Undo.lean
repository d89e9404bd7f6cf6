import Flowdesk.Proofs.Workflow.Editing

/-!
# Undoing and repeating edits

A new node or edge has an id that no element had. Where nothing refers to elements that are
not there, nothing refers to the new one but the lane it was put in, so that to delete it
gives the workflow from before. An edit that says what an element is to be, and not what is
to be done to it, makes no difference when it is repeated.
-/

namespace Flowdesk.Workflow

open Flowdesk.Workflow.Flow

/-- Whether an edit adds a node or an edge. -/
def Patch.Adds : Patch → Prop
  | .createNode _ _ | .createEdge _ => True
  | _ => False

/-- Whether an edit says how an element is drawn or labelled, or where it is placed. -/
def Patch.Sets : Patch → Prop
  | .moveNode _ _ | .changeBounds _ _ _ | .rename _ _ | .assignLane _ _ => True
  | _ => False

/-- Whether a change lets elements keep their keys, and makes no difference to what it was
made to before. -/
structure Settles {α : Type} (key : α → String) (change : α → α) : Prop where
  sameKey : ∀ element, key (change element) = key element
  again : ∀ element, change (change element) = change element

section Lists

variable {α : Type} {key : α → String} {change : α → α} {id : String} {elements : List α}

theorem Settles.mem_keys (settles : Settles key change) {condition : α → Bool}
    (known : id ∈ elements.map key) : id ∈ (changeFirst condition change elements).map key := by
  rw [map_changeFirst key settles.sameKey]
  exact known

/-- The first element of an id is the first one of that id after it was changed, too. -/
theorem Settles.changeFirst_changeFirst (settles : Settles key change) :
    changeFirst (key · = id) change (changeFirst (key · = id) change elements) =
      changeFirst (key · = id) change elements := by
  induction elements with
  | nil => rfl
  | cons first rest inductionHypothesis =>
    by_cases found : key first = id
    · have still : key (change first) = id := (settles.sameKey first).trans found
      simp only [changeFirst, found, still, decide_true, if_true, settles.again]
    · simp only [changeFirst, found, decide_false, Bool.false_eq_true, if_false,
        inductionHypothesis]

/-- The first element of a new id is the one that was added. -/
theorem eraseP_append_new {new : α} (fresh : key new ∉ elements.map key) :
    (elements ++ [new]).eraseP (key · = key new) = elements := by
  have others : ∀ element ∈ elements, ¬decide (key element = key new) = true := by
    intro element member same
    exact fresh (of_decide_eq_true same ▸ List.mem_map_of_mem member)
  rw [List.eraseP_append_right _ others, List.eraseP_cons_of_pos (by simp), List.append_nil]

end Lists

/-- Of a node that was just put in a lane nothing is left once it is taken out. -/
theorem Lane.leaving_joined (node : String) (lane : Lane) :
    (lane.joined node).leaving [node] = lane.leaving [node] := by
  simp [Lane.leaving, Lane.joined]

/-- Nodes that were taken out of lanes are not in them. -/
theorem Lane.map_leaving_again (gone : List String) (lanes : List Lane) :
    (lanes.map (Lane.leaving gone)).map (Lane.leaving gone) = lanes.map (Lane.leaving gone) := by
  rw [List.map_map]
  refine List.map_congr_left fun lane _ => Lane.leaving_eq_self fun member inLane => ?_
  exact of_decide_eq_true (List.mem_filter.mp inLane).2

variable {flow after : Flow}

/-- Nothing that refers to known nodes alone refers to an unknown one. -/
theorem Flow.RefersTo.untouched {known : List String} (refers : flow.RefersTo known) {id : String}
    (unknown : id ∉ known) :
    (flow.edges.filter fun edge => ¬edge.Touches id) = flow.edges ∧
      flow.lanes.map (Lane.leaving [id]) = flow.lanes := by
  constructor
  · refine List.filter_eq_self.mpr fun edge member => decide_eq_true ?_
    rintro (source | target)
    · exact unknown (source ▸ (refers.edges edge member).1)
    · exact unknown (target ▸ (refers.edges edge member).2)
  · have apart : ∀ lane ∈ flow.lanes, lane.leaving [id] = lane := by
      intro lane member
      refine Lane.leaving_eq_self fun name inLane same => unknown ?_
      exact List.mem_singleton.mp same ▸ refers.lanes lane member name inLane
    rw [List.map_congr_left apart, List.map_id']

/-- To delete what an edit has added is to take the edit back. -/
theorem Patch.Edits.undo {patch : Patch} (edits : patch.Edits flow after) (adds : patch.Adds)
    (refers : flow.RefersTo flow.nodeIds) : (Patch.delete patch.target).Edits after flow := by
  have unused {id : String} (free : id ∉ flow.ids) : id ∉ flow.nodeIds ∧ id ∉ flow.edgeIds := by
    rw [mem_ids_iff, not_or, not_or] at free
    exact ⟨free.1, free.2.1⟩
  cases edits with
  | @createNode node free =>
    have known : node.id ∈ ({ flow with nodes := flow.nodes ++ [node] } : Flow).nodeIds := by
      simp [nodeIds]
    have deleted := Patch.Edits.deleteNode known
    obtain ⟨edges, lanes⟩ := refers.untouched (unused free).1
    rw [eraseP_append_new (unused free).1, edges, lanes] at deleted
    exact deleted
  | @createNodeIn node lane free place =>
    have known : node.id ∈ ({ flow with
        nodes := flow.nodes ++ [node]
        lanes := changeFirst (·.id = lane) (Lane.joined node.id) flow.lanes } : Flow).nodeIds := by
      simp [nodeIds]
    have deleted := Patch.Edits.deleteNode known
    obtain ⟨edges, lanes⟩ := refers.untouched (unused free).1
    rw [eraseP_append_new (unused free).1, edges,
      map_changeFirst _ (Lane.leaving_joined node.id), lanes] at deleted
    exact deleted
  | @createEdge edge free source target =>
    have known : edge.id ∈ ({ flow with edges := flow.edges ++ [edge] } : Flow).edgeIds := by
      simp [edgeIds]
    have noNode : edge.id ∉ ({ flow with edges := flow.edges ++ [edge] } : Flow).nodeIds :=
      (unused free).1
    have deleted := Patch.Edits.deleteEdge noNode known
    rw [eraseP_append_new (unused free).2] at deleted
    exact deleted
  | _ => exact adds.elim

/-- An edit that sets something makes no difference where it was made before. -/
theorem Patch.Edits.again {patch : Patch} (edits : patch.Edits flow after) (sets : patch.Sets) :
    patch.Edits after after := by
  have makes {next final : Flow} (edits : patch.Edits after next) (same : next = final) :
      patch.Edits after final := same ▸ edits
  cases edits with
  | @moveNode id position known =>
    have settles : Settles (fun node : Node => node.id) fun node =>
      { node with position := some position } := ⟨fun _ => rfl, fun _ => rfl⟩
    exact makes (.moveNode (settles.mem_keys known)) (by rw [settles.changeFirst_changeFirst])
  | @changeBounds id position size known =>
    have settles : Settles (fun node : Node => node.id) fun node =>
      { node with position := some position, size := some size } := ⟨fun _ => rfl, fun _ => rfl⟩
    exact makes (.changeBounds (settles.mem_keys known)) (by rw [settles.changeFirst_changeFirst])
  | @renameNode id label known =>
    have settles : Settles (fun node : Node => node.id) (Node.relabelled label) :=
      ⟨fun _ => rfl, fun _ => rfl⟩
    exact makes (.renameNode (settles.mem_keys known)) (by rw [settles.changeFirst_changeFirst])
  | @renameEdge id label noNode known =>
    have settles : Settles (fun edge : Edge => edge.id) (Edge.relabelled label) :=
      ⟨fun _ => rfl, fun _ => rfl⟩
    exact makes (.renameEdge noNode (settles.mem_keys known))
      (by rw [settles.changeFirst_changeFirst])
  | @renameLane id label noNode noEdge known =>
    have settles : Settles (fun lane : Lane => lane.id) (Lane.renamed label) :=
      ⟨fun _ => rfl, fun _ => rfl⟩
    exact makes (.renameLane noNode noEdge (settles.mem_keys known))
      (by rw [settles.changeFirst_changeFirst])
  | @takeOut node known => exact makes (.takeOut known) (by rw [Lane.map_leaving_again])
  | @assignLane node lane known place =>
    have out : (changeFirst (·.id = lane) (Lane.joined node)
        (flow.lanes.map (Lane.leaving [node]))).map (Lane.leaving [node]) =
          flow.lanes.map (Lane.leaving [node]) := by
      rw [map_changeFirst _ (Lane.leaving_joined node), Lane.map_leaving_again]
    have still : lane ∈ ({ flow with
        lanes := changeFirst (·.id = lane) (Lane.joined node)
          (flow.lanes.map (Lane.leaving [node])) } : Flow).laneIds := by
      rw [laneIds, map_changeFirst _ (Lane.id_joined node), Lane.ids_leaving]
      exact place
    exact makes (.assignLane known still) (by rw [out])
  | _ => exact sets.elim

/-- A node or an edge that was added, in a workflow that refers to its own nodes only, can be
deleted by its id, which gives the workflow from before; and an edit that sets how an element
is drawn or labelled or where it is placed can be repeated, which changes nothing.

Proof: by cases on the kind of edit, from its inversion. What was added has a free id, so nothing
referred to it and deleting the id takes back just what was added. What is set a second time is
what it was set to. -/
theorem undo_and_repetition {patch : Patch} (done : patch.apply flow = .ok after) :
    (patch.Adds → flow.RefersTo flow.nodeIds →
      (Patch.delete patch.target).apply after = .ok flow) ∧
        (patch.Sets → patch.apply after = .ok after) := by
  have edits : patch.Edits flow after := Patch.edits_of_apply done
  exact ⟨fun adds refers => (edits.undo adds refers).apply, fun sets => (edits.again sets).apply⟩

/-- A node that is put in a lane is deleted again; a node that is put in the lane it is in
comes last in it, and stays there. -/
theorem lane_member_undone_and_repeated :
    (∃ added,
      (Patch.createNode ⟨"check", .decision, none, none, none, .empty⟩ (some "lane")).apply laned =
        .ok added ∧
      added.lanes.map (·.nodes) = [["start", "done", "check"]] ∧
      (Patch.delete "check").apply added = .ok laned) ∧
    ∃ moved, (Patch.assignLane "start" (some "lane")).apply laned = .ok moved ∧
      moved.lanes.map (·.nodes) = [["done", "start"]] ∧
      (Patch.assignLane "start" (some "lane")).apply moved = .ok moved := by
  have added : (Patch.createNode ⟨"check", .decision, none, none, none, .empty⟩
      (some "lane")).apply laned = .ok _ := rfl
  have moved : (Patch.assignLane "start" (some "lane")).apply laned = .ok _ := rfl
  have refers : laned.RefersTo laned.nodeIds := ⟨by decide, by decide⟩
  exact ⟨⟨_, added, by decide +kernel, (undo_and_repetition added).1 trivial refers⟩,
    ⟨_, moved, by decide +kernel, (undo_and_repetition moved).2 trivial⟩⟩

end Flowdesk.Workflow
