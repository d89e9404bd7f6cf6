import Flowdesk.Proofs.Workflow.Coherence

/-!
# What becomes of a workflow

An edit that can be applied does one of a few things to a workflow, and says what it asked
for first. That is told here once, with one case for each thing that can happen, so that
what edits keep or take back is decided case by case and never by opening the edits again.
An edit changes the first element of an id, and nothing is assumed about ids.
-/

namespace Flowdesk.Workflow

namespace Lane

/-- The lane with a node at its end. -/
def joined (node : String) (lane : Lane) : Lane := { lane with nodes := lane.nodes ++ [node] }

/-- The lane without some nodes. -/
def leaving (gone : List String) (lane : Lane) : Lane :=
  { lane with nodes := lane.nodes.filter (· ∉ gone) }

/-- The lane with another name. -/
def renamed (name : String) (lane : Lane) : Lane := { lane with name }

@[simp] theorem id_joined (node : String) (lane : Lane) : (lane.joined node).id = lane.id := rfl

@[simp] theorem id_leaving (gone : List String) (lane : Lane) : (lane.leaving gone).id = lane.id :=
  rfl

@[simp] theorem nodes_renamed (name : String) (lane : Lane) :
    (lane.renamed name).nodes = lane.nodes := rfl

@[simp] theorem ids_leaving (gone : List String) (lanes : List Lane) :
    (lanes.map (Lane.leaving gone)).map (·.id) = lanes.map (·.id) := by
  simp only [List.map_map, Function.comp_def, id_leaving]

/-- Nodes that leave a lane one after the other leave it together. -/
theorem leaving_leaving (first second : List String) (lane : Lane) :
    (lane.leaving first).leaving second = lane.leaving (first ++ second) := by
  simp only [leaving, List.filter_filter, List.mem_append, not_or, Bool.decide_and, Bool.and_comm]

/-- Nothing changes if none of the nodes is in the lane. -/
theorem leaving_eq_self {gone : List String} {lane : Lane}
    (apart : ∀ member ∈ lane.nodes, member ∉ gone) : lane.leaving gone = lane := by
  have all : lane.nodes.filter (· ∉ gone) = lane.nodes :=
    List.filter_eq_self.mpr fun member inLane => decide_eq_true (apart member inLane)
  simp only [leaving, all]

end Lane

/-- The node with another label. -/
def Node.relabelled (label : String) (node : Node) : Node := { node with label := some label }

/-- The edge with another label. -/
def Edge.relabelled (label : String) (edge : Edge) : Edge := { edge with label := some label }

/-- Whether an edge begins or ends in a node. -/
def Edge.Touches (edge : Edge) (node : String) : Prop := edge.source = node ∨ edge.target = node

instance (edge : Edge) (node : String) : Decidable (edge.Touches node) :=
  inferInstanceAs (Decidable (_ ∨ _))

/-- The first element of an id stands between elements of other ids and a rest. A change of
the first element of that id, and its removal, concern no other. -/
theorem exists_first {α : Type} {key : α → String} {id : String} {elements : List α}
    (known : id ∈ elements.map key) :
    ∃ front element rest, elements = front ++ element :: rest ∧ key element = id ∧
      id ∉ front.map key ∧
      (∀ change, changeFirst (key · = id) change elements = front ++ change element :: rest) ∧
      elements.eraseP (key · = id) = front ++ rest := by
  induction elements with
  | nil => exact nomatch known
  | cons first others inductionHypothesis =>
    by_cases found : key first = id
    · refine ⟨[], first, others, rfl, found, List.not_mem_nil, fun change => ?_, ?_⟩
      · rw [changeFirst, if_pos (decide_eq_true found), List.nil_append]
      · exact List.eraseP_cons_of_pos (p := (key · = id)) (decide_eq_true found)
    · have later : id ∈ others.map key :=
        (List.mem_cons.mp known).resolve_left fun same => found same.symm
      obtain ⟨front, element, rest, split, here, before, changed, erased⟩ :=
        inductionHypothesis later
      refine ⟨first :: front, element, rest, congrArg (first :: ·) split, here, ?_, ?_, ?_⟩
      · rw [List.map_cons, List.mem_cons]
        exact fun either => either.elim (fun same => found same.symm) before
      · intro change
        rw [changeFirst, if_neg (by simpa using found), changed, List.cons_append]
      · rw [List.eraseP_cons_of_neg (p := (key · = id)) (by simpa using found), erased,
          List.cons_append]

namespace Flow

/-- The ids of the edges, in order. -/
def edgeIds (flow : Flow) : List String := flow.edges.map (·.id)

/-- The ids of the lanes, in order. -/
def laneIds (flow : Flow) : List String := flow.lanes.map (·.id)

variable {flow after : Flow} {id : String}

/-- An edge is found by its id exactly if there is one. -/
theorem isSome_edge?_iff (flow : Flow) (id : String) :
    (flow.edge? id).isSome = true ↔ id ∈ flow.edgeIds := by
  simp only [edge?, edgeIds, List.find?_isSome, List.mem_map, decide_eq_true_eq]

/-- So is a lane. -/
theorem isSome_lane?_iff (flow : Flow) (id : String) :
    (flow.lane? id).isSome = true ↔ id ∈ flow.laneIds := by
  simp only [lane?, laneIds, List.find?_isSome, List.mem_map, decide_eq_true_eq]

/-- An id is that of a node, of an edge or of a lane. -/
theorem mem_ids_iff :
    id ∈ flow.ids ↔ id ∈ flow.nodeIds ∨ id ∈ flow.edgeIds ∨ id ∈ flow.laneIds := by
  simp only [ids, nodeIds, edgeIds, laneIds, List.mem_append, or_assoc]

/-- An id is free exactly if no element has it. -/
theorem requireFree_eq_ok_iff :
    flow.requireFree id = .ok () ↔ id ∉ flow.ids := by
  constructor
  · exact free_of_requireFree
  · intro free
    rw [requireFree, if_neg ((hasId_iff flow id).not.mpr free)]

/-- A node is required where an edge or a lane names it. -/
theorem requireNode_eq_ok_iff :
    flow.requireNode id = .ok () ↔ id ∈ flow.nodeIds := by
  constructor
  · exact known_of_requireNode
  · intro known
    rw [requireNode, if_pos ((isSome_node?_iff flow id).mpr known)]

theorem requireNodes_eq_ok_iff {names : List String} :
    names.forM flow.requireNode = .ok ⟨⟩ ↔ names ⊆ flow.nodeIds := by
  constructor
  · exact known_of_requireNodes
  · intro known
    induction names with
    | nil => rfl
    | cons name rest inductionHypothesis =>
      obtain ⟨first, others⟩ := List.cons_subset.mp known
      change flow.requireNode name >>= (fun _ => rest.forM flow.requireNode) = .ok ⟨⟩
      rw [requireNode_eq_ok_iff.mpr first]
      exact inductionHypothesis others

/-- A change of a node succeeds exactly if the node is there, and changes the first one of the id.
-/
theorem changeNode_eq_ok_iff {change : Node → Node} :
    flow.changeNode id change = .ok after ↔
      id ∈ flow.nodeIds ∧
        after = { flow with nodes := changeFirst (·.id = id) change flow.nodes } := by
  unfold changeNode
  split
  · next found =>
    rw [isSome_node?_iff] at found
    rw [Except.ok.injEq, eq_comm, and_iff_right found]
  · next missing =>
    rw [isSome_node?_iff] at missing
    exact iff_of_false nofun fun changed => missing changed.1

/-- A node is placed exactly if the lane is there, and joins the first one of the id. -/
theorem place_eq_ok_iff {node lane : String} :
    flow.place node lane = .ok after ↔
      lane ∈ flow.laneIds ∧
        after = { flow with lanes := changeFirst (·.id = lane) (Lane.joined node) flow.lanes } := by
  unfold place changeLane
  split
  · next found =>
    rw [isSome_lane?_iff] at found
    rw [Except.ok.injEq, eq_comm, and_iff_right found]
    rfl
  · next missing =>
    rw [isSome_lane?_iff] at missing
    exact iff_of_false nofun fun placed => missing placed.1

/-- A node is taken out of every lane. -/
theorem unplace_eq (flow : Flow) (node : String) :
    flow.unplace node = { flow with lanes := flow.lanes.map (Lane.leaving [node]) } := by
  have same : Lane.leaving [node] =
      fun lane => { lane with nodes := lane.nodes.filter (· ≠ node) } := by
    funext lane
    simp only [Lane.leaving, List.mem_singleton, ne_eq]
  rw [unplace, same]

/-- Taking nodes out of all lanes one after the other takes them out together. -/
theorem unplaceAll_eq (flow : Flow) (names : List String) :
    names.foldl Flow.unplace flow = { flow with lanes := flow.lanes.map (Lane.leaving names) } := by
  induction names generalizing flow with
  | nil =>
    have same : Lane.leaving [] = id := funext fun lane => Lane.leaving_eq_self fun _ _ => nofun
    rw [List.foldl_nil, same, List.map_id]
  | cons name rest inductionHypothesis =>
    rw [List.foldl_cons, inductionHypothesis, unplace_eq]
    simp only [List.map_map, Function.comp_def, Lane.leaving_leaving, List.singleton_append]

end Flow

open Flowdesk.Workflow.Flow

/-- What an edit that can be applied makes of a workflow. -/
inductive Patch.Edits (flow : Flow) : Patch → Flow → Prop
  | moveNode {id : String} {position : Position} (known : id ∈ flow.nodeIds) :
      Edits flow (.moveNode id position)
        { flow with
          nodes := changeFirst (·.id = id) (fun node => { node with position := some position })
            flow.nodes }
  | changeBounds {id : String} {position : Position} {size : Size} (known : id ∈ flow.nodeIds) :
      Edits flow (.changeBounds id position size)
        { flow with
          nodes := changeFirst (·.id = id)
            (fun node => { node with position := some position, size := some size }) flow.nodes }
  | createNode {node : Node} (free : node.id ∉ flow.ids) :
      Edits flow (.createNode node none) { flow with nodes := flow.nodes ++ [node] }
  | createNodeIn {node : Node} {lane : String} (free : node.id ∉ flow.ids)
      (known : lane ∈ flow.laneIds) :
      Edits flow (.createNode node (some lane))
        { flow with
          nodes := flow.nodes ++ [node]
          lanes := changeFirst (·.id = lane) (Lane.joined node.id) flow.lanes }
  | createEdge {edge : Edge} (free : edge.id ∉ flow.ids) (source : edge.source ∈ flow.nodeIds)
      (target : edge.target ∈ flow.nodeIds) :
      Edits flow (.createEdge edge) { flow with edges := flow.edges ++ [edge] }
  | createLane {lane : Lane} (free : lane.id ∉ flow.ids) (members : lane.nodes ⊆ flow.nodeIds) :
      Edits flow (.createLane lane)
        { flow with lanes := flow.lanes.map (Lane.leaving lane.nodes) ++ [lane] }
  | deleteNode {id : String} (known : id ∈ flow.nodeIds) :
      Edits flow (.delete id)
        { flow with
          nodes := flow.nodes.eraseP (·.id = id)
          edges := flow.edges.filter fun edge => ¬edge.Touches id
          lanes := flow.lanes.map (Lane.leaving [id]) }
  | deleteEdge {id : String} (noNode : id ∉ flow.nodeIds) (known : id ∈ flow.edgeIds) :
      Edits flow (.delete id) { flow with edges := flow.edges.eraseP (·.id = id) }
  | deleteLane {id : String} (noNode : id ∉ flow.nodeIds) (noEdge : id ∉ flow.edgeIds)
      (known : id ∈ flow.laneIds) :
      Edits flow (.delete id) { flow with lanes := flow.lanes.eraseP (·.id = id) }
  | renameNode {id label : String} (known : id ∈ flow.nodeIds) :
      Edits flow (.rename id label)
        { flow with nodes := changeFirst (·.id = id) (Node.relabelled label) flow.nodes }
  | renameEdge {id label : String} (noNode : id ∉ flow.nodeIds) (known : id ∈ flow.edgeIds) :
      Edits flow (.rename id label)
        { flow with edges := changeFirst (·.id = id) (Edge.relabelled label) flow.edges }
  | renameLane {id label : String} (noNode : id ∉ flow.nodeIds) (noEdge : id ∉ flow.edgeIds)
      (known : id ∈ flow.laneIds) :
      Edits flow (.rename id label)
        { flow with lanes := changeFirst (·.id = id) (Lane.renamed label) flow.lanes }
  /-- Without a lane a node is only taken out of those it is in. -/
  | takeOut {node : String} (known : node ∈ flow.nodeIds) :
      Edits flow (.assignLane node none) { flow with lanes := flow.lanes.map (Lane.leaving [node]) }
  | assignLane {node lane : String} (known : node ∈ flow.nodeIds) (place : lane ∈ flow.laneIds) :
      Edits flow (.assignLane node (some lane))
        { flow with
          lanes := changeFirst (·.id = lane) (Lane.joined node)
            (flow.lanes.map (Lane.leaving [node])) }

variable {flow after : Flow}

/-- An element is deleted as the first kind that has its id: a node, an edge or a lane. -/
theorem Flow.delete_eq_ok_iff {id : String} :
    flow.delete id = .ok after ↔ Patch.Edits flow (.delete id) after := by
  have apart : (fun edge : Edge => decide (edge.source ≠ id ∧ edge.target ≠ id)) =
      fun edge => decide ¬edge.Touches id := by
    funext edge
    simp only [Edge.Touches, not_or, ne_eq]
  unfold Flow.delete
  constructor
  · intro done
    split at done
    · next known =>
      obtain rfl := Except.ok.inj done
      rw [unplace_eq, apart]
      exact .deleteNode ((isSome_node?_iff flow id).mp known)
    · next noNode =>
      rw [isSome_node?_iff] at noNode
      split at done
      · next known =>
        obtain rfl := Except.ok.inj done
        exact .deleteEdge noNode ((isSome_edge?_iff flow id).mp known)
      · next noEdge =>
        rw [isSome_edge?_iff] at noEdge
        split at done
        · next known =>
          obtain rfl := Except.ok.inj done
          exact .deleteLane noNode noEdge ((isSome_lane?_iff flow id).mp known)
        · exact nomatch done
  · intro edits
    simp only [isSome_node?_iff, isSome_edge?_iff, isSome_lane?_iff]
    cases edits with
    | deleteNode known => rw [if_pos known, unplace_eq, apart]
    | deleteEdge noNode known => rw [if_neg noNode, if_pos known]
    | deleteLane noNode noEdge known => rw [if_neg noNode, if_neg noEdge, if_pos known]

/-- An element is renamed in the same order of kinds. -/
theorem Flow.rename_eq_ok_iff {id label : String} :
    flow.rename id label = .ok after ↔ Patch.Edits flow (.rename id label) after := by
  unfold Flow.rename
  constructor
  · intro done
    split at done
    · next known =>
      obtain rfl := Except.ok.inj done
      exact .renameNode ((isSome_node?_iff flow id).mp known)
    · next noNode =>
      rw [isSome_node?_iff] at noNode
      split at done
      · next known =>
        obtain rfl := Except.ok.inj done
        exact .renameEdge noNode ((isSome_edge?_iff flow id).mp known)
      · next noEdge =>
        rw [isSome_edge?_iff] at noEdge
        split at done
        · next known =>
          obtain rfl := Except.ok.inj done
          exact .renameLane noNode noEdge ((isSome_lane?_iff flow id).mp known)
        · exact nomatch done
  · intro edits
    simp only [isSome_node?_iff, isSome_edge?_iff, isSome_lane?_iff]
    cases edits with
    | renameNode known => rw [if_pos known]; rfl
    | renameEdge noNode known => rw [if_neg noNode, if_pos known]; rfl
    | renameLane noNode noEdge known => rw [if_neg noNode, if_neg noEdge, if_pos known]; rfl

/-- An edit that can be applied does what is said of it. -/
theorem Patch.edits_of_apply {patch : Patch} (done : patch.apply flow = .ok after) :
    patch.Edits flow after := by
  cases patch with
  | moveNode id position =>
    obtain ⟨known, rfl⟩ := changeNode_eq_ok_iff.mp done
    exact .moveNode known
  | changeBounds id position size =>
    obtain ⟨known, rfl⟩ := changeNode_eq_ok_iff.mp done
    exact .changeBounds known
  | createNode node lane =>
    obtain ⟨_, required, done⟩ := ok_of_bind done
    have free : node.id ∉ flow.ids := free_of_requireFree required
    cases lane with
    | none =>
      obtain rfl := Except.ok.inj done
      exact .createNode free
    | some lane =>
      obtain ⟨placed, place, done⟩ := ok_of_bind done
      obtain ⟨known, rfl⟩ := place_eq_ok_iff.mp place
      obtain rfl := Except.ok.inj done
      exact .createNodeIn free known
  | createEdge edge =>
    obtain ⟨_, free, done⟩ := ok_of_bind done
    obtain ⟨_, source, done⟩ := ok_of_bind done
    obtain ⟨_, target, done⟩ := ok_of_bind done
    obtain rfl := Except.ok.inj done
    exact .createEdge (free_of_requireFree free) (known_of_requireNode source)
      (known_of_requireNode target)
  | createLane lane =>
    obtain ⟨_, free, done⟩ := ok_of_bind done
    obtain ⟨_, members, done⟩ := ok_of_bind done
    rw [unplaceAll_eq] at done
    obtain rfl := Except.ok.inj done
    exact .createLane (free_of_requireFree free) (known_of_requireNodes members)
  | delete id => exact delete_eq_ok_iff.mp done
  | rename id label => exact rename_eq_ok_iff.mp done
  | assignLane node lane =>
    obtain ⟨_, required, done⟩ := ok_of_bind done
    have known : node ∈ flow.nodeIds := known_of_requireNode required
    cases lane with
    | none =>
      obtain rfl := Except.ok.inj done
      rw [unplace_eq]
      exact .takeOut known
    | some lane =>
      simp only at done
      split at done
      · exact nomatch done
      · next found =>
        rw [Bool.not_eq_true, Option.isNone_eq_false_iff, isSome_lane?_iff] at found
        rw [unplace_eq] at done
        obtain ⟨_, rfl⟩ := place_eq_ok_iff.mp done
        exact .assignLane known found

/-- What is said of an edit is done by applying it. -/
theorem Patch.Edits.apply {patch : Patch} (edits : patch.Edits flow after) :
    patch.apply flow = .ok after := by
  cases edits with
  | moveNode known => exact changeNode_eq_ok_iff.mpr ⟨known, rfl⟩
  | changeBounds known => exact changeNode_eq_ok_iff.mpr ⟨known, rfl⟩
  | createNode free =>
    simp only [Patch.apply, requireFree_eq_ok_iff.mpr free]
    rfl
  | createNodeIn free known =>
    simp only [Patch.apply, requireFree_eq_ok_iff.mpr free,
      place_eq_ok_iff.mpr ⟨known, rfl⟩]
    rfl
  | createEdge free source target =>
    simp only [Patch.apply, requireFree_eq_ok_iff.mpr free,
      requireNode_eq_ok_iff.mpr source, requireNode_eq_ok_iff.mpr target]
    rfl
  | createLane free members =>
    simp only [Patch.apply, requireFree_eq_ok_iff.mpr free,
      requireNodes_eq_ok_iff.mpr members, unplaceAll_eq]
    rfl
  | deleteNode known => exact delete_eq_ok_iff.mpr (.deleteNode known)
  | deleteEdge noNode known => exact delete_eq_ok_iff.mpr (.deleteEdge noNode known)
  | deleteLane noNode noEdge known => exact delete_eq_ok_iff.mpr (.deleteLane noNode noEdge known)
  | renameNode known => exact rename_eq_ok_iff.mpr (.renameNode known)
  | renameEdge noNode known => exact rename_eq_ok_iff.mpr (.renameEdge noNode known)
  | renameLane noNode noEdge known => exact rename_eq_ok_iff.mpr (.renameLane noNode noEdge known)
  | takeOut known =>
    simp only [Patch.apply, requireNode_eq_ok_iff.mpr known, unplace_eq]
    rfl
  | assignLane known place =>
    have found : (flow.lane? _).isNone = false :=
      Option.isNone_eq_false_iff.mpr ((isSome_lane?_iff flow _).mpr place)
    simp only [Patch.apply, requireNode_eq_ok_iff.mpr known, found, unplace_eq]
    refine place_eq_ok_iff.mpr ⟨?_, rfl⟩
    rw [laneIds, Lane.ids_leaving]
    exact place

end Flowdesk.Workflow
