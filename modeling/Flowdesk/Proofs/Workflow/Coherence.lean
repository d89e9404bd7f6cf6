import Flowdesk.Workflow.Patch
import Mathlib.Data.List.Nodup

/-!
# Edits keep references intact

A workflow is coherent when its elements have ids of their own and whatever an edge or a
lane refers to is one of its nodes. No edit can take that away. Most edits leave the ids and
what is referred to as they were, or only drop some of it. A new element needs a free id,
and refers to nodes that are there; a node that goes takes all references to it along.
-/

namespace Flowdesk.Workflow

namespace Flow

/-- The ids of the nodes, in order. -/
def nodeIds (flow : Flow) : List String := flow.nodes.map (·.id)

/-- Whether edges and lanes refer to nothing but some nodes, given by their ids. -/
structure RefersTo (flow : Flow) (known : List String) : Prop where
  edges : ∀ edge ∈ flow.edges, edge.source ∈ known ∧ edge.target ∈ known
  lanes : ∀ lane ∈ flow.lanes, ∀ member ∈ lane.nodes, member ∈ known

/-- A workflow whose elements have ids of their own, and whose edges and lanes refer to
nodes of the workflow. -/
structure Coherent (flow : Flow) : Prop where
  distinct : flow.ids.Nodup
  refers : flow.RefersTo flow.nodeIds

/-- The workflow after edits. One that cannot be applied is passed over. -/
def edited (flow : Flow) (patches : List Patch) : Flow :=
  patches.foldl (fun flow patch => (patch.apply flow).toOption.getD flow) flow

/-- A node can be looked up exactly when its id is listed. -/
theorem isSome_node?_iff (flow : Flow) (id : String) :
    (flow.node? id).isSome = true ↔ id ∈ flow.nodeIds := by
  simp only [node?, nodeIds, List.find?_isSome, List.mem_map, decide_eq_true_eq]

section ChangeFirst

variable {α β : Type} {condition : α → Bool} {change : α → α}

/-- What a change leaves alone is the same for all elements. -/
theorem map_changeFirst (view : α → β) (same : ∀ element, view (change element) = view element)
    (elements : List α) :
    (changeFirst condition change elements).map view = elements.map view := by
  induction elements with
  | nil => rfl
  | cons first rest inductionHypothesis =>
    rw [changeFirst]
    split
    · rw [List.map_cons, same, List.map_cons]
    · rw [List.map_cons, inductionHypothesis, List.map_cons]

/-- An element after a change is one from before, changed or not. -/
theorem mem_changeFirst {elements : List α} {element : α}
    (member : element ∈ changeFirst condition change elements) :
    ∃ before ∈ elements, element = before ∨ element = change before := by
  induction elements with
  | nil => exact nomatch member
  | cons first rest inductionHypothesis =>
    rw [changeFirst] at member
    split at member
    · rcases List.mem_cons.mp member with rfl | inRest
      · exact ⟨first, List.mem_cons_self, .inr rfl⟩
      · exact ⟨element, List.mem_cons_of_mem first inRest, .inl rfl⟩
    · rcases List.mem_cons.mp member with rfl | inRest
      · exact ⟨element, List.mem_cons_self, .inl rfl⟩
      · obtain ⟨before, present, shape⟩ := inductionHypothesis inRest
        exact ⟨before, List.mem_cons_of_mem first present, shape⟩

end ChangeFirst

/-- What went well in two steps went well in each. -/
theorem ok_of_bind {ε α β : Type} {first : Except ε α} {next : α → Except ε β} {result : β}
    (done : first >>= next = .ok result) :
    ∃ value, first = .ok value ∧ next value = .ok result := by
  cases first with
  | error failure => exact nomatch done
  | ok value => exact ⟨value, rfl, done⟩

section Requirements

variable {flow : Flow} {id : String}

/-- An id that was found free is that of no element. -/
theorem free_of_requireFree {done : Unit} (required : flow.requireFree id = .ok done) :
    id ∉ flow.ids := by
  unfold requireFree at required
  split at required
  · exact nomatch required
  · next unused => rwa [hasId_iff] at unused

/-- A node that was required is there. -/
theorem known_of_requireNode {done : Unit} (required : flow.requireNode id = .ok done) :
    id ∈ flow.nodeIds := by
  unfold requireNode at required
  split at required
  · next found => exact (isSome_node?_iff flow id).mp found
  · exact nomatch required

/-- So is each of several nodes. -/
theorem known_of_requireNodes {names : List String} {done : PUnit}
    (required : names.forM flow.requireNode = .ok done) : names ⊆ flow.nodeIds := by
  induction names with
  | nil => exact List.nil_subset _
  | cons name rest inductionHypothesis =>
    change flow.requireNode name >>= (fun _ => rest.forM flow.requireNode) = .ok done at required
    obtain ⟨_, first, others⟩ := ok_of_bind required
    exact List.cons_subset.mpr ⟨known_of_requireNode first, inductionHypothesis others⟩

end Requirements

variable {flow : Flow}

/-- References to known nodes stay so when more nodes are known. -/
theorem RefersTo.mono {known more : List String} (refers : flow.RefersTo known)
    (subset : known ⊆ more) : flow.RefersTo more where
  edges edge member := ⟨subset (refers.edges edge member).1, subset (refers.edges edge member).2⟩
  lanes lane member name inLane := subset (refers.lanes lane member name inLane)

/-- A workflow that has only references of another one refers to the same nodes. -/
theorem RefersTo.of_fewer {fewer : Flow} {known : List String} (refers : flow.RefersTo known)
    (edges : ∀ edge ∈ fewer.edges,
      ∃ before ∈ flow.edges, before.source = edge.source ∧ before.target = edge.target)
    (lanes : ∀ lane ∈ fewer.lanes, ∃ before ∈ flow.lanes, lane.nodes ⊆ before.nodes) :
    fewer.RefersTo known where
  edges edge member := by
    obtain ⟨before, present, source, target⟩ := edges edge member
    rw [← source, ← target]
    exact refers.edges before present
  lanes lane member name inLane := by
    obtain ⟨before, present, subset⟩ := lanes lane member
    exact refers.lanes before present name (subset inLane)

/-- A change to a node that lets it keep its id. -/
theorem Coherent.withNode (coherent : flow.Coherent) {condition : Node → Bool}
    {change : Node → Node} (sameId : ∀ node, (change node).id = node.id) :
    ({ flow with nodes := changeFirst condition change flow.nodes } : Flow).Coherent := by
  constructor
  · simp only [ids]
    rw [map_changeFirst (fun node : Node => node.id) sameId]
    exact coherent.distinct
  · simp only [nodeIds]
    rw [map_changeFirst (fun node : Node => node.id) sameId]
    exact ⟨coherent.refers.edges, coherent.refers.lanes⟩

/-- A change to an edge that lets it keep its id and its ends. -/
theorem Coherent.withEdge (coherent : flow.Coherent) {condition : Edge → Bool}
    {change : Edge → Edge} (sameId : ∀ edge, (change edge).id = edge.id)
    (sameEnds : ∀ edge, (change edge).source = edge.source ∧ (change edge).target = edge.target) :
    ({ flow with edges := changeFirst condition change flow.edges } : Flow).Coherent := by
  refine ⟨?_, coherent.refers.of_fewer ?_ ?_⟩
  · simp only [ids]
    rw [map_changeFirst (fun edge : Edge => edge.id) sameId]
    exact coherent.distinct
  · intro edge member
    obtain ⟨before, present, rfl | rfl⟩ := mem_changeFirst member
    · exact ⟨_, present, rfl, rfl⟩
    · exact ⟨before, present, (sameEnds before).1.symm, (sameEnds before).2.symm⟩
  · exact fun lane member => ⟨lane, member, List.Subset.refl _⟩

/-- A change to a lane that lets it keep its id and its nodes. -/
theorem Coherent.withLane (coherent : flow.Coherent) {condition : Lane → Bool}
    {change : Lane → Lane} (sameId : ∀ lane, (change lane).id = lane.id)
    (sameNodes : ∀ lane, (change lane).nodes = lane.nodes) :
    ({ flow with lanes := changeFirst condition change flow.lanes } : Flow).Coherent := by
  refine ⟨?_, coherent.refers.of_fewer ?_ ?_⟩
  · simp only [ids]
    rw [map_changeFirst (fun lane : Lane => lane.id) sameId]
    exact coherent.distinct
  · exact fun edge member => ⟨edge, member, rfl, rfl⟩
  · intro lane member
    obtain ⟨before, present, rfl | rfl⟩ := mem_changeFirst member
    · exact ⟨_, present, List.Subset.refl _⟩
    · exact ⟨before, present, sameNodes before ▸ List.Subset.refl _⟩

/-- A change of a node that keeps its id keeps all references to it. -/
theorem Coherent.changeNode {after : Flow} (coherent : flow.Coherent) {id : String}
    {change : Node → Node} (done : flow.changeNode id change = .ok after)
    (sameId : ∀ node, (change node).id = node.id) : after.Coherent := by
  unfold Flow.changeNode at done
  split at done
  · obtain rfl := Except.ok.inj done
    exact coherent.withNode sameId
  · exact nomatch done

/-- A lane is one that was there before, without the node. -/
theorem mem_lanes_unplace {node : String} {lane : Lane}
    (member : lane ∈ (flow.unplace node).lanes) :
    ∃ before ∈ flow.lanes, lane.nodes = before.nodes.filter (· ≠ node) := by
  obtain ⟨before, present, rfl⟩ := List.mem_map.mp member
  exact ⟨before, present, rfl⟩

@[simp] theorem ids_unplace (flow : Flow) (node : String) : (flow.unplace node).ids = flow.ids := by
  simp only [ids, unplace, List.map_map, Function.comp_def]

@[simp] theorem nodeIds_unplace (flow : Flow) (node : String) :
    (flow.unplace node).nodeIds = flow.nodeIds := rfl

/-- Taking a node out of all lanes takes references away. -/
theorem Coherent.unplace (coherent : flow.Coherent) (node : String) :
    (flow.unplace node).Coherent := by
  refine ⟨(ids_unplace flow node).symm ▸ coherent.distinct, ?_⟩
  rw [nodeIds_unplace]
  refine coherent.refers.of_fewer (fun edge member => ⟨edge, member, rfl, rfl⟩) ?_
  intro lane member
  obtain ⟨before, present, rest⟩ := mem_lanes_unplace member
  exact ⟨before, present, rest ▸ List.filter_subset_self _⟩

/-- Taking nodes out of their lanes leaves fewer references. -/
theorem Coherent.unplaceAll (coherent : flow.Coherent) (names : List String) :
    (names.foldl Flow.unplace flow).Coherent := by
  induction names generalizing flow with
  | nil => exact coherent
  | cons name rest inductionHypothesis => exact inductionHypothesis (coherent.unplace name)

theorem sameIds_unplaceAll (flow : Flow) (names : List String) :
    (names.foldl Flow.unplace flow).ids = flow.ids ∧
      (names.foldl Flow.unplace flow).nodeIds = flow.nodeIds := by
  induction names generalizing flow with
  | nil => exact ⟨rfl, rfl⟩
  | cons name rest inductionHypothesis =>
    obtain ⟨ids, nodes⟩ := inductionHypothesis (flow.unplace name)
    exact ⟨ids.trans (ids_unplace flow name), nodes⟩

/-- Placing a node in a lane leaves the elements as they are and adds a reference to that
node. -/
theorem place_adds {placed : Flow} {node lane : String} (done : flow.place node lane = .ok placed) :
    placed.ids = flow.ids ∧ placed.nodeIds = flow.nodeIds ∧
      ∀ known, flow.RefersTo known → node ∈ known → placed.RefersTo known := by
  unfold place changeLane at done
  split at done
  · obtain rfl := Except.ok.inj done
    refine ⟨?_, rfl, fun known refers isKnown => ⟨refers.edges, ?_⟩⟩
    · simp only [ids]
      rw [map_changeFirst (fun lane : Lane => lane.id)]
      exact fun _ => rfl
    · intro changed member name inLane
      obtain ⟨before, present, rfl | rfl⟩ := mem_changeFirst member
      · exact refers.lanes _ present name inLane
      · rcases List.mem_append.mp inLane with inBefore | new
        · exact refers.lanes before present name inBefore
        · rw [List.mem_singleton.mp new]
          exact isKnown
  · cases done

/-- A node that is there may be named by a lane. -/
theorem Coherent.place {placed : Flow} (coherent : flow.Coherent) {node lane : String}
    (known : node ∈ flow.nodeIds) (done : flow.place node lane = .ok placed) : placed.Coherent := by
  obtain ⟨ids, nodes, refers⟩ := place_adds done
  exact ⟨ids ▸ coherent.distinct, nodes ▸ refers _ coherent.refers known⟩

/-- A new node, which a lane may refer to already. -/
theorem coherent_addNode (distinct : flow.ids.Nodup) {node : Node} (free : node.id ∉ flow.ids)
    (refers : flow.RefersTo (flow.nodeIds ++ [node.id])) :
    ({ flow with nodes := flow.nodes ++ [node] } : Flow).Coherent := by
  constructor
  · simp only [ids, List.map_append, List.map_cons, List.map_nil, List.append_assoc,
      List.cons_append, List.nil_append]
    refine List.perm_middle.nodup_iff.mpr (List.nodup_cons.mpr ?_)
    rw [← List.append_assoc]
    exact ⟨free, distinct⟩
  · simp only [nodeIds, List.map_append, List.map_cons, List.map_nil]
    exact ⟨refers.edges, refers.lanes⟩

/-- A new edge between nodes. -/
theorem Coherent.addEdge (coherent : flow.Coherent) {edge : Edge} (free : edge.id ∉ flow.ids)
    (source : edge.source ∈ flow.nodeIds) (target : edge.target ∈ flow.nodeIds) :
    ({ flow with edges := flow.edges ++ [edge] } : Flow).Coherent := by
  refine ⟨?_, ?_, coherent.refers.lanes⟩
  · simp only [ids, List.map_append, List.map_cons, List.map_nil, List.append_assoc,
      List.cons_append, List.nil_append]
    rw [← List.append_assoc]
    refine List.perm_middle.nodup_iff.mpr (List.nodup_cons.mpr ?_)
    exact ⟨free, coherent.distinct⟩
  · intro each member
    rcases List.mem_append.mp member with present | new
    · exact coherent.refers.edges each present
    · rw [List.mem_singleton.mp new]
      exact ⟨source, target⟩

/-- A new lane of nodes. -/
theorem Coherent.addLane (coherent : flow.Coherent) {lane : Lane} (free : lane.id ∉ flow.ids)
    (members : lane.nodes ⊆ flow.nodeIds) :
    ({ flow with lanes := flow.lanes ++ [lane] } : Flow).Coherent := by
  refine ⟨?_, coherent.refers.edges, ?_⟩
  · simp only [ids, List.map_append, List.map_cons, List.map_nil, ← List.append_assoc]
    refine (List.perm_append_singleton lane.id _).nodup_iff.mpr (List.nodup_cons.mpr ?_)
    exact ⟨free, coherent.distinct⟩
  · intro each member
    rcases List.mem_append.mp member with present | new
    · exact coherent.refers.lanes each present
    · rw [List.mem_singleton.mp new]
      exact fun name inLane => members inLane

/-- A node that goes takes all references to it along, so that those which are left are to
nodes of other ids, none of which goes. -/
theorem Coherent.deleteNode (coherent : flow.Coherent) (id : String) :
    (({ flow with
      nodes := flow.nodes.eraseP (·.id = id)
      edges := flow.edges.filter fun edge => edge.source ≠ id ∧ edge.target ≠ id } :
        Flow).unplace id).Coherent := by
  have stays : ∀ name ∈ flow.nodeIds, name ≠ id →
      name ∈ (flow.nodes.eraseP (·.id = id)).map (·.id) := by
    intro name known different
    obtain ⟨node, present, rfl⟩ := List.mem_map.mp known
    exact List.mem_map_of_mem ((List.mem_eraseP_of_neg (by simpa using different)).mpr present)
  constructor
  · rw [ids_unplace]
    refine coherent.distinct.sublist (((List.eraseP_sublist.map _).append ?_).append_right _)
    exact List.filter_sublist.map _
  · constructor
    · intro edge member
      obtain ⟨present, apart⟩ := List.mem_filter.mp member
      obtain ⟨source, target⟩ := of_decide_eq_true apart
      obtain ⟨sourceKnown, targetKnown⟩ := coherent.refers.edges edge present
      exact ⟨stays _ sourceKnown source, stays _ targetKnown target⟩
    · intro lane member name inLane
      obtain ⟨before, present, rest⟩ := mem_lanes_unplace member
      rw [rest] at inLane
      obtain ⟨inBefore, different⟩ := List.mem_filter.mp inLane
      exact stays name (coherent.refers.lanes before present name inBefore)
        (of_decide_eq_true different)

/-- A node that is deleted takes its edges along and leaves its lanes. -/
theorem Coherent.delete {after : Flow} (coherent : flow.Coherent) {id : String}
    (done : flow.delete id = .ok after) : after.Coherent := by
  unfold Flow.delete at done
  split at done
  · obtain rfl := Except.ok.inj done
    exact coherent.deleteNode id
  · split at done
    · obtain rfl := Except.ok.inj done
      refine ⟨coherent.distinct.sublist ?_, coherent.refers.of_fewer ?_ ?_⟩
      · exact ((List.eraseP_sublist.map _).append_left _).append_right _
      · exact fun edge member => ⟨edge, List.mem_of_mem_eraseP member, rfl, rfl⟩
      · exact fun lane member => ⟨lane, member, List.Subset.refl _⟩
    · split at done
      · obtain rfl := Except.ok.inj done
        refine ⟨coherent.distinct.sublist ?_, coherent.refers.of_fewer ?_ ?_⟩
        · exact (List.eraseP_sublist.map _).append_left _
        · exact fun edge member => ⟨edge, member, rfl, rfl⟩
        · exact fun lane member => ⟨lane, List.mem_of_mem_eraseP member, List.Subset.refl _⟩
      · exact nomatch done

/-- Another label is no other reference. -/
theorem Coherent.rename {after : Flow} (coherent : flow.Coherent) {id label : String}
    (done : flow.rename id label = .ok after) : after.Coherent := by
  unfold Flow.rename at done
  split at done
  · obtain rfl := Except.ok.inj done
    exact coherent.withNode fun _ => rfl
  · split at done
    · obtain rfl := Except.ok.inj done
      exact coherent.withEdge (fun _ => rfl) fun _ => ⟨rfl, rfl⟩
    · split at done
      · obtain rfl := Except.ok.inj done
        exact coherent.withLane (fun _ => rfl) fun _ => rfl
      · cases done

/-- A new node goes to the end of the nodes and, if a lane is named, to the end of that lane. -/
theorem Coherent.createNode {after : Flow} (coherent : flow.Coherent) {node : Node}
    {lane : Option String} (done : (Patch.createNode node lane).apply flow = .ok after) :
    after.Coherent := by
  obtain ⟨_, required, done⟩ := ok_of_bind done
  have free : node.id ∉ flow.ids := free_of_requireFree required
  have refers : flow.RefersTo (flow.nodeIds ++ [node.id]) :=
    coherent.refers.mono (List.subset_append_left _ _)
  cases lane with
  | none =>
    obtain rfl := Except.ok.inj done
    exact coherent_addNode coherent.distinct free refers
  | some lane =>
    obtain ⟨placed, place, done⟩ := ok_of_bind done
    obtain rfl := Except.ok.inj done
    obtain ⟨ids, nodes, adds⟩ := place_adds place
    refine coherent_addNode (ids ▸ coherent.distinct) (ids ▸ free) ?_
    rw [nodes]
    exact adds _ refers (List.mem_append_right _ (List.mem_singleton_self node.id))

/-- A node that changes its lane exists, and is taken out of all lanes first. -/
theorem Coherent.assignLane {after : Flow} (coherent : flow.Coherent) {node : String}
    {lane : Option String} (done : (Patch.assignLane node lane).apply flow = .ok after) :
    after.Coherent := by
  obtain ⟨_, required, done⟩ := ok_of_bind done
  cases lane with
  | none =>
    obtain rfl := Except.ok.inj done
    exact coherent.unplace node
  | some lane =>
    simp only at done
    split at done
    · exact nomatch done
    · exact (coherent.unplace node).place (known_of_requireNode required) done

/-- An edit of any kind leaves a coherent workflow coherent. -/
theorem Coherent.apply {after : Flow} (coherent : flow.Coherent) (patch : Patch)
    (done : patch.apply flow = .ok after) : after.Coherent := by
  cases patch with
  | moveNode id position => exact coherent.changeNode done fun _ => rfl
  | changeBounds id position size => exact coherent.changeNode done fun _ => rfl
  | createNode node lane => exact coherent.createNode done
  | createEdge edge =>
    obtain ⟨_, free, done⟩ := ok_of_bind done
    obtain ⟨_, source, done⟩ := ok_of_bind done
    obtain ⟨_, target, done⟩ := ok_of_bind done
    obtain rfl := Except.ok.inj done
    exact coherent.addEdge (free_of_requireFree free) (known_of_requireNode source)
      (known_of_requireNode target)
  | createLane lane =>
    obtain ⟨_, free, done⟩ := ok_of_bind done
    obtain ⟨_, members, done⟩ := ok_of_bind done
    obtain rfl := Except.ok.inj done
    obtain ⟨ids, nodes⟩ := sameIds_unplaceAll flow lane.nodes
    refine (coherent.unplaceAll lane.nodes).addLane ?_ ?_
    · rw [ids]
      exact free_of_requireFree free
    · rw [nodes]
      exact known_of_requireNodes members
  | delete id => exact coherent.delete done
  | rename id label => exact coherent.rename done
  | assignLane node lane => exact coherent.assignLane done

/-- Whatever edits are made of a coherent workflow, those that cannot be applied passed over,
its elements keep ids of their own, its edges connect nodes of it and its lanes gather
nodes of it.

Proof: induction over the edits, from one edit that can be applied, by cases on its kind. It keeps
ids apart since new ones are required to be free, and references within since what is named is
required to be there. -/
theorem edited_coherent (flow : Flow) (patches : List Patch) (coherent : flow.Coherent) :
    (flow.edited patches).Coherent := by
  induction patches generalizing flow with
  | nil => exact coherent
  | cons patch rest inductionHypothesis =>
    refine inductionHypothesis ((patch.apply flow).toOption.getD flow) ?_
    cases done : patch.apply flow with
    | error failure => exact coherent
    | ok after => exact coherent.apply patch done

/-- A beginning and an end in one lane, with an edge between them. -/
def laned : Flow where
  name := "order"
  description := none
  nodes := [⟨"start", .start, none, none, none, .empty⟩,
    ⟨"done", .finish, none, none, none, .empty⟩]
  edges := [⟨"e1", "start", "done", none⟩]
  lanes := [⟨"lane", "Lane", ["start", "done"]⟩]

/-- A node is put into the lane and from there into a new one; a second element of its id, and
an edge to a node that is gone by then, are passed over. -/
def rearranging : List Patch :=
  [.createNode ⟨"check", .decision, none, none, none, .empty⟩ (some "lane"),
    .createEdge ⟨"check", "start", "done", none⟩, .createEdge ⟨"e2", "check", "done", none⟩,
    .createLane ⟨"other", "Other", ["check", "done"]⟩, .delete "done",
    .createEdge ⟨"e3", "check", "done", none⟩, .assignLane "start" (some "other")]

theorem rearranged_coherent :
    laned.Coherent ∧ (laned.edited rearranging).ids = ["start", "check", "lane", "other"] ∧
      (laned.edited rearranging).lanes.map (·.nodes) = [[], ["check", "start"]] ∧
      (laned.edited rearranging).Coherent := by
  have coherent : laned.Coherent := ⟨by decide, by decide, by decide⟩
  exact ⟨coherent, by decide +kernel, by decide +kernel,
    edited_coherent laned rearranging coherent⟩

end Flow

end Flowdesk.Workflow
