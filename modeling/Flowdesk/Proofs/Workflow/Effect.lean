import Flowdesk.Proofs.Workflow.Editing

/-!
# An edit changes only what it names

Where every element has an id of its own, an edit is told for all elements at once: those
of the id it names are changed, and with distinct ids there is one such element. Everything
else stays as it was, and in the order it had.
-/

namespace Flowdesk.Workflow

open Flowdesk.Workflow.Flow

/-- What an edit makes of a workflow, told for every element. -/
def Patch.effect (flow : Flow) : Patch → Flow
  | .moveNode id position =>
      { flow with
        nodes := flow.nodes.map fun node =>
          if node.id = id then { node with position := some position } else node }
  | .changeBounds id position size =>
      { flow with
        nodes := flow.nodes.map fun node =>
          if node.id = id then { node with position := some position, size := some size }
          else node }
  | .createNode node place =>
      { flow with
        nodes := flow.nodes ++ [node]
        lanes := flow.lanes.map fun lane =>
          if some lane.id = place then lane.joined node.id else lane }
  | .createEdge edge => { flow with edges := flow.edges ++ [edge] }
  | .createLane lane => { flow with lanes := flow.lanes.map (Lane.leaving lane.nodes) ++ [lane] }
  | .delete id =>
      { flow with
        nodes := flow.nodes.filter (·.id ≠ id)
        edges := (flow.edges.filter (·.id ≠ id)).filter fun edge =>
          id ∈ flow.nodeIds → ¬edge.Touches id
        lanes := (flow.lanes.filter (·.id ≠ id)).map fun lane =>
          if id ∈ flow.nodeIds then lane.leaving [id] else lane }
  | .rename id label =>
      { flow with
        nodes := flow.nodes.map fun node => if node.id = id then node.relabelled label else node
        edges := flow.edges.map fun edge => if edge.id = id then edge.relabelled label else edge
        lanes := flow.lanes.map fun lane => if lane.id = id then lane.renamed label else lane }
  | .assignLane node place =>
      { flow with
        lanes := flow.lanes.map fun lane =>
          if some lane.id = place then (lane.leaving [node]).joined node else lane.leaving [node] }

/-- What an edit asks of the ids it names: a new element has a new one, and every other id is
that of exactly one element. -/
def Patch.NamesOne (flow : Flow) : Patch → Prop
  | .moveNode id _ | .changeBounds id _ _ => flow.nodeIds.count id = 1
  | .createNode node place =>
      node.id ∉ flow.ids ∧ ∀ lane, place = some lane → flow.laneIds.count lane = 1
  | .createEdge edge => edge.id ∉ flow.ids
  | .createLane lane => lane.id ∉ flow.ids
  | .delete id | .rename id _ => flow.ids.count id = 1
  | .assignLane node place =>
      flow.nodeIds.count node = 1 ∧ ∀ lane, place = some lane → flow.laneIds.count lane = 1

/-- What two lists share comes in the same order in both. -/
def InOrder (before after : List String) : Prop :=
  before.filter (· ∈ after) = after.filter (· ∈ before)

/-- Whether a workflow has the name and the description of an earlier one, and its elements,
as far as they are left, in the order they had. -/
structure Flow.KeptBy (flow after : Flow) : Prop where
  name : after.name = flow.name
  description : after.description = flow.description
  nodes : InOrder flow.nodeIds after.nodeIds
  edges : InOrder flow.edgeIds after.edgeIds
  lanes : InOrder flow.laneIds after.laneIds

/-- Distinct ids, kind by kind. -/
structure Flow.Distinct (flow : Flow) : Prop where
  nodes : flow.nodeIds.Nodup
  edges : flow.edgeIds.Nodup
  lanes : flow.laneIds.Nodup
  noEdge : ∀ id ∈ flow.nodeIds, id ∉ flow.edgeIds
  noLane : ∀ id ∈ flow.nodeIds, id ∉ flow.laneIds
  edgeNoLane : ∀ id ∈ flow.edgeIds, id ∉ flow.laneIds

theorem Flow.distinct_of_nodup {flow : Flow} (distinct : flow.ids.Nodup) : flow.Distinct := by
  obtain ⟨others, lanes, apart⟩ := List.nodup_append.mp distinct
  obtain ⟨nodes, edges, nodeEdge⟩ := List.nodup_append.mp others
  refine ⟨nodes, edges, lanes, ?_, ?_, ?_⟩
  · exact fun id node edge => nodeEdge id node id edge rfl
  · exact fun id node lane => apart id (List.mem_append_left _ node) id lane rfl
  · exact fun id edge lane => apart id (List.mem_append_right _ edge) id lane rfl

section Lists

variable {α : Type} {key : α → String} {id : String} {elements : List α}

/-- Nothing is changed where no element has the id. -/
theorem map_of_lacks {change : α → α} (lacks : id ∉ elements.map key) :
    (elements.map fun element => if key element = id then change element else element) =
      elements := by
  have same : ∀ element ∈ elements,
      (if key element = id then change element else element) = element :=
    fun element member => if_neg fun found => lacks (List.mem_map.mpr ⟨element, member, found⟩)
  rw [List.map_congr_left same, List.map_id']

theorem filter_of_lacks (lacks : id ∉ elements.map key) :
    elements.filter (key · ≠ id) = elements :=
  List.filter_eq_self.mpr fun element member =>
    decide_eq_true fun found => lacks (List.mem_map.mpr ⟨element, member, found⟩)

/-- If ids are distinct, no element after the first one of an id has that id. -/
theorem rest_lacks {front rest : List α} {element : α} (found : key element = id)
    (distinct : ((front ++ element :: rest).map key).Nodup) : id ∉ rest.map key := by
  rw [List.map_append, List.map_cons, found] at distinct
  exact (List.nodup_cons.mp (List.nodup_append.mp distinct).2.1).1

/-- If ids are distinct, to change the first element of an id is to change all of them. -/
theorem changeFirst_eq_map {change : α → α} (distinct : (elements.map key).Nodup)
    (known : id ∈ elements.map key) :
    changeFirst (key · = id) change elements =
      elements.map fun element => if key element = id then change element else element := by
  obtain ⟨front, element, rest, rfl, found, before, changed, -⟩ := exists_first known
  rw [changed, List.map_append, List.map_cons, if_pos found, map_of_lacks before,
    map_of_lacks (rest_lacks found distinct)]

/-- If ids are distinct, to remove the first element of an id is to remove all of them. -/
theorem eraseP_eq_filter (distinct : (elements.map key).Nodup) (known : id ∈ elements.map key) :
    elements.eraseP (key · = id) = elements.filter (key · ≠ id) := by
  obtain ⟨front, element, rest, rfl, found, before, -, erased⟩ := exists_first known
  rw [erased, List.filter_append, List.filter_cons_of_neg (by simpa using found),
    filter_of_lacks before, filter_of_lacks (rest_lacks found distinct)]

/-- A list and one that has lost some of its members share them in one order. -/
theorem inOrder_of_sublist {fewer more : List String} (lost : fewer.Sublist more)
    (distinct : more.Nodup) : InOrder more fewer := by
  have all : fewer.filter (· ∈ more) = fewer :=
    List.filter_eq_self.mpr fun name member => decide_eq_true (lost.subset member)
  rw [InOrder, all]
  clear all
  induction lost with
  | slnil => rfl
  | @cons fewer more first lost inductionHypothesis =>
    obtain ⟨fresh, distinct⟩ := List.nodup_cons.mp distinct
    have gone : first ∉ fewer := fun member => fresh (lost.subset member)
    rw [List.filter_cons_of_neg (by simpa using gone), inductionHypothesis distinct]
  | @cons_cons fewer more first lost inductionHypothesis =>
    obtain ⟨fresh, distinct⟩ := List.nodup_cons.mp distinct
    have others : more.filter (· ∈ first :: fewer) = more.filter (· ∈ fewer) := by
      refine List.filter_congr fun name member => ?_
      have other : name ≠ first := fun same => fresh (same ▸ member)
      simp only [List.mem_cons, other, false_or]
    rw [List.filter_cons_of_pos (by simp), others, inductionHypothesis distinct]

theorem InOrder.symm {before after : List String} (inOrder : InOrder before after) :
    InOrder after before := Eq.symm inOrder

theorem inOrder_changeFirst {condition : α → Bool} {change : α → α}
    (same : ∀ element, key (change element) = key element) :
    InOrder (elements.map key) ((changeFirst condition change elements).map key) :=
  map_changeFirst key same elements ▸ rfl

theorem inOrder_append {new : α} (distinct : (elements.map key).Nodup)
    (fresh : key new ∉ elements.map key) :
    InOrder (elements.map key) ((elements ++ [new]).map key) := by
  refine InOrder.symm (inOrder_of_sublist ((List.sublist_append_left elements [new]).map key) ?_)
  rw [List.map_append]
  exact (List.perm_append_singleton (key new) _).nodup_iff.mpr
    (List.nodup_cons.mpr ⟨fresh, distinct⟩)

end Lists

variable {flow after : Flow} {patch : Patch}

/-- What an edit that can be applied names is there, and once. -/
theorem Patch.Edits.namesOne (edits : patch.Edits flow after) (distinct : flow.ids.Nodup) :
    patch.NamesOne flow := by
  have apart : flow.Distinct := distinct_of_nodup distinct
  have one {id : String} (known : id ∈ flow.ids) : flow.ids.count id = 1 :=
    List.count_eq_one_of_mem distinct known
  have oneNode {id : String} (known : id ∈ flow.nodeIds) : flow.nodeIds.count id = 1 :=
    List.count_eq_one_of_mem apart.nodes known
  have oneLane {id : String} (known : id ∈ flow.laneIds) : flow.laneIds.count id = 1 :=
    List.count_eq_one_of_mem apart.lanes known
  cases edits with
  | moveNode known | changeBounds known => exact oneNode known
  | createNode free => exact ⟨free, nofun⟩
  | createNodeIn free known => exact ⟨free, fun _ same => Option.some.inj same ▸ oneLane known⟩
  | createEdge free => exact free
  | createLane free => exact free
  | deleteNode known | renameNode known => exact one (mem_ids_iff.mpr (.inl known))
  | deleteEdge _ known | renameEdge _ known => exact one (mem_ids_iff.mpr (.inr (.inl known)))
  | deleteLane _ _ known | renameLane _ _ known => exact one (mem_ids_iff.mpr (.inr (.inr known)))
  | takeOut known => exact ⟨oneNode known, nofun⟩
  | assignLane known place =>
    exact ⟨oneNode known, fun _ same => Option.some.inj same ▸ oneLane place⟩

/-- An edit that can be applied has the effect told for all elements. -/
theorem Patch.Edits.eq_effect (edits : patch.Edits flow after) (distinct : flow.ids.Nodup) :
    after = patch.effect flow := by
  have apart : flow.Distinct := distinct_of_nodup distinct
  cases edits with
  | moveNode known => rw [Patch.effect, changeFirst_eq_map apart.nodes known]
  | changeBounds known => rw [Patch.effect, changeFirst_eq_map apart.nodes known]
  | createNode free => simp only [Patch.effect, reduceCtorEq, if_false, List.map_id']
  | createNodeIn free known =>
    simp only [Patch.effect, Option.some.injEq, changeFirst_eq_map apart.lanes known]
  | createEdge => rfl
  | createLane => rfl
  | deleteNode known =>
    rw [Patch.effect, eraseP_eq_filter apart.nodes known, filter_of_lacks (apart.noEdge _ known),
      filter_of_lacks (apart.noLane _ known)]
    simp only [known, forall_const, if_true]
  | deleteEdge noNode known =>
    rw [Patch.effect, eraseP_eq_filter apart.edges known, filter_of_lacks noNode,
      filter_of_lacks (apart.edgeNoLane _ known)]
    simp only [noNode, false_implies, decide_true, List.filter_true, if_false, List.map_id']
  | deleteLane noNode noEdge known =>
    rw [Patch.effect, eraseP_eq_filter apart.lanes known, filter_of_lacks noNode,
      filter_of_lacks noEdge]
    simp only [noNode, false_implies, decide_true, List.filter_true, if_false, List.map_id']
  | renameNode known =>
    rw [Patch.effect, changeFirst_eq_map apart.nodes known,
      map_of_lacks (apart.noEdge _ known), map_of_lacks (apart.noLane _ known)]
  | renameEdge noNode known =>
    rw [Patch.effect, changeFirst_eq_map apart.edges known, map_of_lacks noNode,
      map_of_lacks (apart.edgeNoLane _ known)]
  | renameLane noNode noEdge known =>
    rw [Patch.effect, changeFirst_eq_map apart.lanes known, map_of_lacks noNode,
      map_of_lacks noEdge]
  | takeOut known => simp only [Patch.effect, reduceCtorEq, if_false]
  | @assignLane node lane known place =>
    rw [laneIds, ← Lane.ids_leaving [node]] at place
    have distinct : ((flow.lanes.map (Lane.leaving [node])).map (·.id)).Nodup := by
      rw [Lane.ids_leaving]
      exact apart.lanes
    rw [changeFirst_eq_map distinct place, List.map_map]
    simp only [Patch.effect, Option.some.injEq]
    rfl

/-- No edit that can be applied changes what a workflow is called, or the order of what is
left of it. -/
theorem Patch.Edits.keptBy (edits : patch.Edits flow after) (distinct : flow.ids.Nodup) :
    flow.KeptBy after := by
  have apart : flow.Distinct := distinct_of_nodup distinct
  have fresh {id : String} (free : id ∉ flow.ids) :
      id ∉ flow.nodeIds ∧ id ∉ flow.edgeIds ∧ id ∉ flow.laneIds := by
    simpa only [mem_ids_iff, not_or] using free
  have same (gone : List String) :
      flow.laneIds = (flow.lanes.map (Lane.leaving gone)).map (·.id) :=
    (Lane.ids_leaving gone flow.lanes).symm
  cases edits with
  | moveNode | changeBounds | renameNode =>
    refine ⟨rfl, rfl, inOrder_changeFirst ?_, rfl, rfl⟩
    exact fun _ => rfl
  | createNode free => exact ⟨rfl, rfl, inOrder_append apart.nodes (fresh free).1, rfl, rfl⟩
  | createNodeIn free =>
    refine ⟨rfl, rfl, inOrder_append apart.nodes (fresh free).1, rfl, inOrder_changeFirst ?_⟩
    exact fun _ => rfl
  | createEdge free => exact ⟨rfl, rfl, rfl, inOrder_append apart.edges (fresh free).2.1, rfl⟩
  | @createLane lane free =>
    refine ⟨rfl, rfl, rfl, rfl, ?_⟩
    rw [same lane.nodes]
    exact inOrder_append (same lane.nodes ▸ apart.lanes) (same lane.nodes ▸ (fresh free).2.2)
  | deleteNode =>
    exact ⟨rfl, rfl, inOrder_of_sublist (List.eraseP_sublist.map _) apart.nodes,
      inOrder_of_sublist (List.filter_sublist.map _) apart.edges, same _ ▸ rfl⟩
  | deleteEdge =>
    exact ⟨rfl, rfl, rfl, inOrder_of_sublist (List.eraseP_sublist.map _) apart.edges, rfl⟩
  | deleteLane =>
    exact ⟨rfl, rfl, rfl, rfl, inOrder_of_sublist (List.eraseP_sublist.map _) apart.lanes⟩
  | renameEdge =>
    refine ⟨rfl, rfl, rfl, inOrder_changeFirst ?_, rfl⟩
    exact fun _ => rfl
  | renameLane =>
    refine ⟨rfl, rfl, rfl, rfl, inOrder_changeFirst ?_⟩
    exact fun _ => rfl
  | takeOut => exact ⟨rfl, rfl, rfl, rfl, same _ ▸ rfl⟩
  | @assignLane node lane =>
    refine ⟨rfl, rfl, rfl, rfl, ?_⟩
    rw [same [node]]
    refine inOrder_changeFirst ?_
    exact fun _ => rfl

/-- Of a workflow whose elements have ids of their own, an edit that can be applied changes
only what it names: it names one element of each id, or a new one, it has the effect told
for all elements and no other, and whatever is left keeps its order.

Proof: an inversion of the edit says what was required and what was done, kind by kind. Since ids
are distinct, the first element of an id is the only one, so that what was done to the first one
was done to all of the id. -/
theorem apply_changes_only_named (patch : Patch) (distinct : flow.ids.Nodup)
    (done : patch.apply flow = .ok after) :
    patch.NamesOne flow ∧ after = patch.effect flow ∧ flow.KeptBy after := by
  have edits : patch.Edits flow after := Patch.edits_of_apply done
  exact ⟨edits.namesOne distinct, edits.eq_effect distinct, edits.keptBy distinct⟩

/-- The end of the order is deleted, with the edge that leads to it and its place in the
lane. -/
theorem deletion_changes_only_named :
    laned.ids.Nodup ∧ ∃ after, (Patch.delete "done").apply laned = .ok after ∧
      (Patch.delete "done").NamesOne laned ∧ after = (Patch.delete "done").effect laned ∧
      laned.KeptBy after ∧ after.ids = ["start", "lane"] ∧
      after.lanes.map (·.nodes) = [["start"]] := by
  have distinct : laned.ids.Nodup := by decide
  refine ⟨distinct, _, rfl, ?_⟩
  obtain ⟨one, effect, kept⟩ := apply_changes_only_named (.delete "done") distinct rfl
  exact ⟨one, effect, kept, by decide +kernel, by decide +kernel⟩

end Flowdesk.Workflow
