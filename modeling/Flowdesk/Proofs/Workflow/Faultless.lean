import Flowdesk.Proofs.Workflow.Coherence
import Flowdesk.Workflow.Check

/-!
# What the checks ask for

The checks go over a workflow in five passes, each of which reports what it meets. Together
they report no error exactly for a faultless workflow: it has a node, it is coherent, nothing
leads into a beginning or out of an end, and no node is placed twice. Each pass is told by
what it asks for. Two of them remember what they saw, so what they ask for is said of any
memory before it is said of an empty one.
-/

namespace Flowdesk.Workflow

/-- A workflow without faults. -/
structure Flow.Faultless (flow : Flow) : Prop where
  filled : flow.nodes ≠ []
  coherent : flow.Coherent
  /-- No edge leads into a beginning. -/
  beginnings : ∀ node ∈ flow.nodes, node.kind = .start → ∀ edge ∈ flow.edges, edge.target ≠ node.id
  /-- No edge leads out of an end. -/
  ends : ∀ node ∈ flow.nodes, node.kind = .finish → ∀ edge ∈ flow.edges, edge.source ≠ node.id
  /-- No node occurs twice among the members of all lanes. -/
  placedOnce : (flow.lanes.flatMap (·.nodes)).Nodup

/-- Whether none of some findings is an error. -/
def Harmless (findings : List Finding) : Prop := ∀ finding ∈ findings, finding.severity ≠ .error

section Harmless

@[simp] theorem harmless_nil : Harmless [] := fun _ member => nomatch member

@[simp] theorem harmless_cons_iff (finding : Finding) (rest : List Finding) :
    Harmless (finding :: rest) ↔ finding.severity ≠ .error ∧ Harmless rest :=
  List.forall_mem_cons

@[simp] theorem harmless_append_iff (first second : List Finding) :
    Harmless (first ++ second) ↔ Harmless first ∧ Harmless second :=
  List.forall_mem_append

/-- Reports of several elements are harmless if each of them is. -/
theorem harmless_flatMap_iff {α : Type} (elements : List α) (report : α → List Finding) :
    Harmless (elements.flatMap report) ↔ ∀ element ∈ elements, Harmless (report element) := by
  induction elements with
  | nil => simp
  | cons first rest inductionHypothesis =>
    rw [List.flatMap_cons, harmless_append_iff, inductionHypothesis, List.forall_mem_cons]

/-- A rule whose breach is an error asks that its condition does not hold. -/
theorem harmless_reportIf_iff {condition : Bool} {finding : Finding}
    (grave : finding.severity = .error) :
    Harmless (reportIf condition finding) ↔ condition = false := by
  cases condition <;> simp [reportIf, grave]

/-- What is an error of each element asks that there is none. -/
theorem harmless_map_iff {α : Type} (elements : List α) {report : α → Finding}
    (grave : ∀ element, (report element).severity = .error) :
    Harmless (elements.map report) ↔ elements = [] := by
  cases elements with
  | nil => simp
  | cons first rest => simp [grave]

/-- Nothing is asked for by a rule whose breach is only warned of. -/
theorem harmless_reportIf {condition : Bool} {finding : Finding}
    (mild : finding.severity ≠ .error) : Harmless (reportIf condition finding) := by
  cases condition <;> simp [reportIf, mild]

end Harmless

variable (flow : Flow)

/-- A workflow without nodes is in error. -/
theorem harmless_checkContents_iff : Harmless (checkContents flow) ↔ flow.nodes ≠ [] := by
  have edges : Harmless (reportIf flow.edges.isEmpty
      (.warning ("workflow " ++ named flow.name ++ " should contain at least one edge"))) :=
    harmless_reportIf nofun
  have begins : Harmless (reportIf (!flow.nodes.isEmpty && !flow.nodes.any (·.kind = .start))
      (.warning ("workflow " ++ named flow.name ++ " has no begin node"))) :=
    harmless_reportIf nofun
  rw [checkContents, harmless_append_iff, harmless_append_iff, harmless_reportIf_iff rfl,
    and_iff_left begins, and_iff_left edges, List.isEmpty_eq_false_iff]

/-- Nothing is repeated if the names are distinct and none was seen before. -/
theorem repetitions_eq_nil_iff (seen names : List String) :
    repetitions seen names = [] ↔ names.Nodup ∧ ∀ name ∈ names, name ∉ seen := by
  induction names generalizing seen with
  | nil => simp [repetitions]
  | cons name rest inductionHypothesis =>
    rw [repetitions]
    split
    · next known => simp [known]
    · next fresh =>
      rw [inductionHypothesis, List.nodup_cons, List.forall_mem_cons]
      constructor
      · rintro ⟨distinct, unseen⟩
        refine ⟨⟨fun again => ?_, distinct⟩, fresh, fun other member => ?_⟩
        · exact unseen name again List.mem_cons_self
        · exact fun known => unseen other member (List.mem_cons_of_mem name known)
      · rintro ⟨⟨once, distinct⟩, -, unseen⟩
        refine ⟨distinct, fun other member known => ?_⟩
        rcases List.mem_cons.mp known with rfl | before
        · exact once member
        · exact unseen other member before

/-- So is one in which an id is used twice. -/
theorem harmless_checkIds_iff : Harmless (checkIds flow) ↔ flow.ids.Nodup := by
  rw [checkIds, harmless_map_iff _ fun _ => rfl, repetitions_eq_nil_iff]
  exact and_iff_left fun _ _ => List.not_mem_nil

theorem isNone_node?_iff (id : String) : (flow.node? id).isNone = true ↔ id ∉ flow.nodeIds := by
  rw [← Flow.isSome_node?_iff, Option.isNone_iff_eq_none, Option.not_isSome_iff_eq_none]

/-- So is an edge from or to a node that is not there. -/
theorem harmless_checkEdge_iff (edge : Edge) :
    Harmless (checkEdge flow edge) ↔ edge.source ∈ flow.nodeIds ∧ edge.target ∈ flow.nodeIds := by
  have itself : Harmless (reportIf (edge.source = edge.target)
      ((Finding.warning ("edge " ++ named edge.id ++ " connects a node to itself")).on edge.id)) :=
    harmless_reportIf nofun
  rw [checkEdge, harmless_append_iff, and_iff_left itself, harmless_map_iff _ fun _ => rfl,
    List.filter_eq_nil_iff]
  simp only [isNone_node?_iff, not_not, List.forall_mem_cons, List.not_mem_nil, false_implies,
    implies_true, and_true]

/-- Edges are counted only to tell whether there are any. -/
theorem none_counted_iff (meets : Edge → Bool) :
    decide (0 < (flow.edges.filter meets).length) = false ↔
      ∀ edge ∈ flow.edges, ¬meets edge = true := by
  rw [decide_eq_false_iff_not, List.length_pos_iff, not_not, List.filter_eq_nil_iff]

/-- Of the rules that depend on the kind of a node only two are about errors. -/
theorem harmless_checkNode_iff (node : Node) :
    Harmless (checkNode flow node) ↔
      (node.kind = .start → ∀ edge ∈ flow.edges, edge.target ≠ node.id) ∧
        (node.kind = .finish → ∀ edge ∈ flow.edges, edge.source ≠ node.id) := by
  unfold checkNode
  cases node.kind with
  | start =>
    rw [harmless_reportIf_iff rfl, Flow.incoming, none_counted_iff]
    simp only [decide_eq_true_eq, forall_const, reduceCtorEq, false_implies, and_true, ne_eq]
  | finish =>
    rw [harmless_reportIf_iff rfl, Flow.outgoing, none_counted_iff]
    simp only [decide_eq_true_eq, forall_const, reduceCtorEq, false_implies, true_and, ne_eq]
  | decision | decisionTable | api | subprocess =>
    exact iff_of_true (harmless_reportIf nofun) ⟨nofun, nofun⟩
  | exception | process | concurrent | auto => exact iff_of_true harmless_nil ⟨nofun, nofun⟩

/-- Members of lanes pass if they are nodes, and none of them was placed before or occurs
among them twice. -/
theorem harmless_checkPlacements_iff (placed : List String) (members : List (Lane × String)) :
    Harmless (checkPlacements flow placed members) ↔
      (∀ member ∈ members, member.2 ∈ flow.nodeIds) ∧ (members.map (·.2)).Nodup ∧
        ∀ member ∈ members, member.2 ∉ placed := by
  induction members generalizing placed with
  | nil => simp [checkPlacements]
  | cons member rest inductionHypothesis =>
    obtain ⟨lane, name⟩ := member
    rw [checkPlacements, List.forall_mem_cons, List.forall_mem_cons, List.map_cons,
      List.nodup_cons]
    split
    · next unknown =>
      refine iff_of_false ?_ fun passes => (isNone_node?_iff flow name).mp unknown passes.1.1
      exact fun harmless => ((harmless_cons_iff _ _).mp harmless).1 rfl
    · next found =>
      have known : name ∈ flow.nodeIds :=
        not_not.mp fun unknown => found ((isNone_node?_iff flow name).mpr unknown)
      split
      · next before =>
        refine iff_of_false ?_ fun passes => passes.2.2.1 before
        exact fun harmless => ((harmless_cons_iff _ _).mp harmless).1 rfl
      · next fresh =>
        rw [inductionHypothesis]
        constructor
        · rintro ⟨knownRest, distinct, unplaced⟩
          refine ⟨⟨known, knownRest⟩, ⟨fun again => ?_, distinct⟩, fresh, ?_⟩
          · obtain ⟨other, member, same⟩ := List.mem_map.mp again
            exact unplaced other member (same ▸ List.mem_cons_self)
          · exact fun other member inPlaced =>
              unplaced other member (List.mem_cons_of_mem name inPlaced)
        · rintro ⟨⟨-, knownRest⟩, ⟨once, distinct⟩, -, unplaced⟩
          refine ⟨knownRest, distinct, fun other member inPlaced => ?_⟩
          rcases List.mem_cons.mp inPlaced with same | inPlaced
          · exact once (List.mem_map.mpr ⟨other, member, same⟩)
          · exact unplaced other member inPlaced

/-- A lane has a member for each name in its list. -/
theorem mem_memberships_iff {lane : Lane} {name : String} :
    (lane, name) ∈ memberships flow ↔ lane ∈ flow.lanes ∧ name ∈ lane.nodes := by
  simp [memberships]

/-- The members of all lanes in order. -/
theorem map_memberships : (memberships flow).map (·.2) = flow.lanes.flatMap (·.nodes) := by
  simp only [memberships, List.map_flatMap, List.map_map, Function.comp_def, List.map_id']

/-- The passes taken together. -/
theorem harmless_checkFlow_iff : Harmless (checkFlow flow) ↔ flow.Faultless := by
  have placements : Harmless (checkPlacements flow [] (memberships flow)) ↔
      (∀ lane ∈ flow.lanes, ∀ member ∈ lane.nodes, member ∈ flow.nodeIds) ∧
        (flow.lanes.flatMap (·.nodes)).Nodup := by
    rw [harmless_checkPlacements_iff, map_memberships]
    constructor
    · rintro ⟨known, distinct, -⟩
      refine ⟨fun lane present member inLane => ?_, distinct⟩
      exact known (lane, member) ((mem_memberships_iff flow).mpr ⟨present, inLane⟩)
    · rintro ⟨known, distinct⟩
      refine ⟨fun ⟨lane, member⟩ placed => ?_, distinct, fun _ _ => List.not_mem_nil⟩
      obtain ⟨present, inLane⟩ := (mem_memberships_iff flow).mp placed
      exact known lane present member inLane
  simp only [checkFlow, harmless_append_iff, harmless_checkContents_iff, harmless_checkIds_iff,
    harmless_flatMap_iff, harmless_checkEdge_iff, harmless_checkNode_iff, placements]
  constructor
  · rintro ⟨⟨⟨⟨filled, distinct⟩, edges⟩, kinds⟩, lanes, placedOnce⟩
    exact ⟨filled, ⟨distinct, edges, lanes⟩, fun node member => (kinds node member).1,
      fun node member => (kinds node member).2, placedOnce⟩
  · rintro ⟨filled, ⟨distinct, edges, lanes⟩, beginnings, ends, placedOnce⟩
    exact ⟨⟨⟨⟨filled, distinct⟩, edges⟩, fun node member =>
      ⟨beginnings node member, ends node member⟩⟩, lanes, placedOnce⟩

/-- The checks find no error in a document exactly if it has a workflow, and the workflow has
at least one node, ids that are pairwise distinct over all elements, edges from node to
node of which none leads into a beginning or out of an end, and lanes whose members are
nodes, each in one place only.

Proof: the report is a list of the reports of single rules, so it has no error exactly if none of
them has. Each rule is matched with the clause of the property that it checks. -/
theorem harmless_check_iff (document : Document) :
    Harmless (check document) ↔ ∃ flow, document.flow = some flow ∧ flow.Faultless := by
  unfold check
  cases document.flow with
  | none =>
    refine iff_of_false ?_ nofun
    exact fun harmless => ((harmless_cons_iff _ _).mp harmless).1 rfl
  | some flow =>
    rw [harmless_checkFlow_iff]
    constructor
    · exact fun faultless => ⟨flow, rfl, faultless⟩
    · rintro ⟨other, same, faultless⟩
      exact Option.some.inj same ▸ faultless

end Flowdesk.Workflow
