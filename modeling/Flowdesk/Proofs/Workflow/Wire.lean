import Flowdesk.Proofs.Json.Reading
import Flowdesk.Proofs.Workflow.RoundTrip
import Flowdesk.Workflow.Patch

/-!
# Workflows and edits are read as they were written

The elements of a workflow are written as objects without the members that would be empty,
and an edit as an object whose first member names it. Each is read as the value it came
from; only of the coordinates it is asked that the text of each names it.
-/

namespace Flowdesk.Workflow

open Data Json

/-- The coordinates that come with an edit. -/
def Patch.coordinates : Patch → List Float
  | .moveNode _ position => [position.x, position.y]
  | .changeBounds _ position size => [position.x, position.y, size.width, size.height]
  | .createNode node _ => node.coordinates
  | .createEdge _ | .createLane _ | .delete _ | .rename _ _ | .assignLane _ _ => []

section Reads

variable {ν : Type} [Source ν] {view : Json → ν} (views : Views view)

include views

theorem Position.read_toJson (position : Position) :
    Position.fields.read (view position.toJson) = pure position := by
  have reads := (reads_member "x" .refused (views.number position.x)).both
    (reads_member "y" .refused (views.number position.y)) (by decide)
  exact views.read_record (reads.map _) rfl

theorem Size.read_toJson (size : Size) :
    Size.fields.read (view size.toJson) = pure size := by
  have reads := (reads_member "width" .refused (views.number size.width)).both
    (reads_member "height" .refused (views.number size.height)) (by decide)
  exact views.read_record (reads.map _) rfl

/-- The properties of a node are read in the order in which they were written. -/
theorem readDictionary_dictionaryJson (dictionary : Dictionary) :
    readDictionary (view (dictionaryJson dictionary)) = pure dictionary := by
  refine readDictionary_of_shape views.text ?_
  rw [dictionaryJson, views.shape, List.map_map]
  rfl

/-- A node is read with what it has, and without what it lacks. -/
theorem Node.read_toJson (node : Node) :
    Node.fields.read (view node.toJson) = pure node := by
  have kind : oneOf NodeKind.ofName? (view (.text node.kind.name)) = pure node.kind :=
    views.read_oneOf (NodeKind.ofName?_name node.kind)
  have position := views.reads_given "position" node.position fun position _ =>
    ⟨rfl, Position.read_toJson views position⟩
  have size := views.reads_given "size" node.size fun size _ =>
    ⟨rfl, Size.read_toJson views size⟩
  have properties := reads_usual "properties"
    (readDictionary_dictionaryJson views node.properties) eq_empty_of_isEmpty
  have reads := (reads_member "id" .refused (views.text node.id)).both
    ((reads_member "type" .refused kind).both
      ((views.reads_given_text "label" node.label).both
        (position.both (size.both properties (by decide)) (by decide)) (by decide))
      (by decide)) (by decide)
  refine views.read_record (reads.map _) ?_
  simp only [List.map_append, List.append_assoc, List.map_cons, List.map_nil, List.cons_append,
    List.nil_append]

theorem Edge.read_toJson (edge : Edge) :
    Edge.fields.read (view edge.toJson) = pure edge := by
  have reads := (reads_member "id" .refused (views.text edge.id)).both
    ((reads_member "source" .refused (views.text edge.source)).both
      ((reads_member "target" .refused (views.text edge.target)).both
        (views.reads_given_text "label" edge.label) (by decide))
      (by decide)) (by decide)
  exact views.read_record (reads.map _) rfl

theorem Lane.read_toJson (lane : Lane) :
    Lane.fields.read (view lane.toJson) = pure lane := by
  have reads := (reads_member "id" .refused (views.text lane.id)).both
    ((reads_member "name" .refused (views.text lane.name)).both
      (reads_member "nodes" (.assumed []) (views.read_texts lane.nodes)) (by decide)) (by decide)
  exact views.read_record (reads.map _) rfl

/-- A workflow is read element by element. -/
theorem Flow.read_toJson (flow : Flow) :
    Flow.fields.read (view flow.toJson) = pure flow := by
  have nodes : listOf Node.fields.read (view (.list (flow.nodes.map Node.toJson))) =
      pure flow.nodes := views.read_listOf fun node _ => Node.read_toJson views node
  have edges : listOf Edge.fields.read (view (.list (flow.edges.map Edge.toJson))) =
      pure flow.edges := views.read_listOf fun edge _ => Edge.read_toJson views edge
  have lanes : listOf Lane.fields.read (view (.list (flow.lanes.map Lane.toJson))) =
      pure flow.lanes := views.read_listOf fun lane _ => Lane.read_toJson views lane
  have swimlanes := reads_usual "swimlanes" lanes fun empty => List.isEmpty_iff.mp empty
  have reads := (reads_member "name" .refused (views.text flow.name)).both
    ((views.reads_given_text "description" flow.description).both
      ((reads_member "nodes" (.assumed []) nodes).both
        ((reads_member "edges" (.assumed []) edges).both swimlanes (by decide))
        (by decide)) (by decide)) (by decide)
  refine views.read_record (reads.map _) ?_
  simp only [List.map_append, List.append_assoc, List.map_cons, List.map_nil, List.cons_append,
    List.nil_append]

/-- A document may have no workflow. -/
theorem Document.read_toJson (document : Document) :
    Document.fields.read (view document.toJson) = pure document := by
  have flow := views.reads_given "workflow" document.flow fun flow _ =>
    ⟨rfl, Flow.read_toJson views flow⟩
  exact views.read_record (flow.map _) rfl

end Reads

section Texts

variable (depth : Nat)

theorem Position.faithful_toJson {position : Position}
    (printed : ∀ x ∈ [position.x, position.y], Prints x) :
    Faithful (depth + 1) position.toJson := by
  have across := Faithful.real depth _ (printed position.x (by simp))
  have down := Faithful.real depth _ (printed position.y (by simp))
  simp [Position.toJson, across, down]

theorem Size.faithful_toJson {size : Size}
    (printed : ∀ x ∈ [size.width, size.height], Prints x) :
    Faithful (depth + 1) size.toJson := by
  have width := Faithful.real depth _ (printed size.width (by simp))
  have height := Faithful.real depth _ (printed size.height (by simp))
  simp [Size.toJson, width, height]

/-- The properties of a node are texts. -/
theorem faithful_dictionaryJson (dictionary : Dictionary) :
    Faithful (depth + 1) (dictionaryJson dictionary) := by
  refine .object depth _ fun member listed => ?_
  obtain ⟨entry, -, rfl⟩ := List.mem_map.mp listed
  exact .text depth entry.2

/-- A node is faithful if the texts of its coordinates name them, which are all the numbers in it.
-/
theorem Node.faithful_toJson {node : Node} (printed : ∀ x ∈ node.coordinates, Prints x) :
    Faithful (depth + 2) node.toJson := by
  have position : FaithfulMembers (depth + 1)
      (Json.given "position" Position.toJson node.position) := by
    refine faithfulMembers_given "position" fun position same => ?_
    refine Position.faithful_toJson depth fun x member => printed x (List.mem_append_left _ ?_)
    simpa [same] using member
  have size : FaithfulMembers (depth + 1) (Json.given "size" Size.toJson node.size) := by
    refine faithfulMembers_given "size" fun size same => ?_
    refine Size.faithful_toJson depth fun x member => printed x (List.mem_append_right _ ?_)
    simpa [same] using member
  have properties : FaithfulMembers (depth + 1) (if node.properties.isEmpty then []
      else [("properties", dictionaryJson node.properties)]) := by
    split
    · exact faithfulMembers_nil _
    · simp [faithful_dictionaryJson]
  simp [Node.toJson, position, size, properties]

theorem Edge.faithful_toJson (edge : Edge) : Faithful (depth + 1) edge.toJson := by
  simp [Edge.toJson]

theorem Lane.faithful_toJson (lane : Lane) : Faithful (depth + 2) lane.toJson := by
  simp [Lane.toJson]

/-- The elements of a workflow stand three levels deep. -/
theorem Flow.faithful_toJson {flow : Flow}
    (printed : ∀ x ∈ flow.nodes.flatMap Node.coordinates, Prints x) :
    Faithful (depth + 4) flow.toJson := by
  have nodes : Faithful (depth + 3) (.list (flow.nodes.map Node.toJson)) :=
    faithful_list fun node member => Node.faithful_toJson depth fun x inNode =>
      printed x (List.mem_flatMap.mpr ⟨node, member, inNode⟩)
  have edges : Faithful (depth + 3) (.list (flow.edges.map Edge.toJson)) :=
    faithful_list fun edge _ => Edge.faithful_toJson (depth + 1) edge
  have lanes : FaithfulMembers (depth + 3) (if flow.lanes.isEmpty then []
      else [("swimlanes", .list (flow.lanes.map Lane.toJson))]) := by
    split
    · exact faithfulMembers_nil _
    · exact List.forall_mem_singleton.mpr
        (faithful_list fun lane _ => Lane.faithful_toJson depth lane)
  simpa [Flow.toJson, nodes, edges] using lanes

theorem Document.faithful_toJson {document : Document}
    (printed : ∀ x ∈ document.coordinates, Prints x) :
    Faithful (depth + 5) document.toJson := by
  refine (faithful_object_iff _).mpr (faithfulMembers_given "workflow" fun flow same => ?_)
  refine Flow.faithful_toJson depth fun x member => printed x ?_
  simpa [Document.coordinates, same] using member

end Texts

namespace Patch

/-- An edit holds at most one element. -/
theorem faithful_toJson (depth : Nat) {patch : Patch}
    (printed : ∀ x ∈ patch.coordinates, Prints x) : Faithful (depth + 3) patch.toJson := by
  cases patch with
  | moveNode id position =>
    have moved := Position.faithful_toJson (depth + 1) printed
    simp [toJson, moved]
  | changeBounds id position size =>
    have moved : Faithful (depth + 2) position.toJson :=
      Position.faithful_toJson (depth + 1) fun x member => printed x (List.mem_append_left _ member)
    have sized : Faithful (depth + 2) size.toJson :=
      Size.faithful_toJson (depth + 1) fun x member =>
        printed x (List.mem_append_right [position.x, position.y] member)
    simp [toJson, moved, sized]
  | createNode node lane =>
    have created := Node.faithful_toJson depth printed
    simp [toJson, created]
  | createEdge edge => simp [toJson, Edge.faithful_toJson]
  | createLane lane => simp [toJson, Lane.faithful_toJson]
  | delete id => simp [toJson]
  | rename id label => simp [toJson]
  | assignLane node lane => simp [toJson]

section Read

variable {ν : Type} [Tagged ν] {view : Json → ν} (unites : Unites view)

include unites

/-- An edit is read where the members after its tag are those of its fields. -/
theorem read_of_reads {depth : Nat} {tag : String} {members : List (String × Json)}
    {fields : Rec Held Patch} {known : List String} {entries : List (String × Held)}
    {patch : Patch} (faithful : Faithful (depth + 1) (.object (("op", .text tag) :: members)))
    (reads : fields.Reads known entries patch)
    (same : members.map (fun member => (member.1, Held.mk member.2)) = entries)
    (offered : tag ∈ names) (apart : "op" ∉ known)
    (body : ∀ shape, readBody tag shape = fields.ofShape shape) :
    read (view (.object (("op", .text tag) :: members))) = pure patch := by
  subst same
  have whole : FaithfulMembers depth members :=
    ((faithfulMembers_cons _ _ _).mp ((faithful_object_iff _).mp faithful)).2
  have tagless : ∀ member ∈ members, member.1 ≠ "op" := by
    intro member listed same
    refine apart ?_
    rw [← same]
    exact reads.within _ (List.mem_map_of_mem listed)
  have shape := reads.ofShape
  rw [List.map_map] at shape
  rw [read, unites.read_tagged offered tagless whole, pure_bind]
  exact (body _).trans shape

/-- An edit is read as it was written. -/
theorem read_toJson {patch : Patch} (printed : ∀ x ∈ patch.coordinates, Prints x) :
    read (view patch.toJson) = pure patch := by
  have faithful := faithful_toJson 0 printed
  cases patch with
  | moveNode id position =>
    have reads := (reads_member "id" .refused (views_held.text id)).both
      (reads_member "position" .refused (Position.read_toJson views_held position)) (by decide)
    exact read_of_reads unites faithful (reads.map _) rfl (by decide) (by decide) fun _ => rfl
  | changeBounds id position size =>
    have reads := (reads_member "id" .refused (views_held.text id)).both
      ((reads_member "position" .refused (Position.read_toJson views_held position)).both
        (reads_member "size" .refused (Size.read_toJson views_held size)) (by decide)) (by decide)
    exact read_of_reads unites faithful (reads.map _) rfl (by decide) (by decide) fun _ => rfl
  | createNode node lane =>
    have reads := (reads_member "node" .refused (Node.read_toJson views_held node)).both
      (reads_member "lane" (.assumed none) (views_held.read_orNull_text lane)) (by decide)
    exact read_of_reads unites faithful (reads.map _) rfl (by decide) (by decide) fun _ => rfl
  | createEdge edge =>
    have reads := reads_member "edge" .refused (Edge.read_toJson views_held edge)
    exact read_of_reads unites faithful (reads.map _) rfl (by decide) (by decide) fun _ => rfl
  | createLane lane =>
    have reads := reads_member "swimlane" .refused (Lane.read_toJson views_held lane)
    exact read_of_reads unites faithful (reads.map _) rfl (by decide) (by decide) fun _ => rfl
  | delete id =>
    have reads := reads_member "id" .refused (views_held.text id)
    exact read_of_reads unites faithful (reads.map _) rfl (by decide) (by decide) fun _ => rfl
  | rename id label =>
    have reads := (reads_member "id" .refused (views_held.text id)).both
      (reads_member "label" .refused (views_held.text label)) (by decide)
    exact read_of_reads unites faithful (reads.map _) rfl (by decide) (by decide) fun _ => rfl
  | assignLane node lane =>
    have reads := (reads_member "nodeId" .refused (views_held.text node)).both
      (reads_member "laneId" (.assumed none) (views_held.read_orNull_text lane)) (by decide)
    exact read_of_reads unites faithful (reads.map _) rfl (by decide) (by decide) fun _ => rfl

end Read

end Patch

end Flowdesk.Workflow
