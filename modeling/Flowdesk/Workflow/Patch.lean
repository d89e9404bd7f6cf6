import Flowdesk.Workflow.Failure
import Flowdesk.Workflow.Record

/-!
# Graphical edits

A patch names one element and says what becomes of it. Applying it gives an edited
workflow or the reason why it cannot be applied; a workflow is never edited in
part. New elements need a free id, edges need nodes at both ends, and a lane takes
its members away from the other lanes. Deleting a node takes its edges and its
place in the lanes with it.
-/

namespace Flowdesk.Workflow

open Data

/-- One graphical edit (`ModelPatch`). -/
inductive Patch where
  | moveNode (id : String) (position : Position)
  | changeBounds (id : String) (position : Position) (size : Size)
  /-- The new node may be placed in a lane at once. -/
  | createNode (node : Node) (lane : Option String)
  | createEdge (edge : Edge)
  | createLane (lane : Lane)
  | delete (id : String)
  | rename (id : String) (label : String)
  /-- Without a lane the node is taken out of every lane. -/
  | assignLane (node : String) (lane : Option String)
  deriving BEq, Repr

/-- The first element that satisfies a condition, changed. -/
def changeFirst {α : Type} (condition : α → Bool) (change : α → α) : List α → List α
  | [] => []
  | first :: rest =>
      if condition first then change first :: rest else first :: changeFirst condition change rest

namespace Flow

/-- The workflow with its first node of an id changed. -/
def changeNode (flow : Flow) (id : String) (change : Node → Node) : Except PatchFailure Flow :=
  if (flow.node? id).isSome then
    .ok { flow with nodes := changeFirst (·.id = id) change flow.nodes }
  else .error (.unknownElement id)

/-- The workflow with its first lane of an id changed. -/
def changeLane (flow : Flow) (id : String) (change : Lane → Lane) : Except PatchFailure Flow :=
  if (flow.lane? id).isSome then
    .ok { flow with lanes := changeFirst (·.id = id) change flow.lanes }
  else .error (.unknownElement id)

/-- The workflow with a node at the end of a lane. -/
def place (flow : Flow) (node lane : String) : Except PatchFailure Flow :=
  flow.changeLane lane fun lane => { lane with nodes := lane.nodes ++ [node] }

/-- The workflow with a node taken out of every lane. -/
def unplace (flow : Flow) (node : String) : Flow :=
  { flow with lanes := flow.lanes.map fun lane =>
      { lane with nodes := lane.nodes.filter (· ≠ node) } }

/-- An id that a new element may use. -/
def requireFree (flow : Flow) (id : String) : Except PatchFailure Unit :=
  if flow.hasId id then .error (.duplicateId id) else .ok ()

/-- A node that must exist. -/
def requireNode (flow : Flow) (id : String) : Except PatchFailure Unit :=
  if (flow.node? id).isSome then .ok () else .error (.unknownElement id)

/-- The workflow without the element of an id. -/
def delete (flow : Flow) (id : String) : Except PatchFailure Flow :=
  if (flow.node? id).isSome then
    .ok (({ flow with
      nodes := flow.nodes.eraseP (·.id = id)
      edges := flow.edges.filter fun edge => edge.source ≠ id ∧ edge.target ≠ id } : Flow).unplace id)
  else if (flow.edge? id).isSome then
    .ok { flow with edges := flow.edges.eraseP (·.id = id) }
  else if (flow.lane? id).isSome then
    .ok { flow with lanes := flow.lanes.eraseP (·.id = id) }
  else .error (.unknownElement id)

/-- The workflow with another label on the element of an id. The label of a lane is
its name. -/
def rename (flow : Flow) (id label : String) : Except PatchFailure Flow :=
  if (flow.node? id).isSome then
    .ok { flow with
      nodes := changeFirst (·.id = id) (fun node => { node with label := some label }) flow.nodes }
  else if (flow.edge? id).isSome then
    .ok { flow with
      edges := changeFirst (·.id = id) (fun edge => { edge with label := some label }) flow.edges }
  else if (flow.lane? id).isSome then
    .ok { flow with
      lanes := changeFirst (·.id = id) (fun lane => { lane with name := label }) flow.lanes }
  else .error (.unknownElement id)

end Flow

namespace Patch

/-- The workflow after an edit. -/
def apply (flow : Flow) : Patch → Except PatchFailure Flow
  | .moveNode id position => flow.changeNode id fun node => { node with position := some position }
  | .changeBounds id position size =>
      flow.changeNode id fun node => { node with position := some position, size := some size }
  | .createNode node lane => do
      flow.requireFree node.id
      let placed ←
        match lane with
        | some lane => flow.place node.id lane
        | none => .ok flow
      return { placed with nodes := placed.nodes ++ [node] }
  | .createEdge edge => do
      flow.requireFree edge.id
      flow.requireNode edge.source
      flow.requireNode edge.target
      return { flow with edges := flow.edges ++ [edge] }
  | .createLane lane => do
      flow.requireFree lane.id
      lane.nodes.forM flow.requireNode
      let cleared := lane.nodes.foldl Flow.unplace flow
      return { cleared with lanes := cleared.lanes ++ [lane] }
  | .delete id => flow.delete id
  | .rename id label => flow.rename id label
  | .assignLane node lane => do
      flow.requireNode node
      match lane with
      | none => return flow.unplace node
      | some lane =>
          if (flow.lane? lane).isNone then throw (.unknownElement lane)
          (flow.unplace node).place node lane

/-- The id of the element that an edit is about. -/
def target : Patch → String
  | .moveNode id _ | .changeBounds id _ _ | .delete id | .rename id _ => id
  | .createNode node _ => node.id
  | .createEdge edge => edge.id
  | .createLane lane => lane.id
  | .assignLane node _ => node

/-- The names of the edits, in order. -/
def names : List String :=
  ["moveNode", "changeBounds", "createNode", "createEdge", "createSwimlane", "deleteElement",
    "renameElement", "assignLane"]

/-- Read what comes with the name of an edit. -/
def readBody (name : String) (shape : Shape Held) : Reading Patch :=
  match name with
  | "moveNode" =>
      (((Rec.required "id" Source.text).both <|
        Rec.required "position" Position.fields.read).map
        fun (id, position) => moveNode id position).ofShape shape
  | "changeBounds" =>
      (((Rec.required "id" Source.text).both <|
        (Rec.required "position" Position.fields.read).both <|
        Rec.required "size" Size.fields.read).map
        fun (id, position, size) => changeBounds id position size).ofShape shape
  | "createNode" =>
      (((Rec.required "node" Node.fields.read).both <| Rec.maybe "lane" Source.text).map
        fun (node, lane) => createNode node lane).ofShape shape
  | "createEdge" => ((Rec.required "edge" Edge.fields.read).map createEdge).ofShape shape
  | "createSwimlane" => ((Rec.required "swimlane" Lane.fields.read).map createLane).ofShape shape
  | "deleteElement" => ((Rec.required "id" Source.text).map delete).ofShape shape
  | "renameElement" =>
      (((Rec.required "id" Source.text).both <| Rec.required "label" Source.text).map
        fun (id, label) => rename id label).ofShape shape
  | "assignLane" =>
      (((Rec.required "nodeId" Source.text).both <| Rec.maybe "laneId" Source.text).map
        fun (node, lane) => assignLane node lane).ofShape shape
  | _ => refuse (.unknownVariant name)

/-- Read an edit. -/
def read {ν : Type} [Tagged ν] (value : ν) : Reading Patch := do
  let (name, shape) ← Untagged.read "op" names value
  readBody name shape

/-- Write an edit. -/
def toJson : Patch → Json
  | .moveNode id position =>
      .object [("op", .text "moveNode"), ("id", .text id), ("position", position.toJson)]
  | .changeBounds id position size =>
      .object [("op", .text "changeBounds"), ("id", .text id), ("position", position.toJson),
        ("size", size.toJson)]
  | .createNode node lane =>
      .object [("op", .text "createNode"), ("node", node.toJson), ("lane", Json.orNull .text lane)]
  | .createEdge edge => .object [("op", .text "createEdge"), ("edge", edge.toJson)]
  | .createLane lane => .object [("op", .text "createSwimlane"), ("swimlane", lane.toJson)]
  | .delete id => .object [("op", .text "deleteElement"), ("id", .text id)]
  | .rename id label =>
      .object [("op", .text "renameElement"), ("id", .text id), ("label", .text label)]
  | .assignLane node lane =>
      .object [("op", .text "assignLane"), ("nodeId", .text node),
        ("laneId", Json.orNull .text lane)]

end Patch

namespace Document

/-- The document after an edit of its workflow. -/
def edit (document : Document) (patch : Patch) : Except PatchFailure Document := do
  match document.flow with
  | none => throw .noWorkflow
  | some flow => return ⟨some (← patch.apply flow)⟩

end Document

end Flowdesk.Workflow
