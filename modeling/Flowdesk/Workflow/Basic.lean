import Flowdesk.Data.Dictionary

/-!
# Workflows

A workflow has nodes, edges between them, and swimlanes that gather nodes. Each of
these elements has an id. Nothing here demands that ids be distinct or that edges
end in nodes: a text may say otherwise, and the checks report it. Looking an id up
therefore means looking for the first element that carries it.
-/

namespace Flowdesk.Workflow

open Data

/-- What a node does. -/
inductive NodeKind where
  | start
  | finish
  | exception
  | process
  | decision
  | decisionTable
  | subprocess
  | concurrent
  | auto
  | api
  deriving DecidableEq, Repr

namespace NodeKind

/-- The name of a kind. -/
def name : NodeKind → String
  | .start => "begin"
  | .finish => "end"
  | .exception => "exception"
  | .process => "process"
  | .decision => "decision"
  | .decisionTable => "decision-table"
  | .subprocess => "subprocess"
  | .concurrent => "concurrent"
  | .auto => "auto"
  | .api => "api"

/-- All kinds, in order. -/
def all : List NodeKind :=
  [.start, .finish, .exception, .process, .decision, .decisionTable, .subprocess, .concurrent,
    .auto, .api]

/-- The kind of a name. -/
def ofName? (written : String) : Option NodeKind := all.find? (·.name = written)

/-- A kind is found by its name. -/
theorem ofName?_name (kind : NodeKind) : ofName? kind.name = some kind := by
  cases kind <;> decide

end NodeKind

/-- Where an element is drawn. -/
structure Position where
  x : Float
  y : Float
  deriving BEq, Repr

/-- How large an element is drawn. -/
structure Size where
  width : Float
  height : Float
  deriving BEq, Repr

/-- A step of a workflow. -/
structure Node where
  id : String
  kind : NodeKind
  label : Option String
  position : Option Position
  size : Option Size
  /-- Settings that belong to the kind, such as a condition or an endpoint. -/
  properties : Dictionary
  deriving BEq, Repr

/-- The label shown to users: the id, when there is no other. -/
def Node.shownLabel (node : Node) : String := node.label.getD node.id

/-- A connection from one node to another. -/
structure Edge where
  id : String
  source : String
  target : String
  label : Option String
  deriving DecidableEq, Repr

/-- A group of nodes (`Swimlane`). -/
structure Lane where
  id : String
  name : String
  /-- The ids of the nodes placed in it. -/
  nodes : List String
  deriving DecidableEq, Repr

/-- The workflow of a document (`Workflow`). -/
structure Flow where
  name : String
  description : Option String
  nodes : List Node
  edges : List Edge
  lanes : List Lane
  deriving BEq, Repr

namespace Flow

/-- The first node of an id. -/
def node? (flow : Flow) (id : String) : Option Node := flow.nodes.find? (·.id = id)

/-- The first edge of an id. -/
def edge? (flow : Flow) (id : String) : Option Edge := flow.edges.find? (·.id = id)

/-- The first lane of an id. -/
def lane? (flow : Flow) (id : String) : Option Lane := flow.lanes.find? (·.id = id)

/-- The edges that leave a node. -/
def outgoing (flow : Flow) (id : String) : List Edge := flow.edges.filter (·.source = id)

/-- The edges that reach a node. -/
def incoming (flow : Flow) (id : String) : List Edge := flow.edges.filter (·.target = id)

/-- The first lane that a node is placed in. -/
def laneOf? (flow : Flow) (id : String) : Option Lane := flow.lanes.find? (id ∈ ·.nodes)

/-- The ids of all elements: nodes, then edges, then lanes. -/
def ids (flow : Flow) : List String :=
  flow.nodes.map (·.id) ++ flow.edges.map (·.id) ++ flow.lanes.map (·.id)

/-- Whether an id is in use. -/
def hasId (flow : Flow) (id : String) : Bool :=
  (flow.node? id).isSome || (flow.edge? id).isSome || (flow.lane? id).isSome

/-- An id is in use exactly when it is listed. -/
theorem hasId_iff (flow : Flow) (id : String) : flow.hasId id = true ↔ id ∈ flow.ids := by
  simp [hasId, node?, edge?, lane?, ids, List.find?_isSome, or_assoc]

end Flow

/-- A document: a workflow, or nothing (`WorkflowDocument`). -/
structure Document where
  flow : Option Flow
  deriving BEq, Repr

/-- The document without a workflow. -/
def Document.empty : Document := ⟨none⟩

instance : Inhabited Document := ⟨.empty⟩

end Flowdesk.Workflow
