import Flowdesk.Data.Table
import Flowdesk.Workflow.Basic

/-!
# Looking up elements

An index answers which element an id names. Where an id is used more than once the
first node has it, or else the first edge, or else the first lane, so that an id
never names two things. The entries are filled in that order and none is replaced.
-/

namespace Flowdesk.Workflow

open Data

/-- The place of an element among those of its kind (`ElementRef`). -/
inductive Element where
  | node (place : Nat)
  | edge (place : Nat)
  | lane (place : Nat)
  deriving DecidableEq, Repr

/-- Elements by id, over one document (`ModelIndex`). -/
structure Index where
  root : Document
  elements : Table String Element

namespace Index

/-- The index without elements. -/
def empty : Index := ⟨.empty, .empty⟩

instance : Inhabited Index := ⟨empty⟩

/-- Enter an element unless its id is taken. -/
def enter (elements : Table String Element) (id : String) (element : Element) :
    Table String Element :=
  if elements.contains id then elements else elements.put id element

/-- Enter ids in order, with their places. -/
def enterAll (kind : Nat → Element) (place : Nat) (elements : Table String Element) :
    List String → Table String Element
  | [] => elements
  | id :: rest => enterAll kind (place + 1) (enter elements id (kind place)) rest

/-- The elements of a workflow by id. -/
def elementsOf (flow : Flow) : Table String Element :=
  enterAll .lane 0
    (enterAll .edge 0 (enterAll .node 0 .empty (flow.nodes.map (·.id))) (flow.edges.map (·.id)))
    (flow.lanes.map (·.id))

/-- The index of a document. -/
def of (document : Document) : Index :=
  ⟨document, (document.flow.map elementsOf).getD .empty⟩

/-- The element that an id names. -/
def get? (index : Index) (id : String) : Option Element := index.elements.get? id

/-- Whether an id names an element. -/
def contains (index : Index) (id : String) : Bool := index.elements.contains id

/-- How many ids name an element. -/
def size (index : Index) : Nat := index.elements.entries.length

/-- The node that an id names. -/
def node? (index : Index) (id : String) : Option Node :=
  match index.get? id, index.root.flow with
  | some (.node place), some flow => flow.nodes[place]?
  | _, _ => none

/-- The edge that an id names. -/
def edge? (index : Index) (id : String) : Option Edge :=
  match index.get? id, index.root.flow with
  | some (.edge place), some flow => flow.edges[place]?
  | _, _ => none

/-- The lane that an id names. -/
def lane? (index : Index) (id : String) : Option Lane :=
  match index.get? id, index.root.flow with
  | some (.lane place), some flow => flow.lanes[place]?
  | _, _ => none

end Index

end Flowdesk.Workflow
