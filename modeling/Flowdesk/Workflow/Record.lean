import Flowdesk.Json.Source
import Flowdesk.Workflow.Basic

/-!
# Workflows as records

The records of a document, for whatever data format it is written in, and their
form in JSON. What is empty or absent is left out where the record allows it; the
lists of nodes and edges are always written.
-/

namespace Flowdesk.Workflow

open Data

variable {ν : Type} [Source ν]

/-- The fields of a position. -/
def Position.fields : Rec ν Position :=
  ((Rec.required "x" Source.number).both <| Rec.required "y" Source.number).map
    fun (x, y) => { x, y }

/-- The fields of a size. -/
def Size.fields : Rec ν Size :=
  ((Rec.required "width" Source.number).both <| Rec.required "height" Source.number).map
    fun (width, height) => { width, height }

/-- Read texts under names. A record by position has no names. -/
def readDictionary (value : ν) : Reading Dictionary := do
  match ← Source.shape value with
  | .keyed entries =>
      entries.foldlM (fun dictionary (name, value) => do
        return dictionary.insert (← name) (← Source.text value)) Dictionary.empty
  | .positional _ => malformed

/-- The fields of a node. -/
def Node.fields : Rec ν Node :=
  ((Rec.required "id" Source.text).both <| (Rec.required "type" (oneOf NodeKind.ofName?)).both <|
    (Rec.maybe "label" Source.text).both <| (Rec.maybe "position" Position.fields.read).both <|
    (Rec.maybe "size" Size.fields.read).both <|
    Rec.assumed "properties" readDictionary Dictionary.empty).map
    fun (id, kind, label, position, size, properties) =>
      { id, kind, label, position, size, properties }

/-- The fields of an edge. -/
def Edge.fields : Rec ν Edge :=
  ((Rec.required "id" Source.text).both <| (Rec.required "source" Source.text).both <|
    (Rec.required "target" Source.text).both <| Rec.maybe "label" Source.text).map
    fun (id, source, target, label) => { id, source, target, label }

/-- The fields of a lane. -/
def Lane.fields : Rec ν Lane :=
  ((Rec.required "id" Source.text).both <| (Rec.required "name" Source.text).both <|
    Rec.assumed "nodes" (listOf Source.text) []).map
    fun (id, name, nodes) => { id, name, nodes }

/-- The fields of a workflow. -/
def Flow.fields : Rec ν Flow :=
  ((Rec.required "name" Source.text).both <| (Rec.maybe "description" Source.text).both <|
    (Rec.assumed "nodes" (listOf Node.fields.read) []).both <|
    (Rec.assumed "edges" (listOf Edge.fields.read) []).both <|
    Rec.assumed "swimlanes" (listOf Lane.fields.read) []).map
    fun (name, description, nodes, edges, lanes) => { name, description, nodes, edges, lanes }

/-- The fields of a document. -/
def Document.fields : Rec ν Document :=
  (Rec.maybe "workflow" Flow.fields.read).map fun flow => { flow }

/-- Write a position. -/
def Position.toJson (position : Position) : Json :=
  .object [("x", .real position.x), ("y", .real position.y)]

/-- Write a size. -/
def Size.toJson (size : Size) : Json :=
  .object [("width", .real size.width), ("height", .real size.height)]

/-- Write texts under names. -/
def dictionaryJson (dictionary : Dictionary) : Json :=
  .object (dictionary.entries.map fun (name, value) => (name, .text value))

/-- Write a node. -/
def Node.toJson (node : Node) : Json :=
  .object ([("id", .text node.id), ("type", .text node.kind.name)] ++
    Json.given "label" .text node.label ++ Json.given "position" Position.toJson node.position ++
    Json.given "size" Size.toJson node.size ++
    if node.properties.isEmpty then [] else [("properties", dictionaryJson node.properties)])

/-- Write an edge. -/
def Edge.toJson (edge : Edge) : Json :=
  .object ([("id", .text edge.id), ("source", .text edge.source), ("target", .text edge.target)] ++
    Json.given "label" .text edge.label)

/-- Write a lane. -/
def Lane.toJson (lane : Lane) : Json :=
  .object [("id", .text lane.id), ("name", .text lane.name), ("nodes", Json.texts lane.nodes)]

/-- Write a workflow. -/
def Flow.toJson (flow : Flow) : Json :=
  .object ([("name", .text flow.name)] ++ Json.given "description" .text flow.description ++
    [("nodes", .list (flow.nodes.map Node.toJson)), ("edges", .list (flow.edges.map Edge.toJson))] ++
    if flow.lanes.isEmpty then [] else [("swimlanes", .list (flow.lanes.map Lane.toJson))])

/-- Write a document. -/
def Document.toJson (document : Document) : Json :=
  .object (Json.given "workflow" Flow.toJson document.flow)

end Flowdesk.Workflow
