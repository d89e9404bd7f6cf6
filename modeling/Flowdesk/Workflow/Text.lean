import Flowdesk.Text.Blank
import Flowdesk.Workflow.Failure
import Flowdesk.Workflow.Record
import Flowdesk.Yaml.Compose
import Flowdesk.Yaml.Printer
import Flowdesk.Yaml.Source

/-!
# The text of a workflow

A document is written in YAML, as the record that its type describes. A text of
white space alone is the document without a workflow.
-/

namespace Flowdesk.Workflow

open Data

/-- Read the text of a document. -/
def Document.parse (text : String) : Except Fault Document :=
  if Text.isBlankText text then .ok .empty else (Yaml.read text).decode Document.fields.read

/-- The value of a text. -/
private def textValue (text : String) : Yaml.Value := .text text

/-- An entry that is left out when there is no value. -/
def entryOf {α : Type} (name : String) (write : α → Yaml.Value) :
    Option α → List (String × Yaml.Value)
  | some value => [(name, write value)]
  | none => []

/-- The value of a position. -/
def Position.toYaml (position : Position) : Yaml.Value :=
  .record [("x", .number position.x), ("y", .number position.y)]

/-- The value of a size. -/
def Size.toYaml (size : Size) : Yaml.Value :=
  .record [("width", .number size.width), ("height", .number size.height)]

/-- The value of a dictionary. -/
def dictionaryYaml (dictionary : Dictionary) : Yaml.Value :=
  .record (dictionary.entries.map fun (name, value) => (name, .text value))

/-- The value of a node. -/
def Node.toYaml (node : Node) : Yaml.Value :=
  .record ([("id", .text node.id), ("type", .text node.kind.name)] ++
    entryOf "label" textValue node.label ++ entryOf "position" Position.toYaml node.position ++
    entryOf "size" Size.toYaml node.size ++
    if node.properties.isEmpty then [] else [("properties", dictionaryYaml node.properties)])

/-- The value of an edge. -/
def Edge.toYaml (edge : Edge) : Yaml.Value :=
  .record ([("id", .text edge.id), ("source", .text edge.source), ("target", .text edge.target)] ++
    entryOf "label" textValue edge.label)

/-- The value of a lane. -/
def Lane.toYaml (lane : Lane) : Yaml.Value :=
  .record [("id", .text lane.id), ("name", .text lane.name),
    ("nodes", .list (lane.nodes.map textValue))]

/-- The value of a workflow. -/
def Flow.toYaml (flow : Flow) : Yaml.Value :=
  .record ([("name", .text flow.name)] ++ entryOf "description" textValue flow.description ++
    [("nodes", .list (flow.nodes.map Node.toYaml)), ("edges", .list (flow.edges.map Edge.toYaml))] ++
    if flow.lanes.isEmpty then [] else [("swimlanes", .list (flow.lanes.map Lane.toYaml))])

/-- Write the text of a document. -/
def Document.write (document : Document) : String :=
  Yaml.writeDocument (entryOf "workflow" Flow.toYaml document.flow)

end Flowdesk.Workflow
