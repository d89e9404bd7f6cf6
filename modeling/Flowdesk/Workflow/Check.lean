import Flowdesk.Workflow.Basic
import Flowdesk.Json.Source

/-!
# Checks

A workflow that could be read may still be wrong: ids repeat, edges or lanes name
nodes that do not exist, edges lead into the beginning or out of the end, or a node
is placed twice. Those findings are errors; a model with an error cannot be edited
graphically. Other findings only warn of something that looks unfinished.
-/

namespace Flowdesk.Workflow

open Data

/-- How grave a finding is. -/
inductive Severity where
  | error
  | warning
  | info
  deriving DecidableEq, Repr

namespace Severity

/-- The name of a severity. -/
def name : Severity → String
  | .error => "error"
  | .warning => "warning"
  | .info => "info"

/-- All severities, in order. -/
def all : List Severity := [.error, .warning, .info]

/-- The severity of a name. -/
def ofName? (written : String) : Option Severity := all.find? (·.name = written)

end Severity

/-- A remark about a document, or about one element of it (`Diagnostic`). -/
structure Finding where
  severity : Severity
  message : String
  element : Option String
  deriving DecidableEq, Repr

namespace Finding

/-- An error of the whole document. -/
def error (message : String) : Finding := ⟨.error, message, none⟩

/-- A warning about the whole document. -/
def warning (message : String) : Finding := ⟨.warning, message, none⟩

/-- The finding, attached to an element. -/
def on (finding : Finding) (element : String) : Finding := { finding with element := some element }

/-- The fields of a finding. -/
def fields {ν : Type} [Source ν] : Rec ν Finding :=
  ((Rec.required "severity" (oneOf Severity.ofName?)).both <|
    (Rec.required "message" Source.text).both <| Rec.maybe "elementId" Source.text).map
    fun (severity, message, element) => { severity, message, element }

/-- Write a finding. -/
def toJson (finding : Finding) : Json :=
  .object ([("severity", .text finding.severity.name), ("message", .text finding.message)] ++
    Json.given "elementId" .text finding.element)

end Finding

/-- Whether a finding is an error. -/
def hasErrors (findings : List Finding) : Bool := findings.any (·.severity = .error)

/-- A name between single quotes. -/
def named (name : String) : String := "'" ++ name ++ "'"

/-- A finding, if a condition holds. -/
def reportIf (condition : Bool) (finding : Finding) : List Finding :=
  if condition then [finding] else []

/-- What a workflow as a whole should contain. -/
def checkContents (flow : Flow) : List Finding :=
  reportIf flow.nodes.isEmpty
      (.error ("workflow " ++ named flow.name ++ " must contain at least one node")) ++
    reportIf flow.edges.isEmpty
      (.warning ("workflow " ++ named flow.name ++ " should contain at least one edge")) ++
    reportIf (!flow.nodes.isEmpty && !flow.nodes.any (·.kind = .start))
      (.warning ("workflow " ++ named flow.name ++ " has no begin node"))

/-- The names that occur among those before them, once for each repetition. -/
def repetitions (seen : List String) : List String → List String
  | [] => []
  | name :: rest =>
      if name ∈ seen then name :: repetitions seen rest else repetitions (name :: seen) rest

/-- Ids that are used again, by elements of any kind. -/
def checkIds (flow : Flow) : List Finding :=
  (repetitions [] flow.ids).map fun id =>
    (Finding.error ("duplicate element id " ++ named id)).on id

/-- The ends of an edge. -/
def checkEdge (flow : Flow) (edge : Edge) : List Finding :=
  ([edge.source, edge.target].filter fun id => (flow.node? id).isNone).map (fun id =>
      (Finding.error
        ("edge " ++ named edge.id ++ " references unknown node " ++ named id)).on edge.id) ++
    reportIf (edge.source = edge.target)
      ((Finding.warning ("edge " ++ named edge.id ++ " connects a node to itself")).on edge.id)

/-- What the kind of a node asks of its edges and properties. -/
def checkNode (flow : Flow) (node : Node) : List Finding :=
  let incoming := (flow.incoming node.id).length
  let outgoing := (flow.outgoing node.id).length
  let lacks (property : String) : Bool := !node.properties.entries.any (·.1 = property)
  match node.kind with
  | .start =>
      reportIf (0 < incoming)
        ((Finding.error ("begin node " ++ named node.id ++ " cannot have incoming edges")).on node.id)
  | .finish =>
      reportIf (0 < outgoing)
        ((Finding.error ("end node " ++ named node.id ++ " cannot have outgoing edges")).on node.id)
  | .decision | .decisionTable =>
      reportIf (outgoing < 2 && !flow.edges.isEmpty)
        ((Finding.warning
          ("decision " ++ named node.id ++ " should have at least two outgoing edges")).on node.id)
  | .api =>
      reportIf (lacks "endpoint")
        ((Finding.warning ("api node " ++ named node.id ++ " has no endpoint")).on node.id)
  | .subprocess =>
      reportIf (lacks "workflow")
        ((Finding.warning
          ("subprocess " ++ named node.id ++ " does not name a workflow")).on node.id)
  | .exception | .process | .concurrent | .auto => []

/-- The members of all lanes, each with its lane. -/
def memberships (flow : Flow) : List (Lane × String) :=
  flow.lanes.flatMap fun lane => lane.nodes.map fun member => (lane, member)

/-- Members that are no nodes, and nodes that were placed before. -/
def checkPlacements (flow : Flow) (placed : List String) : List (Lane × String) → List Finding
  | [] => []
  | (lane, member) :: rest =>
      if (flow.node? member).isNone then
        (Finding.error
          ("swimlane " ++ named lane.id ++ " contains unknown node " ++ named member)).on lane.id ::
          checkPlacements flow placed rest
      else if member ∈ placed then
        (Finding.error
          ("node " ++ named member ++ " is placed in more than one swimlane")).on member ::
          checkPlacements flow placed rest
      else checkPlacements flow (member :: placed) rest

/-- All findings about a workflow, rule by rule. -/
def checkFlow (flow : Flow) : List Finding :=
  checkContents flow ++ checkIds flow ++ flow.edges.flatMap (checkEdge flow) ++
    flow.nodes.flatMap (checkNode flow) ++ checkPlacements flow [] (memberships flow)

/-- All findings about a document. -/
def check (document : Document) : List Finding :=
  match document.flow with
  | none => [.error "document does not define a workflow"]
  | some flow => checkFlow flow

end Flowdesk.Workflow
