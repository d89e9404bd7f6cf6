import Flowdesk.Workflow.Record

/-!
# Drawings

What a graphical client shows of a workflow. Nodes without a position are set out
on a grid in the order of the document, nodes without a size take that of their
kind, and a lane is the box around its members with some padding. Members that are
no nodes are left out of it.
-/

namespace Flowdesk

open Data Workflow

/-- The outline of a node (`NodeShape`). -/
inductive Outline where
  | circle
  | diamond
  | rectangle
  | bar
  deriving DecidableEq, Repr

namespace Outline

/-- The name of an outline. -/
def name : Outline → String
  | .circle => "circle"
  | .diamond => "diamond"
  | .rectangle => "rectangle"
  | .bar => "bar"

/-- All outlines, in order. -/
def all : List Outline := [.circle, .diamond, .rectangle, .bar]

/-- The outline of a name. -/
def ofName? (written : String) : Option Outline := all.find? (·.name = written)

/-- The outline of a kind of node. -/
def ofKind : NodeKind → Outline
  | .start | .finish | .exception => .circle
  | .decision | .decisionTable => .diamond
  | .process | .subprocess | .auto | .api => .rectangle
  | .concurrent => .bar

end Outline

/-- The size of a kind of node. -/
def usualSize : NodeKind → Size
  | .start | .finish | .exception => ⟨40, 40⟩
  | .decision => ⟨60, 60⟩
  | .decisionTable => ⟨120, 80⟩
  | .process | .auto | .api => ⟨140, 60⟩
  | .subprocess => ⟨160, 70⟩
  | .concurrent => ⟨20, 120⟩

/-- How many nodes stand side by side on the grid. -/
def gridColumns : Nat := 4

/-- Where the first node of the grid stands, on both axes. -/
def gridOrigin : Float := 50

/-- How far apart the columns are. -/
def gridAcross : Float := 200

/-- How far apart the rows are. -/
def gridDown : Float := 150

/-- How far a lane reaches beyond its members. -/
def lanePadding : Float := 20

/-- The place on the grid of the node at an index. -/
def gridPosition (index : Nat) : Position :=
  ⟨gridOrigin + Float.ofNat (index % gridColumns) * gridAcross,
    gridOrigin + Float.ofNat (index / gridColumns) * gridDown⟩

namespace Drawing

/-- A box. -/
structure Bounds where
  x : Float
  y : Float
  width : Float
  height : Float
  deriving BEq, Repr

/-- A drawn node (`GNode`). -/
structure Figure where
  id : String
  kind : NodeKind
  outline : Outline
  label : String
  position : Position
  size : Size
  deriving BEq, Repr

/-- A drawn edge (`GEdge`). -/
structure Connector where
  id : String
  source : String
  target : String
  label : Option String
  deriving DecidableEq, Repr

/-- A drawn lane (`GSwimlane`). -/
structure Band where
  id : String
  name : String
  members : List String
  bounds : Bounds
  deriving BEq, Repr

/-- The lesser of two numbers; what is no number gives way. -/
def lesser (a b : Float) : Float :=
  if a.isNaN then b else if b.isNaN then a else if b < a then b else a

/-- The greater of two numbers; what is no number gives way. -/
def greater (a b : Float) : Float :=
  if a.isNaN then b else if b.isNaN then a else if a < b then b else a

/-- Beyond every number. -/
def infinity : Float := 1 / 0

/-- The box around some figures. -/
def enclosing (figures : List Figure) : Bounds :=
  if figures.isEmpty then ⟨0, 0, 0, 0⟩
  else
    let least (side : Figure → Float) : Float := (figures.map side).foldl lesser infinity
    let most (side : Figure → Float) : Float := (figures.map side).foldl greater (-infinity)
    let left := least (·.position.x)
    let top := least (·.position.y)
    let right := most fun figure => figure.position.x + figure.size.width
    let bottom := most fun figure => figure.position.y + figure.size.height
    ⟨left - lanePadding, top - lanePadding, right - left + 2 * lanePadding,
      bottom - top + 2 * lanePadding⟩

/-- The figure of the node at an index. -/
def figureOf (index : Nat) (node : Node) : Figure where
  id := node.id
  kind := node.kind
  outline := .ofKind node.kind
  label := node.shownLabel
  position := node.position.getD (gridPosition index)
  size := node.size.getD (usualSize node.kind)

/-- The connector of an edge. -/
def connectorOf (edge : Edge) : Connector := ⟨edge.id, edge.source, edge.target, edge.label⟩

/-- The band of a lane among figures. -/
def bandOf (figures : List Figure) (lane : Lane) : Band :=
  let members := lane.nodes.filterMap fun id => figures.find? (·.id = id)
  ⟨lane.id, lane.name, members.map (·.id), enclosing members⟩

end Drawing

/-- What a graphical client shows of a document (`GraphModel`). -/
structure Drawing where
  id : String
  /-- The version of the document it was made from. -/
  revision : UInt64
  figures : List Drawing.Figure
  connectors : List Drawing.Connector
  bands : List Drawing.Band
  deriving BEq, Repr

namespace Drawing

/-- The drawing of a document at a version. -/
def of (document : Document) (revision : UInt64) : Drawing :=
  match document.flow with
  | none => ⟨"", revision, [], [], []⟩
  | some flow =>
      let figures := flow.nodes.mapIdx figureOf
      ⟨flow.name, revision, figures, flow.edges.map connectorOf, flow.lanes.map (bandOf figures)⟩

/-- The first figure of an id. -/
def figure? (drawing : Drawing) (id : String) : Option Figure :=
  drawing.figures.find? (·.id = id)

variable {ν : Type} [Source ν]

/-- The fields of a box. -/
def Bounds.fields : Rec ν Bounds :=
  ((Rec.required "x" Source.number).both <| (Rec.required "y" Source.number).both <|
    (Rec.required "width" Source.number).both <| Rec.required "height" Source.number).map
    fun (x, y, width, height) => { x, y, width, height }

/-- The fields of a figure. -/
def Figure.fields : Rec ν Figure :=
  ((Rec.required "id" Source.text).both <| (Rec.required "kind" (oneOf NodeKind.ofName?)).both <|
    (Rec.required "shape" (oneOf Outline.ofName?)).both <|
    (Rec.required "label" Source.text).both <|
    (Rec.required "position" Position.fields.read).both <|
    Rec.required "size" Size.fields.read).map
    fun (id, kind, outline, label, position, size) => { id, kind, outline, label, position, size }

/-- The fields of a connector. -/
def Connector.fields : Rec ν Connector :=
  ((Rec.required "id" Source.text).both <| (Rec.required "sourceId" Source.text).both <|
    (Rec.required "targetId" Source.text).both <| Rec.maybe "label" Source.text).map
    fun (id, source, target, label) => { id, source, target, label }

/-- The fields of a band. -/
def Band.fields : Rec ν Band :=
  ((Rec.required "id" Source.text).both <| (Rec.required "name" Source.text).both <|
    (Rec.required "members" (listOf Source.text)).both <|
    Rec.required "bounds" Bounds.fields.read).map
    fun (id, name, members, bounds) => { id, name, members, bounds }

/-- The fields of a drawing. -/
def fields : Rec ν Drawing :=
  ((Rec.required "id" Source.text).both <| (Rec.required "revision" word64).both <|
    (Rec.required "nodes" (listOf Figure.fields.read)).both <|
    (Rec.required "edges" (listOf Connector.fields.read)).both <|
    Rec.required "swimlanes" (listOf Band.fields.read)).map
    fun (id, revision, figures, connectors, bands) =>
      { id, revision, figures, connectors, bands }

/-- Write a box. -/
def Bounds.toJson (bounds : Bounds) : Json :=
  .object [("x", .real bounds.x), ("y", .real bounds.y), ("width", .real bounds.width),
    ("height", .real bounds.height)]

/-- Write a figure. -/
def Figure.toJson (figure : Figure) : Json :=
  .object [("id", .text figure.id), ("kind", .text figure.kind.name),
    ("shape", .text figure.outline.name), ("label", .text figure.label),
    ("position", figure.position.toJson), ("size", figure.size.toJson)]

/-- Write a connector. -/
def Connector.toJson (connector : Connector) : Json :=
  .object ([("id", .text connector.id), ("sourceId", .text connector.source),
    ("targetId", .text connector.target)] ++ Json.given "label" .text connector.label)

/-- Write a band. -/
def Band.toJson (band : Band) : Json :=
  .object [("id", .text band.id), ("name", .text band.name), ("members", Json.texts band.members),
    ("bounds", band.bounds.toJson)]

/-- Write a drawing. -/
def toJson (drawing : Drawing) : Json :=
  .object [("id", .text drawing.id), ("revision", .word64 drawing.revision),
    ("nodes", .list (drawing.figures.map Figure.toJson)),
    ("edges", .list (drawing.connectors.map Connector.toJson)),
    ("swimlanes", .list (drawing.bands.map Band.toJson))]

end Drawing

end Flowdesk
