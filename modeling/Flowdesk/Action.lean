import Flowdesk.Drawing
import Flowdesk.Sync.Status
import Flowdesk.Workflow.Check

/-!
# Actions for graphical clients

What a desk tells a graphical client: to show another drawing, to allow or refuse
edits, to mark findings, or that the sync of a document has reached another phase.
Edits are refused as long as any finding is an error.
-/

namespace Flowdesk

open Data Workflow Sync

/-- Whether a graphical client may edit its model. -/
inductive EditMode where
  | editable
  | readonly
  deriving DecidableEq, Repr, Inhabited

namespace EditMode

/-- The name of a mode. -/
def name : EditMode → String
  | .editable => "editable"
  | .readonly => "readonly"

/-- The mode of a name. -/
def ofName? (written : String) : Option EditMode := [editable, readonly].find? (·.name = written)

/-- The mode that findings call for. -/
def of (findings : List Finding) : EditMode := if hasErrors findings then .readonly else .editable

end EditMode

/-- One instruction to a graphical client (`ClientAction`). -/
inductive Action where
  | updateModel (drawing : Drawing)
  | setEditMode (mode : EditMode)
  | setMarkers (findings : List Finding)
  | syncStatusChanged (uri : String) (phase : Phase)
  deriving BEq, Repr

namespace Action

/-- The names of the actions, in order. -/
def names : List String := ["updateModel", "setEditMode", "setMarkers", "syncStatusChanged"]

/-- Read what comes with the name of an action. -/
def readBody (name : String) (shape : Shape Held) : Reading Action :=
  match name with
  | "updateModel" => ((Rec.required "model" Drawing.fields.read).map updateModel).ofShape shape
  | "setEditMode" =>
      ((Rec.required "mode" (oneOf EditMode.ofName?)).map setEditMode).ofShape shape
  | "setMarkers" =>
      ((Rec.required "markers" (listOf Finding.fields.read)).map setMarkers).ofShape shape
  | "syncStatusChanged" =>
      (((Rec.required "uri" Source.text).both <|
        Rec.required "status" (oneOf Phase.ofName?)).map
        fun (uri, phase) => syncStatusChanged uri phase).ofShape shape
  | _ => refuse (.unknownVariant name)

/-- Read an action. -/
def read {ν : Type} [Tagged ν] (value : ν) : Reading Action := do
  let (name, shape) ← Untagged.read "kind" names value
  readBody name shape

/-- Write an action. -/
def toJson : Action → Json
  | .updateModel drawing => .object [("kind", .text "updateModel"), ("model", drawing.toJson)]
  | .setEditMode mode => .object [("kind", .text "setEditMode"), ("mode", .text mode.name)]
  | .setMarkers findings =>
      .object [("kind", .text "setMarkers"), ("markers", .list (findings.map Finding.toJson))]
  | .syncStatusChanged uri phase =>
      .object [("kind", .text "syncStatusChanged"), ("uri", .text uri), ("status", .text phase.name)]

end Action

end Flowdesk
