import Flowdesk.Action
import Flowdesk.Draft
import Flowdesk.Workflow.Build
import Flowdesk.Workflow.Index

/-!
# Views

A view is what one graphical client was last shown: the model of the last build
that had one, and the text, revision and findings of the last build of all. While
the text cannot be read, the view keeps its model and refuses edits.
-/

namespace Flowdesk

open Workflow

/-- The model shown to a graphical client, with the text it belongs to (`ModelState`). -/
structure View where
  root : Option Document
  revision : Option Revision
  text : String
  findings : List Finding
  mode : EditMode
  index : Index

namespace View

/-- The view before any build. -/
def initial : View := ⟨none, none, "", [], .editable, .empty⟩

instance : Inhabited View := ⟨initial⟩

/-- The view after a build of a text at a revision. -/
def update (view : View) (build : Build) (revision : Revision) (text : String) : View where
  root := build.root <|> view.root
  revision := some revision
  text := text
  findings := build.findings
  mode := .of build.findings
  index := (build.root.map Index.of).getD view.index

/-- The workflow that is shown. -/
def flow (view : View) : Option Flow := view.root.bind (·.flow)

/-- The version that is shown: zero before any build. -/
def version (view : View) : UInt64 := (view.revision.map (·.version)).getD 0

/-- The actions that show the view to its client. -/
def actions (view : View) : List Action :=
  (view.root.map fun root => Action.updateModel (.of root view.version)).toList ++
    [.setEditMode view.mode, .setMarkers view.findings]

/-- Write a view. -/
def toJson (view : View) : Json :=
  .object [("workflow", Json.orNull Flow.toJson view.flow),
    ("hasRoot", .boolean view.root.isSome), ("version", .word64 view.version),
    ("revision", Json.orNull Revision.toJson view.revision), ("text", .text view.text),
    ("diagnostics", .list (view.findings.map Finding.toJson)),
    ("editMode", .text view.mode.name), ("indexLen", .natural view.index.size)]

/-- A build without a model leaves the model as it was. -/
theorem root_update_of_none (view : View) (build : Build) (revision : Revision) (text : String)
    (noRoot : build.root = none) : (view.update build revision text).root = view.root := by
  simp [update, noRoot]

end View

end Flowdesk
