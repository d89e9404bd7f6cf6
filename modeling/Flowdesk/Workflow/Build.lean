import Flowdesk.Workflow.Check
import Flowdesk.Workflow.Text

/-!
# Builds

A build reads the text of a document and checks what it read. A text that cannot be
read gives no model; the only finding is then what stopped the reading.
-/

namespace Flowdesk.Workflow

open Data

/-- What became of the text of a document (`BuildResult`). -/
structure Build where
  uri : String
  root : Option Document
  findings : List Finding
  deriving BEq, Repr

namespace Build

/-- Build the text of a document. -/
def of (uri text : String) : Build :=
  match Document.parse text with
  | .ok root => ⟨uri, some root, check root⟩
  | .error fault => ⟨uri, none, [.error (TextFailure.syntaxError fault.message).message]⟩

/-- Whether any finding is an error. -/
def hasErrors (build : Build) : Bool := Workflow.hasErrors build.findings

/-- Write a build. -/
def toJson (build : Build) : Json :=
  .object [("uri", .text build.uri), ("root", Json.orNull Document.toJson build.root),
    ("diagnostics", .list (build.findings.map Finding.toJson)),
    ("hasErrors", .boolean build.hasErrors)]

/-- A build without a model has an error. -/
theorem hasErrors_of_root_none (uri text : String) (noRoot : (of uri text).root = none) :
    (of uri text).hasErrors = true := by
  unfold of at noRoot ⊢
  split at noRoot
  · simp at noRoot
  · rfl

end Build

end Flowdesk.Workflow
