import Flowdesk.Draft
import Flowdesk.Sync.Status
import Flowdesk.Workflow.Build

/-!
# Events of the registry

What the registry announces: that a document was built, with the reason for the
build, and that a text was saved.
-/

namespace Flowdesk.Registry

open Sync Workflow

/-- Why a build is announced (`UpdateReason`). -/
inductive Reason where
  /-- The first client opened the document. -/
  | opened
  /-- The text has another revision. -/
  | changed
  /-- The last client closed the document. -/
  | deleted
  /-- The text was built again as it is. -/
  | updated
  deriving DecidableEq, Repr

namespace Reason

/-- The name of a reason. -/
def name : Reason → String
  | .opened => "opened"
  | .changed => "changed"
  | .deleted => "deleted"
  | .updated => "updated"

/-- What a reason says about the document as a whole. -/
def kind : Reason → ChangeKind
  | .opened => .create
  | .deleted => .delete
  | .changed | .updated => .update

end Reason

/-- The announcement of a build (`UpdateEvent`). -/
structure Update where
  build : Build
  /-- The client whose doing led to the build. -/
  client : String
  reason : Reason
  revision : Revision

/-- What an update tells other clients, given how its client edits. -/
def Update.notice (update : Update) (method : Method) : Notice where
  uri := update.build.uri
  method := method
  client := update.client
  timestamp := update.revision.timestamp
  version := update.revision.version
  kind := update.reason.kind

/-- Write an update as it concerns a client, given how the author of the change edits.
Times are left out. -/
def Update.toJson (update : Update) (method : Method) (client : String) : Json :=
  let notice := update.notice method
  .object [("reason", .text update.reason.name), ("source", .text update.client),
    ("revision", update.revision.toJson), ("build", update.build.toJson),
    ("change", notice.toJson.without ["timestamp"]),
    ("requiresResync", .boolean (notice.requiresResync client))]

/-- The announcement of a save (`SaveEvent`). -/
structure Saved where
  draft : Draft
  client : String

/-- Write a save. -/
def Saved.toJson (saved : Saved) : Json :=
  .object [("document", saved.draft.toJson), ("source", .text saved.client)]

/-- An announcement. -/
inductive Event where
  | updated (update : Update)
  | saved (saved : Saved)

/-- The document that an announcement is about. -/
def Event.uri : Event → String
  | .updated announced => announced.build.uri
  | .saved announced => announced.draft.uri

end Flowdesk.Registry
