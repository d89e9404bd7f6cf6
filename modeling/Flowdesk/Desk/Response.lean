import Flowdesk.Action
import Flowdesk.Sync.Failure

/-!
# Responses

What a desk says to its clients: the answer to each request, and the actions for
graphical clients. Each is written as one line of JSON, an object whose `type`
names the response.
-/

namespace Flowdesk

open Data Sync

/-- Why a desk refused a request (`ServerError`). -/
inductive Refusal where
  | failed (cause : Sync.Failure)
  | notOpened (uri client : String)
  | notAttached (uri client : String)
  /-- The request could not be read. -/
  | unreadable (fault : Fault)
  deriving DecidableEq

/-- The text shown for a refusal. -/
def Refusal.message : Refusal → String
  | .failed cause => cause.message
  | .notOpened uri client => "Client " ++ client ++ " has not opened " ++ uri
  | .notAttached uri client => "No graphical session " ++ client ++ " on " ++ uri
  | .unreadable fault => "Malformed request: " ++ fault.message

/-- What a desk says. -/
inductive Response where
  | actions (client : String) (actions : List Action)
  /-- How the sync of a document stands, with the client that asked, if one did. -/
  | status (uri : String) (client : Option String) (status : Status)
  | saved (uri client : String)
  | error (message : String)

namespace Response

/-- Write a response. -/
def toJson : Response → Json
  | .actions client sent =>
      .object [("type", .text "actions"), ("clientId", .text client),
        ("actions", .list (sent.map Action.toJson))]
  | .status uri client state =>
      .object ([("type", .text "status"), ("uri", .text uri)] ++
        Json.given "clientId" .text client ++ [("state", state.toJson)])
  | .saved uri client =>
      .object [("type", .text "saved"), ("uri", .text uri), ("clientId", .text client)]
  | .error message => .object [("type", .text "error"), ("message", .text message)]

end Response

end Flowdesk
