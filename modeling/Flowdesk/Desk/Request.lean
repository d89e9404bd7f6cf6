import Flowdesk.Json.Reader
import Flowdesk.Registry.Opening
import Flowdesk.Sync.Conflict
import Flowdesk.Workflow.Patch

/-!
# Requests

What clients ask of a desk. A request is one line of JSON, an object whose `type`
names the request.
-/

namespace Flowdesk

open Data Sync Workflow

/-- A client's request. -/
inductive Request where
  /-- Hold a document open for a client that edits it in some way. -/
  | openFor (opening : Registry.Opening) (method : Method)
  | update (uri client : String) (version : UInt64) (text : String)
  /-- Save a text, or else the text of the document as it is. -/
  | save (uri client : String) (text : Option String)
  | close (uri client : String)
  /-- Begin a graphical session, under a new name unless the client has one. -/
  | attach (uri : String) (client : Option String)
  | detach (uri client : String)
  | patch (uri client : String) (patch : Patch)
  | resolve (uri client : String) (side : Side)
  | status (uri : String)

namespace Request

/-- The names of the requests, in order. -/
def names : List String :=
  ["open", "update", "save", "close", "attach", "detach", "patch", "resolveConflict", "status"]

/-- The address of the document that a request is about. -/
def uri : Request → String
  | .openFor opening _ => opening.uri
  | .update address .. | .save address .. | .close address _ | .attach address _
  | .detach address _ | .patch address .. | .resolve address .. | .status address => address

/-- The field of an address. -/
def uriField : Rec Held String := .required "uri" Source.text

/-- The field of a client. -/
def clientField : Rec Held String := .required "clientId" Source.text

/-- Read an opening. The way of editing stands among the fields of the opening and is
read before them, so they must have names. -/
def readOpening (shape : Shape Held) : Reading Request := do
  match shape with
  | .positional _ => malformed
  | .keyed _ =>
      let method ← (Rec.assumed "method" Method.read Method.usual).ofShape shape
      return openFor (← Registry.Opening.fields.ofShape shape) method

/-- Read what comes with the name of a request. -/
def readBody (name : String) (shape : Shape Held) : Reading Request :=
  match name with
  | "open" => readOpening shape
  | "update" =>
      ((uriField.both <| clientField.both <| (Rec.required "version" word64).both <|
        Rec.required "text" Source.text).map
        fun (uri, client, version, text) => update uri client version text).ofShape shape
  | "save" =>
      ((uriField.both <| clientField.both <| Rec.maybe "text" Source.text).map
        fun (uri, client, text) => save uri client text).ofShape shape
  | "close" =>
      ((uriField.both clientField).map fun (uri, client) => close uri client).ofShape shape
  | "attach" =>
      ((uriField.both <| Rec.maybe "clientId" Source.text).map
        fun (uri, client) => attach uri client).ofShape shape
  | "detach" =>
      ((uriField.both clientField).map fun (uri, client) => detach uri client).ofShape shape
  | "patch" =>
      ((uriField.both <| clientField.both <| Rec.required "patch" Patch.read).map
        fun (uri, client, change) => patch uri client change).ofShape shape
  | "resolveConflict" =>
      ((uriField.both <| clientField.both <| Rec.required "prefer" (oneOf Side.ofName?)).map
        fun (uri, client, side) => resolve uri client side).ofShape shape
  | "status" => (uriField.map status).ofShape shape
  | _ => refuse (.unknownVariant name)

/-- Read a request. -/
def read {ν : Type} [Tagged ν] (value : ν) : Reading Request := do
  let (name, shape) ← Untagged.read "type" names value
  readBody name shape

/-- Read the line of a request. Whatever follows the request is refused, but only
after the request itself is found to be in order. -/
def parse (line : String) : Except Fault Request := do
  let (value, alone) := Json.read line
  let (request, _) ← (read value).run 0
  if alone then return request else throw .malformed

end Request

end Flowdesk
