import Flowdesk.Data.Record
import Flowdesk.Json.Source

/-!
# Openings

What a client says when it opens a document. Without a text the document is read
from its file; a document that is open already keeps its language.
-/

namespace Flowdesk.Registry

open Data

/-- A client's wish to hold a document open (`OpenRequest`). -/
structure Opening where
  uri : String
  client : String
  language : Option String
  /-- The version of the text, as the client counts. -/
  version : Option UInt64
  text : Option String
  deriving DecidableEq, Repr

namespace Opening

/-- The fields of an opening. -/
def fields {ν : Type} [Source ν] : Rec ν Opening :=
  ((Rec.required "uri" Source.text).both <| (Rec.required "clientId" Source.text).both <|
    (Rec.maybe "languageId" Source.text).both <| (Rec.maybe "version" word64).both <|
    Rec.maybe "text" Source.text).map
    fun (uri, client, language, version, text) => { uri, client, language, version, text }

/-- Write an opening. What was not said is written as null. -/
def toJson (opening : Opening) : Json :=
  .object [("uri", .text opening.uri), ("clientId", .text opening.client),
    ("languageId", Json.orNull .text opening.language),
    ("version", Json.orNull .word64 opening.version), ("text", Json.orNull .text opening.text)]

end Opening

end Flowdesk.Registry
