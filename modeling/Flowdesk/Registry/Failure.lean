import Flowdesk.Files.Failure
import Flowdesk.Text.Quoted

/-!
# Failures of the document registry
-/

namespace Flowdesk.Registry

/-- Why an operation on the registered documents failed (`StoreError`). -/
inductive Failure where
  | notOpen (uri : String)
  | emptyContent (uri : String)
  | invalidUri (uri : String)
  | versionExhausted (uri : String)
  | file (cause : Files.Failure)
  deriving DecidableEq, Repr

/-- The text shown for a failure. An address that is none is shown in quotes. -/
def Failure.message : Failure → String
  | .notOpen uri => "Document is not open: " ++ uri
  | .emptyContent uri => "Refusing to save empty content to " ++ uri
  | .invalidUri uri => "Invalid document URI: " ++ Text.quoted uri
  | .versionExhausted uri => "No versions left for " ++ uri
  | .file cause => "Filesystem error: " ++ cause.message

end Flowdesk.Registry
