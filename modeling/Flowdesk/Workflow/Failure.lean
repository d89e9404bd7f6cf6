/-!
# Failures of workflow text and of edits

A text may not be readable as a workflow, a workflow may not be writable, and an
edit may name an element that does not exist or create one whose id is taken.
-/

namespace Flowdesk.Workflow

/-- Why text and model could not be turned into one another (`ParseError`). -/
inductive TextFailure where
  | syntaxError (cause : String)
  | unwritable (cause : String)
  deriving DecidableEq, Repr

/-- The text shown for such a failure. -/
def TextFailure.message : TextFailure → String
  | .syntaxError cause => "Syntax error: " ++ cause
  | .unwritable cause => "Serialization error: " ++ cause

/-- Why an edit could not be applied (`PatchError`). -/
inductive PatchFailure where
  | unknownElement (id : String)
  | duplicateId (id : String)
  | noWorkflow
  deriving DecidableEq, Repr

/-- The text shown for such a failure. -/
def PatchFailure.message : PatchFailure → String
  | .unknownElement id => "Unknown element: " ++ id
  | .duplicateId id => "Element id already in use: " ++ id
  | .noWorkflow => "Document has no workflow to edit"

end Flowdesk.Workflow
