/-!
# Failures of a file store
-/

namespace Flowdesk.Files

/-- Why a file operation failed (`FsError`). -/
inductive Failure where
  | notFound (path : String)
  | isDirectory (path : String)
  /-- Any other refusal, in the words of the store. -/
  | io (cause : String)
  deriving DecidableEq, Repr

/-- The text shown for a failure. -/
def Failure.message : Failure → String
  | .notFound path => "File not found: " ++ path
  | .isDirectory path => "Is a directory: " ++ path
  | .io cause => "IO error: " ++ cause

end Flowdesk.Files
