import Flowdesk.Data.Duration
import Flowdesk.Registry.Failure
import Flowdesk.Text.Duration
import Flowdesk.Workflow.Failure

/-!
# Failures of a sync

A sync fails because it took too long, because a conflict, a missing or outdated
model or an erroneous text stands in its way, or because one of the operations it
is made of failed. Only a lack of time and a refusal of the file store may pass by
themselves, so only these are worth another attempt.
-/

namespace Flowdesk.Sync

/-- Why a sync failed (`SyncError`). -/
inductive Failure where
  | timeout (uri : String) (limit : Data.Duration)
  | conflict (uri : String)
  | noModel (uri : String)
  | readonly (uri : String)
  | stale (uri : String) (base current : UInt64)
  | registry (cause : Registry.Failure)
  | text (cause : Workflow.TextFailure)
  | patch (cause : Workflow.PatchFailure)
  deriving DecidableEq, Repr

namespace Failure

/-- The text shown for a failure. -/
def message : Failure → String
  | .timeout uri limit => "Sync of " ++ uri ++ " timed out after " ++ Text.duration limit.toNat
  | .conflict uri => "Unresolved conflict on " ++ uri
  | .noModel uri => "No model has been built for " ++ uri
  | .readonly uri => "Model of " ++ uri ++ " is readonly until its errors are fixed"
  | .stale uri base current =>
      "Edit of " ++ uri ++ " is based on version " ++ toString base.toNat ++
        ", the document is at " ++ toString current.toNat
  | .registry cause => cause.message
  | .text cause => cause.message
  | .patch cause => cause.message

/-- Whether another attempt could succeed. -/
def transient : Failure → Bool
  | .timeout .. | .registry (.file _) => true
  | _ => false

end Failure

end Flowdesk.Sync
