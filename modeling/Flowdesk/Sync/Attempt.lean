import Flowdesk.Sync.Backoff
import Flowdesk.Sync.Coordinator
import Flowdesk.Sync.Failure

/-!
# Attempts of a sync

A sync is attempted until an attempt succeeds, fails for good, or has been repeated
often enough. An attempt that takes too long is cut off, which counts as a failure
that may pass. Between attempts the sync waits, longer each time.
-/

namespace Flowdesk.Sync

/-- How long an attempt takes, in milliseconds, and what it comes to. -/
structure Attempt (α : Type) where
  duration : Nat
  outcome : Except Failure α

/-- The attempt as a sync of a document sees it, which waits no longer than a limit. -/
def Attempt.within {α : Type} (uri : String) (limit : Data.Duration) (attempt : Attempt α) :
    Attempt α :=
  if attempt.duration ≤ limit.toNat then attempt
  else ⟨limit.toNat, .error (.timeout uri limit)⟩

/-- What follows an attempt. -/
inductive Verdict (α : Type) where
  | succeed (value : α)
  /-- A conflict has to be resolved first. -/
  | wait
  /-- Another attempt after a delay, in milliseconds. -/
  | again (delay : Nat)
  | giveUp

/-- What follows an attempt, given how many were repeated before it. -/
def judge {α : Type} (greatest repeated : UInt32) : Except Failure α → Verdict α
  | .ok value => .succeed value
  | .error (.conflict _) => .wait
  | .error failure =>
      if failure.transient ∧ repeated < greatest then .again (backoffMillis (repeated + 1))
      else .giveUp

/-- How a sync ends by an attempt that nothing follows. -/
def Ending.of {α : Type} : Except Failure α → Ending
  | .ok _ => .carried
  | .error (.conflict _) => .deferred
  | .error _ => .failed

end Flowdesk.Sync
