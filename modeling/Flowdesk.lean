import Flowdesk.Bus.Exchange
import Flowdesk.Debounce.Calls
import Flowdesk.Files.Disk
import Flowdesk.Main
import Flowdesk.Sync.Timeline
import Flowdesk.Workspace.Studio
import Flowdesk.Proofs.Registry.Turn
import Flowdesk.Proofs.Registry.Holding
import Flowdesk.Proofs.Registry.Run
import Flowdesk.Proofs.Registry.History
import Flowdesk.Proofs.Registry.Audience
import Flowdesk.Proofs.Registry.Refusal
import Flowdesk.Proofs.Registry.Holders
import Flowdesk.Proofs.Data.Lapse
import Flowdesk.Proofs.Sync.Course
import Flowdesk.Proofs.Sync.Move
import Flowdesk.Proofs.Sync.Flight
import Flowdesk.Proofs.Sync.Visibility
import Flowdesk.Proofs.Sync.Touch
import Flowdesk.Proofs.Sync.Judgement
import Flowdesk.Proofs.Sync.Pending
import Flowdesk.Proofs.Sync.Departure
import Flowdesk.Proofs.Sync.Due
import Flowdesk.Proofs.Sync.Retry
import Flowdesk.Proofs.Sync.Docket
import Flowdesk.Proofs.Sync.Slice
import Flowdesk.Proofs.Sync.Separation
import Flowdesk.Proofs.Sync.Wire
import Flowdesk.Proofs.Sync.Checksum
import Flowdesk.Proofs.Sync.Backoff
import Flowdesk.Proofs.Sync.Waits
import Flowdesk.Proofs.Workspace.Hearing
import Flowdesk.Proofs.Workspace.Act
import Flowdesk.Proofs.Workspace.Move
import Flowdesk.Proofs.Workspace.Edit
import Flowdesk.Proofs.Workspace.Course
import Flowdesk.Proofs.Workspace.Faithful
import Flowdesk.Proofs.Workspace.Guests
import Flowdesk.Proofs.Workspace.Showing
import Flowdesk.Proofs.Workspace.Replay
import Flowdesk.Proofs.Workspace.Idle
import Flowdesk.Proofs.Workspace.Basis
import Flowdesk.Proofs.Workspace.Edition
import Flowdesk.Proofs.Workspace.Planning
import Flowdesk.Proofs.Workspace.Standoff
import Flowdesk.Proofs.Workspace.Withheld
import Flowdesk.Proofs.Workspace.Carrying
import Flowdesk.Proofs.Workspace.Resolution
import Flowdesk.Proofs.Workspace.Hindrance
import Flowdesk.Proofs.Workspace.Awaiting
import Flowdesk.Proofs.Workspace.Quiet
import Flowdesk.Proofs.Workspace.Convergence
import Flowdesk.Proofs.Workspace.Repetition
import Flowdesk.Proofs.Workspace.Sending
import Flowdesk.Proofs.Workspace.Purge
import Flowdesk.Proofs.Workspace.Detachment
import Flowdesk.Proofs.Workspace.Settlement
import Flowdesk.Proofs.Desk.Move
import Flowdesk.Proofs.Desk.Roll
import Flowdesk.Proofs.Desk.Agreement
import Flowdesk.Proofs.Desk.Service
import Flowdesk.Proofs.Desk.File
import Flowdesk.Proofs.Desk.Refresh
import Flowdesk.Proofs.Decimal.Digit
import Flowdesk.Proofs.Json.Text
import Flowdesk.Proofs.Json.Number
import Flowdesk.Proofs.Json.Tree
import Flowdesk.Proofs.Json.Reading
import Flowdesk.Proofs.Workflow.RoundTrip
import Flowdesk.Proofs.Workflow.Coherence
import Flowdesk.Proofs.Workflow.Faultless
import Flowdesk.Proofs.Workflow.Editing
import Flowdesk.Proofs.Workflow.Wire
import Flowdesk.Proofs.Desk.Wire
import Flowdesk.Proofs.Workflow.Effect
import Flowdesk.Proofs.Workflow.Undo
import Flowdesk.Proofs.Workflow.Placement
import Flowdesk.Proofs.Workflow.Lookup
import Flowdesk.Proofs.Files.Memory
import Flowdesk.Proofs.Registry.Saving
import Flowdesk.Proofs.Text.Utf8
import Flowdesk.Proofs.Registry.Echo
import Flowdesk.Proofs.Workspace.Rewriting
import Flowdesk.Proofs.Workspace.Drawn
import Flowdesk.Proofs.Workspace.Burst
import Flowdesk.Proofs.Bus.Delivery
import Flowdesk.Proofs.Sync.Clash
import Flowdesk.Proofs.Debounce.Waiting
import Flowdesk.Proofs.Files.Hiding
import Flowdesk.Proofs.Address.Percent
import Flowdesk.Proofs.Address.RoundTrip
