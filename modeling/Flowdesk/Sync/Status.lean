import Flowdesk.Sync.Conflict
import Flowdesk.Data.NameSet

/-!
# The sync status of a document

The status says how the last sync ended or what stands in the way of the next:
which conflicts are active, how many changes wait to be carried over, and who is
connected. Clients are listed in increasing order.
-/

namespace Flowdesk.Sync

open Data

/-- What a document's sync is doing (`SyncStatus`). -/
inductive Phase where
  | idle
  | syncing
  | synced
  | conflict
  | error
  deriving DecidableEq, Repr, Inhabited

namespace Phase

/-- The name of a phase. -/
def name : Phase → String
  | .idle => "idle"
  | .syncing => "syncing"
  | .synced => "synced"
  | .conflict => "conflict"
  | .error => "error"

/-- All phases, in order. -/
def all : List Phase := [.idle, .syncing, .synced, .conflict, .error]

/-- The phase of a name. -/
def ofName? (written : String) : Option Phase := all.find? (·.name = written)

/-- A phase is found by its name. -/
theorem ofName?_name (phase : Phase) : ofName? phase.name = some phase := by
  cases phase <;> decide

end Phase

/-- The sync status of a document, as clients see it (`SyncStateInfo`). -/
structure Status where
  phase : Phase
  /-- Milliseconds on the clock of the day. -/
  lastSyncTime : Option UInt64
  /-- How many changes were counted since they were last carried over. The count has no bound
  here: the machine word that it stands for overflows only after more changes than any run sees. -/
  pendingChanges : Nat
  conflicts : List Conflict
  connectedClients : NameSet
  deriving DecidableEq, Repr

namespace Status

/-- The status of a document nobody has touched. -/
def initial : Status := ⟨.idle, none, 0, [], .empty⟩

instance : Inhabited Status := ⟨initial⟩

/-- Whether a conflict is active. -/
def hasConflicts (status : Status) : Bool := !status.conflicts.isEmpty

/-- The greatest count of pending changes that is read. -/
def greatestCount : Nat := UInt64.size - 1

/-- The fields of a status. -/
def fields {ν : Type} [Source ν] : Rec ν Status :=
  ((Rec.required "status" (oneOf Phase.ofName?)).both <|
    (Rec.field "lastSyncTime" (optional word64) (.assumedByName none)).both <|
    (Rec.required "pendingChanges" (Source.natural greatestCount)).both <|
    (Rec.required "conflicts" (listOf Conflict.fields.read)).both <|
    Rec.required "connectedClients" (listOf Source.text)).map
    fun (phase, lastSyncTime, pendingChanges, conflicts, clients) =>
      { phase, lastSyncTime, pendingChanges, conflicts,
        connectedClients := NameSet.ofList clients }

/-- Write a status. -/
def toJson (status : Status) : Json :=
  .object [("status", .text status.phase.name),
    ("lastSyncTime", Json.orNull .word64 status.lastSyncTime),
    ("pendingChanges", .natural status.pendingChanges),
    ("conflicts", .list (status.conflicts.map Conflict.toJson)),
    ("connectedClients", Json.texts status.connectedClients.names)]

/-- Write a status with no more of the time of its last sync than whether there is
one, given how conflicts are written. -/
def summary (writeConflict : Conflict → Json) (status : Status) : Json :=
  .object [("status", .text status.phase.name),
    ("lastSyncTime", if status.lastSyncTime.isSome then .boolean true else .null),
    ("pendingChanges", .natural status.pendingChanges),
    ("conflicts", .list (status.conflicts.map writeConflict)),
    ("connectedClients", Json.texts status.connectedClients.names)]

end Status

/-- What happened to a document as a whole (`ChangeType`). -/
inductive ChangeKind where
  | create
  | update
  | delete
  deriving DecidableEq, Repr

namespace ChangeKind

/-- The name of a kind. -/
def name : ChangeKind → String
  | .create => "create"
  | .update => "update"
  | .delete => "delete"

/-- All kinds, in order. -/
def all : List ChangeKind := [.create, .update, .delete]

/-- The kind of a name. -/
def ofName? (written : String) : Option ChangeKind := all.find? (·.name = written)

/-- A kind is found by its name. -/
theorem ofName?_name (kind : ChangeKind) : ofName? kind.name = some kind := by
  cases kind <;> decide

end ChangeKind

/-- The announcement of one committed change to other clients (`SyncEvent`). -/
structure Notice where
  uri : String
  method : Method
  client : String
  timestamp : UInt64
  version : UInt64
  kind : ChangeKind
  deriving DecidableEq, Repr

namespace Notice

/-- Whether a client must bring itself up to date after a change: it must unless it
made the change. -/
def requiresResync (notice : Notice) (client : String) : Bool := notice.client != client

/-- The fields of a notice. -/
def fields {ν : Type} [Source ν] : Rec ν Notice :=
  ((Rec.required "uri" Source.text).both <| (Rec.required "sourceMethod" Method.read).both <|
    (Rec.required "sourceClientId" Source.text).both <|
    (Rec.required "timestamp" word64).both <| (Rec.required "version" word64).both <|
    Rec.required "changeType" (oneOf ChangeKind.ofName?)).map
    fun (uri, method, client, timestamp, version, kind) =>
      { uri, method, client, timestamp, version, kind }

/-- Write a notice. -/
def toJson (notice : Notice) : Json :=
  .object [("uri", .text notice.uri), ("sourceMethod", notice.method.toJson),
    ("sourceClientId", .text notice.client), ("timestamp", .word64 notice.timestamp),
    ("version", .word64 notice.version), ("changeType", .text notice.kind.name)]

end Notice

end Flowdesk.Sync
