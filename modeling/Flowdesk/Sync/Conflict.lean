import Flowdesk.Sync.Version

/-!
# Conflicts

Two snapshots conflict when they have parted and either their contents are known
to differ or, where a checksum is missing, they were made within a second of one
another. A difference in content is reported before nearness in time is looked
at. A conflict records both sides; the policy of the desk says which side to
replay, or that a client must decide.
-/

namespace Flowdesk.Sync

open Data

/-- Edits less than this many milliseconds apart are concurrent. -/
def concurrencyWindow : Nat := 1000

/-- What kind of disagreement a conflict is (`ConflictType`). -/
inductive ConflictKind where
  | versionMismatch
  | concurrentEdit
  | dataInconsistency
  deriving DecidableEq, Repr

namespace ConflictKind

/-- The name of a kind. -/
def name : ConflictKind → String
  | .versionMismatch => "version_mismatch"
  | .concurrentEdit => "concurrent_edit"
  | .dataInconsistency => "data_inconsistency"

/-- All kinds, in order. -/
def all : List ConflictKind := [.versionMismatch, .concurrentEdit, .dataInconsistency]

/-- The kind of a name. -/
def ofName? (written : String) : Option ConflictKind := all.find? (·.name = written)

/-- A kind is found by its name. -/
theorem ofName?_name (kind : ConflictKind) : ofName? kind.name = some kind := by
  cases kind <;> decide

end ConflictKind

/-- The representation that wins a resolution (`PreferSource`). -/
inductive Side where
  /-- The model held by a graphical session. -/
  | graph
  /-- The text of the document. -/
  | semantic
  deriving DecidableEq, Repr

namespace Side

/-- The name of a side. -/
def name : Side → String
  | .graph => "graph"
  | .semantic => "semantic"

/-- All sides, in order. -/
def all : List Side := [.graph, .semantic]

/-- The side of a name. -/
def ofName? (written : String) : Option Side := all.find? (·.name = written)

end Side

/-- Which way a sync carries changes (`SyncDirection`). -/
inductive Direction where
  | graphToSemantic
  | semanticToGraph
  deriving DecidableEq, Repr

namespace Direction

/-- The name of a direction. -/
def name : Direction → String
  | .graphToSemantic => "graph_to_semantic"
  | .semanticToGraph => "semantic_to_graph"

/-- The direction of a name. -/
def ofName? (written : String) : Option Direction :=
  [graphToSemantic, semanticToGraph].find? (·.name = written)

end Direction

/-- The direction that carries a side's content to the other. -/
def Side.direction : Side → Direction
  | .graph => .graphToSemantic
  | .semantic => .semanticToGraph

/-- What the desk does about a conflict by itself (`ConflictResolution`). -/
inductive Policy where
  /-- Push the reconciled model back to the document. -/
  | useLocal
  /-- Accept the change that came in. -/
  | useRemote
  /-- Wait for a client to decide. -/
  | manual
  deriving DecidableEq, Repr

namespace Policy

/-- The name of a policy. -/
def name : Policy → String
  | .useLocal => "use_local"
  | .useRemote => "use_remote"
  | .manual => "manual"

/-- All policies, in order. -/
def all : List Policy := [.useLocal, .useRemote, .manual]

/-- The policy of a name. -/
def ofName? (written : String) : Option Policy := all.find? (·.name = written)

/-- A policy is found by its name. -/
theorem ofName?_name (policy : Policy) : ofName? policy.name = some policy := by
  cases policy <;> decide

/-- The side to replay, unless a client must decide. -/
def preferred : Policy → Option Side
  | .useLocal => some .graph
  | .useRemote => some .semantic
  | .manual => none

end Policy

/-- Two snapshots of a document that disagree (`SyncConflict`). -/
structure Conflict where
  uri : String
  localVersion : UInt64
  remoteVersion : UInt64
  localMethod : Method
  remoteMethod : Method
  localTimestamp : UInt64
  remoteTimestamp : UInt64
  kind : ConflictKind
  description : String
  deriving DecidableEq, Repr

namespace Conflict

/-- The conflict of a kind between two snapshots. -/
def between (uri : String) (ours theirs : Snapshot) (kind : ConflictKind)
    (description : String) : Conflict where
  uri := uri
  localVersion := ours.version
  remoteVersion := theirs.version
  localMethod := ours.method
  remoteMethod := theirs.method
  localTimestamp := ours.timestamp
  remoteTimestamp := theirs.timestamp
  kind := kind
  description := description

/-- The fields of a conflict. -/
def fields {ν : Type} [Source ν] : Rec ν Conflict :=
  ((Rec.required "uri" Source.text).both <| (Rec.required "localVersion" word64).both <|
    (Rec.required "remoteVersion" word64).both <| (Rec.required "localMethod" Method.read).both <|
    (Rec.required "remoteMethod" Method.read).both <|
    (Rec.required "localTimestamp" word64).both <|
    (Rec.required "remoteTimestamp" word64).both <|
    (Rec.required "conflictType" (oneOf ConflictKind.ofName?)).both <|
    Rec.required "description" Source.text).map
    fun (uri, localVersion, remoteVersion, localMethod, remoteMethod, localTimestamp,
        remoteTimestamp, kind, description) =>
      { uri, localVersion, remoteVersion, localMethod, remoteMethod, localTimestamp,
        remoteTimestamp, kind, description }

/-- Write a conflict. -/
def toJson (conflict : Conflict) : Json :=
  .object [("uri", .text conflict.uri), ("localVersion", .word64 conflict.localVersion),
    ("remoteVersion", .word64 conflict.remoteVersion),
    ("localMethod", conflict.localMethod.toJson), ("remoteMethod", conflict.remoteMethod.toJson),
    ("localTimestamp", .word64 conflict.localTimestamp),
    ("remoteTimestamp", .word64 conflict.remoteTimestamp),
    ("conflictType", .text conflict.kind.name), ("description", .text conflict.description)]

/-- Write a conflict without the times of its sides. -/
def timeless (conflict : Conflict) : Json :=
  conflict.toJson.without ["localTimestamp", "remoteTimestamp"]

end Conflict

/-- How far apart two timestamps are, in either order. -/
def timeBetween (first second : UInt64) : Nat :=
  max first.toNat second.toNat - min first.toNat second.toNat

/-- The conflict between two snapshots of a document, if there is one. -/
def detectConflict (uri : String) (ours theirs : Snapshot) : Option Conflict :=
  match compareVersions ours theirs with
  | .inSync | .remoteNewer | .localNewer => none
  | .diverged =>
      if sameContent? ours theirs = some false then
        some (.between uri ours theirs .dataInconsistency
          ("version " ++ toString ours.version.toNat ++ " has different content in " ++
            ours.method.name ++ " and " ++ theirs.method.name ++ " edits"))
      else if timeBetween ours.timestamp theirs.timestamp < concurrencyWindow then
        some (.between uri ours theirs .concurrentEdit
          (ours.method.name ++ " and " ++ theirs.method.name ++ " edits to version " ++
            toString ours.version.toNat ++ " within " ++ toString concurrencyWindow ++ "ms"))
      else none

end Flowdesk.Sync
