import Flowdesk.Sync.Checksum
import Flowdesk.Json.Source

/-!
# Versions of a document

A snapshot names one committed change: its version number, who made it and how,
when, and the checksum of the content if it is known. Two snapshots of the same
version agree only if both checksums are known and equal; otherwise the greater
version is ahead, and equal versions have parted.
-/

namespace Flowdesk.Sync

open Data

/-- How a client edits a document (`EditMethod`). -/
inductive Method where
  | text
  | graphical
  | form
  deriving DecidableEq, Repr, Inhabited

namespace Method

/-- The name of a method. -/
def name : Method → String
  | .text => "text"
  | .graphical => "graphical"
  | .form => "form"

/-- All methods, in order. -/
def all : List Method := [.text, .graphical, .form]

/-- The method of a name. -/
def ofName? (written : String) : Option Method := all.find? (·.name = written)

/-- A method is found by its name. -/
theorem ofName?_name (method : Method) : ofName? method.name = some method := by
  cases method <;> decide

/-- The method of a client that is not known. -/
def usual : Method := .text

/-- Read a method. -/
def read {ν : Type} [Source ν] (value : ν) : Reading Method := oneOf ofName? value

/-- Write a method. -/
def toJson (method : Method) : Json := .text method.name

end Method

/-- One committed change to a document (`VersionInfo`). -/
structure Snapshot where
  version : UInt64
  /-- Milliseconds on the clock of the day. -/
  timestamp : UInt64
  client : String
  method : Method
  checksum : Option String
  deriving DecidableEq, Repr

namespace Snapshot

/-- The fields of a snapshot. -/
def fields {ν : Type} [Source ν] : Rec ν Snapshot :=
  ((Rec.required "version" word64).both <| (Rec.required "timestamp" word64).both <|
    (Rec.required "clientId" Source.text).both <| (Rec.required "method" Method.read).both <|
    Rec.maybe "checksum" Source.text).map
    fun (version, timestamp, client, method, checksum) =>
      { version, timestamp, client, method, checksum }

/-- Write a snapshot. -/
def toJson (snapshot : Snapshot) : Json :=
  .object ([("version", .word64 snapshot.version), ("timestamp", .word64 snapshot.timestamp),
    ("clientId", .text snapshot.client), ("method", snapshot.method.toJson)] ++
    Json.given "checksum" .text snapshot.checksum)

end Snapshot

/-- How two snapshots of a document stand to one another (`VersionOrdering`). -/
inductive Standing where
  /-- The same version with the same content. -/
  | inSync
  /-- The remote side is ahead. -/
  | remoteNewer
  /-- The local side is ahead. -/
  | localNewer
  /-- The same version, but not known to be the same content. -/
  | diverged
  deriving DecidableEq, Repr

/-- The name of a standing. -/
def Standing.name : Standing → String
  | .inSync => "inSync"
  | .remoteNewer => "remoteNewer"
  | .localNewer => "localNewer"
  | .diverged => "diverged"

/-- Whether two snapshots have the same content, if both checksums are known. -/
def sameContent? (ours theirs : Snapshot) : Option Bool :=
  match ours.checksum, theirs.checksum with
  | some left, some right => some (left = right)
  | _, _ => none

/-- Compare two snapshots by version and checksum alone. -/
def compareVersions (ours theirs : Snapshot) : Standing :=
  if ours.version = theirs.version ∧ sameContent? ours theirs = some true then .inSync
  else if ours.version < theirs.version then .remoteNewer
  else if theirs.version < ours.version then .localNewer
  else .diverged

section Standing

variable {ours theirs : Snapshot}

theorem compareVersions_of_lt (newer : ours.version < theirs.version) :
    compareVersions ours theirs = .remoteNewer := by
  unfold compareVersions
  rw [if_neg fun same => UInt64.ne_of_lt newer same.1, if_pos newer]

theorem compareVersions_of_gt (older : theirs.version < ours.version) :
    compareVersions ours theirs = .localNewer := by
  unfold compareVersions
  rw [if_neg fun same => UInt64.ne_of_lt older same.1.symm,
    if_neg fun newer => UInt64.lt_asymm older newer, if_pos older]

/-- Snapshots of one version are in sync if their contents are known to be the same. -/
theorem compareVersions_of_eq (level : ours.version = theirs.version) :
    compareVersions ours theirs =
      if sameContent? ours theirs = some true then .inSync else .diverged := by
  unfold compareVersions
  rw [level, if_neg (UInt64.lt_irrefl theirs.version)]
  simp only [true_and, if_neg (UInt64.lt_irrefl theirs.version)]

end Standing

end Flowdesk.Sync
