import Flowdesk.Proofs.Json.Reading
import Flowdesk.Sync.Settings
import Flowdesk.Sync.Status

/-!
# What is told of syncs is read as it was written

Snapshots, conflicts, notices, statuses and settings are records of texts, counts and
choices. Each is read field by field as it was written, from a tree as it is or from one
that was set aside, and its text says what its tree is. Of settings only that much comes back
as their durations kept when they were narrowed to words.
-/

namespace Flowdesk

open Data

/-- The set of the members of a set is that set. -/
theorem Data.NameSet.ofList_names (set : NameSet) : NameSet.ofList set.names = set := by
  refine NameSet.ext_of_mem _ _ fun name => ?_
  rw [NameSet.ofList, NameSet.mem_foldl_insert]
  simp [NameSet.mem_def, NameSet.empty]

namespace Sync

open Json

variable {ν : Type} [Source ν] {view : Json → ν}

section Reads

variable (views : Views view)

include views

/-- A way of editing is read from its name. -/
theorem Method.read_toJson (method : Method) : Method.read (view method.toJson) = pure method :=
  views.read_oneOf (Method.ofName?_name method)

theorem Snapshot.read_toJson (snapshot : Snapshot) :
    Snapshot.fields.read (view snapshot.toJson) = pure snapshot := by
  have reads := (reads_member "version" .refused (views.read_word64 snapshot.version)).both
    ((reads_member "timestamp" .refused (views.read_word64 snapshot.timestamp)).both
      ((reads_member "clientId" .refused (views.text snapshot.client)).both
        ((reads_member "method" .refused (Method.read_toJson views snapshot.method)).both
          (views.reads_given_text "checksum" snapshot.checksum) (by decide))
        (by decide)) (by decide)) (by decide)
  exact views.read_record (reads.map _) rfl

theorem Conflict.read_toJson (conflict : Conflict) :
    Conflict.fields.read (view conflict.toJson) = pure conflict := by
  have kind : oneOf ConflictKind.ofName? (view (.text conflict.kind.name)) = pure conflict.kind :=
    views.read_oneOf (ConflictKind.ofName?_name conflict.kind)
  have reads := (reads_member "uri" .refused (views.text conflict.uri)).both
    ((reads_member "localVersion" .refused (views.read_word64 conflict.localVersion)).both
      ((reads_member "remoteVersion" .refused (views.read_word64 conflict.remoteVersion)).both
        ((reads_member "localMethod" .refused (Method.read_toJson views conflict.localMethod)).both
          ((reads_member "remoteMethod" .refused
              (Method.read_toJson views conflict.remoteMethod)).both
            ((reads_member "localTimestamp" .refused
                (views.read_word64 conflict.localTimestamp)).both
              ((reads_member "remoteTimestamp" .refused
                  (views.read_word64 conflict.remoteTimestamp)).both
                ((reads_member "conflictType" .refused kind).both
                  (reads_member "description" .refused (views.text conflict.description))
                  (by decide)) (by decide)) (by decide)) (by decide)) (by decide)) (by decide))
      (by decide)) (by decide)
  exact views.read_record (reads.map _) rfl

theorem Notice.read_toJson (notice : Notice) :
    Notice.fields.read (view notice.toJson) = pure notice := by
  have kind : oneOf ChangeKind.ofName? (view (.text notice.kind.name)) = pure notice.kind :=
    views.read_oneOf (ChangeKind.ofName?_name notice.kind)
  have reads := (reads_member "uri" .refused (views.text notice.uri)).both
    ((reads_member "sourceMethod" .refused (Method.read_toJson views notice.method)).both
      ((reads_member "sourceClientId" .refused (views.text notice.client)).both
        ((reads_member "timestamp" .refused (views.read_word64 notice.timestamp)).both
          ((reads_member "version" .refused (views.read_word64 notice.version)).both
            (reads_member "changeType" .refused kind) (by decide))
          (by decide)) (by decide)) (by decide)) (by decide)
  exact views.read_record (reads.map _) rfl

/-- A status is read as it was written if its count is one of 64 bits. -/
theorem Status.read_toJson {status : Status} (counted : status.pendingChanges < UInt64.size) :
    Status.fields.read (view status.toJson) = pure status := by
  have phase : oneOf Phase.ofName? (view (.text status.phase.name)) = pure status.phase :=
    views.read_oneOf (Phase.ofName?_name status.phase)
  have time : optional Data.word64 (view (Json.orNull Json.word64 status.lastSyncTime)) =
      pure status.lastSyncTime :=
    views.read_orNull fun value _ => ⟨rfl, views.read_word64 value⟩
  have pending : Source.natural Status.greatestCount (view (.natural status.pendingChanges)) =
      pure status.pendingChanges := views.natural _ _ (Nat.le_sub_one_of_lt counted)
  have conflicts : listOf Conflict.fields.read
      (view (.list (status.conflicts.map Conflict.toJson))) = pure status.conflicts :=
    views.read_listOf fun conflict _ => Conflict.read_toJson views conflict
  have clients := views.read_texts status.connectedClients.names
  have reads := (reads_member "status" .refused phase).both
    ((reads_member "lastSyncTime" (.assumedByName none) time).both
      ((reads_member "pendingChanges" .refused pending).both
        ((reads_member "conflicts" .refused conflicts).both
          (reads_member "connectedClients" .refused clients) (by decide))
        (by decide)) (by decide)) (by decide)
  have whole : Status.fields.read (view status.toJson) =
      pure { status with
        connectedClients := NameSet.ofList status.connectedClients.names } :=
    views.read_record (reads.map _) rfl
  rwa [NameSet.ofList_names] at whole

/-- A duration is read as what was kept of it when it was written. -/
theorem read_duration (duration : Duration) :
    Settings.duration (view (.word64 duration.millis)) = pure duration.kept := by
  rw [Settings.duration, views.read_word64, pure_bind]
  rfl

/-- Settings are read as what was kept of them when they were written. -/
theorem Settings.read_toJson (settings : Settings) :
    Settings.fields.read (view settings.toJson) = pure settings.kept := by
  have resolution : oneOf Policy.ofName? (view (.text settings.resolution.name)) =
      pure settings.resolution := views.read_oneOf (Policy.ofName?_name settings.resolution)
  have reads := (reads_member "autoSyncInterval" (.assumed Settings.usual.autoSyncInterval)
      (read_duration views settings.autoSyncInterval)).both
    ((reads_member "autoSyncEnabled" (.assumed Settings.usual.autoSyncEnabled)
        (views.truth settings.autoSyncEnabled)).both
      ((reads_member "defaultConflictResolution" (.assumed Settings.usual.resolution)
          resolution).both
        ((reads_member "syncTimeout" (.assumed Settings.usual.timeout)
            (read_duration views settings.timeout)).both
          ((reads_member "maxRetries" (.assumed Settings.usual.maxRetries)
              (views.read_word32 settings.maxRetries)).both
            (reads_member "debounceDelay" (.assumed Settings.usual.debounceDelay)
              (read_duration views settings.debounceDelay)) (by decide))
          (by decide)) (by decide)) (by decide)) (by decide)
  exact views.read_record (reads.map _) rfl

end Reads

section Texts

variable (depth : Nat)

@[simp] theorem Method.faithful_toJson (method : Method) : Faithful depth method.toJson :=
  .text depth method.name

theorem Snapshot.faithful_toJson (snapshot : Snapshot) : Faithful (depth + 1) snapshot.toJson := by
  simp [Snapshot.toJson]

theorem Conflict.faithful_toJson (conflict : Conflict) : Faithful (depth + 1) conflict.toJson := by
  simp [Conflict.toJson]

theorem Notice.faithful_toJson (notice : Notice) : Faithful (depth + 1) notice.toJson := by
  simp [Notice.toJson]

/-- A status is faithful as long as a word can hold the count of its pending changes. -/
theorem Status.faithful_toJson {status : Status} (counted : status.pendingChanges < UInt64.size) :
    Faithful (depth + 3) status.toJson := by
  have time : Faithful (depth + 2) (Json.orNull Json.word64 status.lastSyncTime) :=
    faithful_orNull fun value _ => faithful_word64 _ value
  have conflicts : Faithful (depth + 2) (.list (status.conflicts.map Conflict.toJson)) :=
    faithful_list fun conflict _ => Conflict.faithful_toJson depth conflict
  simp [Status.toJson, time, conflicts, faithful_natural counted]

/-- Settings are faithful whatever their durations, since words are written for these. -/
theorem Settings.faithful_toJson (settings : Settings) : Faithful (depth + 1) settings.toJson := by
  have retries : Faithful depth (.natural settings.maxRetries.toNat) :=
    faithful_natural (Nat.lt_trans settings.maxRetries.toNat_lt_size (by decide))
  simp [Settings.toJson, retries]

end Texts

end Sync

end Flowdesk
