import Flowdesk.Sync.Conflict
import Flowdesk.Data.Duration
import Flowdesk.Decimal.Numeral
import Flowdesk.Text.Blank
import Flowdesk.Text.Quoted

/-!
# Settings

The settings of a desk are written as a record in which every field may be left
out, or taken from variables of the environment. A variable may have blanks around
its value; the first one that cannot be read, in the fixed order of the variables,
stops the reading and is shown as it was given.

A duration is written as a number of milliseconds of 64 bits. One with more of them is
narrowed to the lowest 64 bits, without a word about it, and read back as a shorter one.
-/

namespace Flowdesk.Sync

open Data

/-- The settings of a desk (`SyncConfig`). -/
structure Settings where
  /-- How often pending changes are carried over in the background. -/
  autoSyncInterval : Duration
  autoSyncEnabled : Bool
  resolution : Policy
  /-- How long one attempt may take. -/
  timeout : Duration
  /-- How often a failed attempt is repeated. -/
  maxRetries : UInt32
  /-- How long a document must be left alone before its changes are carried over. -/
  debounceDelay : Duration
  deriving DecidableEq, Repr

namespace Settings

/-- The settings of a desk that was told nothing. -/
def usual : Settings where
  autoSyncInterval := 500
  autoSyncEnabled := true
  resolution := .useRemote
  timeout := 5000
  maxRetries := 3
  debounceDelay := 250

/-- A duration, written as its number of milliseconds. -/
def duration {ν : Type} [Source ν] (value : ν) : Reading Duration := do
  return Duration.ofMillis (← word64 value)

/-- The fields of the settings. -/
def fields {ν : Type} [Source ν] : Rec ν Settings :=
  ((Rec.assumed "autoSyncInterval" duration usual.autoSyncInterval).both <|
    (Rec.assumed "autoSyncEnabled" Source.truth usual.autoSyncEnabled).both <|
    (Rec.assumed "defaultConflictResolution" (oneOf Policy.ofName?) usual.resolution).both <|
    (Rec.assumed "syncTimeout" duration usual.timeout).both <|
    (Rec.assumed "maxRetries" word32 usual.maxRetries).both <|
    Rec.assumed "debounceDelay" duration usual.debounceDelay).map
    fun (autoSyncInterval, autoSyncEnabled, resolution, timeout, maxRetries, debounceDelay) =>
      { autoSyncInterval, autoSyncEnabled, resolution, timeout, maxRetries, debounceDelay }

/-- Write the settings. -/
def toJson (settings : Settings) : Json :=
  .object [("autoSyncInterval", .word64 settings.autoSyncInterval.millis),
    ("autoSyncEnabled", .boolean settings.autoSyncEnabled),
    ("defaultConflictResolution", .text settings.resolution.name),
    ("syncTimeout", .word64 settings.timeout.millis),
    ("maxRetries", .natural settings.maxRetries.toNat),
    ("debounceDelay", .word64 settings.debounceDelay.millis)]

/-- What is left of settings that were written: every duration has lost the bits that do not
fit into a word. -/
def kept (settings : Settings) : Settings :=
  { settings with
    autoSyncInterval := settings.autoSyncInterval.kept
    timeout := settings.timeout.kept
    debounceDelay := settings.debounceDelay.kept }

/-- Settings are kept as they are exactly when a word can count the milliseconds of each
duration. -/
theorem kept_eq_iff (settings : Settings) :
    settings.kept = settings ↔ settings.autoSyncInterval.toNat < UInt64.size ∧
      settings.timeout.toNat < UInt64.size ∧ settings.debounceDelay.toNat < UInt64.size := by
  rw [← Duration.kept_eq_iff, ← Duration.kept_eq_iff, ← Duration.kept_eq_iff]
  cases settings with
  | mk interval enabled resolution timeout retries delay => simp [kept]

/-- A variable whose value cannot be read (`ConfigError`). -/
structure BadVariable where
  name : String
  value : String
  deriving DecidableEq, Repr

/-- The text shown for such a variable. -/
def BadVariable.message (bad : BadVariable) : String :=
  "invalid value for " ++ bad.name ++ ": " ++ Text.quoted bad.value

/-- The value of a variable, if it is set. -/
def setVariable {α : Type} (read : List Char → Option α) (name : String) (value : Option String) :
    Except BadVariable (Option α) :=
  match value with
  | none => .ok none
  | some written =>
      match read (Text.trimChars written.toList) with
      | some value => .ok (some value)
      | none => .error ⟨name, written⟩

/-- A number of 64 bits. -/
def word64? (written : List Char) : Option UInt64 :=
  (Decimal.boundedNatural? (UInt64.size - 1) written).map UInt64.ofNat

/-- A duration, given as its number of milliseconds. -/
def duration? (written : List Char) : Option Duration := (word64? written).map Duration.ofMillis

/-- A number of 32 bits. -/
def word32? (written : List Char) : Option UInt32 :=
  (Decimal.boundedNatural? (UInt32.size - 1) written).map UInt32.ofNat

/-- A truth value. -/
def truth? (written : List Char) : Option Bool :=
  if written = "true".toList then some true
  else if written = "false".toList then some false
  else none

/-- A policy. -/
def policy? (written : List Char) : Option Policy := Policy.ofName? (String.ofList written)

/-- The names of the variables, in the order in which they are read. -/
def variableNames : List String :=
  ["WORKFLOW_SYNC_AUTO_SYNC_INTERVAL_MS", "WORKFLOW_SYNC_AUTO_SYNC_ENABLED",
    "WORKFLOW_SYNC_CONFLICT_RESOLUTION", "WORKFLOW_SYNC_TIMEOUT_MS", "WORKFLOW_SYNC_MAX_RETRIES",
    "WORKFLOW_SYNC_DEBOUNCE_MS"]

/-- The usual settings with those that variables override. -/
def ofVariables (lookup : String → Option String) : Except BadVariable Settings := do
  let read {α : Type} (reader : List Char → Option α) (name : String) (default : α) :
      Except BadVariable α := return (← setVariable reader name (lookup name)).getD default
  let autoSyncInterval ←
    read duration? "WORKFLOW_SYNC_AUTO_SYNC_INTERVAL_MS" usual.autoSyncInterval
  let autoSyncEnabled ← read truth? "WORKFLOW_SYNC_AUTO_SYNC_ENABLED" usual.autoSyncEnabled
  let resolution ← read policy? "WORKFLOW_SYNC_CONFLICT_RESOLUTION" usual.resolution
  let timeout ← read duration? "WORKFLOW_SYNC_TIMEOUT_MS" usual.timeout
  let maxRetries ← read word32? "WORKFLOW_SYNC_MAX_RETRIES" usual.maxRetries
  let debounceDelay ← read duration? "WORKFLOW_SYNC_DEBOUNCE_MS" usual.debounceDelay
  return { autoSyncInterval, autoSyncEnabled, resolution, timeout, maxRetries, debounceDelay }

example : (ofVariables fun _ => none) = .ok usual := rfl

end Settings

end Flowdesk.Sync
