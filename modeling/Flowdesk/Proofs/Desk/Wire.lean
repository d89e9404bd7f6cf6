import Flowdesk.Desk.Request
import Flowdesk.Proofs.Sync.Wire
import Flowdesk.Proofs.Workflow.Wire

/-!
# What goes over the wire arrives as it was sent

Everything that is both written and read is read from its text as the value it was written
from. The text says what the tree is, and the tree what the value is, whichever members were
left out. An edit also arrives inside a request, where it is set aside until it is known
what is asked.

There is one exception. A duration is written as a word of 64 bits, to which its number of
milliseconds is narrowed without a check. Settings with a duration of more milliseconds than a
word can count are read back as settings with a shorter one.
-/

namespace Flowdesk

open Data Json Sync Workflow

namespace Request

/-- The line of a request is read like any other text. -/
theorem parse_eq_decode : parse = decode Request.read := rfl

/-- The tree of a request to carry out an edit. -/
def patchJson (uri client : String) (change : Patch) : Json :=
  .object [("type", .text "patch"), ("uri", .text uri), ("clientId", .text client),
    ("patch", change.toJson)]

/-- An edit arrives in a request as it was written.

Proof: the type of the request is looked for first, which sets the other members aside. The
edit among them is read from what was set aside, where it reads the same as from a tree. -/
theorem parse_patch (uri client : String) {change : Patch}
    (printed : ∀ x ∈ change.coordinates, Prints x) :
    parse (patchJson uri client change).write = .ok (.patch uri client change) := by
  have edit := Patch.faithful_toJson 123 printed
  have members : FaithfulMembers 126
      [("uri", .text uri), ("clientId", .text client), ("patch", change.toJson)] := by
    simp [edit]
  have reads := (reads_member "uri" .refused (views_held.text uri)).both
    ((reads_member "clientId" .refused (views_held.text client)).both
      (reads_member "patch" .refused (Patch.read_toJson unites_held printed)) (by decide))
    (by decide)
  rw [parse_eq_decode]
  refine decode_write ?_ ?_
  · exact .object 126 _ (List.forall_mem_cons.mpr ⟨.text 126 "patch", members⟩)
  · rw [patchJson, Request.read, unites_tree.read_tagged (by decide) (by simp) members, pure_bind]
    exact (reads.map _).ofShape

end Request

namespace Desk

/-- Settings are read as what was kept of them when their durations were narrowed to words. -/
theorem decode_settings (settings : Settings) :
    decode Settings.fields.read settings.toJson.write = .ok settings.kept :=
  decode_write (Settings.faithful_toJson _ settings) (Settings.read_toJson views_tree settings)

/-- The texts of snapshots, conflicts, notices, statuses, edits and documents are read as the
values they were written from, if counts of pending changes are of 64 bits and the text of
each coordinate names it; edits are so inside a request too. The text of settings is read as
the settings it was written from exactly when a word of 64 bits can count the milliseconds of
each of their durations.

Proof: each kind of value has two laws, that the text of its tree says what the tree is and
that the tree is read as the value. Settings are read as what was kept of them, and these are
the same settings exactly when no duration was narrowed. -/
theorem wire_round_trip :
    (∀ snapshot : Snapshot,
      decode Snapshot.fields.read snapshot.toJson.write = .ok snapshot) ∧
    (∀ conflict : Conflict,
      decode Conflict.fields.read conflict.toJson.write = .ok conflict) ∧
    (∀ notice : Notice, decode Notice.fields.read notice.toJson.write = .ok notice) ∧
    (∀ status : Status, status.pendingChanges < UInt64.size →
      decode Status.fields.read status.toJson.write = .ok status) ∧
    (∀ settings : Settings, decode Settings.fields.read settings.toJson.write = .ok settings ↔
      settings.autoSyncInterval.toNat < UInt64.size ∧ settings.timeout.toNat < UInt64.size ∧
        settings.debounceDelay.toNat < UInt64.size) ∧
    (∀ patch : Patch, (∀ x ∈ patch.coordinates, Prints x) →
      decode Patch.read patch.toJson.write = .ok patch ∧ ∀ uri client : String,
        Request.parse (Request.patchJson uri client patch).write = .ok (.patch uri client patch)) ∧
    (∀ document : Document, (∀ x ∈ document.coordinates, Prints x) →
      decode Document.fields.read document.toJson.write = .ok document) := by
  refine ⟨?_, ?_, ?_, ?_, ?_, ?_, ?_⟩
  · exact fun snapshot =>
      decode_write (Snapshot.faithful_toJson _ snapshot) (Snapshot.read_toJson views_tree snapshot)
  · exact fun conflict =>
      decode_write (Conflict.faithful_toJson _ conflict) (Conflict.read_toJson views_tree conflict)
  · exact fun notice =>
      decode_write (Notice.faithful_toJson _ notice) (Notice.read_toJson views_tree notice)
  · exact fun status counted =>
      decode_write (Status.faithful_toJson _ counted) (Status.read_toJson views_tree counted)
  · intro settings
    rw [decode_settings, ← settings.kept_eq_iff]
    exact ⟨fun same => Except.ok.inj same, fun same => congrArg Except.ok same⟩
  · exact fun patch printed =>
      ⟨decode_write (Patch.faithful_toJson _ printed) (Patch.read_toJson unites_tree printed),
        fun uri client => Request.parse_patch uri client printed⟩
  · exact fun document printed =>
      decode_write (Document.faithful_toJson _ printed) (Document.read_toJson views_tree document)

/-- Settings under which an attempt may take more milliseconds than a word can count. -/
def patient : Settings := { Settings.usual with timeout := ⟨18446744073709552, 0⟩ }

/-- Such settings do not come back: of their limit 384 milliseconds are left. -/
theorem long_limit_is_cut_short :
    decode Settings.fields.read patient.toJson.write = .ok { patient with timeout := 384 } ∧
      decode Settings.fields.read patient.toJson.write ≠ .ok patient := by
  have left : patient.kept = { patient with timeout := 384 } := by decide
  rw [decode_settings, left]
  exact ⟨rfl, fun same => absurd (Except.ok.inj same) (by decide)⟩

/-- A status with as many pending changes as there can be. -/
def crowded : Status where
  phase := .conflict
  lastSyncTime := none
  pendingChanges := Status.greatestCount
  conflicts := [⟨"", 0, 0xFFFFFFFFFFFFFFFF, .text, .form, 1, 2, .concurrentEdit, "a\t\"b\"\\"⟩]
  connectedClients := NameSet.ofList ["t1", "", "g1"]

/-- Settings with the longest durations that a word can count. -/
def unhurried : Settings where
  autoSyncInterval := 0xFFFFFFFFFFFFFFFF
  autoSyncEnabled := false
  resolution := .manual
  timeout := 0xFFFFFFFFFFFFFFFF
  maxRetries := 0xFFFFFFFF
  debounceDelay := 0

/-- An edit with texts that are escaped, and without a lane. -/
def oddEdit : Patch :=
  .createNode {
    id := "\"\\/\x08\x7f\u2028😀"
    kind := .decisionTable
    label := some "null"
    position := some ⟨10.0, -2.5⟩
    size := some ⟨0.1, 1e22⟩
    properties := Dictionary.ofList [("op", "\x00"), ("", "\r\n")] } none

/-- A document with elements that are nearly empty. -/
def sparse : Document where
  flow := some {
    name := ""
    description := none
    nodes := [{
      id := ""
      kind := .start
      label := none
      position := some ⟨-0.0, 5e-324⟩
      size := none
      properties := Dictionary.empty }]
    edges := [{ id := "", source := "", target := "", label := some "" }]
    lanes := [{ id := "", name := "", nodes := [""] }] }

/-- Values at the ends of their ranges and texts that look like something else arrive. -/
theorem odd_values_arrive :
    decode Status.fields.read crowded.toJson.write = .ok crowded ∧
      decode Settings.fields.read unhurried.toJson.write = .ok unhurried ∧
      decode Patch.read oddEdit.toJson.write = .ok oddEdit ∧
      decode Document.fields.read sparse.toJson.write = .ok sparse := by
  obtain ⟨-, -, -, status, settings, patch, document⟩ := wire_round_trip
  exact ⟨status crowded (by decide), (settings unhurried).mpr (by decide),
    (patch oddEdit (by decide +kernel)).1, document sparse (by decide +kernel)⟩

end Desk

end Flowdesk
