import Flowdesk.Data.NameSet
import Flowdesk.Sync.Version

/-!
# Drafts

A draft is the text of one open document. Its version grows with every revision:
a client claims a version for its edit, and gets that or the next free one,
whichever is greater. The greatest version of all cannot be revised any further.
-/

namespace Flowdesk

open Data Sync

/-- One committed text of a draft. -/
structure Revision where
  /-- The version the client claimed for its edit. -/
  claimed : UInt64
  /-- The version the edit was given. -/
  version : UInt64
  client : String
  /-- Milliseconds on the clock of the day. -/
  timestamp : UInt64
  checksum : String
  deriving DecidableEq, Repr

namespace Revision

/-- The fields of a revision. -/
def fields {ν : Type} [Source ν] : Rec ν Revision :=
  ((Rec.required "claimedVersion" word64).both <| (Rec.required "version" word64).both <|
    (Rec.required "clientId" Source.text).both <| (Rec.required "timestamp" word64).both <|
    Rec.required "checksum" Source.text).map
    fun (claimed, version, client, timestamp, checksum) =>
      { claimed, version, client, timestamp, checksum }

/-- Write a revision without its timestamp. -/
def toJson (revision : Revision) : Json :=
  .object [("claimedVersion", .word64 revision.claimed), ("version", .word64 revision.version),
    ("clientId", .text revision.client), ("checksum", .text revision.checksum)]

end Revision

/-- The text of an open document (`TextDocument`). -/
structure Draft where
  uri : String
  language : String
  text : String
  version : UInt64
  /-- The client that produced the version. -/
  author : String
  /-- The clients that hold the document open. -/
  holders : NameSet
  deriving DecidableEq, Repr

namespace Draft

/-- The language of a document whose client names none. -/
def usualLanguage : String := "workflow"

/-- The greatest version. -/
def lastVersion : UInt64 := 0xFFFFFFFFFFFFFFFF

/-- A draft that nobody holds yet. -/
def create (uri language : String) (version : UInt64) (text author : String) : Draft :=
  ⟨uri, language, text, version, author, .empty⟩

/-- The revision that describes a draft as it is. -/
def current (draft : Draft) (now : UInt64) : Revision :=
  ⟨draft.version, draft.version, draft.author, now, checksum draft.text⟩

/-- The version after that of a draft, which stays at the last one. -/
def nextVersion (draft : Draft) : UInt64 :=
  if draft.version = lastVersion then lastVersion else draft.version + 1

/-- The draft with another text, and the revision that records it; nothing when no
version is left. -/
def revise (draft : Draft) (claimed : UInt64) (text client : String) (now : UInt64) :
    Option (Draft × Revision) :=
  if draft.version = lastVersion then none
  else
    let version := max claimed (draft.version + 1)
    some ({ draft with text := text, version := version, author := client },
      ⟨claimed, version, client, now, checksum text⟩)

/-- Write a draft. -/
def toJson (draft : Draft) : Json :=
  .object [("uri", .text draft.uri), ("languageId", .text draft.language),
    ("text", .text draft.text), ("version", .word64 draft.version),
    ("author", .text draft.author), ("holders", Json.texts draft.holders.names)]

/-- What a revision comes to, where there is one. -/
theorem revise_eq_some {draft revised : Draft} {claimed : UInt64} {text client : String}
    {now : UInt64} {revision : Revision}
    (done : draft.revise claimed text client now = some (revised, revision)) :
    draft.version ≠ lastVersion ∧
      revised = { draft with
        text := text, version := max claimed (draft.version + 1), author := client } ∧
      revision = ⟨claimed, max claimed (draft.version + 1), client, now, checksum text⟩ := by
  unfold revise at done
  split at done
  · exact nomatch done
  · next notLast =>
    simp only [Option.some.injEq, Prod.mk.injEq] at done
    exact ⟨notLast, done.1.symm, done.2.symm⟩

/-- A version that is not the last one has a next one. -/
theorem toNat_succ {version : UInt64} (notLast : version ≠ lastVersion) :
    (version + 1).toNat = version.toNat + 1 := by
  have bound := version.toNat_lt
  have different : version.toNat ≠ lastVersion.toNat := fun same =>
    notLast (UInt64.toNat_inj.mp same)
  have last : lastVersion.toNat = 2 ^ 64 - 1 := rfl
  have one : (1 : UInt64).toNat = 1 := rfl
  rw [UInt64.toNat_add]
  omega

/-- A version that has a next one is below it. -/
theorem lt_succ {version : UInt64} (notLast : version ≠ lastVersion) : version < version + 1 := by
  rw [UInt64.lt_iff_toNat_lt, toNat_succ notLast]
  exact Nat.lt_succ_self _

/-- A version that is below another one is not the last. -/
theorem ne_last_of_lt {version higher : UInt64} (below : version < higher) :
    version ≠ lastVersion := by
  rintro rfl
  have bound := higher.toNat_lt
  have last : lastVersion.toNat = 2 ^ 64 - 1 := rfl
  rw [UInt64.lt_iff_toNat_lt] at below
  omega

/-- An edit that claims a version above that of the draft gets the version it claims. -/
theorem revise_above {draft : Draft} {claimed : UInt64} (above : draft.version < claimed)
    (text client : String) (now : UInt64) :
    draft.revise claimed text client now =
      some ({ draft with text, version := claimed, author := client },
        ⟨claimed, claimed, client, now, checksum text⟩) := by
  have notLast := ne_last_of_lt above
  have next : draft.version + 1 ≤ claimed := by
    rw [UInt64.le_iff_toNat_le, toNat_succ notLast]
    exact UInt64.lt_iff_toNat_lt.mp above
  have higher : max claimed (draft.version + 1) = claimed := by
    simp only [max]
    split
    · next below => exact UInt64.le_antisymm next below
    · rfl
  simp only [revise, if_neg notLast, higher]

/-- A draft that has a version left can be given a text at the next one. -/
theorem revise_next {draft : Draft} (left : draft.version ≠ lastVersion) (text client : String)
    (now : UInt64) :
    draft.revise draft.nextVersion text client now =
      some ({ draft with text, version := draft.version + 1, author := client },
        ⟨draft.version + 1, draft.version + 1, client, now, checksum text⟩) := by
  rw [nextVersion, if_neg left]
  exact revise_above (lt_succ left) text client now

/-- A revision raises the version. -/
theorem version_lt_of_revise (draft revised : Draft) (claimed : UInt64) (text client : String)
    (now : UInt64) (revision : Revision)
    (done : draft.revise claimed text client now = some (revised, revision)) :
    draft.version < revised.version := by
  simp only [revise] at done
  split at done
  · exact absurd done (by simp)
  · next notLast =>
    simp only [Option.some.injEq, Prod.mk.injEq] at done
    obtain ⟨rfl, rfl⟩ := done
    have grown := lt_succ notLast
    show draft.version < max claimed (draft.version + 1)
    simp only [max]
    split
    · exact grown
    · next notAbove => exact UInt64.lt_trans grown (UInt64.not_le.mp notAbove)

end Draft

end Flowdesk
