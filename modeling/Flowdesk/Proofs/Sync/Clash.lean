import Flowdesk.Sync.Conflict
import Mathlib.Data.Option.Basic

/-!
# Conflicts seen from both sides

Which two snapshots conflict, and in what, is told here by rules that look at both sides in
the same way. Detection follows the rules, so it does not matter which side is the local one:
with the sides exchanged the same snapshots are ahead of each other and the same ones
conflict, and the conflict is the same with the two sides exchanged.
-/

namespace Flowdesk.Sync

/-- In what two snapshots of a document clash: they are of the same version, and either both
contents are known and differ, or one is unknown and less than a second lies between them. -/
inductive Clash (ours theirs : Snapshot) : ConflictKind → Prop where
  | content {left right : String} (version : ours.version = theirs.version)
      (ourContent : ours.checksum = some left) (theirContent : theirs.checksum = some right)
      (different : left ≠ right) : Clash ours theirs .dataInconsistency
  | time (version : ours.version = theirs.version)
      (unknown : ours.checksum = none ∨ theirs.checksum = none)
      (ourTime : ours.timestamp.toNat < theirs.timestamp.toNat + 1000)
      (theirTime : theirs.timestamp.toNat < ours.timestamp.toNat + 1000) :
      Clash ours theirs .concurrentEdit

/-- A standing from the other side. -/
def Standing.exchanged : Standing → Standing
  | .inSync => .inSync
  | .remoteNewer => .localNewer
  | .localNewer => .remoteNewer
  | .diverged => .diverged

/-- Whether two conflicts are the same one, seen from either side. -/
structure Conflict.Mirrors (conflict other : Conflict) : Prop where
  uri : other.uri = conflict.uri
  kind : other.kind = conflict.kind
  localVersion : other.localVersion = conflict.remoteVersion
  remoteVersion : other.remoteVersion = conflict.localVersion
  localMethod : other.localMethod = conflict.remoteMethod
  remoteMethod : other.remoteMethod = conflict.localMethod
  localTimestamp : other.localTimestamp = conflict.remoteTimestamp
  remoteTimestamp : other.remoteTimestamp = conflict.localTimestamp

theorem mirrors_between (uri : String) (ours theirs : Snapshot) (kind : ConflictKind)
    (description other : String) : Conflict.Mirrors (.between uri ours theirs kind description)
      (.between uri theirs ours kind other) := ⟨rfl, rfl, rfl, rfl, rfl, rfl, rfl, rfl⟩

theorem timeBetween_lt_iff (first second : UInt64) (window : Nat) :
    timeBetween first second < window ↔
      first.toNat < second.toNat + window ∧ second.toNat < first.toNat + window := by
  unfold timeBetween
  omega

section Snapshots

variable {uri : String} {ours theirs : Snapshot} {kind : ConflictKind}

theorem sameContent?_comm (ours theirs : Snapshot) :
    sameContent? theirs ours = sameContent? ours theirs := by
  unfold sameContent?
  cases ours.checksum <;> cases theirs.checksum <;> simp [eq_comm]

theorem sameContent?_eq_none_iff :
    sameContent? ours theirs = none ↔ ours.checksum = none ∨ theirs.checksum = none := by
  unfold sameContent?
  cases ours.checksum <;> cases theirs.checksum <;> simp

/-- Contents that are known are known to differ, or to be the same. -/
theorem sameContent?_of_checksums {left right : String} (ourContent : ours.checksum = some left)
    (theirContent : theirs.checksum = some right) :
    sameContent? ours theirs = some (decide (left = right)) := by
  simp only [sameContent?, ourContent, theirContent]

/-- The standing does not depend on which side is the local one. -/
theorem compareVersions_exchanged (ours theirs : Snapshot) :
    compareVersions theirs ours = (compareVersions ours theirs).exchanged := by
  rcases Nat.lt_trichotomy ours.version.toNat theirs.version.toNat with behind | same | ahead
  · have behind := UInt64.lt_iff_toNat_lt.mpr behind
    rw [compareVersions_of_lt behind, compareVersions_of_gt behind, Standing.exchanged]
  · have same := UInt64.toNat_inj.mp same
    rw [compareVersions_of_eq same, compareVersions_of_eq same.symm, sameContent?_comm]
    split <;> rfl
  · have ahead := UInt64.lt_iff_toNat_lt.mpr ahead
    rw [compareVersions_of_lt ahead, compareVersions_of_gt ahead, Standing.exchanged]

theorem Clash.symm (clash : Clash ours theirs kind) : Clash theirs ours kind := by
  cases clash with
  | content version ourContent theirContent different =>
    exact .content version.symm theirContent ourContent different.symm
  | time version unknown ourTime theirTime =>
    exact .time version.symm unknown.symm theirTime ourTime

/-- Only what has parted clashes. -/
theorem Clash.diverged (clash : Clash ours theirs kind) :
    compareVersions ours theirs = .diverged := by
  cases clash with
  | content version ourContent theirContent different =>
    rw [compareVersions_of_eq version, sameContent?_of_checksums ourContent theirContent,
      decide_eq_false different]
    rfl
  | time version unknown =>
    rw [compareVersions_of_eq version, sameContent?_eq_none_iff.mpr unknown]
    rfl

/-- A clash is detected, with its sides as they are. -/
theorem Clash.detected (clash : Clash ours theirs kind) (uri : String) :
    ∃ description, detectConflict uri ours theirs =
      some (.between uri ours theirs kind description) := by
  have parted := clash.diverged
  cases clash with
  | content version ourContent theirContent different =>
    have differ := sameContent?_of_checksums ourContent theirContent
    rw [decide_eq_false different] at differ
    exact ⟨_, by simp only [detectConflict, parted, differ, if_true]; rfl⟩
  | time version unknown ourTime theirTime =>
    have near : timeBetween ours.timestamp theirs.timestamp < concurrencyWindow :=
      (timeBetween_lt_iff _ _ _).mpr ⟨ourTime, theirTime⟩
    have differ := sameContent?_eq_none_iff.mpr unknown
    exact ⟨_, by simp only [detectConflict, parted, differ, near, if_true, reduceCtorEq,
      if_false]; rfl⟩

theorem version_of_diverged (parted : compareVersions ours theirs = .diverged) :
    ours.version = theirs.version := by
  rcases Nat.lt_trichotomy ours.version.toNat theirs.version.toNat with behind | same | ahead
  · exact nomatch parted.symm.trans (compareVersions_of_lt (UInt64.lt_iff_toNat_lt.mpr behind))
  · exact UInt64.toNat_inj.mp same
  · exact nomatch parted.symm.trans (compareVersions_of_gt (UInt64.lt_iff_toNat_lt.mpr ahead))

/-- What detection reports of snapshots that have parted: a difference in content before
nearness in time. -/
theorem detected_cases {conflict : Conflict}
    (detected : detectConflict uri ours theirs = some conflict) :
    compareVersions ours theirs = .diverged ∧
      (sameContent? ours theirs = some false ∧ conflict.kind = .dataInconsistency ∨
        sameContent? ours theirs ≠ some false ∧
          timeBetween ours.timestamp theirs.timestamp < concurrencyWindow ∧
          conflict.kind = .concurrentEdit) := by
  unfold detectConflict at detected
  split at detected
  · cases detected
  · cases detected
  · cases detected
  · next parted =>
    refine ⟨parted, ?_⟩
    split at detected
    · next differ => exact .inl ⟨differ, (Option.some.inj detected) ▸ rfl⟩
    · next alike =>
      split at detected
      · next near => exact .inr ⟨alike, near, (Option.some.inj detected) ▸ rfl⟩
      · cases detected

/-- Nothing but a clash is detected. -/
theorem clash_of_detected {conflict : Conflict}
    (detected : detectConflict uri ours theirs = some conflict) :
    Clash ours theirs conflict.kind := by
  obtain ⟨parted, reported⟩ := detected_cases detected
  have version := version_of_diverged parted
  rw [compareVersions_of_eq version] at parted
  -- Contents that are known to be the same have not parted, so only these two cases remain.
  rcases reported with ⟨differ, kind⟩ | ⟨alike, near, kind⟩
  · cases ourContent : ours.checksum with
    | none => simp [sameContent?, ourContent] at differ
    | some left =>
      cases theirContent : theirs.checksum with
      | none => simp [sameContent?, ourContent, theirContent] at differ
      | some right =>
        rw [sameContent?_of_checksums ourContent theirContent] at differ
        exact kind ▸ .content version ourContent theirContent
          (of_decide_eq_false (Option.some.inj differ))
  · have unknown : sameContent? ours theirs = none := by
      cases known : sameContent? ours theirs with
      | none => rfl
      | some same =>
        cases same with
        | false => exact absurd known alike
        | true => simp [known] at parted
    obtain ⟨ourTime, theirTime⟩ := (timeBetween_lt_iff _ _ _).mp near
    exact kind ▸ .time version (sameContent?_eq_none_iff.mp unknown) ourTime theirTime

theorem detected_none_iff :
    detectConflict uri ours theirs = none ↔ ∀ kind, ¬Clash ours theirs kind := by
  constructor
  · intro nothing kind clash
    obtain ⟨description, detected⟩ := clash.detected uri
    exact nomatch nothing.symm.trans detected
  · intro peaceful
    cases detected : detectConflict uri ours theirs with
    | none => rfl
    | some conflict => exact absurd (clash_of_detected detected) (peaceful conflict.kind)

/-- From the other side the same conflict is detected, or none either. -/
theorem detectConflict_exchanged (uri : String) (ours theirs : Snapshot) :
    Option.Rel Conflict.Mirrors (detectConflict uri ours theirs)
      (detectConflict uri theirs ours) := by
  cases detected : detectConflict uri ours theirs with
  | none =>
    have nothing : detectConflict uri theirs ours = none :=
      detected_none_iff.mpr fun kind clash => detected_none_iff.mp detected kind clash.symm
    rw [nothing]
    exact .none
  | some conflict =>
    have clash := clash_of_detected detected
    obtain ⟨description, here⟩ := clash.detected uri
    obtain ⟨other, there⟩ := clash.symm.detected uri
    rw [there, Option.some.inj (detected.symm.trans here)]
    exact .some (mirrors_between uri ours theirs conflict.kind description other)

end Snapshots

/-- Detection follows the rules: it reports the sides of a clash as they are, and nothing where
there is no clash. Only snapshots that have parted conflict. And it does not matter which side
is the local one.

Proof: both snapshots are compared by version and then by content, and a clash is what that
comparison leaves over. Exchanging the sides exchanges the comparison and leaves the kind of
clash. -/
theorem conflicts_are_seen_from_both_sides (uri : String) (ours theirs : Snapshot) :
    (∀ kind, (∃ description, detectConflict uri ours theirs =
        some (.between uri ours theirs kind description)) ↔ Clash ours theirs kind) ∧
    (detectConflict uri ours theirs = none ↔ ∀ kind, ¬Clash ours theirs kind) ∧
    (detectConflict uri ours theirs = none ∨ compareVersions ours theirs = .diverged) ∧
    compareVersions theirs ours = (compareVersions ours theirs).exchanged ∧
    Option.Rel Conflict.Mirrors (detectConflict uri ours theirs)
      (detectConflict uri theirs ours) := by
  refine ⟨fun kind => ⟨?_, fun clash => clash.detected uri⟩, detected_none_iff, ?_,
    compareVersions_exchanged ours theirs, detectConflict_exchanged uri ours theirs⟩
  · rintro ⟨description, detected⟩
    exact clash_of_detected detected
  · cases detected : detectConflict uri ours theirs with
    | none => exact .inl rfl
    | some conflict => exact .inr (detected_cases detected).1

end Flowdesk.Sync
