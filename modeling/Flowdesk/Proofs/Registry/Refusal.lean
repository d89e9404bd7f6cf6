import Flowdesk.Files.Memory
import Flowdesk.Proofs.Registry.Run

/-!
# Operations that fail

An operation that fails tells nothing and leaves the builds and the text, version and
author of every document alone, whatever it did to the files. It also leaves the holders
alone, with one exception. A client that opens an open document is let in before its text
is recorded; if no version is left for the text, the opening fails, but the client has
joined the holders. Nobody is then told that it holds the document, so nobody lets it go.
-/

namespace Flowdesk

open Data

/-- A draft with one more holder, if there is one more. -/
def Draft.heldAlsoBy (draft : Draft) : Option String → Draft
  | some client => { draft with holders := draft.holders.insert client }
  | none => draft

/-- A client that holds a document already makes no difference to it. -/
theorem Draft.heldAlsoBy_eq_self_iff (draft : Draft) (client : String) :
    draft.heldAlsoBy (some client) = draft ↔ client ∈ draft.holders := by
  constructor
  · intro same
    have holders : draft.holders.insert client = draft.holders := congrArg Draft.holders same
    rw [← holders]
    exact (NameSet.mem_insert _ _ _).mpr (.inl rfl)
  · intro member
    have same : draft.holders.insert client = draft.holders := by
      apply NameSet.ext_of_mem
      intro name
      rw [NameSet.mem_insert]
      constructor
      · rintro (rfl | present)
        · exact member
        · exact present
      · exact .inr
    rw [heldAlsoBy, same]

namespace Registry

variable {φ α β : Type}

/-- An operation that tells nothing and leaves documents and builds alone. -/
structure Outcome.Spares (outcome : Outcome φ α) (registry : Registry φ) : Prop where
  silent : outcome.events = []
  builds : outcome.registry.builds = registry.builds
  drafts : ∀ uri, outcome.registry.draft? uri = registry.draft? uri

theorem spares_refuse (registry : Registry φ) (failure : Failure) :
    (registry.refuse failure : Outcome φ α).Spares registry :=
  ⟨rfl, rfl, fun _ => rfl⟩

/-- Why an operation failed, if it did. -/
def Outcome.failure? (outcome : Outcome φ α) : Option Failure :=
  match outcome.result with
  | .error failure => some failure
  | .ok _ => none

theorem Outcome.failure?_eq_some_iff (outcome : Outcome φ α) (failure : Failure) :
    outcome.failure? = some failure ↔ outcome.result = .error failure := by
  unfold failure?
  cases outcome.result with
  | ok value => exact iff_of_false nofun nofun
  | error cause => simp

/-- Another result is a failure exactly when the first one was. -/
theorem Outcome.failed_map (outcome : Outcome φ α) (change : α → β) (failure : Failure) :
    (outcome.map change).result = .error failure ↔ outcome.result = .error failure := by
  unfold Outcome.map
  cases outcome.result with
  | ok value => exact iff_of_false nofun nofun
  | error cause => exact Iff.of_eq (by simp [Except.map])

/-- Giving an open document another text fails for want of a version, and only then. -/
theorem revise_failed {registry : Registry φ} {draft : Draft} {claimed : UInt64}
    {text client : String} {now : UInt64} {failure : Failure}
    (failed : (registry.revise draft claimed text client now).result = .error failure) :
    failure = .versionExhausted draft.uri ∧
      registry.revise draft claimed text client now = registry.refuse failure := by
  revert failed
  refine revise_branches ?refused ?revised
  case refused =>
    intro failed
    cases failed
    exact ⟨rfl, rfl⟩
  case revised =>
    intro _ _ _ failed
    cases failed

/-- The text of an open document is recorded or refused as a whole. -/
theorem update_failed {registry : Registry φ} {uri : String} {claimed : UInt64}
    {text client : String} {now : UInt64} {failure : Failure}
    (failed : (registry.update uri claimed text client now).result = .error failure) :
    (registry.update uri claimed text client now).Spares registry := by
  revert failed
  refine update_branches ?refused ?revised
  case refused => exact fun _ _ => spares_refuse registry _
  case revised =>
    intro draft _ failed
    rw [(revise_failed failed).2]
    exact spares_refuse registry _

theorem rebuild_failed {registry : Registry φ} {uri client : String} {now : UInt64}
    {failure : Failure} (failed : (registry.rebuild uri client now).result = .error failure) :
    (registry.rebuild uri client now).Spares registry := by
  revert failed
  refine rebuild_branches (fun _ _ => spares_refuse registry _) ?_
  intro _ _ failed
  cases failed

/-- Registering a document never fails. -/
theorem register_succeeds (registry : Registry φ) (opening : Opening) (text : String)
    (now : UInt64) : (registry.register opening text now).result = .ok () := by
  rw [register_eq]

/-- Letting a hold go never fails. -/
theorem close_succeeds (registry : Registry φ) (uri client : String) (now : UInt64) :
    ∃ last, (registry.close uri client now).result = .ok last :=
  close_branches (fun _ => ⟨false, rfl⟩) (fun _ _ _ => ⟨true, rfl⟩) fun _ _ _ => ⟨false, rfl⟩

/-- Announcing a save never fails. -/
theorem announceSave_succeeds (registry : Registry φ) (uri text client : String) (now : UInt64) :
    (registry.announceSave uri text client now).result = .ok () :=
  announceSave_branches (fun _ => rfl) (fun _ _ _ => rfl) fun _ _ _ => rfl

/-- A client whose joining of others on a document fails has become a holder of it all
the same. -/
theorem join_failed {registry : Registry φ} {draft : Draft} {opening : Opening} {now : UInt64}
    {failure : Failure} (failed : (registry.join draft opening now).result = .error failure) :
    failure = .versionExhausted draft.uri ∧
      registry.join draft opening now =
        (registry.setDraft (draft.heldAlsoBy (some opening.client))).refuse failure := by
  revert failed
  refine join_branches ?alone ?revised
  case alone =>
    intro failed
    cases failed
  case revised =>
    intro claimed text _ failed
    obtain ⟨exhausted, refused⟩ := revise_failed ((Outcome.failed_map _ _ failure).mp failed)
    refine ⟨exhausted, ?_⟩
    rw [refused]
    rfl

/-- The client that an operation has let in to a document before it failed. -/
def Operation.newcomer? (operation : Operation φ) (failure : Failure) (uri : String) :
    Option String :=
  match operation with
  | .openFor opening =>
      if opening.uri = uri ∧ failure = .versionExhausted uri then some opening.client else none
  | _ => none

/-- What is left of a failed operation: at most one more holder of a document. -/
structure Outcome.Fails (outcome : Outcome φ Answer) (registry : Registry φ)
    (operation : Operation φ) (failure : Failure) : Prop where
  silent : outcome.events = []
  builds : outcome.registry.builds = registry.builds
  drafts : ∀ uri, outcome.registry.draft? uri =
    (registry.draft? uri).map (·.heldAlsoBy (operation.newcomer? failure uri))
  /-- Nobody joins a document that is not open. -/
  joined : ∀ uri client, operation.newcomer? failure uri = some client →
    ∃ draft, registry.draft? uri = some draft

/-- An operation that spares everything lets nobody in. -/
theorem Outcome.Spares.fails {outcome : Outcome φ α} {registry : Registry φ}
    (spares : outcome.Spares registry) (change : α → Answer) {operation : Operation φ}
    {failure : Failure} (nobody : ∀ uri, operation.newcomer? failure uri = none) :
    (outcome.map change).Fails registry operation failure := by
  refine ⟨spares.silent, spares.builds, ?_, ?_⟩
  · intro uri
    rw [nobody]
    exact (spares.drafts uri).trans Option.map_id'.symm
  · intro uri client joined
    exact nomatch (nobody uri).symm.trans joined

section Files

variable [Files.Store φ]

/-- An opening that fails spares everything, or its client has joined the holders of a
document that is open. -/
theorem openFor_failed {registry : Registry φ} (sound : registry.Sound) {opening : Opening}
    {now : UInt64} {failure : Failure}
    (failed : (registry.openFor opening now).result = .error failure) :
    (failure ≠ .versionExhausted opening.uri ∧
      (registry.openFor opening now).Spares registry) ∨
    ∃ draft, registry.draft? opening.uri = some draft ∧
      failure = .versionExhausted opening.uri ∧
      registry.openFor opening now =
        (registry.setDraft (draft.heldAlsoBy (some opening.client))).refuse failure := by
  revert failed
  refine openFor_branches ?refused ?joined ?registered
  case refused =>
    intro cause different failed
    cases failed
    exact .inl ⟨different opening.uri, spares_refuse registry _⟩
  case joined =>
    intro draft found failed
    obtain ⟨exhausted, refused⟩ := join_failed failed
    rw [sound.named opening.uri draft found] at exhausted
    exact .inr ⟨draft, found, exhausted, refused⟩
  case registered =>
    intro text _ failed
    cases (register_succeeds registry opening text now).symm.trans failed

/-- A save that fails has changed nothing but files. -/
theorem save_failed {registry : Registry φ} {uri text client : String} {now : UInt64}
    {failure : Failure} (failed : (registry.save uri text client now).result = .error failure) :
    (registry.save uri text client now).Spares registry := by
  revert failed
  refine save_branches ?refused ?announced
  case refused => exact fun _ _ _ => ⟨rfl, rfl, fun _ => rfl⟩
  case announced =>
    intro files failed
    cases (announceSave_succeeds _ uri text client now).symm.trans failed

theorem reload_failed {registry : Registry φ} {uri : String} {now : UInt64} {failure : Failure}
    (failed : (registry.reload uri now).result = .error failure) :
    (registry.reload uri now).Spares registry := by
  revert failed
  refine reload_branches ?refused ?same ?revised
  case refused => exact fun _ _ => spares_refuse registry _
  case same =>
    intro _ _ _ _ _ failed
    cases failed
  case revised =>
    intro draft _ text _ _ _ failed
    rw [(revise_failed ((Outcome.failed_map _ _ failure).mp failed)).2]
    exact ⟨rfl, rfl, fun _ => rfl⟩

/-- Every operation that fails leaves at most one more holder behind. -/
theorem perform_failed {registry : Registry φ} (sound : registry.Sound) {now : UInt64}
    {operation : Operation φ} {failure : Failure}
    (failed : (registry.perform now operation).result = .error failure) :
    (registry.perform now operation).Fails registry operation failure := by
  cases operation with
  | openFor opening =>
    obtain ⟨different, spares⟩ | ⟨draft, found, exhausted, refused⟩ :=
      openFor_failed sound ((Outcome.failed_map _ _ failure).mp failed)
    · refine spares.fails _ ?_
      intro uri
      refine if_neg ?_
      rintro ⟨same, exhausted⟩
      exact different (same ▸ exhausted)
    · have itself : (draft.heldAlsoBy (some opening.client)).uri = opening.uri :=
        sound.named opening.uri draft found
      simp only [perform, refused]
      refine ⟨rfl, rfl, ?_, ?_⟩
      · intro uri
        change ((registry.setDraft (draft.heldAlsoBy (some opening.client))).draft? uri) = _
        rw [draft?_setDraft]
        by_cases same : opening.uri = uri
        · subst same
          rw [if_pos itself, found, Operation.newcomer?, if_pos ⟨rfl, exhausted⟩]
          rfl
        · rw [if_neg fun here => same (itself.symm.trans here), Operation.newcomer?,
            if_neg fun both => same both.1]
          exact Option.map_id'.symm
      · intro uri client joined
        obtain ⟨⟨rfl, _⟩, _⟩ := Option.ite_none_right_eq_some.mp joined
        exact ⟨draft, found⟩
  | update => exact (update_failed ((Outcome.failed_map _ _ _).mp failed)).fails _ fun _ => rfl
  | save => exact (save_failed ((Outcome.failed_map _ _ _).mp failed)).fails _ fun _ => rfl
  | rebuild => exact (rebuild_failed ((Outcome.failed_map _ _ _).mp failed)).fails _ fun _ => rfl
  | reload => exact (reload_failed ((Outcome.failed_map _ _ _).mp failed)).fails _ fun _ => rfl
  | close uri client =>
    obtain ⟨last, done⟩ := close_succeeds registry uri client now
    exact nomatch done.symm.trans ((Outcome.failed_map _ _ _).mp failed)
  | refile files => exact nomatch failed

/-- After any run of a new registry an operation that fails tells nothing and leaves the
builds alone, and all documents but for one more holder. Even that one is missing, so
that the documents are exactly as they were, if and only if the operation is no opening
that was refused for want of a version to a client that did not hold the document.

Proof: each operation is refused as a whole before anything is recorded, except that a
client joins the holders of an open document before its text is recorded. -/
theorem failure_leaves_documents_iff (files : φ) (asked : List (UInt64 × Operation φ))
    (now : UInt64) (operation : Operation φ) (failure : Failure)
    (failed : (((create files).after asked).perform now operation).result = .error failure) :
    let registry := (create files).after asked
    let outcome := registry.perform now operation
    outcome.events = [] ∧ outcome.registry.builds = registry.builds ∧
    (∀ uri, outcome.registry.draft? uri =
      (registry.draft? uri).map (·.heldAlsoBy (operation.newcomer? failure uri))) ∧
    ((∀ uri, outcome.registry.draft? uri = registry.draft? uri) ↔
      ∀ uri client, operation.newcomer? failure uri = some client →
        registry.Holds uri client) := by
  intro registry outcome
  have sound : registry.Sound := sound_after (sound_create files) asked
  have fails : outcome.Fails registry operation failure := perform_failed sound failed
  refine ⟨fails.silent, fails.builds, fails.drafts, ?_⟩
  constructor
  · intro same uri client joined
    obtain ⟨draft, found⟩ := fails.joined uri client joined
    have left := (fails.drafts uri).symm.trans (same uri)
    rw [joined, found, Option.map_some, Option.some.injEq,
      Draft.heldAlsoBy_eq_self_iff] at left
    exact ⟨draft, found, left⟩
  · intro held uri
    rw [fails.drafts uri]
    cases joined : operation.newcomer? failure uri with
    | none => exact Option.map_id'
    | some client =>
      obtain ⟨draft, found, member⟩ := held uri client joined
      rw [found, Option.map_some, (draft.heldAlsoBy_eq_self_iff client).mpr member]

end Files

/-- The run of a client that opens a document at the last version of all. -/
def exhausting : List (UInt64 × Operation Files.Memory) :=
  [(0, .openFor ⟨"file:///a.wf", "t1", none, some Draft.lastVersion, some "workflow:\n"⟩)]

/-- A client opens that document with another text. -/
def reopening (client : String) : Operation Files.Memory :=
  .openFor ⟨"file:///a.wf", client, none, none, some "workflow: {}\n"⟩

/-- The holder of a document whose second opening is refused leaves it as it was. -/
theorem refused_holder_leaves_documents :
    let registry := (create Files.Memory.empty).after exhausting
    let outcome := registry.perform 0 (reopening "t1")
    outcome.result = .error (.versionExhausted "file:///a.wf") ∧
      ∀ uri, outcome.registry.draft? uri = registry.draft? uri := by
  have run :
      let registry := (create Files.Memory.empty).after exhausting
      ((registry.perform 0 (reopening "t1")).failure?,
        (registry.draft? "file:///a.wf").map (·.holders.names)) =
      (some (.versionExhausted "file:///a.wf"), some ["t1"]) := by
    decide +kernel
  simp only [Prod.mk.injEq, Outcome.failure?_eq_some_iff, Option.map_eq_some_iff] at run
  obtain ⟨failed, draft, found, holders⟩ := run
  refine ⟨failed, (failure_leaves_documents_iff Files.Memory.empty exhausting 0 (reopening "t1")
    _ failed).2.2.2.mpr ?_⟩
  intro uri client joined
  obtain ⟨⟨rfl, _⟩, same⟩ := Option.ite_none_right_eq_some.mp joined
  cases same
  refine ⟨draft, found, ?_⟩
  rw [NameSet.mem_def, holders]
  exact List.mem_singleton.mpr rfl

/-- A client that never held a document holds it once its opening is refused. -/
theorem refused_opening_lets_client_in :
    let registry := (create Files.Memory.empty).after exhausting
    let outcome := registry.perform 0 (reopening "t2")
    outcome.result = .error (.versionExhausted "file:///a.wf") ∧
      "t2" ∉ registry.holders "file:///a.wf" ∧
      "t2" ∈ outcome.registry.holders "file:///a.wf" := by
  have run :
      let registry := (create Files.Memory.empty).after exhausting
      let outcome := registry.perform 0 (reopening "t2")
      (outcome.failure?, (registry.holders "file:///a.wf").names,
        (outcome.registry.holders "file:///a.wf").names) =
      (some (.versionExhausted "file:///a.wf"), ["t1"], ["t1", "t2"]) := by
    decide +kernel
  simp only [Prod.mk.injEq, Outcome.failure?_eq_some_iff] at run
  obtain ⟨failed, before, after⟩ := run
  refine ⟨failed, ?_, ?_⟩
  · rw [NameSet.mem_def, before]
    decide
  · rw [NameSet.mem_def, after]
    decide

end Registry

end Flowdesk
