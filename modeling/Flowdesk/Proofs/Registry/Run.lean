import Flowdesk.Proofs.Registry.Holding

/-!
# Runs of a registry

A run asks one thing of a registry after the other. Between any two of them the files
may become others, so nothing is assumed of what a file holds or whether it can be
written. Whatever is asked, and whether it succeeds, the documents and the builds kept
beside them stay matched: that is the law of a single turn, and a run is a chain of
turns.
-/

namespace Flowdesk.Registry

open Data Sync Workflow

variable {φ : Type}

/-- What may be asked of a registry, and a change of the files behind its back. -/
inductive Operation (φ : Type) where
  | openFor (opening : Opening)
  | update (uri : String) (claimed : UInt64) (text client : String)
  | save (uri text client : String)
  | close (uri client : String)
  | rebuild (uri client : String)
  | reload (uri : String)
  | refile (files : φ)

/-- What an operation answers. -/
inductive Answer where
  | done
  | revised (revision : Revision)
  /-- Whether the last hold was let go. -/
  | closed (last : Bool)
  | built (build : Build)

namespace Operation

/-- The document that an operation is about. -/
def uri? : Operation φ → Option String
  | .openFor opening => some opening.uri
  | .update uri .. | .save uri .. | .close uri _ | .rebuild uri _ | .reload uri => some uri
  | .refile _ => none

/-- The client that lets its hold go by an operation. -/
def leaver : Operation φ → Option String
  | .close _ client => some client
  | _ => none

/-- Some document is the one that an operation is about. -/
theorem exists_about (operation : Operation φ) :
    ∃ uri, operation.uri?.all (· = uri) = true := by
  cases about : operation.uri? with
  | none => exact ⟨"", rfl⟩
  | some uri => exact ⟨uri, decide_eq_true rfl⟩

end Operation

section Run

variable [Files.Store φ]

/-- What comes of an operation at a time. -/
def perform (registry : Registry φ) (now : UInt64) : Operation φ → Outcome φ Answer
  | .openFor opening => (registry.openFor opening now).map fun _ => .done
  | .update uri claimed text client => (registry.update uri claimed text client now).map .revised
  | .save uri text client => (registry.save uri text client now).map fun _ => .done
  | .close uri client => (registry.close uri client now).map .closed
  | .rebuild uri client => (registry.rebuild uri client now).map .built
  | .reload uri => (registry.reload uri now).map fun revision? =>
      (revision?.map .revised).getD .done
  | .refile files => ⟨{ registry with files }, [], .ok .done⟩

/-- The registry after operations, each at its time. -/
def after (registry : Registry φ) (asked : List (UInt64 × Operation φ)) : Registry φ :=
  asked.foldl (fun registry (now, operation) => (registry.perform now operation).registry) registry

/-- An operation takes the document that it is about through turns. A change of the
files is an operation about any document. -/
theorem perform_turns {registry : Registry φ} (sound : registry.Sound) (now : UInt64)
    (operation : Operation φ) {uri : String} (about : operation.uri?.all (· = uri) = true) :
    (registry.perform now operation).Turns registry uri operation.leaver := by
  cases operation with
  | refile files => exact (turns_of_same (sound.withFiles files) uri none _).withFiles
  | openFor opening =>
    cases of_decide_eq_true about
    exact (openFor_turns sound opening now).withResult _
  | update _ claimed text client =>
    cases of_decide_eq_true about
    exact (update_turns sound uri claimed text client now).withResult _
  | save _ text client =>
    cases of_decide_eq_true about
    exact (save_turns sound uri text client now).withResult _
  | close _ client =>
    cases of_decide_eq_true about
    exact (close_turns sound uri client now).withResult _
  | rebuild _ client =>
    cases of_decide_eq_true about
    exact (rebuild_turns sound uri client now).withResult _
  | reload _ =>
    cases of_decide_eq_true about
    exact (reload_turns sound uri now).withResult _

/-- Every operation keeps a registry sound. -/
theorem sound_perform {registry : Registry φ} (sound : registry.Sound) (now : UInt64)
    (operation : Operation φ) : (registry.perform now operation).registry.Sound := by
  obtain ⟨uri, about⟩ := operation.exists_about
  exact (perform_turns sound now operation about).sound

/-- A run keeps a registry sound. -/
theorem sound_after {registry : Registry φ} (sound : registry.Sound)
    (asked : List (UInt64 × Operation φ)) : (registry.after asked).Sound := by
  induction asked generalizing registry with
  | nil => exact sound
  | cons first asked inductionHypothesis =>
    exact inductionHypothesis (sound_perform sound first.1 first.2)

/-- After any run of a new registry a build is kept of exactly the documents that are
open, each with the version of its document and made of its text, and every open
document is held by a client.

Proof: that builds are kept so and that open documents are held are two clauses of soundness,
which every operation preserves. -/
theorem kept_builds_describe_documents (files : φ) (asked : List (UInt64 × Operation φ))
    (uri : String) :
    ((create files).after asked).builds.get? uri =
      (((create files).after asked).draft? uri).map
        (fun draft => (draft.version, Build.of uri draft.text)) ∧
    ∀ draft, ((create files).after asked).draft? uri = some draft →
      ∃ client, client ∈ draft.holders := by
  have sound : ((create files).after asked).Sound := sound_after (sound_create files) asked
  refine ⟨sound.built uri, ?_⟩
  intro draft found
  exact exists_mem (sound.held uri draft found)

end Run

end Flowdesk.Registry
