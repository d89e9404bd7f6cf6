import Flowdesk.Proofs.Registry.Turn

/-!
# What turns of a document keep

A document stays open as long as one of its clients does not let go of it, whatever
others do. Its version then only grows, and a document that is still at a version
still has the text of that version. The one update that an operation announces
describes the document as the operation leaves it.
-/

namespace Flowdesk

open Data Sync Workflow

/-- One state of a draft after another: at the same version it has the same text. -/
structure Draft.Later (earlier later : Draft) : Prop where
  version : earlier.version ≤ later.version
  same : later.version = earlier.version →
    later.text = earlier.text ∧ later.author = earlier.author

namespace Draft

theorem Later.refl (draft : Draft) : draft.Later draft := ⟨UInt64.le_refl _, fun _ => ⟨rfl, rfl⟩⟩

theorem Later.trans {first second third : Draft} (early : first.Later second)
    (late : second.Later third) : first.Later third := by
  refine ⟨UInt64.le_trans early.version late.version, ?_⟩
  intro back
  have level : second.version = first.version :=
    UInt64.le_antisymm (back ▸ late.version) early.version
  obtain ⟨text, author⟩ := late.same (back.trans level.symm)
  obtain ⟨earlyText, earlyAuthor⟩ := early.same level
  exact ⟨text.trans earlyText, author.trans earlyAuthor⟩

/-- A revised draft is a later one, at another version. -/
theorem later_of_revise {draft revised : Draft} {claimed : UInt64} {text client : String}
    {now : UInt64} {revision : Revision}
    (done : draft.revise claimed text client now = some (revised, revision)) :
    draft.Later revised := by
  have higher := version_lt_of_revise draft revised claimed text client now revision done
  exact ⟨UInt64.le_of_lt higher, fun back => absurd higher (back ▸ UInt64.lt_irrefl _)⟩

end Draft

namespace Registry

variable {φ α : Type}

/-- Whether a client holds a document open. -/
def Holds (registry : Registry φ) (uri client : String) : Prop :=
  ∃ draft, registry.draft? uri = some draft ∧ client ∈ draft.holders

theorem isEmpty_of_mem {set : NameSet} {name : String} (member : name ∈ set) :
    set.isEmpty = false :=
  List.isEmpty_eq_false_iff.mpr (List.ne_nil_of_mem member)

/-- A set that is not empty has a member. -/
theorem exists_mem {set : NameSet} (filled : set.isEmpty = false) : ∃ name, name ∈ set :=
  List.exists_mem_of_ne_nil set.names (List.isEmpty_eq_false_iff.mp filled)

/-- A client other than the leaver keeps its hold on a document, which becomes no
earlier. -/
theorem Turn.hold {uri : String} {leaver : Option String} {draft : Draft} {after : Option Draft}
    {events : List Event} (turn : Turn uri leaver (some draft) events after) {client : String}
    (stays : leaver ≠ some client) (holds : client ∈ draft.holders) :
    ∃ next, after = some next ∧ client ∈ next.holders ∧ draft.Later next := by
  cases turn with
  | saved _ _ => exact ⟨draft, rfl, holds, .refl draft⟩
  | joined _ joiner =>
    exact ⟨_, rfl, (NameSet.mem_insert _ _ _).mpr (.inr holds), UInt64.le_refl _,
      fun _ => ⟨rfl, rfl⟩⟩
  | revised _ next claimed text author now revision done =>
    have kept : next.holders = draft.holders := by rw [(Draft.revise_eq_some done).2.1]
    exact ⟨next, rfl, kept ▸ holds, Draft.later_of_revise done⟩
  | rebuilt _ _ _ => exact ⟨draft, rfl, holds, .refl draft⟩
  | left _ goer leaves _ =>
    have other : client ≠ goer := fun same => stays (same ▸ leaves)
    exact ⟨_, rfl, (NameSet.mem_erase _ _ _).mpr ⟨holds, other⟩, UInt64.le_refl _,
      fun _ => ⟨rfl, rfl⟩⟩
  | closed _ goer _ leaves last =>
    have other : client ≠ goer := fun same => stays (same ▸ leaves)
    have member : client ∈ draft.holders.erase goer := (NameSet.mem_erase _ _ _).mpr ⟨holds, other⟩
    rw [isEmpty_of_mem member] at last
    exact nomatch last

/-- A client other than the leaver keeps its hold through any number of turns. -/
theorem Turns.hold {uri : String} {leaver : Option String} {before after : Option Draft}
    {events : List Event} (turns : Turns uri leaver before events after) {client : String}
    (stays : leaver ≠ some client) {draft : Draft} (found : before = some draft)
    (holds : client ∈ draft.holders) :
    ∃ next, after = some next ∧ client ∈ next.holders ∧ draft.Later next := by
  induction turns generalizing draft with
  | done document => exact ⟨draft, found, holds, .refl draft⟩
  | more first rest inductionHypothesis =>
    subst found
    obtain ⟨between, reached, held, early⟩ := first.hold stays holds
    obtain ⟨next, final, stillHeld, late⟩ := inductionHypothesis reached held
    exact ⟨next, final, stillHeld, early.trans late⟩

/-- The holds on any document that an operation leaves alone or does not let go of. -/
theorem Outcome.Turns.hold {outcome : Outcome φ α} {registry : Registry φ} {uri : String}
    {leaver : Option String} (turns : outcome.Turns registry uri leaver) {other client : String}
    (stays : uri = other → leaver ≠ some client) {draft : Draft}
    (found : registry.draft? other = some draft) (holds : client ∈ draft.holders) :
    ∃ next, outcome.registry.draft? other = some next ∧ client ∈ next.holders ∧
      draft.Later next := by
  by_cases same : uri = other
  · subst same
    exact turns.turns.hold (stays rfl) found holds
  · exact ⟨draft, (turns.elsewhere other same).trans found, holds, .refl draft⟩

/-- The first client of a document holds it. -/
theorem register_holds (registry : Registry φ) (opening : Opening) (text : String) (now : UInt64) :
    (registry.register opening text now).registry.Holds opening.uri opening.client := by
  refine ⟨opening.created text, ?_, (NameSet.mem_insert _ _ _).mpr (.inl rfl)⟩
  rw [register_eq, draft?_keepBuild, draft?_setDraft]
  exact if_pos rfl

/-- A client that joins the others on a document holds it, even where its text is
refused. -/
theorem join_holds {registry : Registry φ} (sound : registry.Sound) {draft : Draft}
    (opening : Opening) (found : registry.draft? opening.uri = some draft) (now : UInt64) :
    (registry.join draft opening now).registry.Holds opening.uri opening.client := by
  let held := { draft with holders := draft.holders.insert opening.client }
  have named : held.uri = opening.uri := sound.named opening.uri draft found
  have stored : (registry.setDraft held).draft? opening.uri = some held := by
    rw [draft?_setDraft, if_pos named]
  have member : opening.client ∈ held.holders := (NameSet.mem_insert _ _ _).mpr (.inl rfl)
  refine join_branches ?alone ?revised
  case alone => exact ⟨held, stored, member⟩
  case revised =>
    intro claimed text _
    have joined : (registry.setDraft held).Sound :=
      sound.hold opening.uri draft found _ (isEmpty_insert _ _)
    obtain ⟨next, reached, holds, _⟩ :=
      (revise_turns joined stored claimed text opening.client now).hold
        (fun _ absent => nomatch absent) stored member
    exact ⟨next, reached, holds⟩

/-- A client that opened a document holds it. -/
theorem openFor_holds [Files.Store φ] {registry : Registry φ} (sound : registry.Sound)
    (opening : Opening) (now : UInt64) (opened : (registry.openFor opening now).result = .ok ()) :
    (registry.openFor opening now).registry.Holds opening.uri opening.client := by
  revert opened
  refine openFor_branches ?refused ?joined ?registered
  case refused =>
    intro failure _ opened
    cases opened
  case joined => exact fun draft found _ => join_holds sound opening found now
  case registered => exact fun text _ _ => register_holds registry opening text now

/-- Whether an update describes a document as it is. -/
structure Update.Describes (update : Update) (draft : Draft) : Prop where
  version : update.revision.version = draft.version
  checksum : update.revision.checksum = checksum draft.text
  claimed : update.revision.claimed ≤ update.revision.version
  standing : update.reason ≠ .deleted

/-- A document that is not announced stays as it is but for its holders. -/
theorem Turns.silent {uri : String} {leaver : Option String} {before after : Option Draft}
    {events : List Event} (turns : Turns uri leaver before events after)
    (silent : updates events = []) {draft : Draft} (found : before = some draft) :
    ∃ holders, after = some { draft with holders } := by
  induction turns generalizing draft with
  | done document => exact ⟨draft.holders, found⟩
  | more first rest inductionHypothesis =>
    rw [updates, List.filterMap_append, List.append_eq_nil_iff] at silent
    obtain ⟨now, later⟩ := silent
    cases first with
    | saved _ _ => exact inductionHypothesis later found
    | joined _ client | left _ client =>
      cases found
      obtain ⟨holders, final⟩ := inductionHypothesis later rfl
      exact ⟨holders, final⟩
    | revised | opened | rebuilt | closed => cases now

/-- A document that is closed is not open again within the same operation unless that
is announced. -/
theorem Turns.silent_none {uri : String} {leaver : Option String} {before after : Option Draft}
    {events : List Event} (turns : Turns uri leaver before events after)
    (silent : updates events = []) (missing : before = none) : after = none := by
  induction turns with
  | done document => exact missing
  | more first rest inductionHypothesis =>
    rw [updates, List.filterMap_append, List.append_eq_nil_iff] at silent
    obtain ⟨now, later⟩ := silent
    cases first with
    | saved _ _ => exact inductionHypothesis later missing
    | joined | left => cases missing
    | revised | opened | rebuilt | closed => cases now

/-- A document that is open before and after an operation was open all the time, since a
closing and an opening would both be announced. So it becomes no earlier. -/
theorem Turns.later {uri : String} {leaver : Option String} {before after : Option Draft}
    {events : List Event} (turns : Turns uri leaver before events after)
    (once : (updates events).length ≤ 1) {draft next : Draft} (found : before = some draft)
    (reached : after = some next) : draft.Later next := by
  induction turns generalizing draft with
  | done document =>
    obtain rfl := Option.some.inj (found.symm.trans reached)
    exact .refl draft
  | @more before between after events later first rest inductionHypothesis =>
    rw [updates, List.filterMap_append, List.length_append] at once
    have fewer : (updates later).length ≤ 1 := Nat.le_of_add_left_le once
    subst found
    cases first with
    | saved | rebuilt => exact inductionHypothesis fewer rfl reached
    | joined _ client | left _ client =>
      have kept := inductionHypothesis fewer rfl reached
      exact ⟨kept.version, kept.same⟩
    | revised _ revised claimed text client now revision done =>
      exact (Draft.later_of_revise done).trans (inductionHypothesis fewer rfl reached)
    | closed =>
      have silent : updates later = [] := List.length_eq_zero_iff.mp (Nat.le_zero.mp
        (Nat.le_of_add_le_add_left once))
      cases (rest.silent_none silent rfl).symm.trans reached

/-- The version a client claims is no greater than the one its revision gets. -/
theorem claimed_le_max (claimed least : UInt64) : claimed ≤ max claimed least := by
  simp only [max]
  split
  · next below => exact below
  · exact UInt64.le_refl _

/-- The update of a single announcement is about the document of its turns, and
describes what they leave of it. -/
theorem Turns.announced {uri : String} {leaver : Option String} {before after : Option Draft}
    {events : List Event} (turns : Turns uri leaver before events after) {update : Update}
    (single : updates events = [update]) :
    update.build.uri = uri ∧
      (update.reason = .deleted ∧ after = none ∨
        ∃ draft, after = some draft ∧ update.Describes draft) := by
  induction turns with
  | done document => exact nomatch single
  | @more before between after events later first rest inductionHypothesis =>
    rw [updates, List.filterMap_append] at single
    have describes : ∀ draft : Draft, between = some draft →
        updates events = [update] → update.Describes draft →
          ∃ next, after = some next ∧ update.Describes next := by
      intro draft reached now described
      have quiet : updates later = [] := by
        change updates events ++ updates later = [update] at single
        rw [now] at single
        exact List.cons.inj single |>.2
      obtain ⟨holders, final⟩ := rest.silent quiet reached
      exact ⟨_, final, described.version, described.checksum, described.claimed,
        described.standing⟩
    cases first with
    | saved | joined | left => exact inductionHypothesis single
    | revised draft next claimed text client now revision done =>
      obtain ⟨-, shape, moment⟩ := Draft.revise_eq_some done
      cases List.cons.inj single |>.1
      refine ⟨uri_of _ _, .inr (describes next rfl rfl ⟨?_, ?_, ?_, Reason.noConfusion⟩)⟩
      · rw [shape, moment]
      · rw [shape, moment]
      · rw [moment]
        exact claimed_le_max _ _
    | opened draft client now _ _ =>
      cases List.cons.inj single |>.1
      exact ⟨uri_of _ _, .inr (describes draft rfl rfl
        ⟨rfl, rfl, UInt64.le_refl _, Reason.noConfusion⟩)⟩
    | rebuilt draft client now =>
      cases List.cons.inj single |>.1
      exact ⟨uri_of _ _, .inr (describes draft rfl rfl
        ⟨rfl, rfl, UInt64.le_refl _, Reason.noConfusion⟩)⟩
    | closed draft client now _ _ =>
      obtain ⟨same, quiet⟩ := List.cons.inj single
      cases same
      exact ⟨rfl, .inl ⟨rfl, rest.silent_none quiet rfl⟩⟩

end Registry

end Flowdesk
