import Flowdesk.Proofs.Registry.Holding
import Flowdesk.Workspace.Basic
import Mathlib.Data.List.Nodup

/-!
# What sessions do about an update

An update is heard by the sessions on its document one after the other, and each of
them changes the workspace before the next one hears of it. Since judging a revision
again changes nothing, all of them get the same answer; so the update can be told at
once for all sessions: the coordinator has judged the revision, and each session on
the document has registered a call or had a resolution planned as the answer tells
it to. Documents, views and what waits are left alone.
-/

namespace Flowdesk

open Data Sync Workflow

/-- What an answer of the coordinator moves a session to. -/
inductive Reaction where
  | rest
  /-- Plan a sync for when the document has been left alone. -/
  | sync (direction : Direction)
  /-- Plan the replay of a side. -/
  | resolve (side : Side)
  deriving DecidableEq

/-- The session after it responded. -/
def Session.respond (session : Session) : Reaction → Session
  | .sync _ => { session with debouncer := (session.debouncer.call session.uri).2 }
  | .rest | .resolve _ => session

/-- The tasks that a reaction makes ready. -/
def Session.tasks (session : Session) : Reaction → List Task
  | .rest => []
  | .sync direction => [.beginWait session.number session.debouncer.next direction]
  | .resolve side => [.resolve session.number side]

namespace Workspace

variable {φ : Type}

/-- The reaction to a sync that an answer asks for. The changes of the own client need
none, and without a clock there can be none. -/
def follow (clock : Clock) (session : Session) (update : Registry.Update)
    (direction : Direction) : Reaction :=
  if clock = .within ∧ update.client ≠ session.client then .sync direction else .rest

/-- The reaction of a session on the document of an update to the answer it gets. -/
def answer (settings : Settings) (clock : Clock) (session : Session)
    (update : Registry.Update) : Observation → Reaction
  | .conflict _ =>
      match settings.resolution.preferred with
      | some side => if clock = .within then .resolve side else .rest
      | none => .rest
  | .advanced => follow clock session update .semanticToGraph
  | .keepLocal => follow clock session update .graphToSemantic
  | .inSync =>
    if update.reason = .updated then follow clock session update .semanticToGraph else .rest

/-- Whether an update concerns a session. -/
def concerns (update : Registry.Update) (session : Session) : Prop :=
  update.reason ≠ .deleted ∧ session.uri = update.build.uri

instance (update : Registry.Update) (session : Session) : Decidable (concerns update session) :=
  inferInstanceAs (Decidable (_ ∧ _))

/-- The reaction of any session to an update. -/
def reaction (workspace : Workspace φ) (clock : Clock) (update : Registry.Update)
    (session : Session) : Reaction :=
  if concerns update session then
    answer workspace.settings clock session update
      (workspace.coordinator.observe update.build.uri update.revision).1
  else .rest

/-- Whether the sessions of a workspace can be told apart by their numbers. -/
structure Numbered (workspace : Workspace φ) : Prop where
  distinct : (workspace.sessions.map (·.number)).Nodup
  below : ∀ session ∈ workspace.sessions, session.number < workspace.nextSession

/-- Two workspaces that differ in nothing but what was sent and announced. -/
structure Alike (before after : Workspace φ) : Prop where
  registry : after.registry = before.registry
  coordinator : after.coordinator = before.coordinator
  sessions : after.sessions = before.sessions
  nextSession : after.nextSession = before.nextSession
  agenda : after.agenda = before.agenda

theorem Alike.refl (workspace : Workspace φ) : Alike workspace workspace :=
  ⟨rfl, rfl, rfl, rfl, rfl⟩

theorem Alike.trans {first second third : Workspace φ} (early : Alike first second)
    (late : Alike second third) : Alike first third :=
  ⟨late.registry.trans early.registry, late.coordinator.trans early.coordinator,
    late.sessions.trans early.sessions, late.nextSession.trans early.nextSession,
    late.agenda.trans early.agenda⟩

theorem alike_send (workspace : Workspace φ) (client : String) (actions : List Action) :
    Alike workspace (workspace.send client actions) := by
  unfold send
  split
  · exact ⟨rfl, rfl, rfl, rfl, rfl⟩
  · exact .refl workspace

theorem alike_publish (workspace : Workspace φ) (session : Session) (actions : List Action) :
    Alike workspace (workspace.publish session actions) :=
  alike_send workspace _ _

/-- The coordinator after an update, if any session is concerned. -/
def judgedBy (workspace : Workspace φ) (update : Registry.Update) : Coordinator :=
  (workspace.coordinator.observe update.build.uri update.revision).2

/-- A workspace after one of its sessions heard of an update. -/
structure HeardBy (clock : Clock) (update : Registry.Update) (session : Session)
    (before after : Workspace φ) : Prop where
  registry : after.registry = before.registry
  nextSession : after.nextSession = before.nextSession
  coordinator : after.coordinator =
    if concerns update session then before.judgedBy update else before.coordinator
  sessions : after.sessions = before.sessions.map fun other =>
    if other.number = session.number then
      other.respond (before.reaction clock update session)
    else other
  agenda : after.agenda = { before.agenda with
    ready := before.agenda.ready ++ session.tasks (before.reaction clock update session) }

/-- A reaction that registers no call changes no session. -/
theorem respond_same (session : Session) (reaction : Reaction)
    (quiet : ∀ direction, reaction ≠ .sync direction) : session.respond reaction = session := by
  cases reaction with
  | sync direction => exact absurd rfl (quiet direction)
  | rest => rfl
  | resolve side => rfl

theorem map_unchanged (sessions : List Session) (number : Nat) (reaction : Reaction)
    (quiet : ∀ direction, reaction ≠ .sync direction) :
    (sessions.map fun other =>
      if other.number = number then other.respond reaction else other) = sessions := by
  simp [respond_same _ reaction quiet]

/-- Where no two sessions have the same number, what is done to the sessions of a number is
done to one. -/
theorem map_of_number {earlier later : List Session} {session : Session}
    (distinct : ((earlier ++ session :: later).map (·.number)).Nodup)
    (change : Session → Session) :
    ((earlier ++ session :: later).map fun other =>
      if other.number = session.number then change other else other) =
      earlier ++ change session :: later := by
  rw [List.map_append, List.map_cons, List.nodup_middle, List.nodup_cons,
    ← List.map_append] at distinct
  have kept : ∀ part ⊆ earlier ++ later, (part.map fun other =>
      if other.number = session.number then change other else other) = part := by
    intro part within
    conv_rhs => rw [← List.map_id part]
    apply List.map_congr_left
    intro other present
    exact if_neg fun clash => distinct.1 (List.mem_map.mpr ⟨other, within present, clash⟩)
  rw [List.map_append, List.map_cons, if_pos rfl, kept earlier (List.subset_append_left ..),
    kept later (List.subset_append_right ..)]

/-- With numbers of their own, the sessions of a number are one session. -/
theorem Numbered.unique {workspace : Workspace φ} (numbered : workspace.Numbered)
    {session other : Session} (member : session ∈ workspace.sessions)
    (present : other ∈ workspace.sessions) (same : other.number = session.number) :
    other = session :=
  List.inj_on_of_nodup_map numbered.distinct present member same

/-- The session that is found under the number of a session is that session. -/
theorem Numbered.session?_eq {workspace : Workspace φ} (numbered : workspace.Numbered)
    {session : Session} (member : session ∈ workspace.sessions) :
    workspace.session? session.number = some session := by
  have found : (workspace.session? session.number).isSome := by
    rw [session?, List.find?_isSome]
    exact ⟨session, member, by simp⟩
  obtain ⟨other, same⟩ := Option.isSome_iff_exists.mp found
  have present : other ∈ workspace.sessions := List.mem_of_find?_eq_some same
  have number : other.number = session.number := by simpa using List.find?_some same
  rw [same, numbered.unique member present number]

/-- A session is found under its own number. -/
theorem of_session? {workspace : Workspace φ} {number : Nat} {session : Session}
    (found : workspace.session? number = some session) :
    session ∈ workspace.sessions ∧ session.number = number :=
  ⟨List.mem_of_find?_eq_some found, by simpa using List.find?_some found⟩

/-- The workspace after one of its sessions responded. -/
def carryOut (workspace : Workspace φ) (session : Session) : Reaction → Workspace φ
  | .rest => workspace
  | .sync direction => workspace.schedule session direction
  | .resolve side => workspace.plan (.resolve session.number side)

theorem sessions_carryOut {workspace : Workspace φ} (numbered : workspace.Numbered)
    {session : Session} (member : session ∈ workspace.sessions) (reaction : Reaction) :
    (workspace.carryOut session reaction).sessions = workspace.sessions.map fun other =>
      if other.number = session.number then other.respond reaction else other := by
  cases reaction with
  | rest => exact (map_unchanged _ _ .rest fun _ => Reaction.noConfusion).symm
  | resolve side => exact (map_unchanged _ _ (.resolve side) fun _ => Reaction.noConfusion).symm
  | sync direction =>
    apply List.map_congr_left
    intro other present
    split
    · next same =>
      rw [numbered.unique member present same]
      rfl
    · rfl

theorem agenda_carryOut (workspace : Workspace φ) (session : Session) (reaction : Reaction) :
    (workspace.carryOut session reaction).agenda = { workspace.agenda with
      ready := workspace.agenda.ready ++ session.tasks reaction } := by
  cases reaction with
  | rest => simp [carryOut, Session.tasks]
  | sync | resolve => rfl

/-- Apart from what it sends, a session that hears of an update which concerns it does
what its reaction says once the coordinator has judged the revision. -/
theorem hear_alike (workspace : Workspace φ) (clock : Clock) (session : Session)
    (update : Registry.Update) (concerned : concerns update session) :
    Alike (({ workspace with coordinator := workspace.judgedBy update } : Workspace φ).carryOut
      session (workspace.reaction clock update session)) (workspace.hear clock session update) := by
  obtain ⟨standing, same⟩ := concerned
  have responds : workspace.reaction clock update session =
      answer workspace.settings clock session update
        (workspace.coordinator.observe update.build.uri update.revision).1 :=
    if_pos ⟨standing, same⟩
  have followed : ∀ direction, Alike
      (({ workspace with coordinator := workspace.judgedBy update } : Workspace φ).carryOut
        session (follow clock session update direction))
      (if clock = .within ∧ update.client ≠ session.client then
        ({ workspace with coordinator := workspace.judgedBy update } : Workspace φ).schedule
          session direction
      else { workspace with coordinator := workspace.judgedBy update }) := by
    intro direction
    unfold follow
    split
    · exact .refl _
    · exact .refl _
  unfold hear
  rw [if_neg standing, responds, same]
  simp only
  cases (workspace.coordinator.observe update.build.uri update.revision).1 with
  | inSync =>
    simp only [answer]
    split
    · exact followed .semanticToGraph
    · exact .refl _
  | advanced => exact followed .semanticToGraph
  | keepLocal => exact followed .graphToSemantic
  | conflict found =>
    have settled : ({ workspace with coordinator := workspace.judgedBy update } :
        Workspace φ).settings = workspace.settings := rfl
    unfold judgedBy at settled
    simp only [answer, meetConflict, settled]
    cases workspace.settings.resolution.preferred with
    | some side =>
      simp only
      split
      · exact .refl _
      · exact .refl _
    | none => exact alike_publish _ _ _

/-- A session that hears of an update of its document responds to it as the judgement
tells. -/
theorem hear_heardBy {workspace : Workspace φ} (numbered : workspace.Numbered)
    {session : Session} (member : session ∈ workspace.sessions) (clock : Clock)
    (update : Registry.Update) (same : session.uri = update.build.uri) :
    HeardBy clock update session workspace (workspace.hear clock session update) := by
  by_cases concerned : concerns update session
  · have alike := workspace.hear_alike clock session update concerned
    have judged : ({ workspace with coordinator := workspace.judgedBy update } :
        Workspace φ).Numbered := ⟨numbered.distinct, numbered.below⟩
    refine ⟨?_, ?_, ?_, ?_, ?_⟩
    · rw [alike.registry]
      cases workspace.reaction clock update session <;> rfl
    · rw [alike.nextSession]
      cases workspace.reaction clock update session <;> rfl
    · rw [alike.coordinator, if_pos concerned]
      cases workspace.reaction clock update session <;> rfl
    · rw [alike.sessions]
      exact sessions_carryOut judged member _
    · rw [alike.agenda]
      exact agenda_carryOut _ session _
  · have rest : workspace.reaction clock update session = .rest := if_neg concerned
    have deleted : update.reason = .deleted := by
      by_contra standing
      exact concerned ⟨standing, same⟩
    unfold hear
    rw [if_pos deleted]
    refine ⟨rfl, rfl, (if_neg concerned).symm, ?_, ?_⟩
    · rw [rest]
      exact (map_unchanged _ _ .rest fun _ => Reaction.noConfusion).symm
    · rw [rest]
      exact agenda_carryOut workspace session .rest

@[simp] theorem number_respond (session : Session) (reaction : Reaction) :
    (session.respond reaction).number = session.number := by
  cases reaction <;> rfl

/-- A workspace after the first of its sessions heard of an update and before the rest
did. -/
structure HeardUpTo (clock : Clock) (update : Registry.Update) (heard rest : List Session)
    (before after : Workspace φ) : Prop where
  registry : after.registry = before.registry
  nextSession : after.nextSession = before.nextSession
  coordinator : after.coordinator =
    if ∃ session ∈ heard, concerns update session then before.judgedBy update
    else before.coordinator
  sessions : after.sessions =
    heard.map (fun session => session.respond (before.reaction clock update session)) ++ rest
  agenda : after.agenda = { before.agenda with
    ready := before.agenda.ready ++
      heard.flatMap fun session => session.tasks (before.reaction clock update session) }

/-- A workspace after all of its sessions heard of an update. -/
abbrev Heard (clock : Clock) (update : Registry.Update) (before after : Workspace φ) : Prop :=
  HeardUpTo clock update before.sessions [] before after

/-- Whoever hears later gets the same answer. -/
theorem HeardUpTo.judged {clock : Clock} {update : Registry.Update} {heard rest : List Session}
    {before between : Workspace φ} (sofar : HeardUpTo clock update heard rest before between) :
    between.coordinator.observe update.build.uri update.revision =
      before.coordinator.observe update.build.uri update.revision := by
  rw [sofar.coordinator]
  split
  · exact Coordinator.observe_observe before.coordinator update.build.uri update.revision
  · rfl

/-- Hearing of an update does not touch the settings. -/
theorem HeardUpTo.settings {clock : Clock} {update : Registry.Update} {heard rest : List Session}
    {before after : Workspace φ} (sofar : HeardUpTo clock update heard rest before after) :
    after.settings = before.settings := by
  unfold Workspace.settings
  rw [sofar.coordinator]
  split <;> rfl

/-- Whoever hears later responds as if it were the first. -/
theorem HeardUpTo.responds {clock : Clock} {update : Registry.Update} {heard rest : List Session}
    {before between : Workspace φ} (sofar : HeardUpTo clock update heard rest before between)
    (session : Session) :
    between.reaction clock update session = before.reaction clock update session := by
  unfold reaction
  rw [sofar.judged, sofar.settings]

/-- The next session is one that the update is about. -/
theorem HeardUpTo.next_about {clock : Clock} {update : Registry.Update}
    {heard rest : List Session} {session : Session} {before between after : Workspace φ}
    (sofar : HeardUpTo clock update heard (session :: rest) before between)
    (numbered : between.Numbered) (heardBy : HeardBy clock update session between after) :
    HeardUpTo clock update (heard ++ [session]) rest before after where
  registry := heardBy.registry.trans sofar.registry
  nextSession := heardBy.nextSession.trans sofar.nextSession
  coordinator := by
    rw [heardBy.coordinator, judgedBy, sofar.judged, sofar.coordinator]
    by_cases concerned : concerns update session
    · have whole : ∃ other ∈ heard ++ [session], concerns update other :=
        ⟨session, by simp, concerned⟩
      rw [if_pos concerned, if_pos whole]
      rfl
    · have unchanged : (∃ other ∈ heard ++ [session], concerns update other) ↔
          ∃ other ∈ heard, concerns update other := by
        simp [concerned]
      rw [if_neg concerned]
      simp only [unchanged]
  sessions := by
    have distinct := numbered.distinct
    rw [sofar.sessions] at distinct
    rw [heardBy.sessions, sofar.sessions, map_of_number distinct, sofar.responds session]
    simp
  agenda := by
    rw [heardBy.agenda, sofar.agenda, sofar.responds session]
    simp

/-- The next session is one that the update is not about. -/
theorem HeardUpTo.next_elsewhere {clock : Clock} {update : Registry.Update}
    {heard rest : List Session} {session : Session} {before between : Workspace φ}
    (sofar : HeardUpTo clock update heard (session :: rest) before between)
    (elsewhere : session.uri ≠ update.build.uri) :
    HeardUpTo clock update (heard ++ [session]) rest before between := by
  have unconcerned : ¬concerns update session := fun concerned => elsewhere concerned.2
  have rests : before.reaction clock update session = .rest := if_neg unconcerned
  exact {
    registry := sofar.registry
    nextSession := sofar.nextSession
    coordinator := by
      rw [sofar.coordinator]
      simp [unconcerned]
    sessions := by
      rw [sofar.sessions]
      simp [rests, Session.respond]
    agenda := by
      rw [sofar.agenda]
      simp [rests, Session.tasks] }

/-- The next session hears of an update. -/
theorem HeardUpTo.next {clock : Clock} {update : Registry.Update} {heard rest : List Session}
    {session : Session} {before between : Workspace φ}
    (sofar : HeardUpTo clock update heard (session :: rest) before between)
    (numbered : between.Numbered) :
    HeardUpTo clock update (heard ++ [session]) rest before
      (hearBy clock update between session.number) := by
  have member : session ∈ between.sessions := by
    rw [sofar.sessions]
    exact List.mem_append_right _ List.mem_cons_self
  unfold hearBy
  rw [numbered.session?_eq member]
  simp only
  by_cases same : session.uri = update.build.uri
  · rw [if_pos same]
    exact sofar.next_about numbered (hear_heardBy numbered member clock update same)
  · rw [if_neg same]
    exact sofar.next_elsewhere same

/-- Reactions do not change the numbers of sessions. -/
theorem HeardUpTo.numbered {clock : Clock} {update : Registry.Update} {heard rest : List Session}
    {before between : Workspace φ} (sofar : HeardUpTo clock update heard rest before between)
    (whole : before.sessions = heard ++ rest) (numbered : before.Numbered) :
    between.Numbered := by
  have numbers : between.sessions.map (·.number) = before.sessions.map (·.number) := by
    rw [sofar.sessions, whole]
    simp
  refine ⟨numbers ▸ numbered.distinct, ?_⟩
  intro session member
  have listed : session.number ∈ before.sessions.map (·.number) :=
    numbers ▸ List.mem_map_of_mem member
  obtain ⟨other, present, same⟩ := List.mem_map.mp listed
  rw [sofar.nextSession, ← same]
  exact numbered.below other present

/-- All sessions hear of an update, one after the other. -/
theorem foldl_hearBy {before : Workspace φ} (numbered : before.Numbered) (clock : Clock)
    (update : Registry.Update) (heard rest : List Session) (between : Workspace φ)
    (whole : before.sessions = heard ++ rest)
    (sofar : HeardUpTo clock update heard rest before between) :
    Heard clock update before
      ((rest.map (·.number)).foldl (hearBy clock update) between) := by
  induction rest generalizing heard between with
  | nil =>
    rw [List.append_nil] at whole
    rw [← whole] at sofar
    exact sofar
  | cons session rest inductionHypothesis =>
    apply inductionHypothesis (heard ++ [session])
    · rw [whole, List.append_assoc, List.singleton_append]
    · exact sofar.next (sofar.numbered whole numbered)

/-- An announced update is heard by all sessions. -/
theorem announce_updated {workspace : Workspace φ} (numbered : workspace.Numbered) (clock : Clock)
    (update : Registry.Update) :
    Heard clock update workspace (announce clock workspace (.updated update)) := by
  let noted : Workspace φ :=
    { workspace with announced := .updated update :: workspace.announced }
  have apart : noted.Numbered := ⟨numbered.distinct, numbered.below⟩
  have begun : HeardUpTo clock update [] workspace.sessions noted noted :=
    ⟨rfl, rfl, by simp, rfl, by simp⟩
  have heard : Heard clock update noted (announce clock workspace (.updated update)) :=
    foldl_hearBy apart clock update [] workspace.sessions noted rfl begun
  exact ⟨heard.registry, heard.nextSession, heard.coordinator, heard.sessions, heard.agenda⟩

/-- Reactions depend on the coordinator alone. -/
theorem Alike.reaction {before after : Workspace φ} (alike : Alike before after) (clock : Clock)
    (update : Registry.Update) (session : Session) :
    after.reaction clock update session = before.reaction clock update session := by
  simp only [Workspace.reaction, settings, alike.coordinator]

/-- What is heard from a workspace is heard from any that is like it. -/
theorem Alike.heard {before noted after : Workspace φ} {clock : Clock} {update : Registry.Update}
    (alike : Alike before noted) (heard : Heard clock update noted after) :
    Heard clock update before after := by
  have sessions := heard.sessions
  have agenda := heard.agenda
  have coordinator := heard.coordinator
  simp only [alike.reaction, alike.sessions, alike.agenda, alike.coordinator, judgedBy]
    at sessions agenda coordinator
  exact ⟨heard.registry.trans alike.registry, heard.nextSession.trans alike.nextSession,
    coordinator, sessions, agenda⟩

/-- What is noted after an update was heard makes no difference. -/
theorem HeardUpTo.alike {clock : Clock} {update : Registry.Update} {heard rest : List Session}
    {before between after : Workspace φ}
    (sofar : HeardUpTo clock update heard rest before between) (alike : Alike between after) :
    HeardUpTo clock update heard rest before after :=
  ⟨alike.registry.trans sofar.registry, alike.nextSession.trans sofar.nextSession,
    alike.coordinator.trans sofar.coordinator, alike.sessions.trans sofar.sessions,
    alike.agenda.trans sofar.agenda⟩

/-- Announcements without an update are only noted. -/
theorem announce_silent (workspace : Workspace φ) (clock : Clock) (events : List Registry.Event)
    (silent : Registry.updates events = []) :
    Alike workspace (events.foldl (announce clock) workspace) := by
  induction events generalizing workspace with
  | nil => exact .refl workspace
  | cons event events inductionHypothesis =>
    cases event with
    | updated update => exact nomatch silent
    | saved saved =>
      have noted : Alike workspace (announce clock workspace (.saved saved)) :=
        ⟨rfl, rfl, rfl, rfl, rfl⟩
      exact noted.trans (inductionHypothesis _ silent)

/-- Of announcements with one update the sessions hear that one. -/
theorem announce_single {workspace : Workspace φ} (numbered : workspace.Numbered) (clock : Clock)
    (events : List Registry.Event) (update : Registry.Update)
    (single : Registry.updates events = [update]) :
    Heard clock update workspace (events.foldl (announce clock) workspace) := by
  induction events generalizing workspace with
  | nil => exact nomatch single
  | cons event events inductionHypothesis =>
    cases event with
    | updated announced =>
      obtain ⟨rfl, silent⟩ := List.cons.inj single
      exact (announce_updated numbered clock announced).alike
        (announce_silent _ clock events silent)
    | saved saved =>
      have noted : Alike workspace (announce clock workspace (.saved saved)) :=
        ⟨rfl, rfl, rfl, rfl, rfl⟩
      exact noted.heard (inductionHypothesis ⟨numbered.distinct, numbered.below⟩ single)

/-- Adopting an operation of the registry lets the sessions hear of the update that it
announces, if it does. -/
theorem adopt_cases {α : Type} {workspace : Workspace φ} (numbered : workspace.Numbered)
    (clock : Clock) {outcome : Registry.Outcome φ α}
    (once : (Registry.updates outcome.events).length ≤ 1) :
    (Registry.updates outcome.events = [] ∧
      Alike { workspace with registry := outcome.registry } (workspace.adopt clock outcome).1) ∨
    ∃ update, Registry.updates outcome.events = [update] ∧
      Heard clock update { workspace with registry := outcome.registry }
        (workspace.adopt clock outcome).1 := by
  cases announced : Registry.updates outcome.events with
  | nil => exact .inl ⟨rfl, announce_silent _ clock outcome.events announced⟩
  | cons update others =>
    rw [announced, List.length_cons] at once
    have none : others = [] := List.length_eq_zero_iff.mp (by omega)
    subst none
    have apart : ({ workspace with registry := outcome.registry } : Workspace φ).Numbered :=
      ⟨numbered.distinct, numbered.below⟩
    exact .inr ⟨update, rfl, announce_single apart clock outcome.events update announced⟩

end Workspace

end Flowdesk
