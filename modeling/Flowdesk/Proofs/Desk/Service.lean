import Flowdesk.Desk.Serve
import Flowdesk.Proofs.Desk.Move
import Flowdesk.Proofs.Workspace.Sending

/-!
# Serving turn by turn

A service reads the lines of its clients and writes what there is to say to them. At each
turn any of what is ready may happen: the next line is read and answered, the batch of
actions that has waited longest is written, a changed file is taken in, or the tasks of
the desk go on behind the back of the service. Once the input has ended the batches that
wait are written, and the service is closed when it finds none.

The law is that what is written and what still waits is, in order, what there was to
write: of the lines, the answers so far and the lines that were not read; of the batches,
those that were written and those that wait.
-/

namespace Flowdesk

open Data Sync

/-- The batch of actions that a response passes on. The other responses are answers. -/
def Response.batch? : Response → Option (String × List Action)
  | .actions client batch => some (client, batch)
  | .status .. | .saved .. | .error _ => none

/-- How far a service has come. -/
inductive Service.Stage where
  | serving
  /-- The input has ended. -/
  | draining
  | closed
  deriving DecidableEq

/-- A desk that is served, with the lines still to be read and all that was written. -/
structure Service (φ : Type) where
  desk : Desk φ
  input : List String
  output : List Response
  stage : Service.Stage

namespace Service

variable {φ : Type}

/-- What may happen to a service. -/
inductive Turn (φ : Type) where
  /-- The next line is read, and answered unless it is blank. -/
  | line
  /-- The batch of actions that has waited longest is written. -/
  | deliver
  /-- The service is told that the file of a path has other content. -/
  | fileChanged (path : String)
  /-- The files change behind the back of the service. -/
  | refile (files : φ)
  /-- The ready task at a position is carried out. -/
  | work (position : Nat)
  /-- Time goes on to a point that is not before now. -/
  | wait (time : Nat)

/-- The service of a desk at the beginning of its input. -/
def start (desk : Desk φ) (lines : List String) : Service φ := ⟨desk, lines, [], .serving⟩

/-- The batches of actions that wait to be written, in order. -/
def waiting (service : Service φ) : List (String × List Action) :=
  service.desk.workspace.sent.reverse

/-- The service after the batch that has waited longest was written. -/
def deliver (service : Service φ) : Service φ :=
  match service.desk.workspace.sent.getLast? with
  | some (client, actions) =>
      let workspace := service.desk.workspace
      { service with
        desk := service.desk.work { workspace with sent := workspace.sent.dropLast }
        output := service.output ++ [.actions client actions] }
  | none =>
      match service.stage with
      | .draining => { service with stage := .closed }
      | .serving | .closed => service

variable [Files.Store φ]

/-- The service after the next line was read. -/
def readLine (service : Service φ) : Service φ :=
  match service.input with
  | [] => { service with stage := .draining }
  | line :: rest =>
      if Text.isBlankText line then { service with input := rest }
      else
        let (desk, answer) := service.desk.answerLine line
        { service with desk, input := rest, output := service.output ++ [answer] }

/-- The service with a move made by its desk. -/
def move (service : Service φ) (move : Desk.Move φ) : Service φ :=
  { service with desk := service.desk.act move }

/-- The service after a turn. Lines are read and files are listened to as long as the
input lasts, and nothing happens to a service that is closed. -/
def turn (service : Service φ) (turn : Turn φ) : Service φ :=
  match service.stage, turn with
  | .serving, .line => service.readLine
  | .serving, .fileChanged path => service.move (.fileChanged path)
  | .serving, .deliver | .draining, .deliver => service.deliver
  | .serving, .refile files | .draining, .refile files => service.move (.refile files)
  | .serving, .work position | .draining, .work position => service.move (.work position)
  | .serving, .wait time | .draining, .wait time => service.move (.wait time)
  | .draining, .line | .draining, .fileChanged _ | .closed, _ => service

/-- The service after turns. -/
def after (service : Service φ) (turns : List (Turn φ)) : Service φ := turns.foldl turn service

/-- The line that a turn answers, and the desk that answers it. -/
def asks? (service : Service φ) : Turn φ → Option (Desk φ × String)
  | .line =>
      if service.stage = .serving then
        (service.input.head?.filter fun line => !Text.isBlankText line).map (service.desk, ·)
      else none
  | .deliver | .fileChanged _ | .refile _ | .work _ | .wait _ => none

/-- The lines that turns answer, each with the desk that was reached by then. -/
def asked : Service φ → List (Turn φ) → List (Desk φ × String)
  | _, [] => []
  | service, turn :: turns => (service.asks? turn).toList ++ asked (service.turn turn) turns

/-- The batches by which a turn lengthens the queue. -/
def sends (service : Service φ) (turn : Turn φ) : List (String × List Action) :=
  (service.turn turn).waiting.drop service.waiting.length

/-- The batches that are sent in the course of turns, in order. -/
def sent : Service φ → List (Turn φ) → List (String × List Action)
  | _, [] => []
  | service, turn :: turns => service.sends turn ++ sent (service.turn turn) turns

end Service

namespace Desk

variable {φ : Type} (desk : Desk φ)

section Queue

variable [Files.Store φ]

/-- While a workspace proceeds, what was sent is still there. -/
theorem Proceeds.suffix {before after : Workspace φ} (proceeds : Proceeds before after) :
    before.sent <:+ after.sent := by
  obtain ⟨moves, left, rfl⟩ := proceeds
  induction moves generalizing before with
  | nil => exact List.suffix_rfl
  | cons move moves inductionHypothesis =>
    obtain ⟨first, rest⟩ := not_or.mp (mt List.mem_cons.mpr left)
    have said : ∃ fresh kept, (before.act move).sent = fresh ++ kept ∧
        (kept = before.sent ∨ move = .collect) ∧ _ := Workspace.said_act before move
    obtain ⟨fresh, _, grown, rfl | rfl, _⟩ := said
    · have grew : before.sent <:+ (before.act move).sent := ⟨fresh, grown.symm⟩
      exact grew.trans (inductionHypothesis rest)
    · exact absurd rfl first

/-- A line moves the workspace by what its request does, or not at all. -/
theorem proceeds_answerLine (line : String) :
    Proceeds desk.workspace (desk.answerLine line).1.workspace := by
  unfold answerLine
  cases Request.parse line with
  | error fault => exact .none desk.workspace
  | ok request =>
    have handled := proceeds_handle desk request
    simp only
    split
    · exact handled
    · exact handled

end Queue

section Answers

/-- Whether a result is no batch of actions. -/
def Plain : Except Refusal Response → Prop
  | .ok response => response.batch? = none
  | .error _ => True

/-- What is reported of an operation is a status. -/
theorem plain_report {ε α : Type} (failure : ε → Sync.Failure) (uri client : String)
    (outcome : Workspace φ × Except ε α) : Plain (desk.report failure uri client outcome).2 := by
  obtain ⟨workspace, result⟩ := outcome
  cases result with
  | ok value => rfl
  | error cause => trivial

variable [Files.Store φ]

/-- So is the answer to one who begins a session. The first actions are sent to it apart. -/
theorem plain_attachAs (uri client : String) : Plain (desk.attachAs uri client).2 := by
  unfold attachAs
  split
  · rfl
  · split
    · trivial
    · rfl

/-- A request is answered with how something stands or refused, and never with actions. -/
theorem plain_handle (request : Request) : Plain (desk.handle request).2 := by
  cases request with
  | openFor opening method =>
    simp only [handle, openFor]
    split
    · unfold refresh
      split
      · rfl
      · exact plain_report desk _ _ _ _
    · split
      · trivial
      · rfl
  | update => exact plain_report desk _ _ _ _
  | save uri client text =>
    simp only [handle, save]
    split
    · trivial
    · split
      · rfl
      · trivial
  | close uri client =>
    simp only [handle, close]
    split
    · rfl
    · trivial
  | attach uri client =>
    cases client with
    | some client => exact plain_attachAs desk uri client
    | none =>
      have plain := plain_attachAs desk uri (desk.names (desk.named + 1))
      simp only [handle, attach]
      split
      · next result =>
        rw [result] at plain
        exact plain
      · trivial
  | detach uri client =>
    simp only [handle, detach]
    split
    · trivial
    · rfl
  | patch uri client patch =>
    simp only [handle, withSession]
    split
    · trivial
    · exact plain_report desk _ _ _ _
  | resolve uri client side =>
    simp only [handle, withSession]
    split
    · trivial
    · rfl
  | status uri => rfl

/-- Whether the request of a line is refused, because it cannot be read or because it fails. -/
inductive Refuses (line : String) : Refusal → Prop where
  | unreadable (fault : Fault) (malformed : Request.parse line = .error fault) :
      Refuses line (.unreadable fault)
  | refused (request : Request) (refusal : Refusal) (reads : Request.parse line = .ok request)
      (fails : (desk.handle request).2 = .error refusal) : Refuses line refusal

/-- A line that is refused is answered with the reason. -/
theorem answer_of_refuses {line : String} {refusal : Refusal}
    (refuses : desk.Refuses line refusal) :
    (desk.answerLine line).2 = .error refusal.message := by
  unfold answerLine
  cases refuses with
  | unreadable fault malformed => simp only [malformed]
  | refused request refusal reads fails => simp only [reads, fails]

/-- The answer to a line is no batch of actions. -/
theorem batch?_answerLine (line : String) : (desk.answerLine line).2.batch? = none := by
  unfold answerLine
  cases Request.parse line with
  | error fault => rfl
  | ok request =>
    have plain := plain_handle desk request
    simp only
    split
    · next result =>
      rw [result] at plain
      exact plain
    · rfl

end Answers

end Desk

namespace Service

variable {φ : Type}

/-- The answers among responses. -/
def answers (responses : List Response) : List Response :=
  responses.filter (·.batch?.isNone)

/-- The batches of actions among responses. -/
def batches (responses : List Response) : List (String × List Action) :=
  responses.filterMap Response.batch?

/-- The lines that are to be answered. -/
def questions (lines : List String) : List String :=
  lines.filter fun line => !Text.isBlankText line

section Deliver

variable (service : Service φ)

/-- A batch that is delivered is written from the front of the queue. -/
theorem batches_deliver :
    batches service.deliver.output ++ service.deliver.waiting =
      batches service.output ++ service.waiting := by
  unfold deliver
  split
  · next client actions oldest =>
    obtain ⟨rest, split⟩ := List.getLast?_eq_some_iff.mp oldest
    simp only [batches, waiting, Desk.work, split, List.dropLast_concat, List.filterMap_append,
      List.reverse_append, List.append_assoc]
    rfl
  · split <;> rfl

/-- A batch that is delivered is no answer. -/
theorem answers_deliver : answers service.deliver.output = answers service.output := by
  unfold deliver
  split
  · simp [answers, Response.batch?]
  · split <;> rfl

end Deliver

/-- A queue that only grew is what it was and that by which it grew. -/
theorem waiting_of_suffix {before after : Service φ}
    (grown : before.desk.workspace.sent <:+ after.desk.workspace.sent) :
    after.waiting = before.waiting ++ after.waiting.drop before.waiting.length :=
  (List.prefix_iff_eq_append.mp (List.reverse_prefix.mpr grown)).symm

section Step

variable [Files.Store φ]

/-- What a step is to keep, when it answers given lines: of the lines, those answered and
those still to be read; of the batches, those written and those that wait, apart from those
by which the queue has grown. -/
structure Keeps (before after : Service φ) (asked : List (Desk φ × String)) : Prop where
  answered : answers after.output =
    answers before.output ++ asked.map fun (desk, line) => (desk.answerLine line).2
  unread : asked.map Prod.snd ++ questions after.input = questions before.input
  queued : batches after.output ++ after.waiting =
    batches before.output ++ before.waiting ++ after.waiting.drop before.waiting.length

/-- A step to another stage loses nothing and answers nothing. -/
theorem Keeps.none (service : Service φ) (stage : Stage) :
    Keeps service { service with stage } [] where
  answered := (List.append_nil _).symm
  unread := rfl
  queued := by
    have same : Service.waiting { service with stage } = service.waiting := rfl
    rw [same, List.drop_length, List.append_nil]

/-- A move of the desk writes nothing. It may lengthen the queue, at its end only. -/
theorem keeps_move (service : Service φ) {move : Desk.Move φ} (left : move ≠ .collect) :
    Keeps service (service.move move) [] where
  answered := (List.append_nil _).symm
  unread := rfl
  queued := by
    have grown : (service.move move).waiting =
        service.waiting ++ (service.move move).waiting.drop service.waiting.length :=
      waiting_of_suffix (service.desk.proceeds_act left).suffix
    have written : (service.move move).output = service.output := rfl
    rw [written, List.append_assoc, ← grown]

/-- What is delivered goes from the front of the queue to the end of what was written. -/
theorem keeps_deliver (service : Service φ) : Keeps service service.deliver [] where
  answered := by
    rw [answers_deliver, List.map_nil, List.append_nil]
  unread := by
    unfold deliver
    split
    · rfl
    · split <;> rfl
  queued := by
    -- nothing was sent, so nothing of the queue counts as grown
    have shorter : service.deliver.waiting.length ≤ service.waiting.length := by
      have conserved := congrArg List.length (batches_deliver service)
      have written : (batches service.output).length ≤ (batches service.deliver.output).length := by
        unfold deliver
        split
        · simp [batches]
        · split <;> exact Nat.le_refl _
      simp only [List.length_append] at conserved
      omega
    rw [batches_deliver, List.drop_eq_nil_of_le shorter, List.append_nil]

/-- A line that is read is passed over if it is blank, and answered at once if it is not. -/
theorem keeps_readLine {service : Service φ} (serving : service.stage = .serving) :
    Keeps service service.readLine (service.asks? .line).toList := by
  obtain ⟨desk, input, output, stage⟩ := service
  unfold readLine asks?
  rw [if_pos serving]
  cases input with
  | nil => exact .none ⟨desk, [], output, stage⟩ .draining
  | cons line rest =>
    by_cases blank : Text.isBlankText line
    · simp only [List.head?_cons, Option.filter_some, blank, Bool.not_true, Bool.false_eq_true,
        if_true, if_false, Option.map_none, Option.toList_none]
      have same := Keeps.none ⟨desk, rest, output, stage⟩ stage
      constructor
      · exact same.answered
      · simp [questions, blank]
      · exact same.queued
    · simp only [List.head?_cons, Option.filter_some, blank, Bool.not_false, if_true,
        Bool.false_eq_true, if_false, Option.map_some, Option.toList_some]
      have plain := desk.batch?_answerLine line
      constructor
      · simp [answers, plain]
      · simp [questions, blank]
      · have grown : desk.workspace.sent <:+ (desk.answerLine line).1.workspace.sent :=
          (desk.proceeds_answerLine line).suffix
        simp only [batches, List.filterMap_append, List.filterMap_cons, plain, List.filterMap_nil,
          List.append_nil]
        rw [List.append_assoc, ← waiting_of_suffix]
        exact grown

/-- **The law of a turn.** It answers the lines it reads, writes batches from the front of the
queue, and lengthens the queue at its end.

Proof: by cases on the stage and the turn. At every stage a turn is one of four steps: a line
is read, a batch is delivered, the desk makes a move, or nothing happens but that the stage
changes. Each of them keeps the law by a lemma of its own. -/
theorem keeps_turn (service : Service φ) (turn : Turn φ) :
    Keeps service (service.turn turn) (service.asks? turn).toList := by
  unfold Service.turn
  cases stage : service.stage with
  | serving =>
    cases turn with
    | line => exact keeps_readLine stage
    | deliver => exact keeps_deliver service
    | fileChanged path => exact keeps_move service nofun
    | refile files => exact keeps_move service nofun
    | work position => exact keeps_move service nofun
    | wait time => exact keeps_move service nofun
  | draining =>
    cases turn with
    | line =>
      rw [asks?, if_neg (by simp [stage])]
      exact .none service service.stage
    | deliver => exact keeps_deliver service
    | fileChanged path => exact .none service service.stage
    | refile files => exact keeps_move service nofun
    | work position => exact keeps_move service nofun
    | wait time => exact keeps_move service nofun
  | closed =>
    have quiet : service.asks? turn = none := by cases turn <;> simp [asks?, stage]
    rw [quiet]
    exact .none service service.stage

end Step

section Stage

/-- What is over at a stage: the input once the service is draining, and the queue as well
once it is closed. This is an invariant, since nothing is read after the input has ended and
nothing happens after the service is closed. -/
def Over (service : Service φ) : Prop :=
  match service.stage with
  | .serving => True
  | .draining => service.input = []
  | .closed => service.input = [] ∧ service.waiting = []

/-- The service is closed by a delivery that finds nothing in the queue of a draining service. -/
theorem over_deliver {service : Service φ} (past : service.Over)
    (opened : service.stage ≠ .closed) : service.deliver.Over := by
  unfold deliver
  cases oldest : service.desk.workspace.sent.getLast? with
  | some batch =>
    cases stage : service.stage with
    | serving => simp [Over]
    | draining =>
      simp only [Over, stage] at past ⊢
      exact past
    | closed => exact absurd stage opened
  | none =>
    have empty : service.desk.workspace.sent = [] := List.getLast?_eq_none_iff.mp oldest
    cases stage : service.stage with
    | serving => simp [Over, stage]
    | draining =>
      simp only [Over, stage] at past ⊢
      exact ⟨past, by simp [waiting, empty]⟩
    | closed => exact absurd stage opened

variable [Files.Store φ]

/-- The queue may grow as long as the service is not closed. -/
theorem over_move {service : Service φ} (past : service.Over) (opened : service.stage ≠ .closed)
    (move : Desk.Move φ) : (service.move move).Over := by
  cases stage : service.stage with
  | serving => simp [Over, Service.move, stage]
  | draining =>
    simp only [Over, stage] at past
    simpa only [Over, Service.move, stage] using past
  | closed => exact absurd stage opened

/-- The service begins to drain when a line is asked for and none is left. -/
theorem over_readLine {service : Service φ} (serving : service.stage = .serving) :
    service.readLine.Over := by
  unfold readLine
  cases lines : service.input with
  | nil => rfl
  | cons line rest =>
    simp only
    split
    · simp [Over, serving]
    · simp [Over, serving]

/-- What is over at a stage is over after a turn, at the stage that it leads to. -/
theorem over_turn {service : Service φ} (past : service.Over) (turn : Turn φ) :
    (service.turn turn).Over := by
  unfold Service.turn
  cases stage : service.stage with
  | serving =>
    have opened : service.stage ≠ .closed := by simp [stage]
    cases turn with
    | line => exact over_readLine stage
    | deliver => exact over_deliver past opened
    | fileChanged path => exact over_move past opened _
    | refile files => exact over_move past opened _
    | work position => exact over_move past opened _
    | wait time => exact over_move past opened _
  | draining =>
    have opened : service.stage ≠ .closed := by simp [stage]
    cases turn with
    | line => exact past
    | deliver => exact over_deliver past opened
    | fileChanged path => exact past
    | refile files => exact over_move past opened _
    | work position => exact over_move past opened _
    | wait time => exact over_move past opened _
  | closed => exact past

/-- So it is after any turns. -/
theorem over_after {service : Service φ} (past : service.Over) (turns : List (Turn φ)) :
    (service.after turns).Over := by
  induction turns generalizing service with
  | nil => exact past
  | cons turn turns inductionHypothesis => exact inductionHypothesis (over_turn past turn)

end Stage

section Progress

variable [Files.Store φ]

/-- Turns in a row. -/
theorem after_append (service : Service φ) (earlier later : List (Turn φ)) :
    service.after (earlier ++ later) = (service.after earlier).after later :=
  List.foldl_append

/-- A line that is read is one line less, and it does not matter how it is answered. -/
theorem turn_line {service : Service φ} {line : String} {rest : List String}
    (serving : service.stage = .serving) (lines : service.input = line :: rest) :
    (service.turn .line).stage = .serving ∧ (service.turn .line).input = rest := by
  have reads : service.turn .line = service.readLine := by
    unfold Service.turn
    rw [serving]
  rw [reads]
  unfold readLine
  rw [lines]
  simp only
  split
  · exact ⟨serving, rfl⟩
  · exact ⟨serving, rfl⟩

/-- The lines can be read to the end of the input: one turn for each of them, and one more to
find that none is left. -/
theorem reads_on {service : Service φ} (serving : service.stage = .serving) :
    (service.after (List.replicate (service.input.length + 1) .line)).stage = .draining := by
  induction lines : service.input generalizing service with
  | nil =>
    have ends : service.turn .line = { service with stage := .draining } := by
      simp only [Service.turn, serving, readLine, lines]
    change (service.turn .line).stage = .draining
    rw [ends]
  | cons line rest inductionHypothesis =>
    obtain ⟨goesOn, left⟩ := turn_line serving lines
    exact inductionHypothesis goesOn left

/-- The batches that wait can be written to the end of the queue: one turn for each of them,
and one more to find that none is left. Nothing is sent meanwhile, so the length of the queue
falls with every turn. -/
theorem delivers_on {service : Service φ} (draining : service.stage = .draining) :
    (service.after (List.replicate (service.desk.workspace.sent.length + 1) .deliver)).stage =
      .closed := by
  have delivers : service.turn .deliver = service.deliver := by
    unfold Service.turn
    rw [draining]
  induction queue : service.desk.workspace.sent.length generalizing service with
  | zero =>
    change (service.turn .deliver).stage = .closed
    rw [delivers]
    simp only [deliver, List.length_eq_zero_iff.mp queue, List.getLast?_nil, draining]
  | succ left inductionHypothesis =>
    have some : service.desk.workspace.sent ≠ [] := by
      intro none
      simp [none] at queue
    have written : service.deliver.stage = .draining ∧
        service.deliver.desk.workspace.sent = service.desk.workspace.sent.dropLast := by
      unfold deliver
      rw [List.getLast?_eq_getLast_of_ne_nil some]
      exact ⟨draining, rfl⟩
    change ((service.turn .deliver).after (List.replicate (left + 1) .deliver)).stage = .closed
    rw [delivers]
    apply inductionHypothesis written.1
    · unfold Service.turn
      rw [written.1]
    · rw [written.2, List.length_dropLast, queue]
      rfl

/-- Whatever has happened, a service can be brought to its end. -/
theorem comes_to_end (service : Service φ) :
    ∃ turns : List (Turn φ), (service.after turns).stage = .closed := by
  cases stage : service.stage with
  | serving => exact ⟨_, after_append service _ _ ▸ delivers_on (reads_on stage)⟩
  | draining => exact ⟨_, delivers_on stage⟩
  | closed => exact ⟨[], stage⟩

end Progress

section Run

variable [Files.Store φ]

/-- The answers that were written are those to the lines that were answered. By induction on the
turns, from the law of one turn. -/
theorem answers_after (service : Service φ) (turns : List (Turn φ)) :
    answers (service.after turns).output =
      answers service.output ++
        (service.asked turns).map fun (desk, line) => (desk.answerLine line).2 := by
  induction turns generalizing service with
  | nil => exact (List.append_nil _).symm
  | cons turn turns inductionHypothesis =>
    have law := keeps_turn service turn
    calc answers ((service.turn turn).after turns).output
      _ = answers (service.turn turn).output ++
          (asked (service.turn turn) turns).map fun (desk, line) => (desk.answerLine line).2 :=
        inductionHypothesis (service.turn turn)
      _ = answers service.output ++
          (service.asked (turn :: turns)).map fun (desk, line) => (desk.answerLine line).2 := by
        rw [law.answered, asked, List.map_append, List.append_assoc]

/-- The lines that were answered and those still to be read are the lines there were. -/
theorem questions_after (service : Service φ) (turns : List (Turn φ)) :
    (service.asked turns).map Prod.snd ++ questions (service.after turns).input =
      questions service.input := by
  induction turns generalizing service with
  | nil => rfl
  | cons turn turns inductionHypothesis =>
    have law := keeps_turn service turn
    calc (service.asked (turn :: turns)).map Prod.snd ++
          questions ((service.turn turn).after turns).input
      _ = (service.asks? turn).toList.map Prod.snd ++
          ((asked (service.turn turn) turns).map Prod.snd ++
            questions ((service.turn turn).after turns).input) := by
        rw [asked, List.map_append, List.append_assoc]
      _ = questions service.input := by
        rw [inductionHypothesis, law.unread]

/-- The batches that were written and those that wait are those there were and those that were
sent. -/
theorem batches_after (service : Service φ) (turns : List (Turn φ)) :
    batches (service.after turns).output ++ (service.after turns).waiting =
      batches service.output ++ service.waiting ++ service.sent turns := by
  induction turns generalizing service with
  | nil => exact (List.append_nil _).symm
  | cons turn turns inductionHypothesis =>
    have law := keeps_turn service turn
    calc batches ((service.turn turn).after turns).output ++
          ((service.turn turn).after turns).waiting
      _ = batches (service.turn turn).output ++ (service.turn turn).waiting ++
          sent (service.turn turn) turns := inductionHypothesis (service.turn turn)
      _ = batches service.output ++ service.waiting ++ service.sent (turn :: turns) := by
        rw [law.queued, sent, sends, List.append_assoc]

/-- Answering lines in turn is reading every line before anything else gets its turn. -/
theorem answerLines_eq_after {service : Service φ} {input : List Text.Utf8.Bytes}
    (serving : service.stage = .serving)
    (texts : input.map Desk.lineText? = service.input.map some) :
    let read := service.after (List.replicate (service.input.length + 1) .line)
    service.desk.answerLines service.output.reverse input = ⟨read.output, read.waiting, false⟩ := by
  induction input generalizing service with
  | nil =>
    -- the one turn that is left finds the end of the input
    have none : service.input = [] := List.map_eq_nil_iff.mp texts.symm
    have ends : service.turn .line = { service with stage := .draining } := by
      simp only [Service.turn, serving, readLine, none]
    rw [none, Desk.answerLines, List.reverse_reverse]
    change _ = Transcript.mk (service.turn .line).output (service.turn .line).waiting false
    rw [ends]
    rfl
  | cons bytes input inductionHypothesis =>
    cases lines : service.input with
    | nil => simp [lines] at texts
    | cons line rest =>
      rw [lines, List.map_cons, List.map_cons] at texts
      obtain ⟨text, others⟩ := List.cons.inj texts
      obtain ⟨goesOn, left⟩ := turn_line serving lines
      have later := inductionHypothesis goesOn (left.symm ▸ others)
      rw [left] at later
      simp only [Desk.answerLines, text]
      change _ = Transcript.mk
        ((service.turn .line).after (List.replicate (rest.length + 1) .line)).output
        ((service.turn .line).after (List.replicate (rest.length + 1) .line)).waiting false
      rw [← later]
      simp only [Service.turn, serving, readLine, lines]
      split
      · rfl
      · simp only [List.reverse_append, List.reverse_cons, List.reverse_nil, List.nil_append,
          List.singleton_append]

/-- So a desk that is given all its input at once serves it in one of the courses that a
service may take, and what it sends is what waits when the input has ended. -/
theorem serve_eq_after (desk : Desk φ) {input : Text.Utf8.Bytes} {lines : List String}
    (texts : (Desk.splitLines [] input).map Desk.lineText? = lines.map some) :
    let read := (start desk lines).after (List.replicate (lines.length + 1) .line)
    desk.serve input = ⟨read.output, read.waiting, false⟩ := by
  have serving : (start desk lines).stage = .serving := rfl
  exact answerLines_eq_after serving texts

/-- **A service loses nothing and repeats nothing.** Whatever turns a service takes from
any desk and any lines, the answers it has written are those to the lines it has read that
are not blank, in order, each given by the desk that was reached by then, and a line that
is refused is answered with the reason. The lines it has read are those at the front of the
input. The batches it has written and those that wait are the batches that were sent, in
order. When it is closed every line was read and every batch written, and whatever the
answers were it can be brought to that.

Proof: the three laws of what was written follow from the law of a turn by induction on the
turns. A service is closed by a turn that finds both the input and the queue empty, and stays
as it is from then on, so that nothing is missing in the first two laws when it is closed. -/
theorem service_loses_nothing (desk : Desk φ) (lines : List String) (turns : List (Turn φ)) :
    let service := start desk lines
    let ended := service.after turns
    let read := service.asked turns
    let queued := desk.workspace.sent.reverse ++ service.sent turns
    answers ended.output = read.map (fun (desk, line) => (desk.answerLine line).2) ∧
      (∀ desk line refusal, (desk, line) ∈ read → desk.Refuses line refusal →
        .error refusal.message ∈ ended.output) ∧
      read.map Prod.snd ++ questions ended.input = questions lines ∧
      batches ended.output ++ ended.waiting = queued ∧
      (ended.stage = .closed →
        read.map Prod.snd = questions lines ∧ batches ended.output = queued) ∧
      ∃ more : List (Turn φ), (ended.after more).stage = .closed := by
  intro service ended read queued
  have asked : read.map Prod.snd ++ questions ended.input = questions lines :=
    questions_after service turns
  have written : batches ended.output ++ ended.waiting = queued := batches_after service turns
  have answered := answers_after service turns
  refine ⟨answered, ?refused, asked, written, ?closed, comes_to_end ended⟩
  case refused =>
    intro desk line refusal reads refuses
    have answer : (desk.answerLine line).2 ∈ answers ended.output := by
      rw [answered]
      exact List.mem_map_of_mem (f := fun (desk, line) => (desk.answerLine line).2) reads
    rw [desk.answer_of_refuses refuses] at answer
    exact List.mem_of_mem_filter answer
  case closed =>
    intro closed
    have begun : service.Over := trivial
    have past : ended.Over := over_after begun turns
    simp only [Over, closed] at past
    constructor
    · rw [← asked, past.1]
      exact (List.append_nil _).symm
    · rw [← written, past.2, List.append_nil]

end Run

end Service

end Flowdesk
