import Flowdesk.Desk.Basic
import Flowdesk.Proofs.Workspace.Move

/-!
# Moves of a desk

A move of a desk is one thing that may happen to it: a client's request is handled, files
change with or without the desk being told, a ready task is carried out, time goes by, or
what was sent is taken away. A desk does nothing to its workspace that is not a number of
moves of the workspace, so that what holds of a workspace after any moves holds of the
workspace of a desk as well.
-/

namespace Flowdesk.Desk

open Data Sync

/-- What may happen to a desk. -/
inductive Move (φ : Type) where
  | request (request : Request)
  /-- The desk is told that the file of a path has other content. -/
  | fileChanged (path : String)
  /-- The files change behind the back of the desk. -/
  | refile (files : φ)
  /-- The ready task at a position is carried out. -/
  | work (position : Nat)
  /-- Time goes on to a point that is not before now. -/
  | wait (time : Nat)
  /-- What was sent and announced is taken away. -/
  | collect

variable {φ : Type}

/-- What is reported leaves the workspace as the operation left it. -/
theorem workspace_report {ε α : Type} (desk : Desk φ) (failure : ε → Sync.Failure)
    (uri client : String) (outcome : Workspace φ × Except ε α) :
    (desk.report failure uri client outcome).1 = desk.work outcome.1 := by
  obtain ⟨workspace, result⟩ := outcome
  cases result <;> rfl

/-- The session of a client is one of its workspace's. -/
theorem of_session? {desk : Desk φ} {uri client : String} {session : Session}
    (found : desk.session? uri client = some session) :
    desk.workspace.session? session.number = some session := by
  obtain ⟨number, _, known⟩ := Option.bind_eq_some_iff.mp found
  rw [(Workspace.of_session? known).2]
  exact known

variable [Files.Store φ]

/-- The desk after a move. -/
def act (desk : Desk φ) : Move φ → Desk φ
  | .request request => (desk.handle request).1
  | .fileChanged path => desk.fileChanged path
  | .refile files => desk.work (desk.workspace.act (.refile files))
  | .work position => desk.work (desk.workspace.workAt position)
  | .wait time => desk.work (desk.workspace.waitFor time)
  | .collect => desk.work (desk.workspace.act .collect)

/-- The desk after moves. -/
def after (desk : Desk φ) (moves : List (Move φ)) : Desk φ := moves.foldl act desk

/-- Whether a workspace becomes another one by moves of its own. -/
def Makes (before after : Workspace φ) : Prop :=
  ∃ moves : List (Workspace.Move φ), after = before.after moves

theorem Makes.none (workspace : Workspace φ) : Makes workspace workspace := ⟨[], rfl⟩

theorem Makes.one (workspace : Workspace φ) (move : Workspace.Move φ) :
    Makes workspace (workspace.act move) := ⟨[move], rfl⟩

/-- Moves that are made one stretch after the other are made. -/
theorem Makes.trans {before between after : Workspace φ} (first : Makes before between)
    (second : Makes between after) : Makes before after := by
  obtain ⟨earlier, rfl⟩ := first
  obtain ⟨later, rfl⟩ := second
  exact ⟨earlier ++ later, (Workspace.after_append before earlier later).symm⟩

/-- Moves leave a workspace orderly. -/
theorem Makes.orderly {before after : Workspace φ} (makes : Makes before after)
    (orderly : before.Orderly) : after.Orderly := by
  obtain ⟨moves, rfl⟩ := makes
  exact Workspace.orderly_after orderly moves

/-- Whether a workspace becomes another one by moves of its own, none of which takes away what
was sent. -/
def Proceeds (before after : Workspace φ) : Prop :=
  ∃ moves : List (Workspace.Move φ), .collect ∉ moves ∧ after = before.after moves

/-- A workspace that proceeds makes moves. -/
theorem Proceeds.makes {before after : Workspace φ} (proceeds : Proceeds before after) :
    Makes before after := by
  obtain ⟨moves, _, same⟩ := proceeds
  exact ⟨moves, same⟩

theorem Proceeds.none (workspace : Workspace φ) : Proceeds workspace workspace :=
  ⟨[], List.not_mem_nil, rfl⟩

/-- A move that collects nothing is one step ahead. -/
theorem Proceeds.one (workspace : Workspace φ) (move : Workspace.Move φ)
    (left : move ≠ .collect) : Proceeds workspace (workspace.act move) := by
  refine ⟨[move], ?_, rfl⟩
  intro collects
  exact left (List.mem_singleton.mp collects).symm

/-- What proceeds twice proceeds. -/
theorem Proceeds.trans {before between after : Workspace φ} (first : Proceeds before between)
    (second : Proceeds between after) : Proceeds before after := by
  obtain ⟨earlier, early, rfl⟩ := first
  obtain ⟨later, late, rfl⟩ := second
  refine ⟨earlier ++ later, ?_, (Workspace.after_append before earlier later).symm⟩
  intro collects
  exact (List.mem_append.mp collects).elim early late

/-- A workspace proceeds to what an operation leaves behind, whatever that answers. -/
theorem Proceeds.taken {α : Type} {before after : Workspace φ} {outcome : Workspace φ × α}
    {answer : α} (proceeds : Proceeds before outcome.1) (result : outcome = (after, answer)) :
    Proceeds before after := by
  rw [result] at proceeds
  exact proceeds

variable (desk : Desk φ)

/-- A document is opened and its client connected, or its text is recorded. -/
theorem proceeds_openFor (opening : Registry.Opening) (method : Method) :
    Proceeds desk.workspace (desk.openFor opening method).1.workspace := by
  unfold openFor
  split
  · unfold refresh
    split
    · exact .none desk.workspace
    · simp only [workspace_report]
      exact .one desk.workspace (.update .within opening.uri _ _ opening.client) (by simp)
  · have opened : Proceeds desk.workspace (desk.workspace.openFor opening).1 :=
      .one desk.workspace (.openFor opening) (by simp)
    split
    · next result => exact opened.taken result
    · next workspace result =>
      exact (opened.taken result).trans
        (.one workspace (.connect opening.uri opening.client method) (by simp))

/-- A text is saved if there is one. -/
theorem proceeds_save (uri client : String) (text : Option String) :
    Proceeds desk.workspace (desk.save uri client text).1.workspace := by
  unfold save
  split
  · exact .none desk.workspace
  · next text _ =>
    have saved : Proceeds desk.workspace (desk.workspace.save uri text client).1 :=
      .one desk.workspace (.save uri text client) (by simp)
    split
    · next result => exact saved.taken result
    · next result => exact saved.taken result

/-- A client is disconnected after its hold was let go. -/
theorem proceeds_close (uri client : String) :
    Proceeds desk.workspace (desk.close uri client).1.workspace := by
  unfold close
  split
  · exact (Proceeds.one desk.workspace (.close uri client) (by simp)).trans
      (.one _ (.disconnect uri client) (by simp))
  · exact .none desk.workspace

/-- A session begins unless the client has one. -/
theorem proceeds_attachAs (uri client : String) :
    Proceeds desk.workspace (desk.attachAs uri client).1.workspace := by
  unfold attachAs
  split
  · exact .none desk.workspace
  · have attached : Proceeds desk.workspace (desk.workspace.attach uri client).1 :=
      .one desk.workspace (.attach uri client) (by simp)
    split
    · next result => exact attached.taken result
    · next result => exact attached.taken result

/-- A client without a name is given one, which is no matter of the workspace. -/
theorem proceeds_attach (uri : String) (client : Option String) :
    Proceeds desk.workspace (desk.attach uri client).1.workspace := by
  unfold attach
  split
  · exact proceeds_attachAs desk uri _
  · have attached := proceeds_attachAs desk uri (desk.names (desk.named + 1))
    split
    · next result =>
      rw [result] at attached
      exact attached
    · next result =>
      rw [result] at attached
      exact attached

/-- A session ends if the client has one. -/
theorem proceeds_detach (uri client : String) :
    Proceeds desk.workspace (desk.detach uri client).1.workspace := by
  unfold detach
  split
  · exact .none desk.workspace
  · exact .one desk.workspace (.detach _) (by simp)

/-- No request takes away what was sent. -/
theorem proceeds_handle (request : Request) :
    Proceeds desk.workspace (desk.handle request).1.workspace := by
  cases request with
  | openFor opening method => exact proceeds_openFor desk opening method
  | update uri client version text =>
    simp only [handle, workspace_report]
    exact .one desk.workspace (.update .within uri version text client) (by simp)
  | save uri client text => exact proceeds_save desk uri client text
  | close uri client => exact proceeds_close desk uri client
  | attach uri client => exact proceeds_attach desk uri client
  | detach uri client => exact proceeds_detach desk uri client
  | patch uri client patch =>
    simp only [handle, withSession]
    split
    · exact .none desk.workspace
    · next session found =>
      simp only [workspace_report]
      have submitted := Proceeds.one desk.workspace (.submitPatch session.number patch) (by simp)
      simp only [Workspace.act, Workspace.ask, of_session? found] at submitted
      exact submitted
  | resolve uri client side =>
    simp only [handle, withSession]
    split
    · exact .none desk.workspace
    · exact .one desk.workspace (.resolve _ side) (by simp)
  | status uri => exact .none desk.workspace

/-- What was sent is taken away by the move that says so, and by no other. -/
theorem proceeds_act {move : Move φ} (left : move ≠ .collect) :
    Proceeds desk.workspace (desk.act move).workspace := by
  cases move with
  | request request => exact proceeds_handle desk request
  | fileChanged path =>
    simp only [act, fileChanged]
    split
    · exact .none desk.workspace
    · split
      · exact .one desk.workspace (.reload _) (by simp)
      · exact .none desk.workspace
  | refile files => exact .one desk.workspace (.refile files) (by simp)
  | work position => exact .one desk.workspace (.work position) (by simp)
  | wait time => exact .one desk.workspace (.wait time) (by simp)
  | collect => exact absurd rfl left

/-- Whatever happens to a desk, its workspace makes moves of its own. -/
theorem makes_act (move : Move φ) : Makes desk.workspace (desk.act move).workspace := by
  rcases eq_or_ne move .collect with rfl | left
  · exact .one desk.workspace .collect
  · exact (proceeds_act desk left).makes

/-- What a desk comes to, its workspace comes to by moves of its own. -/
theorem makes_after (moves : List (Move φ)) :
    Makes desk.workspace (desk.after moves).workspace := by
  induction moves generalizing desk with
  | nil => exact .none desk.workspace
  | cons move moves inductionHypothesis =>
    exact (makes_act desk move).trans (inductionHypothesis (desk.act move))

end Flowdesk.Desk
