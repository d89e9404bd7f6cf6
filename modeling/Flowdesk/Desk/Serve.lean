import Flowdesk.Desk.Basic

/-!
# Serving lines

A desk that is given all its input at once answers line by line, before anything
that was planned meanwhile takes its turn. Blank lines are passed over. A line that
is no text ends the service, and what was sent to graphical clients until then is
lost.
-/

namespace Flowdesk

/-- What a desk said over its input. -/
structure Transcript where
  /-- The answers to the lines that are not blank, in order. -/
  answers : List Response
  /-- The actions sent to graphical clients, in order. -/
  sent : List (String × List Action)
  /-- Whether a line was no text. -/
  failed : Bool

namespace Desk

variable {φ : Type} [Files.Store φ]

/-- Split bytes into lines. What follows the last line feed is a line unless it is
empty. -/
def splitLines (line : Text.Utf8.Bytes) : Text.Utf8.Bytes → List Text.Utf8.Bytes
  | [] => if line.isEmpty then [] else [line.reverse]
  | byte :: rest =>
      if byte = 10 then line.reverse :: splitLines [] rest else splitLines (byte :: line) rest

/-- The text of a line, without the carriage return that may end it. -/
def lineText? (line : Text.Utf8.Bytes) : Option String :=
  (Text.Utf8.decode? line).map fun text =>
    if text.endsWith "\r" then (text.dropEnd 1).toString else text

/-- Answer lines in turn, given the answers so far, latest first. -/
def answerLines (desk : Desk φ) (answers : List Response) :
    List Text.Utf8.Bytes → Transcript
  | [] => ⟨answers.reverse, desk.workspace.collectSent.1, false⟩
  | line :: rest =>
      match lineText? line with
      | none => ⟨answers.reverse, [], true⟩
      | some text =>
          if Text.isBlankText text then answerLines desk answers rest
          else
            let (desk, answer) := desk.answerLine text
            answerLines desk (answer :: answers) rest

/-- Serve all input at once. -/
def serve (desk : Desk φ) (input : Text.Utf8.Bytes) : Transcript :=
  desk.answerLines [] (splitLines [] input)

end Desk

end Flowdesk
