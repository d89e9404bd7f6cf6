import Flowdesk.Desk.Serve
import Flowdesk.Files.Memory
import Flowdesk.Json.Writer

/-!
# The command

A desk over standard input and output, one request and one response a line. The
settings come from variables of the environment. The files of the document that a
request is about are fetched before the request is handled and put back after it;
what was planned for the time since the line before is done first.
-/

namespace Flowdesk.Command

open Files Text.Utf8

/-- The bytes of a file, unless it cannot be read. -/
def fetchFile (path : String) : IO (Option Bytes) := do
  try
    return some (← IO.FS.readBinFile path).toList
  catch _ => return none

/-- The paths of the files that a request may read or write. -/
def paths (request : Request) : List String :=
  match Address.pathOf? request.uri with
  | some path => [path, path ++ Registry.backupSuffix]
  | none => []

/-- Take a file into a memory as it is found. -/
def takeFile (memory : Memory) (path : String) : IO Memory := do
  match ← fetchFile path with
  | some bytes => return (Store.write memory path bytes).1
  | none => return { memory with files := memory.files.erase (Memory.location path) }

/-- Put a file of a memory back where another one held something else. -/
def putFile (before after : Memory) (path : String) : IO Unit := do
  match after.read path with
  | .error _ => return
  | .ok bytes =>
      if (before.read path).toOption != some bytes then IO.FS.writeBinFile path (ByteArray.mk bytes.toArray)

/-- The desk over other files. -/
def withFiles (desk : Desk Memory) (files : Memory) : Desk Memory :=
  desk.work { desk.workspace with registry := { desk.workspace.registry with files } }

/-- Write a response on a line of its own. -/
def say (output : IO.FS.Stream) (response : Response) : IO Unit := do
  output.putStrLn response.toJson.write
  output.flush

/-- Write the actions that wait to be sent. -/
def sayActions (output : IO.FS.Stream) (desk : Desk Memory) : IO (Desk Memory) := do
  let (sent, workspace) := desk.workspace.collectSent
  for (client, actions) in sent do
    say output (.actions client actions)
  return desk.work workspace.collectAnnounced.2

/-- Answer one line. -/
def answer (output : IO.FS.Stream) (desk : Desk Memory) (line : String) : IO (Desk Memory) := do
  let touched := (Request.parse line).toOption.toList.flatMap paths
  let files ← touched.foldlM takeFile desk.workspace.registry.files
  let (desk, response) := (withFiles desk files).answerLine line
  touched.forM (putFile files desk.workspace.registry.files)
  say output response
  sayActions output desk

/-- Answer lines until the input ends. -/
partial def loop (input output : IO.FS.Stream) (desk : Desk Memory) : IO Unit := do
  let line ← input.getLine
  if line.isEmpty then return
  let elapsed := (← IO.monoMsNow) - Busy.now desk
  let desk ← sayActions output (Busy.sleep desk elapsed)
  if Text.isBlankText line then loop input output desk
  else loop input output (← answer output desk line.trimAsciiEnd.toString)

/-- The variables that are set. -/
def environment : IO (List (String × String)) :=
  Sync.Settings.variableNames.filterMapM fun name => return (← IO.getEnv name).map (name, ·)

end Flowdesk.Command

/-- Run a desk. -/
def main : IO UInt32 := do
  let found ← Flowdesk.Command.environment
  match Flowdesk.Sync.Settings.ofVariables fun name => found.lookup name with
  | .error bad =>
      IO.eprintln ("Error: " ++ bad.message)
      return 1
  | .ok settings =>
      let desk : Flowdesk.Desk Flowdesk.Files.Memory := .create .empty settings
      let started := Flowdesk.Busy.plan desk ({ · with now := ← IO.monoMsNow })
      Flowdesk.Command.loop (← IO.getStdin) (← IO.getStdout) started
      return 0
