import Flowdesk.Data.NameSet
import Flowdesk.Data.Table
import Flowdesk.Files.Store

/-!
# Files in memory

Files and folders under paths. Slashes at the ends of a path do not count, and the
empty path is the root, which always exists. Nothing else about a path is
interpreted. A folder may be made where a file is kept; it then hides the file.
Writes to chosen paths can be refused.
-/

namespace Flowdesk.Files

open Data Text.Utf8

/-- Files and folders by path, and the paths that refuse to be written (`InMemoryFs`). -/
structure Memory where
  files : Table String Bytes
  folders : NameSet
  refused : NameSet

namespace Memory

/-- The store that holds only the root. -/
def empty : Memory := ⟨.empty, NameSet.empty.insert "", .empty⟩

instance : Inhabited Memory := ⟨empty⟩

/-- The characters of a path without the slashes at its ends. -/
def trimmed (path : String) : List Char :=
  ((path.toList.dropWhile (· = '/')).reverse.dropWhile (· = '/')).reverse

/-- The path under which a file or folder is kept. -/
def location (path : String) : String := String.ofList (trimmed path)

/-- The folders around a location, outermost first, given the reverse of what has
been passed. -/
def foldersAround (passed : List Char) : List Char → List String
  | [] => []
  | c :: rest =>
      if c = '/' ∧ passed.head? ≠ some '/' then
        String.ofList passed.reverse :: foldersAround (c :: passed) rest
      else foldersAround (c :: passed) rest

/-- The store with folders made. -/
def addFolders (memory : Memory) (folders : List String) : Memory :=
  { memory with folders := folders.foldl NameSet.insert memory.folders }

/-- Whether there is a file or a folder. -/
def contains (memory : Memory) (path : String) : Bool :=
  memory.files.contains (location path) || location path ∈ memory.folders

/-- The bytes of a file. -/
def read (memory : Memory) (path : String) : Except Failure Bytes :=
  if location path ∈ memory.folders then .error (.isDirectory (location path))
  else
    match memory.files.get? (location path) with
    | some bytes => .ok bytes
    | none => .error (.notFound (location path))

/-- The store with a folder made, and those around it. -/
def makeFolder (memory : Memory) (path : String) : Memory :=
  memory.addFolders (foldersAround [] (trimmed path) ++ [location path])

/-- The store with a file written, and the folders around it made. -/
def write (memory : Memory) (path : String) (bytes : Bytes) : Except Failure Memory :=
  if location path ∈ memory.refused then .error (.io ("write refused: " ++ location path))
  else if location path ∈ memory.folders then .error (.isDirectory (location path))
  else
    .ok { memory.addFolders (foldersAround [] (trimmed path)) with
      files := memory.files.put (location path) bytes }

/-- The store in which a path refuses to be written. -/
def refuse (memory : Memory) (path : String) : Memory :=
  { memory with refused := memory.refused.insert (location path) }

/-- The text of a file, be it hidden by a folder or not. -/
def contents? (memory : Memory) (path : String) : Option String :=
  (memory.files.get? (location path)).map decodeLossy

instance : Store Memory where
  read := read
  write memory path bytes :=
    match memory.write path bytes with
    | .ok written => (written, .ok ())
    | .error failure => (memory, .error failure)
  contains memory path := .ok (memory.contains path)
  makeFolder memory path := (memory.makeFolder path, .ok ())

end Memory

end Flowdesk.Files
