import Flowdesk.Data.Table
import Flowdesk.Files.Store

/-!
# Files on disk

A disk is a tree of folders with files at its leaves. A path is followed name by
name from the root: a dot stays, two dots go back, and every name but the last must
be a folder. Paths that do not start at the root are followed from a base folder.
Failures name the path that was asked for and what stood in the way.
-/

namespace Flowdesk.Files

open Data Text.Utf8

/-- What a name in a folder stands for. -/
inductive Entry where
  | folder
  | file (bytes : Bytes)
  deriving DecidableEq, Repr

/-- Folders and files by the names that lead to them from the root, in reverse, and
the folder from which other paths are followed (`NativeFs`). -/
structure Disk where
  base : String
  entries : Table (List String) Entry

/-- What stands in the way of an operation. -/
inductive Obstacle where
  | missing
  | isFolder
  | notFolder
  | taken
  | nameTooLong
  | zeroCharacter
  deriving DecidableEq, Repr

namespace Obstacle

/-- The words of the system for an obstacle that has no failure of its own. -/
def cause : Obstacle → String
  | .missing => "No such file or directory (os error 2)"
  | .isFolder => "Is a directory (os error 21)"
  | .notFolder => "Not a directory (os error 20)"
  | .taken => "File exists (os error 17)"
  | .nameTooLong => "File name too long (os error 36)"
  | .zeroCharacter => "file name contained an unexpected NUL byte"

/-- The failure of an operation on a path. -/
def failure (path : String) : Obstacle → Failure
  | .missing => .notFound path
  | .isFolder => .isDirectory path
  | obstacle => .io (path ++ ": " ++ obstacle.cause)

end Obstacle

namespace Disk

/-- The greatest length of a name in bytes. -/
def longestName : Nat := 255

/-- The path that is followed for a path: itself if it starts at the root, else one
that starts at the base. -/
def fullPath (disk : Disk) (path : String) : String :=
  if path.isEmpty then disk.base
  else if path.startsWith "/" then path
  else if disk.base.endsWith "/" then disk.base ++ path
  else disk.base ++ "/" ++ path

/-- Split characters at the slashes, given the reverse of the name being read. Empty
names do not count. -/
def splitNames (name : List Char) : List Char → List String
  | [] => if name.isEmpty then [] else [String.ofList name.reverse]
  | c :: rest =>
      if c = '/' then
        if name.isEmpty then splitNames [] rest
        else String.ofList name.reverse :: splitNames [] rest
      else splitNames (c :: name) rest

/-- The names of a path, and whether a slash at its end asks for a folder. -/
def names (path : String) : List String × Bool :=
  (splitNames [] path.toList, path.endsWith "/")

/-- The entry at a place. The root is a folder. -/
def entry? (disk : Disk) (place : List String) : Option Entry :=
  if place.isEmpty then some .folder else disk.entries.get? place

/-- Follow one name out of a place. -/
def follow (disk : Disk) (place : List String) (name : String) : Except Obstacle (List String) :=
  match disk.entry? place with
  | none => .error .missing
  | some (.file _) => .error .notFolder
  | some .folder =>
      if name = "." then .ok place
      else if name = ".." then .ok place.tail
      else if longestName < name.utf8ByteSize then .error .nameTooLong
      else .ok (name :: place)

/-- Whether no name holds the character that ends a path in the system. -/
def wellNamed (names : List String) : Bool := names.all fun name => !name.toList.contains '\x00'

/-- Follow names from the root. -/
def followAll (disk : Disk) (names : List String) : Except Obstacle (List String) :=
  if wellNamed names then names.foldlM disk.follow [] else .error .zeroCharacter

/-- The entry that names lead to, with its place. -/
def find (disk : Disk) (names : List String) : Except Obstacle (List String × Entry) := do
  let place ← disk.followAll names
  match disk.entry? place with
  | some entry => return (place, entry)
  | none => throw .missing

/-- The entry of a path. -/
def lookup (disk : Disk) (path : String) : Except Obstacle Entry := do
  let (names, folder) := names path
  match ← disk.find names with
  | (_, .file bytes) => if folder then throw .notFolder else return .file bytes
  | (_, .folder) => return .folder

/-- Whether names lead to a folder. -/
def isFolder (disk : Disk) (names : List String) : Bool :=
  match disk.find names with
  | .ok (_, .folder) => true
  | _ => false

/-- The disk with one more folder. -/
def addFolder (disk : Disk) (names : List String) : Except Obstacle Disk := do
  let place ← disk.followAll names
  if names.getLast?.all (· ∈ [".", ".."]) || (disk.entry? place).isSome then throw .taken
  else return { disk with entries := disk.entries.put place .folder }

/-- Drop the dots at the end of reversed names. -/
def settled (reversed : List String) : List String := reversed.dropWhile (· = ".")

/-- The folders around one that is given by its reversed names, innermost first. -/
def around : List String → List (List String)
  | [] => []
  | name :: rest =>
      if name = "." then around rest else (settled rest).reverse :: around rest

/-- The disk with a folder made, innermost of a list of folders around one another.
Those further out are made only if they are missing, and stay even if what was
wanted cannot be made. -/
def addFolders (disk : Disk) : List (List String) → Disk × Except Obstacle Unit
  | [] => (disk, .error .missing)
  | names :: outer =>
      match disk.addFolder names with
      | .ok made => (made, .ok ())
      | .error .missing =>
          match addFolders disk outer with
          | (changed, .error obstacle) => (changed, .error obstacle)
          | (changed, .ok ()) =>
              match changed.addFolder names with
              | .ok made => (made, .ok ())
              | .error obstacle =>
                  (changed, if changed.isFolder names then .ok () else .error obstacle)
      | .error obstacle => (disk, if disk.isFolder names then .ok () else .error obstacle)

/-- The disk with a folder made, and those around it. -/
def ensureFolder (disk : Disk) (names : List String) : Disk × Except Obstacle Unit :=
  disk.addFolders (names :: around names.reverse)

/-- The disk with the bytes of a file put where a path leads. A path that asks for a
folder can hold no file. -/
def putFile (disk : Disk) (path : String) (bytes : Bytes) : Except Obstacle Disk := do
  let (names, folder) := names path
  let place ← disk.followAll names
  match disk.entry? place with
  | some .folder => throw .isFolder
  | _ =>
      if folder then throw .isFolder
      else return { disk with entries := disk.entries.put place (.file bytes) }

/-- Drop slashes and names that are dots from the reverse of a path. -/
def dropDots : List Char → List Char
  | '/' :: rest => dropDots rest
  | '.' :: '/' :: rest => dropDots rest
  | reversed => reversed

/-- The path of the folder around a path, which the root does not have. -/
def parentPath? (path : String) : Option String :=
  let inner := dropDots path.toList.reverse
  if inner.isEmpty then none
  else
    let outer := dropDots (inner.dropWhile (· ≠ '/'))
    some (if outer.isEmpty then "/" else String.ofList outer.reverse)

/-- The bytes of a file. -/
def read (disk : Disk) (path : String) : Except Failure Bytes :=
  let full := disk.fullPath path
  match disk.lookup full with
  | .ok (.file bytes) => .ok bytes
  | .ok .folder => .error (.isDirectory full)
  | .error obstacle => .error (obstacle.failure full)

/-- Whether there is a file or a folder. Only what is missing is not there; any other
obstacle is a failure. -/
def contains (disk : Disk) (path : String) : Except Failure Bool :=
  let full := disk.fullPath path
  match disk.lookup full with
  | .ok _ => .ok true
  | .error .missing => .ok false
  | .error obstacle => .error (obstacle.failure full)

/-- The disk with a folder made, and those around it. -/
def makeFolder (disk : Disk) (path : String) : Disk × Except Failure Unit :=
  let full := disk.fullPath path
  let (made, result) := disk.ensureFolder (names full).1
  (made, result.mapError (Obstacle.failure full))

/-- The disk with a file written, and the folders around it made. -/
def write (disk : Disk) (path : String) (bytes : Bytes) : Disk × Except Failure Unit :=
  let full := disk.fullPath path
  let (made, result) :=
    match parentPath? full with
    | none => (disk, Except.ok ())
    | some parent =>
        let (made, result) := disk.ensureFolder (names parent).1
        (made, result.mapError (Obstacle.failure parent))
  match result with
  | .error failure => (made, .error failure)
  | .ok () =>
      match made.putFile full bytes with
      | .ok written => (written, .ok ())
      | .error obstacle => (made, .error (obstacle.failure full))

/-- A disk that holds nothing but a base folder and those around it. -/
def create (base : String) : Disk := ((⟨base, .empty⟩ : Disk).ensureFolder (names base).1).1

instance : Store Disk where
  read := read
  write := write
  contains := contains
  makeFolder := makeFolder

end Disk

end Flowdesk.Files
