import Flowdesk.Address.Percent
import Flowdesk.Text.Blank

/-!
# File addresses

A document is named by a URI, and a URI of the scheme `file` names a path. Reading
one follows the rules for addresses of files: blanks at the ends and line breaks
anywhere are dropped, a backslash counts as a slash, the only hosts are none and
`localhost`, and a question mark or number sign ends the path. Segments of one or
two dots, plain or escaped, are resolved, but a drive letter is never climbed out
of; a drive letter in the first segment also takes the place of a host. Escapes are
decoded last, so that an escaped slash does not divide segments.

Hosts are told apart by their letters alone. The rules also know international spellings of
names, some of which stand for `localhost`, and hosts that are the numbers of a machine, in
brackets or with points between them, some of which are no valid numbers. Addresses with such
hosts are left out here: a host of this kind counts as any other name.

Writing goes the other way for absolute paths: empty segments and those of one dot
vanish, and each byte that the rules give a meaning to is escaped.
-/

namespace Flowdesk.Address

/-- Whether a character is dropped at the ends of an address: a control character
or the space. -/
def isEdge (c : Char) : Bool := c.toNat ≤ 0x20

/-- Whether a character is dropped wherever it stands. -/
def isDropped (c : Char) : Bool := c == '\t' || c == '\n' || c == '\r'

/-- The characters of an address that count. -/
def significant (uri : String) : List Char :=
  ((uri.toList.dropWhile isEdge).reverse.dropWhile isEdge).reverse.filter fun c => !isDropped c

/-- Whether a character may stand in the name of a scheme after the first. -/
def inScheme (c : Char) : Bool := c.isAlphanum || c == '+' || c == '-' || c == '.'

/-- What follows the scheme `file` and its colon. -/
def afterFileScheme? (chars : List Char) : Option (List Char) :=
  let name := chars.takeWhile inScheme
  match chars.dropWhile inScheme with
  | ':' :: rest => if name.map Char.toLower = "file".toList then some rest else none
  | _ => none

/-- Whether a character divides segments. -/
def isSlash (c : Char) : Bool := c == '/' || c == '\\'

/-- Whether a character ends the path. -/
def endsPath (c : Char) : Bool := c == '?' || c == '#'

/-- A letter with a colon or a bar after it. -/
def isDrive : List Char → Bool
  | [letter, mark] => letter.isAlpha && (mark == ':' || mark == '|')
  | _ => false

/-- A letter with a colon after it. -/
def isNormalDrive : List Char → Bool
  | [letter, ':'] => letter.isAlpha
  | _ => false

/-- Whether a path starts with a slash and a drive letter that fills its segment. -/
def startsWithDrive : List Char → Bool
  | first :: letter :: mark :: rest =>
      (isSlash first || endsPath first) && isDrive [letter, mark] &&
        match rest with
        | [] => true
        | next :: _ => isSlash next || endsPath next
  | _ => false

/-- The segments of a path, each with whether a slash follows it. -/
def segments : List Char → List (List Char × Bool)
  | [] => [([], false)]
  | c :: rest =>
      if isSlash c then ([], true) :: segments rest
      else
        match segments rest with
        | (first, slash) :: others => (c :: first, slash) :: others
        | [] => [([c], false)]

/-- What a segment means. -/
inductive Step where
  | up
  | stay
  | into
  deriving DecidableEq

/-- The dots of a segment; an escape of a dot counts as one. -/
def unescapeDots : List Char → List Char
  | '%' :: '2' :: 'e' :: rest | '%' :: '2' :: 'E' :: rest => '.' :: unescapeDots rest
  | c :: rest => c :: unescapeDots rest
  | [] => []

/-- Whether a segment stays, climbs or descends. -/
def stepOf (segment : List Char) : Step :=
  match unescapeDots segment with
  | ['.'] => .stay
  | ['.', '.'] => .up
  | _ => .into

/-- Whether a list of characters ends with a slash. -/
def endsWithSlash (path : List Char) : Bool := path.getLast? = some '/'

/-- The characters up to and including the last slash, and those after it. -/
def splitLast (path : List Char) : List Char × List Char :=
  ((path.reverse.dropWhile (· != '/')).reverse, (path.reverse.takeWhile (· != '/')).reverse)

/-- Whether the slash at the end of a path may be removed: it is not the root, and
no drive letter stands before it. -/
def slashRemovable (path : List Char) : Bool :=
  let (upTo, last) := splitLast path.dropLast
  !upTo.isEmpty && !startsWithDrive ('/' :: last ++ ['/'])

/-- A path without its last segment, unless that is a drive letter. -/
def shorten (path : List Char) : List Char :=
  let (upTo, last) := splitLast path
  if isNormalDrive last then path else upTo

/-- The path so far, and whether a drive letter has taken the place of the host. -/
structure Walk where
  path : List Char
  drive : Bool

/-- Take one segment. -/
def Walk.take (walk : Walk) (segment : List Char × Bool) : Walk :=
  let slashed (path : List Char) : List Char := if segment.2 then path ++ ['/'] else path
  match stepOf segment.1 with
  | .up =>
      let reached :=
        if endsWithSlash walk.path && slashRemovable walk.path then walk.path.dropLast
        else walk.path
      let climbed := shorten reached
      { walk with path := if endsWithSlash climbed then climbed else slashed climbed }
  | .stay =>
      { walk with path := if endsWithSlash walk.path then walk.path else walk.path ++ ['/'] }
  | .into =>
      match walk.path, segment.1 with
      | [_], [letter, mark] =>
          if isDrive [letter, mark] then ⟨slashed (walk.path ++ [letter, ':']), true⟩
          else { walk with path := slashed (walk.path ++ segment.1) }
      | _, _ => { walk with path := slashed (walk.path ++ segment.1) }

/-- Walk the segments of a path, starting from one that is given. -/
def walkPath (start path : List Char) : Walk :=
  (segments (path.takeWhile fun c => !endsPath c)).foldl Walk.take ⟨start, false⟩

/-- Characters that no host name may contain. -/
def forbiddenInHost (c : Char) : Bool :=
  c.toNat ≤ 0x20 || c.toNat == 0x7F || "#/:<>?@[\\]^|%\"`\x7b\x7d".toList.contains c

/-- A host name with its escapes decoded and its letters in lower case. No other spelling of a
name is brought into this form. -/
def hostName (host : List Char) : List Char :=
  (Text.Utf8.decodeLossy (percentDecode (Text.Utf8.encode (String.ofList host)))).toList.map
    Char.toLower

/-- The path that follows two slashes. A host other than `localhost` is accepted
only where a drive letter takes its place. -/
def pathAfterHost? (rest : List Char) : Option (List Char) :=
  let host := rest.takeWhile fun c => !isSlash c && !endsPath c
  let after := rest.dropWhile fun c => !isSlash c && !endsPath c
  if isDrive host then some (walkPath ['/'] rest).path
  else if host = [] ∨ hostName host = "localhost".toList then some (walkPath ['/'] after).path
  else if (hostName host).any forbiddenInHost then none
  else
    let walk :=
      match after with
      | [] => walkPath ['/'] []
      | first :: more => walkPath ['/'] (if isSlash first then more else after)
    if walk.drive then some walk.path else none

/-- The path of an address before its escapes are decoded. -/
def rawPath? (uri : String) : Option (List Char) := do
  let rest ← afterFileScheme? (significant uri)
  let path ←
    match rest with
    | first :: second :: more =>
        if isSlash first then
          if isSlash second then pathAfterHost? more else some (walkPath [] rest).path
        else some (walkPath ['/'] rest).path
    | [first] => some (if isSlash first then walkPath [] rest else walkPath ['/'] rest).path
    | [] => some (walkPath ['/'] rest).path
  some ('/' :: path.dropWhile (· == '/'))

/-- Whether bytes end with a letter and a colon or a bar. -/
def endsWithDrive (bytes : Text.Utf8.Bytes) : Bool :=
  match bytes.reverse with
  | mark :: letter :: _ :: _ =>
      (mark == 0x3A || mark == 0x7C) && (Char.ofNat letter.toNat).isAlpha
  | _ => false

/-- The path that an address names, unless it is not the address of a file. This is so for
addresses without a host or with one whose name is plain, as `hostName` reads it. -/
def pathOf? (uri : String) : Option String := do
  let raw ← rawPath? uri
  let bytes := percentDecode (Text.Utf8.encode (String.ofList raw))
  some (Text.Utf8.decodeLossy (if endsWithDrive bytes then bytes ++ [0x2F] else bytes))

/-- Whether a byte of a path is written as an escape. -/
def escapedInPath (byte : UInt8) : Bool :=
  byte.toNat ≤ 0x20 || 0x7F ≤ byte.toNat ||
    [0x22, 0x23, 0x25, 0x2F, 0x3C, 0x3E, 0x3F, 0x5C, 0x60, 0x7B, 0x7D].contains byte

/-- One segment of a path, as it is written in an address. -/
def writeSegment (segment : List Char) : List Char :=
  (Text.Utf8.encode (String.ofList segment)).flatMap fun byte =>
    if escapedInPath byte then percentEscape byte else [Char.ofNat byte.toNat]

/-- The segments of a path that an address keeps. -/
def keptSegments (path : List Char) : List (List Char) :=
  (path.splitOn '/').filter fun segment => segment ≠ [] && segment ≠ ['.']

/-- The address of a path, if the path is absolute. -/
def uriOf? (path : String) : Option String :=
  match path.toList with
  | '/' :: rest =>
      let kept := keptSegments rest
      let written := if kept = [] then ['/'] else kept.flatMap fun segment => '/' :: writeSegment segment
      some (String.ofList ("file://".toList ++ written))
  | _ => none

end Flowdesk.Address
