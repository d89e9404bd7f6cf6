import Flowdesk.Yaml.Scalar

/-!
# Reading names, tags and directives

An anchor or a reference is a name. A tag is a handle with a suffix, or written out
between angle brackets; a tag of one exclamation mark alone names itself. In a tag
a byte may be escaped by a percent sign, and the bytes escaped one after another
must make up characters. A directive stands on a line of its own and says the
version of the format or what a handle stands for.

Each reader takes the text after the indicator and gives what it found with the
text that follows, or nothing where the rules are broken.
-/

namespace Flowdesk.Yaml

/-- Whether the name of an anchor may end here. -/
def endsName : List Char → Bool
  | [] => true
  | c :: _ => isGap c || "?:,]\x7d%@`".toList.contains c

/-- Read the name of an anchor or a reference. -/
def name? (chars : List Char) : Option (List Char × List Char) :=
  let name := chars.takeWhile isWord
  let rest := chars.dropWhile isWord
  if name.isEmpty || !endsName rest then none else some (name, rest)

/-- A character that a tag may hold. -/
def isTagChar (c : Char) : Bool := isWord c || ";/?:@&=+$.%!~*'()".toList.contains c

/-- A character that only a tag between angle brackets may hold. -/
def isVerbatimChar (c : Char) : Bool := isTagChar c || c == ',' || c == '[' || c == ']'

/-- The byte that two hexadecimal digits name. -/
def hexByte? (a b : Char) : Option Nat := do
  let high ← hexDigit? a
  let low ← hexDigit? b
  some (high * 16 + low)

/-- How many more bytes a character has after its first one, and the bits of that. -/
def leadingByte? (byte : Nat) : Option (Nat × Nat) :=
  if byte < 0x80 then some (0, byte)
  else if 0xC0 ≤ byte ∧ byte < 0xE0 then some (1, byte - 0xC0)
  else if 0xE0 ≤ byte ∧ byte < 0xF0 then some (2, byte - 0xE0)
  else if 0xF0 ≤ byte ∧ byte < 0xF8 then some (3, byte - 0xF0)
  else none

/-- Read the characters of a tag. The number and the bits are those of a character
of which escaped bytes are still owed. -/
def tagChars (allowed : Char → Bool) : Nat → Nat → List Char → Option (List Char × List Char)
  | 0, _, '%' :: a :: b :: rest =>
      if allowed '%' then do
        let byte ← hexByte? a b
        let (owed, bits) ← leadingByte? byte
        let (more, after) ← tagChars allowed owed bits rest
        some (if owed = 0 then Char.ofNat bits :: more else more, after)
      else some ([], '%' :: a :: b :: rest)
  | 0, _, c :: rest =>
      if c = '%' then none
      else if allowed c then
        (tagChars allowed 0 0 rest).map fun (more, after) => (c :: more, after)
      else some ([], c :: rest)
  | 0, _, [] => some ([], [])
  | owed + 1, bits, '%' :: a :: b :: rest => do
      let byte ← hexByte? a b
      if 0x80 ≤ byte ∧ byte < 0xC0 then
        let bits := bits * 64 + (byte - 0x80)
        let (more, after) ← tagChars allowed owed bits rest
        some (if owed = 0 then Char.ofNat bits :: more else more, after)
      else none
  | _ + 1, _, _ => none

/-- Whether a tag may end here. -/
def endsTag (flow : Bool) (chars : List Char) : Bool :=
  gapNext chars || (flow && chars.head? == some ',')

/-- A handle and a suffix with the text after them. -/
structure TagParts where
  handle : List Char
  suffix : List Char
  rest : List Char

/-- Read a tag after its exclamation mark, apart from the check of its end. -/
def tagParts? (chars : List Char) : Option TagParts :=
  match chars with
  | '<' :: more => do
      let (suffix, rest) ← tagChars isVerbatimChar 0 0 more
      match rest with
      | '>' :: rest => if suffix.isEmpty then none else some ⟨[], suffix, rest⟩
      | _ => none
  | _ => do
      let name := chars.takeWhile isWord
      match chars.dropWhile isWord with
      | '!' :: more =>
          let (suffix, rest) ← tagChars isTagChar 0 0 more
          if suffix.isEmpty then none else some ⟨'!' :: name ++ ['!'], suffix, rest⟩
      | more =>
          let (others, rest) ← tagChars isTagChar 0 0 more
          let suffix := name ++ others
          if suffix.isEmpty then some ⟨[], ['!'], rest⟩ else some ⟨['!'], suffix, rest⟩

/-- Read a tag after its exclamation mark. -/
def tag? (flow : Bool) (chars : List Char) : Option TagParts :=
  (tagParts? chars).filter fun parts => endsTag flow parts.rest

/-- The number of a version: at most nine digits. -/
def versionNumber? (chars : List Char) : Option (Nat × List Char) :=
  let digits := chars.takeWhile Char.isDigit
  if digits.isEmpty || 9 < digits.length then none
  else
    some (digits.foldl (fun total c => total * 10 + (c.toNat - '0'.toNat)) 0,
      chars.dropWhile Char.isDigit)

/-- Read the handle of a directive: exclamation marks around a word, or one alone. -/
def handle? (chars : List Char) : Option (List Char × List Char) :=
  match chars with
  | '!' :: more =>
      let name := more.takeWhile isWord
      match more.dropWhile isWord with
      | '!' :: rest => some ('!' :: name ++ ['!'], rest)
      | rest => if name.isEmpty then some (['!'], rest) else none
  | _ => none

/-- What a directive of a name says, with the text after it. -/
def directiveValue? (name chars : List Char) : Option (Token × List Char) :=
  let chars := chars.dropWhile isBlank
  if name = "YAML".toList then do
    let (major, rest) ← versionNumber? chars
    match rest with
    | '.' :: rest =>
        let (minor, rest) ← versionNumber? rest
        some (.versionDirective major minor, rest)
    | _ => none
  else if name = "TAG".toList then do
    let (handle, rest) ← handle? chars
    match rest with
    | c :: _ =>
        if isBlank c then do
          let (start, rest) ← tagChars isVerbatimChar 0 0 (rest.dropWhile isBlank)
          if start.isEmpty || !gapNext rest then none else some (.tagDirective handle start, rest)
        else none
    | [] => none
  else none

/-- Read a directive after its percent sign, up to the end of its line. -/
def directive? (chars : List Char) : Option (Token × List Char) := do
  let name := chars.takeWhile isWord
  let rest := chars.dropWhile isWord
  if name.isEmpty || !gapNext rest then none
  else
    let (token, rest) ← directiveValue? name rest
    some (token, ← restOfLine? rest)

end Flowdesk.Yaml
