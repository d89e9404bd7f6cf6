import Flowdesk.Decimal.Layout
import Flowdesk.Yaml.Character
import Flowdesk.Yaml.Meaning

/-!
# Writing YAML

Collections are written in block style, two columns deeper at each level, with the
dashes of a list at the column of the key it belongs to; empty ones are written as
empty brackets or braces.

A text is written plainly if it then reads back as itself. Otherwise it stands
between single quotes or, when it holds characters that cannot be shown, between
double quotes with escapes. A text with line feeds is a literal block where that is
possible: its lines may not end in spaces, and what it holds must be printable. A
key that is long or has several lines is announced by a question mark.
-/

namespace Flowdesk.Yaml

/-- What is written: texts, numbers, lists, and values under names. -/
inductive Value where
  | text (value : String)
  | number (value : Float)
  | list (items : List Value)
  | record (entries : List (String × Value))

/-- Whether a character is shown as itself. -/
def isPrintable (c : Char) : Bool :=
  let code := c.toNat
  code == 0xA || (0x20 ≤ code && code ≤ 0x7E) || (0xA0 ≤ code && code ≤ 0xD7FF) ||
    (0xE000 ≤ code && code ≤ 0xFFFD && code != 0xFEFF) || 0x10000 ≤ code

/-- Whether some character that satisfies the first condition has one that satisfies
the second right after it. -/
def hasAdjacent (first second : Char → Bool) : List Char → Bool
  | a :: b :: rest => (first a && second b) || hasAdjacent first second (b :: rest)
  | _ => false

/-- Whether a plain scalar would end inside these characters: at a colon before a
gap, or at a number sign after one. -/
def endsInside (afterGap : Bool) : List Char → Bool
  | [] => false
  | c :: rest =>
      (c == ':' && gapNext rest) || (c == '#' && afterGap) || endsInside (isGap c) rest

/-- Whether a plain scalar cannot start with these characters. -/
def startsOtherwise : List Char → Bool
  | '-' :: '-' :: '-' :: _ | '.' :: '.' :: '.' :: _ => true
  | c :: rest =>
      "#,[]\x7b\x7d&*!|>'\"%@`".toList.contains c ||
        ((c == '?' || c == ':' || c == '-') && gapNext rest)
  | [] => false

/-- What forms a text may take. -/
structure Forms where
  multiline : Bool
  plain : Bool
  singleQuoted : Bool
  block : Bool

/-- Find out what forms a text may take. -/
def formsOf (text : List Char) : Forms :=
  let isSpace (c : Char) : Bool := c == ' '
  let isEdge (c : Char) : Bool := isSpace c || isBreak c
  let multiline := text.any isBreak
  let edges := text.head?.any isEdge || text.getLast?.any isEdge
  let breakSpace := hasAdjacent isBreak isSpace text
  let hidden := hasAdjacent isSpace isBreak text || text.any (!isPrintable ·)
  let indicators :=
    startsOtherwise text ||
      match text with
      | c :: rest => endsInside (isGap c) rest
      | [] => false
  { multiline
    plain := !(edges || breakSpace || hidden || multiline || indicators)
    singleQuoted := !(breakSpace || hidden)
    block := !(text.isEmpty || hidden || text.getLast?.any isSpace) }

/-- How a text is written. -/
inductive Form where
  | plain
  | singleQuoted
  | doubleQuoted
  | literal
  deriving DecidableEq, Repr

/-- The form of a text. -/
def formOf (text : List Char) : Form :=
  let forms := formsOf text
  let quoted : Form := if forms.singleQuoted then .singleQuoted else .doubleQuoted
  if text.contains '\n' then if forms.block then .literal else .doubleQuoted
  else if misleads text then quoted
  else if forms.plain then .plain
  else quoted

/-- Spaces up to a column. -/
def spaces (count : Nat) : List Char := List.replicate count ' '

/-- The characters of a text inside single quotes. After a break the next line is
indented; a quote is written twice. -/
def singleQuotedChars (indent : Nat) (broken : Bool) : List Char → List Char
  | [] => if broken then spaces indent else []
  | c :: rest =>
      if isBreak c then c :: singleQuotedChars indent true rest
      else
        let written := if c = '\'' then ['\'', '\''] else [c]
        (if broken then spaces indent else []) ++ written ++ singleQuotedChars indent false rest

/-- A number in upper-case hexadecimal digits, padded with zeros. -/
def paddedHex (width value : Nat) : List Char :=
  let digits := (Nat.toDigits 16 value).map Char.toUpper
  List.replicate (width - digits.length) '0' ++ digits

/-- The escape of a character between double quotes. -/
def doubleEscape (c : Char) : List Char :=
  match c with
  | '\x00' => ['\\', '0']
  | '\x07' => ['\\', 'a']
  | '\x08' => ['\\', 'b']
  | '\t' => ['\\', 't']
  | '\n' => ['\\', 'n']
  | '\x0b' => ['\\', 'v']
  | '\x0c' => ['\\', 'f']
  | '\r' => ['\\', 'r']
  | '\x1b' => ['\\', 'e']
  | '"' => ['\\', '"']
  | '\\' => ['\\', '\\']
  | '\u0085' => ['\\', 'N']
  | '\u2028' => ['\\', 'L']
  | '\u2029' => ['\\', 'P']
  | _ =>
      let code := c.toNat
      if code ≤ 0xFF then '\\' :: 'x' :: paddedHex 2 code
      else if code ≤ 0xFFFF then '\\' :: 'u' :: paddedHex 4 code
      else '\\' :: 'U' :: paddedHex 8 code

/-- One character between double quotes. -/
def doubleQuotedChar (c : Char) : List Char :=
  if isPrintable c && !isBreak c && c != '"' && c != '\\' then [c] else doubleEscape c

/-- The lines of a literal block; every line with content is indented. -/
def literalChars (indent : Nat) (broken : Bool) : List Char → List Char
  | [] => []
  | c :: rest =>
      if isBreak c then c :: literalChars indent true rest
      else (if broken then spaces indent else []) ++ c :: literalChars indent false rest

/-- The marks after the indicator of a literal block: how deep it is indented, if its
first line does not tell, and what its last breaks mean. -/
def literalMarks (text : List Char) : List Char :=
  let depth := if text.head?.any fun c => c == ' ' || isBreak c then ['2'] else []
  let last :=
    match text.reverse with
    | [] => ['-']
    | final :: before =>
        if !isBreak final then ['-']
        else if before.isEmpty || before.head?.any isBreak then ['+']
        else []
  depth ++ last

/-- A text in its form. Its further lines are indented to a column. -/
def writeScalar (indent : Nat) (text : List Char) : List Char :=
  match formOf text with
  | .plain => text
  | .singleQuoted => '\'' :: singleQuotedChars indent false text ++ ['\'']
  | .doubleQuoted => '"' :: text.flatMap doubleQuotedChar ++ ['"']
  | .literal => '|' :: literalMarks text ++ '\n' :: literalChars indent true text

/-- The text of a number. -/
def writeNumber (value : Float) : List Char :=
  match Decimal.Binary.of value with
  | .nan => ".nan".toList
  | .infinite negative => if negative then "-.inf".toList else ".inf".toList
  | .finite .. => (Decimal.finiteText? value).getD []

/-- How much deeper each level is indented. -/
def step : Nat := 2

/-- The greatest number of bytes of a key that is not announced. -/
def longestKey : Nat := 128

/-- End a line, unless it ended by itself. -/
def endLine (chars : List Char) : List Char :=
  if chars.getLast?.any isBreak then chars else chars ++ ['\n']

/-- Whether a key is announced by a question mark. -/
def isAnnounced (key : String) : Bool := key.toList.any isBreak || longestKey < key.utf8ByteSize

/-- A key with its colon, at a column. -/
def writeKey (indent : Nat) (key : String) : List Char :=
  let written := writeScalar (indent + step) key.toList
  if isAnnounced key then spaces indent ++ '?' :: ' ' :: endLine written ++ spaces indent ++ [':']
  else spaces indent ++ written ++ [':']

mutual

/-- The entries of a record, at a column. -/
def writeEntries (indent : Nat) : List (String × Value) → List Char
  | [] => []
  | (key, value) :: rest =>
      writeKey indent key ++ writeUnder indent (isAnnounced key) value ++ writeEntries indent rest

/-- A value after its key. A collection under an announced key starts on the line of
the colon. -/
def writeUnder (indent : Nat) (announced : Bool) : Value → List Char
  | .text value => ' ' :: endLine (writeScalar (indent + step) value.toList)
  | .number value => ' ' :: writeNumber value ++ ['\n']
  | .list [] => " []\n".toList
  | .list (item :: rest) =>
      if announced then
        ' ' :: (writeItems (indent + step) (item :: rest)).drop (indent + step)
      else '\n' :: writeItems indent (item :: rest)
  | .record [] => " \x7b\x7d\n".toList
  | .record (entry :: rest) =>
      let inner := writeEntries (indent + step) (entry :: rest)
      if announced then ' ' :: inner.drop (indent + step) else '\n' :: inner

/-- The items of a list, at a column. -/
def writeItems (indent : Nat) : List Value → List Char
  | [] => []
  | item :: rest => spaces indent ++ '-' :: writeItem indent item ++ writeItems indent rest

/-- A value after its dash. -/
def writeItem (indent : Nat) : Value → List Char
  | .text value => ' ' :: endLine (writeScalar (indent + step) value.toList)
  | .number value => ' ' :: writeNumber value ++ ['\n']
  | .list [] => " []\n".toList
  | .list (item :: rest) => ' ' :: (writeItems (indent + step) (item :: rest)).drop (indent + step)
  | .record [] => " \x7b\x7d\n".toList
  | .record (entry :: rest) =>
      ' ' :: (writeEntries (indent + step) (entry :: rest)).drop (indent + step)

end

/-- The text of a document whose value is a record. -/
def writeDocument (entries : List (String × Value)) : String :=
  match entries with
  | [] => "\x7b\x7d\n"
  | _ => String.ofList (writeEntries 0 entries)

end Flowdesk.Yaml
