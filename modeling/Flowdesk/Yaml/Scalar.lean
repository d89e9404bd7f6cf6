import Flowdesk.Yaml.Character
import Flowdesk.Yaml.Token

/-!
# Reading scalars

A scalar of several lines is folded: within it a single break counts as a space,
further breaks are kept, and blanks around breaks vanish. Plain scalars end before
a comment, before a colon that a blank follows, at the indicators of flow style
inside it, and where a line is indented no deeper than what surrounds them.

A literal block keeps its breaks; a folded block joins lines that are not indented
deeper than the block. What becomes of the breaks at the end of a block is said by
the mark after its indicator.

Each reader takes the text after the indicator that announced the scalar and gives
the content with the text that follows, or nothing where the rules are broken.
-/

namespace Flowdesk.Yaml

/-- The blanks and breaks between two words of a scalar. -/
structure Gap where
  /-- The blanks before any break. -/
  blanks : List Char
  /-- Whether a line ended. -/
  broken : Bool
  /-- The first break, unless it was escaped. -/
  first : List Char
  /-- The breaks after the first. -/
  others : List Char
  /-- The column reached since the last break. -/
  column : Nat

namespace Gap

/-- The gap before anything was read. -/
def none : Gap := ⟨[], false, [], [], 0⟩

/-- The gap after an escaped break. -/
def folded : Gap := ⟨[], true, [], [], 0⟩

/-- What the gap contributes to the content. -/
def joined (gap : Gap) : List Char :=
  if gap.broken then
    if gap.first = ['\n'] then if gap.others = [] then [' '] else gap.others
    else gap.first ++ gap.others
  else gap.blanks

/-- The gap with one more blank. -/
def addBlank (gap : Gap) (c : Char) : Gap :=
  if gap.broken then { gap with column := gap.column + 1 }
  else { gap with blanks := gap.blanks ++ [c] }

/-- The gap with one more break. -/
def addBreak (gap : Gap) (kept : List Char) : Gap :=
  if gap.broken then { gap with others := gap.others ++ kept, column := 0 }
  else { gap with broken := true, first := kept, blanks := [], column := 0 }

/-- Whether a tab would stand among the spaces that indent a line. -/
def refusesTab (gap : Gap) (indent : Nat) : Bool := gap.broken && gap.column < indent

end Gap

/-- Read blanks and breaks. A tab may not stand in the first columns of a line, as
many as the indentation has; zero allows it everywhere. -/
def takeGap (indent : Nat) (gap : Gap) : List Char → Option (Gap × List Char)
  | [] => some (gap, [])
  | '\r' :: '\n' :: rest => takeGap indent (gap.addBreak ['\n']) rest
  | c :: rest =>
      if c = '\t' ∧ gap.refusesTab indent then none
      else if isBlank c then takeGap indent (gap.addBlank c) rest
      else if isBreak c then
        takeGap indent (gap.addBreak (if c = '\u2028' ∨ c = '\u2029' then [c] else ['\n'])) rest
      else some (gap, c :: rest)

/-- Read one word of a plain scalar. Inside flow style a colon before an indicator
is refused. -/
def plainWord (flow : Bool) : List Char → Option (List Char × List Char)
  | [] => some ([], [])
  | c :: rest =>
      if isGap c then some ([], c :: rest)
      else if flow && c == ':' && (rest.head?.any fun next => isFlowIndicator next || next == '?') then
        none
      else if (c == ':' && gapNext rest) || (flow && isFlowIndicator c) then some ([], c :: rest)
      else (plainWord flow rest).map fun (word, after) => (c :: word, after)

/-- A scalar that was read: its content, the text after it, and whether that text
starts on another line. -/
structure Plain where
  text : List Char
  rest : List Char
  broken : Bool

/-- Read a plain scalar, word by word; the first argument bounds the words. -/
def plainFrom (flow : Bool) (indent : Nat) : Nat → List Char → Option Plain
  | 0, chars => some ⟨[], chars, false⟩
  | fuel + 1, chars => do
      let (word, rest) ← plainWord flow chars
      if rest.isEmpty || !gapNext rest then some ⟨word, rest, false⟩
      else
        let (gap, rest) ← takeGap indent .none rest
        if gap.broken && ((!flow && gap.column < indent) || (gap.column == 0 && documentMark rest)) ||
            rest.head? == some '#' then
          some ⟨word, rest, gap.broken⟩
        else
          let more ← plainFrom flow indent fuel rest
          if more.text.isEmpty then some ⟨word, more.rest, gap.broken⟩
          else some ⟨word ++ gap.joined ++ more.text, more.rest, more.broken⟩

/-- Read a plain scalar. -/
def plain? (flow : Bool) (indent : Nat) (chars : List Char) : Option Plain :=
  plainFrom flow indent (chars.length + 1) chars

/-- How a word of a quoted scalar ends. -/
inductive WordEnd where
  /-- At the closing quote. -/
  | closed
  /-- Before a blank or a break. -/
  | gap
  /-- After an escaped break. -/
  | folded

/-- Read one word between single quotes; a quote is written twice. -/
def singleWord : List Char → Option (List Char × WordEnd × List Char)
  | [] => none
  | '\'' :: '\'' :: rest =>
      (singleWord rest).map fun (word, close, after) => ('\'' :: word, close, after)
  | '\'' :: rest => some ([], .closed, rest)
  | c :: rest =>
      if isGap c then some ([], .gap, c :: rest)
      else (singleWord rest).map fun (word, close, after) => (c :: word, close, after)

/-- The value of a hexadecimal digit. -/
def hexDigit? (c : Char) : Option Nat :=
  if '0' ≤ c ∧ c ≤ '9' then some (c.toNat - '0'.toNat)
  else if 'a' ≤ c ∧ c ≤ 'f' then some (c.toNat - 'a'.toNat + 10)
  else if 'A' ≤ c ∧ c ≤ 'F' then some (c.toNat - 'A'.toNat + 10)
  else none

/-- The character of a code point written in hexadecimal digits. -/
def hexChar? (digits : List Char) : Option Char := do
  let code ← digits.foldlM (fun total c => (hexDigit? c).map (total * 16 + ·)) 0
  if code.isValidChar then some (Char.ofNat code) else none

/-- What a single letter after a backslash stands for. -/
def letterEscape? : Char → Option Char
  | '0' => some '\x00'
  | 'a' => some '\x07'
  | 'b' => some '\x08'
  | 't' | '\t' => some '\t'
  | 'n' => some '\n'
  | 'v' => some '\x0b'
  | 'f' => some '\x0c'
  | 'r' => some '\r'
  | 'e' => some '\x1b'
  | ' ' => some ' '
  | '"' => some '"'
  | '/' => some '/'
  | '\\' => some '\\'
  | 'N' => some '\u0085'
  | '_' => some '\u00a0'
  | 'L' => some '\u2028'
  | 'P' => some '\u2029'
  | _ => none

/-- Read one word between double quotes. -/
def doubleWord : List Char → Option (List Char × WordEnd × List Char)
  | [] => none
  | '"' :: rest => some ([], .closed, rest)
  | '\\' :: 'x' :: a :: b :: rest => do
      let c ← hexChar? [a, b]
      let (word, close, after) ← doubleWord rest
      some (c :: word, close, after)
  | '\\' :: 'u' :: a :: b :: c :: d :: rest => do
      let c ← hexChar? [a, b, c, d]
      let (word, close, after) ← doubleWord rest
      some (c :: word, close, after)
  | '\\' :: 'U' :: a :: b :: c :: d :: e :: f :: g :: h :: rest => do
      let c ← hexChar? [a, b, c, d, e, f, g, h]
      let (word, close, after) ← doubleWord rest
      some (c :: word, close, after)
  | '\\' :: '\r' :: '\n' :: rest => some ([], .folded, rest)
  | '\\' :: letter :: rest =>
      if isBreak letter then some ([], .folded, rest)
      else do
        let c ← letterEscape? letter
        let (word, close, after) ← doubleWord rest
        some (c :: word, close, after)
  | c :: rest =>
      if isGap c then some ([], .gap, c :: rest)
      else if c = '\\' then none
      else (doubleWord rest).map fun (word, close, after) => (c :: word, close, after)

/-- Read a quoted scalar, word by word; the first argument bounds the words. No line
of it may mark the start or the end of a document. -/
def quotedFrom (word : List Char → Option (List Char × WordEnd × List Char)) :
    Nat → List Char → Option (List Char × List Char)
  | 0, _ => none
  | fuel + 1, chars => do
      let (content, close, rest) ← word chars
      let goOn (gap : Gap) : Option (List Char × List Char) := do
        let (gap, rest) ← takeGap 0 gap rest
        if gap.broken && gap.column == 0 && documentMark rest then none
        else
          let (more, rest) ← quotedFrom word fuel rest
          some (content ++ gap.joined ++ more, rest)
      match close with
      | .closed => some (content, rest)
      | .gap => goOn .none
      | .folded => goOn .folded

/-- Read a scalar between single quotes. -/
def singleQuoted? (chars : List Char) : Option (List Char × List Char) :=
  quotedFrom singleWord (chars.length + 1) chars

/-- Read a scalar between double quotes. -/
def doubleQuoted? (chars : List Char) : Option (List Char × List Char) :=
  quotedFrom doubleWord (chars.length + 1) chars

/-- What becomes of the breaks at the end of a block. -/
inductive Chomping where
  /-- They vanish. -/
  | strip
  /-- The first is kept. -/
  | clip
  /-- All are kept. -/
  | keep
  deriving DecidableEq, Repr

/-- The marks after the indicator of a block: what becomes of its last breaks, and
how much deeper it is indented, if that is said. -/
structure BlockHeader where
  chomping : Chomping
  deeper : Option Nat

/-- A mark that says what becomes of the last breaks. -/
def chompingMark? : Char → Option Chomping
  | '+' => some .keep
  | '-' => some .strip
  | _ => none

/-- A digit of indentation. Zero is refused when the header is read. -/
def indentDigit? (c : Char) : Option Nat := if c.isDigit then some (c.toNat - '0'.toNat) else none

/-- Read the marks after the indicator of a block, in either order. -/
def blockMarks : List Char → BlockHeader × List Char
  | [] => (⟨.clip, none⟩, [])
  | c :: rest =>
      match chompingMark? c, indentDigit? c with
      | some chomping, _ =>
          match rest with
          | d :: more =>
              match indentDigit? d with
              | some deeper => (⟨chomping, some deeper⟩, more)
              | none => (⟨chomping, none⟩, rest)
          | [] => (⟨chomping, none⟩, rest)
      | none, some deeper =>
          match rest with
          | d :: more =>
              match chompingMark? d with
              | some chomping => (⟨chomping, some deeper⟩, more)
              | none => (⟨.clip, some deeper⟩, rest)
          | [] => (⟨.clip, some deeper⟩, rest)
      | none, none => (⟨.clip, none⟩, c :: rest)

/-- Read the rest of the line of a header: blanks, then perhaps a comment, then the
break. -/
def restOfLine? (chars : List Char) : Option (List Char) :=
  let rest := chars.dropWhile isBlank
  let rest := if rest.head? = some '#' then rest.dropWhile (!isBreak ·) else rest
  match rest with
  | [] => some []
  | _ => (takeBreak? rest).map (·.2)

/-- The spaces at the start of a line, no more than a limit if there is one. -/
def takeIndent (limit : Option Nat) : List Char → Nat × List Char
  | ' ' :: rest =>
      match limit with
      | some 0 => (0, ' ' :: rest)
      | some (more + 1) =>
          let (count, after) := takeIndent (some more) rest
          (count + 1, after)
      | none =>
          let (count, after) := takeIndent none rest
          (count + 1, after)
  | chars => (0, chars)

/-- The lines without content at some place of a block. -/
structure EmptyLines where
  breaks : List Char
  /-- The greatest indentation seen, that of the next line with content included. -/
  widest : Nat
  /-- The indentation of the next line with content, as far as it was read. -/
  column : Nat
  rest : List Char

/-- Read lines without content, and the indentation of the line after them; the
first argument bounds the lines. A tab may not stand in the indentation. -/
def emptyLines (limit : Option Nat) (breaks : List Char) (widest : Nat) :
    Nat → List Char → Option EmptyLines
  | 0, _ => none
  | fuel + 1, chars =>
      let (column, rest) := takeIndent limit chars
      let widest := max widest column
      if rest.head? = some '\t' ∧ limit.all (column < ·) then none
      else
        match takeBreak? rest with
        | some (kept, after) => emptyLines limit (breaks ++ kept) widest fuel after
        | none => some ⟨breaks, widest, column, rest⟩

/-- What is carried from line to line of a block. -/
structure BlockState where
  text : List Char
  /-- The break after the line before. -/
  lastBreak : List Char
  /-- Whether the line before started with a blank. -/
  indented : Bool
  lines : EmptyLines

/-- Read the lines of a block that are indented as deep as it is; the first argument
bounds the lines. -/
def blockLines (literal : Bool) (indent : Nat) : Nat → BlockState → Option BlockState
  | 0, _ => none
  | fuel + 1, state =>
      match state.lines.rest with
      | [] => some state
      | c :: _ =>
          if state.lines.column ≠ indent then some state
          else do
            let blank := isBlank c
            let folds := !literal && state.lastBreak == ['\n'] && !state.indented && !blank
            let between :=
              if folds then if state.lines.breaks.isEmpty then [' '] else [] else state.lastBreak
            let line := state.lines.rest.takeWhile (!isBreak ·)
            let after := state.lines.rest.dropWhile (!isBreak ·)
            let (kept, after) := (takeBreak? after).getD ([], after)
            let lines ← emptyLines (some indent) [] 0 (after.length + 1) after
            blockLines literal indent fuel
              ⟨state.text ++ between ++ state.lines.breaks ++ line, kept, blank, lines⟩

/-- Read a block, given how deep what surrounds it is indented, if it is at all. -/
def block? (literal : Bool) (around : Option Nat) (chars : List Char) :
    Option (List Char × List Char) := do
  let (header, rest) := blockMarks chars
  if header.deeper = some 0 then none
  let rest ← restOfLine? rest
  let stated := header.deeper.map fun deeper => around.getD 0 + deeper
  let lines ← emptyLines stated [] 0 (rest.length + 1) rest
  let least := match around with
    | some outer => outer + 1
    | none => 1
  let indent := stated.getD (max lines.widest least)
  let last ← blockLines literal indent (rest.length + 1) ⟨[], [], false, lines⟩
  let closing := match header.chomping with
    | .strip => []
    | .clip => last.lastBreak
    | .keep => last.lastBreak ++ last.lines.breaks
  some (last.text ++ closing, last.lines.rest)

end Flowdesk.Yaml
