import Flowdesk.Yaml.Mark

/-!
# From layout to tokens

The tokens of a text follow one another as the text is read, with two exceptions
that make reading depend on what comes later. Where a block collection starts or
ends is told by columns: deeper indentation opens a collection, shallower
indentation closes all that are deeper. And a key is recognised only by the colon
after it: until then whatever could be one is remembered with the place of its
token, and the colon puts the tokens for a key, and perhaps for a mapping, there.

A possible key lies within one line and 1024 characters. In block style what stands
at the column of the collection must be a key; if no colon comes, that is a fault.

A text is read to its end or to the first fault. Tokens from a possible key onward
are not settled while it is possible, so when a fault occurs only those before it
remain.
-/

namespace Flowdesk.Yaml

/-- A place in a text: how many characters, lines and columns come before it, and
what follows. -/
structure Cursor where
  index : Nat
  line : Nat
  column : Nat
  rest : List Char

namespace Cursor

/-- The place after characters that are consumed. A line feed belongs to the
carriage return before it. -/
def consume (index line column : Nat) : List Char → Nat × Nat × Nat
  | [] => (index, line, column)
  | '\r' :: '\n' :: rest => consume (index + 2) (line + 1) 0 rest
  | c :: rest =>
      if isBreak c then consume (index + 1) (line + 1) 0 rest
      else consume (index + 1) line (column + 1) rest

/-- The place where a given end of the text begins. -/
def moveTo (cursor : Cursor) (rest : List Char) : Cursor :=
  let consumed := cursor.rest.take (cursor.rest.length - rest.length)
  let (index, line, column) := consume cursor.index cursor.line cursor.column consumed
  ⟨index, line, column, rest⟩

/-- The place some characters further on. -/
def skip (cursor : Cursor) (count : Nat) : Cursor := cursor.moveTo (cursor.rest.drop count)

end Cursor

/-- Something that may turn out to be a key: the number of its token, where it
stands, and whether it must be a key. -/
structure PossibleKey where
  number : Nat
  required : Bool
  index : Nat
  line : Nat
  column : Nat

/-- How far a text has been read. -/
structure Layout where
  cursor : Cursor
  /-- The tokens so far, the last one first. -/
  tokens : List Token
  count : Nat
  /-- The columns of the open block collections, the innermost first. -/
  indents : List Nat
  /-- What may turn out to be a key at each depth of flow style, the innermost
  first. -/
  keys : List (Option PossibleKey)
  /-- Whether a key may start here. -/
  keyAllowed : Bool
  ended : Bool

namespace Layout

/-- Nothing has been read. -/
def start (chars : List Char) : Layout :=
  ⟨⟨0, 0, 0, chars⟩, [], 0, [], [none], true, false⟩

/-- Whether the place is inside flow style. -/
def inFlow (layout : Layout) : Bool := 1 < layout.keys.length

/-- The column of the innermost block collection. -/
def indent? (layout : Layout) : Option Nat := layout.indents.head?

/-- The first column that is deeper than the innermost block collection. -/
def nextIndent (layout : Layout) : Nat :=
  match layout.indent? with
  | some column => column + 1
  | none => 0

/-- Append a token. -/
def push (layout : Layout) (token : Token) : Layout :=
  { layout with tokens := token :: layout.tokens, count := layout.count + 1 }

/-- Put a token where another one has its number now. -/
def insert (layout : Layout) (number : Nat) (token : Token) : Layout :=
  let after := layout.count - number
  { layout with
    tokens := layout.tokens.take after ++ token :: layout.tokens.drop after
    count := layout.count + 1 }

/-- Move on to a given end of the text. -/
def moveTo (layout : Layout) (rest : List Char) : Layout :=
  { layout with cursor := layout.cursor.moveTo rest }

/-- Move on by some characters. -/
def skip (layout : Layout) (count : Nat) : Layout :=
  { layout with cursor := layout.cursor.skip count }

/-- Say whether a key may start next. -/
def allowKey (layout : Layout) (allowed : Bool) : Layout := { layout with keyAllowed := allowed }

/-- How far a key may reach. -/
def keyReach : Nat := 1024

/-- Whether a possible key lies too far back to become one. -/
def isStale (layout : Layout) (key : PossibleKey) : Bool :=
  key.line < layout.cursor.line || key.index + keyReach < layout.cursor.index

/-- Give up on possible keys that lie too far back. -/
def dropStale (layout : Layout) : Option Layout := do
  let keys ← layout.keys.mapM fun key? =>
    match key? with
    | some key =>
        if layout.isStale key then if key.required then none else some none else some (some key)
    | none => some none
  some { layout with keys }

/-- Give up on the possible key at this depth. -/
def dropKey (layout : Layout) : Option Layout :=
  match layout.keys with
  | some key :: outer =>
      if key.required then none else some { layout with keys := none :: outer }
  | _ => some layout

/-- Remember that what comes next may be a key. -/
def noteKey (layout : Layout) : Option Layout :=
  if layout.keyAllowed then do
    let layout ← layout.dropKey
    let cursor := layout.cursor
    let required := !layout.inFlow && layout.indent? == some cursor.column
    let key : PossibleKey := ⟨layout.count, required, cursor.index, cursor.line, cursor.column⟩
    some { layout with keys := some key :: layout.keys.tail }
  else some layout

/-- Open a block collection if a column is deeper than the innermost one. -/
def openBlock (layout : Layout) (column : Nat) (number : Nat) (token : Token) : Layout :=
  if layout.inFlow || layout.indent?.any (column ≤ ·) then layout
  else { layout.insert number token with indents := column :: layout.indents }

/-- Close the block collections that are deeper than a column; without a column,
all of them. -/
def closeBlocks (layout : Layout) (column : Option Nat) : Layout :=
  if layout.inFlow then layout
  else
    let deeper := layout.indents.takeWhile fun indent => column.all (· < indent)
    { deeper.foldl (fun layout _ => layout.push .blockEnd) layout with
      indents := layout.indents.drop deeper.length }

/-- The next place where a token may start: blanks, comments and breaks are passed
over. In block style a tab counts as a blank only where no key may start, and a
break lets a key start again. The first argument bounds the steps. -/
def skipGap : Nat → Layout → Layout
  | 0, layout => layout
  | fuel + 1, layout =>
      let tabs := layout.inFlow || !layout.keyAllowed
      let chars := layout.cursor.rest.dropWhile fun c => c == ' ' || (tabs && c == '\t')
      let chars := if chars.head? = some '#' then chars.dropWhile (!isBreak ·) else chars
      match takeBreak? chars with
      | some (_, after) =>
          let moved := layout.moveTo after
          skipGap fuel (if layout.inFlow then moved else moved.allowKey true)
      | none => layout.moveTo chars

/-- Pass over a byte order mark at the very start, and then to the next token. -/
def nextPlace (layout : Layout) : Layout :=
  let layout :=
    match layout.cursor.index, layout.cursor.rest with
    | 0, '\uFEFF' :: _ => layout.skip 1
    | _, _ => layout
  skipGap (layout.cursor.rest.length + 1) layout

/-- Read the start of a collection in flow style. -/
def startFlow (layout : Layout) (token : Token) : Option Layout := do
  let layout ← layout.noteKey
  some (({ layout with keys := none :: layout.keys }.allowKey true).push token |>.skip 1)

/-- Read the end of a collection in flow style. -/
def endFlow (layout : Layout) (token : Token) : Option Layout := do
  let layout ← layout.dropKey
  let keys := if layout.inFlow then layout.keys.tail else layout.keys
  some (({ layout with keys }.allowKey false).push token |>.skip 1)

/-- Read the indicator of an entry, a key or a value that stands by itself in block
style: a collection is opened where it stands, if a key may start there. -/
def indicator (layout : Layout) (opens token : Token) (allow : Bool) : Option Layout := do
  let opened ←
    if layout.inFlow then some layout
    else if layout.keyAllowed then
      some (layout.openBlock layout.cursor.column layout.count opens)
    else none
  let cleared ← opened.dropKey
  some ((cleared.allowKey allow).push token |>.skip 1)

/-- Read the colon before a value. -/
def valueMark (layout : Layout) : Option Layout :=
  match layout.keys with
  | some key :: outer =>
      let keyed := { layout.insert key.number .key with keys := none :: outer }
      let opened := keyed.openBlock key.column key.number .blockMappingStart
      some ((opened.allowKey false).push .value |>.skip 1)
  | _ => do
      let opened ←
        if layout.inFlow then some layout
        else if layout.keyAllowed then
          some (layout.openBlock layout.cursor.column layout.count .blockMappingStart)
        else none
      some ((opened.allowKey (!layout.inFlow)).push .value |>.skip 1)

/-- Read a token that starts or ends a document, or a directive: all collections in
block style end before it. -/
def atMargin (layout : Layout) (token : Token) (rest : List Char) : Option Layout := do
  let layout ← (layout.closeBlocks none).dropKey
  some (((layout.allowKey false).push token).moveTo rest)

/-- Read the end of the text. -/
def finish (layout : Layout) : Option Layout := do
  let layout ← (layout.closeBlocks none).dropKey
  some { (layout.allowKey false).push .streamEnd with ended := true }

/-- Read something that may be a key, given its token and what follows it. -/
def keyLike (layout : Layout) (found : Option (Token × List Char)) : Option Layout := do
  let noted ← layout.noteKey
  let (token, rest) ← found
  some (((noted.allowKey false).push token).moveTo rest)

/-- Whether a plain scalar may start here. -/
def plainStarts (flow : Bool) (c : Char) (rest : List Char) : Bool :=
  !(isGap c || "-?:,[]\x7b\x7d#&*!|>'\"%@`".toList.contains c) ||
    (c == '-' && !rest.head?.any isBlank) ||
    (!flow && (c == '?' || c == ':') && !gapNext rest)

/-- Read a plain scalar. A key may start after it if it ended with its line. -/
def plainScalar (layout : Layout) : Option Layout := do
  let noted ← layout.noteKey
  let plain ← plain? layout.inFlow layout.nextIndent layout.cursor.rest
  some (((noted.allowKey plain.broken).push (.scalar .plain plain.text)).moveTo plain.rest)

/-- Read a block scalar after its indicator. -/
def blockScalar (layout : Layout) (style : Style) (chars : List Char) : Option Layout := do
  let cleared ← layout.dropKey
  let (text, rest) ← block? (style = .literal) layout.indent? chars
  some (((cleared.allowKey true).push (.scalar style text)).moveTo rest)

/-- Read the token that starts at a character. -/
def tokenAt (layout : Layout) (c : Char) (rest : List Char) : Option Layout :=
  let flow := layout.inFlow
  let scalar (style : Style) (found : Option (List Char × List Char)) : Option Layout :=
    layout.keyLike (found.map fun (text, rest) => (.scalar style text, rest))
  if layout.cursor.column = 0 ∧ c = '%' then do
    let cleared ← (layout.closeBlocks none).dropKey
    let (token, rest) ← directive? rest
    some (((cleared.allowKey false).push token).moveTo rest)
  else if layout.cursor.column = 0 ∧ documentMark (c :: rest) then
    layout.atMargin (if c = '-' then .documentStart else .documentEnd) (rest.drop 2)
  else if c = '[' then layout.startFlow .flowSequenceStart
  else if c = '\x7b' then layout.startFlow .flowMappingStart
  else if c = ']' then layout.endFlow .flowSequenceEnd
  else if c = '\x7d' then layout.endFlow .flowMappingEnd
  else if c = ',' then do
    let cleared ← layout.dropKey
    some ((cleared.allowKey true).push .flowEntry |>.skip 1)
  else if c = '-' ∧ gapNext rest then layout.indicator .blockSequenceStart .blockEntry true
  else if c = '?' ∧ (flow ∨ gapNext rest) then layout.indicator .blockMappingStart .key (!flow)
  else if c = ':' ∧ (flow ∨ gapNext rest) then layout.valueMark
  else if c = '*' then layout.keyLike ((name? rest).map fun (name, rest) => (.reference name, rest))
  else if c = '&' then layout.keyLike ((name? rest).map fun (name, rest) => (.anchor name, rest))
  else if c = '!' then
    layout.keyLike ((tag? flow rest).map fun parts => (.tag parts.handle parts.suffix, parts.rest))
  else if c = '|' ∧ !flow then layout.blockScalar .literal rest
  else if c = '>' ∧ !flow then layout.blockScalar .folded rest
  else if c = '\'' then scalar .singleQuoted (singleQuoted? rest)
  else if c = '"' then scalar .doubleQuoted (doubleQuoted? rest)
  else if plainStarts flow c rest then layout.plainScalar
  else none

/-- Read the next token, with the tokens that its place calls for. -/
def next (layout : Layout) : Option Layout := do
  let fresh ← layout.nextPlace.dropStale
  let closed := fresh.closeBlocks (some fresh.cursor.column)
  let read ←
    match closed.cursor.rest with
    | [] => closed.finish
    | c :: rest => closed.tokenAt c rest
  read.dropStale

/-- The tokens before the first possible key. -/
def settled (layout : Layout) : List Token :=
  let numbers := layout.keys.filterMap fun key? => key?.map (·.number)
  layout.tokens.reverse.take (numbers.foldl min layout.count)

/-- Read up to the end or the first fault; the first argument bounds the steps. -/
def run : Nat → Layout → List Token
  | 0, layout => layout.settled ++ [.fault]
  | fuel + 1, layout =>
      if layout.ended then layout.tokens.reverse
      else
        match layout.next with
        | some further => run fuel further
        | none => layout.settled ++ [.fault]

end Layout

/-- The tokens of a text. A byte order mark before it does not belong to it. -/
def tokens (text : String) : List Token :=
  let chars :=
    match text.toList with
    | '\uFEFF' :: rest => rest
    | all => all
  if chars.all isAllowed then (Layout.start chars).run (chars.length + 2) else [.fault]

end Flowdesk.Yaml
