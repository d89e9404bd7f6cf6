import Flowdesk.Yaml.Layout
import Flowdesk.Yaml.Node

/-!
# From tokens to nodes

A document is composed by the grammar of the tokens. Where a key, a value or an
entry is missing, an empty plain scalar stands for it; a sequence that is the value
of a key may stand at the column of the key; a pair inside a sequence in flow style
is a mapping of its own. Anchors are numbered by how many names are known when one
is met, and a name that is given again refers to its latest anchor from there on.
-/

namespace Flowdesk.Yaml

/-- What is known while a document is composed. -/
structure Composer where
  tokens : List Token
  /-- What the handles of tags stand for. -/
  handles : List (List Char × List Char)
  /-- The numbers of the names that are known. -/
  names : List (List Char × Nat)
  /-- How many anchored nodes have started. -/
  started : Nat
  anchored : List Anchored

/-- What composing leaves: the part of the tree, and the state after it unless the
part ends in a fault. The anchored nodes are kept in either case. -/
structure Composed (τ : Type) where
  part : τ
  state : Composer
  faulty : Bool

namespace Composer

/-- The next token. Beyond the last there is only a fault. -/
def peek (state : Composer) : Token := state.tokens.headD .fault

/-- Pass over a token. -/
def advance (state : Composer) : Composer := { state with tokens := state.tokens.tail }

/-- A complete part. -/
def done {τ : Type} (state : Composer) (part : τ) : Composed τ := ⟨part, state, false⟩

/-- A part that ends in a fault. -/
def broken {τ : Type} (state : Composer) (part : τ) : Composed τ := ⟨part, state, true⟩

/-- What the handle and the suffix of a tag stand for together. -/
def resolveTag (state : Composer) (handle suffix : List Char) : Option (List Char) :=
  if handle.isEmpty then some suffix
  else (state.handles.lookup handle).map (· ++ suffix)

/-- Give an anchor its number. -/
def anchor (state : Composer) (name : List Char) : Composer :=
  let others := state.names.filter (·.1 ≠ name)
  { state with
    names := (name, state.names.length) :: others
    started := state.started + 1 }

/-- Keep a node under the number of its anchor. -/
def keep (state : Composer) (anchored : Option (Nat × Nat)) (node : Node) : Composer :=
  match anchored with
  | some (number, place) => { state with anchored := ⟨number, place, node⟩ :: state.anchored }
  | none => state

end Composer

/-- The anchor and the tag before a node. -/
structure Properties where
  anchor : Option (List Char)
  tag : Option (List Char × List Char)

namespace Properties

/-- No properties. -/
def none : Properties := ⟨.none, .none⟩

/-- Read an anchor and a tag, in either order. -/
def read (state : Composer) : Properties × Composer :=
  match state.peek with
  | .anchor name =>
      let state := state.advance
      match state.peek with
      | .tag handle suffix => (⟨some name, some (handle, suffix)⟩, state.advance)
      | _ => (⟨some name, .none⟩, state)
  | .tag handle suffix =>
      let state := state.advance
      match state.peek with
      | .anchor name => (⟨some name, some (handle, suffix)⟩, state.advance)
      | _ => (⟨.none, some (handle, suffix)⟩, state)
  | _ => (none, state)

/-- Whether there is neither. -/
def isEmpty (properties : Properties) : Bool :=
  properties.anchor.isNone && properties.tag.isNone

end Properties

/-- Where a node stands, which decides which collections may start there. -/
inductive Position where
  /-- In block style. -/
  | block
  /-- In block style, as the key or the value of a mapping. -/
  | pair
  /-- In flow style. -/
  | flow
  deriving DecidableEq

namespace Composer

/-- Whether a value is missing after the mark of a key or a value in block style. -/
def endsPair : Token → Bool
  | .key | .value | .blockEnd => true
  | _ => false

/-- Whether an item is missing after a dash. -/
def endsItem : Token → Bool
  | .blockEntry | .blockEnd => true
  | _ => false

/-- Whether an item is missing after a dash at the column of a key. -/
def endsLooseItem : Token → Bool
  | .blockEntry | .key | .value | .blockEnd => true
  | _ => false

/-- Whether a value is missing in a sequence in flow style. -/
def endsFlowItem : Token → Bool
  | .flowEntry | .flowSequenceEnd => true
  | _ => false

/-- Whether a value is missing in a mapping in flow style. -/
def endsFlowValue : Token → Bool
  | .flowEntry | .flowMappingEnd => true
  | _ => false

mutual

/-- Compose a node. The first argument bounds the steps. -/
def node : Nat → Position → Composer → Composed Node
  | 0, _, state => state.broken .fault
  | fuel + 1, position, state =>
      match state.peek with
      | .reference name =>
          match state.names.lookup name with
          | some number => state.advance.done (.reference number)
          | none => state.broken .fault
      | _ =>
          let (properties, state) := Properties.read state
          let tag? :=
            match properties.tag with
            | some (handle, suffix) => (state.resolveTag handle suffix).map some
            | none => some none
          match tag? with
          | none => state.broken .fault
          | some tag =>
              let anchored := properties.anchor.map fun _ => (state.names.length, state.started)
              let begun := (properties.anchor.map state.anchor).getD state
              let finish (composed : Composed Node) : Composed Node :=
                { composed with state := composed.state.keep anchored composed.part }
              match state.peek, position with
              | .scalar style text, _ => finish (begun.advance.done (.scalar tag style text))
              | .flowSequenceStart, _ => finish (flowSequence fuel tag begun.advance)
              | .flowMappingStart, _ => finish (flowMapping fuel tag begun.advance)
              | .blockEntry, .pair => finish (looseSequence fuel tag begun)
              | .blockSequenceStart, .block | .blockSequenceStart, .pair =>
                  finish (blockSequence fuel tag begun.advance)
              | .blockMappingStart, .block | .blockMappingStart, .pair =>
                  finish (blockMapping fuel tag begun.advance)
              | .fault, _ => state.broken .fault
              | _, _ =>
                  if properties.isEmpty then state.broken .fault
                  else finish (begun.done (.scalar tag .plain []))

/-- Compose a sequence of dashes. -/
def blockSequence (fuel : Nat) (tag : Option (List Char)) (state : Composer) : Composed Node :=
  match fuel with
  | 0 => state.broken .fault
  | fuel + 1 =>
      let items := blockItems fuel state
      { items with part := .sequence tag items.part }

/-- Compose the items of a sequence of dashes. -/
def blockItems : Nat → Composer → Composed (List Node)
  | 0, state => state.broken [.fault]
  | fuel + 1, state =>
      match state.peek with
      | .blockEntry =>
          let state := state.advance
          if endsItem state.peek then
            let rest := blockItems fuel state
            { rest with part := Node.nothing :: rest.part }
          else
            let item := node fuel .block state
            if item.faulty then item.state.broken [item.part]
            else
              let rest := blockItems fuel item.state
              { rest with part := item.part :: rest.part }
      | .blockEnd => state.advance.done []
      | _ => state.broken [.fault]

/-- Compose a sequence of dashes at the column of a key. -/
def looseSequence (fuel : Nat) (tag : Option (List Char)) (state : Composer) : Composed Node :=
  match fuel with
  | 0 => state.broken .fault
  | fuel + 1 =>
      let items := looseItems fuel state
      { items with part := .sequence tag items.part }

/-- Compose the items of a sequence of dashes at the column of a key. -/
def looseItems : Nat → Composer → Composed (List Node)
  | 0, state => state.broken [.fault]
  | fuel + 1, state =>
      match state.peek with
      | .blockEntry =>
          let state := state.advance
          if endsLooseItem state.peek then
            let rest := looseItems fuel state
            { rest with part := Node.nothing :: rest.part }
          else
            let item := node fuel .block state
            if item.faulty then item.state.broken [item.part]
            else
              let rest := looseItems fuel item.state
              { rest with part := item.part :: rest.part }
      | .fault => state.broken [.fault]
      | _ => state.done []

/-- Compose a mapping in block style. -/
def blockMapping (fuel : Nat) (tag : Option (List Char)) (state : Composer) : Composed Node :=
  match fuel with
  | 0 => state.broken .fault
  | fuel + 1 =>
      let entries := blockEntries fuel state
      { entries with part := .mapping tag entries.part }

/-- Compose the entries of a mapping in block style. -/
def blockEntries : Nat → Composer → Composed (List (Node × Node))
  | 0, state => state.broken [(.fault, .fault)]
  | fuel + 1, state =>
      match state.peek with
      | .key =>
          let state := state.advance
          let key := if endsPair state.peek then state.done Node.nothing else node fuel .pair state
          if key.faulty then key.state.broken [(key.part, .fault)]
          else
            let value := blockValue fuel key.state
            if value.faulty then value.state.broken [(key.part, value.part)]
            else
              let rest := blockEntries fuel value.state
              { rest with part := (key.part, value.part) :: rest.part }
      | .blockEnd => state.advance.done []
      | _ => state.broken [(.fault, .fault)]

/-- Compose the value of a key in block style. -/
def blockValue : Nat → Composer → Composed Node
  | 0, state => state.broken .fault
  | fuel + 1, state =>
      match state.peek with
      | .value =>
          let state := state.advance
          if endsPair state.peek then state.done Node.nothing else node fuel .pair state
      | .fault => state.broken .fault
      | _ => state.done Node.nothing

/-- Compose a sequence in flow style. -/
def flowSequence (fuel : Nat) (tag : Option (List Char)) (state : Composer) : Composed Node :=
  match fuel with
  | 0 => state.broken .fault
  | fuel + 1 =>
      let items := flowItems fuel true state
      { items with part := .sequence tag items.part }

/-- Compose the items of a sequence in flow style. -/
def flowItems : Nat → Bool → Composer → Composed (List Node)
  | 0, _, state => state.broken [.fault]
  | fuel + 1, first, state =>
      match state.peek, first with
      | .flowSequenceEnd, _ => state.advance.done []
      | .flowEntry, false => flowItem fuel state.advance
      | _, true => flowItem fuel state
      | _, false => state.broken [.fault]

/-- Compose an item of a sequence in flow style and those after it. -/
def flowItem : Nat → Composer → Composed (List Node)
  | 0, state => state.broken [.fault]
  | fuel + 1, state =>
      match state.peek with
      | .flowSequenceEnd => state.advance.done []
      | .key =>
          let pair := flowPair fuel state.advance
          let item : Node := .mapping none [pair.part]
          if pair.faulty then pair.state.broken [item]
          else
            let rest := flowItems fuel false pair.state
            { rest with part := item :: rest.part }
      | _ =>
          let item := node fuel .flow state
          if item.faulty then item.state.broken [item.part]
          else
            let rest := flowItems fuel false item.state
            { rest with part := item.part :: rest.part }

/-- Compose a pair inside a sequence in flow style. Where the key is missing, the
token that stands there is passed over. -/
def flowPair : Nat → Composer → Composed (Node × Node)
  | 0, state => state.broken (.fault, .fault)
  | fuel + 1, state =>
      let key :=
        match state.peek with
        | .value | .flowEntry | .flowSequenceEnd => state.advance.done Node.nothing
        | _ => node fuel .flow state
      if key.faulty then key.state.broken (key.part, .fault)
      else
        let value :=
          match key.state.peek with
          | .value =>
              let state := key.state.advance
              if endsFlowItem state.peek then state.done Node.nothing else node fuel .flow state
          | .fault => key.state.broken .fault
          | _ => key.state.done Node.nothing
        { value with part := (key.part, value.part) }

/-- Compose a mapping in flow style. -/
def flowMapping (fuel : Nat) (tag : Option (List Char)) (state : Composer) : Composed Node :=
  match fuel with
  | 0 => state.broken .fault
  | fuel + 1 =>
      let entries := flowEntries fuel true state
      { entries with part := .mapping tag entries.part }

/-- Compose the entries of a mapping in flow style. -/
def flowEntries : Nat → Bool → Composer → Composed (List (Node × Node))
  | 0, _, state => state.broken [(.fault, .fault)]
  | fuel + 1, first, state =>
      match state.peek, first with
      | .flowMappingEnd, _ => state.advance.done []
      | .flowEntry, false => flowPairs fuel state.advance
      | _, true => flowPairs fuel state
      | _, false => state.broken [(.fault, .fault)]

/-- Compose an entry of a mapping in flow style and those after it. A key without
the mark of one has no value. -/
def flowPairs : Nat → Composer → Composed (List (Node × Node))
  | 0, state => state.broken [(.fault, .fault)]
  | fuel + 1, state =>
      match state.peek with
      | .flowMappingEnd => state.advance.done []
      | .key =>
          let state := state.advance
          let key :=
            match state.peek with
            | .value | .flowEntry | .flowMappingEnd => state.done Node.nothing
            | _ => node fuel .flow state
          if key.faulty then key.state.broken [(key.part, .fault)]
          else
            let value :=
              match key.state.peek with
              | .value =>
                  let state := key.state.advance
                  if endsFlowValue state.peek then state.done Node.nothing else node fuel .flow state
              | .fault => key.state.broken .fault
              | _ => key.state.done Node.nothing
            if value.faulty then value.state.broken [(key.part, value.part)]
            else
              let rest := flowEntries fuel false value.state
              { rest with part := (key.part, value.part) :: rest.part }
      | _ =>
          let key := node fuel .flow state
          if key.faulty then key.state.broken [(key.part, .fault)]
          else if key.state.peek = .fault then key.state.broken [(key.part, .fault)]
          else
            let rest := flowEntries fuel false key.state
            { rest with part := (key.part, Node.nothing) :: rest.part }

end

end Composer

/-- The handles that need no directive. -/
def usualHandles : List (List Char × List Char) :=
  [(['!'], ['!']), (['!', '!'], "tag:yaml.org,2002:".toList)]

/-- What the directives before a document say about handles, and the tokens after
them; nothing where a version is unknown or something is said twice. -/
def directives? (versioned : Bool) (handles : List (List Char × List Char)) :
    List Token → Option (List (List Char × List Char) × Bool × List Token)
  | .versionDirective major minor :: rest =>
      if versioned || major != 1 || (minor != 1 && minor != 2) then none
      else directives? true handles rest
  | .tagDirective handle start :: rest =>
      if (handles.lookup handle).isSome then none
      else directives? versioned (handles ++ [(handle, start)]) rest
  | rest => some (handles, versioned || !handles.isEmpty, rest)

/-- Whether a document that was announced has no content. -/
def isBare : Token → Bool
  | .versionDirective .. | .tagDirective .. | .documentStart | .documentEnd | .streamEnd => true
  | _ => false

/-- Compose the document that the tokens start with. Without any token before the
end there is none. -/
def compose (tokens : List Token) : Tree :=
  if tokens.head? = some .streamEnd then ⟨none, [], true⟩
  else
    match directives? false [] tokens with
    | none => ⟨some .fault, [], false⟩
    | some (handles, announced, rest) =>
        let explicit := rest.head? = some .documentStart
        if announced && !explicit then ⟨some .fault, [], false⟩
        else
          let rest := if explicit then rest.tail else rest
          let state : Composer := ⟨rest, handles ++ usualHandles, [], 0, []⟩
          let root :=
            if explicit && isBare state.peek then state.done Node.nothing
            else Composer.node (4 * tokens.length + 4) .block state
          let after := root.state.tokens.dropWhile (· = .documentEnd)
          ⟨some root.part, root.state.anchored, !root.faulty && after.head? == some .streamEnd⟩

/-- The tree of a text. -/
def read (text : String) : Tree := compose (tokens text)

end Flowdesk.Yaml
