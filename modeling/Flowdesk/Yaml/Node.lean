import Flowdesk.Yaml.Token

/-!
# YAML nodes

The tree of a document. A reference names the number of its anchor; which node an
anchor stands for is kept in a table beside the tree, because a node may refer to
one that is not complete yet, even to one that contains it. Where the text breaks
the grammar a fault takes the place of what should have come, and nothing follows.
-/

namespace Flowdesk.Yaml

/-- A node, or the place where a text breaks the grammar. -/
inductive Node where
  | fault
  | scalar (tag : Option (List Char)) (style : Style) (text : List Char)
  | reference (number : Nat)
  | sequence (tag : Option (List Char)) (items : List Node)
  | mapping (tag : Option (List Char)) (entries : List (Node × Node))
  deriving Inhabited

namespace Node

/-- The node of a place where nothing is written. -/
def nothing : Node := .scalar none .plain []

mutual

/-- Whether a node holds no fault. -/
def complete : Node → Bool
  | .fault => false
  | .scalar .. | .reference _ => true
  | .sequence _ items => completeItems items
  | .mapping _ entries => completeEntries entries

/-- Whether all items are complete. -/
def completeItems : List Node → Bool
  | [] => true
  | item :: rest => complete item && completeItems rest

/-- Whether all keys and values are complete. -/
def completeEntries : List (Node × Node) → Bool
  | [] => true
  | (key, value) :: rest => complete key && complete value && completeEntries rest

end

mutual

/-- How many marks a node takes to write down: one for a scalar or a reference, two
around a collection. -/
def weight : Node → Nat
  | .fault => 0
  | .scalar .. | .reference _ => 1
  | .sequence _ items => 2 + itemsWeight items
  | .mapping _ entries => 2 + entriesWeight entries

/-- The weight of all items. -/
def itemsWeight : List Node → Nat
  | [] => 0
  | item :: rest => weight item + itemsWeight rest

/-- The weight of all keys and values. -/
def entriesWeight : List (Node × Node) → Nat
  | [] => 0
  | (key, value) :: rest => weight key + weight value + entriesWeight rest

end

end Node

/-- A node with an anchor: the number of the anchor, and how many anchored nodes
started before it. -/
structure Anchored where
  number : Nat
  place : Nat
  node : Node

/-- A document: its tree and its anchored nodes. -/
structure Tree where
  root : Option Node
  anchored : List Anchored
  /-- Whether nothing but the end of the text follows. -/
  alone : Bool

namespace Tree

/-- The node that a number stands for. Of several the one that started last has the
number. -/
def anchored? (tree : Tree) (number : Nat) : Option Node :=
  let candidates := tree.anchored.filter (·.number = number)
  (candidates.foldl (fun best next =>
    match best with
    | some found => if found.place < next.place then some next else best
    | none => some next) none).map (·.node)

end Tree

end Flowdesk.Yaml
