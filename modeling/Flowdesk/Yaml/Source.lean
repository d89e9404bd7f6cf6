import Flowdesk.Data.Source
import Flowdesk.Yaml.Meaning
import Flowdesk.Yaml.Node

/-!
# Reading domain values from YAML

A text is a scalar, whatever it looks like and however it is written. A number is a
plain scalar that names one. Absence is a plain scalar that is empty or says null;
an empty plain scalar may also stand for an empty list or a record without entries.
A choice is a scalar, or a local tag on nothing.

References are followed as values are read, and only so many of them: a document
may be a small text and an enormous tree.
-/

namespace Flowdesk.Yaml

open Data

/-- The tag that says null. -/
def nullTag : List Char := "tag:yaml.org,2002:null".toList

/-- The tag of floating-point numbers. -/
def floatTag : List Char := "tag:yaml.org,2002:float".toList

/-- The name of a local tag. -/
def localTag? : Option (List Char) → Option (List Char)
  | some ['!'] => some ['!']
  | some ('!' :: name) => some name
  | _ => none

/-- A node in its document. -/
structure Cell where
  tree : Tree
  node : Option Node

namespace Cell

/-- The node that a cell stands for once its references are followed, with the count
of those left. A cycle of references alone cannot be followed to its end. -/
def resolve (tree : Tree) : Nat → Option Node → Reading (Option Node)
  | 0, _ => malformed
  | fuel + 1, some (.reference number) => do
      match ← get with
      | 0 => malformed
      | left + 1 =>
          set left
          match tree.anchored? number with
          | some node => resolve tree fuel (some node)
          | none => malformed
  | _ + 1, node => pure node

/-- The node itself, no reference. -/
def target (cell : Cell) : Reading (Option Node) :=
  resolve cell.tree (cell.tree.anchored.length + 2) cell.node

/-- Another node of the same document. -/
def other (cell : Cell) (node : Node) : Cell := { cell with node := some node }

/-- The characters of a scalar. -/
def asText (cell : Cell) : Reading String := do
  match ← cell.target with
  | some (.scalar _ _ text) => pure (String.ofList text)
  | _ => malformed

/-- The value, unless it stands for absence. A null tag on anything else is refused. -/
def asPresent (cell : Cell) : Reading (Option Cell) := do
  match ← cell.target with
  | none => pure none
  | some .fault => malformed
  | some (.scalar tag .plain text) =>
      let value := cell.other (.scalar tag .plain text)
      match tag with
      | none => pure (if text.isEmpty || saysNull text then none else some value)
      | some name =>
          if name = nullTag then if saysNull text then pure none else malformed
          else pure (some value)
  | some node => pure (some (cell.other node))

/-- A floating-point number. -/
def asNumber (cell : Cell) : Reading Float := do
  match ← cell.target with
  | some (.scalar tag style text) =>
      if style = .plain ∨ (style = .literal ∧ tag = some floatTag) then
        match floatOf? text with
        | some value => pure value
        | none => malformed
      else malformed
  | _ => malformed

/-- A natural number up to a bound, in decimal digits. -/
def asNatural (bound : Nat) (cell : Cell) : Reading Nat := do
  match ← cell.target with
  | some (.scalar _ .plain text) =>
      match Decimal.boundedNatural? bound text with
      | some value => pure value
      | none => malformed
  | _ => malformed

/-- A truth value. -/
def asTruth (cell : Cell) : Reading Bool := do
  match ← cell.target with
  | some (.scalar _ .plain text) =>
      match truthOf? text with
      | some value => pure value
      | none => malformed
  | _ => malformed

/-- Whether a node may stand for a collection without content. -/
def isVoid : Option Node → Bool
  | none => true
  | some (.scalar _ .plain []) => true
  | _ => false

/-- The items of a sequence. -/
def asItems (cell : Cell) : Reading (List Cell) := do
  match ← cell.target with
  | some (.sequence _ items) => pure (items.map cell.other)
  | node => if isVoid node then pure [] else malformed

/-- The entries of a mapping. -/
def asShape (cell : Cell) : Reading (Shape Cell) := do
  match ← cell.target with
  | some (.mapping _ entries) =>
      pure (.keyed (entries.map fun (key, value) => ((cell.other key).asText, cell.other value)))
  | node => if isVoid node then pure (.keyed []) else malformed

/-- The name of a choice with the check of its companion. -/
def asChoice (cell : Cell) : Reading (String × Reading Unit) := do
  let alone (holds : Bool) : Reading Unit := if holds then pure () else malformed
  match ← cell.target with
  | some (.scalar tag style text) =>
      match localTag? tag with
      | some name =>
          pure (String.ofList name, alone (style = .plain && (text.isEmpty || saysNull text)))
      | none => pure (String.ofList text, pure ())
  | some (.sequence tag _) | some (.mapping tag _) =>
      match localTag? tag with
      | some name => pure (String.ofList name, malformed)
      | none => malformed
  | _ => malformed

end Cell

instance : Source Cell where
  text := Cell.asText
  present := Cell.asPresent
  number := Cell.asNumber
  natural := Cell.asNatural
  truth := Cell.asTruth
  items := Cell.asItems
  shape := Cell.asShape
  choice := Cell.asChoice
  complete cell := cell.node.all Node.complete

/-- How many references may be followed for each mark that it takes to write a
document. -/
def referencesPerMark : Nat := 100

/-- Read the value of a document. Whatever follows the document is refused, but only
after the document itself is found to be in order. -/
def Tree.decode {α : Type} (tree : Tree) (read : Cell → Reading α) : Except Fault α := do
  let allowed := referencesPerMark * ((tree.root.map Node.weight).getD 1)
  let (value, _) ← (read ⟨tree, tree.root⟩).run allowed
  if tree.alone then return value else throw .malformed

end Flowdesk.Yaml
