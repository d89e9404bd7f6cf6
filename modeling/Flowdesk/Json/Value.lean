/-!
# JSON values

A JSON text is a tree; the members of an object keep the order in which they were
written, and a name may occur more than once. Integers are kept apart from other
numbers, because a field that counts accepts only the former.

A text that breaks the grammar still has a tree, up to the place where it breaks:
there a leaf says so, and nothing follows it. Whoever reads the tree in document
order then meets the first fault first, be it one of grammar or one of meaning.
-/

namespace Flowdesk

/-- A JSON value, or the place where its text breaks the grammar. -/
inductive Json where
  | fault
  | null
  | boolean (value : Bool)
  | integer (value : Int)
  | real (value : Float)
  | text (value : String)
  | list (items : List Json)
  | object (members : List (String × Json))
  deriving Inhabited

namespace Json

mutual

/-- Whether the tree holds no fault. -/
def complete : Json → Bool
  | .fault => false
  | .list items => completeItems items
  | .object members => completeMembers members
  | .null | .boolean _ | .integer _ | .real _ | .text _ => true

/-- Whether all items are complete. -/
def completeItems : List Json → Bool
  | [] => true
  | item :: rest => complete item && completeItems rest

/-- Whether the values of all members are complete. -/
def completeMembers : List (String × Json) → Bool
  | [] => true
  | (_, value) :: rest => complete value && completeMembers rest

end

/-- The first member of a name. -/
def member? (name : String) : Json → Option Json
  | .object members => members.lookup name
  | _ => none

/-- A natural number. -/
def natural (value : Nat) : Json := .integer value

/-- A 64-bit number. -/
def word64 (value : UInt64) : Json := .integer value.toNat

/-- A value or nothing, written as itself or as null. -/
def orNull {α : Type} (write : α → Json) : Option α → Json
  | some value => write value
  | none => .null

/-- A member that is left out when there is no value. -/
def given {α : Type} (name : String) (write : α → Json) : Option α → List (String × Json)
  | some value => [(name, write value)]
  | none => []

/-- The object without the members of some names. -/
def without (names : List String) : Json → Json
  | .object members => .object (members.filter fun member => !names.contains member.1)
  | value => value

/-- A list of texts. -/
def texts (values : List String) : Json := .list (values.map .text)

end Json

end Flowdesk
