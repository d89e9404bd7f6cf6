import Flowdesk.Json.Value
import Flowdesk.Data.Record

/-!
# Reading domain values from JSON

Null stands for absence, an array of the fields in order may stand for a record,
and a choice is its name or an object with the name as its only member and null as
the value. A floating-point field accepts integers; a counting field accepts
nothing else.

A union marks its variant by a tag among the members. The members are met in
order: the tag is judged at once, the others are set aside, whole, until the
variant is known. A value that was set aside is a little more lenient when it is
read: an empty object may accompany a choice, and a tag may be given as the
position of its variant.
-/

namespace Flowdesk

open Data

namespace Json

/-- The characters of a text. -/
def asText : Json → Reading String
  | .text value => pure value
  | _ => malformed

/-- The value, unless it is null. -/
def asPresent : Json → Reading (Option Json)
  | .null => pure none
  | value => pure (some value)

/-- A number of either kind. -/
def asNumber : Json → Reading Float
  | .real value => pure value
  | .integer value => pure (if value < 0 then -Float.ofNat value.natAbs else Float.ofNat value.toNat)
  | _ => malformed

/-- A natural number up to a bound. -/
def asNatural (bound : Nat) : Json → Reading Nat
  | .integer value => if 0 ≤ value ∧ value ≤ bound then pure value.toNat else malformed
  | _ => malformed

/-- A truth value. -/
def asTruth : Json → Reading Bool
  | .boolean value => pure value
  | _ => malformed

/-- The items of an array. -/
def asItems : Json → Reading (List Json)
  | .list items => pure items
  | _ => malformed

/-- The members of an object by name, or the items of an array by position. -/
def asShape : Json → Reading (Shape Json)
  | .object members => pure (.keyed (members.map fun (name, value) => (pure name, value)))
  | .list items => pure (.positional items)
  | _ => malformed

/-- The name of a choice with the check of its companion. -/
def asChoice (alone : Json → Bool) : Json → Reading (String × Reading Unit)
  | .text name => pure (name, pure ())
  | .object [(name, value)] => pure (name, if alone value then pure () else malformed)
  | _ => malformed

/-- Whether a value is null. -/
def isNull : Json → Bool
  | .null => true
  | _ => false

/-- Whether a value is null or an empty object. -/
def isNothing : Json → Bool
  | .null | .object [] => true
  | _ => false

end Json

instance : Source Json where
  text := Json.asText
  present := Json.asPresent
  number := Json.asNumber
  natural := Json.asNatural
  truth := Json.asTruth
  items := Json.asItems
  shape := Json.asShape
  choice := Json.asChoice Json.isNull
  complete := Json.complete

/-- A value that was set aside until the variant of its union was known. -/
structure Held where
  value : Json

/-- The parts of a record, set aside. -/
def Held.shape : Shape Json → Shape Held
  | .keyed entries => .keyed (entries.map fun (name, value) => (name, ⟨value⟩))
  | .positional items => .positional (items.map Held.mk)

instance : Source Held where
  text held := held.value.asText
  present held := return (← held.value.asPresent).map Held.mk
  number held := held.value.asNumber
  natural bound held := held.value.asNatural bound
  truth held := held.value.asTruth
  items held := return (← held.value.asItems).map Held.mk
  shape held := return Held.shape (← held.value.asShape)
  choice held := held.value.asChoice Json.isNothing
  complete held := held.value.complete

/-- What reading a union asks of its source beyond the rest. -/
class Tagged (ν : Type) extends Source ν where
  /-- The tag of a union, given the names of its variants in order. -/
  tag : List String → ν → Reading String
  /-- The value, set aside. -/
  held : ν → Held

/-- A tag is one of the names offered. -/
def tagNamed (names : List String) (name : String) : Reading String :=
  if name ∈ names then pure name else refuse (.unknownVariant name)

instance : Tagged Json where
  tag names value := do tagNamed names (← value.asText)
  held value := ⟨value⟩

instance : Tagged Held where
  tag names held :=
    match held.value with
    | .integer position =>
        if position < 0 then malformed
        else
          match names[position.toNat]? with
          | some name => pure name
          | none => malformed
    | value => do tagNamed names (← value.asText)
  held := id

/-- What is known of a union while its members are read: the tag, and the other
members in reverse. -/
structure Untagged where
  tag : Option String
  others : List (String × Held)

namespace Untagged

variable {ν : Type} [Tagged ν]

/-- Read one member of a union. -/
def member (label : String) (names : List String) (known : Untagged)
    (item : Reading String × ν) : Reading Untagged := do
  let name ← item.1
  if name = label then
    match known.tag with
    | some _ => refuse (.duplicateField label)
    | none => return { known with tag := some (← Tagged.tag names item.2) }
  else do
    skip item.2
    return { known with others := (name, Tagged.held item.2) :: known.others }

/-- Read the tag of a union and set its other parts aside. -/
def read (label : String) (names : List String) (value : ν) : Reading (String × Shape Held) := do
  match ← Source.shape value with
  | .keyed entries =>
      let known ← entries.foldlM (member label names) ⟨none, []⟩
      match known.tag with
      | none => refuse (.missingField label)
      | some tag =>
          return (tag, .keyed (known.others.reverse.map fun (name, held) => (pure name, held)))
  | .positional items =>
      match items with
      | [] => refuse (.missingField label)
      | first :: rest =>
          let tag ← Tagged.tag names first
          rest.forM skip
          return (tag, .positional (rest.map Tagged.held))

end Untagged

end Flowdesk
