import Flowdesk.Data.Source

/-!
# Reading records

A record is read field by field as its entries come, in whatever order they were
written. An entry whose name is no field is passed over, a field given twice is
refused before its second value is looked at, and when the entries end the first
missing field in the order of declaration is reported. Where a format writes a
record without names, its fields are taken in the order of declaration.

A description of a record is put together from single fields; reading, the report
of missing fields and the positional form all follow from the same description.
-/

namespace Flowdesk.Data

/-- What a field that is not written stands for. -/
inductive Missing (α : Type) where
  /-- The field must be written. -/
  | refused
  /-- The field has this value, in either form of a record. -/
  | assumed (value : α)
  /-- The field has this value in a record with names; the positional form must
  still write it. -/
  | assumedByName (value : α)

/-- The description of a record of type `α`: what is known while it is read, how
an entry adds to that, and what follows at the end. -/
structure Rec (ν α : Type) where
  Known : Type
  start : Known
  accept : String → Option (ν → Known → Reading Known)
  finish : Known → Except Fault α
  take : List ν → Reading (α × List ν)

namespace Rec

variable {ν α β γ : Type} [Source ν]

/-- A record of a single field. -/
def field (name : String) (read : ν → Reading α) (missing : Missing α) : Rec ν α where
  Known := Option α
  start := none
  accept key :=
    if key = name then some fun value known =>
      match known with
      | some _ => refuse (.duplicateField name)
      | none => return some (← read value)
    else none
  finish known :=
    match known, missing with
    | some value, _ => .ok value
    | none, .refused => .error (.missingField name)
    | none, .assumed value | none, .assumedByName value => .ok value
  take items :=
    match items, missing with
    | value :: rest, _ => return (← read value, rest)
    | [], .assumed value => return (value, [])
    | [], .refused | [], .assumedByName _ => malformed

/-- A field that must be written. -/
def required (name : String) (read : ν → Reading α) : Rec ν α := field name read .refused

/-- A field that has a value of its own when it is left out. -/
def assumed (name : String) (read : ν → Reading α) (value : α) : Rec ν α :=
  field name read (.assumed value)

/-- A field that may be left out, or written as absent. -/
def maybe (name : String) (read : ν → Reading α) : Rec ν (Option α) :=
  field name (optional read) (.assumed none)

/-- The fields of one record, then those of another. -/
def both (first : Rec ν α) (second : Rec ν β) : Rec ν (α × β) where
  Known := first.Known × second.Known
  start := (first.start, second.start)
  accept key :=
    match first.accept key with
    | some add => some fun value known => return (← add value known.1, known.2)
    | none => (second.accept key).map fun add value known =>
        return (known.1, ← add value known.2)
  finish known := do
    let a ← first.finish known.1
    let b ← second.finish known.2
    return (a, b)
  take items := do
    let (a, rest) ← first.take items
    let (b, rest) ← second.take rest
    return ((a, b), rest)

/-- The same fields, put together as another value. -/
def map (build : α → β) (fields : Rec ν α) : Rec ν β where
  Known := fields.Known
  start := fields.start
  accept := fields.accept
  finish known := (fields.finish known).map build
  take items := do
    let (a, rest) ← fields.take items
    return (build a, rest)

/-- Read one entry. -/
def entry (fields : Rec ν α) (known : fields.Known) (item : Reading String × ν) :
    Reading fields.Known := do
  match fields.accept (← item.1) with
  | some add => add item.2 known
  | none => do
      skip item.2
      return known

/-- Read a record from its parts. -/
def ofShape (fields : Rec ν α) : Shape ν → Reading α
  | .keyed entries => do
      let known ← entries.foldlM fields.entry fields.start
      liftM (fields.finish known)
  | .positional items => do
      let (value, rest) ← fields.take items
      if rest.isEmpty then return value else malformed

/-- Read a record. -/
def read (fields : Rec ν α) (value : ν) : Reading α := do
  fields.ofShape (← Source.shape value)

end Rec

end Flowdesk.Data
