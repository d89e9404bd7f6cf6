import Flowdesk.Data.Fault

/-!
# Where values are read from

A reader of domain values does not care which data format a value was written in.
It asks a source for a text, a number, a list or a record, and each format answers
by its own rules: a source decides what counts as a text or as absent, never what
a document means.

Reading counts down the references it may still follow. Formats without references
leave the count alone; a format with them stops a document that would unfold into
more than its size warrants.
-/

namespace Flowdesk.Data

/-- A reading: the value, or the first fault, and the references still allowed. -/
abbrev Reading := StateT Nat (Except Fault)

/-- A reading that fails. -/
def refuse {α : Type} (fault : Fault) : Reading α := fun _ => .error fault

/-- A reading that fails because a value is not of the wanted kind. -/
def malformed {α : Type} : Reading α := refuse .malformed

/-- The parts of a record: by name in the order written, or by position. -/
inductive Shape (ν : Type) where
  | keyed (entries : List (Reading String × ν))
  | positional (items : List ν)

/-- What a data format offers to the readers of domain values. -/
class Source (ν : Type) where
  /-- The characters of a text. -/
  text : ν → Reading String
  /-- The value itself, unless it stands for absence. -/
  present : ν → Reading (Option ν)
  /-- A floating-point number. -/
  number : ν → Reading Float
  /-- A natural number up to a bound. -/
  natural : Nat → ν → Reading Nat
  /-- A truth value. -/
  truth : ν → Reading Bool
  /-- The items of a list. -/
  items : ν → Reading (List ν)
  /-- The parts of a record. -/
  shape : ν → Reading (Shape ν)
  /-- The name of a choice, and a check that nothing comes with it. -/
  choice : ν → Reading (String × Reading Unit)
  /-- Whether the text of the value obeys the format's rules. -/
  complete : ν → Bool

variable {ν : Type} [Source ν]

/-- Pass over a value that is not needed. -/
def skip (value : ν) : Reading Unit :=
  if Source.complete value then pure () else malformed

/-- A value that may be absent. -/
def optional {α : Type} (read : ν → Reading α) (value : ν) : Reading (Option α) := do
  match ← Source.present value with
  | none => pure none
  | some inner => return some (← read inner)

/-- A list of values, read in order. -/
def listOf {α : Type} (read : ν → Reading α) (value : ν) : Reading (List α) := do
  (← Source.items value).mapM read

/-- One of a fixed set of named choices. The name is judged before what may come
with it. -/
def oneOf {α : Type} (find : String → Option α) (value : ν) : Reading α := do
  let (name, alone) ← Source.choice value
  match find name with
  | none => refuse (.unknownVariant name)
  | some found => do
      alone
      return found

/-- A 64-bit number. -/
def word64 (value : ν) : Reading UInt64 := do
  return UInt64.ofNat (← Source.natural (UInt64.size - 1) value)

/-- A 32-bit number. -/
def word32 (value : ν) : Reading UInt32 := do
  return UInt32.ofNat (← Source.natural (UInt32.size - 1) value)

end Flowdesk.Data
