/-!
# Tables

A table holds at most one value for a key. What it answers depends on the last
write of a key alone; the order of its entries is never shown, so it is free.
-/

namespace Flowdesk.Data

/-- Values kept under keys. -/
structure Table (κ α : Type) where
  entries : List (κ × α)
  deriving Repr

namespace Table

variable {κ α : Type} [DecidableEq κ]

/-- The table without entries. -/
def empty : Table κ α := ⟨[]⟩

instance : Inhabited (Table κ α) := ⟨empty⟩

/-- The value of a key. -/
def get? (table : Table κ α) (key : κ) : Option α :=
  (table.entries.find? (·.1 = key)).map (·.2)

/-- The value of a key, or another one. -/
def getD (table : Table κ α) (key : κ) (default : α) : α := (table.get? key).getD default

/-- Whether a key has a value. -/
def contains (table : Table κ α) (key : κ) : Bool := (table.get? key).isSome

/-- The table without a key. -/
def erase (table : Table κ α) (key : κ) : Table κ α :=
  ⟨table.entries.filter (·.1 ≠ key)⟩

/-- The table with a value written under a key. -/
def put (table : Table κ α) (key : κ) (value : α) : Table κ α :=
  ⟨(key, value) :: (table.erase key).entries⟩

/-- The table with the value of a key changed, if it has one. -/
def alter (table : Table κ α) (key : κ) (change : α → α) : Table κ α :=
  match table.get? key with
  | some value => table.put key (change value)
  | none => table

/-- The keys that have a value. -/
def keys (table : Table κ α) : List κ := table.entries.map (·.1)

@[simp] theorem get?_empty (key : κ) : (empty : Table κ α).get? key = none := rfl

@[simp] theorem get?_erase (table : Table κ α) (erased key : κ) :
    (table.erase erased).get? key = if erased = key then none else table.get? key := by
  simp only [get?, erase]
  split
  · next same =>
    subst same
    simp [List.find?_filter]
  · next different =>
    rw [List.find?_filter]
    congr 1
    congr 1
    funext item
    by_cases found : item.1 = key
    · simp [found, Ne.symm different]
    · simp [found]

@[simp] theorem get?_put (table : Table κ α) (written key : κ) (value : α) :
    (table.put written value).get? key = if written = key then some value else table.get? key := by
  by_cases same : written = key
  · simp [get?, put, same]
  · have rest : (table.erase written).get? key = table.get? key := by simp [same]
    simp only [get?] at rest
    simp [get?, put, same, rest]

theorem contains_put (table : Table κ α) (written key : κ) (value : α) :
    (table.put written value).contains key = (decide (written = key) || table.contains key) := by
  unfold contains
  rw [get?_put]
  split
  · next same => simp only [same, decide_true, Option.isSome_some, Bool.true_or]
  · next different => simp only [different, decide_false, Bool.false_or]

theorem contains_erase (table : Table κ α) (erased key : κ) :
    (table.erase erased).contains key = (!decide (erased = key) && table.contains key) := by
  unfold contains
  rw [get?_erase]
  split
  · next same => simp only [same, decide_true, Bool.not_true, Bool.false_and, Option.isSome_none]
  · next different => simp only [different, decide_false, Bool.not_false, Bool.true_and]

/-- Of two writes of a key the first one leaves no trace. -/
@[simp] theorem put_put (table : Table κ α) (key : κ) (first second : α) :
    (table.put key first).put key second = table.put key second := by
  simp [put, erase, List.filter_filter]

/-- A key is listed exactly when it has a value. -/
theorem mem_keys_iff (table : Table κ α) (key : κ) :
    key ∈ table.keys ↔ (table.get? key).isSome = true := by
  simp only [keys, get?, List.mem_map, Option.isSome_map, List.find?_isSome, decide_eq_true_eq]

/-- A write lists no key twice. -/
theorem keys_nodup_put {table : Table κ α} (distinct : table.keys.Nodup) (key : κ) (value : α) :
    (table.put key value).keys.Nodup := by
  have others : (table.erase key).keys = table.keys.filter (· ≠ key) := by
    simp only [keys, erase, List.filter_map, Function.comp_def]
  have split : (table.put key value).keys = key :: (table.erase key).keys := rfl
  rw [split, others, List.nodup_cons]
  exact ⟨by simp, distinct.filter _⟩

end Table

end Flowdesk.Data
