import Flowdesk.Json.Source
import Flowdesk.Proofs.Data.Record
import Flowdesk.Proofs.Json.Tree

/-!
# What is read from a tree that was written

A tree may be read as it is, or after it was set aside while a union was read. What was
written is taken for what it is either way, so that is all that is asked of a source here.
A field is written with its name, or left out, or written as null where there is nothing;
each form is read as the value it came from.
-/

namespace Flowdesk.Json

open Data

variable {ν α : Type}

/-- A field that is written. -/
theorem reads_member (name : String) {view : Json → ν} {read : ν → Reading α}
    (missing : Missing α) {written : Json} {value : α} (here : read (view written) = pure value) :
    (Rec.field name read missing).Reads [name]
      ([(name, written)].map fun member => (member.1, view member.2)) value :=
  Rec.reads_field missing here

/-- A field that is left out when it would stand for what it has. -/
theorem reads_usual (name : String) {view : Json → ν} {read : ν → Reading α} {written : Json}
    {value usual : α} {empty : Bool} (here : read (view written) = pure value)
    (left : empty = true → value = usual) :
    (Rec.assumed name read usual).Reads [name]
      ((if empty then [] else [(name, written)]).map fun member => (member.1, view member.2))
      value := by
  cases empty with
  | true =>
    rw [left rfl]
    exact Rec.reads_missing usual
  | false => exact Rec.reads_field (.assumed usual) here

variable [Source ν]

/-- A way to see trees as a source that takes each for what it is. -/
structure Views (view : Json → ν) : Prop where
  text : ∀ value, Source.text (view (.text value)) = pure value
  number : ∀ value, Source.number (view (.real value)) = pure value
  natural : ∀ bound value, value ≤ bound →
    Source.natural bound (view (.natural value)) = pure value
  truth : ∀ value, Source.truth (view (.boolean value)) = pure value
  items : ∀ items, Source.items (view (.list items)) = pure (items.map view)
  shape : ∀ members, Source.shape (view (.object members)) =
    pure (.keyed (members.map fun member => (pure member.1, view member.2)))
  choice : ∀ name, Source.choice (view (.text name)) = pure (name, pure ())
  absent : Source.present (view .null) = pure none
  present : ∀ value, value.isNull = false → Source.present (view value) = pure (some (view value))

/-- A number that is small enough is read as it is. -/
theorem asNatural_natural {bound value : Nat} (small : value ≤ bound) :
    (Json.natural value).asNatural bound = pure value := by
  have fits : (0 : Int) ≤ value ∧ (value : Int) ≤ bound := ⟨by omega, by omega⟩
  simp only [natural, asNatural, if_pos fits, Int.toNat_natCast]

/-- What is there is read as there. -/
theorem asPresent_of_isNull {value : Json} (there : value.isNull = false) :
    value.asPresent = pure (some value) := by
  cases value with
  | null => exact nomatch there
  | _ => rfl

/-- A tree is taken for what it is. -/
theorem views_tree : Views (fun tree : Json => tree) where
  text _ := rfl
  number _ := rfl
  natural _ _ small := asNatural_natural small
  truth _ := rfl
  items items := by
    rw [List.map_id']
    rfl
  shape _ := rfl
  choice _ := rfl
  absent := rfl
  present _ there := asPresent_of_isNull there

/-- So is a tree that was set aside. -/
theorem views_held : Views Held.mk where
  text _ := rfl
  number _ := rfl
  natural _ _ small := asNatural_natural small
  truth _ := rfl
  items _ := rfl
  shape members := by
    change (do return Held.shape (← asShape (.object members))) = _
    simp only [asShape, pure_bind, Held.shape, List.map_map]
    rfl
  choice _ := rfl
  absent := rfl
  present value there := by
    change (do return (← value.asPresent).map Held.mk) = _
    rw [asPresent_of_isNull there]
    rfl

namespace Views

variable {view : Json → ν} (views : Views view)

include views

/-- Words are read from any view of their number. -/
theorem read_word64 (value : UInt64) : Data.word64 (view (.word64 value)) = pure value := by
  have small : value.toNat ≤ UInt64.size - 1 := by
    have := value.toNat_lt_size
    omega
  have natural : Source.natural (UInt64.size - 1) (view (.word64 value)) = pure value.toNat :=
    views.natural _ _ small
  rw [Data.word64, natural, pure_bind, UInt64.ofNat_toNat]

/-- Shorter words are read from theirs as well. -/
theorem read_word32 (value : UInt32) :
    Data.word32 (view (.natural value.toNat)) = pure value := by
  have small : value.toNat ≤ UInt32.size - 1 := by
    have := value.toNat_lt_size
    omega
  rw [Data.word32, views.natural _ _ small, pure_bind, UInt32.ofNat_toNat]

/-- One of several values is read from the name that it is found by. -/
theorem read_oneOf {find : String → Option α} {name : String} {value : α}
    (found : find name = some value) : oneOf find (view (.text name)) = pure value := by
  simp only [oneOf, views.choice, pure_bind, found]

/-- A list is read item by item. -/
theorem read_listOf {write : α → Json} {read : ν → Reading α} {values : List α}
    (each : ∀ value ∈ values, read (view (write value)) = pure value) :
    listOf read (view (.list (values.map write))) = pure values := by
  simp only [listOf, views.items, pure_bind, List.map_map]
  induction values with
  | nil => rfl
  | cons value rest inductionHypothesis =>
    have first := each value List.mem_cons_self
    have others := inductionHypothesis fun other member =>
      each other (List.mem_cons_of_mem value member)
    rw [List.map_cons, List.mapM_cons, others]
    simp only [Function.comp_apply, first, pure_bind]

theorem read_texts (values : List String) :
    listOf Source.text (view (Json.texts values)) = pure values :=
  views.read_listOf fun value _ => views.text value

/-- What may be absent is written as itself or as null. -/
theorem read_orNull {write : α → Json} {read : ν → Reading α} {value? : Option α}
    (here : ∀ value, value? = some value →
      (write value).isNull = false ∧ read (view (write value)) = pure value) :
    optional read (view (Json.orNull write value?)) = pure value? := by
  cases value? with
  | none =>
    simp only [Json.orNull, Data.optional, views.absent, pure_bind]
  | some value =>
    obtain ⟨there, reads⟩ := here value rfl
    simp only [Json.orNull, Data.optional, views.present _ there, pure_bind, reads]

theorem read_orNull_text (text? : Option String) :
    optional Source.text (view (Json.orNull .text text?)) = pure text? :=
  views.read_orNull fun text _ => ⟨rfl, views.text text⟩

/-- A record is read where its members are. -/
theorem read_record {fields : Rec ν α} {names : List String} {members : List (String × Json)}
    {entries : List (String × ν)} {value : α} (reads : fields.Reads names entries value)
    (same : members.map (fun member => (member.1, view member.2)) = entries) :
    fields.read (view (.object members)) = pure value := by
  refine reads.read ?_
  rw [views.shape, ← same, List.map_map]
  rfl

/-- A field that is left out when there is nothing to write. -/
theorem reads_given (name : String) (value? : Option α) {write : α → Json}
    {read : ν → Reading α}
    (here : ∀ value, value? = some value →
      (write value).isNull = false ∧ read (view (write value)) = pure value) :
    (Rec.maybe name read).Reads [name]
      ((Json.given name write value?).map fun member => (member.1, view member.2)) value? := by
  cases value? with
  | none => exact Rec.reads_missing none
  | some value => exact Rec.reads_field (.assumed none) (views.read_orNull here)

theorem reads_given_text (name : String) (text? : Option String) :
    (Rec.maybe name Source.text).Reads [name]
      ((Json.given name .text text?).map fun member => (member.1, view member.2)) text? :=
  views.reads_given name text? fun text _ => ⟨rfl, views.text text⟩

end Views

section Faithful

variable {depth : Nat}

@[simp] theorem faithful_text (depth : Nat) (value : String) : Faithful depth (.text value) :=
  .text depth value

@[simp] theorem faithful_boolean (depth : Nat) (value : Bool) : Faithful depth (.boolean value) :=
  .boolean depth value

/-- A number is faithful as long as a word can hold it. -/
theorem faithful_natural {value : Nat} (small : value < UInt64.size) :
    Faithful depth (.natural value) := by
  refine .integer depth _ ⟨?_, ?_⟩
  · omega
  · exact Int.ofNat_lt.mpr small

@[simp] theorem faithful_word64 (depth : Nat) (value : UInt64) :
    Faithful depth (.word64 value) :=
  faithful_natural value.toNat_lt_size

/-- What may be missing is faithful if it is so when it is there. -/
theorem faithful_orNull {write : α → Json} {value? : Option α}
    (here : ∀ value, value? = some value → Faithful depth (write value)) :
    Faithful depth (Json.orNull write value?) := by
  cases value? with
  | none => exact .null depth
  | some value => exact here value rfl

@[simp] theorem faithful_orNull_text (depth : Nat) (text? : Option String) :
    Faithful depth (Json.orNull .text text?) :=
  faithful_orNull fun text _ => .text depth text

/-- Members that are faithful to their values. -/
def FaithfulMembers (depth : Nat) (members : List (String × Json)) : Prop :=
  ∀ member ∈ members, Faithful depth member.2

@[simp] theorem faithful_object_iff (members : List (String × Json)) :
    Faithful (depth + 1) (.object members) ↔ FaithfulMembers depth members := by
  constructor
  · rintro ⟨⟩
    assumption
  · exact .object depth members

@[simp] theorem faithfulMembers_nil (depth : Nat) : FaithfulMembers depth [] := nofun

@[simp] theorem faithfulMembers_cons (name : String) (value : Json)
    (members : List (String × Json)) :
    FaithfulMembers depth ((name, value) :: members) ↔
      Faithful depth value ∧ FaithfulMembers depth members :=
  List.forall_mem_cons

@[simp] theorem faithfulMembers_append (first second : List (String × Json)) :
    FaithfulMembers depth (first ++ second) ↔
      FaithfulMembers depth first ∧ FaithfulMembers depth second :=
  List.forall_mem_append

/-- So is a member that is left out when its value is missing. -/
theorem faithfulMembers_given (name : String) {write : α → Json} {value? : Option α}
    (here : ∀ value, value? = some value → Faithful depth (write value)) :
    FaithfulMembers depth (Json.given name write value?) := by
  cases value? with
  | none => exact nofun
  | some value => exact List.forall_mem_singleton.mpr (here value rfl)

@[simp] theorem faithfulMembers_given_text (depth : Nat) (name : String)
    (text? : Option String) : FaithfulMembers depth (Json.given name .text text?) :=
  faithfulMembers_given name fun text _ => .text depth text

/-- A list is faithful if each of its values is, one level deeper. -/
theorem faithful_list {write : α → Json} {values : List α}
    (each : ∀ value ∈ values, Faithful depth (write value)) :
    Faithful (depth + 1) (.list (values.map write)) := by
  refine .list depth _ fun item listed => ?_
  obtain ⟨value, member, rfl⟩ := List.mem_map.mp listed
  exact each value member

@[simp] theorem faithful_texts (depth : Nat) (values : List String) :
    Faithful (depth + 1) (Json.texts values) :=
  faithful_list fun value _ => .text depth value

end Faithful

section Union

/-- A faithful tree has no fault. -/
theorem Faithful.complete {depth : Nat} {value : Json} (faithful : Faithful depth value) :
    value.complete = true := by
  induction faithful with
  | null | boolean | integer | real | text => rfl
  | list depth items each inductionHypothesis =>
    clear each
    rw [Json.complete]
    induction items with
    | nil => rfl
    | cons item items rest =>
      obtain ⟨first, others⟩ := List.forall_mem_cons.mp inductionHypothesis
      rw [completeItems, first, rest others]
      rfl
  | object depth members each inductionHypothesis =>
    clear each
    rw [Json.complete]
    induction members with
    | nil => rfl
    | cons member members rest =>
      obtain ⟨first, others⟩ := List.forall_mem_cons.mp inductionHypothesis
      rw [completeMembers, first, rest others]
      rfl

/-- A way to see trees that also lets the tag of a union be read and its other members be
set aside. -/
structure Unites {ν : Type} [Tagged ν] (view : Json → ν) : Prop extends Views view where
  tag : ∀ names name, Tagged.tag names (view (.text name)) = tagNamed names name
  held : ∀ value, Tagged.held (view value) = ⟨value⟩
  complete : ∀ value, Source.complete (view value) = value.complete

/-- A tree is read as it is. -/
theorem unites_tree : Unites (fun tree : Json => tree) where
  toViews := views_tree
  tag _ _ := rfl
  held _ := rfl
  complete _ := rfl

/-- What was set aside while the kind was looked for is read as the tree that it holds. -/
theorem unites_held : Unites Held.mk where
  toViews := views_held
  tag _ _ := rfl
  held _ := rfl
  complete _ := rfl

/-- A union that is written with its tag first: the tag is read, and the other members are
set aside in order. -/
theorem Unites.read_tagged {ν : Type} [Tagged ν] {view : Json → ν} (unites : Unites view)
    {depth : Nat} {label tag : String} {names : List String} {members : List (String × Json)}
    (offered : tag ∈ names) (apart : ∀ member ∈ members, member.1 ≠ label)
    (faithful : FaithfulMembers depth members) :
    Untagged.read label names (view (.object ((label, .text tag) :: members))) =
      pure (tag, .keyed (members.map fun member => (pure member.1, ⟨member.2⟩))) := by
  have others : ∀ aside, (members.map fun member => (pure member.1, view member.2)).foldlM
      (Untagged.member label names) ⟨some tag, aside⟩ =
        (pure ⟨some tag, (members.map fun member => (member.1, ⟨member.2⟩)).reverse ++ aside⟩ :
          Reading Untagged) := by
    induction members with
    | nil => exact fun _ => rfl
    | cons member members inductionHypothesis =>
      intro aside
      obtain ⟨different, others⟩ := List.forall_mem_cons.mp apart
      obtain ⟨whole, rest⟩ := List.forall_mem_cons.mp faithful
      rw [List.map_cons, List.foldlM_cons]
      simp only [Untagged.member, pure_bind, if_neg different, skip, unites.complete,
        whole.complete, if_true, unites.held, inductionHypothesis others rest, List.map_cons,
        List.reverse_cons, List.append_assoc, List.singleton_append]
  have first : Untagged.member label names ⟨none, []⟩ (pure label, view (.text tag)) =
      pure ⟨some tag, []⟩ := by
    simp only [Untagged.member, pure_bind, if_true, unites.tag, tagNamed, if_pos offered]
  rw [Untagged.read, unites.shape, pure_bind, List.map_cons]
  simp only [List.foldlM_cons, first, pure_bind, others, List.append_nil, List.reverse_reverse,
    List.map_map]
  rfl

end Union

/-- Read a value from its text. What follows the value is refused, but only after the
value itself is found to be in order. -/
def decode (read : Json → Reading α) (text : String) : Except Fault α := do
  let (tree, alone) := Json.read text
  let (value, _) ← (read tree).run 0
  if alone then return value else throw .malformed

/-- A value that is read from its tree is read from its text, if that says what the tree
is. -/
theorem decode_write {read : Json → Reading α} {tree : Json} {value : α}
    (faithful : Faithful greatestDepth tree) (reads : read tree = pure value) :
    decode read tree.write = .ok value := by
  simp only [decode, read_write faithful, reads]
  rfl

end Flowdesk.Json
