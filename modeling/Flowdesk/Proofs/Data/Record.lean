import Flowdesk.Data.Record

/-!
# Reading a record as it was written

A record that was written by its own description is read back field by field. Whether the
entries of a field are there says what the field is; the entries of the fields after it do
not concern it, because their names are others. What is said of single fields therefore
puts together to what is said of the whole record.
-/

namespace Flowdesk.Data.Rec

variable {ν α β : Type}

/-- What entries with names add to what is known of a record, one after the other. -/
inductive Gathers (fields : Rec ν α) : fields.Known → List (String × ν) → fields.Known → Prop
  | nil (known : fields.Known) : Gathers fields known [] known
  | cons {known next last : fields.Known} {name : String} {value : ν}
      {rest : List (String × ν)} {add : ν → fields.Known → Reading fields.Known}
      (accepted : fields.accept name = some add) (added : add value known = pure next)
      (others : Gathers fields next rest last) :
      Gathers fields known ((name, value) :: rest) last

/-- Entries under some names are read as a value. -/
structure Reads (fields : Rec ν α) (names : List String) (entries : List (String × ν))
    (value : α) : Prop where
  within : ∀ entry ∈ entries, entry.1 ∈ names
  gathered : ∃ known, fields.Gathers fields.start entries known ∧ fields.finish known = .ok value

theorem Gathers.append {fields : Rec ν α} {known middle last : fields.Known}
    {early late : List (String × ν)} (first : fields.Gathers known early middle)
    (second : fields.Gathers middle late last) : fields.Gathers known (early ++ late) last := by
  induction first with
  | nil => exact second
  | cons accepted added _ inductionHypothesis =>
    exact .cons accepted added (inductionHypothesis second)

/-- The first fields of a record gather their entries and leave the others alone. -/
theorem Gathers.first {first : Rec ν α} {known last : first.Known}
    {entries : List (String × ν)} (gathers : first.Gathers known entries last)
    (second : Rec ν β) (other : second.Known) :
    (first.both second).Gathers (known, other) entries (last, other) := by
  induction gathers with
  | nil => exact .nil _
  | @cons known next last name value rest add accepted added _ inductionHypothesis =>
    have both : (first.both second).accept name =
        some fun value known => do return (← add value known.1, known.2) := by
      simp only [Rec.both, accepted]
    refine .cons both ?_ inductionHypothesis
    simp only [added, pure_bind]
    rfl

/-- So do the fields after them, where the first fields do not take the names. -/
theorem Gathers.second {second : Rec ν β} {known last : second.Known}
    {entries : List (String × ν)} (gathers : second.Gathers known entries last)
    (first : Rec ν α) (other : first.Known)
    (apart : ∀ entry ∈ entries, first.accept entry.1 = none) :
    (first.both second).Gathers (other, known) entries (other, last) := by
  induction gathers with
  | nil => exact .nil _
  | @cons known next last name value rest add accepted added _ inductionHypothesis =>
    have both : (first.both second).accept name =
        some fun value known => do return (known.1, ← add value known.2) := by
      simp only [Rec.both, apart _ List.mem_cons_self, accepted, Option.map_some]
    refine .cons both ?_ (inductionHypothesis fun entry member =>
      apart entry (List.mem_cons_of_mem _ member))
    simp only [added, pure_bind]
    rfl

section Field

variable {name : String} {read : ν → Reading α}

/-- A field that is written. -/
theorem reads_field (missing : Missing α) {written : ν} {value : α}
    (here : read written = pure value) :
    (field name read missing).Reads [name] [(name, written)] value := by
  refine ⟨?_, some value, .cons (if_pos rfl) ?_ (.nil _), rfl⟩
  · intro entry member
    rw [List.mem_singleton.mp member]
    exact List.mem_singleton_self name
  · change (do return some (← read written)) = _
    rw [here, pure_bind]
    rfl

/-- A field that is left out. -/
theorem reads_missing (value : α) : (assumed name read value).Reads [name] [] value :=
  ⟨nofun, none, .nil _, rfl⟩

/-- A field before others that have other names. -/
theorem Reads.both {missing : Missing α} {others : Rec ν β} {names : List String}
    {early late : List (String × ν)} {value : α} {rest : β}
    (first : (field name read missing).Reads [name] early value)
    (second : others.Reads names late rest) (fresh : name ∉ names) :
    ((field name read missing).both others).Reads (name :: names) (early ++ late)
      (value, rest) := by
  obtain ⟨firstKnown, firstGathers, firstFinish⟩ := first.gathered
  obtain ⟨secondKnown, secondGathers, secondFinish⟩ := second.gathered
  have apart : ∀ entry ∈ late, (field name read missing).accept entry.1 = none := by
    intro entry member
    refine if_neg fun same => fresh ?_
    rw [← same]
    exact second.within entry member
  refine ⟨?_, (firstKnown, secondKnown),
    (firstGathers.first others _).append (secondGathers.second _ firstKnown apart), ?_⟩
  · intro entry member
    rcases List.mem_append.mp member with inEarly | inLate
    · rw [List.mem_singleton.mp (first.within entry inEarly)]
      exact List.mem_cons_self
    · exact List.mem_cons_of_mem name (second.within entry inLate)
  · simp only [Rec.both, firstFinish, secondFinish]
    rfl

end Field

/-- The same fields, put together as another value. -/
theorem Reads.map {fields : Rec ν α} {names : List String} {entries : List (String × ν)}
    {value : α} (reads : fields.Reads names entries value) (build : α → β) :
    (fields.map build).Reads names entries (build value) := by
  obtain ⟨known, gathers, finish⟩ := reads.gathered
  have same : ∀ {known last : fields.Known} {entries : List (String × ν)},
      fields.Gathers known entries last → (fields.map build).Gathers known entries last := by
    intro known last entries gathers
    induction gathers with
    | nil => exact .nil _
    | cons accepted added _ inductionHypothesis => exact .cons accepted added inductionHypothesis
  refine ⟨reads.within, known, same gathers, ?_⟩
  simp only [Rec.map, finish]
  rfl

variable [Source ν]

/-- Entries are read as they are gathered. -/
theorem Gathers.foldlM {fields : Rec ν α} {known last : fields.Known}
    {entries : List (String × ν)} (gathers : fields.Gathers known entries last) :
    (entries.map fun entry => (pure entry.1, entry.2)).foldlM fields.entry known =
      pure last := by
  induction gathers with
  | nil => rfl
  | cons accepted added _ inductionHypothesis =>
    rw [List.map_cons, List.foldlM_cons]
    simp only [entry, pure_bind, accepted, added]
    exact inductionHypothesis

/-- Parts that are those entries are read as the record. -/
theorem Reads.ofShape {fields : Rec ν α} {names : List String} {entries : List (String × ν)}
    {value : α} (reads : fields.Reads names entries value) :
    fields.ofShape (.keyed (entries.map fun entry => (pure entry.1, entry.2))) = pure value := by
  obtain ⟨known, gathers, finish⟩ := reads.gathered
  simp only [Rec.ofShape, gathers.foldlM, pure_bind, finish]
  rfl

/-- A value whose parts are those entries is read as the record. -/
theorem Reads.read {fields : Rec ν α} {names : List String} {entries : List (String × ν)}
    {value : α} (reads : fields.Reads names entries value) {written : ν}
    (parts : Source.shape written =
      pure (.keyed (entries.map fun entry => (pure entry.1, entry.2)))) :
    fields.read written = pure value := by
  rw [Rec.read, parts, pure_bind, reads.ofShape]

end Flowdesk.Data.Rec
