/-!
# Sets of names

A set of names is kept as its members in increasing order of code points, each
once. Two sets with the same members are therefore equal, and listing a set needs
no further sorting.
-/

namespace Flowdesk.Data

/-- Insert a name where it belongs, unless it is there already. -/
def insertName (name : String) : List String → List String
  | [] => [name]
  | first :: rest =>
      if name < first then name :: first :: rest
      else if first < name then first :: insertName name rest
      else first :: rest

/-- Names that are neither greater nor less than one another are the same. -/
theorem name_eq_of_not_lt (left right : String) (notLess : ¬left < right)
    (notGreater : ¬right < left) : left = right :=
  String.le_antisymm (String.not_lt.mp notGreater) (String.not_lt.mp notLess)

@[simp] theorem mem_insertName (name : String) (names : List String) (other : String) :
    other ∈ insertName name names ↔ other = name ∨ other ∈ names := by
  induction names with
  | nil => simp [insertName]
  | cons first rest inductionHypothesis =>
    simp only [insertName]
    split
    · simp
    · next notLess =>
      split
      · simp only [List.mem_cons, inductionHypothesis]
        constructor
        · rintro (found | found | found) <;> simp [found]
        · rintro (found | found | found) <;> simp [found]
      · next notGreater =>
        have same : name = first := name_eq_of_not_lt name first notLess notGreater
        subst same
        simp

/-- Insertion keeps the members in increasing order. -/
theorem insertName_increasing (name : String) (names : List String)
    (increasing : names.Pairwise (· < ·)) : (insertName name names).Pairwise (· < ·) := by
  induction names with
  | nil => simp [insertName]
  | cons first rest inductionHypothesis =>
    obtain ⟨least, ordered⟩ := List.pairwise_cons.mp increasing
    simp only [insertName]
    split
    · next less =>
      refine List.pairwise_cons.mpr ⟨?_, increasing⟩
      intro other member
      rcases List.mem_cons.mp member with rfl | member
      · exact less
      · exact String.lt_trans less (least other member)
    · split
      · next greater =>
        refine List.pairwise_cons.mpr ⟨?_, inductionHypothesis ordered⟩
        intro other member
        rcases (mem_insertName name rest other).mp member with rfl | member
        · exact greater
        · exact least other member
      · exact increasing

/-- A set of names, listed in increasing order. -/
structure NameSet where
  names : List String
  increasing : names.Pairwise (· < ·)
  deriving DecidableEq

namespace NameSet

/-- The set without members. -/
def empty : NameSet := ⟨[], List.Pairwise.nil⟩

instance : Inhabited NameSet := ⟨empty⟩

instance : Repr NameSet := ⟨fun set precedence => reprPrec set.names precedence⟩

instance : Membership String NameSet := ⟨fun set name => name ∈ set.names⟩

instance (name : String) (set : NameSet) : Decidable (name ∈ set) :=
  inferInstanceAs (Decidable (name ∈ set.names))

/-- Whether there is no member. -/
def isEmpty (set : NameSet) : Bool := set.names.isEmpty

/-- The set with one more member. -/
def insert (set : NameSet) (name : String) : NameSet :=
  ⟨insertName name set.names, insertName_increasing name set.names set.increasing⟩

/-- The set without one member. -/
def erase (set : NameSet) (name : String) : NameSet :=
  ⟨set.names.filter (· ≠ name), set.increasing.filter _⟩

/-- The set of the names in a list. -/
def ofList (names : List String) : NameSet := names.foldl insert empty

theorem mem_def (set : NameSet) (name : String) : name ∈ set ↔ name ∈ set.names := Iff.rfl

@[simp] theorem not_mem_empty (name : String) : name ∉ empty := List.not_mem_nil

@[simp] theorem mem_insert (set : NameSet) (inserted name : String) :
    name ∈ set.insert inserted ↔ name = inserted ∨ name ∈ set :=
  mem_insertName inserted set.names name

@[simp] theorem mem_erase (set : NameSet) (erased name : String) :
    name ∈ set.erase erased ↔ name ∈ set ∧ name ≠ erased := by
  simp [mem_def, erase]

/-- The members of a set after names were inserted one after the other. -/
theorem mem_foldl_insert (names : List String) (set : NameSet) (name : String) :
    name ∈ names.foldl insert set ↔ name ∈ set ∨ name ∈ names := by
  induction names generalizing set with
  | nil => simp
  | cons first rest inductionHypothesis =>
    rw [List.foldl_cons, inductionHypothesis, mem_insert, List.mem_cons, or_assoc, or_left_comm]

/-- Sets with the same members are equal. -/
theorem ext_of_mem (left right : NameSet) (same : ∀ name, name ∈ left ↔ name ∈ right) :
    left = right := by
  obtain ⟨left, leftIncreasing⟩ := left
  obtain ⟨right, rightIncreasing⟩ := right
  congr 1
  induction left generalizing right with
  | nil =>
    cases right with
    | nil => rfl
    | cons first rest => exact absurd ((same first).mpr List.mem_cons_self) List.not_mem_nil
  | cons first rest inductionHypothesis =>
    cases right with
    | nil => exact absurd ((same first).mp List.mem_cons_self) List.not_mem_nil
    | cons other others =>
      obtain ⟨least, ordered⟩ := List.pairwise_cons.mp leftIncreasing
      obtain ⟨otherLeast, otherOrdered⟩ := List.pairwise_cons.mp rightIncreasing
      have heads : first = other := by
        rcases List.mem_cons.mp ((same first).mp List.mem_cons_self) with found | found
        · exact found
        · rcases List.mem_cons.mp ((same other).mpr List.mem_cons_self) with back | back
          · exact back.symm
          · exact absurd (String.lt_trans (otherLeast first found) (least other back))
              (String.lt_irrefl other)
      subst heads
      congr 1
      refine inductionHypothesis ordered others otherOrdered ?_
      intro name
      have whole := same name
      simp only [mem_def, List.mem_cons] at whole ⊢
      constructor
      · intro member
        rcases whole.mp (.inr member) with rfl | found
        · exact absurd (least _ member) (String.lt_irrefl _)
        · exact found
      · intro member
        rcases whole.mpr (.inr member) with rfl | found
        · exact absurd (otherLeast _ member) (String.lt_irrefl _)
        · exact found

end NameSet

end Flowdesk.Data
