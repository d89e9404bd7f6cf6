import Flowdesk.Data.NameSet

/-!
# Dictionaries

A dictionary gives texts to names. Its entries are kept in increasing order of
their names, each name once, so that equal dictionaries are written alike whatever
the order in which they were filled. A later entry of a name replaces the value of
an earlier one.
-/

namespace Flowdesk.Data

/-- Write an entry where it belongs. -/
def insertEntry (name value : String) : List (String × String) → List (String × String)
  | [] => [(name, value)]
  | first :: rest =>
      if name < first.1 then (name, value) :: first :: rest
      else if first.1 < name then first :: insertEntry name value rest
      else (name, value) :: rest

/-- The names of the entries are those before and the one written. -/
theorem insertEntry_names (name value : String) (entries : List (String × String)) :
    (insertEntry name value entries).map Prod.fst = insertName name (entries.map Prod.fst) := by
  induction entries with
  | nil => rfl
  | cons first rest inductionHypothesis =>
    simp only [insertEntry, List.map_cons, insertName]
    split
    · simp
    · next notLess =>
      split
      · simp [inductionHypothesis]
      · next notGreater =>
        have same : name = first.1 := name_eq_of_not_lt name first.1 notLess notGreater
        simp [same]

/-- Texts given to names, in increasing order of the names. -/
structure Dictionary where
  entries : List (String × String)
  increasing : (entries.map Prod.fst).Pairwise (· < ·)
  deriving DecidableEq

namespace Dictionary

/-- The dictionary without entries. -/
def empty : Dictionary := ⟨[], by simp⟩

instance : Inhabited Dictionary := ⟨empty⟩

instance : Repr Dictionary := ⟨fun dictionary precedence => reprPrec dictionary.entries precedence⟩

/-- Whether there is no entry. -/
def isEmpty (dictionary : Dictionary) : Bool := dictionary.entries.isEmpty

/-- The dictionary with one entry written. -/
def insert (dictionary : Dictionary) (name value : String) : Dictionary :=
  ⟨insertEntry name value dictionary.entries, by
    rw [insertEntry_names]
    exact insertName_increasing name _ dictionary.increasing⟩

/-- The dictionary that a list of entries fills in turn. -/
def ofList (entries : List (String × String)) : Dictionary :=
  entries.foldl (fun dictionary entry => dictionary.insert entry.1 entry.2) empty

/-- An entry with a greater name than all others goes to the end. -/
theorem insertEntry_last (name value : String) (entries : List (String × String))
    (greatest : ∀ entry ∈ entries, entry.1 < name) :
    insertEntry name value entries = entries ++ [(name, value)] := by
  induction entries with
  | nil => rfl
  | cons first rest inductionHypothesis =>
    have less : first.1 < name := greatest first List.mem_cons_self
    have notLess : ¬name < first.1 := fun reversed =>
      String.lt_irrefl name (String.lt_trans reversed less)
    simp only [insertEntry, if_neg notLess, if_pos less, List.cons_append, List.cons.injEq,
      true_and]
    exact inductionHypothesis fun entry member => greatest entry (List.mem_cons_of_mem first member)

/-- Filling a dictionary with the entries of another gives that other. -/
theorem ofList_entries (dictionary : Dictionary) : ofList dictionary.entries = dictionary := by
  have filled (before after : List (String × String))
      (increasing : ((before ++ after).map Prod.fst).Pairwise (· < ·))
      (start : Dictionary) (started : start.entries = before) :
      (after.foldl (fun dictionary entry => dictionary.insert entry.1 entry.2) start).entries =
        before ++ after := by
    induction after generalizing before start with
    | nil => simpa using started
    | cons entry rest inductionHypothesis =>
      have next : (start.insert entry.1 entry.2).entries = before ++ [entry] := by
        simp only [insert, started]
        refine insertEntry_last entry.1 entry.2 before ?_
        intro other member
        rw [List.map_append, List.pairwise_append] at increasing
        exact increasing.2.2 other.1 (List.mem_map_of_mem member) entry.1 (by simp)
      have whole := inductionHypothesis (before ++ [entry]) (by simpa using increasing)
        (start.insert entry.1 entry.2) next
      simpa using whole
  obtain ⟨entries, increasing⟩ := dictionary
  have entriesSame := filled [] entries (by simpa using increasing) empty rfl
  simp only [ofList]
  generalize result : List.foldl _ empty entries = built at entriesSame ⊢
  obtain ⟨builtEntries, _⟩ := built
  simp only [List.nil_append] at entriesSame
  subst entriesSame
  rfl

end Dictionary

end Flowdesk.Data
