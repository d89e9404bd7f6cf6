import Flowdesk.Proofs.Json.Number
import Flowdesk.Proofs.Json.Text

/-!
# A tree is read as it was written

A value is read from the characters it was written with, whatever follows it inside another
value, and what follows is left. What is said of a list or an object follows from what is
said of the values in it, one level less deep. Reading is bounded by a number of steps; two
for each character are enough.
-/

namespace Flowdesk.Json

/-- Whether the text of a tree says what the tree is: it has no fault, its integers fit, its
other numbers name themselves, and lists and objects stand in it no deeper than this. -/
inductive Faithful : Nat → Json → Prop where
  | null (depth : Nat) : Faithful depth .null
  | boolean (depth : Nat) (value : Bool) : Faithful depth (.boolean value)
  | integer (depth : Nat) (value : Int) (fits : Fits value) : Faithful depth (.integer value)
  | real (depth : Nat) (value : Float) (prints : Prints value) : Faithful depth (.real value)
  | text (depth : Nat) (value : String) : Faithful depth (.text value)
  | list (depth : Nat) (items : List Json) (each : ∀ item ∈ items, Faithful depth item) :
      Faithful (depth + 1) (.list items)
  | object (depth : Nat) (members : List (String × Json))
      (each : ∀ member ∈ members, Faithful depth member.2) : Faithful (depth + 1) (.object members)

/-- Whether a value is read from its characters, and what follows them left. -/
def ReadsBack (depth : Nat) (value : Json) : Prop :=
  ∀ fuel rest, 2 * value.chars.length + 1 ≤ fuel → Follows rest →
    ∃ after, readValue fuel depth (value.chars ++ rest) = (value, some after) ∧
      skipGap after = rest

section Items

variable {fuel depth : Nat} {chars rest after : List Char} {items : List Json}

/-- Where a bracket closes, no value starts. -/
theorem not_closing {value : Json} (read : readValue fuel depth chars = (value, some after))
    (rest : List Char) : skipGap chars ≠ ']' :: rest := by
  intro closing
  cases fuel with
  | zero => cases read
  | succ fuel =>
    rw [readValue, closing] at read
    cases read

/-- What is read after the bracket that opens a list. -/
theorem readValue_bracket (start : skipGap chars = '[' :: rest) :
    readValue (fuel + 1) (depth + 1) chars =
      match skipGap rest with
      | ']' :: after => (.list [], some after)
      | _ => (.list (readItems fuel depth rest).1, (readItems fuel depth rest).2) := by
  rw [readValue, start]
  rfl

/-- A list that is not empty is read item by item. -/
theorem readValue_list (start : skipGap chars = '[' :: rest)
    (goesOn : ∀ more, skipGap rest ≠ ']' :: more)
    (read : readItems fuel depth rest = (items, some after)) :
    readValue (fuel + 1) (depth + 1) chars = (.list items, some after) := by
  rw [readValue_bracket start]
  split
  · next more same => exact absurd same (goesOn more)
  · rw [read]

theorem readItems_last {item : Json} (read : readValue fuel depth chars = (item, some after))
    (closes : skipGap after = ']' :: rest) :
    readItems (fuel + 1) depth chars = ([item], some rest) := by
  simp only [readItems, read, closes]

theorem readItems_next {item : Json} {between : List Char}
    (read : readValue fuel depth chars = (item, some between))
    (goesOn : skipGap between = ',' :: rest)
    (others : readItems fuel depth rest = (items, some after)) :
    readItems (fuel + 1) depth chars = (item :: items, some after) := by
  simp only [readItems, read, goesOn, others]

theorem itemChars_cons (item next : Json) (items : List Json) :
    itemChars (item :: next :: items) = item.chars ++ ',' :: itemChars (next :: items) := rfl

/-- The first item of a list is followed by what may follow it. -/
theorem itemChars_first (item : Json) (items : List Json) (rest : List Char) :
    ∃ tail, itemChars (item :: items) ++ ']' :: rest = item.chars ++ tail ∧ Follows tail := by
  cases items with
  | nil => exact ⟨']' :: rest, rfl, follows_cons (by decide) rest⟩
  | cons next items =>
    refine ⟨',' :: itemChars (next :: items) ++ ']' :: rest, ?_, follows_cons (by decide) _⟩
    rw [itemChars_cons, List.append_assoc, List.cons_append]

/-- Items that are read one by one are read one after the other. -/
theorem readItems_itemChars (item : Json) (each : ∀ value ∈ item :: items, ReadsBack depth value)
    (enough : 2 * (itemChars (item :: items)).length + 2 ≤ fuel) :
    readItems fuel depth (itemChars (item :: items) ++ ']' :: rest) =
      (item :: items, some rest) := by
  induction items generalizing item fuel with
  | nil =>
    obtain ⟨steps, rfl⟩ : ∃ steps, fuel = steps + 1 := ⟨fuel - 1, by omega⟩
    rw [itemChars] at enough ⊢
    obtain ⟨after, read, closes⟩ := each item List.mem_cons_self steps (']' :: rest) (by omega)
      (follows_cons (by decide) rest)
    exact readItems_last read closes
  | cons next items inductionHypothesis =>
    obtain ⟨steps, rfl⟩ : ∃ steps, fuel = steps + 1 := ⟨fuel - 1, by omega⟩
    have split : itemChars (item :: next :: items) ++ ']' :: rest =
        item.chars ++ ',' :: (itemChars (next :: items) ++ ']' :: rest) := by
      rw [itemChars_cons, List.append_assoc, List.cons_append]
    rw [itemChars_cons, List.length_append, List.length_cons] at enough
    obtain ⟨after, read, goesOn⟩ := each item List.mem_cons_self steps
      (',' :: (itemChars (next :: items) ++ ']' :: rest)) (by omega) (follows_cons (by decide) _)
    rw [split]
    refine readItems_next read goesOn (inductionHypothesis next ?_ (by omega))
    exact fun value member => each value (List.mem_cons_of_mem item member)

/-- A list is read back if its items are. -/
theorem readsBack_list (each : ∀ item ∈ items, ReadsBack depth item) :
    ReadsBack (depth + 1) (.list items) := by
  intro fuel rest enough follows
  obtain ⟨steps, rfl⟩ : ∃ steps, fuel = steps + 1 := ⟨fuel - 1, by omega⟩
  refine ⟨rest, ?_, follows.skipGap_eq⟩
  cases items with
  | nil => rfl
  | cons item items =>
    have shape : (Json.list (item :: items)).chars ++ rest =
        '[' :: (itemChars (item :: items) ++ ']' :: rest) := by
      rw [chars, List.cons_append, List.cons_append, List.append_assoc, List.singleton_append]
    have length : (Json.list (item :: items)).chars.length =
        (itemChars (item :: items)).length + 2 := by simp [chars]
    rw [shape]
    refine readValue_list rfl ?_ (readItems_itemChars item each (by omega))
    intro more closing
    obtain ⟨tail, same, follow⟩ := itemChars_first item items rest
    obtain ⟨after, read, -⟩ := each item List.mem_cons_self _ tail (Nat.le_refl _) follow
    exact not_closing read more (same ▸ closing)

end Items

section Members

variable {fuel depth : Nat} {chars rest after : List Char} {members : List (String × Json)}

/-- What is read after the brace that opens an object. -/
theorem readValue_brace (start : skipGap chars = '\x7b' :: rest) :
    readValue (fuel + 1) (depth + 1) chars =
      match skipGap rest with
      | '\x7d' :: after => (.object [], some after)
      | _ => (.object (readMembers fuel depth rest).1, (readMembers fuel depth rest).2) := by
  rw [readValue, start]
  rfl

/-- An object that is not empty is read member by member. -/
theorem readValue_object (start : skipGap chars = '\x7b' :: rest)
    (goesOn : ∀ more, skipGap rest ≠ '\x7d' :: more)
    (read : readMembers fuel depth rest = (members, some after)) :
    readValue (fuel + 1) (depth + 1) chars = (.object members, some after) := by
  rw [readValue_brace start]
  split
  · next more same => exact absurd same (goesOn more)
  · rw [read]

/-- A member is its name and its value. What comes after tells whether it is the last. -/
theorem readMembers_member {name : String} {value : Json} {between : List Char}
    (read : readValue fuel depth chars = (value, some between)) :
    readMembers (fuel + 1) depth (quote name ++ ':' :: chars) =
      match skipGap between with
      | '\x7d' :: after => ([(name, value)], some after)
      | ',' :: after =>
          ((name, value) :: (readMembers fuel depth after).1, (readMembers fuel depth after).2)
      | _ => ([(name, value), ("", .fault)], none) := by
  obtain ⟨body, same, named⟩ := textBody?_quote name (':' :: chars)
  have quoted : skipGap ('"' :: body) = '"' :: body := rfl
  have colon : skipGap (':' :: chars) = ':' :: chars := rfl
  rw [same, readMembers, quoted]
  simp only [named, colon, String.ofList_toList]
  rewrite [read]
  rfl

theorem memberChars_cons (name : String) (value : Json) (next : String × Json)
    (members : List (String × Json)) :
    memberChars ((name, value) :: next :: members) =
      quote name ++ ':' :: value.chars ++ ',' :: memberChars (next :: members) := rfl

/-- Members whose values are read one by one are read one after the other. -/
theorem readMembers_memberChars (member : String × Json)
    (each : ∀ other ∈ member :: members, ReadsBack depth other.2)
    (enough : 2 * (memberChars (member :: members)).length + 2 ≤ fuel) :
    readMembers fuel depth (memberChars (member :: members) ++ '\x7d' :: rest) =
      (member :: members, some rest) := by
  induction members generalizing member fuel with
  | nil =>
    obtain ⟨name, value⟩ := member
    obtain ⟨steps, rfl⟩ : ∃ steps, fuel = steps + 1 := ⟨fuel - 1, by omega⟩
    have split : memberChars [(name, value)] ++ '\x7d' :: rest =
        quote name ++ ':' :: (value.chars ++ '\x7d' :: rest) := by
      rw [memberChars, List.append_assoc, List.cons_append]
    rw [memberChars, List.length_append, List.length_cons] at enough
    obtain ⟨after, read, closes⟩ := each _ List.mem_cons_self steps ('\x7d' :: rest)
      (by dsimp only; omega) (follows_cons (by decide) rest)
    rw [split, readMembers_member read, closes]
    rfl
  | cons next members inductionHypothesis =>
    obtain ⟨name, value⟩ := member
    obtain ⟨steps, rfl⟩ : ∃ steps, fuel = steps + 1 := ⟨fuel - 1, by omega⟩
    have split : memberChars ((name, value) :: next :: members) ++ '\x7d' :: rest =
        quote name ++ ':' :: (value.chars ++
          ',' :: (memberChars (next :: members) ++ '\x7d' :: rest)) := by
      simp only [memberChars_cons, List.append_assoc, List.cons_append]
    have length : (memberChars ((name, value) :: next :: members)).length =
        (quote name).length + value.chars.length + (memberChars (next :: members)).length + 2 := by
      simp only [memberChars_cons, List.length_append, List.length_cons]
      omega
    obtain ⟨after, read, goesOn⟩ := each _ List.mem_cons_self steps
      (',' :: (memberChars (next :: members) ++ '\x7d' :: rest)) (by dsimp only; omega)
      (follows_cons (by decide) _)
    have others : readMembers steps depth (memberChars (next :: members) ++ '\x7d' :: rest) =
        (next :: members, some rest) :=
      inductionHypothesis next (fun other member => each other (List.mem_cons_of_mem _ member))
        (by omega)
    rw [split, readMembers_member read, goesOn]
    change ((name, value) :: (readMembers steps depth _).1, (readMembers steps depth _).2) = _
    rw [others]

/-- An object is read back if the values of its members are. -/
theorem readsBack_object (each : ∀ member ∈ members, ReadsBack depth member.2) :
    ReadsBack (depth + 1) (.object members) := by
  intro fuel rest enough follows
  obtain ⟨steps, rfl⟩ : ∃ steps, fuel = steps + 1 := ⟨fuel - 1, by omega⟩
  refine ⟨rest, ?_, follows.skipGap_eq⟩
  cases members with
  | nil => rfl
  | cons member members =>
    have shape : (Json.object (member :: members)).chars ++ rest =
        '\x7b' :: (memberChars (member :: members) ++ '\x7d' :: rest) := by
      rw [Json.chars, List.cons_append, List.cons_append, List.append_assoc, List.singleton_append]
    have length : (Json.object (member :: members)).chars.length =
        (memberChars (member :: members)).length + 2 := by simp [Json.chars]
    rw [shape]
    refine readValue_object rfl ?_ (readMembers_memberChars member each (by omega))
    -- The name of the first member starts with a quote.
    intro more closing
    cases members <;> exact nomatch closing

end Members

/-- What is read in one step is read back. -/
theorem readsBack_leaf {depth : Nat} {value : Json}
    (read : ∀ steps rest, Follows rest →
      ∃ after, readValue (steps + 1) depth (value.chars ++ rest) = (value, some after) ∧
        skipGap after = rest) : ReadsBack depth value := by
  intro fuel rest enough follows
  obtain ⟨steps, rfl⟩ : ∃ steps, fuel = steps + 1 := ⟨fuel - 1, by omega⟩
  exact read steps rest follows

/-- A faithful value is read back. -/
theorem Faithful.readsBack {depth : Nat} {value : Json} (faithful : Faithful depth value) :
    ReadsBack depth value := by
  induction faithful with
  | null depth => exact readsBack_leaf fun _ rest follows => ⟨rest, rfl, follows.skipGap_eq⟩
  | boolean depth value =>
    refine readsBack_leaf fun _ rest follows => ⟨rest, ?_, follows.skipGap_eq⟩
    cases value <;> rfl
  | integer depth value fits =>
    exact readsBack_leaf fun steps rest follows =>
      ⟨rest, readValue_integer steps depth fits follows, follows.skipGap_eq⟩
  | real depth value prints =>
    exact readsBack_leaf fun steps rest follows => readValue_real steps depth prints follows
  | text depth value =>
    refine readsBack_leaf fun _ rest follows => ⟨rest, ?_, follows.skipGap_eq⟩
    obtain ⟨body, same, named⟩ := textBody?_quote value rest
    have quoted : skipGap ('"' :: body) = '"' :: body := rfl
    rw [chars, same, readValue, quoted]
    simp only [named, String.ofList_toList]
  | list depth items each inductionHypothesis => exact readsBack_list inductionHypothesis
  | object depth members each inductionHypothesis => exact readsBack_object inductionHypothesis

/-- A faithful tree is read from its text, and nothing else is there. -/
theorem read_write {value : Json} (faithful : Faithful greatestDepth value) :
    read value.write = (value, true) := by
  obtain ⟨after, read, blank⟩ := faithful.readsBack (2 * value.chars.length + 2) [] (by omega)
    follows_nil
  rw [List.append_nil] at read
  simp only [Json.read, write, String.toList_ofList, read, blank, List.isEmpty_nil]

end Flowdesk.Json
