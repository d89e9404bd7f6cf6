import Flowdesk.Proofs.Yaml.Written

/-!
# The tokens of a value

What is written for a value is read as the tokens of its nesting: those that open a
collection, those of what is in it, and one that closes it. A list under a key that is not
announced stands at the column of the key, so neither its start nor its end has a token.
The law follows the structure of values; each part of a value leads from the column that it
is written at to the line after it.
-/

namespace Flowdesk.Yaml

mutual

/-- The numbers of a value. -/
def Value.numbers : Value → List Float
  | .text _ => []
  | .number value => [value]
  | .list items => itemsNumbers items
  | .record entries => entriesNumbers entries

/-- The numbers of entries. -/
def entriesNumbers : List (String × Value) → List Float
  | [] => []
  | (_, value) :: rest => value.numbers ++ entriesNumbers rest

/-- The numbers of items. -/
def itemsNumbers : List Value → List Float
  | [] => []
  | item :: rest => item.numbers ++ itemsNumbers rest

end

mutual

/-- The tokens of a value; a list may stand loosely at the column of its key. -/
def Value.tokens (loose : Bool) : Value → List Token
  | .text value => [scalarOf value.toList]
  | .number value => [.scalar .plain (writeNumber value)]
  | .list [] => [.flowSequenceStart, .flowSequenceEnd]
  | .list (item :: rest) =>
      if loose then itemsTokens (item :: rest)
      else .blockSequenceStart :: itemsTokens (item :: rest) ++ [.blockEnd]
  | .record [] => [.flowMappingStart, .flowMappingEnd]
  | .record (entry :: rest) => .blockMappingStart :: entriesTokens (entry :: rest) ++ [.blockEnd]

/-- The tokens of entries. -/
def entriesTokens : List (String × Value) → List Token
  | [] => []
  | (key, value) :: rest =>
      [.key, scalarOf key.toList, .value] ++ value.tokens (!isAnnounced key) ++ entriesTokens rest

/-- The tokens of items. -/
def itemsTokens : List Value → List Token
  | [] => []
  | item :: rest => .blockEntry :: item.tokens false ++ itemsTokens rest

end

/-- Whether the numbers of a value are written as plain scalars. -/
def Printed (numbers : List Float) : Prop := ∀ x ∈ numbers, PlainText (writeNumber x)

theorem Printed.of_append {first second : List Float} (printed : Printed (first ++ second)) :
    Printed first ∧ Printed second :=
  ⟨fun x member => printed x (List.mem_append_left second member),
    fun x member => printed x (List.mem_append_right first member)⟩

/-- The place at the first character of a line that is no space. -/
def Stand.line (tokens : List Token) (indents : List Nat) (text : List Char) : Stand :=
  ⟨tokens, indents, true, (text.takeWhile (· == ' ')).length, text.dropWhile (· == ' ')⟩

theorem Stand.line_spaces (tokens : List Token) (indents : List Nat) (column : Nat)
    {front : List Char} (other : front.head? ≠ some ' ') :
    Stand.line tokens indents (spaces column ++ front) =
      ⟨tokens, indents, true, column, front⟩ := by
  have all : ∀ c ∈ spaces column, (c == ' ') = true := fun c member =>
    beq_iff_eq.mpr (List.eq_of_mem_replicate member)
  have stops : front.takeWhile (· == ' ') = [] ∧ front.dropWhile (· == ' ') = front := by
    cases front with
    | nil => exact ⟨rfl, rfl⟩
    | cons c front =>
      have different : (c == ' ') = false :=
        beq_eq_false_iff_ne.mpr fun same => other (congrArg some same)
      simp [different]
  rw [Stand.line, List.takeWhile_append_of_pos all, List.dropWhile_append_of_pos all, stops.1,
    stops.2, List.append_nil, spaces, List.length_replicate]

/-- What may follow what is written at a column: a line that is indented no deeper. -/
def Follows (column : Nat) (text : List Char) : Prop :=
  ∃ next front, next ≤ column ∧ Fronts front ∧ text = spaces next ++ front

theorem Follows.mono {column deeper : Nat} {text : List Char} (follows : Follows column text)
    (inner : column ≤ deeper) : Follows deeper text :=
  let ⟨next, front, shallow, fronts, same⟩ := follows
  ⟨next, front, Nat.le_trans shallow inner, fronts, same⟩

/-- What is written for a value on the line where it starts. -/
def Value.inline (indent : Nat) (value : Value) : List Char := (writeItem indent value).tail

/-- Whether a value is written on the line where it starts. -/
def Value.fits : Value → Bool
  | .text _ | .number _ | .list [] | .record [] => true
  | .list (_ :: _) | .record (_ :: _) => false

theorem writeItems_cons (indent : Nat) (item : Value) (rest : List Value) :
    writeItems indent (item :: rest) =
      spaces indent ++ '-' :: (writeItem indent item ++ writeItems indent rest) := by
  simp [writeItems]

/-- What is written for an entry without the spaces before it. -/
def entryChars (indent : Nat) (key : String) (value : Value) : List Char :=
  (if isAnnounced key then
    '?' :: ' ' :: endLine (writeScalar (indent + step) key.toList) ++ spaces indent ++ [':']
  else writeScalar (indent + step) key.toList ++ [':']) ++
    writeUnder indent (isAnnounced key) value

theorem writeEntries_cons (indent : Nat) (key : String) (value : Value)
    (rest : List (String × Value)) :
    writeEntries indent ((key, value) :: rest) =
      spaces indent ++ (entryChars indent key value ++ writeEntries indent rest) := by
  rw [writeEntries, writeKey, entryChars]
  cases isAnnounced key <;> simp

theorem drop_spaces (count : Nat) (text : List Char) : (spaces count ++ text).drop count = text :=
  List.drop_left' List.length_replicate

/-- A value starts a space after its dash. -/
theorem writeItem_eq (indent : Nat) (value : Value) :
    writeItem indent value = ' ' :: value.inline indent := by
  unfold Value.inline
  cases value with
  | text => rfl
  | number => rfl
  | list items => cases items <;> rfl
  | record entries => cases entries <;> rfl

/-- So it does after the colon of a key that was announced. -/
theorem writeUnder_announced (indent : Nat) (value : Value) :
    writeUnder indent true value = ' ' :: value.inline indent := by
  unfold Value.inline
  cases value with
  | text => rfl
  | number => rfl
  | list items => cases items <;> rfl
  | record entries => cases entries <;> rfl

/-- So does a value that fits on the line of its key. -/
theorem writeUnder_fits (indent : Nat) {value : Value} (fits : value.fits = true) :
    writeUnder indent false value = ' ' :: value.inline indent := by
  unfold Value.inline
  match value, fits with
  | .text _, _ => rfl
  | .number _, _ => rfl
  | .list [], _ => rfl
  | .record [], _ => rfl

theorem inline_empty_list (indent : Nat) : (Value.list []).inline indent = ['[', ']', '\n'] := by
  simp [Value.inline, writeItem]

theorem inline_empty_record (indent : Nat) :
    (Value.record []).inline indent = ['\x7b', '\x7d', '\n'] := by
  simp [Value.inline, writeItem]

/-- A list starts at its first dash. -/
theorem inline_list (indent : Nat) (item : Value) (rest : List Value) :
    (Value.list (item :: rest)).inline indent =
      '-' :: (writeItem (indent + step) item ++ writeItems (indent + step) rest) := by
  have written := drop_spaces (indent + step)
    ('-' :: (writeItem (indent + step) item ++ writeItems (indent + step) rest))
  rw [← writeItems_cons] at written
  rw [Value.inline, writeItem, List.tail_cons, written]

/-- A record starts at its first key. -/
theorem inline_record (indent : Nat) (key : String) (value : Value)
    (rest : List (String × Value)) :
    (Value.record ((key, value) :: rest)).inline indent =
      entryChars (indent + step) key value ++ writeEntries (indent + step) rest := by
  have written := drop_spaces (indent + step)
    (entryChars (indent + step) key value ++ writeEntries (indent + step) rest)
  rw [← writeEntries_cons] at written
  rw [Value.inline, writeItem, List.tail_cons, written]

/-- A token may start with an entry. -/
theorem fronts_entryChars (indent : Nat) (key : String) (value : Value) (more : List Char) :
    Fronts (entryChars indent key value ++ more) := by
  unfold entryChars
  split
  · intro c head
    cases head
    decide
  · rw [List.append_assoc, List.append_assoc]
    exact fronts_writeScalar _ _ _

/-- A token may start with a value. -/
theorem fronts_inline (indent : Nat) {value : Value} (printed : Printed value.numbers)
    (more : List Char) : Fronts (value.inline indent ++ more) := by
  have start : ∀ {c : Char} {text : List Char}, isGap c = false ∧ c ≠ '#' ∧ c ≠ '\uFEFF' →
      Fronts (c :: text) := by
    intro c text safe other head
    cases head
    exact safe
  cases value with
  | text value => exact fronts_endLine (indent + step) value.toList more
  | number value =>
    have plain : PlainText (writeNumber value) := printed value List.mem_cons_self
    change Fronts (writeNumber value ++ ['\n'] ++ more)
    rw [List.append_assoc]
    exact plain.fronts _
  | list items =>
    cases items with
    | nil => exact start (by decide)
    | cons item rest =>
      rw [inline_list]
      exact start (by decide)
  | record entries =>
    cases entries with
    | nil => exact start (by decide)
    | cons entry rest =>
      rw [inline_record, List.append_assoc]
      exact fronts_entryChars _ _ _ _

/-- Items may follow what is written no less deep, and so may what follows them. -/
theorem follows_writeItems {column : Nat} {text : List Char} (follows : Follows column text)
    (items : List Value) : Follows column (writeItems column items ++ text) := by
  cases items with
  | nil => exact follows
  | cons item rest =>
    rw [writeItems_cons, List.append_assoc]
    refine ⟨column, _, Nat.le_refl column, ?_, rfl⟩
    intro c head
    cases head
    decide

theorem follows_writeEntries {column : Nat} {text : List Char} (follows : Follows column text)
    (entries : List (String × Value)) : Follows column (writeEntries column entries ++ text) := by
  cases entries with
  | nil => exact follows
  | cons entry rest =>
    rw [writeEntries_cons, List.append_assoc, List.append_assoc]
    exact ⟨column, _, Nat.le_refl column, fronts_entryChars _ _ _ _, rfl⟩

namespace Leads

/-- A collection closes at the line after it. -/
theorem close {tokens : List Token} {column indent : Nat} {text : List Char}
    (follows : Follows column text) (inner : column < indent) (outer : List Nat) :
    Leads (Stand.line tokens (indent :: outer) text)
      (Stand.line (tokens ++ [.blockEnd]) outer text) := by
  obtain ⟨next, front, shallow, fronts, rfl⟩ := follows
  rw [Stand.line_spaces _ _ _ (head?_ne_space fronts.solid),
    Stand.line_spaces _ _ _ (head?_ne_space fronts.solid)]
  exact closed (Nat.lt_of_le_of_lt shallow inner) outer true front

/-- A key that is not announced leads to the next line, if its value starts there. -/
theorem keyLine {name : String} (short : isAnnounced name = false) {tokens : List Token}
    {indents : List Nat} {column deeper : Nat} {text : List Char}
    (deep : ∀ indent ∈ indents.head?, indent ≤ column) (follows : Follows deeper text) :
    Leads ⟨tokens, indents, true, column,
        writeScalar (column + step) name.toList ++ ':' :: '\n' :: text⟩
      (Stand.line (tokens ++ Layout.opening indents column .blockMappingStart ++
        [.key, scalarOf name.toList, .value]) (Layout.opened indents column) text) := by
  obtain ⟨next, front, -, fronts, rfl⟩ := follows
  rw [Stand.line_spaces _ _ _ (head?_ne_space fronts.solid)]
  exact scalarKey short rfl deep (.line false _ next fronts)

/-- A value that fits on the line where it starts leads to the next one. -/
theorem fitting {value : Value} (fits : value.fits = true) (printed : Printed value.numbers)
    {tokens : List Token} {indent : Nat} {outer : List Nat} {allowed : Bool} {column : Nat}
    {text : List Char} (deep : indent < column) (follows : Follows indent text) (loose : Bool) :
    Leads ⟨tokens, indent :: outer, allowed, column, value.inline indent ++ text⟩
      (Stand.line (tokens ++ value.tokens loose) (indent :: outer) text) := by
  obtain ⟨next, front, shallow, fronts, rfl⟩ := follows
  rw [Stand.line_spaces _ _ _ (head?_ne_space fronts.solid)]
  match value, fits with
  | .text value, _ => exact scalar value.toList deep shallow fronts
  | .number value, _ =>
    have written : (Value.number value).inline indent ++ (spaces next ++ front) =
        writeNumber value ++ '\n' :: (spaces next ++ front) := List.append_assoc _ _ _
    rw [written]
    exact plain (printed value List.mem_cons_self) deep shallow fronts
  | .list [], _ =>
    rw [inline_empty_list]
    refine empty (fun _ _ => ?_) (fun _ _ => ?_) (by decide) (by decide) ?_ deep fronts
    · simp [Layout.tokenAt, documentMark]
    · simp [Layout.tokenAt, documentMark]
    · intro c head
      cases head
      decide
  | .record [], _ =>
    rw [inline_empty_record]
    refine empty (fun _ _ => ?_) (fun _ _ => ?_) (by decide) (by decide) ?_ deep fronts
    · simp [Layout.tokenAt, documentMark]
    · simp [Layout.tokenAt, documentMark]
    · intro c head
      cases head
      decide

end Leads

/-- Whether reading a value leads to the line after it. -/
structure ValueLeads (value : Value) : Prop where
  law : ∀ {tokens : List Token} {indent : Nat} {outer : List Nat} {text : List Char},
    Follows indent text →
      Leads ⟨tokens, indent :: outer, true, indent + step, value.inline indent ++ text⟩
        (Stand.line (tokens ++ value.tokens false) (indent :: outer) text)

/-- Whether reading items leads to the line after them. The first one opens a list, unless
the list is loose. -/
structure ItemsLead (items : List Value) : Prop where
  law : ∀ {tokens : List Token} {indents : List Nat} {column : Nat} {text : List Char},
    (∀ indent ∈ indents.head?, indent ≤ column) → Follows column text →
      Leads (Stand.line tokens indents (writeItems column items ++ text))
        (Stand.line (tokens ++ Layout.opening indents column .blockSequenceStart ++
          itemsTokens items) (Layout.opened indents column) text)

/-- Whether reading entries leads to the line after them. The first one opens a record. -/
structure EntriesLead (entries : List (String × Value)) : Prop where
  law : ∀ {tokens : List Token} {indents : List Nat} {column : Nat} {text : List Char},
    (∀ indent ∈ indents.head?, indent ≤ column) → Follows column text →
      Leads (Stand.line tokens indents (writeEntries column entries ++ text))
        (Stand.line (tokens ++ Layout.opening indents column .blockMappingStart ++
          entriesTokens entries) (Layout.opened indents column) text)

section Open

variable {indents : List Nat} {column : Nat} (token : Token)

/-- Where a collection is open none is opened. -/
theorem opening_again (outer : List Nat) :
    Layout.opening (column :: outer) column token = [] ∧
      Layout.opened (column :: outer) column = column :: outer := by
  simp [Layout.opening, Layout.opened]

/-- A deeper collection is opened. -/
theorem opening_deeper {indent : Nat} (inner : indent < column) (outer : List Nat) :
    Layout.opening (indent :: outer) column token = [token] ∧
      Layout.opened (indent :: outer) column = column :: indent :: outer := by
  have deeper : ¬column ≤ indent := Nat.not_le.mpr inner
  simp [Layout.opening, Layout.opened, deeper]

/-- One is open at the column then. -/
theorem opened_eq (deep : ∀ indent ∈ indents.head?, indent ≤ column) :
    ∃ outer, Layout.opened indents column = column :: outer := by
  unfold Layout.opened
  split
  · next shallow =>
    cases indents with
    | nil => exact nomatch shallow
    | cons indent outer =>
      have most := deep indent rfl
      have least : column ≤ indent := by simpa using shallow
      exact ⟨outer, by rw [Nat.le_antisymm most least]⟩
  · exact ⟨indents, rfl⟩

end Open

section Rest

variable {tokens : List Token} {column : Nat} (outer : List Nat) {text : List Char}

/-- Items of a list that is open. -/
theorem ItemsLead.rest {items : List Value} (leads : items ≠ [] → ItemsLead items)
    (follows : Follows column text) :
    Leads (Stand.line tokens (column :: outer) (writeItems column items ++ text))
      (Stand.line (tokens ++ itemsTokens items) (column :: outer) text) := by
  cases items with
  | nil => simpa [writeItems, itemsTokens] using Leads.refl _
  | cons item rest =>
    have further : Leads (Stand.line tokens (column :: outer) _) _ :=
      (leads (List.cons_ne_nil _ _)).law
        (fun indent head => Nat.le_of_eq (Option.some.inj head).symm) follows
    obtain ⟨none', same⟩ := opening_again .blockSequenceStart outer
    rwa [none', same, List.append_nil] at further

/-- Entries of a record that is open. -/
theorem EntriesLead.rest {entries : List (String × Value)}
    (leads : entries ≠ [] → EntriesLead entries) (follows : Follows column text) :
    Leads (Stand.line tokens (column :: outer) (writeEntries column entries ++ text))
      (Stand.line (tokens ++ entriesTokens entries) (column :: outer) text) := by
  cases entries with
  | nil => simpa [writeEntries, entriesTokens] using Leads.refl _
  | cons entry rest =>
    have further : Leads (Stand.line tokens (column :: outer) _) _ :=
      (leads (List.cons_ne_nil _ _)).law
        (fun indent head => Nat.le_of_eq (Option.some.inj head).symm) follows
    obtain ⟨none', same⟩ := opening_again .blockMappingStart outer
    rwa [none', same, List.append_nil] at further

end Rest

/-- An item and those after it. -/
theorem itemsLead_cons {item : Value} {rest : List Value} (printed : Printed item.numbers)
    (leads : ValueLeads item) (others : rest ≠ [] → ItemsLead rest) :
    ItemsLead (item :: rest) := by
  refine ⟨fun {tokens indents column text} deep follows => ?_⟩
  obtain ⟨outer, opens⟩ := opened_eq deep
  have written : writeItems column (item :: rest) ++ text = spaces column ++
      '-' :: ' ' :: (item.inline column ++ (writeItems column rest ++ text)) := by
    rw [writeItems_cons, writeItem_eq]
    simp
  have all : tokens ++ Layout.opening indents column .blockSequenceStart ++
        itemsTokens (item :: rest) =
      tokens ++ Layout.opening indents column .blockSequenceStart ++ [.blockEntry] ++
        item.tokens false ++ itemsTokens rest := by
    simp [itemsTokens]
  rw [written, Stand.line_spaces _ _ _ (by simp), all, opens]
  refine Leads.trans ?_ (ItemsLead.rest outer others follows)
  refine Leads.trans ?_ (leads.law (follows_writeItems follows rest))
  rw [← opens]
  exact Leads.dash deep (fronts_inline column printed _)

/-- A list that is the value of a key is loose unless the key was announced. -/
theorem underLeads_list {item : Value} {rest : List Value} (leads : ItemsLead (item :: rest))
    {tokens : List Token} {indent : Nat} (outer : List Nat) {text : List Char}
    (follows : Follows indent text) :
    Leads (Stand.line tokens (indent :: outer) (writeItems indent (item :: rest) ++ text))
      (Stand.line (tokens ++ (Value.list (item :: rest)).tokens true) (indent :: outer) text) := by
  have all : (Value.list (item :: rest)).tokens true = itemsTokens (item :: rest) := by
    simp [Value.tokens]
  rw [all]
  exact ItemsLead.rest outer (fun _ => leads) follows

/-- A record under a key stands deeper than the key. -/
theorem underLeads_record {key : String} {value : Value} {rest : List (String × Value)}
    (leads : EntriesLead ((key, value) :: rest)) {tokens : List Token} {indent : Nat}
    (outer : List Nat) {text : List Char} (follows : Follows indent text) (loose : Bool) :
    Leads (Stand.line tokens (indent :: outer)
        (writeEntries (indent + step) ((key, value) :: rest) ++ text))
      (Stand.line (tokens ++ (Value.record ((key, value) :: rest)).tokens loose) (indent :: outer)
        text) := by
  have inner : indent < indent + step := Nat.lt_add_of_pos_right (by decide)
  have below : ∀ other ∈ (indent :: outer).head?, other ≤ indent + step := fun other head =>
    Option.some.inj head ▸ Nat.le_of_lt inner
  have further : Leads (Stand.line tokens _ _) _ :=
    leads.law below (follows.mono (Nat.le_of_lt inner))
  obtain ⟨opens, opened⟩ := opening_deeper .blockMappingStart inner outer
  rw [opens, opened] at further
  refine further.trans ((Leads.close follows inner _).trans ?_)
  have all : tokens ++ (Value.record ((key, value) :: rest)).tokens loose =
      tokens ++ [.blockMappingStart] ++ entriesTokens ((key, value) :: rest) ++ [.blockEnd] := by
    simp [Value.tokens]
  rw [all]
  exact Leads.refl _

/-- A list in a list, or under a key that was announced. -/
theorem valueLeads_list {item : Value} {rest : List Value} (leads : ItemsLead (item :: rest)) :
    ValueLeads (.list (item :: rest)) := by
  refine ⟨fun {tokens indent outer text} follows => ?_⟩
  have inner : indent < indent + step := Nat.lt_add_of_pos_right (by decide)
  have start : Stand.line tokens (indent :: outer)
        (writeItems (indent + step) (item :: rest) ++ text) =
      ⟨tokens, indent :: outer, true, indent + step,
        (Value.list (item :: rest)).inline indent ++ text⟩ := by
    rw [writeItems_cons, List.append_assoc, inline_list]
    exact Stand.line_spaces _ _ _ (by simp)
  have below : ∀ other ∈ (indent :: outer).head?, other ≤ indent + step := fun other head =>
    Option.some.inj head ▸ Nat.le_of_lt inner
  have further : Leads (Stand.line tokens _ _) _ :=
    leads.law below (follows.mono (Nat.le_of_lt inner))
  obtain ⟨opens, opened⟩ := opening_deeper .blockSequenceStart inner outer
  rw [start, opens, opened] at further
  refine further.trans ((Leads.close follows inner _).trans ?_)
  have all : (Value.list (item :: rest)).tokens false =
      [.blockSequenceStart] ++ itemsTokens (item :: rest) ++ [.blockEnd] := by
    simp [Value.tokens]
  rw [all]
  simpa using Leads.refl _

/-- A record in a list, or under a key that was announced. -/
theorem valueLeads_record {key : String} {value : Value} {rest : List (String × Value)}
    (leads : EntriesLead ((key, value) :: rest)) : ValueLeads (.record ((key, value) :: rest)) := by
  refine ⟨fun {tokens indent outer text} follows => ?_⟩
  have inner : indent < indent + step := Nat.lt_add_of_pos_right (by decide)
  have start : Stand.line tokens (indent :: outer)
      (writeEntries (indent + step) ((key, value) :: rest) ++ text) =
        ⟨tokens, indent :: outer, true, indent + step,
          (Value.record ((key, value) :: rest)).inline indent ++ text⟩ := by
    rw [writeEntries_cons, List.append_assoc, inline_record]
    refine Stand.line_spaces _ _ _ (head?_ne_space ?_)
    rw [List.append_assoc]
    exact (fronts_entryChars _ _ _ _).solid
  rw [← start]
  exact underLeads_record leads outer follows false

section Entry

variable {key : String} {value : Value} {tokens : List Token} {indents : List Nat} {column : Nat}
  {outer : List Nat} {text : List Char}

/-- A key that is announced, and its value. -/
theorem announcedLeads (announced : isAnnounced key = true) (printed : Printed value.numbers)
    (leads : ValueLeads value) (deep : ∀ indent ∈ indents.head?, indent ≤ column)
    (opens : Layout.opened indents column = column :: outer) (follows : Follows column text) :
    Leads ⟨tokens, indents, true, column, entryChars column key value ++ text⟩
      (Stand.line (tokens ++ Layout.opening indents column .blockMappingStart ++
        [.key, scalarOf key.toList, .value] ++ value.tokens false) (column :: outer) text) := by
  have written : entryChars column key value ++ text =
      '?' :: ' ' :: (endLine (writeScalar (column + step) key.toList) ++
        (spaces column ++ ':' :: ' ' :: (value.inline column ++ text))) := by
    rw [entryChars, announced, writeUnder_announced]
    simp
  have inner : column < column + step := Nat.lt_add_of_pos_right (by decide)
  have colon : Fronts (':' :: ' ' :: (value.inline column ++ text)) := by
    intro c head
    cases head
    decide
  have all : tokens ++ Layout.opening indents column .blockMappingStart ++
      [.key, scalarOf key.toList, .value] ++ value.tokens false =
        tokens ++ Layout.opening indents column .blockMappingStart ++ [.key] ++
          [scalarOf key.toList] ++ [.value] ++ value.tokens false := by
    simp
  rw [written, all]
  refine (Leads.question deep (fronts_endLine _ _ _)).trans ?_
  rw [opens]
  refine (Leads.scalar key.toList inner (Nat.le_refl column) colon).trans ?_
  exact (Leads.colon (fronts_inline column printed text)).trans (leads.law follows)

/-- A key that is not announced, and its value. -/
theorem shortLeads (short : isAnnounced key = false) (printed : Printed value.numbers)
    (list : ∀ item items, value = .list (item :: items) → ItemsLead (item :: items))
    (record : ∀ entry entries, value = .record (entry :: entries) → EntriesLead (entry :: entries))
    (deep : ∀ indent ∈ indents.head?, indent ≤ column)
    (opens : Layout.opened indents column = column :: outer) (follows : Follows column text) :
    Leads ⟨tokens, indents, true, column, entryChars column key value ++ text⟩
      (Stand.line (tokens ++ Layout.opening indents column .blockMappingStart ++
        [.key, scalarOf key.toList, .value] ++ value.tokens true) (column :: outer) text) := by
  have written : entryChars column key value ++ text =
      writeScalar (column + step) key.toList ++ ':' :: (writeUnder column false value ++ text) := by
    rw [entryChars, short]
    simp
  rw [written, ← opens]
  cases fits : value.fits with
  | true =>
    have after : writeUnder column false value ++ text =
        spaces 1 ++ (value.inline column ++ text) := by
      rw [writeUnder_fits column fits]
      rfl
    rw [after]
    refine (Leads.scalarKey short rfl deep
      (.within false _ 1 (fronts_inline column printed text))).trans ?_
    rw [opens]
    refine Leads.fitting fits printed ?_ follows true
    omega
  | false =>
    match value, fits with
    | .list (item :: items), _ =>
      refine (Leads.keyLine short deep (follows_writeItems follows (item :: items))).trans ?_
      rw [opens]
      exact underLeads_list (list item items rfl) outer follows
    | .record ((name, inner) :: entries), _ =>
      have deeper := follows.mono (Nat.le_add_right column step)
      refine (Leads.keyLine short deep
        (follows_writeEntries deeper ((name, inner) :: entries))).trans ?_
      rw [opens]
      exact underLeads_record (record (name, inner) entries rfl) outer follows true

end Entry

/-- An entry and those after it. -/
theorem entriesLead_cons {key : String} {value : Value} {rest : List (String × Value)}
    (printed : Printed value.numbers) (leads : ValueLeads value)
    (list : ∀ item items, value = .list (item :: items) → ItemsLead (item :: items))
    (record : ∀ entry entries, value = .record (entry :: entries) → EntriesLead (entry :: entries))
    (others : rest ≠ [] → EntriesLead rest) : EntriesLead ((key, value) :: rest) := by
  refine ⟨fun {tokens indents column text} deep follows => ?_⟩
  obtain ⟨outer, opens⟩ := opened_eq deep
  have after := follows_writeEntries follows rest
  have written : writeEntries column ((key, value) :: rest) ++ text = spaces column ++
      (entryChars column key value ++ (writeEntries column rest ++ text)) := by
    rw [writeEntries_cons]
    simp
  have all : tokens ++ Layout.opening indents column .blockMappingStart ++
      entriesTokens ((key, value) :: rest) =
        tokens ++ Layout.opening indents column .blockMappingStart ++
          [.key, scalarOf key.toList, .value] ++ value.tokens (!isAnnounced key) ++
            entriesTokens rest := by
    simp [entriesTokens]
  rw [written, Stand.line_spaces _ _ _ (head?_ne_space (fronts_entryChars _ _ _ _).solid), all,
    opens]
  refine Leads.trans ?_ (EntriesLead.rest outer others follows)
  cases announced : isAnnounced key with
  | true => exact announcedLeads announced printed leads deep opens after
  | false => exact shortLeads announced printed list record deep opens after

mutual

/-- Reading any value leads to the line after it. -/
theorem valueLeads (value : Value) (printed : Printed value.numbers) : ValueLeads value := by
  have deep (indent : Nat) : indent < indent + step := Nat.lt_add_of_pos_right (by decide)
  match value, printed with
  | .text text, printed => exact ⟨fun follows => Leads.fitting rfl printed (deep _) follows false⟩
  | .number number, printed =>
    exact ⟨fun follows => Leads.fitting rfl printed (deep _) follows false⟩
  | .list [], printed => exact ⟨fun follows => Leads.fitting rfl printed (deep _) follows false⟩
  | .list (item :: rest), printed =>
    exact valueLeads_list (itemsLead (item :: rest) printed (List.cons_ne_nil item rest))
  | .record [], printed => exact ⟨fun follows => Leads.fitting rfl printed (deep _) follows false⟩
  | .record ((key, value) :: rest), printed =>
    exact valueLeads_record (entriesLead ((key, value) :: rest) printed (List.cons_ne_nil _ rest))

/-- Reading items leads to the line after them. -/
theorem itemsLead (items : List Value) (printed : Printed (itemsNumbers items))
    (filled : items ≠ []) : ItemsLead items := by
  match items, printed with
  | [], _ => exact absurd rfl filled
  | item :: rest, printed =>
    have split : Printed (item.numbers ++ itemsNumbers rest) := by
      simpa [itemsNumbers] using printed
    exact itemsLead_cons split.of_append.1 (valueLeads item split.of_append.1)
      (itemsLead rest split.of_append.2)

/-- Reading entries leads to the line after them. -/
theorem entriesLead (entries : List (String × Value)) (printed : Printed (entriesNumbers entries))
    (filled : entries ≠ []) : EntriesLead entries := by
  match entries, printed with
  | [], _ => exact absurd rfl filled
  | (key, value) :: rest, printed =>
    have split : Printed (value.numbers ++ entriesNumbers rest) := by
      simpa [entriesNumbers] using printed
    refine entriesLead_cons split.of_append.1 (valueLeads value split.of_append.1) ?_ ?_
      (entriesLead rest split.of_append.2)
    · intro item items same
      subst same
      exact itemsLead (item :: items) split.of_append.1 (List.cons_ne_nil item items)
    · intro entry more same
      subst same
      exact entriesLead (entry :: more) split.of_append.1 (List.cons_ne_nil entry more)

end

section Shown

theorem Shown.cons {c : Char} (first : isPrintable c = true) {text : List Char}
    (shown : Shown text) : Shown (c :: text) := by
  intro other member
  rcases List.mem_cons.mp member with rfl | later
  · exact first
  · exact shown other later

theorem shown_endLine {chars : List Char} (shown : Shown chars) : Shown (endLine chars) := by
  unfold endLine
  split
  · exact shown
  · exact shown.append (Shown.cons (by decide) nofun)

/-- What is written for an entry is shown if what is written for its value is. -/
theorem shown_entryChars (indent : Nat) (key : String) {value : Value}
    (under : ∀ announced, Shown (writeUnder indent announced value)) :
    Shown (entryChars indent key value) := by
  have colon : Shown [':'] := Shown.cons (by decide) nofun
  have written := shown_writeScalar (indent + step) key.toList
  unfold entryChars
  split
  · exact ((Shown.cons (by decide) (Shown.cons (by decide) (shown_endLine written))).append
      (shown_spaces indent)).append colon |>.append (under _)
  · exact (written.append colon).append (under _)

/-- What is written for a value that fits on the line of its key is shown. -/
theorem shown_fitting {value : Value} (fits : value.fits = true) (printed : Printed value.numbers)
    (indent : Nat) (announced : Bool) : Shown (writeUnder indent announced value) := by
  have start : writeUnder indent announced value = ' ' :: value.inline indent := by
    cases announced with
    | false => exact writeUnder_fits indent fits
    | true => exact writeUnder_announced indent value
  rw [start]
  refine Shown.cons (by decide) ?_
  match value, fits with
  | .text value, _ => exact shown_endLine (shown_writeScalar (indent + step) value.toList)
  | .number value, _ =>
    exact (printed value List.mem_cons_self).shown.append (Shown.cons (by decide) nofun)
  | .list [], _ =>
    rw [inline_empty_list]
    exact List.all_eq_true.mp (by decide)
  | .record [], _ =>
    rw [inline_empty_record]
    exact List.all_eq_true.mp (by decide)

mutual

/-- What is written for a value after its key is shown. -/
theorem shown_writeUnder (value : Value) (printed : Printed value.numbers) (indent : Nat)
    (announced : Bool) : Shown (writeUnder indent announced value) := by
  match value, printed with
  | .text text, printed => exact shown_fitting rfl printed indent announced
  | .number number, printed => exact shown_fitting rfl printed indent announced
  | .list [], printed => exact shown_fitting rfl printed indent announced
  | .list (item :: rest), printed =>
    have items := shown_writeItems (item :: rest) printed
    cases announced with
    | true => exact Shown.cons (by decide) fun c member => items _ c (List.mem_of_mem_drop member)
    | false => exact Shown.cons (by decide) (items indent)
  | .record [], printed => exact shown_fitting rfl printed indent announced
  | .record (entry :: rest), printed =>
    have entries := shown_writeEntries (entry :: rest) printed (indent + step)
    cases announced with
    | true => exact Shown.cons (by decide) fun c member => entries c (List.mem_of_mem_drop member)
    | false => exact Shown.cons (by decide) entries

/-- What is written for items is shown. -/
theorem shown_writeItems (items : List Value) (printed : Printed (itemsNumbers items))
    (indent : Nat) : Shown (writeItems indent items) := by
  match items, printed with
  | [], _ => exact nofun
  | item :: rest, printed =>
    have split : Printed (item.numbers ++ itemsNumbers rest) := by
      simpa [itemsNumbers] using printed
    have here := shown_writeUnder item split.of_append.1 indent true
    rw [writeUnder_announced, ← writeItem_eq] at here
    rw [writeItems_cons]
    exact (shown_spaces indent).append
      (Shown.cons (by decide) (here.append (shown_writeItems rest split.of_append.2 indent)))

/-- What is written for entries is shown. -/
theorem shown_writeEntries (entries : List (String × Value))
    (printed : Printed (entriesNumbers entries)) (indent : Nat) :
    Shown (writeEntries indent entries) := by
  match entries, printed with
  | [], _ => exact nofun
  | (key, value) :: rest, printed =>
    have split : Printed (value.numbers ++ entriesNumbers rest) := by
      simpa [entriesNumbers] using printed
    rw [writeEntries_cons]
    exact (shown_spaces indent).append ((shown_entryChars indent key
      (shown_writeUnder value split.of_append.1 indent)).append
        (shown_writeEntries rest split.of_append.2 indent))

end

end Shown

/-- The tokens of a document. -/
theorem tokens_writeDocument {entries : List (String × Value)} (filled : entries ≠ [])
    (printed : Printed (entriesNumbers entries)) :
    tokens (writeDocument entries) =
      .blockMappingStart :: entriesTokens entries ++ [.blockEnd, .streamEnd] := by
  have chars : (writeDocument entries).toList = writeEntries 0 entries := by
    cases entries with
    | nil => exact absurd rfl filled
    | cons entry rest => exact String.toList_ofList
  have follows : Follows 0 [] := ⟨0, [], Nat.le_refl 0, nofun, rfl⟩
  obtain ⟨next, front, shallow, fronts, start⟩ := follows_writeEntries follows entries
  have first : next = 0 := Nat.le_zero.mp shallow
  rw [List.append_nil, first] at start
  have leads : Leads (Stand.line [] [] (writeEntries 0 entries ++ [])) _ :=
    (entriesLead entries printed filled).law nofun follows
  rw [List.append_nil, start, Stand.line_spaces _ _ _ (head?_ne_space fronts.solid)] at leads
  have shown := shown_writeEntries entries printed 0
  rw [← chars] at shown start
  have whole : (writeDocument entries).toList = front := start
  rw [← whole] at leads fronts
  have read := tokens_of_leads shown fronts leads
    (fun indent head => Nat.le_of_eq (Option.some.inj head).symm)
  rw [read]
  simp [Layout.opening, Layout.opened]

end Flowdesk.Yaml
