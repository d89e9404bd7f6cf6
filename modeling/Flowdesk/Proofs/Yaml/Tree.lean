import Flowdesk.Proofs.Yaml.Stream
import Flowdesk.Yaml.Compose

/-!
# The tree of a value

The tokens of a value are composed to the node that has its shape: scalars in the style in
which they were written, sequences and mappings without tags or anchors. Composing is
bounded by a number of steps; four for each token are enough.
-/

namespace Flowdesk.Yaml

mutual

/-- The node of a value. -/
def Value.node : Value → Node
  | .text value => .scalar none (formOf value.toList).style value.toList
  | .number value => .scalar none .plain (writeNumber value)
  | .list items => .sequence none (itemsNodes items)
  | .record entries => .mapping none (entriesNodes entries)

/-- The nodes of entries. -/
def entriesNodes : List (String × Value) → List (Node × Node)
  | [] => []
  | (key, value) :: rest =>
      (.scalar none (formOf key.toList).style key.toList, value.node) :: entriesNodes rest

/-- The nodes of items. -/
def itemsNodes : List Value → List Node
  | [] => []
  | item :: rest => item.node :: itemsNodes rest

end

namespace Composer

/-- The state with other tokens left. -/
def left (state : Composer) (tokens : List Token) : Composer := { state with tokens }

@[simp] theorem peek_left (state : Composer) (token : Token) (tokens : List Token) :
    (state.left (token :: tokens)).peek = token := rfl

@[simp] theorem advance_left (state : Composer) (token : Token) (tokens : List Token) :
    (state.left (token :: tokens)).advance = state.left tokens := rfl

section Node

variable (state : Composer) (fuel : Nat) (position : Position) (rest : List Token)

theorem node_scalar (style : Style) (text : List Char) :
    node (fuel + 1) position (state.left (.scalar style text :: rest)) =
      (state.left rest).done (.scalar none style text) := rfl

theorem node_flowSequence :
    node (fuel + 3) position (state.left (.flowSequenceStart :: .flowSequenceEnd :: rest)) =
      (state.left rest).done (.sequence none []) := rfl

theorem node_flowMapping :
    node (fuel + 3) position (state.left (.flowMappingStart :: .flowMappingEnd :: rest)) =
      (state.left rest).done (.mapping none []) := rfl

/-- Where a block collection may start. -/
theorem node_blockSequence (outside : position ≠ .flow) :
    node (fuel + 2) position (state.left (.blockSequenceStart :: rest)) =
      { blockItems fuel (state.left rest) with
        part := .sequence none (blockItems fuel (state.left rest)).part } := by
  cases position with
  | flow => exact absurd rfl outside
  | block => rfl
  | pair => rfl

theorem node_blockMapping (outside : position ≠ .flow) :
    node (fuel + 2) position (state.left (.blockMappingStart :: rest)) =
      { blockEntries fuel (state.left rest) with
        part := .mapping none (blockEntries fuel (state.left rest)).part } := by
  cases position with
  | flow => exact absurd rfl outside
  | block => rfl
  | pair => rfl

theorem node_looseSequence :
    node (fuel + 2) .pair (state.left (.blockEntry :: rest)) =
      { looseItems fuel (state.left (.blockEntry :: rest)) with
        part := .sequence none (looseItems fuel (state.left (.blockEntry :: rest))).part } := rfl

end Node

section Step

variable {state : Composer} {fuel : Nat} {tokens rest : List Token}

/-- An item after its dash. -/
theorem blockItems_entry {item : Node} {token : Token} (start : tokens.headD .fault = token)
    (goesOn : endsItem token = false)
    (here : node fuel .block (state.left tokens) = (state.left rest).done item) :
    blockItems (fuel + 1) (state.left (.blockEntry :: tokens)) =
      { blockItems fuel (state.left rest) with
        part := item :: (blockItems fuel (state.left rest)).part } := by
  subst start
  have peek : endsItem (state.left tokens).peek = false := goesOn
  simp only [blockItems, peek_left, advance_left, peek, here]
  rfl

/-- An item of a loose list. -/
theorem looseItems_entry {item : Node} {token : Token} (start : tokens.headD .fault = token)
    (goesOn : endsLooseItem token = false)
    (here : node fuel .block (state.left tokens) = (state.left rest).done item) :
    looseItems (fuel + 1) (state.left (.blockEntry :: tokens)) =
      { looseItems fuel (state.left rest) with
        part := item :: (looseItems fuel (state.left rest)).part } := by
  subst start
  have peek : endsLooseItem (state.left tokens).peek = false := goesOn
  simp only [looseItems, peek_left, advance_left, peek, here]
  rfl

/-- An entry: a scalar as its key, and a value. -/
theorem blockEntries_entry {style : Style} {text : List Char} {value : Node} {token : Token}
    (start : tokens.headD .fault = token) (goesOn : endsPair token = false)
    (here : node fuel .pair (state.left tokens) = (state.left rest).done value) :
    blockEntries (fuel + 2) (state.left (.key :: .scalar style text :: .value :: tokens)) =
      { blockEntries (fuel + 1) (state.left rest) with
        part := (.scalar none style text, value) ::
          (blockEntries (fuel + 1) (state.left rest)).part } := by
  subst start
  have peek : endsPair (state.left tokens).peek = false := goesOn
  have under : blockValue (fuel + 1) (state.left (.value :: tokens)) =
      (state.left rest).done value := by
    simp only [blockValue, peek_left, advance_left, peek, here]
    rfl
  have key : node (fuel + 1) .pair (state.left (.scalar style text :: .value :: tokens)) =
      (state.left (.value :: tokens)).done (.scalar none style text) :=
    node_scalar state fuel .pair _ style text
  rw [blockEntries]
  simp only [peek_left, advance_left, endsPair, Bool.false_eq_true, if_false, key]
  simp only [done, under, Bool.false_eq_true, if_false]

end Step

/-- What the first token of a value is not. -/
theorem tokens_start (value : Value) (loose : Bool) : ∃ token rest,
    value.tokens loose = token :: rest ∧ isBare token = false ∧ endsPair token = false ∧
      (loose = false → endsItem token = false ∧ endsLooseItem token = false) := by
  match value with
  | .text _ => exact ⟨_, _, by rw [Value.tokens], rfl, rfl, fun _ => ⟨rfl, rfl⟩⟩
  | .number _ => exact ⟨_, _, by rw [Value.tokens], rfl, rfl, fun _ => ⟨rfl, rfl⟩⟩
  | .list [] => exact ⟨_, _, by rw [Value.tokens], rfl, rfl, fun _ => ⟨rfl, rfl⟩⟩
  | .list (item :: rest) =>
    cases loose with
    | false => exact ⟨_, _, by rw [Value.tokens]; rfl, rfl, rfl, fun _ => ⟨rfl, rfl⟩⟩
    | true =>
      exact ⟨_, _, by rw [Value.tokens, itemsTokens]; rfl, rfl, rfl, fun not => by cases not⟩
  | .record [] => exact ⟨_, _, by rw [Value.tokens], rfl, rfl, fun _ => ⟨rfl, rfl⟩⟩
  | .record (entry :: rest) =>
    exact ⟨_, _, by rw [Value.tokens]; rfl, rfl, rfl, fun _ => ⟨rfl, rfl⟩⟩

/-- A token that ends a loose list. -/
def EndsLoose (tokens : List Token) : Prop :=
  tokens.headD .fault ≠ .blockEntry ∧ tokens.headD .fault ≠ .fault

/-- Whether the tokens of a value are composed to its node. -/
structure ValueComposes (value : Value) : Prop where
  law : ∀ (state : Composer) (rest : List Token) {fuel : Nat} {position : Position},
    position ≠ .flow → 4 * (value.tokens false).length + 3 ≤ fuel →
      node fuel position (state.left (value.tokens false ++ rest)) =
        (state.left rest).done value.node

/-- Whether the tokens of items are composed to their nodes. -/
structure ItemsCompose (items : List Value) : Prop where
  block : ∀ (state : Composer) (rest : List Token) {fuel : Nat},
    4 * (itemsTokens items).length + 1 ≤ fuel →
      blockItems fuel (state.left (itemsTokens items ++ .blockEnd :: rest)) =
        (state.left rest).done (itemsNodes items)
  loose : ∀ (state : Composer) {rest : List Token} {fuel : Nat}, EndsLoose rest →
    4 * (itemsTokens items).length + 1 ≤ fuel →
      looseItems fuel (state.left (itemsTokens items ++ rest)) =
        (state.left rest).done (itemsNodes items)

/-- Whether the tokens of entries are composed to their nodes. -/
structure EntriesCompose (entries : List (String × Value)) : Prop where
  law : ∀ (state : Composer) (rest : List Token) {fuel : Nat},
    4 * (entriesTokens entries).length + 1 ≤ fuel →
      blockEntries fuel (state.left (entriesTokens entries ++ .blockEnd :: rest)) =
        (state.left rest).done (entriesNodes entries)

/-- No items. -/
theorem itemsCompose_nil : ItemsCompose [] := by
  refine ⟨fun state rest fuel enough => ?_, fun state rest fuel ends enough => ?_⟩
  · obtain ⟨fuel, rfl⟩ := Nat.exists_eq_succ_of_ne_zero (Nat.ne_of_gt enough)
    rfl
  · obtain ⟨fuel, rfl⟩ := Nat.exists_eq_succ_of_ne_zero (Nat.ne_of_gt enough)
    obtain ⟨noEntry, noFault⟩ := ends
    simp only [itemsTokens, List.nil_append, looseItems, itemsNodes]
    split
    · next same => exact absurd same noEntry
    · next same => exact absurd same noFault
    · rfl

/-- An item and those after it. -/
theorem itemsCompose_cons {item : Value} {rest : List Value} (composes : ValueComposes item)
    (others : ItemsCompose rest) : ItemsCompose (item :: rest) := by
  obtain ⟨token, more, start, -, -, goesOn⟩ := tokens_start item false
  have size : (itemsTokens (item :: rest)).length =
      1 + (item.tokens false).length + (itemsTokens rest).length := by
    simp [itemsTokens, Nat.add_comm, Nat.add_left_comm]
  have first : ∀ after : List Token, (item.tokens false ++ after).headD .fault = token := by
    intro after
    rw [start]
    rfl
  have written : ∀ after : List Token, itemsTokens (item :: rest) ++ after =
      .blockEntry :: (item.tokens false ++ (itemsTokens rest ++ after)) := by
    intro after
    simp [itemsTokens]
  refine ⟨fun state after fuel enough => ?_, fun state after fuel ends enough => ?_⟩
  · obtain ⟨fuel, rfl⟩ : ∃ further, fuel = further + 1 :=
      Nat.exists_eq_succ_of_ne_zero (by omega)
    have here : node fuel .block _ = _ :=
      composes.law state (itemsTokens rest ++ .blockEnd :: after) (by decide) (by omega)
    rw [written, blockItems_entry (first _) (goesOn rfl).1 here,
      others.block state after (by omega)]
    simp [done, itemsNodes]
  · obtain ⟨fuel, rfl⟩ : ∃ further, fuel = further + 1 :=
      Nat.exists_eq_succ_of_ne_zero (by omega)
    have here : node fuel .block _ = _ :=
      composes.law state (itemsTokens rest ++ after) (by decide) (by omega)
    rw [written, looseItems_entry (first _) (goesOn rfl).2 here,
      others.loose state ends (by omega)]
    simp [done, itemsNodes]

/-- A list. -/
theorem valueComposes_list {item : Value} {rest : List Value}
    (composes : ItemsCompose (item :: rest)) : ValueComposes (.list (item :: rest)) := by
  refine ⟨fun state after fuel position outside enough => ?_⟩
  have written : (Value.list (item :: rest)).tokens false =
      .blockSequenceStart :: itemsTokens (item :: rest) ++ [.blockEnd] := by
    rw [Value.tokens]
    rfl
  have size : ((Value.list (item :: rest)).tokens false).length =
      (itemsTokens (item :: rest)).length + 2 := by
    simp [written]
  obtain ⟨fuel, rfl⟩ : ∃ further, fuel = further + 2 := ⟨fuel - 2, by omega⟩
  rw [written, List.append_assoc, List.cons_append, node_blockSequence _ _ _ _ outside,
    List.singleton_append, composes.block state after (by omega)]
  rfl

/-- A record. -/
theorem valueComposes_record {entry : String × Value} {rest : List (String × Value)}
    (composes : EntriesCompose (entry :: rest)) : ValueComposes (.record (entry :: rest)) := by
  refine ⟨fun state after fuel position outside enough => ?_⟩
  have written : (Value.record (entry :: rest)).tokens false =
      .blockMappingStart :: entriesTokens (entry :: rest) ++ [.blockEnd] := by
    rw [Value.tokens]
  have size : ((Value.record (entry :: rest)).tokens false).length =
      (entriesTokens (entry :: rest)).length + 2 := by
    simp [written]
  obtain ⟨fuel, rfl⟩ : ∃ further, fuel = further + 2 := ⟨fuel - 2, by omega⟩
  rw [written, List.append_assoc, List.cons_append, node_blockMapping _ _ _ _ outside,
    List.singleton_append, composes.law state after (by omega)]
  rfl

/-- A value after its key, which may be a loose list. -/
theorem node_under {value : Value} (composes : ValueComposes value)
    (list : ∀ item items, value = .list (item :: items) → ItemsCompose (item :: items))
    (loose : Bool) (state : Composer) {rest : List Token} {fuel : Nat} (ends : EndsLoose rest)
    (enough : 4 * (value.tokens loose).length + 3 ≤ fuel) :
    node fuel .pair (state.left (value.tokens loose ++ rest)) =
      (state.left rest).done value.node := by
  cases loose with
  | false => exact composes.law state rest nofun enough
  | true =>
    match value, composes, enough with
    | .text _, composes, enough => exact composes.law state rest nofun enough
    | .number _, composes, enough => exact composes.law state rest nofun enough
    | .list [], composes, enough => exact composes.law state rest nofun enough
    | .record [], composes, enough => exact composes.law state rest nofun enough
    | .record (_ :: _), composes, enough => exact composes.law state rest nofun enough
    | .list (item :: items), _, enough =>
      have written : (Value.list (item :: items)).tokens true = itemsTokens (item :: items) := by
        rw [Value.tokens]
        rfl
      obtain ⟨fuel, rfl⟩ : ∃ further, fuel = further + 2 := ⟨fuel - 2, by omega⟩
      rw [written] at enough ⊢
      have start : itemsTokens (item :: items) ++ rest =
          .blockEntry :: (item.tokens false ++ itemsTokens items ++ rest) := by
        rw [itemsTokens]
        rfl
      have items' := (list item items rfl).loose state ends (by omega : _ ≤ fuel)
      rw [start] at items' ⊢
      rw [node_looseSequence, items']
      rfl

/-- No entries. -/
theorem entriesCompose_nil : EntriesCompose [] := by
  refine ⟨fun state rest fuel enough => ?_⟩
  obtain ⟨fuel, rfl⟩ := Nat.exists_eq_succ_of_ne_zero (Nat.ne_of_gt enough)
  rfl

/-- An entry and those after it. -/
theorem entriesCompose_cons {key : String} {value : Value} {rest : List (String × Value)}
    (composes : ValueComposes value)
    (list : ∀ item items, value = .list (item :: items) → ItemsCompose (item :: items))
    (others : EntriesCompose rest) : EntriesCompose ((key, value) :: rest) := by
  obtain ⟨token, more, start, -, goesOn, -⟩ := tokens_start value (!isAnnounced key)
  have size : (entriesTokens ((key, value) :: rest)).length =
      3 + (value.tokens (!isAnnounced key)).length + (entriesTokens rest).length := by
    rw [entriesTokens]
    simp only [List.length_append, List.length_cons, List.length_nil]
  refine ⟨fun state after fuel enough => ?_⟩
  obtain ⟨fuel, rfl⟩ : ∃ further, fuel = further + 2 := ⟨fuel - 2, by omega⟩
  have written : entriesTokens ((key, value) :: rest) ++ .blockEnd :: after =
      .key :: scalarOf key.toList :: .value :: (value.tokens (!isAnnounced key) ++
        (entriesTokens rest ++ .blockEnd :: after)) := by
    simp [entriesTokens]
  have first : (value.tokens (!isAnnounced key) ++
      (entriesTokens rest ++ .blockEnd :: after)).headD .fault = token := by
    rw [start]
    rfl
  have ends : EndsLoose (entriesTokens rest ++ .blockEnd :: after) := by
    cases rest with
    | nil => exact ⟨by simp [entriesTokens], by simp [entriesTokens]⟩
    | cons entry rest =>
      rw [entriesTokens]
      exact ⟨by simp, by simp⟩
  have under := node_under composes list (!isAnnounced key) state ends (by omega : _ ≤ fuel)
  rw [written, scalarOf, blockEntries_entry first goesOn under, others.law state after (by omega)]
  simp [done, entriesNodes]

mutual

/-- The tokens of any value are composed to its node. -/
theorem valueComposes (value : Value) : ValueComposes value := by
  match value with
  | .text text =>
    refine ⟨fun state rest fuel position _ enough => ?_⟩
    obtain ⟨fuel, rfl⟩ : ∃ further, fuel = further + 1 :=
      Nat.exists_eq_succ_of_ne_zero (by omega)
    exact node_scalar state fuel position rest _ _
  | .number number =>
    refine ⟨fun state rest fuel position _ enough => ?_⟩
    obtain ⟨fuel, rfl⟩ : ∃ further, fuel = further + 1 :=
      Nat.exists_eq_succ_of_ne_zero (by omega)
    exact node_scalar state fuel position rest _ _
  | .list [] =>
    refine ⟨fun state rest fuel position _ enough => ?_⟩
    obtain ⟨fuel, rfl⟩ : ∃ further, fuel = further + 3 := ⟨fuel - 3, by omega⟩
    exact node_flowSequence state fuel position rest
  | .list (item :: rest) => exact valueComposes_list (itemsCompose (item :: rest))
  | .record [] =>
    refine ⟨fun state rest fuel position _ enough => ?_⟩
    obtain ⟨fuel, rfl⟩ : ∃ further, fuel = further + 3 := ⟨fuel - 3, by omega⟩
    exact node_flowMapping state fuel position rest
  | .record (entry :: rest) => exact valueComposes_record (entriesCompose (entry :: rest))

/-- The tokens of items are composed to their nodes. -/
theorem itemsCompose (items : List Value) : ItemsCompose items := by
  match items with
  | [] => exact itemsCompose_nil
  | item :: rest => exact itemsCompose_cons (valueComposes item) (itemsCompose rest)

/-- The tokens of entries are composed to their nodes. -/
theorem entriesCompose (entries : List (String × Value)) : EntriesCompose entries := by
  match entries with
  | [] => exact entriesCompose_nil
  | (key, value) :: rest =>
    refine entriesCompose_cons (valueComposes value) ?_ (entriesCompose rest)
    intro item items same
    subst same
    exact itemsCompose (item :: items)

end

end Composer

/-- The tokens of one value are the tree of its node. -/
theorem compose_tokens {value : Value} {read : List Token}
    (same : read = value.tokens false ++ [.streamEnd]) :
    compose read = ⟨some value.node, [], true⟩ := by
  have root : Composer.node (4 * read.length + 4) .block
      ⟨read, [] ++ usualHandles, [], 0, []⟩ =
        Composer.done ⟨[.streamEnd], usualHandles, [], 0, []⟩ value.node := by
    have size : read.length = (value.tokens false).length + 1 := by simp [same]
    have composed := (Composer.valueComposes value).law ⟨[], usualHandles, [], 0, []⟩ [.streamEnd]
      (nofun : Position.block ≠ .flow) (by omega : _ ≤ 4 * read.length + 4)
    rw [← same] at composed
    exact composed
  obtain ⟨token, more, start, content, -⟩ := Composer.tokens_start value false
  have whole : read = token :: (more ++ [.streamEnd]) := by
    rw [same, start]
    rfl
  have none' : directives? false [] read = some ([], false, read) := by
    rw [whole]
    cases token with
    | versionDirective => exact nomatch content
    | tagDirective => exact nomatch content
    | _ => rfl
  have some' : read.head? ≠ some .streamEnd ∧ read.head? ≠ some .documentStart := by
    rw [whole, List.head?_cons]
    constructor
    · intro head
      cases head
      exact nomatch content
    · intro head
      cases head
      exact nomatch content
  unfold compose
  rw [if_neg some'.1, none']
  simp only [some'.2, decide_false, Bool.false_and, Bool.false_eq_true, if_false]
  rw [root]
  rfl

/-- A document is read to the node of its record, and nothing follows it. -/
theorem read_writeDocument {entries : List (String × Value)}
    (printed : Printed (entriesNumbers entries)) :
    read (writeDocument entries) = ⟨some (Value.record entries).node, [], true⟩ := by
  refine compose_tokens ?_
  match entries, printed with
  | [], _ => decide +kernel
  | entry :: rest, printed =>
    rw [tokens_writeDocument (List.cons_ne_nil entry rest) printed, Value.tokens]
    simp

end Flowdesk.Yaml
