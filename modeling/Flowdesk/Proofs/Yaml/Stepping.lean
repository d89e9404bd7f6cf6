import Flowdesk.Proofs.Yaml.Standing
import Mathlib.Data.List.TakeWhile

/-!
# One token after another

What is written of a value are scalars, dashes, question marks and colons. From where such
a token stands reading leads to where the next one does. A scalar may be a key for as long
as its line lasts: either a colon follows and makes it one, or the line ends.
-/

namespace Flowdesk.Yaml

namespace Layout

section Held

variable (stand : Stand) (index line : Nat) (key? : Option PossibleKey)

theorem push_held (token : Token) :
    (stand.held index line key?).push token =
      Stand.held { stand with tokens := stand.tokens ++ [token] } index line key? := by
  simp [Stand.held, push]

variable {stand}

/-- Moving on within a line. -/
theorem moveTo_held {text rest : List Char} (here : stand.rest = text ++ rest)
    (unbroken : ∀ c ∈ text, isBreak c = false) :
    (stand.held index line key?).moveTo rest =
      Stand.held { stand with column := stand.column + text.length, rest } (index + text.length)
        line key? := by
  simp only [Stand.held, moveTo]
  rw [here, Cursor.moveTo_append, Cursor.consume_unbroken unbroken]

/-- Moving on to a later line. -/
theorem moveTo_held_line {text rest : List Char} {final : Char} {count : Nat}
    (here : stand.rest = text ++ final :: (spaces count ++ rest)) (shown : Shown text)
    (shown' : isPrintable final = true) (ends : isBreak final = true) :
    ∃ index' line', line < line' ∧ (stand.held index line key?).moveTo rest =
      Stand.held { stand with column := count, rest } index' line' key? := by
  obtain ⟨index', line', later, same⟩ :=
    Cursor.consume_break shown shown' ends count index line stand.column
  refine ⟨index', line', later, ?_⟩
  have joins : stand.rest = (text ++ final :: spaces count) ++ rest := by simp [here]
  simp only [Stand.held, moveTo]
  rw [joins, Cursor.moveTo_append, same]

/-- Moving on somewhere. -/
theorem moveTo_held_text {text rest : List Char} (here : stand.rest = text ++ rest)
    (shown : Shown text) :
    ∃ index' line' column', line ≤ line' ∧ (stand.held index line key?).moveTo rest =
      Stand.held { stand with column := column', rest } index' line' key? := by
  obtain ⟨index', line', column', later, same⟩ :=
    Cursor.consume_append shown index line stand.column []
  rw [List.append_nil] at same
  refine ⟨index', line', column', later, ?_⟩
  simp only [Stand.held, moveTo]
  rw [here, Cursor.moveTo_append, same]
  rfl

theorem skip_held {c : Char} {rest : List Char} (here : stand.rest = c :: rest)
    (stays : isBreak c = false) :
    (stand.held index line key?).skip 1 =
      Stand.held { stand with column := stand.column + 1, rest } (index + 1) line key? := by
  have unbroken : ∀ other ∈ [c], isBreak other = false := by
    intro other member
    rw [List.mem_singleton.mp member]
    exact stays
  have drop : stand.rest.drop 1 = rest := by rw [here]; rfl
  refine Eq.trans ?_ (moveTo_held index line key? (here : stand.rest = [c] ++ rest) unbroken)
  rw [← drop]
  rfl

/-- What stands deeper than the open collections may be a key, but need not. -/
theorem noteKey_held (deep : ∀ indent ∈ stand.indents.head?, indent < stand.column) :
    ∃ key?, (stand.held index line none).noteKey = some (stand.held index line key?) ∧
      ∀ key ∈ key?, key.required = false ∧ key.line = line := by
  obtain ⟨tokens, indents, allowed, column, rest⟩ := stand
  cases allowed with
  | false => exact ⟨none, rfl, nofun⟩
  | true =>
    refine ⟨some ⟨tokens.length, indents.head? == some column, index, line, column⟩, rfl, ?_⟩
    intro key same
    cases same
    refine ⟨?_, rfl⟩
    rw [beq_eq_false_iff_ne]
    exact fun head => Nat.lt_irrefl column (deep column head)

end Held

section Insertion

variable {tokens later : List Token} {indents : List Nat} {allowed : Bool} {column : Nat}
  {rest : List Char} (index line : Nat) (key? : Option PossibleKey)

/-- A token is put before the last ones. -/
theorem insert_held (token : Token) :
    (Stand.held ⟨tokens ++ later, indents, allowed, column, rest⟩ index line key?).insert
        tokens.length token =
      Stand.held ⟨tokens ++ token :: later, indents, allowed, column, rest⟩ index line key? := by
  have size : (tokens ++ later).length - tokens.length = later.reverse.length := by simp
  simp only [Stand.held, insert, List.reverse_append]
  rw [size, List.take_left, List.drop_left]
  simp [Nat.add_assoc]

/-- The tokens that open a collection, unless one is open at the column. -/
def opening (indents : List Nat) (column : Nat) (token : Token) : List Token :=
  if indents.head?.any (column ≤ ·) then [] else [token]

/-- The open collections once there is one at the column. -/
def opened (indents : List Nat) (column : Nat) : List Nat :=
  if indents.head?.any (column ≤ ·) then indents else column :: indents

theorem openBlock_held (at' : Nat) (token : Token) :
    (Stand.held ⟨tokens ++ later, indents, allowed, column, rest⟩ index line key?).openBlock at'
        tokens.length token =
      Stand.held ⟨tokens ++ opening indents at' token ++ later, opened indents at', allowed, column,
        rest⟩ index line key? := by
  have block : (Stand.held ⟨tokens ++ later, indents, allowed, column, rest⟩ index line
      key?).inFlow = false := rfl
  rw [openBlock, block, Bool.false_or]
  change (if indents.head?.any (at' ≤ ·) then _ else _) = _
  unfold opening opened
  split
  · rw [List.append_nil]
  · rw [insert_held]
    simp [Stand.held]

end Insertion

section Indicator

variable {tokens : List Token} {indents : List Nat} {column : Nat} {rest : List Char}

/-- A mark that stands by itself opens a collection at its column. -/
theorem indicator_held {c : Char} (stays : isBreak c = false) (opens token : Token)
    (index line : Nat) :
    (Stand.held ⟨tokens, indents, true, column, c :: rest⟩ index line none).indicator opens token
        true =
      some (Stand.held ⟨tokens ++ opening indents column opens ++ [token], opened indents column,
        true, column + 1, rest⟩ (index + 1) line none) := by
  have block := @openBlock_held tokens [] indents true column (c :: rest) index line none column
    opens
  rw [List.append_nil, List.append_nil] at block
  change ((((Stand.held ⟨tokens, indents, true, column, c :: rest⟩ index line none).openBlock column
    tokens.length opens).dropKey).bind fun cleared =>
      some ((cleared.allowKey true).push token |>.skip 1)) = _
  rw [block]
  change some (((Stand.held ⟨tokens ++ opening indents column opens, opened indents column, true,
    column, c :: rest⟩ index line none).push token).skip 1) = _
  rw [push_held, skip_held _ _ _ rfl stays]

end Indicator

/-- No plain scalar marks the start or the end of a document. -/
theorem documentMark_append {text after : List Char} (filled : text ≠ [])
    (starts : startsOtherwise text = false) (ends : EndsPlain after) :
    documentMark (text ++ after) = false := by
  have solid : ∀ c ∈ after.head?, c ≠ '-' ∧ c ≠ '.' := by
    intro c head
    rcases ends with gap | ⟨rest, rfl, -⟩
    · cases after with
      | nil => exact nomatch head
      | cons first after =>
        cases head
        constructor
        · rintro rfl
          exact absurd gap (by decide : ¬isGap '-' = true)
        · rintro rfl
          exact absurd gap (by decide : ¬isGap '.' = true)
    · cases head
      decide
  match text, filled, starts with
  | [c], _, starts =>
    cases after with
    | nil => simp [documentMark]
    | cons first after =>
      obtain ⟨dash, dot⟩ := solid first rfl
      simp [documentMark, dash, dot]
  | [c, d], _, starts =>
    cases after with
    | nil => simp [documentMark]
    | cons first after =>
      obtain ⟨dash, dot⟩ := solid first rfl
      simp [documentMark, dash, dot]
  | c :: d :: e :: text, _, starts =>
    unfold documentMark
    split
    · next same =>
      simp only [List.cons_append, List.cons.injEq] at same
      obtain ⟨rfl, rfl, rfl, -⟩ := same
      exact nomatch starts
    · next same =>
      simp only [List.cons_append, List.cons.injEq] at same
      obtain ⟨rfl, rfl, rfl, -⟩ := same
      exact nomatch starts
    · rfl

/-- What a plain text starts with can start a plain scalar. -/
theorem plainStarts_of_plain {c : Char} {text : List Char} (plain : PlainText (c :: text))
    (after : List Char) :
    plainStarts false c (text ++ after) = true ∧
      ∀ d, (d == '?' || d == ':' || d == '-') = true →
        ¬(c = d ∧ gapNext (text ++ after) = true) := by
  obtain ⟨other, mark⟩ := of_startsOtherwise plain.starts
  have solid : isGap c = false := by
    rw [isGap_of_not_break (plain.shown c List.mem_cons_self)
      (plain.unbroken c List.mem_cons_self), beq_eq_false_iff_ne]
    exact fun same => plain.first (congrArg some same)
  have goesOn : (c == '?' || c == ':' || c == '-') = true → gapNext (text ++ after) = false := by
    intro indicator
    rw [indicator, Bool.true_and] at mark
    cases text with
    | nil => exact nomatch mark
    | cons next text => exact mark
  refine ⟨?_, ?_⟩
  · simp only [String.reduceToList, List.contains_eq_mem, List.mem_cons, List.not_mem_nil,
      or_false, Bool.decide_or, Bool.or_eq_false_iff, decide_eq_false_iff_not] at other
    by_cases indicator : (c == '?' || c == ':' || c == '-') = true
    · have gap := goesOn indicator
      have blank : ((text ++ after).head?.any isBlank) = false := by
        cases ahead : text ++ after with
        | nil => rfl
        | cons next more =>
          rw [ahead] at gap
          exact (Bool.or_eq_false_iff.mp gap).1
      simp only [Bool.or_eq_true, beq_iff_eq] at indicator
      rcases indicator with (rfl | rfl) | rfl
      · simp [plainStarts, gap]
      · simp [plainStarts, gap]
      · simp [plainStarts, blank, -List.head?_append]
    · simp only [Bool.or_eq_true, beq_iff_eq, not_or] at indicator
      simp [plainStarts, solid, other, indicator]
  · rintro d indicator ⟨rfl, gap⟩
    rw [goesOn indicator] at gap
    exact nomatch gap

/-- Where a plain text stands a plain scalar is read. -/
theorem takeToken_plain {text after : List Char} (plain : PlainText text) (ends : EndsPlain after)
    {layout : Layout} (block : layout.inFlow = false) (rest : layout.cursor.rest = text ++ after) :
    layout.takeToken = layout.plainScalar := by
  have noMark := documentMark_append plain.filled plain.starts ends
  obtain ⟨c, text, rfl⟩ := List.exists_cons_of_ne_nil plain.filled
  obtain ⟨other, -⟩ := of_startsOtherwise plain.starts
  obtain ⟨starts, noIndicator⟩ := plainStarts_of_plain plain after
  rw [List.cons_append] at rest noMark
  simp only [String.reduceToList, List.contains_eq_mem, List.mem_cons, List.not_mem_nil,
    or_false, Bool.decide_or, Bool.or_eq_false_iff, decide_eq_false_iff_not] at other
  simp [takeToken, rest, tokenAt, noMark, block, starts, other, noIndicator '-' rfl,
    noIndicator '?' rfl, noIndicator ':' rfl]

end Layout

namespace Leads

section Indicator

variable {tokens : List Token} {indents : List Nat} {column : Nat} {front : List Char}

/-- A dash leads to its item. -/
theorem dash (deep : ∀ indent ∈ indents.head?, indent ≤ column) (fronts : Fronts front) :
    Leads ⟨tokens, indents, true, column, '-' :: ' ' :: front⟩
      ⟨tokens ++ Layout.opening indents column .blockSequenceStart ++ [.blockEntry],
        Layout.opened indents column, true, column + 2, front⟩ := by
  refine of_token (by simp only [List.length_cons]; omega) fun index line => ?_
  rw [Stand.closed_of_le deep]
  have noMark : documentMark ('-' :: ' ' :: front) = false := rfl
  refine ⟨_, ?_, Layout.arrives_of_gap (index + 1) line (.within true (column + 1) 1 fronts)⟩
  rw [← Layout.indicator_held (by decide : isBreak '-' = false) _ _ index line]
  simp [Layout.takeToken, Layout.tokenAt, Stand.held, noMark, gapNext, isGap, isBlank, spaces]

/-- A question mark leads to the key that it announces. -/
theorem question (deep : ∀ indent ∈ indents.head?, indent ≤ column) (fronts : Fronts front) :
    Leads ⟨tokens, indents, true, column, '?' :: ' ' :: front⟩
      ⟨tokens ++ Layout.opening indents column .blockMappingStart ++ [.key],
        Layout.opened indents column, true, column + 2, front⟩ := by
  refine of_token (by simp only [List.length_cons]; omega) fun index line => ?_
  rw [Stand.closed_of_le deep]
  have noMark : documentMark ('?' :: ' ' :: front) = false := rfl
  refine ⟨_, ?_, Layout.arrives_of_gap (index + 1) line (.within true (column + 1) 1 fronts)⟩
  rw [← Layout.indicator_held (by decide : isBreak '?' = false) _ _ index line]
  simp [Layout.takeToken, Layout.tokenAt, Stand.held, noMark, gapNext, isGap, isBlank, spaces,
    Layout.inFlow]

end Indicator

section Scalar

variable {tokens : List Token} {indent : Nat} {outer : List Nat} {allowed : Bool}
  {column next : Nat} {front : List Char}

/-- A value that is written plainly leads to the next line. -/
theorem plain {text : List Char} (plain : PlainText text) (deep : indent < column)
    (shallow : next ≤ indent) (fronts : Fronts front) :
    Leads ⟨tokens, indent :: outer, allowed, column, text ++ '\n' :: (spaces next ++ front)⟩
      ⟨tokens ++ [.scalar .plain text], indent :: outer, true, next, front⟩ := by
  refine of_token (by simp only [List.length_append, List.length_cons]; omega) fun index line => ?_
  have below : ∀ other ∈ (indent :: outer).head?, other < column := fun other head =>
    Option.some.inj head ▸ deep
  rw [Stand.closed_of_le fun other head => Nat.le_of_lt (below other head)]
  have leaves := leaves_line (Nat.lt_succ_of_le shallow) fronts.solid
  let stand : Stand :=
    ⟨tokens, indent :: outer, allowed, column, text ++ '\n' :: (spaces next ++ front)⟩
  let further : Stand := { stand with tokens := tokens ++ [.scalar .plain text], allowed := true }
  obtain ⟨key?, noted, optional⟩ : ∃ key?, (stand.held index line none).noteKey =
      some (stand.held index line key?) ∧ _ := Layout.noteKey_held index line below
  obtain ⟨index', line', later, moved⟩ := Layout.moveTo_held_line index line key?
    (rfl : further.rest = _) plain.shown (by decide : isPrintable '\n' = true)
    (by decide : isBreak '\n' = true)
  have read : (stand.held index line none).plainScalar =
      some (Stand.held { further with column := next, rest := front } index' line' key?) := by
    have scalar : plain? (stand.held index line none).inFlow (stand.held index line none).nextIndent
        (stand.held index line none).cursor.rest = some ⟨text, front, true⟩ :=
      plain?_append plain leaves
    rw [Layout.plainScalar, noted, scalar, ← moved]
    exact congrArg (fun layout : Layout => some (layout.moveTo front))
      (Layout.push_held { stand with allowed := true } index line key? _)
  refine ⟨_, (Layout.takeToken_plain plain leaves.1 rfl rfl).trans read, ?_⟩
  exact Layout.arrives_of_passes (.within true next 0 fronts) fun key pending =>
    ⟨(optional key pending).1, (optional key pending).2 ▸ later⟩

/-- A value in a literal block leads to the line after the block. -/
theorem literal {text : List Char} (literal : LiteralText text) (deep : indent < column)
    (shallow : next ≤ indent) (fronts : Fronts front) :
    Leads ⟨tokens, indent :: outer, allowed, column, '|' :: (literalMarks text ++
        '\n' :: (literalChars (indent + step) true text ++
          (literalEnd text ++ (spaces next ++ front))))⟩
      ⟨tokens ++ [.scalar .literal text], indent :: outer, true, next, front⟩ := by
  refine of_token (by simp only [List.length_append, List.length_cons]; omega) fun index line => ?_
  have below : ∀ other ∈ (indent :: outer).head?, other ≤ column := fun other head =>
    Option.some.inj head ▸ Nat.le_of_lt deep
  rw [Stand.closed_of_le below]
  obtain ⟨body, final, joins, shown, shown', ends⟩ := literalChars_end (indent + step) literal
  have written : '|' :: (literalMarks text ++ '\n' :: (literalChars (indent + step) true text ++
      (literalEnd text ++ (spaces next ++ front)))) =
        ('|' :: literalMarks text ++ '\n' :: body) ++ final :: (spaces next ++ front) := by
    have joins' := congrArg (· ++ (spaces next ++ front)) joins
    simp only [List.append_assoc] at joins'
    simp only [joins', List.cons_append, List.append_assoc, List.nil_append]
  have start : Shown ('|' :: literalMarks text ++ '\n' :: body) := by
    intro c member
    rcases List.mem_append.mp member with early | late
    · rcases List.mem_cons.mp early with rfl | mark
      · rfl
      · exact shown_literalMarks text c mark
    · rcases List.mem_cons.mp late with rfl | inner
      · rfl
      · exact shown c inner
  rw [written]
  let stand : Stand := ⟨tokens, indent :: outer, allowed, column,
    ('|' :: literalMarks text ++ '\n' :: body) ++ final :: (spaces next ++ front)⟩
  let further : Stand := { stand with tokens := tokens ++ [.scalar .literal text], allowed := true }
  obtain ⟨index', line', -, moved⟩ := Layout.moveTo_held_line index line none
    (rfl : further.rest = _) start shown' ends
  have read : (stand.held index line none).takeToken =
      some (Stand.held { further with column := next, rest := front } index' line' none) := by
    have outside : next < indent + 2 := Nat.lt_add_right 1 (Nat.lt_succ_of_le shallow)
    have block := block?_literal literal outside fronts.solid
    have block' : block? (Style.literal = .literal) (stand.held index line none).indent?
        stand.rest.tail = some (text, front) := by
      rw [← block]
      exact congrArg (fun chars : List Char => block? true (some indent) chars.tail) written.symm
    have token : (stand.held index line none).takeToken =
        (stand.held index line none).blockScalar .literal stand.rest.tail := by
      simp [Layout.takeToken, Layout.tokenAt, Stand.held, stand, documentMark, Layout.inFlow,
        gapNext]
    rw [token, Layout.blockScalar, block', ← moved]
    exact congrArg (fun layout : Layout => some (layout.moveTo front))
      (Layout.push_held { stand with allowed := true } index line none _)
  exact ⟨_, read, Layout.arrives_of_gap index' line' (.within true next 0 fronts)⟩

/-- A value between quotes leads to the next line. -/
theorem quoted {quote : Char} {style : Style} {written text : List Char}
    {reader : List Char → Option (List Char × List Char)}
    (token : ∀ (layout : Layout) (rest : List Char), layout.tokenAt quote rest =
      layout.keyLike ((reader rest).map fun (text, rest) => (.scalar style text, rest)))
    (shown : Shown (quote :: written)) (deep : indent < column) (fronts : Fronts front)
    (read : reader (written ++ '\n' :: (spaces next ++ front)) =
      some (text, '\n' :: (spaces next ++ front))) :
    Leads ⟨tokens, indent :: outer, allowed, column,
        quote :: written ++ '\n' :: (spaces next ++ front)⟩
      ⟨tokens ++ [.scalar style text], indent :: outer, true, next, front⟩ := by
  refine of_token (by simp only [List.length_append, List.length_cons]; omega) fun index line => ?_
  have below : ∀ other ∈ (indent :: outer).head?, other < column := fun other head =>
    Option.some.inj head ▸ deep
  rw [Stand.closed_of_le fun other head => Nat.le_of_lt (below other head)]
  let stand : Stand := ⟨tokens, indent :: outer, allowed, column,
    quote :: written ++ '\n' :: (spaces next ++ front)⟩
  let further : Stand := { stand with tokens := tokens ++ [.scalar style text], allowed := false }
  obtain ⟨key?, noted, optional⟩ : ∃ key?, (stand.held index line none).noteKey =
      some (stand.held index line key?) ∧ _ := Layout.noteKey_held index line below
  obtain ⟨index', line', column', later, moved⟩ := Layout.moveTo_held_text index line key?
    (rfl : further.rest = _) shown
  have scalar : (stand.held index line none).takeToken = some (Stand.held { further with
      column := column', rest := '\n' :: (spaces next ++ front) } index' line' key?) := by
    change (stand.held index line none).tokenAt quote
      (written ++ '\n' :: (spaces next ++ front)) = _
    rw [token, Layout.keyLike, noted, read, ← moved]
    exact congrArg (fun layout : Layout => some (layout.moveTo ('\n' :: (spaces next ++ front))))
      (Layout.push_held { stand with allowed := false } index line key? _)
  refine ⟨_, scalar, Layout.arrives_of_passes (.line false column' next fronts) ?_⟩
  exact fun key pending => ⟨(optional key pending).1,
    Nat.lt_succ_of_le ((optional key pending).2 ▸ later)⟩

/-- An empty collection leads to the next line. -/
theorem empty {opens closes : Char} {start finish : Token}
    (opening : ∀ (layout : Layout) (rest : List Char),
      layout.tokenAt opens rest = layout.startFlow start)
    (closing : ∀ (layout : Layout) (rest : List Char),
      layout.tokenAt closes rest = layout.endFlow finish)
    (stays : isBreak opens = false) (stays' : isBreak closes = false)
    (fronts' : Fronts (closes :: '\n' :: (spaces next ++ front))) (deep : indent < column)
    (fronts : Fronts front) :
    Leads ⟨tokens, indent :: outer, allowed, column,
        opens :: closes :: '\n' :: (spaces next ++ front)⟩
      ⟨tokens ++ [start, finish], indent :: outer, true, next, front⟩ := by
  refine of_tokens (by simp only [List.length_append, List.length_cons]; omega) fun index line => ?_
  have below : ∀ other ∈ (indent :: outer).head?, other < column := fun other head =>
    Option.some.inj head ▸ deep
  rw [Stand.closed_of_le fun other head => Nat.le_of_lt (below other head)]
  let stand : Stand := ⟨tokens, indent :: outer, allowed, column,
    opens :: closes :: '\n' :: (spaces next ++ front)⟩
  obtain ⟨key?, noted, optional⟩ : ∃ key?, (stand.held index line none).noteKey =
      some (stand.held index line key?) ∧ _ := Layout.noteKey_held index line below
  let inside : Stand := ⟨tokens ++ [start], indent :: outer, true, column + 1,
    closes :: '\n' :: (spaces next ++ front)⟩
  let flow (key? : Option PossibleKey) : Layout :=
    { inside.held (index + 1) line key? with keys := [none, key?] }
  have read : (stand.held index line none).takeToken = some (flow key?) := by
    change (stand.held index line none).tokenAt opens (closes :: '\n' :: (spaces next ++ front)) = _
    have moved : (((stand.held index line key?).allowKey true).push start).skip 1 =
        inside.held (index + 1) line key? :=
      (congrArg (Layout.skip · 1)
        (Layout.push_held { stand with allowed := true } index line key? start)).trans
          (Layout.skip_held index line key? rfl stays)
    rw [opening, Layout.startFlow, noted]
    exact congrArg (fun layout : Layout => some { layout with keys := [none, key?] }) moved
  obtain ⟨left?, fewer, dropped⟩ : ∃ left? : Option PossibleKey, (∀ key ∈ left?, key ∈ key?) ∧
      (flow key?).dropStale = some (flow left?) :=
    Layout.dropStale_flow fun key pending => (optional key pending).1
  obtain ⟨last?, fewer', dropped'⟩ : ∃ last? : Option PossibleKey, (∀ key ∈ last?, key ∈ left?) ∧
      (flow left?).dropStale = some (flow last?) :=
    Layout.dropStale_flow fun key pending => (optional key (fewer key pending)).1
  have settled : (flow left?).settle = some (flow last?) := by
    rw [Layout.settle, Layout.nextPlace_of_fronts fronts', dropped']
    rfl
  have read' : (flow last?).takeToken = some (Stand.held ⟨tokens ++ [start] ++ [finish],
      indent :: outer, false, column + 1 + 1, '\n' :: (spaces next ++ front)⟩ (index + 1 + 1) line
        last?) := by
    change (flow last?).tokenAt closes ('\n' :: (spaces next ++ front)) = _
    rw [closing, Layout.endFlow]
    exact congrArg some ((congrArg (Layout.skip · 1)
      (Layout.push_held { inside with allowed := false } (index + 1) line last? finish)).trans
        (Layout.skip_held (index + 1) line last? rfl stays'))
  refine ⟨_, _, _, _, read, dropped, rfl, settled, read', ?_⟩
  have both : tokens ++ [start, finish] = tokens ++ [start] ++ [finish] := by simp
  rw [both]
  refine Layout.arrives_of_passes (.line false _ next fronts) fun key pending => ?_
  obtain ⟨free, same⟩ := optional key (fewer key (fewer' key pending))
  exact ⟨free, same ▸ Nat.lt_succ_self line⟩

end Scalar

section Key

variable {tokens : List Token} {indents : List Nat} {column : Nat}

/-- A colon by itself leads to the value of the key that was announced. -/
theorem colon {outer : List Nat} {front : List Char} (fronts : Fronts front) :
    Leads ⟨tokens, column :: outer, true, column, ':' :: ' ' :: front⟩
      ⟨tokens ++ [.value], column :: outer, true, column + 2, front⟩ := by
  refine of_token (by simp only [List.length_cons]; omega) fun index line => ?_
  have deep : ∀ indent ∈ (column :: outer).head?, indent ≤ column := fun indent head =>
    Nat.le_of_eq (Option.some.inj head).symm
  rw [Stand.closed_of_le deep]
  let stand : Stand := ⟨tokens, column :: outer, true, column, ':' :: ' ' :: front⟩
  have mark : (stand.held index line none).takeToken = (stand.held index line none).valueMark := by
    simp [Layout.takeToken, Layout.tokenAt, Stand.held, stand, documentMark, gapNext, isGap,
      isBlank]
  have read : (stand.held index line none).valueMark =
      some (Stand.held ⟨tokens ++ [.value], column :: outer, true, column + 1, ' ' :: front⟩
        (index + 1) line none) := by
    have block : (stand.held index line none).openBlock column tokens.length .blockMappingStart =
        stand.held index line none := by
      simp [Layout.openBlock, Layout.indent?, Stand.held, stand]
    change (some ((((stand.held index line none).openBlock column tokens.length
      .blockMappingStart).allowKey true).push .value |>.skip 1)) = _
    rw [block]
    exact congrArg some ((congrArg (Layout.skip · 1)
      (Layout.push_held stand index line none .value)).trans
        (Layout.skip_held index line none rfl (by decide : isBreak ':' = false)))
  exact ⟨_, mark.trans read,
    Layout.arrives_of_gap (index + 1) line (.within true (column + 1) 1 fronts)⟩

/-- What may turn out to be a key of a mapping at a column. -/
def pending (tokens : List Token) (indents : List Nat) (column index line : Nat) : PossibleKey :=
  ⟨tokens.length, indents.head? == some column, index, line, column⟩

/-- A colon makes a key of what may turn out to be one: the mapping is opened before it,
unless one is open at its column. -/
theorem valueMark_pending (token : Token) (width index line : Nat) (after : List Char) :
    (Stand.held ⟨tokens ++ [token], indents, false, column + width, ':' :: after⟩ (index + width)
      line (some (pending tokens indents column index line))).valueMark =
      some (Stand.held ⟨tokens ++ Layout.opening indents column .blockMappingStart ++
        [.key, token, .value], Layout.opened indents column, false, column + width + 1, after⟩
          (index + width + 1) line none) := by
  let key := pending tokens indents column index line
  have inserted := @Layout.insert_held tokens [token] indents false (column + width)
    (':' :: after) (index + width) line (some key) .key
  have block := @Layout.openBlock_held tokens [.key, token] indents false (column + width)
    (':' :: after) (index + width) line none column .blockMappingStart
  change some ((((Layout.openBlock { (Stand.held ⟨tokens ++ [token], indents, false, column + width,
    ':' :: after⟩ (index + width) line (some key)).insert tokens.length .key with keys := [none] }
      column tokens.length .blockMappingStart).allowKey false).push .value).skip 1) = _
  rw [inserted]
  change some ((((Layout.openBlock (Stand.held ⟨tokens ++ [.key, token], indents, false,
    column + width, ':' :: after⟩ (index + width) line none) column tokens.length
      .blockMappingStart).allowKey false).push .value).skip 1) = _
  have joined : tokens ++ Layout.opening indents column .blockMappingStart ++
      [.key, token, .value] = tokens ++ Layout.opening indents column .blockMappingStart ++
        [.key, token] ++ [.value] := by simp
  rw [block, joined]
  let opened : Stand := ⟨tokens ++ Layout.opening indents column .blockMappingStart ++
    [.key, token], Layout.opened indents column, false, column + width, ':' :: after⟩
  exact congrArg some ((congrArg (Layout.skip · 1)
    (Layout.push_held opened (index + width) line none .value)).trans
      (Layout.skip_held (index + width) line none rfl (by decide : isBreak ':' = false)))

/-- A scalar with a colon after it leads to the value of the key that it is. -/
theorem key {written after : List Char} {token : Token} (filled : written ≠ [])
    (near : written.length ≤ Layout.keyReach) (gap : gapNext after = true)
    (deep : ∀ indent ∈ indents.head?, indent ≤ column)
    (reads : ∀ index line,
      (Stand.held ⟨tokens, indents, true, column, written ++ ':' :: after⟩ index line
        none).takeToken =
        some (Stand.held ⟨tokens ++ [token], indents, false, column + written.length,
          ':' :: after⟩ (index + written.length) line
            (some (pending tokens indents column index line))))
    {lines column' : Nat} {allowed : Bool} {front : List Char}
    (passes : Passes lines false (column + written.length + 1) after allowed column' front) :
    Leads ⟨tokens, indents, true, column, written ++ ':' :: after⟩
      ⟨tokens ++ Layout.opening indents column .blockMappingStart ++ [.key, token, .value],
        Layout.opened indents column, allowed, column', front⟩ := by
  have shorter : front.length ≤ after.length := by
    cases passes with
    | within => simp
    | line => simp only [List.length_cons, List.length_append]; omega
  have some' : 0 < written.length := List.length_pos_iff.mpr filled
  refine of_tokens (by simp only [List.length_append, List.length_cons]; omega) fun index line => ?_
  rw [Stand.closed_of_le deep]
  let middle : Stand :=
    ⟨tokens ++ [token], indents, false, column + written.length, ':' :: after⟩
  let key := pending tokens indents column index line
  have kept : (middle.held (index + written.length) line (some key)).dropStale =
      some (middle.held (index + written.length) line (some key)) :=
    Layout.dropStale_near rfl (Nat.add_le_add_left near index)
  have fronts : Fronts (':' :: after) := by
    intro c head
    cases head
    decide
  have settled : (middle.held (index + written.length) line (some key)).settle =
      some (middle.held (index + written.length) line (some key)) := by
    have shut : middle.closed = middle := Stand.closed_of_le fun indent head =>
      Nat.le_trans (deep indent head) (Nat.le_add_right _ _)
    rw [Layout.settle, Layout.nextPlace_of_fronts fronts, kept]
    exact congrArg some ((Layout.closeBlocks_held middle _ _ _).trans (by rw [shut]))
  have mark : (middle.held (index + written.length) line (some key)).takeToken =
      (middle.held (index + written.length) line (some key)).valueMark := by
    simp [Layout.takeToken, Layout.tokenAt, Stand.held, middle, documentMark, gap]
  have read : (middle.held _ line (some key)).valueMark = _ :=
    valueMark_pending token written.length index line after
  exact ⟨_, _, _, _, reads index line, kept, rfl, settled, mark.trans read,
    Layout.arrives_of_gap _ _ passes⟩

/-- A key that is written plainly. -/
theorem plainKey {text after : List Char} (plain : PlainText text) (gap : gapNext after = true)
    (index line : Nat) :
    (Stand.held ⟨tokens, indents, true, column, text ++ ':' :: after⟩ index line none).takeToken =
      some (Stand.held ⟨tokens ++ [.scalar .plain text], indents, false, column + text.length,
        ':' :: after⟩ (index + text.length) line
          (some (pending tokens indents column index line))) := by
  let stand : Stand := ⟨tokens, indents, true, column, text ++ ':' :: after⟩
  let key := pending tokens indents column index line
  have noted : (stand.held index line none).noteKey = some (stand.held index line (some key)) := rfl
  have leaves := leaves_colon (stand.held index line none).nextIndent gap
  have scalar : plain? (stand.held index line none).inFlow (stand.held index line none).nextIndent
      (stand.held index line none).cursor.rest = some ⟨text, ':' :: after, false⟩ :=
    plain?_append plain leaves
  let further : Stand := { stand with tokens := tokens ++ [.scalar .plain text], allowed := false }
  have moved := Layout.moveTo_held index line (some key) (rfl : further.rest = _) plain.unbroken
  refine (Layout.takeToken_plain plain leaves.1 rfl rfl).trans ?_
  rw [Layout.plainScalar, noted, scalar]
  exact (congrArg (fun layout : Layout => some (layout.moveTo (':' :: after)))
    (Layout.push_held { stand with allowed := false } index line (some key) _)).trans
      (congrArg some moved)

/-- A key between quotes. -/
theorem quotedKey {quote : Char} {style : Style} {written text after : List Char}
    {reader : List Char → Option (List Char × List Char)}
    (token : ∀ (layout : Layout) (rest : List Char), layout.tokenAt quote rest =
      layout.keyLike ((reader rest).map fun (text, rest) => (.scalar style text, rest)))
    (unbroken : ∀ c ∈ quote :: written, isBreak c = false)
    (read : reader (written ++ ':' :: after) = some (text, ':' :: after)) (index line : Nat) :
    (Stand.held ⟨tokens, indents, true, column, quote :: written ++ ':' :: after⟩ index line
      none).takeToken =
      some (Stand.held ⟨tokens ++ [.scalar style text], indents, false,
        column + (quote :: written).length, ':' :: after⟩ (index + (quote :: written).length) line
          (some (pending tokens indents column index line))) := by
  let stand : Stand := ⟨tokens, indents, true, column, quote :: written ++ ':' :: after⟩
  let key := pending tokens indents column index line
  have noted : (stand.held index line none).noteKey = some (stand.held index line (some key)) := rfl
  let further : Stand := { stand with tokens := tokens ++ [.scalar style text], allowed := false }
  have moved := Layout.moveTo_held index line (some key) (rfl : further.rest = _) unbroken
  change (stand.held index line none).tokenAt quote (written ++ ':' :: after) = _
  rw [token, Layout.keyLike, noted, read]
  exact (congrArg (fun layout : Layout => some (layout.moveTo (':' :: after)))
    (Layout.push_held { stand with allowed := false } index line (some key) _)).trans
      (congrArg some moved)

end Key

end Leads

namespace Layout

/-- At the end of the text all collections are closed. -/
theorem run_end {layout : Layout} {tokens : List Token} {indents : List Nat} {allowed : Bool}
    {column : Nat} (stands : layout.Stands ⟨tokens, indents, allowed, column, []⟩)
    (deep : ∀ indent ∈ indents.head?, indent ≤ column) (fuel : Nat) :
    layout.run (fuel + 2) =
      tokens ++ List.replicate indents.length .blockEnd ++ [.streamEnd] := by
  let stand : Stand := ⟨tokens, indents, allowed, column, []⟩
  obtain ⟨index, line, settles⟩ := stands.settles
  rw [Stand.closed_of_le deep] at settles
  have all : indents.takeWhile (fun _ => true) = indents :=
    List.takeWhile_eq_self_iff.mpr fun _ _ => rfl
  let last : Layout := ⟨⟨index, line, column, []⟩,
    (tokens ++ List.replicate indents.length Token.blockEnd ++ [Token.streamEnd]).reverse,
    tokens.length + indents.length + 1, [], [none], false, true⟩
  have finished : (stand.held index line none).takeToken = some last := by
    have block : (stand.held index line none).inFlow = false := rfl
    have shut : (stand.held index line none).closeBlocks none =
        { stand.held index line none with
          tokens := List.replicate indents.length .blockEnd ++ tokens.reverse
          count := tokens.length + indents.length
          indents := [] } := by
      rw [closeBlocks, if_neg (by simp [block])]
      simp [Stand.held, stand, foldl_blockEnd, all]
    change (stand.held index line none).finish = _
    rw [finish, shut]
    simp [dropKey, Stand.held, stand, allowKey, push, last]
  have next : layout.next = some last := by
    rw [next_eq, settles, Option.bind_some, finished]
    rfl
  rw [run, stands.going, next]
  change last.run (fuel + 1) = _
  rw [run, if_pos rfl]
  exact List.reverse_reverse _

end Layout

/-- The tokens of a text that reading leads through. -/
theorem tokens_of_leads {text : String} (shown : Shown text.toList) (fronts : Fronts text.toList)
    {read : List Token} {indents : List Nat} {allowed : Bool} {column : Nat}
    (leads : Leads ⟨[], [], true, 0, text.toList⟩ ⟨read, indents, allowed, column, []⟩)
    (deep : ∀ indent ∈ indents.head?, indent ≤ column) :
    tokens text = read ++ List.replicate indents.length .blockEnd ++ [.streamEnd] := by
  have allowed' : text.toList.all isAllowed = true :=
    List.all_eq_true.mpr fun c member => isAllowed_of_isPrintable (shown c member)
  have start : (Layout.start text.toList).Stands ⟨[], [], true, 0, text.toList⟩ :=
    @Layout.stands_of_passes 0 0 0 0 0 [] [] none true true _ _ (.within true 0 0 fronts) nofun
  obtain ⟨steps, layout, stands, bound, run⟩ := leads _ start
  have enough : text.toList.length + 2 = steps + (text.toList.length - steps + 2) := by
    change steps + 0 ≤ text.toList.length at bound
    omega
  unfold tokens
  split
  · next same =>
    rw [same] at fronts
    exact absurd rfl (fronts _ rfl).2.2
  · rw [if_pos allowed', enough, run, Layout.run_end stands deep]

end Flowdesk.Yaml
