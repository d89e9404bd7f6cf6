import Flowdesk.Proofs.Yaml.Literal
import Flowdesk.Yaml.Layout

/-!
# Where reading stands

Between two tokens a reader passes over a gap, gives up on what is no key any more and
closes the collections that are deeper than the next token. What it holds then does not
depend on how the gap was written, nor on how far into the text it is: the tokens so far,
the open collections, whether a key may start, and what is left to read. Reading leads from
one such place to another.
-/

namespace Flowdesk.Yaml

/-- A place between two tokens. -/
structure Stand where
  /-- The tokens so far, in order. -/
  tokens : List Token
  /-- The columns of the open block collections, the innermost first. -/
  indents : List Nat
  /-- Whether a key may start here. -/
  allowed : Bool
  column : Nat
  rest : List Char

namespace Stand

/-- Collections deeper than the place are closed. -/
def closeAt (column : Nat) (tokens : List Token) : List Nat → List Token × List Nat
  | [] => (tokens, [])
  | indent :: outer =>
      if column < indent then closeAt column (tokens ++ [.blockEnd]) outer
      else (tokens, indent :: outer)

/-- The place after the collections that are deeper than it are closed. -/
def closed (stand : Stand) : Stand :=
  { stand with
    tokens := (closeAt stand.column stand.tokens stand.indents).1
    indents := (closeAt stand.column stand.tokens stand.indents).2 }

/-- A reader at a place in block style, with what may turn out to be a key. -/
def held (stand : Stand) (index line : Nat) (key? : Option PossibleKey) : Layout :=
  ⟨⟨index, line, stand.column, stand.rest⟩, stand.tokens.reverse, stand.tokens.length,
    stand.indents, [key?], stand.allowed, false⟩

/-- Nothing is closed at a place that is as deep as what is open. -/
theorem closed_of_le {stand : Stand}
    (deep : ∀ indent ∈ stand.indents.head?, indent ≤ stand.column) : stand.closed = stand := by
  obtain ⟨tokens, indents, allowed, column, rest⟩ := stand
  cases indents with
  | nil => rfl
  | cons indent outer =>
    have shallow : ¬column < indent := Nat.not_lt.mpr (deep indent rfl)
    simp [closed, closeAt, shallow]

/-- A collection that is deeper than the place is closed there. -/
theorem closed_of_lt {tokens : List Token} {indent column : Nat} (outside : column < indent)
    (outer : List Nat) (allowed : Bool) (rest : List Char) :
    closed ⟨tokens, indent :: outer, allowed, column, rest⟩ =
      closed ⟨tokens ++ [.blockEnd], outer, allowed, column, rest⟩ := by
  simp [closed, closeAt, outside]

end Stand

/-- A token may start with these characters, or the text ends. -/
def Fronts (front : List Char) : Prop :=
  ∀ c ∈ front.head?, isGap c = false ∧ c ≠ '#' ∧ c ≠ '\uFEFF'

theorem Fronts.solid {front : List Char} (fronts : Fronts front) :
    ∀ c ∈ front.head?, isGap c = false := fun c head => (fronts c head).1

namespace Cursor

/-- Characters that end no line are counted. -/
theorem consume_unbroken {text : List Char} (unbroken : ∀ c ∈ text, isBreak c = false)
    (index line column : Nat) :
    consume index line column text = (index + text.length, line, column + text.length) := by
  induction text generalizing index column with
  | nil => rfl
  | cons c text inductionHypothesis =>
    have stays : isBreak c = false := unbroken c List.mem_cons_self
    have noReturn : c ≠ '\r' := by
      rintro rfl
      exact absurd stays (by decide)
    rw [consume]
    · rw [if_neg (by simp [stays]), inductionHypothesis fun other member =>
        unbroken other (List.mem_cons_of_mem c member)]
      simp [Nat.add_assoc, Nat.add_comm 1]
    · exact fun _ same _ => noReturn same

theorem consume_cons {c : Char} (shown : isPrintable c = true) (index line column : Nat)
    (text : List Char) :
    consume index line column (c :: text) =
      if isBreak c then consume (index + 1) (line + 1) 0 text
      else consume (index + 1) line (column + 1) text := by
  rw [consume]
  rintro rest rfl -
  exact absurd shown (by decide)

/-- What is consumed after a text is consumed from where the text ends. No line of the text
ends before where it starts. -/
theorem consume_append {text : List Char} (shown : Shown text) (index line column : Nat)
    (more : List Char) :
    ∃ index' line' column', line ≤ line' ∧
      consume index line column (text ++ more) = consume index' line' column' more := by
  induction text generalizing index line column with
  | nil => exact ⟨index, line, column, Nat.le_refl line, rfl⟩
  | cons c text inductionHypothesis =>
    rw [List.cons_append, consume_cons shown.of_cons.1]
    split
    · obtain ⟨index', line', column', later, same⟩ :=
        inductionHypothesis shown.of_cons.2 (index + 1) (line + 1) 0
      exact ⟨index', line', column', Nat.le_of_succ_le later, same⟩
    · exact inductionHypothesis shown.of_cons.2 (index + 1) line (column + 1)

/-- After a break the column is told by the spaces at the start of the line. -/
theorem consume_break {text : List Char} (shown : Shown text) {final : Char}
    (shown' : isPrintable final = true) (ends : isBreak final = true)
    (count index line column : Nat) :
    ∃ index' line', line < line' ∧
      consume index line column (text ++ final :: spaces count) = (index', line', count) := by
  obtain ⟨index', line', column', later, same⟩ :=
    consume_append shown index line column (final :: spaces count)
  refine ⟨index' + 1 + count, line' + 1, Nat.lt_succ_of_le later, ?_⟩
  have unbroken : ∀ c ∈ spaces count, isBreak c = false := by
    intro c member
    rw [List.eq_of_mem_replicate member]
    decide
  rw [same, consume_cons shown', if_pos ends, consume_unbroken unbroken]
  simp [spaces]

/-- Moving on to the end of a text consumes what comes before it. -/
theorem moveTo_append (index line column : Nat) (text rest : List Char) :
    moveTo ⟨index, line, column, text ++ rest⟩ rest =
      ⟨(consume index line column text).1, (consume index line column text).2.1,
        (consume index line column text).2.2, rest⟩ := by
  have size : (text ++ rest).length - rest.length = text.length := by
    rw [List.length_append, Nat.add_sub_cancel]
  simp only [moveTo]
  rw [size, List.take_left]

end Cursor

/-- The gaps between tokens: spaces within a line, or the end of a line with the spaces that
indent the next one. The first number is that of the lines that end. -/
inductive Passes : Nat → Bool → Nat → List Char → Bool → Nat → List Char → Prop where
  | within (allowed : Bool) (column count : Nat) {front : List Char} (fronts : Fronts front) :
      Passes 0 allowed column (spaces count ++ front) allowed (column + count) front
  | line (allowed : Bool) (column count : Nat) {front : List Char} (fronts : Fronts front) :
      Passes 1 allowed column ('\n' :: (spaces count ++ front)) true count front

namespace Layout

/-- Pass over what comes before a token. -/
def settle (layout : Layout) : Option Layout := do
  let fresh ← layout.nextPlace.dropStale
  some (fresh.closeBlocks (some fresh.cursor.column))

/-- Read the token of a place. -/
def takeToken (layout : Layout) : Option Layout :=
  match layout.cursor.rest with
  | [] => layout.finish
  | c :: rest => layout.tokenAt c rest

theorem next_eq (layout : Layout) :
    layout.next = layout.settle.bind fun settled => settled.takeToken.bind dropStale := by
  unfold next settle takeToken
  cases layout.nextPlace.dropStale with
  | none => rfl
  | some fresh =>
    simp only [Option.bind_eq_bind, Option.bind_some]
    cases (fresh.closeBlocks (some fresh.cursor.column)).cursor.rest <;> rfl

/-- Whether reading goes on at a place. -/
structure Stands (layout : Layout) (stand : Stand) : Prop where
  going : layout.ended = false
  settles : ∃ index line, layout.settle = some (stand.closed.held index line none)

/-- Whether reading goes on at a place once keys that lie too far back are given up. -/
def Arrives (layout : Layout) (stand : Stand) : Prop :=
  ∃ after, layout.dropStale = some after ∧ after.Stands stand

theorem foldl_blockEnd (indents : List Nat) (layout : Layout) :
    indents.foldl (fun layout _ => layout.push .blockEnd) layout =
      { layout with
        tokens := List.replicate indents.length .blockEnd ++ layout.tokens
        count := layout.count + indents.length } := by
  induction indents generalizing layout with
  | nil => rfl
  | cons indent indents inductionHypothesis =>
    rw [List.foldl_cons, inductionHypothesis]
    simp [push, List.replicate_succ', Nat.add_assoc, Nat.add_comm 1]

/-- The collections that a column closes are those that are deeper. -/
theorem closeAt_eq (column : Nat) (tokens : List Token) (indents : List Nat) :
    Stand.closeAt column tokens indents =
      (tokens ++ List.replicate (indents.takeWhile (column < ·)).length .blockEnd,
        indents.drop (indents.takeWhile (column < ·)).length) := by
  induction indents generalizing tokens with
  | nil => simp [Stand.closeAt]
  | cons indent outer inductionHypothesis =>
    rw [Stand.closeAt]
    split
    · next deeper => simp [inductionHypothesis, deeper, List.replicate_succ]
    · next shallow => simp [shallow]

/-- Closing collections at a place. -/
theorem closeBlocks_held (stand : Stand) (index line : Nat) (key? : Option PossibleKey) :
    (stand.held index line key?).closeBlocks (some stand.column) =
      stand.closed.held index line key? := by
  have block : (stand.held index line key?).inFlow = false := rfl
  rw [closeBlocks, if_neg (by simp [block])]
  simp [Stand.held, Stand.closed, foldl_blockEnd, closeAt_eq]

section Gap

variable {cursor : Cursor} {tokens : List Token} {count : Nat} {indents : List Nat}
  {keys : List (Option PossibleKey)} {key? : Option PossibleKey} {allowed ended : Bool}

/-- What need not be a key may be given up. -/
theorem dropStale_optional (optional : ∀ key ∈ key?, key.required = false) :
    ∃ left? : Option PossibleKey, (∀ key ∈ left?, key ∈ key?) ∧
      dropStale ⟨cursor, tokens, count, indents, [key?], allowed, ended⟩ =
        some ⟨cursor, tokens, count, indents, [left?], allowed, ended⟩ := by
  cases key? with
  | none => exact ⟨none, fun _ => id, rfl⟩
  | some key =>
    cases stale : isStale ⟨cursor, tokens, count, indents, [some key], allowed, ended⟩ key with
    | true => exact ⟨none, nofun, by simp [dropStale, stale, optional key rfl]⟩
    | false => exact ⟨some key, fun _ => id, by simp [dropStale, stale]⟩

/-- Inside flow style too. -/
theorem dropStale_flow (optional : ∀ key ∈ key?, key.required = false) :
    ∃ left? : Option PossibleKey, (∀ key ∈ left?, key ∈ key?) ∧
      dropStale ⟨cursor, tokens, count, indents, [none, key?], allowed, ended⟩ =
        some ⟨cursor, tokens, count, indents, [none, left?], allowed, ended⟩ := by
  cases key? with
  | none => exact ⟨none, fun _ => id, rfl⟩
  | some key =>
    cases stale :
        isStale ⟨cursor, tokens, count, indents, [none, some key], allowed, ended⟩ key with
    | true => exact ⟨none, nofun, by simp [dropStale, stale, optional key rfl]⟩
    | false => exact ⟨some key, fun _ => id, by simp [dropStale, stale]⟩

/-- What need not be a key is given up on a later line. -/
theorem dropStale_past
    (past : ∀ key ∈ key?, key.required = false ∧ key.line < cursor.line) :
    dropStale ⟨cursor, tokens, count, indents, [key?], allowed, ended⟩ =
      some ⟨cursor, tokens, count, indents, [none], allowed, ended⟩ := by
  cases key? with
  | none => rfl
  | some key =>
    obtain ⟨optional, later⟩ := past key rfl
    simp [dropStale, isStale, optional, later]

/-- A key that is near stays. -/
theorem dropStale_near {key : PossibleKey} (same : key.line = cursor.line)
    (near : cursor.index ≤ key.index + keyReach) :
    dropStale ⟨cursor, tokens, count, indents, [some key], allowed, ended⟩ =
      some ⟨cursor, tokens, count, indents, [some key], allowed, ended⟩ := by
  simp [dropStale, isStale, same, Nat.not_lt.mpr near]

/-- Spaces within a line are passed over. -/
theorem skipGap_within {index line column : Nat} (spaces' fuel : Nat) {front : List Char}
    (fronts : Fronts front) :
    skipGap (fuel + 1) ⟨⟨index, line, column, spaces spaces' ++ front⟩, tokens, count, indents,
        keys, allowed, ended⟩ =
      ⟨⟨index + spaces', line, column + spaces', front⟩, tokens, count, indents, keys, allowed,
        ended⟩ := by
  have passed : ∀ tabs : Bool,
      (spaces spaces' ++ front).dropWhile (fun c => c == ' ' || (tabs && c == '\t')) = front := by
    intro tabs
    rw [List.dropWhile_append_of_pos]
    · cases front with
      | nil => rfl
      | cons c front =>
        have blank : isBlank c = false := (Bool.or_eq_false_iff.mp (fronts c rfl).1).1
        rw [isBlank, Bool.or_eq_false_iff] at blank
        rw [List.dropWhile_cons_of_neg]
        simp [blank]
    · intro c member
      rw [List.eq_of_mem_replicate member]
      rfl
  have noComment : front.head? ≠ some '#' := fun head => (fronts _ head).2.1 rfl
  have noBreak : takeBreak? front = none := by
    cases front with
    | nil => rfl
    | cons c front =>
      have stays : isBreak c = false := (Bool.or_eq_false_iff.mp (fronts c rfl).1).2
      rw [← Option.not_isSome_iff_eq_none, takeBreak?_isSome, stays]
      exact Bool.false_ne_true
  have unbroken : ∀ c ∈ spaces spaces', isBreak c = false := by
    intro c member
    rw [List.eq_of_mem_replicate member]
    rfl
  rw [skipGap]
  simp only [passed, noComment, if_false, noBreak, moveTo]
  rw [Cursor.moveTo_append, Cursor.consume_unbroken unbroken]
  simp [spaces]

/-- A line feed lets a key start. -/
theorem skipGap_line {index line column : Nat} (spaces' fuel : Nat) {front : List Char}
    (fronts : Fronts front) :
    ∃ index', skipGap (fuel + 2) ⟨⟨index, line, column, '\n' :: (spaces spaces' ++ front)⟩, tokens,
        count, indents, [key?], allowed, ended⟩ =
      ⟨⟨index', line + 1, spaces', front⟩, tokens, count, indents, [key?], true, ended⟩ := by
  have here : ∀ tabs : Bool, ('\n' :: (spaces spaces' ++ front)).dropWhile
      (fun c => c == ' ' || (tabs && c == '\t')) = '\n' :: (spaces spaces' ++ front) := by
    intro tabs
    rw [List.dropWhile_cons_of_neg]
    simp
  have moved : Cursor.moveTo ⟨index, line, column, '\n' :: (spaces spaces' ++ front)⟩
      (spaces spaces' ++ front) = ⟨index + 1, line + 1, 0, spaces spaces' ++ front⟩ :=
    Cursor.moveTo_append index line column ['\n'] _
  have first : skipGap (fuel + 2) ⟨⟨index, line, column, '\n' :: (spaces spaces' ++ front)⟩, tokens,
        count, indents, [key?], allowed, ended⟩ =
      skipGap (fuel + 1) ⟨⟨index + 1, line + 1, 0, spaces spaces' ++ front⟩, tokens, count, indents,
        [key?], true, ended⟩ := by
    rw [skipGap]
    simp only [here, List.head?_cons, takeBreak?]
    simp [Layout.moveTo, moved, allowKey, inFlow]
  refine ⟨index + 1 + spaces', ?_⟩
  rw [first, skipGap_within spaces' fuel fronts, Nat.zero_add]

/-- No byte order mark is where a token may start. -/
theorem nextPlace_eq (layout : Layout) (noMark : layout.cursor.rest.head? ≠ some '\uFEFF') :
    layout.nextPlace = skipGap (layout.cursor.rest.length + 1) layout := by
  unfold nextPlace
  split
  · next same => exact absurd (congrArg List.head? same) noMark
  · rfl

/-- Nothing is passed over where a token may start. -/
theorem nextPlace_of_fronts {layout : Layout} (fronts : Fronts layout.cursor.rest) :
    layout.nextPlace = layout := by
  obtain ⟨⟨index, line, column, rest⟩, tokens, count, indents, keys, allowed, ended⟩ := layout
  rw [nextPlace_eq _ fun head => (fronts _ head).2.2 rfl]
  exact skipGap_within 0 _ fronts

end Gap

section Pass

variable {index line column column' lines : Nat} {tokens : List Token} {indents : List Nat}
  {key? : Option PossibleKey} {allowed allowed' : Bool} {rest front : List Char}

/-- A gap ends where a token may start. -/
theorem nextPlace_of_passes (passes : Passes lines allowed column rest allowed' column' front)
    (tokens : List Token) (indents : List Nat) (index line : Nat) (key? : Option PossibleKey) :
    ∃ index', (Stand.held ⟨tokens, indents, allowed, column, rest⟩ index line key?).nextPlace =
      Stand.held ⟨tokens, indents, allowed', column', front⟩ index' (line + lines) key? := by
  have noMark : rest.head? ≠ some '\uFEFF' := by
    cases passes with
    | within _ _ number fronts =>
      cases number with
      | zero => exact fun head => (fronts _ head).2.2 rfl
      | succ number => exact fun head => absurd (Option.some.inj head) (by decide)
    | line => exact fun head => absurd (Option.some.inj head) (by decide)
  rw [nextPlace_eq _ noMark]
  cases passes with
  | within _ _ number fronts => exact ⟨index + number, skipGap_within number _ fronts⟩
  | line _ _ _ fronts => exact skipGap_line _ _ fronts

/-- What is pending at the start of a gap is given up at its end, if it lies on an earlier
line by then. -/
theorem stands_of_passes (passes : Passes lines allowed column rest allowed' column' front)
    (past : ∀ key ∈ key?, key.required = false ∧ key.line < line + lines) :
    (Stand.held ⟨tokens, indents, allowed, column, rest⟩ index line key?).Stands
      ⟨tokens, indents, allowed', column', front⟩ := by
  obtain ⟨index', place⟩ := nextPlace_of_passes passes tokens indents index line key?
  refine ⟨rfl, index', line + lines, ?_⟩
  have dropped : (Stand.held ⟨tokens, indents, allowed', column', front⟩ index' (line + lines)
      key?).dropStale = some (Stand.held ⟨tokens, indents, allowed', column', front⟩ index'
        (line + lines) none) := dropStale_past past
  rw [settle, place, dropped]
  exact congrArg some (closeBlocks_held ⟨tokens, indents, allowed', column', front⟩ _ _ _)

theorem arrives_of_passes (passes : Passes lines allowed column rest allowed' column' front)
    (past : ∀ key ∈ key?, key.required = false ∧ key.line < line + lines) :
    (Stand.held ⟨tokens, indents, allowed, column, rest⟩ index line key?).Arrives
      ⟨tokens, indents, allowed', column', front⟩ := by
  obtain ⟨left?, fewer, dropped⟩ := dropStale_optional fun key pending => (past key pending).1
  exact ⟨_, dropped, stands_of_passes passes fun key pending => past key (fewer key pending)⟩

theorem arrives_of_gap (index line : Nat)
    (passes : Passes lines allowed column rest allowed' column' front) :
    (Stand.held ⟨tokens, indents, allowed, column, rest⟩ index line none).Arrives
      ⟨tokens, indents, allowed', column', front⟩ :=
  arrives_of_passes passes nofun

end Pass

end Layout

/-- Whether reading goes on from one place to another, with no more steps than there are
characters between them. -/
def Leads (before after : Stand) : Prop :=
  ∀ layout : Layout, layout.Stands before → ∃ steps further, Layout.Stands further after ∧
    steps + after.rest.length ≤ before.rest.length ∧
    ∀ fuel, layout.run (steps + fuel) = further.run fuel

namespace Leads

theorem refl (stand : Stand) : Leads stand stand :=
  fun layout stands => ⟨0, layout, stands, by omega, fun fuel => by rw [Nat.zero_add]⟩

theorem trans {first second third : Stand} (early : Leads first second)
    (late : Leads second third) : Leads first third := by
  intro layout stands
  obtain ⟨steps, middle, stands', bound, run⟩ := early layout stands
  obtain ⟨steps', last, stands'', bound', run'⟩ := late middle stands'
  refine ⟨steps + steps', last, stands'', by omega, ?_⟩
  intro fuel
  rw [Nat.add_assoc, run, run']

/-- Reading one token is a step. -/
theorem of_token {before after : Stand} (shorter : after.rest.length < before.rest.length)
    (step : ∀ index line, ∃ read, (before.closed.held index line none).takeToken = some read ∧
      Layout.Arrives read after) : Leads before after := by
  intro layout stands
  obtain ⟨index, line, settles⟩ := stands.settles
  obtain ⟨read, took, further, dropped, stands'⟩ := step index line
  refine ⟨1, further, stands', by omega, ?_⟩
  intro fuel
  have next : layout.next = some further := by
    rw [Layout.next_eq, settles, Option.bind_some, took, Option.bind_some, dropped]
  rw [Nat.add_comm, Layout.run, stands.going, next]
  rfl

/-- Reading two tokens is two steps, the second one from a place where something is pending. -/
theorem of_tokens {before after : Stand} (shorter : after.rest.length + 2 ≤ before.rest.length)
    (step : ∀ index line, ∃ read middle settled last : Layout,
      (before.closed.held index line none).takeToken = some read ∧ read.dropStale = some middle ∧
      middle.ended = false ∧ middle.settle = some settled ∧ settled.takeToken = some last ∧
      last.Arrives after) : Leads before after := by
  intro layout stands
  obtain ⟨index, line, settles⟩ := stands.settles
  obtain ⟨read, middle, settled, last, took, dropped, going, settles', took', further, dropped',
    stands'⟩ := step index line
  refine ⟨2, further, stands', by omega, ?_⟩
  intro fuel
  have next : layout.next = some middle := by
    rw [Layout.next_eq, settles, Option.bind_some, took, Option.bind_some, dropped]
  have next' : middle.next = some further := by
    rw [Layout.next_eq, settles', Option.bind_some, took', Option.bind_some, dropped']
  rw [Nat.add_comm, Layout.run, stands.going, next]
  change (middle.run (fuel + 1)) = _
  rw [Layout.run, going, next']
  rfl

/-- A collection that is deeper than a place is closed there. -/
theorem closed {tokens : List Token} {indent column : Nat} (outside : column < indent)
    (outer : List Nat) (allowed : Bool) (rest : List Char) :
    Leads ⟨tokens, indent :: outer, allowed, column, rest⟩
      ⟨tokens ++ [.blockEnd], outer, allowed, column, rest⟩ := by
  intro layout stands
  refine ⟨0, layout, ⟨stands.going, ?_⟩, by simp, fun fuel => by rw [Nat.zero_add]⟩
  obtain ⟨index, line, settles⟩ := stands.settles
  rw [Stand.closed_of_lt outside] at settles
  exact ⟨index, line, settles⟩

end Leads

end Flowdesk.Yaml
