import Flowdesk.Proofs.Yaml.Plain

/-!
# Quoted scalars are read back

Between quotes too a scalar is read word by word. Between single quotes a gap is either
spaces or breaks, and what is written after breaks to indent the next line vanishes when
it is read. Between double quotes every character but the space either stands for itself
or has an escape of its own, so that all gaps are spaces.
-/

namespace Flowdesk.Yaml

/-- What makes a text come back from the way in which it is written between quotes: words
are read up to a gap or to the closing quote, and gaps are read to the next word. -/
structure QuotedWell (word : List Char → Option (List Char × WordEnd × List Char))
    (written : List Char → List Char) (gapAt : Char → Bool) (after : List Char)
    (able : List Char → Prop) : Prop where
  closes : ∀ text, able text → (∀ c ∈ text, gapAt c = false) →
    word (written text) = some (text, .closed, after)
  pauses : ∀ solid c text, able (solid ++ c :: text) → (∀ c ∈ solid, gapAt c = false) →
    gapAt c = true →
    word (written (solid ++ c :: text)) = some (solid, .gap, written (c :: text)) ∧
      able (c :: text)
  gaps : ∀ c text, able (c :: text) → gapAt c = true → ∃ gap front back,
    c :: text = front ++ back ∧ front ≠ [] ∧ able back ∧
      takeGap 0 .none (written (c :: text)) = some (gap, written back) ∧
      gap.joined = front ∧ (gap.broken = true → gap.column ≠ 0)

/-- A quoted text is put together again. -/
theorem QuotedWell.quotedFrom_eq
    {word : List Char → Option (List Char × WordEnd × List Char)}
    {written : List Char → List Char} {gapAt : Char → Bool} {after : List Char}
    {able : List Char → Prop} (well : QuotedWell word written gapAt after able) (fuel : Nat)
    {text : List Char} (enough : text.length < fuel) (fits : able text) :
    quotedFrom word fuel (written text) = some (text, after) := by
  induction fuel generalizing text with
  | zero => exact nomatch enough
  | succ fuel inductionHypothesis =>
    have split : text = text.takeWhile (!gapAt ·) ++ text.dropWhile (!gapAt ·) :=
      List.takeWhile_append_dropWhile.symm
    have solid : ∀ c ∈ text.takeWhile (!gapAt ·), gapAt c = false := by
      intro c member
      have stands := List.all_eq_true.mp List.all_takeWhile c member
      simpa using stands
    cases rest : text.dropWhile (!gapAt ·) with
    | nil =>
      rw [rest, List.append_nil] at split
      rw [← split] at solid
      simp [quotedFrom, well.closes text fits solid]
    | cons c tail =>
      have gap : gapAt c = true := by
        have head := List.head?_dropWhile_not (!gapAt ·) text
        rw [rest] at head
        simpa using head
      generalize text.takeWhile (!gapAt ·) = front at split solid
      rw [rest] at split
      subst split
      obtain ⟨read, fits'⟩ := well.pauses front c tail fits solid gap
      obtain ⟨gap', between, back, joins, some', able', taken, joined, column⟩ :=
        well.gaps c tail fits' gap
      have inner : (gap'.broken && gap'.column == 0 && documentMark (written back)) = false := by
        cases broken : gap'.broken with
        | false => rfl
        | true => simp [column broken]
      have shorter : back.length < fuel := by
        have lengths := congrArg List.length joins
        have positive : 0 < between.length := List.length_pos_iff.mpr some'
        simp only [List.length_append, List.length_cons] at lengths enough
        omega
      have more := inductionHypothesis shorter able'
      simp only [quotedFrom, read, taken, inner, more, joined, Option.bind_eq_bind,
        Option.bind_some, Bool.false_eq_true, if_false]
      rw [joins, List.append_assoc]

/-- A run of spaces at the start of a text. -/
theorem takeWhile_space (text : List Char) :
    ∃ count back, text = spaces count ++ back ∧ back.head? ≠ some ' ' := by
  induction text with
  | nil => exact ⟨0, [], rfl, nofun⟩
  | cons c text inductionHypothesis =>
    by_cases space : c = ' '
    · obtain ⟨count, back, rfl, head⟩ := inductionHypothesis
      exact ⟨count + 1, back, space ▸ rfl, head⟩
    · exact ⟨0, c :: text, rfl, fun same => space (Option.some.inj same)⟩

section Single

/-- A text with its closing quote, and what follows it. -/
def closedSingle (indent : Nat) (after text : List Char) : List Char :=
  singleQuotedChars indent false text ++ '\'' :: after

theorem closedSingle_word {indent : Nat} {after : List Char} {c : Char} (text : List Char)
    (shown : isPrintable c = true) (solid : isGap c = false) :
    singleWord (closedSingle indent after (c :: text)) =
      (singleWord (closedSingle indent after text)).map
        fun (word, close, after) => (c :: word, close, after) := by
  have stays : isBreak c = false := (Bool.or_eq_false_iff.mp solid).2
  by_cases quote : c = '\''
  · subst quote
    simp [closedSingle, singleQuotedChars, stays, singleWord]
  · have written : closedSingle indent after (c :: text) = c :: closedSingle indent after text := by
      simp [closedSingle, singleQuotedChars, stays, quote]
    rw [written]
    rw [singleWord]
    · simp [solid]
    · exact fun _ same => absurd same quote
    · exact quote

/-- Solid characters are read up to the end of their word. -/
theorem closedSingle_append (indent : Nat) (after front text : List Char)
    (shown : Shown front) (solid : ∀ c ∈ front, isGap c = false) :
    singleWord (closedSingle indent after (front ++ text)) =
      (singleWord (closedSingle indent after text)).map
        fun (word, close, after) => (front ++ word, close, after) := by
  induction front with
  | nil => simp
  | cons c front inductionHypothesis =>
    rw [List.cons_append, closedSingle_word _ (shown c List.mem_cons_self)
      (solid c List.mem_cons_self), inductionHypothesis shown.of_cons.2
      fun other member => solid other (List.mem_cons_of_mem c member), Option.map_map]
    rfl

theorem closedSingle_space (indent : Nat) (after text : List Char) :
    closedSingle indent after (' ' :: text) = ' ' :: closedSingle indent after text := by
  have stays : isBreak ' ' = false := by decide
  simp [closedSingle, singleQuotedChars, stays]

theorem closedSingle_spaces (indent count : Nat) (after text : List Char) :
    closedSingle indent after (spaces count ++ text) =
      spaces count ++ closedSingle indent after text := by
  induction count with
  | zero => rfl
  | succ count inductionHypothesis =>
    rw [spaces, List.replicate_succ, List.cons_append, closedSingle_space]
    exact congrArg (' ' :: ·) inductionHypothesis

/-- After breaks the next line is indented. -/
theorem singleQuotedChars_breaks (indent : Nat) {breaks text : List Char}
    (all : ∀ c ∈ breaks, isBreak c = true) (stays : ∀ c ∈ text.head?, isBreak c = false) :
    singleQuotedChars indent true (breaks ++ text) =
      breaks ++ spaces indent ++ singleQuotedChars indent false text := by
  induction breaks with
  | nil =>
    cases text with
    | nil => simp [singleQuotedChars]
    | cons c text => simp [singleQuotedChars, stays c rfl]
  | cons c breaks inductionHypothesis =>
    rw [List.cons_append, singleQuotedChars, if_pos (all c List.mem_cons_self),
      inductionHypothesis fun other member => all other (List.mem_cons_of_mem c member)]
    rfl

/-- A closed text does not start with a gap unless the text does. -/
theorem closedSingle_head {indent : Nat} {after text : List Char}
    (solid : ∀ c ∈ text.head?, isGap c = false) :
    ∀ c ∈ (closedSingle indent after text).head?, isGap c = false := by
  cases text with
  | nil =>
    intro c same
    cases same
    decide
  | cons first text =>
    have stands : isGap first = false := solid first rfl
    have stays : isBreak first = false := (Bool.or_eq_false_iff.mp stands).2
    intro c same
    simp only [closedSingle, singleQuotedChars, stays, Bool.false_eq_true, if_false] at same
    split at same
    · cases same
      decide
    · cases same
      exact stands

/-- Breaks other than line feeds are taken one by one. -/
theorem takeGap_breaks (indent : Nat) {breaks : List Char} (shown : Shown breaks)
    (all : ∀ c ∈ breaks, isBreak c = true) (others : List Char) (first : List Char)
    (noFeed : '\n' ∉ breaks) (rest : List Char) :
    takeGap indent ⟨[], true, first, others, 0⟩ (breaks ++ rest) =
      takeGap indent ⟨[], true, first, others ++ breaks, 0⟩ rest := by
  induction breaks generalizing others with
  | nil => rw [List.append_nil]; rfl
  | cons c breaks inductionHypothesis =>
    have step : takeGap indent ⟨[], true, first, others, 0⟩ (c :: (breaks ++ rest)) =
        takeGap indent ⟨[], true, first, others ++ [c], 0⟩ (breaks ++ rest) := by
      rcases eq_break_of_isBreak (shown c List.mem_cons_self) (all c List.mem_cons_self) with
        rfl | rfl | rfl
      · exact absurd List.mem_cons_self noFeed
      · simp [takeGap, isBlank, isBreak, Gap.addBreak]
      · simp [takeGap, isBlank, isBreak, Gap.addBreak]
    rw [List.cons_append, step, inductionHypothesis shown.of_cons.2
      (fun other member => all other (List.mem_cons_of_mem c member))
      (others ++ [c]) (fun member => noFeed (List.mem_cons_of_mem c member)), List.append_assoc]
    rfl

end Single

/-- A text that could stand between single quotes still can without its start. -/
theorem QuotedText.of_append {front text : List Char} (quoted : QuotedText (front ++ text)) :
    QuotedText text := by
  induction front with
  | nil => exact quoted
  | cons c front inductionHypothesis =>
    apply inductionHypothesis
    have later : ∀ first second : Char → Bool,
        hasAdjacent first second (c :: (front ++ text)) = false →
          hasAdjacent first second (front ++ text) = false := by
      intro first second apart
      cases rest : front ++ text with
      | nil => rfl
      | cons next rest' =>
        rw [rest, hasAdjacent, Bool.or_eq_false_iff] at apart
        exact apart.2
    exact ⟨quoted.shown.of_cons.2, fun member => quoted.noFeed (List.mem_cons_of_mem c member),
      later _ _ quoted.flush, later _ _ quoted.trimmed⟩

/-- Whether two characters are adjacent inside a text. -/
theorem hasAdjacent_append {first second : Char → Bool} {front : List Char} {a b : Char}
    {back : List Char} (apart : hasAdjacent first second (front ++ a :: b :: back) = false) :
    (first a && second b) = false := by
  induction front with
  | nil => exact (Bool.or_eq_false_iff.mp apart).1
  | cons c front inductionHypothesis =>
    cases rest : front ++ a :: b :: back with
    | nil => exact absurd rest (by simp)
    | cons next rest' =>
      rw [List.cons_append, rest, hasAdjacent, Bool.or_eq_false_iff, ← rest] at apart
      exact inductionHypothesis apart.2

/-- Breaks at the start of a text. -/
theorem takeWhile_break (text : List Char) :
    ∃ breaks back, text = breaks ++ back ∧ (∀ c ∈ breaks, isBreak c = true) ∧
      ∀ c ∈ back.head?, isBreak c = false := by
  refine ⟨text.takeWhile isBreak, text.dropWhile isBreak, List.takeWhile_append_dropWhile.symm,
    ?_, ?_⟩
  · exact fun c member => List.all_eq_true.mp List.all_takeWhile c member
  · intro c head
    have stops := List.head?_dropWhile_not isBreak text
    rw [Option.mem_def.mp head] at stops
    simpa using stops

/-- A word ends before a gap. -/
theorem singleWord_of_gap (indent : Nat) (after : List Char) {c : Char} (gap : isGap c = true)
    (text : List Char) :
    singleWord (closedSingle indent after (c :: text)) =
      some ([], .gap, closedSingle indent after (c :: text)) := by
  have other : c ≠ '\'' := by
    rintro rfl
    exact absurd gap (by decide)
  have written : ∃ rest, closedSingle indent after (c :: text) = c :: rest := by
    unfold closedSingle singleQuotedChars
    split
    · exact ⟨_, rfl⟩
    · exact ⟨_, rfl⟩
  obtain ⟨rest, written⟩ := written
  rw [written, singleWord]
  · rw [if_pos gap]
  · exact fun _ same => absurd same other
  · exact other

/-- Breaks between single quotes are one gap, with the spaces that indent the next line. -/
theorem single_breaks {indent : Nat} (deep : indent ≠ 0) {after : List Char} {c : Char}
    {text : List Char} (quoted : QuotedText (c :: text)) (ends : isBreak c = true) :
    ∃ gap front back, c :: text = front ++ back ∧ front ≠ [] ∧ QuotedText back ∧
      takeGap 0 .none (closedSingle indent after (c :: text)) =
        some (gap, closedSingle indent after back) ∧
      gap.joined = front ∧ (gap.broken = true → gap.column ≠ 0) := by
  obtain ⟨breaks, back, rfl, all, stays⟩ := takeWhile_break text
  have noFeed : c ≠ '\n' := fun same => quoted.noFeed (same ▸ List.mem_cons_self)
  have noFeeds : '\n' ∉ breaks := fun member =>
    quoted.noFeed (List.mem_cons_of_mem c (List.mem_append_left back member))
  have shown : Shown breaks := quoted.shown.of_cons.2.of_append.1
  have whole : QuotedText ((c :: breaks) ++ back) := quoted
  have rest : QuotedText back := whole.of_append
  have solid : ∀ other ∈ back.head?, isGap other = false := by
    intro other head
    cases back with
    | nil => exact nomatch head
    | cons first back =>
      cases head
      rw [isGap_of_not_break rest.shown.of_cons.1 (stays other rfl), beq_eq_false_iff_ne]
      rintro rfl
      obtain ⟨front, last, joins⟩ : ∃ front last, c :: breaks = front ++ [last] :=
        ⟨_, _, (List.dropLast_append_getLast (List.cons_ne_nil c breaks)).symm⟩
      have final : isBreak last = true := by
        have member : last ∈ c :: breaks := joins ▸ List.mem_append_right front List.mem_cons_self
        rcases List.mem_cons.mp member with rfl | member
        · exact ends
        · exact all last member
      have flush := quoted.flush
      rw [← List.cons_append, joins, List.append_assoc] at flush
      have adjacent := hasAdjacent_append flush
      rw [final] at adjacent
      exact nomatch adjacent
  have written : closedSingle indent after (c :: (breaks ++ back)) =
      c :: (breaks ++ (spaces indent ++ closedSingle indent after back)) := by
    rw [closedSingle, singleQuotedChars, if_pos ends, singleQuotedChars_breaks indent all stays]
    simp [closedSingle]
  have first :
      takeGap 0 .none (c :: (breaks ++ (spaces indent ++ closedSingle indent after back))) =
      takeGap 0 ⟨[], true, [c], [], 0⟩
        (breaks ++ (spaces indent ++ closedSingle indent after back)) := by
    rcases eq_break_of_isBreak quoted.shown.of_cons.1 ends with rfl | rfl | rfl
    · exact absurd rfl noFeed
    · simp [takeGap, isBlank, isBreak, Gap.addBreak, Gap.none]
    · simp [takeGap, isBlank, isBreak, Gap.addBreak, Gap.none]
  refine ⟨⟨[], true, [c], breaks, indent⟩, c :: breaks, back, rfl, List.cons_ne_nil c breaks, rest,
    ?_, ?_, fun _ => deep⟩
  · rw [written, first, takeGap_breaks 0 shown all [] [c] noFeeds, takeGap_columns _ _ rfl,
      takeGap_stop _ _ (closedSingle_head solid), Nat.zero_add, List.nil_append]
  · simp [Gap.joined, noFeed]

/-- Spaces between single quotes are one gap. -/
theorem single_spaces {indent : Nat} {after text : List Char}
    (quoted : QuotedText (' ' :: text)) :
    ∃ gap front back, ' ' :: text = front ++ back ∧ front ≠ [] ∧ QuotedText back ∧
      takeGap 0 .none (closedSingle indent after (' ' :: text)) =
        some (gap, closedSingle indent after back) ∧
      gap.joined = front ∧ (gap.broken = true → gap.column ≠ 0) := by
  obtain ⟨count, back, rfl, other⟩ := takeWhile_space text
  have joins : ' ' :: (spaces count ++ back) = spaces (count + 1) ++ back := rfl
  rw [joins] at quoted ⊢
  have rest : QuotedText back := quoted.of_append
  have solid : ∀ c ∈ back.head?, isGap c = false := by
    intro c head
    cases back with
    | nil => cases head
    | cons first back =>
      cases head
      have stays : isBreak c = false := by
        have trimmed := quoted.trimmed
        rw [spaces, List.replicate_succ', List.append_assoc] at trimmed
        exact hasAdjacent_append trimmed
      rw [isGap_of_not_break rest.shown.of_cons.1 stays, beq_eq_false_iff_ne]
      exact fun same => other (congrArg some same)
  refine ⟨{ Gap.none with blanks := spaces (count + 1) }, spaces (count + 1), back, rfl,
    List.cons_ne_nil _ _, rest, ?_, rfl, fun broken => by cases broken⟩
  rw [closedSingle_spaces, takeGap_spaces _ _ rfl, takeGap_stop _ _ (closedSingle_head solid)]
  rfl

/-- A text is written well between single quotes. -/
theorem quotedWell_single {indent : Nat} (deep : indent ≠ 0) {after : List Char}
    (alone : after.head? ≠ some '\'') :
    QuotedWell singleWord (closedSingle indent after) isGap after QuotedText := by
  have closing : singleWord (closedSingle indent after []) = some ([], .closed, after) := by
    cases after with
    | nil => rfl
    | cons c after =>
      have other : c ≠ '\'' := fun same => alone (congrArg some same)
      simp [closedSingle, singleQuotedChars, singleWord, other]
  refine ⟨?_, ?_, ?_⟩
  · intro text quoted solid
    have read := closedSingle_append indent after text [] quoted.shown solid
    rw [List.append_nil, closing] at read
    simpa using read
  · intro front c text quoted solid gap
    have rest : QuotedText (c :: text) := quoted.of_append
    have read := singleWord_of_gap indent after gap text
    refine ⟨?_, rest⟩
    rw [closedSingle_append indent after front (c :: text) quoted.shown.of_append.1 solid, read]
    simp
  · intro c text quoted gap
    cases ends : isBreak c with
    | true => exact single_breaks deep quoted ends
    | false =>
      rw [isGap_of_not_break quoted.shown.of_cons.1 ends, beq_iff_eq] at gap
      subst gap
      exact single_spaces quoted

theorem length_le_singleQuotedChars (indent : Nat) (broken : Bool) (text : List Char) :
    text.length ≤ (singleQuotedChars indent broken text).length := by
  induction text generalizing broken with
  | nil => exact Nat.zero_le _
  | cons c text inductionHypothesis =>
    rw [singleQuotedChars]
    split
    · simpa using inductionHypothesis true
    · have rest := inductionHypothesis false
      split <;> simp <;> omega

/-- A text between single quotes is read as it is. -/
theorem singleQuoted?_append {text : List Char} (quoted : QuotedText text) {indent : Nat}
    (deep : indent ≠ 0) {after : List Char} (alone : after.head? ≠ some '\'') :
    singleQuoted? (singleQuotedChars indent false text ++ '\'' :: after) = some (text, after) := by
  refine (quotedWell_single deep alone).quotedFrom_eq _ ?_ quoted
  have long := length_le_singleQuotedChars indent false text
  rw [List.length_append]
  omega

section Double

/-- The value of digits read after others. -/
def hexValue? (total : Nat) (digits : List Char) : Option Nat :=
  digits.foldlM (fun total c => (hexDigit? c).map (total * 16 + ·)) total

theorem hexValue?_append (total : Nat) (first second : List Char) :
    hexValue? total (first ++ second) = (hexValue? total first).bind (hexValue? · second) :=
  List.foldlM_append

/-- Upper-case digits have the values of the digits that they stand for. -/
theorem hexDigit?_digitChar {digit : Nat} (small : digit < 16) :
    hexDigit? digit.digitChar.toUpper = some digit := by
  have all : ∀ digit : Fin 16, hexDigit? digit.val.digitChar.toUpper = some digit.val := by decide
  exact all ⟨digit, small⟩

/-- The digits of a number name it. -/
theorem hexValue?_toDigits (value : Nat) :
    hexValue? 0 ((Nat.toDigits 16 value).map Char.toUpper) = some value := by
  induction value using Nat.strongRecOn with
  | _ value inductionHypothesis =>
    by_cases small : value < 16
    · rw [Nat.toDigits_of_lt_base small]
      simp [hexValue?, hexDigit?_digitChar small]
    · have split : 16 * (value / 16) + value % 16 = value := Nat.div_add_mod value 16
      have digit : value % 16 < 16 := Nat.mod_lt value (by decide)
      have positive : 0 < value / 16 := Nat.div_pos (Nat.le_of_not_lt small) (by decide)
      rw [← split, ← Nat.toDigits_append_toDigits (by decide) positive digit, List.map_append,
        hexValue?_append, inductionHypothesis _ (by omega), Nat.toDigits_of_lt_base digit]
      simp [hexValue?, hexDigit?_digitChar digit, Nat.mul_comm]

/-- Zeros before the digits make no difference. -/
theorem hexValue?_zeros (count : Nat) (digits : List Char) :
    hexValue? 0 (List.replicate count '0' ++ digits) = hexValue? 0 digits := by
  induction count with
  | zero => rfl
  | succ count inductionHypothesis =>
    rw [List.replicate_succ, List.cons_append, ← inductionHypothesis]
    rfl

/-- A number that fits is written in as many digits as there is room for. -/
theorem length_paddedHex {width value : Nat} (room : 0 < width) (fits : value < Nat.pow 16 width) :
    (paddedHex width value).length = width := by
  have short : (Nat.toDigits 16 value).length ≤ width :=
    (Nat.length_toDigits_le_iff (by decide) room).mpr fits
  simp only [paddedHex, List.length_append, List.length_replicate, List.length_map]
  omega

theorem hexValue?_paddedHex (width value : Nat) :
    hexValue? 0 (paddedHex width value) = some value := by
  rw [paddedHex, hexValue?_zeros, hexValue?_toDigits]

theorem hexChar?_paddedHex (width : Nat) (c : Char) :
    hexChar? (paddedHex width c.toNat) = some c := by
  have value := hexValue?_paddedHex width c.toNat
  have valid : c.toNat.isValidChar := c.valid
  unfold hexValue? at value
  simp [hexChar?, value, valid]

/-- A word goes on after a letter that stands for a character. -/
theorem doubleWord_letter {letter c : Char} (escape : letterEscape? letter = some c)
    (solid : isBreak letter = false) (rest : List Char) :
    doubleWord ('\\' :: letter :: rest) =
      (doubleWord rest).map fun (word, close, after) => (c :: word, close, after) := by
  have notByte : letter ≠ 'x' := by
    rintro rfl
    exact nomatch escape
  have notShort : letter ≠ 'u' := by
    rintro rfl
    exact nomatch escape
  have notLong : letter ≠ 'U' := by
    rintro rfl
    exact nomatch escape
  have notReturn : letter ≠ '\r' := by
    rintro rfl
    exact nomatch solid
  rw [doubleWord]
  · rw [if_neg (by simp [solid]), escape]
    cases doubleWord rest <;> rfl
  · exact fun _ _ _ same _ => notByte same
  · exact fun _ _ _ _ _ same _ => notShort same
  · exact fun _ _ _ _ _ _ _ _ _ same _ => notLong same
  · exact fun _ same _ => notReturn same

/-- A word goes on after the digits that stand for a character. -/
theorem doubleWord_digits (c : Char) (rest : List Char) :
    let code := c.toNat
    doubleWord ((if code ≤ 0xFF then '\\' :: 'x' :: paddedHex 2 code
      else if code ≤ 0xFFFF then '\\' :: 'u' :: paddedHex 4 code
      else '\\' :: 'U' :: paddedHex 8 code) ++ rest) =
      (doubleWord rest).map fun (word, close, after) => (c :: word, close, after) := by
  intro code
  have read : ∀ width, hexChar? (paddedHex width code) = some c := fun width =>
    hexChar?_paddedHex width c
  have size : ∀ width, 0 < width → code < 16 ^ width → (paddedHex width code).length = width :=
    fun _ => length_paddedHex
  split
  · next byte =>
    have digits := size 2 (by decide) (by omega)
    have value := read 2
    generalize paddedHex 2 code = written at digits value
    obtain ⟨a, b, rfl⟩ := List.length_eq_two.mp digits
    simp only [List.cons_append, List.nil_append, doubleWord, value]
    cases doubleWord rest <;> rfl
  · split
    · next short =>
      have digits := size 4 (by decide) (by omega)
      have value := read 4
      generalize paddedHex 4 code = written at digits value
      match written, digits with
      | [a, b, d, e], _ =>
        simp only [List.cons_append, List.nil_append, doubleWord, value]
        cases doubleWord rest <;> rfl
    · have small : code < 2 ^ 32 := c.val.toNat_lt
      have digits := size 8 (by decide) (by omega)
      have value := read 8
      generalize paddedHex 8 code = written at digits value
      match written, digits with
      | [a, b, d, e, f, g, h, i], _ =>
        simp only [List.cons_append, List.nil_append, doubleWord, value]
        cases doubleWord rest <;> rfl

/-- A word goes on after any character but the space. -/
theorem doubleWord_char {c : Char} (solid : c ≠ ' ') (rest : List Char) :
    doubleWord (doubleQuotedChar c ++ rest) =
      (doubleWord rest).map fun (word, close, after) => (c :: word, close, after) := by
  unfold doubleQuotedChar
  split
  · next plain =>
    simp only [Bool.and_eq_true, Bool.not_eq_true', bne_iff_ne] at plain
    obtain ⟨⟨⟨shown, stays⟩, quote⟩, backslash⟩ := plain
    have gap : isGap c = false := by
      rw [isGap_of_not_break shown stays]
      exact beq_eq_false_iff_ne.mpr solid
    rw [List.singleton_append, doubleWord]
    · rw [if_neg (by simp [gap]), if_neg backslash]
    all_goals grind
  · unfold doubleEscape
    split
    case h_15 => exact doubleWord_digits c rest
    all_goals exact doubleWord_letter rfl rfl rest

/-- A text with its closing quote, and what follows it. -/
def closedDouble (after text : List Char) : List Char :=
  text.flatMap doubleQuotedChar ++ '"' :: after

theorem closedDouble_cons (after : List Char) (c : Char) (text : List Char) :
    closedDouble after (c :: text) = doubleQuotedChar c ++ closedDouble after text := by
  simp [closedDouble]

/-- Characters other than the space are read up to the end of their word. -/
theorem closedDouble_append (after front text : List Char)
    (solid : ∀ c ∈ front, (c == ' ') = false) :
    doubleWord (closedDouble after (front ++ text)) =
      (doubleWord (closedDouble after text)).map
        fun (word, close, after) => (front ++ word, close, after) := by
  induction front with
  | nil => simp
  | cons c front inductionHypothesis =>
    have other : c ≠ ' ' := beq_eq_false_iff_ne.mp (solid c List.mem_cons_self)
    rw [List.cons_append, closedDouble_cons, doubleWord_char other, inductionHypothesis
      fun other member => solid other (List.mem_cons_of_mem c member), Option.map_map]
    rfl

theorem closedDouble_spaces (count : Nat) (after text : List Char) :
    closedDouble after (spaces count ++ text) = spaces count ++ closedDouble after text := by
  have written : doubleQuotedChar ' ' = [' '] := by decide
  induction count with
  | zero => rfl
  | succ count inductionHypothesis =>
    rw [spaces, List.replicate_succ, List.cons_append, closedDouble_cons, written]
    exact congrArg (' ' :: ·) inductionHypothesis

/-- What is written for a character other than the space does not start with a gap. -/
theorem doubleQuotedChar_head {c : Char} (solid : c ≠ ' ') :
    ∃ first others, doubleQuotedChar c = first :: others ∧ isGap first = false := by
  unfold doubleQuotedChar
  split
  · next plain =>
    simp only [Bool.and_eq_true, Bool.not_eq_true'] at plain
    refine ⟨c, [], rfl, ?_⟩
    rw [isGap_of_not_break plain.1.1.1 plain.1.1.2]
    exact beq_eq_false_iff_ne.mpr solid
  · unfold doubleEscape
    split
    case h_15 =>
      dsimp only
      split
      · exact ⟨'\\', _, rfl, rfl⟩
      · split
        · exact ⟨'\\', _, rfl, rfl⟩
        · exact ⟨'\\', _, rfl, rfl⟩
    all_goals exact ⟨'\\', _, rfl, rfl⟩

/-- Any text is written well between double quotes. -/
theorem quotedWell_double (after : List Char) :
    QuotedWell doubleWord (closedDouble after) (· == ' ') after fun _ => True := by
  have closing : doubleWord (closedDouble after []) = some ([], .closed, after) := by
    simp [closedDouble, doubleWord]
  refine ⟨?_, ?_, ?_⟩
  · intro text _ solid
    have read := closedDouble_append after text [] solid
    rw [List.append_nil, closing] at read
    simpa using read
  · intro front c text _ solid gap
    have space : c = ' ' := beq_iff_eq.mp gap
    subst space
    have read : doubleWord (closedDouble after (' ' :: text)) =
        some ([], .gap, closedDouble after (' ' :: text)) := by
      have written : closedDouble after (' ' :: text) = ' ' :: closedDouble after text :=
        closedDouble_spaces 1 after text
      rw [written]
      simp [doubleWord, isGap, isBlank]
    refine ⟨?_, trivial⟩
    rw [closedDouble_append after front _ solid, read]
    simp
  · intro c text _ gap
    obtain ⟨count, back, joins, other⟩ := takeWhile_space (c :: text)
    have space : c = ' ' := beq_iff_eq.mp gap
    have some' : spaces count ≠ [] := by
      intro none
      rw [none, List.nil_append] at joins
      exact other (joins ▸ congrArg some space)
    have solid : ∀ c ∈ (closedDouble after back).head?, isGap c = false := by
      intro first head
      cases back with
      | nil =>
        cases head
        decide
      | cons c back =>
        have different : c ≠ ' ' := fun same => other (congrArg some same)
        obtain ⟨start, others, written, stays⟩ := doubleQuotedChar_head different
        rw [closedDouble_cons, written] at head
        cases head
        exact stays
    refine ⟨{ Gap.none with blanks := spaces count }, spaces count, back, joins, some', trivial, ?_,
      rfl, fun broken => by cases broken⟩
    rw [joins, closedDouble_spaces, takeGap_spaces _ _ rfl, takeGap_stop _ _ solid]
    rfl

theorem length_le_doubleQuoted (text : List Char) :
    text.length ≤ (text.flatMap doubleQuotedChar).length := by
  induction text with
  | nil => exact Nat.zero_le _
  | cons c text inductionHypothesis =>
    have filled : 0 < (doubleQuotedChar c).length := by
      by_cases space : c = ' '
      · subst space
        decide
      · obtain ⟨first, others, written, -⟩ := doubleQuotedChar_head space
        rw [written]
        exact Nat.zero_lt_succ _
    rw [List.flatMap_cons, List.length_append, List.length_cons]
    omega

/-- A text between double quotes is read as it is. -/
theorem doubleQuoted?_append (text after : List Char) :
    doubleQuoted? (text.flatMap doubleQuotedChar ++ '"' :: after) = some (text, after) := by
  refine (quotedWell_double after).quotedFrom_eq _ ?_ trivial
  have long := length_le_doubleQuoted text
  rw [List.length_append]
  omega

end Double

end Flowdesk.Yaml
