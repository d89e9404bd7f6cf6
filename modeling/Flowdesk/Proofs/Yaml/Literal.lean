import Flowdesk.Proofs.Yaml.Quoted

/-!
# Literal blocks are read back

A literal block is lines of content with breaks between them, and more breaks at its end.
Each line of content is indented as deep as the block, so reading it takes exactly that
indentation away, and the spaces that a line starts with by itself are kept. What follows
the block is indented less, which is where reading stops.
-/

namespace Flowdesk.Yaml

/-- Whether these characters all end lines. -/
def AllBreaks (text : List Char) : Prop := ∀ c ∈ text, isBreak c = true

/-- As much indentation is taken as is allowed. -/
theorem takeIndent_all (count : Nat) (rest : List Char) :
    takeIndent (some count) (spaces count ++ rest) = (count, rest) := by
  induction count with
  | zero => cases rest <;> unfold takeIndent <;> grind [spaces]
  | succ count inductionHypothesis =>
    rw [spaces, List.replicate_succ, List.cons_append, takeIndent]
    rw [spaces] at inductionHypothesis
    rw [inductionHypothesis]

/-- Spaces are taken up to what is no space. -/
theorem takeIndent_spaces {limit : Option Nat} {count : Nat} {rest : List Char}
    (within : ∀ most ∈ limit, count ≤ most) (other : rest.head? ≠ some ' ') :
    takeIndent limit (spaces count ++ rest) = (count, rest) := by
  induction count generalizing limit with
  | zero =>
    unfold takeIndent
    grind [spaces]
  | succ count inductionHypothesis =>
    cases limit with
    | none =>
      have more : takeIndent none (spaces count ++ rest) = (count, rest) :=
        inductionHypothesis fun _ bound => by cases bound
      rw [spaces] at more
      rw [spaces, List.replicate_succ, List.cons_append, takeIndent, more]
    | some most =>
      cases most with
      | zero => exact absurd (within 0 rfl) (Nat.not_succ_le_zero count)
      | succ most =>
        have less : ∀ bound ∈ some most, count ≤ bound := by
          intro bound same
          cases same
          exact Nat.le_of_succ_le_succ (within (most + 1) rfl)
        have more := inductionHypothesis less
        rw [spaces] at more
        rw [spaces, List.replicate_succ, List.cons_append, takeIndent, more]

/-- Lines without content are passed over up to one that has some. -/
theorem emptyLines_append {limit : Option Nat} {breaks : List Char} (shown : Shown breaks)
    (all : AllBreaks breaks) {chars rest : List Char} {column : Nat}
    (indented : takeIndent limit chars = (column, rest))
    (stands : ∀ c ∈ rest.head?, isBreak c = false ∧ c ≠ '\t') (before : List Char) (widest : Nat)
    {fuel : Nat} (enough : breaks.length < fuel) :
    emptyLines limit before widest fuel (breaks ++ chars) =
      some ⟨before ++ breaks, max widest column, column, rest⟩ := by
  induction breaks generalizing before widest fuel with
  | nil =>
    obtain ⟨fuel, rfl⟩ := Nat.exists_eq_succ_of_ne_zero (Nat.ne_of_gt enough)
    have noTab : rest.head? ≠ some '\t' := fun head => (stands _ head).2 rfl
    have noBreak : takeBreak? rest = none := by
      cases rest with
      | nil => rfl
      | cons c rest =>
        rw [← Option.not_isSome_iff_eq_none, takeBreak?_isSome, (stands c rfl).1]
        exact nofun
    simp [emptyLines, indented, noTab, noBreak]
  | cons c breaks inductionHypothesis =>
    obtain ⟨fuel, rfl⟩ := Nat.exists_eq_succ_of_ne_zero (Nat.ne_of_gt (Nat.zero_lt_of_lt enough))
    have ends : isBreak c = true := all c List.mem_cons_self
    have column : takeIndent limit (c :: (breaks ++ chars)) = (0, c :: (breaks ++ chars)) := by
      refine @takeIndent_spaces limit 0 (c :: (breaks ++ chars)) (fun _ _ => Nat.zero_le _) ?_
      intro head
      cases head
      exact absurd ends (by decide)
    have noTab : c ≠ '\t' := by
      rintro rfl
      exact absurd ends (by decide)
    have more := inductionHypothesis shown.of_cons.2
      (fun other member => all other (List.mem_cons_of_mem c member)) (before ++ [c])
      (max widest 0) (Nat.lt_of_succ_lt_succ enough)
    rw [List.append_assoc, Nat.max_zero] at more
    simp [emptyLines, column, noTab, takeBreak?_of_shown shown.of_cons.1 ends, more]

/-- Breaks are written as they are, and a line starts after them. -/
theorem literalChars_breaks (indent : Nat) {breaks : List Char} (all : AllBreaks breaks)
    (text : List Char) :
    literalChars indent true (breaks ++ text) = breaks ++ literalChars indent true text := by
  induction breaks with
  | nil => rfl
  | cons c breaks inductionHypothesis =>
    rw [List.cons_append, literalChars, if_pos (all c List.mem_cons_self),
      inductionHypothesis fun other member => all other (List.mem_cons_of_mem c member)]
    rfl

/-- Breaks at the end are written as they are. -/
theorem literalChars_ending (indent : Nat) (broken : Bool) (text : List Char)
    {breaks : List Char} (all : AllBreaks breaks) :
    literalChars indent broken (text ++ breaks) = literalChars indent broken text ++ breaks := by
  induction text generalizing broken with
  | nil =>
    cases breaks with
    | nil => rfl
    | cons c breaks =>
      have ends : isBreak c = true := all c List.mem_cons_self
      have rest : literalChars indent true breaks = breaks := by
        have written := literalChars_breaks indent
          (fun other member => all other (List.mem_cons_of_mem c member)) []
        simpa [literalChars] using written
      simp [literalChars, ends, rest]
  | cons c text inductionHypothesis =>
    rw [List.cons_append, literalChars, literalChars]
    split
    · rw [inductionHypothesis]
      rfl
    · rw [inductionHypothesis]
      simp

/-- A line with content is indented. -/
theorem literalChars_indented (indent : Nat) {c : Char} (stays : isBreak c = false)
    (text : List Char) :
    literalChars indent true (c :: text) =
      spaces indent ++ literalChars indent false (c :: text) := by
  simp [literalChars, stays]

/-- The rest of a line is written as it is. -/
theorem literalChars_line (indent : Nat) {line : List Char}
    (unbroken : ∀ c ∈ line, isBreak c = false) (text : List Char) :
    literalChars indent false (line ++ text) = line ++ literalChars indent false text := by
  induction line with
  | nil => rfl
  | cons c line inductionHypothesis =>
    have stays : isBreak c = false := unbroken c List.mem_cons_self
    have more := inductionHypothesis fun other member =>
      unbroken other (List.mem_cons_of_mem c member)
    simp [literalChars, stays, more]

/-- What a block starts and ends with that has lines of content: neither of it is a break. -/
structure Content (text : List Char) : Prop where
  filled : text ≠ []
  shown : Shown text
  first : ∀ c ∈ text.head?, isBreak c = false
  last : ∀ c ∈ text.getLast?, isBreak c = false

/-- Content is one line, or a line with breaks and more content after it. -/
theorem Content.split {text : List Char} (content : Content text) :
    ∃ line, line ≠ [] ∧ (∀ c ∈ line, isBreak c = false) ∧
      (text = line ∨ ∃ c breaks more, text = line ++ c :: breaks ++ more ∧ isBreak c = true ∧
        AllBreaks breaks ∧ Content more) := by
  cases text with
  | nil => exact absurd rfl content.filled
  | cons first text =>
    have stays : isBreak first = false := content.first first rfl
    have filled : (first :: text).takeWhile (!isBreak ·) ≠ [] := by
      rw [List.takeWhile_cons_of_pos (by simp [stays])]
      exact List.cons_ne_nil _ _
    have unbroken : ∀ c ∈ (first :: text).takeWhile (!isBreak ·), isBreak c = false := by
      intro c member
      have stands := List.all_eq_true.mp List.all_takeWhile c member
      simpa using stands
    have joins : (first :: text).takeWhile (!isBreak ·) ++ (first :: text).dropWhile (!isBreak ·) =
        first :: text := List.takeWhile_append_dropWhile
    generalize (first :: text).takeWhile (!isBreak ·) = line at filled unbroken joins
    have head := List.head?_dropWhile_not (!isBreak ·) (first :: text)
    cases rest : (first :: text).dropWhile (!isBreak ·) with
    | nil =>
      rw [rest, List.append_nil] at joins
      exact ⟨line, filled, unbroken, .inl joins.symm⟩
    | cons c after =>
      rw [rest] at joins head
      have ends : isBreak c = true := by simpa using head
      obtain ⟨breaks, more, rfl, all, starts⟩ := takeWhile_break after
      refine ⟨line, filled, unbroken, .inr ⟨c, breaks, more, ?_, ends, all, ?_⟩⟩
      · rw [← joins]
        simp
      · have last : ∀ other ∈ (c :: breaks ++ more).getLast?, isBreak other = false := by
          intro other member
          refine content.last other ?_
          rw [← joins, List.getLast?_append_of_ne_nil line (List.cons_ne_nil c _)]
          exact member
        have filled' : more ≠ [] := by
          rintro rfl
          rw [List.append_nil] at last
          have final := List.getLast?_eq_some_getLast (List.cons_ne_nil c breaks)
          have stays := last _ final
          have ends' : isBreak ((c :: breaks).getLast (List.cons_ne_nil c breaks)) = true := by
            have last := List.getLast_mem (List.cons_ne_nil c breaks)
            rcases List.mem_cons.mp last with same | member
            · rw [same]
              exact ends
            · exact all _ member
          rw [ends'] at stays
          exact nomatch stays
        have shown := content.shown
        rw [← joins, ← List.cons_append] at shown
        refine ⟨filled', shown.of_append.2.of_append.2, starts, ?_⟩
        intro other member
        rw [List.getLast?_append_of_ne_nil _ filled'] at last
        exact last other member

/-- One line of a block is taken, with the break that ends it. -/
theorem blockLines_line (indent fuel : Nat) (before last between : List Char) (blank : Bool)
    (widest : Nat) {line : List Char} (filled : line ≠ [])
    (unbroken : ∀ c ∈ line, isBreak c = false) {final : Char} (shown : isPrintable final = true)
    (ends : isBreak final = true) (after : List Char) :
    blockLines true indent (fuel + 1)
        ⟨before, last, blank, ⟨between, widest, indent, line ++ final :: after⟩⟩ =
      (emptyLines (some indent) [] 0 (after.length + 1) after).bind fun lines =>
        blockLines true indent fuel
          ⟨before ++ last ++ between ++ line, [final], line.head?.any isBlank, lines⟩ := by
  have taken : (line ++ final :: after).takeWhile (!isBreak ·) = line := by
    rw [List.takeWhile_append_of_pos fun c member => by simp [unbroken c member],
      List.takeWhile_cons_of_neg (by simp [ends]), List.append_nil]
  have left : (line ++ final :: after).dropWhile (!isBreak ·) = final :: after := by
    rw [List.dropWhile_append_of_pos fun c member => by simp [unbroken c member],
      List.dropWhile_cons_of_neg (by simp [ends])]
  cases line with
  | nil => exact absurd rfl filled
  | cons c line =>
    rw [List.cons_append] at taken left ⊢
    simp only [blockLines, taken, left, takeBreak?_of_shown shown ends]
    simp

/-- A text that no gap starts does not start with a break or a tab either. -/
theorem stands_of_solid {front : List Char} (solid : ∀ c ∈ front.head?, isGap c = false) :
    ∀ c ∈ front.head?, isBreak c = false ∧ c ≠ '\t' := by
  intro c head
  obtain ⟨blank, stays⟩ := Bool.or_eq_false_iff.mp (solid c head)
  refine ⟨stays, ?_⟩
  rintro rfl
  exact absurd blank (by decide)

theorem head?_ne_space {front : List Char} (solid : ∀ c ∈ front.head?, isGap c = false) :
    front.head? ≠ some ' ' :=
  fun head => absurd (solid ' ' head) (by decide)

section Block

variable {indent column : Nat} {front : List Char}

/-- What follows a block is indented less, after the breaks that end the block. -/
theorem emptyLines_shallow (shallow : column < indent)
    (solid : ∀ c ∈ front.head?, isGap c = false) {breaks : List Char} (shown : Shown breaks)
    (all : AllBreaks breaks) {fuel : Nat} (enough : breaks.length < fuel) :
    emptyLines (some indent) [] 0 fuel (breaks ++ (spaces column ++ front)) =
      some ⟨breaks, column, column, front⟩ := by
  have indented : takeIndent (some indent) (spaces column ++ front) = (column, front) := by
    refine takeIndent_spaces ?_ (head?_ne_space solid)
    intro most same
    cases same
    exact Nat.le_of_lt shallow
  rw [emptyLines_append shown all indented (stands_of_solid solid) [] 0 enough, Nat.zero_max]
  rfl

/-- Reading stops at what is indented less. -/
theorem blockLines_stop (shallow : column < indent) (fuel : Nat) (text last breaks : List Char)
    (blank : Bool) (widest : Nat) :
    blockLines true indent (fuel + 1) ⟨text, last, blank, ⟨breaks, widest, column, front⟩⟩ =
      some ⟨text, last, blank, ⟨breaks, widest, column, front⟩⟩ := by
  cases front with
  | nil => rfl
  | cons c front => simp [blockLines, Nat.ne_of_lt shallow]

/-- The lines of a block are read as they were, up to the breaks at its end. -/
theorem blockLines_content (shallow : column < indent)
    (solid : ∀ c ∈ front.head?, isGap c = false) {final : Char} {breaks : List Char}
    (shown : Shown (final :: breaks)) (ends : isBreak final = true) (all : AllBreaks breaks)
    {text : List Char} (content : Content text) {fuel : Nat} (enough : text.length < fuel)
    (before last between : List Char) (blank : Bool) (widest : Nat) :
    ∃ blank', blockLines true indent fuel ⟨before, last, blank, ⟨between, widest, indent,
        literalChars indent false text ++ (final :: breaks ++ (spaces column ++ front))⟩⟩ =
      some ⟨before ++ last ++ between ++ text, [final], blank',
        ⟨breaks, column, column, front⟩⟩ := by
  induction fuel generalizing text before last between blank widest with
  | zero => exact nomatch enough
  | succ fuel inductionHypothesis =>
    obtain ⟨line, filled, unbroken, rfl | ⟨c, others, more, rfl, ends', all', rest⟩⟩ :=
      content.split
    · have written : literalChars indent false text = text := by
        have plain := literalChars_line indent unbroken []
        simpa [literalChars] using plain
      obtain ⟨fuel, rfl⟩ : ∃ further, fuel = further + 1 :=
        Nat.exists_eq_succ_of_ne_zero fun same => filled (List.eq_nil_of_length_eq_zero (by omega))
      refine ⟨text.head?.any isBlank, ?_⟩
      rw [written, List.cons_append,
        blockLines_line indent _ before last between blank widest filled unbroken
          shown.of_cons.1 ends, emptyLines_shallow shallow solid shown.of_cons.2 all
        (by simp only [List.length_append]; omega), Option.bind_some, blockLines_stop shallow]
    · have shown' : Shown (c :: others) := content.shown.of_append.1.of_append.2
      obtain ⟨first, more, rfl⟩ : ∃ first others, more = first :: others :=
        List.exists_cons_of_ne_nil rest.filled
      have stays : isBreak first = false := rest.first first rfl
      have written : literalChars indent false (line ++ c :: others ++ first :: more) =
          line ++ c ::
            (others ++ (spaces indent ++ literalChars indent false (first :: more))) := by
        rw [List.append_assoc, literalChars_line indent unbroken, List.cons_append, literalChars,
          if_pos ends', literalChars_breaks indent all', literalChars_indented indent stays]
      have lines := fun further (long : others.length < further) => emptyLines_append
        shown'.of_cons.2 all'
        (takeIndent_all indent (literalChars indent false (first :: more) ++
          (final :: breaks ++ (spaces column ++ front))))
        (by
          intro head same
          have head' : first = head := by
            simpa [literalChars, stays] using same
          subst head'
          refine ⟨stays, ?_⟩
          rintro rfl
          exact absurd (rest.shown _ List.mem_cons_self) (by decide)) [] 0 long
      have shorter : (first :: more).length < fuel := by
        simp only [List.length_append, List.length_cons] at enough ⊢
        omega
      obtain ⟨blank', read⟩ := inductionHypothesis rest shorter
        (before ++ last ++ between ++ line) [c] others (line.head?.any isBlank) indent
      refine ⟨blank', ?_⟩
      rw [written, List.append_assoc, List.cons_append,
        blockLines_line indent fuel before last between blank widest filled unbroken
          shown'.of_cons.1 ends', List.append_assoc, List.append_assoc,
        lines _ (by simp only [List.length_append]; omega), Option.bind_some, List.nil_append,
        Nat.zero_max, read]
      simp

end Block

/-- What becomes of the breaks at the end of a text, by the mark it is written with. -/
def literalChomping (text : List Char) : Chomping :=
  match text.reverse with
  | [] => .strip
  | final :: before =>
      if !isBreak final then .strip
      else if before.isEmpty || before.head?.any isBreak then .keep
      else .clip

/-- Whether the indentation of a text is written, as its first line does not tell. -/
def literalHint (text : List Char) : Bool := text.head?.any fun c => c == ' ' || isBreak c

/-- The marks of a block are read as they were meant. -/
theorem blockMarks_literalMarks (text rest : List Char) :
    blockMarks (literalMarks text ++ '\n' :: rest) =
      (⟨literalChomping text, if literalHint text then some 2 else none⟩, '\n' :: rest) := by
  unfold literalMarks literalChomping
  change blockMarks (((if literalHint text then ['2'] else []) ++ _) ++ _) = _
  cases literalHint text with
  | false => grind [blockMarks, chompingMark?, indentDigit?]
  | true => grind [blockMarks, chompingMark?, indentDigit?]

theorem literalChomping_strip {text : List Char}
    (last : ∀ c ∈ text.getLast?, isBreak c = false) : literalChomping text = .strip := by
  rw [List.getLast?_eq_head?_reverse] at last
  unfold literalChomping
  cases reversed : text.reverse with
  | nil => rfl
  | cons final before =>
    rw [reversed] at last
    simp [last final rfl]

theorem literalChomping_clip {text : List Char} (filled : text ≠ [])
    (last : ∀ c ∈ text.getLast?, isBreak c = false) {final : Char}
    (ends : isBreak final = true) : literalChomping (text ++ [final]) = .clip := by
  rw [List.getLast?_eq_head?_reverse] at last
  have filled : text.reverse ≠ [] := fun same => filled (List.reverse_eq_nil_iff.mp same)
  unfold literalChomping
  rw [List.reverse_append]
  cases reversed : text.reverse with
  | nil => exact absurd reversed filled
  | cons c before =>
    rw [reversed] at last
    simp [ends, last c rfl]

theorem literalChomping_keep (text : List Char) {first second : Char} {breaks : List Char}
    (all : AllBreaks (first :: second :: breaks)) :
    literalChomping (text ++ first :: second :: breaks) = .keep := by
  have reversed : ∃ final before others, (first :: second :: breaks).reverse =
      final :: before :: others := by
    cases rest : (first :: second :: breaks).reverse with
    | nil => exact absurd rest (by simp)
    | cons final others =>
      cases others with
      | nil =>
        have lengths := congrArg List.length rest
        simp at lengths
      | cons before others => exact ⟨final, before, others, rfl⟩
  obtain ⟨final, before, others, reversed⟩ := reversed
  have ends : ∀ c ∈ final :: before :: others, isBreak c = true := by
    intro c member
    rw [← reversed] at member
    exact all c (List.mem_reverse.mp member)
  have last : isBreak final = true := ends final List.mem_cons_self
  have next : isBreak before = true := ends before (List.mem_cons_of_mem _ List.mem_cons_self)
  simp [literalChomping, List.reverse_append, reversed, last, next]

/-- A text is content with breaks after it. -/
theorem split_ending (text : List Char) :
    ∃ content breaks, text = content ++ breaks ∧ AllBreaks breaks ∧
      ∀ c ∈ content.getLast?, isBreak c = false := by
  obtain ⟨breaks, back, reversed, all, stays⟩ := takeWhile_break text.reverse
  refine ⟨back.reverse, breaks.reverse, ?_, ?_, ?_⟩
  · rw [← List.reverse_append, ← reversed, List.reverse_reverse]
  · exact fun c member => all c (List.mem_reverse.mp member)
  · rw [List.getLast?_reverse]
    exact stays

/-- How a block ends: by the breaks of its text, or else by a line feed that is not part of
it. -/
def literalEnd (text : List Char) : List Char := if text.getLast?.any isBreak then [] else ['\n']

section Block

variable {column : Nat} {front : List Char}

/-- The start of a block is read up to its lines with content. -/
theorem block?_eq (outer : Nat) (text rest : List Char) :
    block? true (some outer) (literalMarks text ++ '\n' :: rest) =
      (emptyLines (if literalHint text then some (outer + 2) else none) [] 0 (rest.length + 1)
        rest).bind fun lines =>
        (blockLines true
          (if literalHint text then outer + 2 else max lines.widest (outer + 1))
          (rest.length + 1) ⟨[], [], false, lines⟩).bind fun last =>
            some (last.text ++ (match literalChomping text with
              | .strip => []
              | .clip => last.lastBreak
              | .keep => last.lastBreak ++ last.lines.breaks), last.lines.rest) := by
  have line : restOfLine? ('\n' :: rest) = some rest := by
    simp [restOfLine?, isBlank, takeBreak?]
  simp only [block?, blockMarks_literalMarks, line]
  cases literalHint text <;> rfl

/-- Lines without content before the first one that has some. -/
theorem emptyLines_content {text breaks more : List Char} (shown : Shown breaks)
    (all : AllBreaks breaks) (content : Content more)
    (joins : ∃ ending, text = breaks ++ more ++ ending) (outer : Nat) (rest : List Char)
    {fuel : Nat} (enough : breaks.length < fuel) :
    emptyLines (if literalHint text then some (outer + 2) else none) [] 0 fuel
        (breaks ++ (spaces (outer + 2) ++ (literalChars (outer + 2) false more ++ rest))) =
      some ⟨breaks, outer + 2, outer + 2, literalChars (outer + 2) false more ++ rest⟩ := by
  obtain ⟨first, more, rfl⟩ : ∃ first others, more = first :: others :=
    List.exists_cons_of_ne_nil content.filled
  have stays : isBreak first = false := content.first first rfl
  obtain ⟨ending, rfl⟩ := joins
  have written : literalChars (outer + 2) false (first :: more) ++ rest =
      first :: (literalChars (outer + 2) false more ++ rest) := by
    simp [literalChars, stays]
  have indented : takeIndent
      (if literalHint (breaks ++ first :: more ++ ending) then some (outer + 2) else none)
      (spaces (outer + 2) ++ (literalChars (outer + 2) false (first :: more) ++ rest)) =
        (outer + 2, literalChars (outer + 2) false (first :: more) ++ rest) := by
    cases hint : literalHint (breaks ++ first :: more ++ ending) with
    | true => exact takeIndent_all _ _
    | false =>
      refine takeIndent_spaces nofun ?_
      rw [written]
      intro same
      cases same
      cases breaks with
      | nil => exact nomatch hint
      | cons c breaks =>
        have ends : isBreak c = true := all c List.mem_cons_self
        simp [literalHint, ends] at hint
  rw [emptyLines_append shown all indented ?_ [] 0 enough, Nat.zero_max]
  · rfl
  · rw [written]
    intro c head
    cases head
    refine ⟨stays, ?_⟩
    rintro rfl
    exact absurd (content.shown _ List.mem_cons_self) (by decide)

/-- A block of breaks alone. -/
theorem block?_breaks {outer : Nat} (shallow : column < outer + 2)
    (solid : ∀ c ∈ front.head?, isGap c = false) {text : List Char} (filled : text ≠ [])
    (shown : Shown text) (all : AllBreaks text) :
    block? true (some outer)
        (literalMarks text ++ '\n' :: (text ++ (spaces column ++ front))) = some (text, front) := by
  obtain ⟨first, others, rfl⟩ := List.exists_cons_of_ne_nil filled
  have ends : isBreak first = true := all first List.mem_cons_self
  have hint : literalHint (first :: others) = true := by simp [literalHint, ends]
  have keeps : literalChomping (first :: others) = .keep := by
    cases others with
    | nil => simp [literalChomping, ends]
    | cons second others => exact literalChomping_keep [] all
  simp only [block?_eq, hint, if_true]
  rw [emptyLines_shallow shallow solid shown all (by simp only [List.length_append]; omega),
    Option.bind_some, blockLines_stop shallow, Option.bind_some, keeps]
  rfl

theorem length_le_literalChars (indent : Nat) (broken : Bool) (text : List Char) :
    text.length ≤ (literalChars indent broken text).length := by
  induction text generalizing broken with
  | nil => exact Nat.zero_le _
  | cons c text inductionHypothesis =>
    rw [literalChars]
    split
    · simpa using inductionHypothesis true
    · have rest := inductionHypothesis false
      simp only [List.length_append, List.length_cons]
      omega

/-- A block with content. -/
theorem block?_content {outer : Nat} (shallow : column < outer + 2)
    (solid : ∀ c ∈ front.head?, isGap c = false) {breaks more ending : List Char} {final : Char}
    {others : List Char} (shown : Shown breaks) (all : AllBreaks breaks) (content : Content more)
    (shown' : Shown (final :: others)) (ends : isBreak final = true) (all' : AllBreaks others)
    (kept : (match literalChomping (breaks ++ more ++ ending) with
      | .strip => []
      | .clip => [final]
      | .keep => [final] ++ others) = ending) :
    block? true (some outer) (literalMarks (breaks ++ more ++ ending) ++
        '\n' :: (breaks ++ (spaces (outer + 2) ++ (literalChars (outer + 2) false more ++
          (final :: others ++ (spaces column ++ front)))))) =
      some (breaks ++ more ++ ending, front) := by
  have depth : (if literalHint (breaks ++ more ++ ending) then outer + 2
      else max (outer + 2) (outer + 1)) = outer + 2 := by
    split <;> omega
  have enough : more.length <
      (breaks ++ (spaces (outer + 2) ++ (literalChars (outer + 2) false more ++
        (final :: others ++ (spaces column ++ front))))).length + 1 := by
    have long := length_le_literalChars (outer + 2) false more
    simp only [List.length_append]
    omega
  obtain ⟨blank, read⟩ := blockLines_content shallow solid shown' ends all' content enough [] []
    breaks false (outer + 2)
  rw [block?_eq, emptyLines_content shown all content ⟨ending, rfl⟩ outer _
    (by simp only [List.length_append]; omega), Option.bind_some, depth, read, Option.bind_some,
    kept]
  rfl

/-- The breaks at the end of a block are those of its text, or one line feed that its mark
takes away. -/
theorem literalEnd_eq {text : List Char} (filled : text ≠ [])
    (last : ∀ c ∈ text.getLast?, isBreak c = false) {ending : List Char} (shown : Shown ending)
    (all : AllBreaks ending) :
    ∃ final others, ending ++ literalEnd (text ++ ending) = final :: others ∧
      Shown (final :: others) ∧ isBreak final = true ∧ AllBreaks others ∧
      (match literalChomping (text ++ ending) with
        | .strip => []
        | .clip => [final]
        | .keep => [final] ++ others) = ending := by
  have kept : ∀ first others, ending = first :: others → literalEnd (text ++ ending) = [] := by
    rintro first others rfl
    have final := List.getLast?_eq_some_getLast (List.cons_ne_nil first others)
    rw [literalEnd, List.getLast?_append_of_ne_nil text (List.cons_ne_nil first others), final,
      Option.any_some, all _ (List.getLast_mem (List.cons_ne_nil first others)), if_pos rfl]
  match ending, shown, all, kept with
  | [], _, _, _ =>
    have added : literalEnd (text ++ []) = ['\n'] := by
      rw [List.append_nil, literalEnd, List.getLast?_eq_some_getLast filled, Option.any_some,
        last _ (List.getLast?_eq_some_getLast filled)]
      rfl
    refine ⟨'\n', [], by rw [added]; rfl, ?_, by decide, nofun, ?_⟩
    · intro c member
      rw [List.mem_singleton.mp member]
      decide
    · rw [List.append_nil, literalChomping_strip last]
  | [final], shown, all, kept =>
    have ends : isBreak final = true := all final List.mem_cons_self
    refine ⟨final, [], by rw [kept final [] rfl]; rfl, shown, ends, nofun, ?_⟩
    rw [literalChomping_clip filled last ends]
  | first :: second :: breaks, shown, all, kept =>
    refine ⟨first, second :: breaks, by rw [kept first _ rfl, List.append_nil], shown,
      all first List.mem_cons_self, fun c member => all c (List.mem_cons_of_mem first member), ?_⟩
    rw [literalChomping_keep text all]
    rfl

/-- A literal block is read as it is. -/
theorem block?_literal {text : List Char} (literal : LiteralText text) {outer : Nat}
    (shallow : column < outer + 2) (solid : ∀ c ∈ front.head?, isGap c = false) :
    block? true (some outer) (literalMarks text ++ '\n' :: (literalChars (outer + 2) true text ++
      (literalEnd text ++ (spaces column ++ front)))) = some (text, front) := by
  obtain ⟨content, ending, rfl, all, last⟩ := split_ending text
  obtain ⟨breaks, more, rfl, all', first⟩ := takeWhile_break content
  obtain ⟨shown, shownEnd⟩ := literal.shown.of_append
  by_cases filled : more = []
  · subst filled
    have whole : AllBreaks (breaks ++ [] ++ ending) := by
      intro c member
      rw [List.append_nil] at member
      rcases List.mem_append.mp member with early | late
      · exact all' c early
      · exact all c late
    have ends : literalEnd (breaks ++ [] ++ ending) = [] := by
      rw [literalEnd, List.getLast?_eq_some_getLast literal.filled, Option.any_some,
        whole _ (List.getLast_mem literal.filled), if_pos rfl]
    have written := literalChars_breaks (outer + 2) whole []
    rw [List.append_nil] at written
    rw [ends, List.nil_append, written, literalChars, List.append_nil (_ ++ _ ++ _)]
    exact block?_breaks shallow solid literal.filled literal.shown whole
  · obtain ⟨shownBreaks, shownMore⟩ := shown.of_append
    rw [List.getLast?_append_of_ne_nil breaks filled] at last
    have content : Content more := ⟨filled, shownMore, first, last⟩
    have last' : ∀ c ∈ (breaks ++ more).getLast?, isBreak c = false := by
      rw [List.getLast?_append_of_ne_nil breaks filled]
      exact last
    obtain ⟨final, others, joins, shown', ends, allOthers, kept⟩ := literalEnd_eq
      (fun same => filled (List.append_eq_nil_iff.mp same).2) last' shownEnd all
    have written : literalChars (outer + 2) true (breaks ++ more ++ ending) =
        breaks ++ (spaces (outer + 2) ++ (literalChars (outer + 2) false more ++ ending)) := by
      obtain ⟨c, others, rfl⟩ := List.exists_cons_of_ne_nil filled
      rw [literalChars_ending _ _ _ all, literalChars_breaks _ all',
        literalChars_indented _ (first c rfl)]
      simp only [List.append_assoc]
    have read := block?_content shallow solid shownBreaks all' content shown' ends allOthers kept
    rw [← joins] at read
    rw [written]
    simp only [List.append_assoc] at read ⊢
    exact read

end Block

theorem shown_literalChars (indent : Nat) (broken : Bool) {text : List Char} (shown : Shown text) :
    Shown (literalChars indent broken text) := by
  induction text generalizing broken with
  | nil => exact nofun
  | cons c text inductionHypothesis =>
    have single : Shown [c] := by
      intro other member
      rw [List.mem_singleton.mp member]
      exact shown.of_cons.1
    rw [literalChars]
    split
    · exact single.append (inductionHypothesis true shown.of_cons.2)
    · refine Shown.append ?_ (single.append (inductionHypothesis false shown.of_cons.2))
      split
      · exact shown_spaces indent
      · exact nofun

theorem shown_literalMarks (text : List Char) : Shown (literalMarks text) := by
  intro c member
  have mark : c = '2' ∨ c = '-' ∨ c = '+' := by
    unfold literalMarks at member
    grind
  rcases mark with rfl | rfl | rfl
  · rfl
  · rfl
  · rfl

/-- The last character of a block is that of its text. -/
theorem literalChars_last (indent : Nat) (broken : Bool) (text : List Char) (c : Char) :
    ∃ body, literalChars indent broken (text ++ [c]) = body ++ [c] := by
  induction text generalizing broken with
  | nil =>
    by_cases ends : isBreak c = true
    · exact ⟨[], by simp [literalChars, ends]⟩
    · exact ⟨_, by simp [literalChars, ends]; rfl⟩
  | cons first text inductionHypothesis =>
    rw [List.cons_append, literalChars]
    split
    · obtain ⟨body, same⟩ := inductionHypothesis true
      exact ⟨first :: body, by rw [same]; rfl⟩
    · obtain ⟨body, same⟩ := inductionHypothesis false
      exact ⟨_, by rw [same, ← List.cons_append, ← List.append_assoc]⟩

/-- A block ends with a break. -/
theorem literalChars_end (indent : Nat) {text : List Char} (literal : LiteralText text) :
    ∃ body final, literalChars indent true text ++ literalEnd text = body ++ [final] ∧
      Shown body ∧ isPrintable final = true ∧ isBreak final = true := by
  have shown := shown_literalChars indent true literal.shown
  obtain ⟨front, c, rfl⟩ : ∃ front c, text = front ++ [c] :=
    ⟨_, _, (List.dropLast_append_getLast literal.filled).symm⟩
  cases ends : isBreak c with
  | true =>
    obtain ⟨body, same⟩ := literalChars_last indent true front c
    rw [same] at shown
    refine ⟨body, c, ?_, shown.of_append.1, (shown.of_append.2).of_cons.1, ends⟩
    simp [literalEnd, ends, same]
  | false =>
    refine ⟨_, '\n', ?_, shown, by decide, by decide⟩
    simp [literalEnd, ends]

/-- The line of a block ends where its text does, or after it. -/
theorem endLine_literal (indent : Nat) {text : List Char} (literal : LiteralText text)
    (marks : List Char) :
    endLine (marks ++ '\n' :: literalChars indent true text) =
      marks ++ '\n' :: (literalChars indent true text ++ literalEnd text) := by
  obtain ⟨front, c, rfl⟩ : ∃ front c, text = front ++ [c] :=
    ⟨_, _, (List.dropLast_append_getLast literal.filled).symm⟩
  obtain ⟨body, same⟩ := literalChars_last indent true front c
  have last : (marks ++ '\n' :: (body ++ [c])).getLast? = some c := by
    rw [← List.cons_append, ← List.append_assoc, List.getLast?_append_of_ne_nil _ (by simp)]
    rfl
  rw [same, endLine, last, literalEnd, List.getLast?_append_of_ne_nil _ (List.cons_ne_nil c [])]
  cases ends : isBreak c <;> simp [ends]

end Flowdesk.Yaml
