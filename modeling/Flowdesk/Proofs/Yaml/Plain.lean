import Flowdesk.Proofs.Yaml.Form
import Flowdesk.Yaml.Scalar
import Mathlib.Data.List.Basic

/-!
# Plain scalars are read back

A plain scalar is read word by word, with the blanks between the words. A text that may
be written plainly has no word at which reading would stop, so reading goes on to what
ends every scalar: the colon after a key, or the end of the line.
-/

namespace Flowdesk.Yaml

/-- Nothing is taken where there is no gap. -/
theorem takeGap_stop (indent : Nat) (gap : Gap) {rest : List Char}
    (front : ∀ c ∈ rest.head?, isGap c = false) : takeGap indent gap rest = some (gap, rest) := by
  cases rest with
  | nil => rfl
  | cons c rest =>
    have solid : isGap c = false := front c rfl
    have blank : isBlank c = false := (Bool.or_eq_false_iff.mp solid).1
    have ends : isBreak c = false := (Bool.or_eq_false_iff.mp solid).2
    unfold takeGap
    split
    · next same => exact nomatch same
    · next same =>
      cases same
      exact absurd ends (by decide)
    · next same =>
      cases same
      have tab : ¬(c = '\t' ∧ gap.refusesTab indent = true) := by
        rintro ⟨rfl, -⟩
        exact absurd blank (by decide)
      rw [if_neg tab, blank, ends]
      rfl

/-- Spaces within a line are blanks. -/
theorem takeGap_spaces (indent : Nat) (gap : Gap) (within : gap.broken = false) (count : Nat)
    (rest : List Char) :
    takeGap indent gap (spaces count ++ rest) =
      takeGap indent { gap with blanks := gap.blanks ++ spaces count } rest := by
  induction count generalizing gap with
  | zero => rw [spaces, List.replicate_zero, List.append_nil]; rfl
  | succ count inductionHypothesis =>
    have added : gap.addBlank ' ' = { gap with blanks := gap.blanks ++ [' '] } := by
      rw [Gap.addBlank, within]
      rfl
    have first : takeGap indent gap (spaces (count + 1) ++ rest) =
        takeGap indent (gap.addBlank ' ') (spaces count ++ rest) := by
      simp [spaces, List.replicate_succ, takeGap, isBlank]
    rw [first, added]
    refine (inductionHypothesis { gap with blanks := gap.blanks ++ [' '] } within).trans ?_
    simp [spaces, List.replicate_succ]

/-- Spaces at the start of a line are columns. -/
theorem takeGap_columns (indent : Nat) (gap : Gap) (broken : gap.broken = true) (count : Nat)
    (rest : List Char) :
    takeGap indent gap (spaces count ++ rest) =
      takeGap indent { gap with column := gap.column + count } rest := by
  induction count generalizing gap with
  | zero => rfl
  | succ count inductionHypothesis =>
    have added : gap.addBlank ' ' = { gap with column := gap.column + 1 } := by
      rw [Gap.addBlank, broken]
      rfl
    have first : takeGap indent gap (spaces (count + 1) ++ rest) =
        takeGap indent (gap.addBlank ' ') (spaces count ++ rest) := by
      simp [spaces, List.replicate_succ, takeGap, isBlank]
    rw [first, added]
    refine (inductionHypothesis { gap with column := gap.column + 1 } broken).trans ?_
    rw [Nat.add_assoc, Nat.add_comm 1]

/-- A line feed and the spaces after it are one gap. -/
theorem takeGap_line (indent count : Nat) {front : List Char}
    (solid : ∀ c ∈ front.head?, isGap c = false) :
    takeGap indent .none ('\n' :: spaces count ++ front) =
      some (⟨[], true, ['\n'], [], count⟩, front) := by
  have first : takeGap indent .none ('\n' :: spaces count ++ front) =
      takeGap indent ⟨[], true, ['\n'], [], 0⟩ (spaces count ++ front) := by
    simp [takeGap, isBlank, isBreak, Gap.addBreak, Gap.none]
  rw [first, takeGap_columns _ _ rfl, takeGap_stop _ _ solid, Nat.zero_add]

/-- Whether a plain scalar ends before these characters. -/
def EndsPlain (after : List Char) : Prop :=
  gapNext after = true ∨ ∃ rest, after = ':' :: rest ∧ gapNext rest = true

theorem plainWord_of_ends {after : List Char} (ends : EndsPlain after) :
    plainWord false after = some ([], after) := by
  rcases ends with gap | ⟨rest, rfl, gap⟩
  · cases after with
    | nil => rfl
    | cons c rest =>
      have here : isGap c = true := gap
      simp [plainWord, here]
  · have colon : isGap ':' = false := by decide
    simp [plainWord, gap, colon]

/-- A word is read up to its first gap. -/
theorem plainWord_append {text after : List Char} {afterGap : Bool}
    (inside : endsInside afterGap text = false) (ends : EndsPlain after) :
    plainWord false (text ++ after) =
      some (text.takeWhile (!isGap ·), text.dropWhile (!isGap ·) ++ after) := by
  induction text generalizing afterGap with
  | nil => exact plainWord_of_ends ends
  | cons c text inductionHypothesis =>
    simp only [endsInside, Bool.or_eq_false_iff] at inside
    obtain ⟨⟨colon, -⟩, inside⟩ := inside
    rw [List.cons_append, plainWord]
    cases gap : isGap c with
    | true => simp [gap]
    | false =>
      have goesOn : (c == ':' && gapNext (text ++ after)) = false := by
        cases text with
        | nil =>
          have other : (c == ':') = false := by simpa [gapNext] using colon
          rw [other, Bool.false_and]
        | cons next text => exact colon
      simp [gap, goesOn, inductionHypothesis inside]

/-- Whether a scalar ends inside a text is said of all its ends. -/
theorem endsInside_after {afterGap : Bool} {front : List Char} {c : Char} {back : List Char}
    (inside : endsInside afterGap (front ++ c :: back) = false) :
    endsInside (isGap c) back = false := by
  induction front generalizing afterGap with
  | nil =>
    simp only [List.nil_append, endsInside, Bool.or_eq_false_iff] at inside
    exact inside.2
  | cons first front inductionHypothesis =>
    simp only [List.cons_append, endsInside, Bool.or_eq_false_iff] at inside
    exact inductionHypothesis inside.2

/-- A run of spaces, split off a text that does not end in a space. -/
theorem split_spaces {text : List Char} (last : text.getLast? ≠ some ' ') :
    ∃ count back, text = spaces count ++ back ∧ back.head? ≠ some ' ' ∧
      back.getLast? ≠ some ' ' ∧ (text ≠ [] → back ≠ []) := by
  induction text with
  | nil => exact ⟨0, [], rfl, nofun, nofun, id⟩
  | cons c text inductionHypothesis =>
    by_cases space : c = ' '
    · subst space
      have filled : text ≠ [] := by
        rintro rfl
        exact last rfl
      have last' : text.getLast? ≠ some ' ' := by
        rwa [List.getLast?_cons_of_ne_nil filled] at last
      obtain ⟨count, back, rfl, head, tail, rest⟩ := inductionHypothesis last'
      exact ⟨count + 1, back, rfl, head, tail, fun _ => rest filled⟩
    · exact ⟨0, c :: text, rfl, fun same => space (Option.some.inj same), last, id⟩

/-- How reading goes on after the last word of a plain scalar, and where it stops. -/
def Leaves (indent : Nat) (after rest : List Char) (broken : Bool) : Prop :=
  EndsPlain after ∧ ∀ fuel chars word, plainWord false chars = some (word, after) →
    plainFrom false indent (fuel + 1) chars = some ⟨word, rest, broken⟩

/-- A key ends before its colon. -/
theorem leaves_colon (indent : Nat) {rest : List Char} (gap : gapNext rest = true) :
    Leaves indent (':' :: rest) (':' :: rest) false := by
  refine ⟨.inr ⟨rest, rfl, gap⟩, ?_⟩
  intro fuel chars word read
  have colon : gapNext (':' :: rest) = false := by
    change isGap ':' = false
    decide
  simp [plainFrom, read, colon]

/-- A value ends with its line, as the next one is indented no deeper than what surrounds
the value. -/
theorem leaves_line {indent count : Nat} (outer : count < indent) {front : List Char}
    (solid : ∀ c ∈ front.head?, isGap c = false) :
    Leaves indent ('\n' :: spaces count ++ front) front true := by
  refine ⟨.inl rfl, ?_⟩
  intro fuel chars word read
  have gap : gapNext ('\n' :: spaces count ++ front) = true := rfl
  simp only [plainFrom, read, gap, takeGap_line indent count solid, Option.bind_eq_bind,
    Option.bind_some]
  simp [outer]

/-- Between the words of a text are spaces only. -/
theorem dropWhile_solid {text : List Char} (shown : Shown text)
    (unbroken : ∀ c ∈ text, isBreak c = false) :
    ∃ word after, text = word ++ after ∧ text.takeWhile (!isGap ·) = word ∧
      text.dropWhile (!isGap ·) = after ∧ (after = [] ∨ after.head? = some ' ') := by
  refine ⟨_, _, List.takeWhile_append_dropWhile.symm, rfl, rfl, ?_⟩
  cases split : text.dropWhile (!isGap ·) with
  | nil => exact .inl rfl
  | cons c after =>
    have member : c ∈ text := (List.dropWhile_sublist _).mem (split ▸ List.mem_cons_self)
    have gap : isGap c = true := by
      have head := List.head?_dropWhile_not (!isGap ·) text
      rw [split] at head
      simpa using head
    rw [isGap_of_not_break (shown c member) (unbroken c member), beq_iff_eq] at gap
    exact .inr (congrArg some gap)

/-- After a word and spaces reading goes on with the next word. -/
theorem plainFrom_spaces {indent fuel count : Nat} {chars word back after rest : List Char}
    {broken : Bool}
    (read : plainWord false chars = some (word, spaces (count + 1) ++ back ++ after))
    (filled : back ≠ []) (solid : ∀ c ∈ back.head?, isGap c = false ∧ c ≠ '#')
    (more : plainFrom false indent fuel (back ++ after) = some ⟨back, rest, broken⟩) :
    plainFrom false indent (fuel + 1) chars =
      some ⟨word ++ (spaces (count + 1) ++ back), rest, broken⟩ := by
  have start : (back ++ after).head? = back.head? := List.head?_append_of_ne_nil back filled
  have comment : ((back ++ after).head? == some '#') = false := by
    rw [start, beq_eq_false_iff_ne]
    exact fun first => (solid '#' first).2 rfl
  have gap : gapNext (spaces (count + 1) ++ back ++ after) = true := rfl
  have taken : takeGap indent .none (spaces (count + 1) ++ back ++ after) =
      some ({ Gap.none with blanks := spaces (count + 1) }, back ++ after) := by
    rw [List.append_assoc, takeGap_spaces _ _ rfl,
      takeGap_stop _ _ fun c first => (solid c (start ▸ first)).1]
    rfl
  simp only [plainFrom, read, gap, taken, more, comment, Option.bind_eq_bind, Option.bind_some]
  simp [Gap.none, Gap.joined, filled]

/-- Words and the spaces between them are put together again. -/
theorem plainFrom_append {indent : Nat} {after rest : List Char} {broken : Bool}
    (leaves : Leaves indent after rest broken) (fuel : Nat) {text : List Char}
    (enough : text.length < fuel) (shown : Shown text) (unbroken : ∀ c ∈ text, isBreak c = false)
    (last : text.getLast? ≠ some ' ') (inside : endsInside true text = false) :
    plainFrom false indent fuel (text ++ after) = some ⟨text, rest, broken⟩ := by
  induction fuel generalizing text with
  | zero => exact nomatch enough
  | succ fuel inductionHypothesis =>
    obtain ⟨word, tail, split, take, drop, gap⟩ := dropWhile_solid shown unbroken
    have read := plainWord_append inside leaves.1
    rw [take, drop] at read
    rcases gap with rfl | gap
    · rw [List.append_nil] at split
      subst split
      exact leaves.2 fuel _ text read
    · have filled : tail ≠ [] := by
        rintro rfl
        exact nomatch gap
      have last' : tail.getLast? ≠ some ' ' := by
        rwa [split, List.getLast?_append_of_ne_nil word filled] at last
      obtain ⟨count, back, rfl, head, tailLast, rest'⟩ := split_spaces last'
      cases count with
      | zero => exact absurd gap head
      | succ count =>
        have suffix : text = (word ++ spaces count) ++ ' ' :: back := by
          rw [split, List.append_assoc, spaces, List.replicate_succ', List.append_assoc]
          rfl
        have member : ∀ c ∈ back, c ∈ text := by
          intro c present
          rw [suffix]
          exact List.mem_append_right _ (List.mem_cons_of_mem _ present)
        have inside' : endsInside true back = false := by
          rw [suffix] at inside
          exact endsInside_after inside
        have solid : ∀ c ∈ back.head?, isGap c = false ∧ c ≠ '#' := by
          intro c first
          obtain ⟨more, rfl⟩ := List.head?_eq_some_iff.mp first
          have present : c ∈ text := member c List.mem_cons_self
          rw [isGap_of_not_break (shown c present) (unbroken c present), beq_eq_false_iff_ne]
          constructor
          · rintro rfl
            exact head first
          · rintro rfl
            simp [endsInside] at inside'
        have shorter : back.length < fuel := by
          rw [suffix, List.length_append, List.length_cons] at enough
          omega
        have more := inductionHypothesis shorter (fun c present => shown c (member c present))
          (fun c present => unbroken c (member c present)) tailLast inside'
        rw [plainFrom_spaces read (rest' filled) solid more, ← split]

/-- A plain text is read as it is. -/
theorem plain?_append {text : List Char} (plain : PlainText text) {indent : Nat}
    {after rest : List Char} {broken : Bool} (leaves : Leaves indent after rest broken) :
    plain? false indent (text ++ after) = some ⟨text, rest, broken⟩ := by
  refine plainFrom_append leaves _ ?_ plain.shown plain.unbroken plain.last plain.inside
  rw [List.length_append]
  omega

end Flowdesk.Yaml
