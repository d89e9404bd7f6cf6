import Flowdesk.Yaml.Printer

/-!
# What the forms of texts ask of them

Each form in which a text may be written is chosen by a few questions about its
characters. What the answers say is gathered here, form by form, so that nothing else
needs to look at the questions.
-/

namespace Flowdesk.Yaml

/-- Whether all characters are shown as themselves. -/
def Shown (text : List Char) : Prop := ∀ c ∈ text, isPrintable c = true

theorem Shown.append {first second : List Char} (shown : Shown first) (others : Shown second) :
    Shown (first ++ second) := by
  intro c member
  rcases List.mem_append.mp member with early | late
  · exact shown c early
  · exact others c late

theorem Shown.of_append {first second : List Char} (shown : Shown (first ++ second)) :
    Shown first ∧ Shown second :=
  ⟨fun c member => shown c (List.mem_append_left second member),
    fun c member => shown c (List.mem_append_right first member)⟩

theorem Shown.of_cons {c : Char} {text : List Char} (shown : Shown (c :: text)) :
    isPrintable c = true ∧ Shown text :=
  ⟨shown c List.mem_cons_self, fun other member => shown other (List.mem_cons_of_mem c member)⟩

theorem shown_spaces (count : Nat) : Shown (spaces count) := by
  intro c member
  rw [List.eq_of_mem_replicate member]
  decide

/-- Whatever is shown may occur in a text. -/
theorem isAllowed_of_isPrintable {c : Char} (shown : isPrintable c = true) :
    isAllowed c = true := by
  simp only [isPrintable, isAllowed, Bool.or_eq_true, Bool.and_eq_true, decide_eq_true_eq,
    beq_iff_eq] at shown ⊢
  omega

/-- The only blank that is shown is the space. -/
theorem eq_space_of_isBlank {c : Char} (shown : isPrintable c = true) (blank : isBlank c = true) :
    c = ' ' := by
  simp only [isBlank, Bool.or_eq_true, beq_iff_eq] at blank
  rcases blank with space | tab
  · exact space
  · subst tab
    exact absurd shown (by decide)

/-- The breaks that are shown. -/
theorem eq_break_of_isBreak {c : Char} (shown : isPrintable c = true) (ends : isBreak c = true) :
    c = '\n' ∨ c = '\u2028' ∨ c = '\u2029' := by
  simp only [isBreak, Bool.or_eq_true, beq_iff_eq] at ends
  rcases ends with (((feed | carriage) | next) | line) | paragraph
  · exact .inl feed
  · subst carriage
    exact absurd shown (by decide)
  · subst next
    exact absurd shown (by decide)
  · exact .inr (.inl line)
  · exact .inr (.inr paragraph)

/-- A break that is shown is kept as it is. -/
theorem takeBreak?_of_shown {c : Char} (shown : isPrintable c = true) (ends : isBreak c = true)
    (rest : List Char) : takeBreak? (c :: rest) = some ([c], rest) := by
  rcases eq_break_of_isBreak shown ends with rfl | rfl | rfl
  · rfl
  · rfl
  · rfl

theorem isGap_of_not_break {c : Char} (shown : isPrintable c = true) (stays : isBreak c = false) :
    isGap c = (c == ' ') := by
  rw [isGap, stays, Bool.or_false]
  cases blank : isBlank c with
  | true => exact (beq_iff_eq.mpr (eq_space_of_isBlank shown blank)).symm
  | false =>
    rw [isBlank, Bool.or_eq_false_iff] at blank
    exact blank.1.symm

/-- What the start of a plain scalar may not be. -/
theorem of_startsOtherwise {c : Char} {rest : List Char}
    (starts : startsOtherwise (c :: rest) = false) :
    "#,[]\x7b\x7d&*!|>'\"%@`".toList.contains c = false ∧
      ((c == '?' || c == ':' || c == '-') && gapNext rest) = false := by
  unfold startsOtherwise at starts
  split at starts
  · exact nomatch starts
  · exact nomatch starts
  · next same =>
    cases same
    exact Bool.or_eq_false_iff.mp starts
  · next same => exact nomatch same

/-- A text that is read back as it is when it is written plainly. -/
structure PlainText (text : List Char) : Prop where
  filled : text ≠ []
  shown : Shown text
  unbroken : ∀ c ∈ text, isBreak c = false
  first : text.head? ≠ some ' '
  last : text.getLast? ≠ some ' '
  starts : startsOtherwise text = false
  inside : endsInside true text = false

/-- A text that can stand between single quotes. -/
structure QuotedText (text : List Char) : Prop where
  shown : Shown text
  noFeed : '\n' ∉ text
  /-- Spaces do not follow breaks. -/
  flush : hasAdjacent isBreak (· == ' ') text = false
  /-- Breaks do not follow spaces. -/
  trimmed : hasAdjacent (· == ' ') isBreak text = false

/-- A text that can be a literal block. -/
structure LiteralText (text : List Char) : Prop where
  filled : text ≠ []
  shown : Shown text

theorem shown_of_formsOf {text : List Char} (shown : text.any (!isPrintable ·) = false) :
    Shown text := by
  intro c member
  have shows := List.any_eq_false.mp shown c member
  simpa using shows

/-- What the plain form says of a text. -/
theorem plainText_of_formOf {text : List Char} (plain : formOf text = .plain) :
    PlainText text ∧ misleads text = false := by
  have able : (formsOf text).plain = true ∧ misleads text = false := by
    unfold formOf at plain
    grind
  obtain ⟨able, honest⟩ := able
  simp only [formsOf, Bool.not_eq_true', Bool.or_eq_false_iff] at able
  obtain ⟨⟨⟨⟨⟨first, last⟩, -⟩, -, shown⟩, unbroken⟩, starts, inside⟩ := able
  cases text with
  | nil => exact absurd honest (by decide)
  | cons c rest =>
    have shows : Shown (c :: rest) := shown_of_formsOf shown
    have stays : ∀ other ∈ c :: rest, isBreak other = false := by
      intro other member
      simpa using List.any_eq_false.mp unbroken other member
    refine ⟨⟨List.cons_ne_nil c rest, shows, stays, ?_, ?_, starts, ?_⟩, honest⟩
    · intro same
      rw [same] at first
      exact absurd first (by decide)
    · intro same
      rw [same] at last
      exact absurd last (by decide)
    · obtain ⟨other, mark⟩ := of_startsOtherwise starts
      have colon : (c == ':' && gapNext rest) = false := by
        cases same : c == ':' with
        | false => rfl
        | true =>
          rw [same, Bool.or_true, Bool.true_or, Bool.true_and] at mark
          exact mark
      have comment : (c == '#' && true) = false := by
        rw [Bool.and_true]
        refine beq_eq_false_iff_ne.mpr ?_
        rintro rfl
        exact absurd other (by decide)
      rw [endsInside, colon, comment]
      exact inside

/-- What the form between single quotes says of a text. -/
theorem quotedText_of_formOf {text : List Char} (quoted : formOf text = .singleQuoted) :
    QuotedText text := by
  have able : (formsOf text).singleQuoted = true ∧ '\n' ∉ text := by
    unfold formOf at quoted
    grind
  obtain ⟨able, noFeed⟩ := able
  simp only [formsOf, Bool.not_eq_true', Bool.or_eq_false_iff] at able
  exact ⟨shown_of_formsOf able.2.2, noFeed, able.1, able.2.1⟩

/-- What the literal form says of a text. -/
theorem literalText_of_formOf {text : List Char} (literal : formOf text = .literal) :
    LiteralText text := by
  have able : (formsOf text).block = true := by
    unfold formOf at literal
    grind
  simp only [formsOf, Bool.not_eq_true', Bool.or_eq_false_iff] at able
  exact ⟨List.isEmpty_eq_false_iff.mp able.1.1, shown_of_formsOf able.1.2.2⟩

end Flowdesk.Yaml
