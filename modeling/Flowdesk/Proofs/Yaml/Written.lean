import Flowdesk.Proofs.Yaml.Stepping

/-!
# Scalars are read in whatever form they are written

A text comes back as one scalar, of the style that goes with its form. As a value it leads
to the next line. As a key that is not announced it is short and stands on one line, so the
colon after it is still in reach of its start.
-/

namespace Flowdesk.Yaml

/-- The style of a scalar that is written in a form. -/
def Form.style : Form → Style
  | .plain => .plain
  | .singleQuoted => .singleQuoted
  | .doubleQuoted => .doubleQuoted
  | .literal => .literal

/-- The scalar that is read where a text is written. -/
def scalarOf (text : List Char) : Token := .scalar (formOf text).style text

/-- A line that does not end by itself is ended. -/
theorem endLine_append {chars : List Char} (stays : ∀ c ∈ chars.getLast?, isBreak c = false) :
    endLine chars = chars ++ ['\n'] := by
  rw [endLine, if_neg]
  cases last : chars.getLast? with
  | none => simp
  | some c => simp [stays c last]

theorem endLine_quoted {mark : Char} (stays : isBreak mark = false) (written : List Char) :
    endLine (mark :: written ++ [mark]) = mark :: written ++ [mark] ++ ['\n'] := by
  refine endLine_append fun c last => ?_
  rw [List.getLast?_concat] at last
  cases last
  exact stays

theorem tokenAt_single (layout : Layout) (rest : List Char) :
    layout.tokenAt '\'' rest =
      layout.keyLike ((singleQuoted? rest).map fun (text, rest) =>
        (.scalar .singleQuoted text, rest)) := by
  simp [Layout.tokenAt, documentMark]

theorem tokenAt_double (layout : Layout) (rest : List Char) :
    layout.tokenAt '"' rest =
      layout.keyLike ((doubleQuoted? rest).map fun (text, rest) =>
        (.scalar .doubleQuoted text, rest)) := by
  simp [Layout.tokenAt, documentMark]

/-- What is written between single quotes is shown. -/
theorem shown_singleQuotedChars (indent : Nat) (broken : Bool) {text : List Char}
    (shown : Shown text) : Shown (singleQuotedChars indent broken text) := by
  induction text generalizing broken with
  | nil =>
    cases broken with
    | true => exact shown_spaces indent
    | false => exact fun _ member => absurd member List.not_mem_nil
  | cons c text inductionHypothesis =>
    obtain ⟨first, rest⟩ := shown.of_cons
    rw [singleQuotedChars]
    split
    · intro other member
      rcases List.mem_cons.mp member with rfl | later
      · exact first
      · exact inductionHypothesis true rest other later
    · refine Shown.append (Shown.append ?_ ?_) (inductionHypothesis false rest)
      · split
        · exact shown_spaces indent
        · exact fun _ member => absurd member List.not_mem_nil
      · intro other member
        split at member
        · simp only [List.mem_cons, List.not_mem_nil, or_false, or_self] at member
          subst member
          rfl
        · rw [List.mem_singleton.mp member]
          exact first

/-- Whether a character may stand on the line of a key. -/
def OnLine (c : Char) : Prop := isPrintable c = true ∧ isBreak c = false

instance (c : Char) : Decidable (OnLine c) := inferInstanceAs (Decidable (_ ∧ _))

theorem onLine_of_hexDigit? {c : Char} (digit : (hexDigit? c).isSome) : OnLine c := by
  have range : ('0' ≤ c ∧ c ≤ '9') ∨ ('a' ≤ c ∧ c ≤ 'f') ∨ ('A' ≤ c ∧ c ≤ 'F') := by
    unfold hexDigit? at digit
    grind
  have code : 0x30 ≤ c.toNat ∧ c.toNat ≤ 0x66 := by
    simp only [Char.le_def, UInt32.le_iff_toNat_le] at range
    change _ ≤ c.val.toNat ∧ c.val.toNat ≤ _
    have bounds : '0'.val.toNat = 0x30 ∧ '9'.val.toNat = 0x39 ∧ 'a'.val.toNat = 0x61 ∧
      'f'.val.toNat = 0x66 ∧ 'A'.val.toNat = 0x41 ∧ 'F'.val.toNat = 0x46 := by decide
    omega
  refine ⟨?_, ?_⟩
  · simp only [isPrintable, Bool.or_eq_true, Bool.and_eq_true, decide_eq_true_eq]
    omega
  · rw [← Bool.not_eq_true]
    intro ends
    simp only [isBreak, Bool.or_eq_true, beq_iff_eq] at ends
    rcases ends with (((rfl | rfl) | rfl) | rfl) | rfl
    all_goals exact absurd code (by decide)

/-- The digits of a number can stand on a line. -/
theorem onLine_of_hexValue? {digits : List Char} {total value : Nat}
    (named : hexValue? total digits = some value) : ∀ c ∈ digits, OnLine c := by
  induction digits generalizing total with
  | nil => exact nofun
  | cons first digits inductionHypothesis =>
    have split : hexValue? total (first :: digits) =
        (hexDigit? first).bind fun digit => hexValue? (total * 16 + digit) digits := by
      unfold hexValue?
      rw [List.foldlM_cons]
      cases hexDigit? first <;> rfl
    rw [split] at named
    cases digit : hexDigit? first with
    | none =>
      rw [digit] at named
      exact nomatch named
    | some number =>
      rw [digit] at named
      intro c member
      rcases List.mem_cons.mp member with rfl | later
      · exact onLine_of_hexDigit? (by rw [digit]; rfl)
      · exact inductionHypothesis named c later

/-- A character between double quotes is written so that it can stand on a line. -/
theorem onLine_doubleQuotedChar {c other : Char} (member : other ∈ doubleQuotedChar c) :
    OnLine other := by
  unfold doubleQuotedChar at member
  split at member
  · next plain =>
    simp only [Bool.and_eq_true, Bool.not_eq_true'] at plain
    rw [List.mem_singleton.mp member]
    exact ⟨plain.1.1.1, plain.1.1.2⟩
  · have both : ∀ (mark : Char) (width : Nat), OnLine mark →
        other ∈ '\\' :: mark :: paddedHex width c.toNat → OnLine other := by
      intro mark width safe member
      rcases List.mem_cons.mp member with rfl | member
      · decide
      · rcases List.mem_cons.mp member with rfl | member
        · exact safe
        · exact onLine_of_hexValue? (hexValue?_paddedHex width c.toNat) other member
    unfold doubleEscape at member
    split at member
    case h_15 =>
      dsimp only at member
      split at member
      · exact both 'x' 2 (by decide) member
      · split at member
        · exact both 'u' 4 (by decide) member
        · exact both 'U' 8 (by decide) member
    all_goals
      rcases List.mem_cons.mp member with rfl | member
      · decide
      · rw [List.mem_singleton.mp member]
        decide

/-- What is written for a text on one line stands on one line. -/
theorem onLine_singleQuotedChars (indent : Nat) {text : List Char} (safe : ∀ c ∈ text, OnLine c) :
    ∀ c ∈ singleQuotedChars indent false text, OnLine c := by
  induction text with
  | nil => exact nofun
  | cons first text inductionHypothesis =>
    have stays : isBreak first = false := (safe first List.mem_cons_self).2
    intro c member
    simp only [singleQuotedChars, stays, Bool.false_eq_true, if_false, List.nil_append] at member
    rcases List.mem_append.mp member with here | later
    · split at here
      · simp only [List.mem_cons, List.not_mem_nil, or_false, or_self] at here
        subst here
        decide
      · rw [List.mem_singleton.mp here]
        exact safe first List.mem_cons_self
    · exact inductionHypothesis (fun other member => safe other (List.mem_cons_of_mem first member))
        c later

theorem onLine_doubleQuoted (text : List Char) :
    ∀ c ∈ text.flatMap doubleQuotedChar, OnLine c := by
  intro c member
  obtain ⟨other, -, here⟩ := List.mem_flatMap.mp member
  exact onLine_doubleQuotedChar here

/-- How many bytes a text takes. -/
theorem utf8ByteSize_cons (c : Char) (text : List Char) :
    (String.ofList (c :: text)).utf8ByteSize = c.utf8Size + (String.ofList text).utf8ByteSize := by
  have joins : String.ofList (c :: text) = String.singleton c ++ String.ofList text := by
    rw [← String.toList_inj]
    simp
  rw [joins, String.utf8ByteSize_append, String.utf8ByteSize_singleton]

theorem length_le_utf8ByteSize (text : List Char) :
    text.length ≤ (String.ofList text).utf8ByteSize := by
  induction text with
  | nil => exact Nat.zero_le _
  | cons c text inductionHypothesis =>
    have positive := c.utf8Size_pos
    rw [utf8ByteSize_cons, List.length_cons]
    omega

/-- An escape takes no more than four characters for each byte of what it stands for. -/
theorem length_doubleQuotedChar (c : Char) : (doubleQuotedChar c).length ≤ 4 * c.utf8Size := by
  have positive := c.utf8Size_pos
  unfold doubleQuotedChar
  split
  · simp only [List.length_singleton]
    omega
  · unfold doubleEscape
    split
    case h_15 =>
      dsimp only
      split
      · next byte =>
        have digits : (paddedHex 2 c.toNat).length = 2 :=
          length_paddedHex (by decide) (Nat.lt_of_le_of_lt byte (by decide))
        simp only [List.length_cons, digits]
        omega
      · split
        · next wide short =>
          have digits : (paddedHex 4 c.toNat).length = 4 :=
            length_paddedHex (by decide) (Nat.lt_of_le_of_lt short (by decide))
          have two : c.utf8Size ≠ 1 := by
            rw [ne_eq, Char.utf8Size_eq_one_iff]
            intro ascii
            have small : c.toNat ≤ 127 := UInt32.le_iff_toNat_le.mp ascii
            omega
          simp only [List.length_cons, digits]
          omega
        · next wide =>
          have digits : (paddedHex 8 c.toNat).length = 8 :=
            length_paddedHex (by decide) (Nat.lt_of_lt_of_le c.val.toNat_lt (by decide))
          have four : c.utf8Size = 4 := by
            rw [Char.utf8Size_eq_four_iff, UInt32.lt_iff_toNat_lt]
            exact Nat.not_le.mp wide
          simp only [List.length_cons, digits]
          omega
    all_goals
      simp only [List.length_cons, List.length_nil]
      omega

theorem length_doubleQuoted (text : List Char) :
    (text.flatMap doubleQuotedChar).length ≤ 4 * (String.ofList text).utf8ByteSize := by
  induction text with
  | nil => exact Nat.zero_le _
  | cons c text inductionHypothesis =>
    have here := length_doubleQuotedChar c
    rw [List.flatMap_cons, List.length_append, utf8ByteSize_cons]
    omega

theorem length_singleQuotedChars (indent : Nat) {text : List Char} (safe : ∀ c ∈ text, OnLine c) :
    (singleQuotedChars indent false text).length ≤ 2 * text.length := by
  induction text with
  | nil => exact Nat.zero_le _
  | cons first text inductionHypothesis =>
    have stays : isBreak first = false := (safe first List.mem_cons_self).2
    have rest := inductionHypothesis fun other member =>
      safe other (List.mem_cons_of_mem first member)
    simp only [singleQuotedChars, stays, Bool.false_eq_true, if_false, List.nil_append,
      List.length_append, List.length_cons]
    split
    · simp only [List.length_cons, List.length_nil]
      omega
    · simp only [List.length_cons, List.length_nil]
      omega

/-- What holds of a quote and of all that is written between two of them. -/
theorem forall_quoted {safe : Char → Prop} {mark : Char} (outside : safe mark)
    {written : List Char} (inside : ∀ c ∈ written, safe c) :
    ∀ c ∈ mark :: (written ++ [mark]), safe c := by
  intro c member
  rcases List.mem_cons.mp member with rfl | member
  · exact outside
  · rcases List.mem_append.mp member with inner | last
    · exact inside c inner
    · rw [List.mem_singleton.mp last]
      exact outside

/-- Whatever text is written, what is written is shown. -/
theorem shown_writeScalar (indent : Nat) (text : List Char) : Shown (writeScalar indent text) := by
  unfold writeScalar
  split
  · next plain => exact (plainText_of_formOf plain).1.shown
  · next single =>
    exact forall_quoted (by decide)
      (shown_singleQuotedChars indent false (quotedText_of_formOf single).shown)
  · exact forall_quoted (by decide) fun c member => (onLine_doubleQuoted text c member).1
  · next literal =>
    intro c member
    rcases List.mem_append.mp member with early | late
    · rcases List.mem_cons.mp early with rfl | mark
      · rfl
      · exact shown_literalMarks text c mark
    · rcases List.mem_cons.mp late with rfl | inner
      · rfl
      · exact shown_literalChars indent true (literalText_of_formOf literal).shown c inner

/-- A plain text can start a token. -/
theorem PlainText.fronts {text : List Char} (plain : PlainText text) (more : List Char) :
    Fronts (text ++ more) := by
  obtain ⟨c, rest, rfl⟩ := List.exists_cons_of_ne_nil plain.filled
  have shown := plain.shown c List.mem_cons_self
  intro other head
  cases head
  refine ⟨?_, ?_, ?_⟩
  · rw [isGap_of_not_break shown (plain.unbroken c List.mem_cons_self), beq_eq_false_iff_ne]
    exact fun same => plain.first (congrArg some same)
  · rintro rfl
    exact absurd (of_startsOtherwise plain.starts).1 (by decide)
  · rintro rfl
    exact absurd shown (by decide)

/-- A token may start with what is written for a text. -/
theorem fronts_writeScalar (indent : Nat) (text more : List Char) :
    Fronts (writeScalar indent text ++ more) := by
  have start : ∀ {mark : Char} {written : List Char},
      isGap mark = false ∧ mark ≠ '#' ∧ mark ≠ '\uFEFF' → Fronts (mark :: written ++ more) := by
    intro mark written safe c head
    cases head
    exact safe
  unfold writeScalar
  split
  · next plain => exact (plainText_of_formOf plain).1.fronts more
  · exact start (by decide)
  · exact start (by decide)
  · exact start (by decide)

theorem fronts_endLine (indent : Nat) (text more : List Char) :
    Fronts (endLine (writeScalar indent text) ++ more) := by
  unfold endLine
  split
  · exact fronts_writeScalar indent text more
  · rw [List.append_assoc]
    exact fronts_writeScalar indent text _

namespace Leads

variable {tokens : List Token}

/-- A text as a value leads to the next line. -/
theorem scalar (text : List Char) {indent : Nat} {outer : List Nat} {allowed : Bool}
    {column next : Nat} {front : List Char} (deep : indent < column) (shallow : next ≤ indent)
    (fronts : Fronts front) :
    Leads ⟨tokens, indent :: outer, allowed, column,
        endLine (writeScalar (indent + step) text) ++ (spaces next ++ front)⟩
      ⟨tokens ++ [scalarOf text], indent :: outer, true, next, front⟩ := by
  have after : ∀ {chars : List Char}, endLine chars = chars ++ ['\n'] →
      endLine chars ++ (spaces next ++ front) = chars ++ '\n' :: (spaces next ++ front) := by
    intro chars ended
    rw [ended, List.append_assoc]
    rfl
  have shown := shown_writeScalar (indent + step) text
  unfold scalarOf writeScalar
  unfold writeScalar at shown
  cases form : formOf text with
  | plain =>
    obtain ⟨plain', -⟩ := plainText_of_formOf form
    dsimp only
    rw [after (endLine_append fun c last => plain'.unbroken c (List.mem_of_getLast? last))]
    exact plain plain' deep shallow fronts
  | singleQuoted =>
    rw [form] at shown
    dsimp only at shown ⊢
    rw [after (endLine_quoted (by decide : isBreak '\'' = false) _), List.cons_append]
    refine quoted tokenAt_single shown deep fronts ?_
    rw [List.append_assoc]
    exact singleQuoted?_append (quotedText_of_formOf form) (Nat.succ_ne_zero (indent + 1))
      (fun same => absurd (Option.some.inj same) (by decide))
  | doubleQuoted =>
    rw [form] at shown
    dsimp only at shown ⊢
    rw [after (endLine_quoted (by decide : isBreak '"' = false) _), List.cons_append]
    refine quoted tokenAt_double shown deep fronts ?_
    rw [List.append_assoc]
    exact doubleQuoted?_append text _
  | literal =>
    have joins : '|' :: literalMarks text ++ '\n' :: (literalChars (indent + step) true text ++
        literalEnd text) ++ (spaces next ++ front) = '|' :: (literalMarks text ++
          '\n' :: (literalChars (indent + step) true text ++
            (literalEnd text ++ (spaces next ++ front)))) := by simp
    dsimp only
    rw [endLine_literal (indent + step) (literalText_of_formOf form) ('|' :: literalMarks text),
      joins]
    exact literal (literalText_of_formOf form) deep shallow fronts

/-- A text as a key that is not announced leads to its value. -/
theorem scalarKey {name : String} (short : isAnnounced name = false) {indents : List Nat}
    {column : Nat} {after : List Char} (gap : gapNext after = true)
    (deep : ∀ indent ∈ indents.head?, indent ≤ column) {lines column' : Nat} {allowed : Bool}
    {front : List Char}
    (passes : Passes lines false
      (column + (writeScalar (column + step) name.toList).length + 1) after allowed column' front) :
    Leads ⟨tokens, indents, true, column,
        writeScalar (column + step) name.toList ++ ':' :: after⟩
      ⟨tokens ++ Layout.opening indents column .blockMappingStart ++
        [.key, scalarOf name.toList, .value], Layout.opened indents column, allowed, column',
        front⟩ := by
  obtain ⟨unbroken, size⟩ : (∀ c ∈ name.toList, isBreak c = false) ∧ name.utf8ByteSize ≤ 128 := by
    obtain ⟨line, size⟩ := Bool.or_eq_false_iff.mp short
    exact ⟨fun c member => by simpa using List.any_eq_false.mp line c member,
      Nat.not_lt.mp (of_decide_eq_false size)⟩
  have few := length_le_utf8ByteSize name.toList
  have bytes := length_doubleQuoted name.toList
  rw [String.ofList_toList] at few bytes
  unfold scalarOf
  unfold writeScalar at passes ⊢
  cases form : formOf name.toList with
  | plain =>
    rw [form] at passes
    have plain' := (plainText_of_formOf form).1
    refine key plain'.filled ?_ gap deep (plainKey plain' gap) passes
    exact Nat.le_trans few (Nat.le_trans size (by decide))
  | singleQuoted =>
    rw [form] at passes
    have able := quotedText_of_formOf form
    have safe : ∀ c ∈ name.toList, OnLine c := fun c member =>
      ⟨able.shown c member, unbroken c member⟩
    have inner : ∀ c ∈ singleQuotedChars (column + step) false name.toList, isBreak c = false :=
      fun c member => (onLine_singleQuotedChars (column + step) safe c member).2
    have long := length_singleQuotedChars (column + step) safe
    refine key (List.cons_ne_nil _ _) ?_ gap deep
      (quotedKey tokenAt_single (forall_quoted (by decide) inner) ?_) passes
    · simp only [List.length_append, List.length_cons, List.length_nil, Layout.keyReach]
      omega
    · rw [List.append_assoc]
      exact singleQuoted?_append able (Nat.succ_ne_zero (column + 1))
        (fun same => absurd (Option.some.inj same) (by decide))
  | doubleQuoted =>
    rw [form] at passes
    have inner : ∀ c ∈ name.toList.flatMap doubleQuotedChar, isBreak c = false :=
      fun c member => (onLine_doubleQuoted name.toList c member).2
    refine key (List.cons_ne_nil _ _) ?_ gap deep
      (quotedKey tokenAt_double (forall_quoted (by decide) inner) ?_) passes
    · simp only [List.length_append, List.length_cons, List.length_nil, Layout.keyReach]
      omega
    · rw [List.append_assoc]
      exact doubleQuoted?_append name.toList _
  | literal =>
    have feed : '\n' ∈ name.toList := by
      unfold formOf at form
      grind
    exact absurd (unbroken '\n' feed) (by decide)

end Leads

end Flowdesk.Yaml
