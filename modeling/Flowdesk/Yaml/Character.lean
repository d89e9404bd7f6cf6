import Flowdesk.Text.Blank

/-!
# Characters of YAML

The classes of characters that the grammar tells apart. Tabs and spaces are
blanks, five characters break a line, and a carriage return with a line feed after
it is one break. Breaks are normalised to a line feed, except for the two that
separate lines and paragraphs by themselves.
-/

namespace Flowdesk.Yaml

/-- Whether a character may occur in a text at all. -/
def isAllowed (c : Char) : Bool :=
  let code := c.toNat
  code == 0x9 || code == 0xA || code == 0xD || (0x20 ≤ code && code ≤ 0x7E) || code == 0x85 ||
    (0xA0 ≤ code && code ≤ 0xD7FF) || (0xE000 ≤ code && code ≤ 0xFFFD) || 0x10000 ≤ code

/-- A space or a tab. -/
def isBlank (c : Char) : Bool := c == ' ' || c == '\t'

/-- A character that ends a line. -/
def isBreak (c : Char) : Bool :=
  c == '\n' || c == '\r' || c == '\u0085' || c == '\u2028' || c == '\u2029'

/-- A blank or a break. -/
def isGap (c : Char) : Bool := isBlank c || isBreak c

/-- Whether a blank, a break or the end of the text comes next. -/
def gapNext : List Char → Bool
  | [] => true
  | c :: _ => isGap c

/-- A character of a name: a letter or digit, a hyphen or an underscore. -/
def isWord (c : Char) : Bool := c.isAlphanum || c == '-' || c == '_'

/-- A character that delimits collections in flow style. -/
def isFlowIndicator (c : Char) : Bool := c == ',' || c == '[' || c == ']' || c == '{' || c == '}'

/-- The break at the head of a text, as it is kept, and the text after it. -/
def takeBreak? : List Char → Option (List Char × List Char)
  | '\r' :: '\n' :: rest => some (['\n'], rest)
  | '\r' :: rest | '\n' :: rest | '\u0085' :: rest => some (['\n'], rest)
  | '\u2028' :: rest => some (['\u2028'], rest)
  | '\u2029' :: rest => some (['\u2029'], rest)
  | _ => none

/-- Whether a line that starts here marks the start or the end of a document. -/
def documentMark : List Char → Bool
  | '-' :: '-' :: '-' :: rest | '.' :: '.' :: '.' :: rest => gapNext rest
  | _ => false

/-- Every break has a form in which it is kept. -/
theorem takeBreak?_isSome (c : Char) (rest : List Char) :
    (takeBreak? (c :: rest)).isSome = isBreak c := by
  unfold takeBreak?
  split
  · next head => cases head; rfl
  · next head => cases head; rfl
  · next head => cases head; rfl
  · next head => cases head; rfl
  · next head => cases head; rfl
  · next head => cases head; rfl
  · next _ carriage feed next line paragraph =>
    have noCarriage : c ≠ '\r' := fun same => carriage rest (same ▸ rfl)
    have noFeed : c ≠ '\n' := fun same => feed rest (same ▸ rfl)
    have noNext : c ≠ '\u0085' := fun same => next rest (same ▸ rfl)
    have noLine : c ≠ '\u2028' := fun same => line rest (same ▸ rfl)
    have noParagraph : c ≠ '\u2029' := fun same => paragraph rest (same ▸ rfl)
    simp [isBreak, noCarriage, noFeed, noNext, noLine, noParagraph]

end Flowdesk.Yaml
