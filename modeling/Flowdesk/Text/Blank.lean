/-!
# White space

A character is blank exactly when Unicode lists it under `White_Space`. The list
is closed: no later edition of the standard may add to it. Trimming removes the
longest blank runs at both ends of a text and leaves everything between them.
-/

namespace Flowdesk.Text

/-- The code points of the property `White_Space`. -/
def blankCodes : List (Nat × Nat) :=
  [(0x9, 0xD), (0x20, 0x20), (0x85, 0x85), (0xA0, 0xA0), (0x1680, 0x1680), (0x2000, 0x200A),
    (0x2028, 0x2029), (0x202F, 0x202F), (0x205F, 0x205F), (0x3000, 0x3000)]

/-- Whether a code point lies in one of the closed ranges of a table. -/
def inRanges (table : List (Nat × Nat)) (code : Nat) : Bool :=
  table.any fun range => range.1 ≤ code && code ≤ range.2

/-- Whether a character is white space. -/
def isBlank (c : Char) : Bool := inRanges blankCodes c.toNat

/-- Whether a text holds nothing but white space. The empty text does. -/
def isBlankText (text : String) : Bool := text.toList.all isBlank

/-- The characters that remain after the blank runs at both ends are removed. -/
def trimChars (chars : List Char) : List Char :=
  ((chars.dropWhile isBlank).reverse.dropWhile isBlank).reverse

end Flowdesk.Text
