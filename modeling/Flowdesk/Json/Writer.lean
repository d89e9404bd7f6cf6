import Flowdesk.Json.Value
import Flowdesk.Decimal.Layout

/-!
# Writing JSON

A value is written without blanks. Of the characters of a text only the quote, the
backslash and the control characters below the space are escaped. A number that
is not an integer always shows a point or an exponent; an infinity, or what is no
number, is written as null, as is a place where a text broke the grammar.
-/

namespace Flowdesk.Json

/-- One character as it stands between the quotes. -/
def escape (c : Char) : List Char :=
  match c with
  | '"' => ['\\', '"']
  | '\\' => ['\\', '\\']
  | '\x08' => ['\\', 'b']
  | '\x0c' => ['\\', 'f']
  | '\n' => ['\\', 'n']
  | '\r' => ['\\', 'r']
  | '\t' => ['\\', 't']
  | _ =>
      if c.toNat < 0x20 then
        ['\\', 'u', '0', '0', Nat.digitChar (c.toNat / 16), Nat.digitChar (c.toNat % 16)]
      else [c]

/-- A text between quotes. -/
def quote (value : String) : List Char :=
  '"' :: value.toList.flatMap escape ++ ['"']

mutual

/-- The characters of a value. -/
def chars : Json → List Char
  | .fault | .null => ['n', 'u', 'l', 'l']
  | .boolean true => ['t', 'r', 'u', 'e']
  | .boolean false => ['f', 'a', 'l', 's', 'e']
  | .integer value => Decimal.integerDigits value
  | .real value => (Decimal.finiteText? value).getD ['n', 'u', 'l', 'l']
  | .text value => quote value
  | .list items => '[' :: itemChars items ++ [']']
  | .object members => '\x7b' :: memberChars members ++ ['\x7d']

/-- The characters of the items of a list, with commas between them. -/
def itemChars : List Json → List Char
  | [] => []
  | [item] => chars item
  | item :: rest => chars item ++ ',' :: itemChars rest

/-- The characters of the members of an object, with commas between them. -/
def memberChars : List (String × Json) → List Char
  | [] => []
  | [(name, value)] => quote name ++ ':' :: chars value
  | (name, value) :: rest => quote name ++ ':' :: chars value ++ ',' :: memberChars rest

end

/-- The text of a value. -/
def write (value : Json) : String := String.ofList (chars value)

end Flowdesk.Json
