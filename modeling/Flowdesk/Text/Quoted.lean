import Flowdesk.Text.Glyph

/-!
# Quoted text in messages

A message shows a value it was given between double quotes. What cannot be seen
is written as an escape: the usual short ones for the tab, the line ends and the
null character, a backslash before a quote or a backslash, and the code point in
braces for any other character without a glyph.
-/

namespace Flowdesk.Text

/-- Lower-case hexadecimal digits of a number, without leading zeros. -/
def hexDigits (value : Nat) : List Char := Nat.toDigits 16 value

/-- One character as it stands between the quotes. -/
def quoteChar (c : Char) : List Char :=
  match c with
  | '\x00' => ['\\', '0']
  | '\t' => ['\\', 't']
  | '\r' => ['\\', 'r']
  | '\n' => ['\\', 'n']
  | '\\' => ['\\', '\\']
  | '"' => ['\\', '"']
  | _ => if hasGlyph c then [c] else ['\\', 'u', '\x7b'] ++ hexDigits c.toNat ++ ['\x7d']

/-- A text between double quotes, with everything visible. -/
def quoted (text : String) : String :=
  String.ofList ('"' :: text.toList.flatMap quoteChar ++ ['"'])

/-- An accent is not drawn onto the quote before it. -/
example :
    quoteChar '\u0301' = ['\\', 'u', '\x7b', '3', '0', '1', '\x7d'] := by decide +kernel

end Flowdesk.Text
