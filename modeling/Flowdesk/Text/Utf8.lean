/-!
# UTF-8

Writing gives each character its one to four bytes. Reading runs one automaton
over the bytes: it emits a character when one is complete, and a break when the
bytes read so far can no longer become one. A break swallows the longest run of
bytes that could have started a character, and the byte that ruled it out is read
afresh; the strict reading refuses any break, the lossy reading shows each as one
replacement character.
-/

namespace Flowdesk.Text.Utf8

/-- A byte sequence. -/
abbrev Bytes := List UInt8

/-- The byte of a number below 256. -/
private def octet (value : Nat) : UInt8 := UInt8.ofNat value

/-- The bytes of one character. -/
def encodeChar (c : Char) : Bytes :=
  let code := c.toNat
  if code < 0x80 then [octet code]
  else if code < 0x800 then [octet (0xC0 + code / 64), octet (0x80 + code % 64)]
  else if code < 0x10000 then
    [octet (0xE0 + code / 4096), octet (0x80 + code / 64 % 64), octet (0x80 + code % 64)]
  else
    [octet (0xF0 + code / 262144), octet (0x80 + code / 4096 % 64),
      octet (0x80 + code / 64 % 64), octet (0x80 + code % 64)]

/-- The bytes of a text. -/
def encode (text : String) : Bytes := text.toList.flatMap encodeChar

/-- A character of which some bytes have been read: how many are still owed, the
bounds of the next one, and the bits gathered so far. Only the byte after the
first has bounds narrower than `0x80` to `0xBF`. -/
structure Partial where
  owed : Nat
  low : Nat
  high : Nat
  code : Nat

/-- What a first byte tells: a whole character, the start of a longer one, or
nothing that any character starts with. -/
inductive Start where
  | whole (c : Char)
  | more (begun : Partial)
  | stray

/-- Read a byte that stands where a character may start. -/
def start (byte : Nat) : Start :=
  if byte < 0x80 then .whole (Char.ofNat byte)
  else if byte < 0xC2 then .stray
  else if byte < 0xE0 then .more ⟨1, 0x80, 0xBF, byte - 0xC0⟩
  else if byte = 0xE0 then .more ⟨2, 0xA0, 0xBF, 0⟩
  else if byte = 0xED then .more ⟨2, 0x80, 0x9F, 0xD⟩
  else if byte < 0xF0 then .more ⟨2, 0x80, 0xBF, byte - 0xE0⟩
  else if byte = 0xF0 then .more ⟨3, 0x90, 0xBF, 0⟩
  else if byte < 0xF4 then .more ⟨3, 0x80, 0xBF, byte - 0xF0⟩
  else if byte = 0xF4 then .more ⟨3, 0x80, 0x8F, 4⟩
  else .stray

/-- The pieces of a byte sequence: a character, or `none` for a break. The first
argument holds the character under way, if there is one. -/
def pieces : Option Partial → Bytes → List (Option Char)
  | none, [] => []
  | some _, [] => [none]
  | none, byte :: rest =>
      match start byte.toNat with
      | .whole c => some c :: pieces none rest
      | .more begun => pieces (some begun) rest
      | .stray => none :: pieces none rest
  | some pending, byte :: rest =>
      if pending.low ≤ byte.toNat ∧ byte.toNat ≤ pending.high then
        let code := pending.code * 64 + (byte.toNat - 0x80)
        if pending.owed ≤ 1 then some (Char.ofNat code) :: pieces none rest
        else pieces (some ⟨pending.owed - 1, 0x80, 0xBF, code⟩) rest
      else
        match start byte.toNat with
        | .whole c => none :: some c :: pieces none rest
        | .more begun => none :: pieces (some begun) rest
        | .stray => none :: none :: pieces none rest

/-- The text of a byte sequence, or nothing when a byte fits no character. -/
def decode? (bytes : Bytes) : Option String :=
  ((pieces none bytes).mapM id).map String.ofList

/-- The character shown for bytes that fit no character. -/
def replacement : Char := '\uFFFD'

/-- The text of a byte sequence, with one replacement character for each break. -/
def decodeLossy (bytes : Bytes) : String :=
  String.ofList ((pieces none bytes).map fun piece => piece.getD replacement)

/-- A truncated character breaks once, whatever was read of it, and a byte that
rules a character out is read again as a first byte. -/
example :
    pieces none [0xE2, 0x82, 0x41, 0xF0, 0x9F, 0x98] = [none, some 'A', none] := by decide

end Flowdesk.Text.Utf8
