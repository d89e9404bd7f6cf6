import Flowdesk.Text.Utf8

/-!
# Percent escapes

A byte of an address may be written as a percent sign and two hexadecimal digits.
Decoding leaves a percent sign alone that no two digits follow.
-/

namespace Flowdesk.Address

open Text.Utf8 (Bytes)

/-- The value of a hexadecimal digit given as a byte. -/
def hexValue? (byte : UInt8) : Option Nat :=
  let code := byte.toNat
  if 0x30 ≤ code ∧ code ≤ 0x39 then some (code - 0x30)
  else if 0x41 ≤ code ∧ code ≤ 0x46 then some (code - 0x37)
  else if 0x61 ≤ code ∧ code ≤ 0x66 then some (code - 0x57)
  else none

/-- The byte that stands at the head, when it is escaped. -/
def escaped? (first second : UInt8) : Option UInt8 := do
  let high ← hexValue? first
  let low ← hexValue? second
  some (UInt8.ofNat (high * 16 + low))

/-- Replace every escape by its byte. -/
def percentDecode : Bytes → Bytes
  | 0x25 :: first :: second :: rest =>
      match escaped? first second with
      | some byte => byte :: percentDecode rest
      | none => 0x25 :: percentDecode (first :: second :: rest)
  | byte :: rest => byte :: percentDecode rest
  | [] => []

/-- The upper-case hexadecimal digit of a number below sixteen. -/
def upperHex (value : Nat) : Char := (Nat.digitChar value).toUpper

/-- The escape of a byte. -/
def percentEscape (byte : UInt8) : List Char :=
  ['%', upperHex (byte.toNat / 16), upperHex (byte.toNat % 16)]

/-- An unfinished escape is no escape. -/
example :
    percentDecode [0x25, 0x25, 0x34, 0x31, 0x25, 0x34] = [0x25, 0x41, 0x25, 0x34] := by decide

end Flowdesk.Address
