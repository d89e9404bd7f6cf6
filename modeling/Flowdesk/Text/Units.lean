/-!
# UTF-16 code units

A character of the basic plane is one code unit; any other is a surrogate pair,
the ten high bits of its offset in the first unit and the ten low bits in the
second.
-/

namespace Flowdesk.Text

/-- The code units of one character. -/
def units (c : Char) : List Nat :=
  let code := c.toNat
  if code < 0x10000 then [code]
  else [0xD800 + (code - 0x10000) / 0x400, 0xDC00 + (code - 0x10000) % 0x400]

/-- The code units of a text. -/
def textUnits (text : String) : List Nat := text.toList.flatMap units

/-- The character of a surrogate pair, given the code units of both halves. -/
def ofSurrogates (high low : Nat) : Char :=
  Char.ofNat (0x10000 + (high - 0xD800) * 0x400 + (low - 0xDC00))

/-- Every code unit fits in sixteen bits. -/
theorem units_bound (c : Char) (unit : Nat) (member : unit ∈ units c) : unit < 0x10000 := by
  have valid : c.toNat < 0x110000 := by
    rcases c.valid with low | high
    · exact Nat.lt_trans low (by decide)
    · exact high.2
  simp only [units] at member
  split at member
  · simp only [List.mem_singleton] at member
    omega
  · simp only [List.mem_cons, List.not_mem_nil, or_false] at member
    omega

end Flowdesk.Text
