import Flowdesk.Text.Utf8

/-!
# Bytes of texts are read back

Every character is read from its own bytes, whatever follows them, so the bytes of a text
are read as that text. The bounds that the reader sets for the second byte of a character
are those between which the bytes of characters lie: above them are the surrogates and what
is beyond the last character, below them what has a shorter form.
-/

namespace Flowdesk.Text.Utf8

/-- The bytes of a character, by its number. -/
theorem encodeChar_eq (c : Char) :
    encodeChar c =
      if c.toNat < 0x80 then [UInt8.ofNat c.toNat]
      else if c.toNat < 0x800 then
        [UInt8.ofNat (0xC0 + c.toNat / 64), UInt8.ofNat (0x80 + c.toNat % 64)]
      else if c.toNat < 0x10000 then
        [UInt8.ofNat (0xE0 + c.toNat / 4096), UInt8.ofNat (0x80 + c.toNat / 64 % 64),
          UInt8.ofNat (0x80 + c.toNat % 64)]
      else
        [UInt8.ofNat (0xF0 + c.toNat / 262144), UInt8.ofNat (0x80 + c.toNat / 4096 % 64),
          UInt8.ofNat (0x80 + c.toNat / 64 % 64), UInt8.ofNat (0x80 + c.toNat % 64)] := rfl

/-- A number is that of a character if it is neither a surrogate nor beyond the last one. -/
theorem toNat_cases (c : Char) : c.toNat < 0xD800 ∨ 0xDFFF < c.toNat ∧ c.toNat < 0x110000 :=
  c.valid

theorem toNat_ofNat {value : Nat} (small : value < 256) : (UInt8.ofNat value).toNat = value :=
  UInt8.toNat_ofNat_of_lt' small

/-- A byte that starts a longer character. -/
theorem pieces_begun {byte : Nat} (small : byte < 256) {begun : Partial}
    (starts : start byte = .more begun) (rest : Bytes) :
    pieces none (UInt8.ofNat byte :: rest) = pieces (some begun) rest := by
  rw [pieces, toNat_ofNat small, starts]

section Continued

variable {owed low high code bits : Nat} (small : bits < 64) (above : low ≤ 0x80 + bits)
  (below : 0x80 + bits ≤ high)

include small above below

/-- A byte within its bounds adds its bits to those gathered. -/
theorem pieces_next (rest : Bytes) :
    pieces (some ⟨owed + 2, low, high, code⟩) (UInt8.ofNat (0x80 + bits) :: rest) =
      pieces (some ⟨owed + 1, 0x80, 0xBF, code * 64 + bits⟩) rest := by
  have byte : (UInt8.ofNat (0x80 + bits)).toNat = 0x80 + bits := toNat_ofNat (by omega)
  have added : 0x80 + bits - 0x80 = bits := by omega
  have more : ¬owed + 2 ≤ 1 := by omega
  rw [pieces, byte, if_pos ⟨above, below⟩, added, if_neg more]
  rfl

/-- The last byte that is owed completes a character. -/
theorem pieces_last (rest : Bytes) :
    pieces (some ⟨1, low, high, code⟩) (UInt8.ofNat (0x80 + bits) :: rest) =
      some (Char.ofNat (code * 64 + bits)) :: pieces none rest := by
  have byte : (UInt8.ofNat (0x80 + bits)).toNat = 0x80 + bits := toNat_ofNat (by omega)
  have added : 0x80 + bits - 0x80 = bits := by omega
  rw [pieces, byte, if_pos ⟨above, below⟩, added, if_pos (Nat.le_refl 1)]

end Continued

/-- The first byte of a character of three tells how its second one is bound. -/
theorem start_of_three {c : Char} (long : 0x800 ≤ c.toNat) (short : c.toNat < 0x10000) :
    ∃ low high, start (0xE0 + c.toNat / 4096) = .more ⟨2, low, high, c.toNat / 4096⟩ ∧
      low ≤ 0x80 + c.toNat / 64 % 64 ∧ 0x80 + c.toNat / 64 % 64 ≤ high := by
  have valid := toNat_cases c
  by_cases first : c.toNat / 4096 = 0
  · refine ⟨0xA0, 0xBF, ?_, by omega, by omega⟩
    rw [first]
    rfl
  · by_cases surrogate : c.toNat / 4096 = 0xD
    · refine ⟨0x80, 0x9F, ?_, by omega, by omega⟩
      rw [surrogate]
      rfl
    · refine ⟨0x80, 0xBF, ?_, by omega, by omega⟩
      have code : 0xE0 + c.toNat / 4096 - 0xE0 = c.toNat / 4096 := by omega
      rw [start, if_neg (by omega), if_neg (by omega), if_neg (by omega), if_neg (by omega),
        if_neg (by omega), if_pos (by omega), code]

/-- The first byte of a character of four tells how its second one is bound. -/
theorem start_of_four {c : Char} (long : 0x10000 ≤ c.toNat) :
    ∃ low high, start (0xF0 + c.toNat / 262144) = .more ⟨3, low, high, c.toNat / 262144⟩ ∧
      low ≤ 0x80 + c.toNat / 4096 % 64 ∧ 0x80 + c.toNat / 4096 % 64 ≤ high := by
  have valid := toNat_cases c
  by_cases first : c.toNat / 262144 = 0
  · refine ⟨0x90, 0xBF, ?_, by omega, by omega⟩
    rw [first]
    rfl
  · by_cases last : c.toNat / 262144 = 4
    · refine ⟨0x80, 0x8F, ?_, by omega, by omega⟩
      rw [last]
      rfl
    · refine ⟨0x80, 0xBF, ?_, by omega, by omega⟩
      have code : 0xF0 + c.toNat / 262144 - 0xF0 = c.toNat / 262144 := by omega
      rw [start, if_neg (by omega), if_neg (by omega), if_neg (by omega), if_neg (by omega),
        if_neg (by omega), if_neg (by omega), if_neg (by omega), if_pos (by omega), code]

/-- A character is read from its bytes, whatever follows them. -/
theorem pieces_encodeChar (c : Char) (rest : Bytes) :
    pieces none (encodeChar c ++ rest) = some c :: pieces none rest := by
  have valid := toNat_cases c
  have last : c.toNat / 64 * 64 + c.toNat % 64 = c.toNat := by omega
  have third : c.toNat / 4096 * 64 + c.toNat / 64 % 64 = c.toNat / 64 := by omega
  rw [encodeChar_eq]
  split
  · next one =>
    have whole : start c.toNat = .whole c := by rw [start, if_pos one, Char.ofNat_toNat]
    rw [List.cons_append, pieces, toNat_ofNat (by omega), whole]
    rfl
  · split
    · next many two =>
      have starts : start (0xC0 + c.toNat / 64) = .more ⟨1, 0x80, 0xBF, c.toNat / 64⟩ := by
        have code : 0xC0 + c.toNat / 64 - 0xC0 = c.toNat / 64 := by omega
        rw [start, if_neg (by omega), if_neg (by omega), if_pos (by omega), code]
      simp only [List.cons_append, List.nil_append]
      rw [pieces_begun (by omega) starts, pieces_last (by omega) (by omega) (by omega), last,
        Char.ofNat_toNat]
    · split
      · next many three =>
        obtain ⟨low, high, starts, above, below⟩ := start_of_three (by omega) three
        simp only [List.cons_append, List.nil_append]
        rw [pieces_begun (by omega) starts, pieces_next (by omega) above below, third,
          pieces_last (by omega) (by omega) (by omega), last, Char.ofNat_toNat]
      · next many =>
        have second : c.toNat / 262144 * 64 + c.toNat / 4096 % 64 = c.toNat / 4096 := by omega
        obtain ⟨low, high, starts, above, below⟩ := start_of_four (c := c) (by omega)
        simp only [List.cons_append, List.nil_append]
        rw [pieces_begun (by omega) starts, pieces_next (by omega) above below, second,
          pieces_next (by omega) (by omega) (by omega), third,
          pieces_last (by omega) (by omega) (by omega), last, Char.ofNat_toNat]

/-- The bytes of characters have no breaks. -/
theorem pieces_flatMap_encodeChar (chars : List Char) :
    pieces none (chars.flatMap encodeChar) = chars.map some := by
  induction chars with
  | nil => rfl
  | cons c chars inductionHypothesis =>
    rw [List.flatMap_cons, pieces_encodeChar, inductionHypothesis, List.map_cons]

/-- The bytes of a text are read as that text. -/
theorem decodeLossy_encode (text : String) : decodeLossy (encode text) = text := by
  rw [decodeLossy, encode, pieces_flatMap_encodeChar, List.map_map]
  exact (congrArg String.ofList (List.map_id text.toList)).trans String.ofList_toList

end Flowdesk.Text.Utf8
