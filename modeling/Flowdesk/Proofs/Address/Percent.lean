import Flowdesk.Address.Uri
import Flowdesk.Proofs.Text.Utf8

/-!
# Escapes of path segments

Every byte of a segment is written either as the character it stands for or as an escape,
and either is read back as the byte, whatever follows. The characters that are written are
printable and have no meaning in an address, and no escape among them is one of a dot.
-/

namespace Flowdesk.Address

open Text.Utf8

/-- What is written for one byte of a segment. -/
def writeByte (byte : UInt8) : List Char :=
  if escapedInPath byte then percentEscape byte else [Char.ofNat byte.toNat]

/-- Whether a character may be written for a segment: it is printable, and no mark of an
address but that of an escape. -/
def isWritten (c : Char) : Bool :=
  0x20 < c.toNat && c.toNat < 0x7F && !isSlash c && !endsPath c

/-- A character is written as it is if it can be seen, separates no segments and ends no path. -/
theorem isWritten_iff {c : Char} :
    isWritten c = true ↔
      (0x20 < c.toNat ∧ c.toNat < 0x7F) ∧ isSlash c = false ∧ endsPath c = false := by
  simp only [isWritten, Bool.and_eq_true, decide_eq_true_eq, Bool.not_eq_true', and_assoc]

/-- The bytes of characters. -/
def bytesOf (chars : List Char) : Bytes := chars.flatMap encodeChar

/-- A segment is written byte by byte. -/
theorem writeSegment_eq (segment : List Char) :
    writeSegment segment = (bytesOf segment).flatMap writeByte := by
  rw [writeSegment, encode, String.toList_ofList]
  rfl

theorem bytesOf_cons (c : Char) (chars : List Char) :
    bytesOf (c :: chars) = encodeChar c ++ bytesOf chars := List.flatMap_cons

theorem bytesOf_append (front back : List Char) :
    bytesOf (front ++ back) = bytesOf front ++ bytesOf back := List.flatMap_append

/-- Characters with the same bytes are the same. -/
theorem bytesOf_inj {left right : List Char} (same : bytesOf left = bytesOf right) :
    left = right := by
  have read : ∀ chars, pieces none (bytesOf chars) = chars.map some := pieces_flatMap_encodeChar
  have both : left.map some = right.map some := by rw [← read, ← read, same]
  exact (List.map_inj_right fun _ _ => Option.some.inj).mp both

section Digits

/-- The byte of a digit of an escape. -/
def digitByte (value : Nat) : UInt8 := UInt8.ofNat (upperHex value).toNat

theorem encodeChar_upperHex : ∀ value < 16, encodeChar (upperHex value) = [digitByte value] := by
  decide +kernel

/-- A digit is read as its value. -/
theorem hexValue?_digitByte : ∀ value < 16, hexValue? (digitByte value) = some value := by
  decide +kernel

theorem isWritten_upperHex : ∀ value < 16, isWritten (upperHex value) = true := by
  decide +kernel

theorem upperHex_ne_percent : ∀ value < 16, upperHex value ≠ '%' := by
  decide +kernel

/-- The digits of a byte are read as the byte. -/
theorem escaped?_digitByte (byte : UInt8) :
    escaped? (digitByte (byte.toNat / 16)) (digitByte (byte.toNat % 16)) = some byte := by
  have small := byte.toNat_lt
  have whole : byte.toNat / 16 * 16 + byte.toNat % 16 = byte.toNat := by omega
  simp only [escaped?, hexValue?_digitByte _ (show byte.toNat / 16 < 16 by omega),
    hexValue?_digitByte _ (show byte.toNat % 16 < 16 by omega), Option.bind_eq_bind,
    Option.bind_some, whole, UInt8.ofNat_toNat]

/-- An escape is a mark and two digits. -/
theorem bytesOf_percentEscape (byte : UInt8) :
    bytesOf (percentEscape byte) =
      [0x25, digitByte (byte.toNat / 16), digitByte (byte.toNat % 16)] := by
  have small := byte.toNat_lt
  have sign : encodeChar '%' = [0x25] := by decide
  rw [percentEscape, bytesOf_cons, bytesOf_cons, bytesOf_cons, sign,
    encodeChar_upperHex _ (by omega), encodeChar_upperHex _ (by omega)]
  rfl

end Digits

section Bytes

/-- What holds of the 256 bytes holds of every byte. -/
theorem forall_byte {law : UInt8 → Prop} (all : ∀ code < 256, law (UInt8.ofNat code))
    (byte : UInt8) : law byte := by
  have holds := all byte.toNat byte.toNat_lt
  rwa [UInt8.ofNat_toNat] at holds

/-- A byte that is not escaped is written as a printable character that has no meaning. -/
theorem plain_byte : ∀ byte, escapedInPath byte = false →
    byte ≠ 0x25 ∧ encodeChar (Char.ofNat byte.toNat) = [byte] ∧
      Char.ofNat byte.toNat ≠ '%' ∧ isWritten (Char.ofNat byte.toNat) = true :=
  forall_byte (by decide +kernel)

/-- No byte is escaped whose escape counts as a dot. -/
theorem escape_is_no_dot : ∀ byte, escapedInPath byte = true →
    ¬(upperHex (byte.toNat / 16) = '2' ∧
      (upperHex (byte.toNat % 16) = 'e' ∨ upperHex (byte.toNat % 16) = 'E')) :=
  forall_byte (by decide +kernel)

/-- A byte other than a percent sign stands for itself. -/
theorem percentDecode_cons {byte : UInt8} (plain : byte ≠ 0x25) (rest : Bytes) :
    percentDecode (byte :: rest) = byte :: percentDecode rest := by
  rw [percentDecode.eq_def]
  split
  · next same => exact absurd (List.cons.inj same).1 plain
  · next same =>
    obtain ⟨rfl, rfl⟩ := List.cons.inj same
    rfl
  · next none => exact nomatch none

/-- What is written for a byte is read as the byte. -/
theorem percentDecode_writeByte (byte : UInt8) (rest : Bytes) :
    percentDecode (bytesOf (writeByte byte) ++ rest) = byte :: percentDecode rest := by
  cases kind : escapedInPath byte with
  | true =>
    rw [writeByte, if_pos kind, bytesOf_percentEscape]
    simp only [List.cons_append, List.nil_append, percentDecode, escaped?_digitByte]
  | false =>
    obtain ⟨ordinary, encoded, -, -⟩ := plain_byte byte kind
    have single : bytesOf (writeByte byte) = [byte] := by
      rw [writeByte, kind, if_neg Bool.false_ne_true, bytesOf_cons, encoded]
      rfl
    rw [single, List.singleton_append, percentDecode_cons ordinary]

/-- What is written for a byte, an escape or not, is of characters that are written as they are. -/
theorem isWritten_of_mem_writeByte {byte : UInt8} {c : Char} (member : c ∈ writeByte byte) :
    isWritten c = true := by
  have small := byte.toNat_lt
  unfold writeByte at member
  split at member
  · simp only [percentEscape, List.mem_cons, List.not_mem_nil, or_false] at member
    rcases member with rfl | rfl | rfl
    · decide
    · exact isWritten_upperHex _ (by omega)
    · exact isWritten_upperHex _ (by omega)
  · next plain =>
    obtain rfl := List.mem_singleton.mp member
    exact (plain_byte byte (Bool.of_not_eq_true plain)).2.2.2

/-- A character other than a percent sign starts no escape of a dot. -/
theorem unescapeDots_cons {c : Char} (ordinary : c ≠ '%') (rest : List Char) :
    unescapeDots (c :: rest) = c :: unescapeDots rest := by
  rw [unescapeDots.eq_def]
  split
  · next same => exact absurd (List.cons.inj same).1 ordinary
  · next same => exact absurd (List.cons.inj same).1 ordinary
  · next same =>
    obtain ⟨rfl, rfl⟩ := List.cons.inj same
    rfl
  · next none => exact nomatch none

/-- An escape of another character than a dot stays. -/
theorem unescapeDots_escape {first second : Char}
    (other : ¬(first = '2' ∧ (second = 'e' ∨ second = 'E'))) (rest : List Char) :
    unescapeDots ('%' :: first :: second :: rest) =
      '%' :: unescapeDots (first :: second :: rest) := by
  rw [unescapeDots.eq_def]
  split
  · next same =>
    simp only [List.cons.injEq, true_and] at same
    exact absurd ⟨same.1, .inl same.2.1⟩ other
  · next same =>
    simp only [List.cons.injEq, true_and] at same
    exact absurd ⟨same.1, .inr same.2.1⟩ other
  · next same =>
    obtain ⟨rfl, rfl⟩ := List.cons.inj same
    rfl
  · next none => exact nomatch none

/-- Nothing that is written for a byte counts as a dot, but a dot. -/
theorem unescapeDots_writeByte (byte : UInt8) (rest : List Char) :
    unescapeDots (writeByte byte ++ rest) = writeByte byte ++ unescapeDots rest := by
  have small := byte.toNat_lt
  cases kind : escapedInPath byte with
  | true =>
    have high := upperHex_ne_percent (byte.toNat / 16) (by omega)
    have low := upperHex_ne_percent (byte.toNat % 16) (by omega)
    rw [writeByte, if_pos kind, percentEscape]
    simp only [List.cons_append, List.nil_append]
    rw [unescapeDots_escape (escape_is_no_dot byte kind), unescapeDots_cons high,
      unescapeDots_cons low]
  | false =>
    rw [writeByte, kind, if_neg Bool.false_ne_true, List.singleton_append,
      unescapeDots_cons (plain_byte byte kind).2.2.1]
    rfl

end Bytes

section Segments

/-- What is written for bytes is read as the bytes, whatever follows. -/
theorem percentDecode_flatMap_writeByte (bytes rest : Bytes) :
    percentDecode (bytesOf (bytes.flatMap writeByte) ++ rest) = bytes ++ percentDecode rest := by
  induction bytes with
  | nil => rfl
  | cons byte bytes inductionHypothesis =>
    rw [List.flatMap_cons, bytesOf_append, List.append_assoc, percentDecode_writeByte,
      inductionHypothesis, List.cons_append]

/-- What is written for a segment is read as the segment, whatever follows. -/
theorem percentDecode_writeSegment (segment : List Char) (rest : Bytes) :
    percentDecode (bytesOf (writeSegment segment) ++ rest) =
      bytesOf segment ++ percentDecode rest := by
  rw [writeSegment_eq, percentDecode_flatMap_writeByte]

/-- So is what is written for a segment, which is therefore not escaped again. -/
theorem isWritten_of_mem_writeSegment {segment : List Char} {c : Char}
    (member : c ∈ writeSegment segment) : isWritten c = true := by
  rw [writeSegment_eq] at member
  obtain ⟨byte, _, written⟩ := List.mem_flatMap.mp member
  exact isWritten_of_mem_writeByte written

/-- Different segments are written differently. -/
theorem writeSegment_inj {left right : List Char} (same : writeSegment left = writeSegment right) :
    left = right := by
  have read : ∀ segment, percentDecode (bytesOf (writeSegment segment)) = bytesOf segment := by
    intro segment
    have whole := percentDecode_writeSegment segment []
    simpa only [List.append_nil, percentDecode] using whole
  apply bytesOf_inj
  calc
    bytesOf left = percentDecode (bytesOf (writeSegment left)) := (read left).symm
    _ = percentDecode (bytesOf (writeSegment right)) := by rw [same]
    _ = bytesOf right := read right

/-- A dot is never escaped, so there are no escaped dots to be undone. -/
theorem unescapeDots_writeSegment (segment : List Char) :
    unescapeDots (writeSegment segment) = writeSegment segment := by
  rw [writeSegment_eq]
  induction bytesOf segment with
  | nil => rfl
  | cons byte bytes inductionHypothesis =>
    rw [List.flatMap_cons, unescapeDots_writeByte, inductionHypothesis]

/-- A segment that is not one of dots is not one when it is written. -/
theorem stepOf_writeSegment {segment : List Char} (notHere : segment ≠ ['.'])
    (notUp : segment ≠ ['.', '.']) : stepOf (writeSegment segment) = .into := by
  have one : writeSegment ['.'] = ['.'] := by decide
  have two : writeSegment ['.', '.'] = ['.', '.'] := by decide
  unfold stepOf
  rw [unescapeDots_writeSegment]
  split
  · next same => exact absurd (writeSegment_inj (same.trans one.symm)) notHere
  · next same => exact absurd (writeSegment_inj (same.trans two.symm)) notUp
  · rfl

/-- A segment with a character is not written as nothing. -/
theorem writeSegment_ne_nil {segment : List Char} (filled : segment ≠ []) :
    writeSegment segment ≠ [] := by
  have none : writeSegment [] = [] := rfl
  intro empty
  exact filled (writeSegment_inj (empty.trans none.symm))

end Segments

end Flowdesk.Address
