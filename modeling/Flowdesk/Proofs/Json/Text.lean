import Flowdesk.Json.Reader
import Flowdesk.Json.Writer

/-!
# A text between quotes is read as it was written

Whatever stands for one character between the quotes is read as that character, and the
rest as if it stood there alone. So the body of a text is read character by character, up to
the quote that ends it.
-/

namespace Flowdesk.Json

/-- What is read of a body that starts with a character, given what is read of its rest. -/
def startingWith (c : Char) (rest : Option (List Char × List Char)) :
    Option (List Char × List Char) := do
  let (body, after) ← rest
  some (c :: body, after)

/-- A control character that was written by its number is read as itself. -/
theorem fourDigits?_control {c : Char} (control : c.toNat < 0x20) :
    fourDigits? '0' '0' (Nat.digitChar (c.toNat / 16)) (Nat.digitChar (c.toNat % 16)) =
      some c.toNat := by
  have all : ∀ code : Fin 0x20, fourDigits? '0' '0' (Nat.digitChar (code.val / 16))
      (Nat.digitChar (code.val % 16)) = some code.val := by decide
  exact all ⟨c.toNat, control⟩

theorem textBody?_control {c : Char} (control : c.toNat < 0x20) (tail : List Char) :
    textBody? (['\\', 'u', '0', '0', Nat.digitChar (c.toNat / 16),
      Nat.digitChar (c.toNat % 16)] ++ tail) = startingWith c (textBody? tail) := by
  have low : ¬(0xD800 ≤ c.toNat ∧ c.toNat < 0xDC00) := by omega
  have high : ¬(0xDC00 ≤ c.toNat ∧ c.toNat < 0xE000) := by omega
  simp only [List.cons_append, List.nil_append, textBody?, fourDigits?_control control,
    Option.bind_eq_bind, Option.bind_some, if_neg low, if_neg high, Char.ofNat_toNat]
  rfl

/-- A character that stands for itself. -/
theorem textBody?_plain {c : Char} (quote : c ≠ '"') (backslash : c ≠ '\\')
    (above : ¬c.toNat < 0x20) (tail : List Char) :
    textBody? (c :: tail) = startingWith c (textBody? tail) := by
  have harmless : ¬(c.toNat < 0x20 ∨ c = '\\') := not_or.mpr ⟨above, backslash⟩
  rw [textBody?]
  · rw [if_neg harmless]
    rfl
  · exact fun same => quote same
  · exact fun _ _ _ _ _ same _ => backslash same
  · exact fun _ _ same _ => backslash same

/-- One character, however it was written. -/
theorem textBody?_escape (c : Char) (tail : List Char) :
    textBody? (escape c ++ tail) = startingWith c (textBody? tail) := by
  unfold escape
  split
  iterate 7 rfl
  next quote backslash _ _ _ _ _ =>
    split
    · next control => exact textBody?_control control tail
    · next above => exact textBody?_plain quote backslash above tail

/-- A text is read up to the quote that ends it. -/
theorem textBody?_flatMap (body after : List Char) :
    textBody? (body.flatMap escape ++ '"' :: after) = some (body, after) := by
  induction body with
  | nil => rfl
  | cons c body inductionHypothesis =>
    rw [List.flatMap_cons, List.append_assoc, textBody?_escape, inductionHypothesis]
    rfl

/-- What follows the first quote of a text that was written. -/
theorem textBody?_quote (value : String) (after : List Char) :
    ∃ chars, quote value ++ after = '"' :: chars ∧
      textBody? chars = some (value.toList, after) := by
  refine ⟨value.toList.flatMap escape ++ '"' :: after, ?_, textBody?_flatMap _ _⟩
  simp [quote]

end Flowdesk.Json
