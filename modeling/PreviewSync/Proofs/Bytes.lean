import PreviewSync.Bytes

/-!
# The passage between text and bytes

A text is determined by its UTF-8 form, and is what its UTF-8 form is read as.

## Main Definitions

* `Bytes.toText?_ofText` — reading back what was written
* `Bytes.ofText_injective` — the UTF-8 form determines the text
* `Bytes.ofText_ofList_of_ascii` — the UTF-8 form of a text of ASCII characters
* `Bytes.le_of_mem_utf8EncodeChar` — other characters have no ASCII byte
-/

namespace PreviewSync.Bytes

/-- The UTF-8 form of a text as an array of bytes. -/
theorem toByteArray_ofText (text : String) : (ofText text).toByteArray = text.toByteArray := by
  rw [ofText, ← List.utf8Encode, String.utf8Encode_toList]

/-- A text is what its UTF-8 form is read as. -/
theorem toText?_ofText (text : String) : toText? (ofText text) = some text := by
  rw [toText?, toByteArray_ofText, String.fromUTF8?, dif_pos text.isValidUTF8]
  rfl

/-- The UTF-8 form determines the text. -/
theorem ofText_injective {s t : String} (h : ofText s = ofText t) : s = t := by
  have same : toText? (ofText s) = toText? (ofText t) := by rw [h]
  rw [toText?_ofText, toText?_ofText] at same
  exact Option.some.inj same

/-- An ASCII character is one byte. -/
theorem utf8EncodeChar_of_ascii {c : Char} (ascii : c.toNat < 128) :
    String.utf8EncodeChar c = [UInt8.ofNat c.toNat] := by
  have size : c.utf8Size = 1 := by
    rw [Char.utf8Size_eq_one_iff, UInt32.le_iff_toNat_le]
    show c.toNat ≤ 127
    omega
  rw [String.utf8EncodeChar_eq_singleton size]
  rfl

/-- Other characters have no ASCII byte. -/
theorem le_of_mem_utf8EncodeChar {c : Char} (wide : 128 ≤ c.toNat) {b : UInt8}
    (member : b ∈ String.utf8EncodeChar c) : 128 ≤ b.toNat := by
  have large : ¬ c.val.toNat ≤ 127 := by
    have same : c.toNat = c.val.toNat := rfl
    omega
  unfold String.utf8EncodeChar at member
  dsimp only at member
  rw [if_neg large] at member
  -- Every byte has its first bit set, whatever the number of bytes is.
  have marked : ∀ n, 128 ≤ n → n < 256 → 128 ≤ (UInt8.ofNat n).toNat := by
    intro n low high
    rw [UInt8.toNat_ofNat']
    omega
  split at member
  · simp only [List.mem_cons, List.not_mem_nil, or_false] at member
    rcases member with rfl | rfl <;> exact marked _ (by omega) (by omega)
  · split at member
    · simp only [List.mem_cons, List.not_mem_nil, or_false] at member
      rcases member with rfl | rfl | rfl <;> exact marked _ (by omega) (by omega)
    · simp only [List.mem_cons, List.not_mem_nil, or_false] at member
      rcases member with rfl | rfl | rfl | rfl <;> exact marked _ (by omega) (by omega)

/-- The UTF-8 form of a text of ASCII characters has a byte for each. -/
theorem ofText_ofList_of_ascii {cs : List Char} (ascii : ∀ c ∈ cs, c.toNat < 128) :
    ofText (String.ofList cs) = cs.map fun c => UInt8.ofNat c.toNat := by
  rw [ofText, String.toList_ofList]
  induction cs with
  | nil => rfl
  | cons c cs ih =>
    rw [List.forall_mem_cons] at ascii
    rw [List.flatMap_cons, utf8EncodeChar_of_ascii ascii.1, ih ascii.2]
    rfl

end PreviewSync.Bytes
