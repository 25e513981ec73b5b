import Mathlib.Data.String.Basic
import PreviewSync.Proofs.Bytes

/-!
# The order of texts

Texts are compared by the code points of their characters. This is the order of their UTF-8 forms
by bytes: a character of a larger code point has at least as many bytes, a form of more bytes begins
with a larger one, and forms of equally many bytes part at the first group of bits that differs.

## Main Definitions

* `Bytes.utf8EncodeChar_append_lt` — the forms of two characters decide, whatever follows them
* `Bytes.ofText_lt_ofText_iff` — the order by code points is the order by bytes
-/

namespace PreviewSync.Bytes

/-- Byte strings are compared at their first bytes, given as numbers. The bytes of a character are
computed as numbers. -/
theorem ofNat_cons_lt_cons_iff {a b : Nat} (ha : a < 256) (hb : b < 256) (as bs : Bytes) :
    UInt8.ofNat a :: as < UInt8.ofNat b :: bs ↔ a < b ∨ a = b ∧ as < bs := by
  rw [List.cons_lt_cons_iff, UInt8.lt_iff_toNat_lt, ← UInt8.toNat_inj, UInt8.toNat_ofNat_of_lt' ha,
    UInt8.toNat_ofNat_of_lt' hb]

/-- Every code point is below the end of the last plane. -/
theorem val_toNat_lt (c : Char) : c.val.toNat < 1114112 := by
  rcases c.valid with low | high
  · exact lt_trans low (by decide)
  · exact high.2

/-- A text that begins with a smaller character has the smaller form, whatever follows. Longer forms
belong to larger characters, so they need not be compared in length. -/
theorem utf8EncodeChar_append_lt {c d : Char} (before : c < d) (rest rest' : Bytes) :
    String.utf8EncodeChar c ++ rest < String.utf8EncodeChar d ++ rest' := by
  have order : c.val.toNat < d.val.toNat := before
  have bound := val_toNat_lt d
  unfold String.utf8EncodeChar
  dsimp only
  generalize c.val.toNat = m at order ⊢
  generalize d.val.toNat = n at order bound ⊢
  -- The groups of bits are digits to the base 64, so each is read off the quotient before it.
  have third (v : Nat) : v / 4096 = v / 64 / 64 := by
    rw [Nat.div_div_eq_div_mul]
  have fourth (v : Nat) : v / 262144 = v / 64 / 64 / 64 := by
    rw [Nat.div_div_eq_div_mul, Nat.div_div_eq_div_mul]
  simp only [third, fourth]
  -- One case for each pair of numbers of bytes.
  split_ifs
  all_goals
    simp (disch := omega) only [List.cons_append, List.nil_append, ofNat_cons_lt_cons_iff]
    omega

theorem utf8EncodeChar_ne_nil (c : Char) : String.utf8EncodeChar c ≠ [] := by
  unfold String.utf8EncodeChar
  dsimp only
  split_ifs <;> exact List.cons_ne_nil _ _

/-- The form of a larger list of characters is larger, by induction on where the lists part. -/
theorem flatMap_utf8EncodeChar_lt {cs ds : List Char} (before : cs < ds) :
    cs.flatMap String.utf8EncodeChar < ds.flatMap String.utf8EncodeChar := by
  induction before with
  | @nil d ds =>
    obtain ⟨b, bs, form⟩ := List.exists_cons_of_ne_nil (utf8EncodeChar_ne_nil d)
    rw [List.flatMap_cons, form]
    exact List.nil_lt_cons _ _
  | @cons c cs ds _ ih =>
    rw [List.flatMap_cons, List.flatMap_cons]
    exact List.append_left_lt ih
  | rel smaller =>
    rw [List.flatMap_cons, List.flatMap_cons]
    exact utf8EncodeChar_append_lt smaller _ _

/-- The order of texts by code points is that of their UTF-8 forms by bytes. So sets of keys are in
the same order for whoever compares bytes. -/
theorem ofText_lt_ofText_iff {s t : String} : ofText s < ofText t ↔ s < t := by
  have forward {s t : String} (before : s < t) : ofText s < ofText t :=
    flatMap_utf8EncodeChar_lt (String.lt_iff_toList_lt.1 before)
  refine ⟨fun before => ?_, forward⟩
  rcases lt_trichotomy s t with smaller | rfl | larger
  · exact smaller
  · exact absurd before (List.lt_irrefl _)
  · exact absurd before (List.lt_asymm (forward larger))

end PreviewSync.Bytes
