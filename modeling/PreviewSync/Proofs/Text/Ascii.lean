/-!
# Checks on characters

What is said of the characters of a text, or of all ASCII characters, can be checked for one after
the other.

## Main Definitions

* `Text.forall_mem_of_all` — the characters of a text
* `Text.forall_ascii` — what is said of all ASCII characters can be checked number by number
* `Text.ascii_of_isAlphanum` — letters and digits are ASCII characters
* `Text.toLower_toLower` — a letter in lower case stays as it is
-/

namespace PreviewSync.Text

/-- What is said of the characters of a text can be checked for one after the other. It makes a
statement about a text that is given one that can be decided. -/
theorem forall_mem_of_all {cs : List Char} {p : Char → Prop} [DecidablePred p]
    (h : (cs.all fun c => decide (p c)) = true) : ∀ c ∈ cs, p c := by
  intro c member
  exact of_decide_eq_true (List.all_eq_true.1 h c member)

/-- What is said of all ASCII characters can be checked number by number. This is how classes of
characters are compared without a table. -/
theorem forall_ascii {p : Char → Prop} (h : ∀ n < 128, p (Char.ofNat n)) :
    ∀ c : Char, c.toNat < 128 → p c := by
  intro c ascii
  have here := h c.toNat ascii
  rwa [Char.ofNat_toNat] at here

/-- Letters and digits are ASCII characters. -/
theorem ascii_of_isAlphanum {c : Char} (h : c.isAlphanum = true) : c.toNat < 128 := by
  have below : ∀ last : UInt32, c.val ≤ last → last.toNat < 128 → c.toNat < 128 :=
    fun last le small => Nat.lt_of_le_of_lt (UInt32.le_iff_toNat_le.1 le) small
  replace h : ((c.isUpper || c.isLower) || c.isDigit) = true := h
  rw [Bool.or_eq_true, Bool.or_eq_true] at h
  rcases h with (upper | lower) | digit
  · exact below _ (of_decide_eq_true upper).2 (by decide)
  · replace lower : (decide (c.val ≥ 97) && decide (c.val ≤ 122)) = true := lower
    rw [Bool.and_eq_true] at lower
    exact below _ (of_decide_eq_true lower.2) (by decide)
  · rw [Char.isDigit, Bool.and_eq_true] at digit
    exact below _ (of_decide_eq_true digit.2) (by decide)

/-- A letter in lower case stays as it is: none of them is in upper case. -/
theorem toLower_toLower (c : Char) : c.toLower.toLower = c.toLower := by
  unfold Char.toLower
  split
  · rename_i upper
    rw [dif_neg]
    intro again
    have first := UInt32.le_iff_toNat_le.1 upper.1
    have last := UInt32.le_iff_toNat_le.1 upper.2
    have moved := UInt32.le_iff_toNat_le.1 again.2
    simp at first last moved
    omega
  · rfl

end PreviewSync.Text
