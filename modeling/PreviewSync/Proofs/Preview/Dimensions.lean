import Mathlib.Algebra.Order.Round
import Mathlib.Data.Rat.Floor
import PreviewSync.Preview.Codec

/-!
# Dimensions within a limit

The shorter edge is the exact quotient of a product of two edges by a third one, rounded to the
nearest number, a half upwards. Half of the divisor is added before the division, without the
fraction that half of an odd divisor has; that does no harm, since no quotient by an odd number lies
halfway. The product of two edges and half a third one fit into 64 bits, and the quotient is no
larger than the shorter edge, so neither the word size nor the narrowing shows.

## Main Definitions

* `Dimensions.round_div` — the rounded quotient in whole numbers
* `Dimensions.toNat_quotient`, `Dimensions.toNat_scaleEdge` — the scaled edge in whole numbers
* `Dimensions.IsScaled`, `Dimensions.IsFitted` — what a scaled edge and fitted dimensions are
* `Dimensions.isFitted_fit` — dimensions are fitted
-/

namespace PreviewSync.Dimensions

/-- A quotient of whole numbers rounded to the nearest one, a half upwards, by a division of whole
numbers. -/
theorem round_div (n : Nat) {d : Nat} (pos : 0 < d) :
    round ((n : ℚ) / d) = ((n + d / 2) / d : Nat) := by
  have lower : 2 * ((n + d / 2) / d * d) ≤ 2 * n + d := by
    have := Nat.div_mul_le_self (n + d / 2) d
    omega
  have upper : 2 * n + d < 2 * (((n + d / 2) / d + 1) * d) := by
    have := Nat.lt_mul_of_div_lt (Nat.lt_add_one ((n + d / 2) / d)) pos
    omega
  generalize (n + d / 2) / d = q at lower upper
  have divisor : (0 : ℚ) < d := by exact_mod_cast pos
  have lower' : (2 : ℚ) * (q * d) ≤ 2 * n + d := by exact_mod_cast lower
  have upper' : (2 : ℚ) * n + d < 2 * ((q + 1) * d) := by exact_mod_cast upper
  rw [round_eq_iff, Set.mem_Ico, Int.cast_natCast]
  constructor
  · rw [le_div_iff₀ divisor]
    linarith
  · rw [div_lt_iff₀ divisor]
    linarith

variable {short long longest : UInt32}

/-- A product of two edges and half a third one fit into 64 bits. -/
theorem product_lt (short long longest : UInt32) :
    short.toNat * longest.toNat + long.toNat / 2 < UInt64.size := by
  have product : short.toNat * longest.toNat ≤ 4294967295 * 4294967295 :=
    Nat.mul_le_mul (Nat.le_of_lt_succ short.toNat_lt) (Nat.le_of_lt_succ longest.toNat_lt)
  have := long.toNat_lt
  unfold UInt64.size
  omega

/-- The quotient in whole numbers: neither the product nor the sum wraps around. Half of the divisor
is added before the division, which rounds to the nearest number. -/
theorem toNat_quotient (short long longest : UInt32) :
    ((short.toUInt64 * longest.toUInt64 + long.toUInt64 / 2) / long.toUInt64).toNat =
      (short.toNat * longest.toNat + long.toNat / 2) / long.toNat := by
  have bound := product_lt short long longest
  have two : (2 : UInt64).toNat = 2 := rfl
  rw [UInt64.toNat_div, UInt64.toNat_add, UInt64.toNat_mul, UInt64.toNat_div, two,
    UInt32.toNat_toUInt64, UInt32.toNat_toUInt64, UInt32.toNat_toUInt64,
    Nat.mod_eq_of_lt (lt_of_le_of_lt (Nat.le_add_right _ _) bound), Nat.mod_eq_of_lt bound]

/-- The scaled edge in whole numbers. -/
theorem toNat_scaleEdge (short long longest : UInt32) :
    (scaleEdge short long longest).toNat =
      max 1 (min 4294967295 ((short.toNat * longest.toNat + long.toNat / 2) / long.toNat)) := by
  unfold scaleEdge
  rw [← toNat_quotient]
  generalize (short.toUInt64 * longest.toUInt64 + long.toUInt64 / 2) / long.toUInt64 = scaled
  have most : (4294967295 : UInt64).toNat = 4294967295 := rfl
  have most' : (4294967295 : UInt32).toNat = 4294967295 := rfl
  have one : (1 : UInt32).toNat = 1 := rfl
  simp only [UInt64.le_iff_toNat_le, UInt32.lt_iff_toNat_lt, most]
  -- The quotient may be too large for an edge, and what is left of it may be zero.
  split_ifs with narrow small small
  all_goals
    simp only [UInt64.toNat_toUInt32, most', one] at small ⊢
    omega

/-- A quotient is no larger than a factor of its numerator if the other factor is no larger than
the denominator. -/
theorem quotient_le {a b d : Nat} (small : a ≤ d) (pos : 0 < d) : (a * b + d / 2) / d ≤ b := by
  apply Nat.le_of_lt_succ
  rw [Nat.div_lt_iff_lt_mul pos, Nat.succ_mul]
  have product : a * b ≤ b * d := by
    rw [Nat.mul_comm b d]
    exact Nat.mul_le_mul_right b small
  omega

/-- An edge is scaled as another one is brought to a limit: the exact quotient rounded to the
nearest number, a half upwards, but at least one. No number on the way leaves 64 bits, and the
quotient fits into 32. The rounding is said of rational numbers, where it does not depend on how it
is computed. -/
structure IsScaled (short long longest scaled : UInt32) : Prop where
  rounded : (scaled.toNat : ℤ) =
    max 1 (round ((short.toNat * longest.toNat : ℕ) / (long.toNat : ℚ)))
  noOverflow : short.toNat * longest.toNat + long.toNat / 2 < UInt64.size
  unsaturated : (short.toNat * longest.toNat + long.toNat / 2) / long.toNat < UInt32.size

section Scaling

variable (positive : 0 < short) (ordered : short ≤ long) (exceeds : longest < long)

include ordered exceeds in
/-- The quotient is no larger than the shorter edge, and no larger than the limit. So a scaled edge
never needs the bound of 32 bits. -/
theorem quotient_le_edges :
    (short.toNat * longest.toNat + long.toNat / 2) / long.toNat ≤ short.toNat ∧
      (short.toNat * longest.toNat + long.toNat / 2) / long.toNat ≤ longest.toNat := by
  rw [UInt32.le_iff_toNat_le] at ordered
  rw [UInt32.lt_iff_toNat_lt] at exceeds
  have pos : 0 < long.toNat := by omega
  refine ⟨?_, quotient_le ordered pos⟩
  rw [Nat.mul_comm]
  exact quotient_le (by omega) pos

include ordered exceeds in
theorem isScaled_scaleEdge : IsScaled short long longest (scaleEdge short long longest) := by
  have small := (quotient_le_edges ordered exceeds).1
  have narrow := short.toNat_lt
  have pos : 0 < long.toNat := by
    rw [UInt32.lt_iff_toNat_lt] at exceeds
    omega
  refine ⟨?_, product_lt short long longest, lt_of_le_of_lt small narrow⟩
  rw [toNat_scaleEdge, round_div _ pos]
  omega

include positive ordered exceeds in
/-- A scaled edge is at least one, at most the edge it was, and at most the limit. Without the lower
bound, a narrow image could vanish. -/
theorem scaleEdge_bounds (limited : longest ≠ 0) :
    0 < scaleEdge short long longest ∧ scaleEdge short long longest ≤ short ∧
      scaleEdge short long longest ≤ longest := by
  have small := quotient_le_edges ordered exceeds
  have nonzero : longest.toNat ≠ 0 := fun zero => limited (UInt32.toNat_inj.1 zero)
  rw [UInt32.lt_iff_toNat_lt] at positive
  rw [UInt32.lt_iff_toNat_lt, UInt32.le_iff_toNat_le, UInt32.le_iff_toNat_le, toNat_scaleEdge]
  change 0 < short.toNat at positive
  show 0 < _ ∧ _
  omega

end Scaling

/-- Dimensions brought to a limit of the longer edge. Dimensions within the limit are kept, and a
limit of zero is none. Otherwise the longer edge, which is the width if both are equal, becomes the
limit, and the other one is scaled with it. Nothing vanishes, nothing grows, and fitting once more
changes nothing. -/
structure IsFitted (size : Dimensions) (longest : UInt32) (fitted : Dimensions) : Prop where
  kept : longest = 0 ∨ size.width ≤ longest ∧ size.height ≤ longest → fitted = size
  wide : longest ≠ 0 → longest < size.width → size.height ≤ size.width →
    fitted.width = longest ∧ IsScaled size.height size.width longest fitted.height
  high : longest ≠ 0 → longest < size.height → size.width < size.height →
    fitted.height = longest ∧ IsScaled size.width size.height longest fitted.width
  positive : 0 < fitted.width ∧ 0 < fitted.height
  noLarger : fitted.width ≤ size.width ∧ fitted.height ≤ size.height
  stable : fitted.fit longest = fitted

variable {size : Dimensions}

theorem fit_of_within (within : longest = 0 ∨ size.width ≤ longest ∧ size.height ≤ longest) :
    size.fit longest = size :=
  if_pos within.symm

/-- Dimensions with an edge over the limit are brought to it by their longer edge. The other edge
follows in proportion. -/
theorem fit_of_exceeds (limited : longest ≠ 0)
    (exceeds : longest < size.width ∨ longest < size.height) :
    size.fit longest =
      if size.height ≤ size.width then ⟨longest, scaleEdge size.height size.width longest⟩
      else ⟨scaleEdge size.width size.height longest, longest⟩ := by
  refine if_neg ?_
  simp only [UInt32.lt_iff_toNat_lt, UInt32.le_iff_toNat_le] at exceeds ⊢
  simp only [limited, or_false]
  omega

theorem fit_of_wide (limited : longest ≠ 0) (exceeds : longest < size.width)
    (wide : size.height ≤ size.width) :
    size.fit longest = ⟨longest, scaleEdge size.height size.width longest⟩ := by
  rw [fit_of_exceeds limited (.inl exceeds), if_pos wide]

theorem fit_of_high (limited : longest ≠ 0) (exceeds : longest < size.height)
    (high : size.width < size.height) :
    size.fit longest = ⟨scaleEdge size.width size.height longest, longest⟩ := by
  rw [fit_of_exceeds limited (.inr exceeds), if_neg (UInt32.not_le.2 high)]

/-- Every pair of edges is within the limit, wide or high. Of a square that exceeds the limit it is
said that it is wide. -/
theorem within_or_wide_or_high (size : Dimensions) (longest : UInt32) :
    (longest = 0 ∨ size.width ≤ longest ∧ size.height ≤ longest) ∨
      (longest ≠ 0 ∧ longest < size.width ∧ size.height ≤ size.width) ∨
      (longest ≠ 0 ∧ longest < size.height ∧ size.width < size.height) := by
  simp only [UInt32.le_iff_toNat_le, UInt32.lt_iff_toNat_lt]
  by_cases zero : longest = 0
  · exact .inl (.inl zero)
  · simp only [zero, ne_eq, not_false_eq_true, true_and, false_or]
    omega

/-- No edge vanishes or grows, and fitting once more changes nothing. So a preview that was scaled
is not scaled again. -/
theorem fit_bounds (wide : 0 < size.width) (high : 0 < size.height) (longest : UInt32) :
    (0 < (size.fit longest).width ∧ 0 < (size.fit longest).height) ∧
      ((size.fit longest).width ≤ size.width ∧ (size.fit longest).height ≤ size.height) ∧
      (size.fit longest).fit longest = size.fit longest := by
  rcases size.within_or_wide_or_high longest with
    within | ⟨limited, exceeds, ordered⟩ | ⟨limited, exceeds, ordered⟩
  · rw [fit_of_within within, fit_of_within within]
    exact ⟨⟨wide, high⟩, ⟨UInt32.le_refl _, UInt32.le_refl _⟩, rfl⟩
  · obtain ⟨some, less, within⟩ := scaleEdge_bounds high ordered exceeds limited
    rw [fit_of_wide limited exceeds ordered]
    exact ⟨⟨UInt32.pos_iff_ne_zero.2 limited, some⟩, ⟨UInt32.le_of_lt exceeds, less⟩,
      fit_of_within (.inr ⟨UInt32.le_refl _, within⟩)⟩
  · obtain ⟨some, less, within⟩ := scaleEdge_bounds wide (UInt32.le_of_lt ordered) exceeds limited
    rw [fit_of_high limited exceeds ordered]
    exact ⟨⟨some, UInt32.pos_iff_ne_zero.2 limited⟩, ⟨less, UInt32.le_of_lt exceeds⟩,
      fit_of_within (.inr ⟨within, UInt32.le_refl _⟩)⟩

/-- Dimensions without a zero are fitted. -/
theorem isFitted_fit (wide : 0 < size.width) (high : 0 < size.height) (longest : UInt32) :
    size.IsFitted longest (size.fit longest) := by
  obtain ⟨positive, noLarger, stable⟩ := fit_bounds wide high longest
  refine ⟨fit_of_within, ?_, ?_, positive, noLarger, stable⟩
  · intro limited exceeds ordered
    rw [fit_of_wide limited exceeds ordered]
    exact ⟨rfl, isScaled_scaleEdge ordered exceeds⟩
  · intro limited exceeds ordered
    rw [fit_of_high limited exceeds ordered]
    exact ⟨rfl, isScaled_scaleEdge (UInt32.le_of_lt ordered) exceeds⟩

end PreviewSync.Dimensions
