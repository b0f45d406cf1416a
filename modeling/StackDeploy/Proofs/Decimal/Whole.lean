/-
# Integers as doubles

Every integer of 64 bits has a double nearest to it. Below 2^53 that double has the value of the
integer. From there on the doubles are more than one apart, so some integers share their double; but
rounding does not lead back below 2^53. This is all that a comparison of integers with doubles
needs.
-/

import Mathlib.Algebra.Group.Int.Defs
import Mathlib.Algebra.Group.Nat.Defs
import Mathlib.Data.Nat.Log
import StackDeploy.Decimal.Double

namespace StackDeploy

/-- A rounded quotient does not change if both numbers are scaled. -/
theorem roundedQuotient_mul_right (num den : Nat) {scale : Nat} (positive : 0 < scale) :
    roundedQuotient (num * scale) (den * scale) = roundedQuotient num den := by
  have half : 2 * (num % den * scale) < den * scale ↔ 2 * (num % den) < den := by
    rw [← Nat.mul_assoc]
    exact Nat.mul_lt_mul_right positive
  have tie : 2 * (num % den * scale) = den * scale ↔ 2 * (num % den) = den := by
    rw [← Nat.mul_assoc]
    exact Nat.mul_left_inj (Nat.ne_of_gt positive)
  unfold roundedQuotient
  rw [Nat.mul_div_mul_right _ _ positive, Nat.mul_mod_mul_right]
  simp only [half, tie]

/-- A quotient without a remainder is not rounded. -/
theorem roundedQuotient_mul_self (quotient : Nat) {den : Nat} (positive : 0 < den) :
    roundedQuotient (quotient * den) den = quotient := by
  unfold roundedQuotient
  rw [Nat.mul_mod_left, Nat.mul_div_cancel _ positive, Nat.mul_zero]
  exact if_pos (Or.inl positive)

theorem roundedQuotient_bounds (num den : Nat) :
    num / den ≤ roundedQuotient num den ∧ roundedQuotient num den ≤ num / den + 1 := by
  unfold roundedQuotient
  dsimp only
  split <;> omega

namespace Double

theorem unitsPerOne_eq (places : Nat) (total : 1074 = places) : unitsPerOne = 2 ^ places := by
  unfold unitsPerOne
  rw [total, Nat.pow_eq]

theorem unitsPerOne_pos : 0 < unitsPerOne := by
  obtain ⟨places, total⟩ : ∃ places, 1074 = places := ⟨_, rfl⟩
  rw [unitsPerOne_eq places total]
  exact Nat.two_pow_pos places

theorem make?_eq_some {negative : Bool} {significand shift : Nat}
    (below : significand < Nat.pow 2 53) (normal : shift = 0 ∨ Nat.pow 2 52 ≤ significand)
    (inRange : shift ≤ 2045) :
    make? negative significand shift =
      some ⟨negative, significand, shift, below, normal, inRange⟩ :=
  dif_pos ⟨below, normal, inRange⟩

/-- Rounding gives a double with the rounded significand, where the largest significand that it can
round to moves to the next shift. -/
theorem exists_nearestUnits (negative : Bool) {num den shift significand : Nat}
    (shifted : Nat.log2 (num / den) - 52 = shift)
    (rounded : roundedQuotient num (den * Nat.pow 2 shift) = significand)
    (bound : significand ≤ Nat.pow 2 53) (normal : shift = 0 ∨ Nat.pow 2 52 ≤ significand)
    (inRange : shift ≤ 2044) :
    ∃ d, nearestUnits negative num den = some d ∧ d.negative = negative ∧
      d.units = significand * Nat.pow 2 shift := by
  unfold nearestUnits
  dsimp only
  rw [shifted, rounded]
  by_cases carries : significand = Nat.pow 2 53
  · rw [if_pos carries, make?_eq_some (by decide) (Or.inr (Nat.le_refl _)) (by omega)]
    refine ⟨_, rfl, rfl, ?_⟩
    rw [carries]
    show Nat.pow 2 52 * 2 ^ (shift + 1) = Nat.pow 2 53 * 2 ^ shift
    rw [Nat.pow_succ]
    show 2 ^ 52 * (2 ^ shift * 2) = 2 ^ 53 * 2 ^ shift
    omega
  · rw [if_neg carries, make?_eq_some (Nat.lt_of_le_of_ne bound carries) normal (by omega)]
    exact ⟨_, rfl, rfl, rfl⟩

theorem log2_mul_two_pow {n : Nat} (positive : n ≠ 0) (places : Nat) :
    (n * 2 ^ places).log2 = n.log2 + places := by
  obtain ⟨low, high⟩ := (Nat.log2_eq_iff positive).1 rfl
  refine (Nat.log2_eq_iff (Nat.mul_ne_zero positive (Nat.two_pow_pos places).ne')).2 ⟨?_, ?_⟩
  · rw [Nat.pow_add]
    exact Nat.mul_le_mul_right _ low
  · rw [Nat.add_right_comm, Nat.pow_add]
    exact (Nat.mul_lt_mul_right (Nat.two_pow_pos places)).2 high

/-- The significand of a number is its first 53 digits to the base two, the rest being rounded. -/
theorem exists_nearestUnits_scaled (negative : Bool) (places : Nat) {n : Nat} (positive : n ≠ 0)
    (inRange : n.log2 + places ≤ 2044) :
    ∃ d, nearestUnits negative (n * 2 ^ (52 + places)) 1 = some d ∧ d.negative = negative ∧
      2 ^ 52 ≤ d.units / 2 ^ (n.log2 + places) ∧
        d.units = roundedQuotient (n * 2 ^ 52) (2 ^ n.log2) * 2 ^ (n.log2 + places) := by
  obtain ⟨low, high⟩ := (Nat.log2_eq_iff positive).1 rfl
  have shifted : (n * 2 ^ (52 + places) / 1).log2 - 52 = n.log2 + places := by
    rw [Nat.div_one, log2_mul_two_pow positive]
    omega
  have rounded : roundedQuotient (n * 2 ^ (52 + places)) (1 * Nat.pow 2 (n.log2 + places)) =
      roundedQuotient (n * 2 ^ 52) (2 ^ n.log2) := by
    rw [Nat.one_mul, Nat.pow_eq, Nat.pow_add, Nat.pow_add, ← Nat.mul_assoc,
      roundedQuotient_mul_right _ _ (Nat.two_pow_pos places)]
  have least : 2 ^ 52 ≤ n * 2 ^ 52 / 2 ^ n.log2 := by
    rw [Nat.le_div_iff_mul_le (Nat.two_pow_pos _), Nat.mul_comm]
    exact Nat.mul_le_mul_right _ low
  have greatest : n * 2 ^ 52 / 2 ^ n.log2 < 2 ^ 53 := by
    rw [Nat.div_lt_iff_lt_mul (Nat.two_pow_pos _)]
    rw [Nat.pow_succ] at high
    omega
  have bounds := roundedQuotient_bounds (n * 2 ^ 52) (2 ^ n.log2)
  obtain ⟨d, nearest, sign, units⟩ := exists_nearestUnits negative shifted rounded
    (bounds.2.trans greatest) (Or.inr (least.trans bounds.1)) inRange
  refine ⟨d, nearest, sign, ?_, units⟩
  rw [units, Nat.pow_eq, Nat.mul_div_cancel _ (Nat.two_pow_pos _)]
  exact least.trans bounds.1

/-- The double nearest to an integer of 64 bits: it is the integer itself below 2^53, and it does
not come below 2^53 otherwise. -/
theorem exists_ofInt (n : Int) (word : n.natAbs < 2 ^ 64) :
    ∃ d, ofInt? n = some d ∧ d.negative = decide (n < 0) ∧
      (n.natAbs < 2 ^ 53 → d.units = n.natAbs * unitsPerOne) ∧
        (2 ^ 53 ≤ n.natAbs → 2 ^ 53 * unitsPerOne ≤ d.units) := by
  unfold ofInt? ofQuotient
  generalize decide (n < 0) = negative
  generalize n.natAbs = m at word ⊢
  obtain ⟨places, total⟩ : ∃ places, places = 1022 := ⟨_, rfl⟩
  rw [unitsPerOne_eq (52 + places) (by omega)]
  by_cases zero : m = 0
  · refine ⟨Double.zero negative, ?_, rfl, fun _ => ?_, fun large => ?_⟩
    · rw [zero, Nat.zero_mul]
      rfl
    · rw [zero, Nat.zero_mul]
      rfl
    · omega
  · have length : m.log2 < 64 := (Nat.log2_lt zero).2 word
    obtain ⟨d, nearest, sign, least, units⟩ :=
      exists_nearestUnits_scaled negative places zero (by omega)
    refine ⟨d, nearest, sign, fun small => ?_, fun large => ?_⟩
    · have short : m.log2 < 53 := (Nat.log2_lt zero).2 small
      have exact_quotient : m * 2 ^ 52 = m * 2 ^ (52 - m.log2) * 2 ^ m.log2 := by
        rw [Nat.mul_assoc, ← Nat.pow_add, Nat.sub_add_cancel (Nat.le_of_lt_succ short)]
      rw [units, exact_quotient, roundedQuotient_mul_self _ (Nat.two_pow_pos _), Nat.mul_assoc,
        ← Nat.pow_add]
      congr 2
      omega
    · have long : 53 ≤ m.log2 := (Nat.le_log2 zero).2 large
      rw [Nat.le_div_iff_mul_le (Nat.two_pow_pos _), ← Nat.pow_add] at least
      rw [← Nat.pow_add]
      exact (Nat.pow_le_pow_right (by decide) (by omega)).trans least

end Double

end StackDeploy
