/-
This file is a small library of the covariance of finite families, scaled so that no
division is needed. It is half the sum of the products of the differences over all
pairs of indices, from which its sign and its bound follow.
-/

import Mathlib.Algebra.BigOperators.Fin
import Mathlib.Algebra.Order.BigOperators.Ring.Finset
import Mathlib.Algebra.Order.Field.Basic
import Mathlib.Tactic.Ring

namespace Covariance

variable {Index K : Type} [Field K] (indices : Finset Index) (x y : Index → K)

/-- The covariance of two families, times the square of the number of indices. -/
def scaled : K :=
  indices.card * ∑ i ∈ indices, x i * y i - (∑ i ∈ indices, x i) * ∑ i ∈ indices, y i

/-- The covariance is a sum over the differences of all pairs. -/
theorem two_mul_scaled :
    2 * scaled indices x y =
      ∑ pair ∈ indices ×ˢ indices, (x pair.1 - x pair.2) * (y pair.1 - y pair.2) := by
  have expand : ∀ i j, (x i - x j) * (y i - y j) =
      x i * y i + x j * y j - (x i * y j + x j * y i) := fun i j => by ring
  rw [Finset.sum_product]
  simp only [expand, Finset.sum_sub_distrib, Finset.sum_add_distrib, Finset.sum_const,
    nsmul_eq_mul, ← Finset.mul_sum, ← Finset.sum_mul]
  rw [scaled]
  ring

variable [LinearOrder K] [IsStrictOrderedRing K]

theorem scaled_self_nonneg : 0 ≤ scaled indices x x := by
  have twice : 0 ≤ 2 * scaled indices x x := by
    rw [two_mul_scaled]
    exact Finset.sum_nonneg fun pair _ => mul_self_nonneg _
  exact nonneg_of_mul_nonneg_right twice two_pos

/-- Only a constant family has no variance. -/
theorem scaled_self_eq_zero_iff :
    scaled indices x x = 0 ↔ ∀ i ∈ indices, ∀ j ∈ indices, x i = x j := by
  have twice : scaled indices x x = 0 ↔ 2 * scaled indices x x = 0 := by
    rw [mul_eq_zero, or_iff_right two_ne_zero]
  rw [twice, two_mul_scaled, Finset.sum_mul_self_eq_zero_iff]
  constructor
  · intro same i member j other
    exact sub_eq_zero.mp (same (i, j) (Finset.mk_mem_product member other))
  · intro same pair member
    obtain ⟨first, second⟩ := Finset.mem_product.mp member
    exact sub_eq_zero.mpr (same pair.1 first pair.2 second)

/-- The inequality of Cauchy and Schwarz. -/
theorem scaled_sq_le : scaled indices x y ^ 2 ≤ scaled indices x x * scaled indices y y := by
  have bound := Finset.sum_mul_sq_le_sq_mul_sq (indices ×ˢ indices)
    (fun pair => x pair.1 - x pair.2) fun pair => y pair.1 - y pair.2
  simp only [sq (_ - _)] at bound
  rw [← two_mul_scaled, ← two_mul_scaled, ← two_mul_scaled] at bound
  have scale : (2 * scaled indices x y) ^ 2 = 4 * scaled indices x y ^ 2 := by ring
  have other : 2 * scaled indices x x * (2 * scaled indices y y) =
      4 * (scaled indices x x * scaled indices y y) := by ring
  rw [scale, other] at bound
  exact le_of_mul_le_mul_left bound four_pos

end Covariance
