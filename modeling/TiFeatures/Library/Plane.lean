/-
This file is a small library of sums of points of the plane, each rotated by an angle of
its own. Such a sum is at most as long as its points together, and is their sum if none
of them is rotated.
-/

import Mathlib.Analysis.SpecialFunctions.Trigonometric.Basic

namespace Plane

/-- The length of a point. -/
noncomputable def size (point : ℝ × ℝ) : ℝ := ‖(⟨point.1, point.2⟩ : ℂ)‖

/-- A point rotated against the angle. -/
noncomputable def rotate (point : ℝ × ℝ) (angle : ℝ) : ℝ × ℝ :=
  (point.1 * Real.cos angle + point.2 * Real.sin angle,
    point.2 * Real.cos angle - point.1 * Real.sin angle)

/-- The sum of indexed points, each rotated by the angle of its index. -/
noncomputable def rotatedSum (angle : ℕ → ℝ) (entries : List (ℕ × ℝ × ℝ)) (start : ℝ × ℝ) :
    ℝ × ℝ :=
  entries.foldl (fun sums entry =>
    let rotated := rotate entry.2 (angle entry.1)
    (sums.1 + rotated.1, sums.2 + rotated.2)) start

theorem size_eq (point : ℝ × ℝ) :
    size point = Real.sqrt (point.1 * point.1 + point.2 * point.2) := rfl

theorem size_nonneg (point : ℝ × ℝ) : 0 ≤ size point :=
  norm_nonneg (⟨point.1, point.2⟩ : ℂ)

theorem size_add_le (first second : ℝ × ℝ) :
    size (first.1 + second.1, first.2 + second.2) ≤ size first + size second :=
  norm_add_le (⟨first.1, first.2⟩ : ℂ) ⟨second.1, second.2⟩

/-- A point on the axis is as long as its coordinate. -/
theorem size_axis {value : ℝ} (nonneg : 0 ≤ value) : size (value, 0) = value := by
  rw [size_eq, mul_zero, add_zero, Real.sqrt_mul_self nonneg]

/-- A rotation keeps the length. -/
theorem size_rotate (point : ℝ × ℝ) (angle : ℝ) : size (rotate point angle) = size point := by
  rw [size_eq, size_eq, rotate]
  congr 1
  linear_combination (point.1 * point.1 + point.2 * point.2) * Real.sin_sq_add_cos_sq angle

theorem rotate_zero (point : ℝ × ℝ) : rotate point 0 = point := by
  rw [rotate, Real.cos_zero, Real.sin_zero, mul_one, mul_zero, add_zero, mul_one, mul_zero,
    sub_zero]

variable (angle : ℕ → ℝ) (entries : List (ℕ × ℝ × ℝ)) (start : ℝ × ℝ)

/-- The sum is at most as long as all its points together. -/
theorem size_rotatedSum_le :
    size (rotatedSum angle entries start) ≤
      size start + (entries.map fun entry => size entry.2).sum := by
  induction entries generalizing start with
  | nil => exact (add_zero _).ge
  | cons entry entries inductionHypothesis =>
    have first := size_add_le start (rotate entry.2 (angle entry.1))
    rw [size_rotate] at first
    rw [List.map_cons, List.sum_cons, ← add_assoc]
    exact (inductionHypothesis _).trans (add_le_add_left first _)

/-- The sum of points that are not rotated. -/
theorem rotatedSum_still (still : ∀ index, angle index = 0) :
    rotatedSum angle entries start = (start.1 + (entries.map fun entry => entry.2.1).sum,
      start.2 + (entries.map fun entry => entry.2.2).sum) := by
  induction entries generalizing start with
  | nil => exact (Prod.ext (add_zero _) (add_zero _)).symm
  | cons entry entries inductionHypothesis =>
    refine (inductionHypothesis _).trans ?_
    dsimp only
    rw [still, rotate_zero, List.map_cons, List.map_cons, List.sum_cons, List.sum_cons, add_assoc,
      add_assoc]

end Plane
