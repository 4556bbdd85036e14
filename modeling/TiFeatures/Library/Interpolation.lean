/-
This file is a small library of linear interpolation between the values of a sequence:
the interpolation of a monotone sequence is monotone and agrees with it at the indices.
-/

import Mathlib.Algebra.Order.Floor.Semifield
import Mathlib.Algebra.Order.Field.Basic
import Mathlib.Tactic.FieldSimp
import Mathlib.Tactic.Linarith
import Mathlib.Tactic.Ring

namespace Interpolation

variable {K : Type} [Field K] [LinearOrder K] [IsStrictOrderedRing K] [FloorSemiring K]

/-- The value at a position between two indices. -/
def interpolate (values : Nat → K) (position : K) : K :=
  values ⌊position⌋₊ * (1 - (position - ⌊position⌋₊)) +
    values (⌊position⌋₊ + 1) * (position - ⌊position⌋₊)

variable {values : Nat → K}

theorem interpolate_natCast (index : Nat) : interpolate values index = values index := by
  rw [interpolate, Nat.floor_natCast, sub_self, sub_zero, mul_one, mul_zero, add_zero]

/-- The value lies between those at the neighbouring indices. -/
theorem interpolate_mem (monotone : Monotone values) {position : K} (nonneg : 0 ≤ position) :
    values ⌊position⌋₊ ≤ interpolate values position ∧
      interpolate values position ≤ values (⌊position⌋₊ + 1) := by
  have step : 0 ≤ values (⌊position⌋₊ + 1) - values ⌊position⌋₊ :=
    sub_nonneg.mpr (monotone (Nat.le_succ _))
  have lower := sub_nonneg.mpr (Nat.floor_le nonneg)
  have upper : 0 ≤ 1 - (position - ⌊position⌋₊) := by
    have := (Nat.lt_floor_add_one position).le
    linarith
  have from_below := mul_nonneg step lower
  have from_above := mul_nonneg step upper
  constructor
  · rw [interpolate]
    linarith
  · rw [interpolate]
    linarith

/-- The interpolation of a monotone sequence is monotone. -/
theorem interpolate_mono (monotone : Monotone values) {first second : K} (nonneg : 0 ≤ first)
    (order : first ≤ second) : interpolate values first ≤ interpolate values second := by
  rcases (Nat.floor_mono order).eq_or_lt with same | before
  · have step : 0 ≤ values (⌊first⌋₊ + 1) - values ⌊first⌋₊ :=
      sub_nonneg.mpr (monotone (Nat.le_succ _))
    have further := mul_nonneg step (sub_nonneg.mpr order)
    rw [interpolate, interpolate, ← same]
    linarith
  · exact (interpolate_mem monotone nonneg).2.trans
      ((monotone before).trans (interpolate_mem monotone (nonneg.trans order)).1)

/-- At a fraction, the interpolation of natural numbers is rounded down by a division. -/
theorem floor_interpolate_div (entries : Nat → Nat) (part : Nat) {whole : Nat}
    (positive : 0 < whole) :
    ⌊interpolate (fun index => (entries index : K)) ((part : K) / whole)⌋₊ =
      ((whole - part % whole) * entries (part / whole) +
        part % whole * entries (part / whole + 1)) / whole := by
  have whole_ne : (whole : K) ≠ 0 := Nat.cast_ne_zero.mpr positive.ne'
  have rest_eq : (part : K) / whole - (part / whole : Nat) = (part % whole : Nat) / whole := by
    have split_eq : ((whole * (part / whole) + part % whole : Nat) : K) = part :=
      congrArg Nat.cast (Nat.div_add_mod part whole)
    rw [Nat.cast_add, Nat.cast_mul] at split_eq
    rw [eq_div_iff whole_ne, sub_mul, div_mul_cancel₀ _ whole_ne, ← split_eq]
    ring
  have value_eq : interpolate (fun index => (entries index : K)) ((part : K) / whole) =
      (((whole - part % whole) * entries (part / whole) +
        part % whole * entries (part / whole + 1) : Nat) : K) / whole := by
    rw [interpolate, Nat.floor_div_eq_div, rest_eq, Nat.cast_add, Nat.cast_mul, Nat.cast_mul,
      Nat.cast_sub (Nat.mod_lt _ positive).le]
    field_simp
  rw [value_eq, Nat.floor_div_eq_div]

end Interpolation
