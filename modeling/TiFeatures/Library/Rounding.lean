/-
This file rounds a natural number to its leading decimal digits, to the nearest and
ties to even, and says which numbers are rounded alike.
-/

import Mathlib.Data.Nat.Log
import Mathlib.Tactic.Linarith

namespace Rounding

/-! ### Multiples of a unit -/

/-- How many units a value is, rounded to the nearest integer and ties to the even one. -/
def roundHalfEven (value unit : Nat) : Nat :=
  if 2 * (value % unit) < unit ∨ (2 * (value % unit) = unit ∧ value / unit % 2 = 0) then
    value / unit
  else value / unit + 1

/-- A value is within half a unit of what it is rounded to. -/
theorem roundHalfEven_near (value : Nat) {unit : Nat} (positive : 0 < unit) :
    2 * value ≤ 2 * (roundHalfEven value unit * unit) + unit ∧
      2 * (roundHalfEven value unit * unit) ≤ 2 * value + unit := by
  have split_eq := Nat.div_add_mod' value unit
  have rest_lt := Nat.mod_lt value positive
  unfold roundHalfEven
  split
  · omega
  · rw [Nat.add_mul, Nat.one_mul]
    omega

/-- A value closer than half a unit to a multiple is rounded to it. -/
theorem roundHalfEven_eq {value unit count : Nat}
    (above : 2 * value < 2 * (count * unit) + unit)
    (below : 2 * (count * unit) < 2 * value + unit) : roundHalfEven value unit = count := by
  have positive : 0 < unit := by omega
  obtain ⟨near_above, near_below⟩ := roundHalfEven_near value positive
  have upper : roundHalfEven value unit * unit < (count + 1) * unit := by
    rw [Nat.add_mul, Nat.one_mul]
    omega
  have lower : count * unit < (roundHalfEven value unit + 1) * unit := by
    rw [Nat.add_mul, Nat.one_mul]
    omega
  have := Nat.lt_of_mul_lt_mul_right upper
  have := Nat.lt_of_mul_lt_mul_right lower
  omega

/-! ### Leading digits -/

/-- The power of ten that the last of the leading digits counts, with as many `places` behind the
first digit. -/
def lastUnit (places value : Nat) : Nat := 10 ^ (Nat.log 10 value - places)

/-- The leading digits of a value as a number, and the exponent of the first of them. Where the
digits round up to one more digit the exponent grows. -/
def scientific (places value : Nat) : Nat × Nat :=
  let digits := roundHalfEven value (lastUnit places value)
  if digits = 10 ^ (places + 1) then (10 ^ places, Nat.log 10 value + 1)
  else (digits, Nat.log 10 value)

/-- The value that leading digits stand for. -/
def scientificValue (places : Nat) (parts : Nat × Nat) : Nat := parts.1 * 10 ^ (parts.2 - places)

variable {places value other : Nat}

theorem scientific_of_carries
    (carries : roundHalfEven value (lastUnit places value) = 10 ^ (places + 1)) :
    scientific places value = (10 ^ places, Nat.log 10 value + 1) := if_pos carries

theorem scientific_of_fits
    (fits : roundHalfEven value (lastUnit places value) ≠ 10 ^ (places + 1)) :
    scientific places value = (roundHalfEven value (lastUnit places value), Nat.log 10 value) :=
  if_neg fits

theorem lastUnit_pos (places value : Nat) : 0 < lastUnit places value :=
  Nat.pow_pos (by decide)

/-- A value lies between the units of its leading digits. -/
theorem lastUnit_bounds (large : 10 ^ places ≤ value) :
    10 ^ places * lastUnit places value ≤ value ∧
      value < 10 ^ (places + 1) * lastUnit places value := by
  have nonzero : value ≠ 0 := (Nat.lt_of_lt_of_le (Nat.pow_pos (by decide)) large).ne'
  have exponent_ge : places ≤ Nat.log 10 value := Nat.le_log_of_pow_le (by decide) large
  rw [lastUnit, ← Nat.pow_add, ← Nat.pow_add, Nat.add_sub_cancel' exponent_ge,
    show places + 1 + (Nat.log 10 value - places) = Nat.log 10 value + 1 by omega]
  exact ⟨Nat.pow_log_le_self 10 nonzero, Nat.lt_pow_succ_log_self (by decide) value⟩

/-- The units of a value's leading digits, from the bounds they give it. -/
theorem log_eq_of_lastUnit {exponent : Nat} (exponent_ge : places ≤ exponent)
    (lower : 10 ^ places * 10 ^ (exponent - places) ≤ value)
    (upper : value < 10 ^ (places + 1) * 10 ^ (exponent - places)) :
    Nat.log 10 value = exponent := by
  rw [← Nat.pow_add, Nat.add_sub_cancel' exponent_ge] at lower
  rw [← Nat.pow_add, show places + 1 + (exponent - places) = exponent + 1 by omega] at upper
  exact Nat.log_eq_of_pow_le_of_lt_pow lower upper

/-- The digits of a value before the carry. -/
theorem roundHalfEven_lastUnit_bounds (large : 10 ^ places ≤ value) :
    10 ^ places ≤ roundHalfEven value (lastUnit places value) ∧
      roundHalfEven value (lastUnit places value) ≤ 10 ^ (places + 1) := by
  have positive := lastUnit_pos places value
  obtain ⟨lower, upper⟩ := lastUnit_bounds large
  obtain ⟨near_above, near_below⟩ := roundHalfEven_near value positive
  constructor
  · refine Nat.le_of_lt_succ (Nat.lt_of_mul_lt_mul_right ?_ (a := lastUnit places value))
    rw [Nat.succ_mul]
    omega
  · refine Nat.le_of_lt_succ (Nat.lt_of_mul_lt_mul_right ?_ (a := lastUnit places value))
    rw [Nat.succ_mul]
    omega

/-- There are as many leading digits as there should be. -/
theorem scientific_digits (large : 10 ^ places ≤ value) :
    10 ^ places ≤ (scientific places value).1 ∧
      (scientific places value).1 < 10 ^ (places + 1) := by
  obtain ⟨lower, upper⟩ := roundHalfEven_lastUnit_bounds large
  by_cases carries : roundHalfEven value (lastUnit places value) = 10 ^ (places + 1)
  · rw [scientific_of_carries carries]
    exact ⟨le_rfl, Nat.pow_lt_pow_right (by decide) (Nat.lt_succ_self places)⟩
  · rw [scientific_of_fits carries]
    exact ⟨lower, lt_of_le_of_ne upper carries⟩

/-- The leading digits stand for the value rounded to their last unit. -/
theorem scientificValue_scientific (large : 10 ^ places ≤ value) :
    scientificValue places (scientific places value) =
      roundHalfEven value (lastUnit places value) * lastUnit places value := by
  have exponent_ge : places ≤ Nat.log 10 value := Nat.le_log_of_pow_le (by decide) large
  by_cases carries : roundHalfEven value (lastUnit places value) = 10 ^ (places + 1)
  · rw [scientific_of_carries carries, scientificValue, carries, lastUnit, ← Nat.pow_add,
      ← Nat.pow_add]
    exact congrArg (10 ^ ·) (by omega)
  · rw [scientific_of_fits carries, scientificValue, lastUnit]

/-- The leading digits stand for a number within half of their last unit. -/
theorem scientificValue_near (large : 10 ^ places ≤ value) :
    2 * value ≤ 2 * scientificValue places (scientific places value) + lastUnit places value ∧
      2 * scientificValue places (scientific places value) ≤
        2 * value + lastUnit places value := by
  rw [scientificValue_scientific large]
  exact roundHalfEven_near value (lastUnit_pos places value)

/-- The exponent is that of the value, or one more if the value is rounded up to it. -/
theorem scientific_exponent (large : 10 ^ places ≤ value) :
    (scientific places value).2 = Nat.log 10 value ∨
      (scientific places value).2 = Nat.log 10 value + 1 ∧
        scientificValue places (scientific places value) = 10 ^ (Nat.log 10 value + 1) := by
  have exponent_ge : places ≤ Nat.log 10 value := Nat.le_log_of_pow_le (by decide) large
  by_cases carries : roundHalfEven value (lastUnit places value) = 10 ^ (places + 1)
  · rw [scientific_of_carries carries, scientificValue, ← Nat.pow_add]
    exact Or.inr ⟨rfl, congrArg (10 ^ ·) (by omega)⟩
  · rw [scientific_of_fits carries]
    exact Or.inl rfl

/-- Values of one exponent are written alike if they are rounded alike. -/
theorem scientific_congr (same : Nat.log 10 value = Nat.log 10 other)
    (alike : roundHalfEven value (lastUnit places value) =
      roundHalfEven other (lastUnit places other)) :
    scientific places value = scientific places other := by
  unfold scientific
  rw [alike, same]

/-- A value just below a power of ten is written like the power. -/
theorem scientific_of_near_below {exponent : Nat} (exponent_ge : places ≤ exponent)
    (lower : 10 ^ places * 10 ^ (exponent - places) ≤ value)
    (upper : value < 10 ^ (exponent + 1))
    (near : 2 * 10 ^ (exponent + 1) < 2 * value + 10 ^ (exponent - places)) :
    scientific places value = (10 ^ places, exponent + 1) := by
  have power_eq : 10 ^ (exponent + 1) = 10 ^ (places + 1) * 10 ^ (exponent - places) := by
    rw [← Nat.pow_add]
    exact congrArg (10 ^ ·) (by omega)
  have log_eq := log_eq_of_lastUnit exponent_ge lower (power_eq ▸ upper)
  have unit_eq : lastUnit places value = 10 ^ (exponent - places) := by rw [lastUnit, log_eq]
  have digits_eq : roundHalfEven value (lastUnit places value) = 10 ^ (places + 1) := by
    rw [unit_eq]
    exact roundHalfEven_eq (by omega) (by omega)
  rw [scientific_of_carries digits_eq, log_eq]

/-- A value just above a power of ten is written like the power. -/
theorem scientific_of_near_above {exponent : Nat} (exponent_ge : places ≤ exponent)
    (lower : 10 ^ exponent ≤ value)
    (near : 2 * value < 2 * 10 ^ exponent + 10 ^ (exponent - places)) :
    scientific places value = (10 ^ places, exponent) := by
  have power_eq : 10 ^ exponent = 10 ^ places * 10 ^ (exponent - places) := by
    rw [← Nat.pow_add, Nat.add_sub_cancel' exponent_ge]
  have unit_le : 10 ^ (exponent - places) ≤ 10 ^ exponent :=
    Nat.pow_le_pow_right (by decide) (Nat.sub_le _ _)
  have log_eq : Nat.log 10 value = exponent := by
    refine Nat.log_eq_of_pow_le_of_lt_pow lower ?_
    rw [Nat.pow_succ]
    omega
  have unit_eq : lastUnit places value = 10 ^ (exponent - places) := by rw [lastUnit, log_eq]
  have digits_eq : roundHalfEven value (lastUnit places value) = 10 ^ places := by
    rw [unit_eq]
    exact roundHalfEven_eq (by omega) (by omega)
  have fits : (10 : Nat) ^ places ≠ 10 ^ (places + 1) :=
    (Nat.pow_lt_pow_right (by decide) (Nat.lt_succ_self places)).ne
  rw [scientific_of_fits (digits_eq ▸ fits), digits_eq, log_eq]

/-- A value with the bounds of another one's leading digits that is nearest to what these stand
for is written like it. -/
theorem scientific_eq_of_near (large : 10 ^ places ≤ value)
    (lower : 10 ^ places * lastUnit places value ≤ other)
    (upper : other < 10 ^ (places + 1) * lastUnit places value)
    (above : 2 * other < 2 * scientificValue places (scientific places value) +
      lastUnit places value)
    (below : 2 * scientificValue places (scientific places value) <
      2 * other + lastUnit places value) :
    scientific places value = scientific places other := by
  have log_eq := log_eq_of_lastUnit (Nat.le_log_of_pow_le (by decide) large) lower upper
  have unit_eq : lastUnit places other = lastUnit places value := by rw [lastUnit, log_eq, lastUnit]
  rw [scientificValue_scientific large] at above below
  refine scientific_congr log_eq.symm ?_
  rw [unit_eq, roundHalfEven_eq above below]

/-- Of the two neighbours of a value at up to a quarter of its last unit one has the same leading
digits. -/
theorem scientific_neighbour {step : Nat} (large : 10 ^ places ≤ value) (positive : 0 < step)
    (close : 4 * step ≤ lastUnit places value) :
    scientific places value = scientific places (value + step) ∨
      step ≤ value ∧ scientific places value = scientific places (value - step) := by
  have exponent_ge : places ≤ Nat.log 10 value := Nat.le_log_of_pow_le (by decide) large
  obtain ⟨lower, upper⟩ := lastUnit_bounds large
  obtain ⟨near_above, near_below⟩ := scientificValue_near large
  rcases Nat.lt_or_ge (value + step) (10 ^ (places + 1) * lastUnit places value) with within | past
  · rcases Nat.lt_or_ge (2 * (value + step)) (2 * scientificValue places (scientific places value) +
      lastUnit places value) with above | apart
    · exact Or.inl (scientific_eq_of_near large (by omega) within above (by omega))
    · -- The value is near the upper end, so a step down stays above what it is rounded to.
      have rounded_ge : 10 ^ places * lastUnit places value ≤
          scientificValue places (scientific places value) := by
        rw [scientificValue_scientific large]
        exact Nat.mul_le_mul_right _ (roundHalfEven_lastUnit_bounds large).1
      exact Or.inr ⟨by omega, scientific_eq_of_near large (by omega) (by omega) (by omega)
        (by omega)⟩
  · -- Both sides of a power of ten are written like the power.
    have power_eq : 10 ^ (Nat.log 10 value + 1) = 10 ^ (places + 1) * lastUnit places value := by
      rw [lastUnit, ← Nat.pow_add]
      exact congrArg (10 ^ ·) (by omega)
    have unit_le : lastUnit places value ≤ 10 ^ (Nat.log 10 value + 1 - places) :=
      Nat.pow_le_pow_right (by decide) (by omega)
    refine Or.inl ((scientific_of_near_below exponent_ge lower (power_eq ▸ upper) ?_).trans
      (scientific_of_near_above (show places ≤ Nat.log 10 value + 1 by omega) ?_ ?_).symm)
    · rw [power_eq, ← lastUnit]
      omega
    · rw [power_eq]
      exact past
    · rw [power_eq]
      omega

end Rounding
