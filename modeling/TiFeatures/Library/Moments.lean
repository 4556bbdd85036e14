/-
This file is a small library of the moments of a list over a field: how the mean
and the central sums of order two, three and four change when the list grows at
its end, and that none of them depends on the order of the list.
-/

import Mathlib.Algebra.BigOperators.Group.List.Lemmas
import Mathlib.Algebra.Order.BigOperators.Group.List
import Mathlib.Algebra.Order.Field.Basic
import Mathlib.Data.Nat.Choose.Sum
import Mathlib.Tactic.FieldSimp
import Mathlib.Tactic.Ring

namespace Moments

variable {K : Type} [Field K]

/-- The mean of some values. -/
def mean (values : List K) : K := values.sum / values.length

/-- The sum of a power of the distances of some values from a centre. -/
def powerSum (order : Nat) (centre : K) (values : List K) : K :=
  (values.map fun value => (value - centre) ^ order).sum

/-- The sum of a power of the distances of some values from their mean. -/
def centralSum (order : Nat) (values : List K) : K := powerSum order (mean values) values

/-- The sample variance of some values. -/
def sampleVariance (values : List K) : K :=
  centralSum 2 values / ((values.length - 1 : Nat) : K)

theorem mean_nil : mean ([] : List K) = 0 := by
  rw [mean, List.sum_nil, zero_div]

/-! ### Power sums -/

/-- Adding up terms one by one. -/
theorem foldl_add_term {Item Total : Type} [AddMonoid Total] (term : Item → Total)
    (items : List Item) (start : Total) :
    items.foldl (fun total item => total + term item) start = start + (items.map term).sum := by
  induction items generalizing start with
  | nil => rw [List.foldl_nil, List.map_nil, List.sum_nil, add_zero]
  | cons item items inductionHypothesis =>
    rw [List.foldl_cons, inductionHypothesis, List.map_cons, List.sum_cons, add_assoc]

theorem powerSum_append (order : Nat) (centre : K) (front back : List K) :
    powerSum order centre (front ++ back) =
      powerSum order centre front + powerSum order centre back := by
  rw [powerSum, List.map_append, List.sum_append]
  rfl

theorem powerSum_singleton (order : Nat) (centre value : K) :
    powerSum order centre [value] = (value - centre) ^ order := by
  rw [powerSum, List.map_singleton, List.sum_singleton]

theorem powerSum_zero (centre : K) (values : List K) :
    powerSum 0 centre values = values.length := by
  simp only [powerSum, pow_zero, List.map_const', List.sum_replicate, nsmul_eq_mul, mul_one]

theorem powerSum_one (centre : K) (values : List K) :
    powerSum 1 centre values = values.sum - values.length * centre := by
  simp only [powerSum, pow_one, sub_eq_add_neg, List.sum_map_add, List.map_id', List.map_const',
    List.sum_replicate, nsmul_eq_mul, mul_neg]

theorem powerSum_perm {first second : List K} (same : first.Perm second) (order : Nat)
    (centre : K) : powerSum order centre first = powerSum order centre second :=
  (same.map _).sum_eq

/-- The power sum of values that are scaled after they are centred. -/
theorem sum_map_div_pow (order : Nat) (centre scale : K) (values : List K) :
    (values.map fun value => ((value - centre) / scale) ^ order).sum =
      powerSum order centre values / scale ^ order := by
  simp only [div_pow]
  simp only [div_eq_mul_inv, List.sum_map_mul_right]
  rfl

/-- The power sums at one centre give those at another. -/
theorem powerSum_shift (order : Nat) (centre step : K) (values : List K) :
    powerSum order (centre + step) values =
      ∑ power ∈ Finset.range (order + 1),
        powerSum power centre values * (-step) ^ (order - power) * order.choose power := by
  induction values with
  | nil => simp only [powerSum, List.map_nil, List.sum_nil, zero_mul, Finset.sum_const_zero]
  | cons value values inductionHypothesis =>
    have split_eq : ∀ (power : Nat) (middle : K), powerSum power middle (value :: values) =
        (value - middle) ^ power + powerSum power middle values := fun power middle => by
      rw [powerSum, List.map_cons, List.sum_cons]
      rfl
    have distance : value - (centre + step) = (value - centre) + -step := by ring
    simp only [split_eq, add_mul, Finset.sum_add_distrib]
    rw [inductionHypothesis, distance, add_pow]

/-! ### Lagged products -/

/-- The sum of the products of the distances of the values a lag apart. -/
def lagSum (lag : Nat) (centre : K) (values : List K) : K :=
  ((values.zip (values.drop lag)).map fun pair => (pair.1 - centre) * (pair.2 - centre)).sum

/-- The values that have a partner a lag behind them. -/
theorem map_fst_zip_drop {Value : Type} (values : List Value) (lag : Nat) :
    (values.zip (values.drop lag)).map Prod.fst = values.take (values.length - lag) := by
  rw [List.zip_eq_zip_take_min, List.length_drop, min_eq_right (Nat.sub_le _ _),
    List.map_fst_zip]
  rw [List.length_take, List.length_take, List.length_drop]
  omega

theorem map_snd_zip_drop {Value : Type} (values : List Value) (lag : Nat) :
    (values.zip (values.drop lag)).map Prod.snd = values.drop lag := by
  refine List.map_snd_zip ?_
  rw [List.length_drop]
  exact Nat.sub_le _ _

/-- The squares over a lag, from those at both ends and the products. -/
theorem sum_lag_squares (lag : Nat) (centre factor : K) (values : List K) :
    ((values.zip (values.drop lag)).map fun pair =>
        ((pair.2 - centre) + factor * (pair.1 - centre)) ^ 2).sum =
      powerSum 2 centre (values.drop lag) +
        factor ^ 2 * powerSum 2 centre (values.take (values.length - lag)) +
        2 * factor * lagSum lag centre values := by
  have expand : ∀ pair : K × K, ((pair.2 - centre) + factor * (pair.1 - centre)) ^ 2 =
      (pair.2 - centre) ^ 2 + factor ^ 2 * (pair.1 - centre) ^ 2 +
        2 * factor * ((pair.1 - centre) * (pair.2 - centre)) := fun pair => by ring
  have ends : ∀ part : K × K → K,
      ((values.zip (values.drop lag)).map fun pair => (part pair - centre) ^ 2).sum =
        powerSum 2 centre ((values.zip (values.drop lag)).map part) := fun part => by
    rw [powerSum, List.map_map]
    rfl
  simp only [expand, List.sum_map_add, List.sum_map_mul_left]
  rw [ends Prod.fst, ends Prod.snd, map_fst_zip_drop, map_snd_zip_drop]
  rfl

/-! ### Growing lists -/

variable [CharZero K]

theorem powerSum_one_mean (values : List K) : powerSum 1 (mean values) values = 0 := by
  rw [powerSum_one, mean]
  cases values with
  | nil => rw [List.sum_nil, List.length_nil, Nat.cast_zero, zero_mul, sub_zero]
  | cons value values =>
    have nonzero : (((value :: values).length : Nat) : K) ≠ 0 :=
      Nat.cast_ne_zero.mpr (Nat.succ_ne_zero _)
    rw [mul_div_cancel₀ _ nonzero, sub_self]

/-- Another value moves the mean by its share of the distance. -/
theorem mean_concat (values : List K) (value : K) :
    mean (values ++ [value]) =
      mean values + (value - mean values) / ((values.length : K) + 1) := by
  have centred : values.sum = values.length * mean values :=
    (sub_eq_zero.mp ((powerSum_one _ _).symm.trans (powerSum_one_mean values)))
  have nonzero : (values.length : K) + 1 ≠ 0 := Nat.cast_add_one_ne_zero _
  rw [mean, List.sum_append, List.sum_singleton, List.length_append, List.length_singleton,
    Nat.cast_add, Nat.cast_one, centred]
  field_simp
  ring

section Concat

variable (values : List K) (value : K)

/-- The central sum of a longer list, in terms of the power sums around the old mean. -/
theorem centralSum_concat (order : Nat) :
    centralSum order (values ++ [value]) =
      powerSum order (mean values + (value - mean values) / ((values.length : K) + 1)) values +
        (value - mean values - (value - mean values) / ((values.length : K) + 1)) ^ order := by
  rw [centralSum, mean_concat, powerSum_append, powerSum_singleton, sub_add_eq_sub_sub]

theorem centralSum_two_concat :
    centralSum 2 (values ++ [value]) = centralSum 2 values +
      (value - mean values) ^ 2 * values.length / (values.length + 1) := by
  have nonzero : (values.length : K) + 1 ≠ 0 := Nat.cast_add_one_ne_zero _
  rw [centralSum_concat, powerSum_shift]
  simp only [Finset.sum_range_succ, Finset.sum_range_zero, powerSum_zero, powerSum_one_mean,
    centralSum]
  norm_num [Nat.choose]
  field_simp
  ring

theorem centralSum_three_concat :
    centralSum 3 (values ++ [value]) = centralSum 3 values +
      (value - mean values) ^ 3 * values.length * (values.length - 1) /
        (values.length + 1) ^ 2 -
      3 * (value - mean values) * centralSum 2 values / (values.length + 1) := by
  have nonzero : (values.length : K) + 1 ≠ 0 := Nat.cast_add_one_ne_zero _
  rw [centralSum_concat, powerSum_shift]
  simp only [Finset.sum_range_succ, Finset.sum_range_zero, powerSum_zero, powerSum_one_mean,
    centralSum]
  norm_num [Nat.choose]
  field_simp
  ring

theorem centralSum_four_concat :
    centralSum 4 (values ++ [value]) = centralSum 4 values +
      (value - mean values) ^ 4 * values.length * (values.length ^ 2 - values.length + 1) /
        (values.length + 1) ^ 3 +
      6 * (value - mean values) ^ 2 * centralSum 2 values / (values.length + 1) ^ 2 -
      4 * (value - mean values) * centralSum 3 values / (values.length + 1) := by
  have nonzero : (values.length : K) + 1 ≠ 0 := Nat.cast_add_one_ne_zero _
  rw [centralSum_concat, powerSum_shift]
  simp only [Finset.sum_range_succ, Finset.sum_range_zero, powerSum_zero, powerSum_one_mean,
    centralSum]
  norm_num [Nat.choose]
  field_simp
  ring

end Concat

/-! ### Order and size -/

omit [CharZero K] in
theorem mean_perm {first second : List K} (same : first.Perm second) :
    mean first = mean second := by
  rw [mean, mean, same.sum_eq, same.length_eq]

omit [CharZero K] in
theorem centralSum_perm {first second : List K} (same : first.Perm second) (order : Nat) :
    centralSum order first = centralSum order second := by
  rw [centralSum, centralSum, mean_perm same, powerSum_perm same]

/-- The sum of the values, from their mean. -/
theorem powerSum_one_zero (values : List K) :
    powerSum 1 0 values = values.length * mean values := by
  have centred := (powerSum_one _ _).symm.trans (powerSum_one_mean values)
  rw [powerSum_one, mul_zero, sub_zero]
  exact sub_eq_zero.mp centred

/-- The sum of the squared distances, from the sum of the squares. -/
theorem centralSum_two_eq (values : List K) :
    centralSum 2 values = (values.map fun value => value * value).sum -
      values.length * mean values * mean values := by
  have squares : powerSum 2 0 values = (values.map fun value => value * value).sum := by
    simp only [powerSum, sub_zero, sq]
  have shifted := powerSum_shift 2 0 (mean values) values
  simp only [Finset.sum_range_succ, Finset.sum_range_zero, powerSum_zero, zero_add, squares,
    powerSum_one_zero] at shifted
  rw [centralSum, shifted]
  norm_num [Nat.choose]
  ring

/-- The sum of the cubed distances, from the sums of the squares and the cubes. -/
theorem centralSum_three_eq (values : List K) :
    centralSum 3 values = powerSum 3 0 values - 3 * mean values * powerSum 2 0 values +
      2 * values.length * mean values ^ 3 := by
  have shifted := powerSum_shift 3 0 (mean values) values
  simp only [Finset.sum_range_succ, Finset.sum_range_zero, powerSum_zero, zero_add,
    powerSum_one_zero] at shifted
  rw [centralSum, shifted]
  norm_num [Nat.choose]
  ring

/-- The sum of the fourth powers of the distances, from the sums of the lower powers. -/
theorem centralSum_four_eq (values : List K) :
    centralSum 4 values = powerSum 4 0 values - 4 * mean values * powerSum 3 0 values +
      6 * mean values ^ 2 * powerSum 2 0 values - 3 * values.length * mean values ^ 4 := by
  have shifted := powerSum_shift 4 0 (mean values) values
  simp only [Finset.sum_range_succ, Finset.sum_range_zero, powerSum_zero, zero_add,
    powerSum_one_zero] at shifted
  rw [centralSum, shifted]
  norm_num [Nat.choose]
  ring

omit [CharZero K] in
/-- Fewer than two values have no variance. -/
theorem sampleVariance_of_few {values : List K} (few : ¬ values.length > 1) :
    sampleVariance values = 0 := by
  have nothing : values.length - 1 = 0 := by omega
  rw [sampleVariance, nothing, Nat.cast_zero, div_zero]

/-- The sample variance, from the sums of the values and of their squares. -/
theorem sampleVariance_eq (values : List K) :
    sampleVariance values = ((values.map fun value => value * value).sum -
      values.length * (values.sum / values.length) * (values.sum / values.length)) /
        ((values.length - 1 : Nat) : K) := by
  rw [sampleVariance, centralSum_two_eq, mean]

omit [CharZero K] in
theorem sampleVariance_perm {first second : List K} (same : first.Perm second) :
    sampleVariance first = sampleVariance second := by
  rw [sampleVariance, sampleVariance, centralSum_perm same, same.length_eq]

theorem mean_replicate (count : Nat) (value : K) :
    mean (List.replicate (count + 1) value) = value := by
  have nonzero : ((count + 1 : Nat) : K) ≠ 0 := Nat.cast_ne_zero.mpr (Nat.succ_ne_zero _)
  rw [mean, List.sum_replicate, List.length_replicate, nsmul_eq_mul,
    mul_div_cancel_left₀ _ nonzero]

/-- Equal values are at no distance from their mean. -/
theorem centralSum_replicate (count order : Nat) (value : K) :
    centralSum (order + 1) (List.replicate count value) = 0 := by
  cases count with
  | zero => rfl
  | succ count =>
    rw [centralSum, mean_replicate, powerSum, List.map_replicate, sub_self,
      zero_pow (Nat.succ_ne_zero _), List.sum_replicate, nsmul_zero]

section Ordered

variable {R : Type} [Field R] [LinearOrder R] [IsStrictOrderedRing R]

theorem powerSum_two_nonneg (centre : R) (values : List R) : 0 ≤ powerSum 2 centre values := by
  refine List.sum_nonneg fun term member => ?_
  obtain ⟨value, -, rfl⟩ := List.mem_map.mp member
  exact sq_nonneg _

/-- Values at no distance from a centre are all equal to it. -/
theorem eq_of_powerSum_two_eq_zero {centre : R} {values : List R}
    (zero : powerSum 2 centre values = 0) {value : R} (member : value ∈ values) :
    value = centre := by
  have nonneg : ∀ term ∈ values.map fun value => (value - centre) ^ 2, 0 ≤ term :=
    List.forall_mem_map.mpr fun other _ => sq_nonneg _
  have term_zero := List.all_zero_of_le_zero_le_of_sum_eq_zero nonneg zero
    (List.mem_map_of_mem member)
  exact sub_eq_zero.mp (pow_eq_zero_iff two_ne_zero |>.mp term_zero)

/-- Products of values that are at the centre are zero. -/
theorem lagSum_eq_zero {lag : Nat} {centre : R} {values : List R}
    (zero : powerSum 2 centre (values.take (values.length - lag)) = 0) :
    lagSum lag centre values = 0 := by
  refine List.sum_eq_zero fun term member => ?_
  obtain ⟨pair, inside, rfl⟩ := List.mem_map.mp member
  have first : pair.1 ∈ values.take (values.length - lag) := by
    rw [← map_fst_zip_drop]
    exact List.mem_map_of_mem inside
  rw [eq_of_powerSum_two_eq_zero zero first, sub_self, zero_mul]

theorem sampleVariance_nonneg (values : List R) : 0 ≤ sampleVariance values :=
  div_nonneg (powerSum_two_nonneg _ _) (Nat.cast_nonneg _)

theorem sampleVariance_pos {values : List R} (varies : sampleVariance values ≠ 0) :
    0 < sampleVariance values :=
  lt_of_le_of_ne (sampleVariance_nonneg values) varies.symm

end Ordered

end Moments
