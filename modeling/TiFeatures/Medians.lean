/-
This file settles when the quartiles are ordered. The percentiles round the linear
interpolation of the sorted values down; the median does the same for the middle of
the array, but adds its two middle values in 32 bits, so it falls below the first
quartile where the sum does not fit.
-/

import TiFeatures.Library.Interpolation
import TiFeatures.Quartiles

namespace TiFeatures

open Interpolation

/-! ### Reads -/

section Reads

variable {D : Type} [Double D]

/-- `calc_median_uint`, where a read outside the array fails. -/
def readMedianUint (arr : List Nat) : Option Nat :=
  let n := arr.length
  if n == 0 then some 0
  else if n == 1 then arr[0]?
  else if n % 2 == 0 then
    arr[n / 2 - 1]?.bind fun low => arr[n / 2]?.map fun high => u32 (low + high) / 2
  else arr[n / 2]?

/-- `calc_percentile_uint`, where a read outside the array fails. -/
def readPercentileUint (arr : List Nat) (p : D) : Option Nat :=
  let n := arr.length
  if n == 0 then some 0
  else if n == 1 then arr[0]?
  else if Double.ble p 0 then arr[0]?
  else if Double.ble 100 p then arr[n - 1]?
  else
    let idx := p / 100 * ((n - 1 : Nat) : D)
    let lower := (Double.truncate idx).toNat
    let upper := lower + 1
    let frac := idx - (lower : D)
    if upper ≥ n then arr[n - 1]?
    else
      arr[lower]?.bind fun low => arr[upper]?.map fun high =>
        u32 (Double.truncate ((low : D) * (1 - frac) + (high : D) * frac)).toNat

theorem getElem?_eq_some_getD {arr : List Nat} {index : Nat} (within : index < arr.length) :
    arr[index]? = some (arr.getD index 0) := by
  rw [List.getD_eq_getElem _ _ within, List.getElem?_eq_getElem]

/-- The median reads inside the array. -/
theorem readMedianUint_eq (arr : List Nat) : readMedianUint arr = some (calcMedianUint arr) := by
  simp only [readMedianUint, calcMedianUint, beq_iff_eq]
  by_cases none : arr.length = 0
  · rw [if_pos none, if_pos none]
  by_cases one : arr.length = 1
  · rw [if_neg none, if_neg none, if_pos one, if_pos one, getElem?_eq_some_getD (by omega)]
  have low := @getElem?_eq_some_getD arr (arr.length / 2 - 1) (by omega)
  have high := @getElem?_eq_some_getD arr (arr.length / 2) (by omega)
  rw [if_neg none, if_neg none, if_neg one, if_neg one, low, high]
  split
  · rfl
  · rfl

/-- The percentiles read inside the array. -/
theorem readPercentileUint_eq (arr : List Nat) (p : D) :
    readPercentileUint arr p = some (calcPercentileUint D arr p) := by
  simp only [readPercentileUint, calcPercentileUint, beq_iff_eq]
  by_cases none : arr.length = 0
  · rw [if_pos none, if_pos none]
  have first := @getElem?_eq_some_getD arr 0 (by omega)
  have last := @getElem?_eq_some_getD arr (arr.length - 1) (by omega)
  rw [if_neg none, if_neg none, first, last]
  generalize (Double.truncate (p / 100 * ((arr.length - 1 : Nat) : D))).toNat = lower
  by_cases beyond : lower + 1 ≥ arr.length
  · rw [if_pos beyond, if_pos beyond]
    split_ifs
    · rfl
    · rfl
    · rfl
    · rfl
  · have low := @getElem?_eq_some_getD arr lower (by omega)
    have high := @getElem?_eq_some_getD arr (lower + 1) (by omega)
    rw [if_neg beyond, if_neg beyond, low, high]
    split_ifs
    · rfl
    · rfl
    · rfl
    · rfl

end Reads

/-! ### The interpolation -/

section Exact

variable {arr : List Nat}

/-- The values of an array, the last of which goes on forever. -/
def extended (arr : List Nat) (index : Nat) : Nat := arr.getD (min index (arr.length - 1)) 0

theorem extended_mono (nonempty : arr ≠ []) (sorted : arr.Pairwise (· ≤ ·)) :
    Monotone (extended arr) := by
  have positive := List.length_pos_iff.mpr nonempty
  intro first second order
  exact OrderStatistics.getD_le_getD sorted (by omega) (by omega) 0

theorem cast_extended_mono (nonempty : arr ≠ []) (sorted : arr.Pairwise (· ≤ ·)) :
    Monotone fun index => (Nat.cast (extended arr index) : ℝ) :=
  Nat.mono_cast.comp (extended_mono nonempty sorted)

theorem extended_of_lt {index : Nat} (within : index < arr.length) :
    extended arr index = arr.getD index 0 := by
  rw [extended, min_eq_left (by omega)]

theorem extended_lt (nonempty : arr ≠ []) (fits : ∀ value ∈ arr, value < 2 ^ 32) (index : Nat) :
    extended arr index < 2 ^ 32 := by
  have positive := List.length_pos_iff.mpr nonempty
  rw [extended, List.getD_eq_getElem _ _ (by omega)]
  exact fits _ (List.getElem_mem _)

/-- The position of a percentile in an array. -/
noncomputable def percentilePosition (arr : List Nat) (p : ℝ) : ℝ :=
  max 0 (min p 100) / 100 * Nat.cast (arr.length - 1)

theorem percentilePosition_nonneg (arr : List Nat) (p : ℝ) : 0 ≤ percentilePosition arr p :=
  mul_nonneg (div_nonneg (le_max_left _ _) (by norm_num)) (Nat.cast_nonneg _)

theorem percentilePosition_mono (arr : List Nat) : Monotone (percentilePosition arr) := by
  intro first second order
  refine mul_le_mul_of_nonneg_right ?_ (Nat.cast_nonneg _)
  exact div_le_div_of_nonneg_right (max_le_max_left _ (min_le_min_right _ order)) (by norm_num)

theorem percentilePosition_of_single {p : ℝ} (one : arr.length = 1) :
    percentilePosition arr p = Nat.cast 0 := by
  rw [percentilePosition, one, Nat.sub_self, Nat.cast_zero, mul_zero]

theorem percentilePosition_of_le {p : ℝ} (low : p ≤ 0) :
    percentilePosition arr p = Nat.cast 0 := by
  rw [percentilePosition, min_eq_left (low.trans (by norm_num)), max_eq_left low, zero_div,
    zero_mul, Nat.cast_zero]

theorem percentilePosition_of_ge {p : ℝ} (high : 100 ≤ p) :
    percentilePosition arr p = Nat.cast (arr.length - 1) := by
  rw [percentilePosition, min_eq_right high, max_eq_right (by norm_num), div_self (by norm_num),
    one_mul]

theorem percentilePosition_of_mem {p : ℝ} (low : 0 ≤ p) (high : p ≤ 100) :
    percentilePosition arr p = p / 100 * Nat.cast (arr.length - 1) := by
  rw [percentilePosition, min_eq_left high, max_eq_right low]

/-- A percentile below the last lies in front of the last value. -/
theorem floor_percentilePosition_lt {p : ℝ} (many : 1 < arr.length) (low : 0 ≤ p)
    (high : p < 100) : ⌊percentilePosition arr p⌋₊ < arr.length - 1 := by
  have some_gap : (0 : ℝ) < Nat.cast (arr.length - 1) := Nat.cast_pos.mpr (by omega)
  rw [Nat.floor_lt (percentilePosition_nonneg arr p), percentilePosition_of_mem low high.le]
  exact mul_lt_of_lt_one_left some_gap ((div_lt_one (by norm_num)).mpr high)

theorem real_truncate_toNat {value : ℝ} (nonneg : 0 ≤ value) :
    (Double.truncate value).toNat = ⌊value⌋₊ := by
  show (if 0 ≤ value then ⌊value⌋ else ⌈value⌉).toNat = ⌊value⌋₊
  rw [if_pos nonneg, Int.floor_toNat]

/-- The interpolation at an index, rounded down. -/
theorem floor_interpolate_index (arr : List Nat) (index : Nat) :
    ⌊interpolate (fun index => (Nat.cast (extended arr index) : ℝ)) (Nat.cast index)⌋₊ =
      extended arr index := by
  rw [interpolate_natCast, Nat.floor_natCast]

/-- A percentile is the interpolation at its position, rounded down. -/
theorem real_calcPercentileUint (nonempty : arr ≠ []) (sorted : arr.Pairwise (· ≤ ·))
    (fits : ∀ value ∈ arr, value < 2 ^ 32) (p : ℝ) :
    calcPercentileUint ℝ arr p =
      ⌊interpolate (fun index => (Nat.cast (extended arr index) : ℝ))
        (percentilePosition arr p)⌋₊ := by
  have positive := List.length_pos_iff.mpr nonempty
  have first : arr.getD 0 0 = ⌊interpolate (fun index => (Nat.cast (extended arr index) : ℝ))
      (Nat.cast 0)⌋₊ := by
    rw [floor_interpolate_index, extended_of_lt positive]
  have last : arr.getD (arr.length - 1) 0 =
      ⌊interpolate (fun index => (Nat.cast (extended arr index) : ℝ))
        (Nat.cast (arr.length - 1))⌋₊ := by
    rw [floor_interpolate_index, extended_of_lt (by omega)]
  simp only [calcPercentileUint, beq_iff_eq]
  rw [if_neg positive.ne']
  by_cases one : arr.length = 1
  · rw [if_pos one, percentilePosition_of_single one, first]
  rw [if_neg one]
  by_cases low : p ≤ 0
  · rw [if_pos ((real_ble_iff _ _).mpr low), percentilePosition_of_le low, first]
  rw [if_neg (mt (real_ble_iff _ _).mp low)]
  by_cases high : 100 ≤ p
  · rw [if_pos ((real_ble_iff _ _).mpr high), percentilePosition_of_ge high, last]
  rw [if_neg (mt (real_ble_iff _ _).mp high)]
  have inside : percentilePosition arr p = p / 100 * Nat.cast (arr.length - 1) :=
    percentilePosition_of_mem (not_le.mp low).le (not_le.mp high).le
  have nonneg := percentilePosition_nonneg arr p
  have below : ⌊percentilePosition arr p⌋₊ < arr.length - 1 :=
    floor_percentilePosition_lt (by omega) (not_le.mp low).le (not_le.mp high)
  have value_eq : interpolate (fun index => (Nat.cast (extended arr index) : ℝ))
      (percentilePosition arr p) =
      Nat.cast (arr.getD ⌊percentilePosition arr p⌋₊ 0) *
          (1 - (percentilePosition arr p - Nat.cast ⌊percentilePosition arr p⌋₊)) +
        Nat.cast (arr.getD (⌊percentilePosition arr p⌋₊ + 1) 0) *
          (percentilePosition arr p - Nat.cast ⌊percentilePosition arr p⌋₊) := by
    rw [interpolate, extended_of_lt (by omega), extended_of_lt (by omega)]
  have between := interpolate_mem (cast_extended_mono nonempty sorted) nonneg
  have small := (Nat.floor_le_of_le between.2).trans_lt (extended_lt nonempty fits _)
  have value_nonneg := (Nat.cast_nonneg _).trans between.1
  rw [← inside, real_truncate_toNat nonneg, if_neg (by omega), ← value_eq,
    real_truncate_toNat value_nonneg, u32_of_lt small]

/-! ### The order -/

/-- A greater percentile is at least as great. -/
theorem calcPercentileUint_mono (nonempty : arr ≠ []) (sorted : arr.Pairwise (· ≤ ·))
    (fits : ∀ value ∈ arr, value < 2 ^ 32) : Monotone (calcPercentileUint ℝ arr) := by
  intro first second order
  rw [real_calcPercentileUint nonempty sorted fits, real_calcPercentileUint nonempty sorted fits]
  exact Nat.floor_mono (interpolate_mono (cast_extended_mono nonempty sorted)
    (percentilePosition_nonneg arr first) (percentilePosition_mono arr order))

/-- The interpolation of the first quartile, rounded down. -/
def firstQuarter (arr : List Nat) : Nat :=
  let quarters := arr.length - 1
  ((4 - quarters % 4) * arr.getD (quarters / 4) 0 +
    quarters % 4 * arr.getD (quarters / 4 + 1) 0) / 4

/-- The two middle values do not overflow when they are added, or their sum is so much above 2^32
that half of the rest is not below the first quartile. -/
def MiddleFits (arr : List Nat) : Prop :=
  let low := arr.getD (arr.length / 2 - 1) 0
  let high := arr.getD (arr.length / 2) 0
  arr.length % 2 = 1 ∨ low + high < 2 ^ 32 ∨ firstQuarter arr ≤ (low + high - 2 ^ 32) / 2

/-- The percentiles and the median read inside the array, a greater percentile is at least as
great, and the quartiles are ordered. -/
structure QuartilesOrdered (arr : List Nat) : Prop where
  read_median : readMedianUint arr = some (calcMedianUint arr)
  read_percentile : ∀ p : ℝ, readPercentileUint arr p = some (calcPercentileUint ℝ arr p)
  monotone : Monotone (calcPercentileUint ℝ arr)
  first_le : arr.getD 0 0 ≤ calcQ1Uint ℝ arr
  q1_le : calcQ1Uint ℝ arr ≤ calcMedianUint arr
  median_le : calcMedianUint arr ≤ calcQ3Uint ℝ arr
  q3_le : calcQ3Uint ℝ arr ≤ arr.getD (arr.length - 1) 0

/-- A percentile at a fraction of the last index, in natural numbers. -/
theorem calcPercentileUint_div (nonempty : arr ≠ []) (sorted : arr.Pairwise (· ≤ ·))
    (fits : ∀ value ∈ arr, value < 2 ^ 32) {p : ℝ} {part whole : Nat} (positive : 0 < whole)
    (position : max 0 (min p 100) / 100 = (Nat.cast part : ℝ) / Nat.cast whole) :
    calcPercentileUint ℝ arr p =
      let count := part * (arr.length - 1)
      ((whole - count % whole) * extended arr (count / whole) +
        count % whole * extended arr (count / whole + 1)) / whole := by
  rw [real_calcPercentileUint nonempty sorted fits, percentilePosition, position,
    div_mul_eq_mul_div, ← Nat.cast_mul, floor_interpolate_div _ _ positive]

theorem calcQ1Uint_eq (nonempty : arr ≠ []) (sorted : arr.Pairwise (· ≤ ·))
    (fits : ∀ value ∈ arr, value < 2 ^ 32) : calcQ1Uint ℝ arr = firstQuarter arr := by
  have positive := List.length_pos_iff.mpr nonempty
  have quarter : max 0 (min (25 : ℝ) 100) / 100 = Nat.cast 1 / Nat.cast 4 := by norm_num
  have value_eq := calcPercentileUint_div nonempty sorted fits (by decide) quarter
  rw [Nat.one_mul] at value_eq
  refine value_eq.trans ?_
  dsimp only [firstQuarter]
  rw [extended_of_lt (by omega)]
  rcases Nat.lt_or_ge ((arr.length - 1) / 4 + 1) arr.length with inside | beyond
  · rw [extended_of_lt inside]
  · have nothing : (arr.length - 1) % 4 = 0 := by omega
    rw [nothing, Nat.zero_mul, Nat.zero_mul]

/-- The percentile in the middle is half the sum of the two middle values. -/
theorem calcPercentileUint_fifty (nonempty : arr ≠ []) (sorted : arr.Pairwise (· ≤ ·))
    (fits : ∀ value ∈ arr, value < 2 ^ 32) :
    calcPercentileUint ℝ arr 50 =
      if arr.length % 2 = 1 then arr.getD (arr.length / 2) 0
      else (arr.getD (arr.length / 2 - 1) 0 + arr.getD (arr.length / 2) 0) / 2 := by
  have positive := List.length_pos_iff.mpr nonempty
  have half : max 0 (min (50 : ℝ) 100) / 100 = Nat.cast 1 / Nat.cast 2 := by norm_num
  have value_eq := calcPercentileUint_div nonempty sorted fits (by decide) half
  rw [Nat.one_mul] at value_eq
  refine value_eq.trans ?_
  dsimp only
  by_cases odd : arr.length % 2 = 1
  · have even_rest : (arr.length - 1) % 2 = 0 := by omega
    have middle : (arr.length - 1) / 2 = arr.length / 2 := by omega
    rw [if_pos odd, even_rest, middle, extended_of_lt (by omega)]
    omega
  · have odd_rest : (arr.length - 1) % 2 = 1 := by omega
    have below : (arr.length - 1) / 2 = arr.length / 2 - 1 := by omega
    have above : arr.length / 2 - 1 + 1 = arr.length / 2 := by omega
    rw [if_neg odd, odd_rest, below, above, extended_of_lt (by omega), extended_of_lt (by omega)]
    omega

/-- The median is the percentile in the middle, unless its sum does not fit. -/
theorem calcMedianUint_eq (nonempty : arr ≠ []) :
    calcMedianUint arr =
      if arr.length % 2 = 1 then arr.getD (arr.length / 2) 0
      else u32 (arr.getD (arr.length / 2 - 1) 0 + arr.getD (arr.length / 2) 0) / 2 := by
  have positive := List.length_pos_iff.mpr nonempty
  simp only [calcMedianUint, beq_iff_eq]
  rw [if_neg positive.ne']
  by_cases one : arr.length = 1
  · rw [if_pos one, if_pos (by omega), one]
  · rw [if_neg one]
    by_cases odd : arr.length % 2 = 1
    · rw [if_pos odd, if_neg (by omega)]
    · rw [if_neg odd, if_pos (by omega)]

/-- The median is at most the percentile in the middle. -/
theorem calcMedianUint_le (nonempty : arr ≠ []) (sorted : arr.Pairwise (· ≤ ·))
    (fits : ∀ value ∈ arr, value < 2 ^ 32) : calcMedianUint arr ≤ calcPercentileUint ℝ arr 50 := by
  rw [calcMedianUint_eq nonempty, calcPercentileUint_fifty nonempty sorted fits]
  split
  · exact le_rfl
  · exact Nat.div_le_div_right (Nat.mod_le _ _)

/-- The percentiles lie between the first and the last value. -/
theorem calcPercentileUint_ends (nonempty : arr ≠ []) (sorted : arr.Pairwise (· ≤ ·))
    (fits : ∀ value ∈ arr, value < 2 ^ 32) :
    calcPercentileUint ℝ arr 0 = arr.getD 0 0 ∧
      calcPercentileUint ℝ arr 100 = arr.getD (arr.length - 1) 0 := by
  have positive := List.length_pos_iff.mpr nonempty
  have start : max 0 (min (0 : ℝ) 100) / 100 = Nat.cast 0 / Nat.cast 1 := by norm_num
  have finish : max 0 (min (100 : ℝ) 100) / 100 = Nat.cast 1 / Nat.cast 1 := by norm_num
  constructor
  · refine (calcPercentileUint_div nonempty sorted fits Nat.one_pos start).trans ?_
    dsimp only
    rw [Nat.zero_mul, Nat.zero_mod, Nat.zero_mul, Nat.add_zero, Nat.sub_zero, Nat.one_mul,
      Nat.div_one, Nat.div_one, extended_of_lt positive]
  · refine (calcPercentileUint_div nonempty sorted fits Nat.one_pos finish).trans ?_
    dsimp only
    rw [Nat.one_mul, Nat.mod_one, Nat.zero_mul, Nat.add_zero, Nat.sub_zero, Nat.one_mul,
      Nat.div_one, Nat.div_one, extended_of_lt (by omega)]

/-- The quartiles are ordered exactly if the middle of the array fits. -/
theorem quartilesOrdered_iff (nonempty : arr ≠ []) (sorted : arr.Pairwise (· ≤ ·))
    (fits : ∀ value ∈ arr, value < 2 ^ 32) : QuartilesOrdered arr ↔ MiddleFits arr := by
  have positive := List.length_pos_iff.mpr nonempty
  have monotone := calcPercentileUint_mono nonempty sorted fits
  have middle := calcPercentileUint_fifty nonempty sorted fits
  obtain ⟨first, last⟩ := calcPercentileUint_ends nonempty sorted fits
  have q1_le : firstQuarter arr ≤ calcPercentileUint ℝ arr 50 :=
    calcQ1Uint_eq nonempty sorted fits ▸ monotone (show (25 : ℝ) ≤ 50 by norm_num)
  have ordered_iff : QuartilesOrdered arr ↔ calcQ1Uint ℝ arr ≤ calcMedianUint arr := by
    refine ⟨fun ordered => ordered.q1_le, fun above => ?_⟩
    refine ⟨readMedianUint_eq arr, readPercentileUint_eq arr, monotone, ?_, above, ?_, ?_⟩
    · exact first ▸ monotone (show (0 : ℝ) ≤ 25 by norm_num)
    · exact (calcMedianUint_le nonempty sorted fits).trans
        (monotone (show (50 : ℝ) ≤ 75 by norm_num))
    · exact last ▸ monotone (show (75 : ℝ) ≤ 100 by norm_num)
  rw [ordered_iff, calcQ1Uint_eq nonempty sorted fits, calcMedianUint_eq nonempty]
  dsimp only [MiddleFits]
  by_cases odd : arr.length % 2 = 1
  · rw [if_pos odd] at middle ⊢
    exact iff_of_true (middle ▸ q1_le) (Or.inl odd)
  rw [if_neg odd] at middle ⊢
  rw [middle] at q1_le
  by_cases small : arr.getD (arr.length / 2 - 1) 0 + arr.getD (arr.length / 2) 0 < 2 ^ 32
  · rw [u32_of_lt small]
    exact iff_of_true q1_le (Or.inr (Or.inl small))
  · have entry_lt : ∀ index, index < arr.length → arr.getD index 0 < 2 ^ 32 := fun index within =>
      extended_of_lt within ▸ extended_lt nonempty fits index
    have low_lt := entry_lt (arr.length / 2 - 1) (by omega)
    have high_lt := entry_lt (arr.length / 2) (by omega)
    have wrapped : u32 (arr.getD (arr.length / 2 - 1) 0 + arr.getD (arr.length / 2) 0) =
        arr.getD (arr.length / 2 - 1) 0 + arr.getD (arr.length / 2) 0 - 2 ^ 32 := by
      rw [u32]
      omega
    rw [or_iff_right odd, or_iff_right small, wrapped]

end Exact

theorem quartilesOrdered_get : ([1, 2, 3, 4] : List Nat) ≠ [] ∧
    ([1, 2, 3, 4] : List Nat).Pairwise (· ≤ ·) ∧
    (∀ value ∈ ([1, 2, 3, 4] : List Nat), value < 2 ^ 32) ∧ QuartilesOrdered [1, 2, 3, 4] := by
  have nonempty : ([1, 2, 3, 4] : List Nat) ≠ [] := List.cons_ne_nil _ _
  have sorted : ([1, 2, 3, 4] : List Nat).Pairwise (· ≤ ·) := by decide
  have fits : ∀ value ∈ ([1, 2, 3, 4] : List Nat), value < 2 ^ 32 := by decide
  exact ⟨nonempty, sorted, fits,
    (quartilesOrdered_iff nonempty sorted fits).mpr (Or.inr (Or.inl (by decide)))⟩

/-- Two values of 2^31 have the median zero, below the first quartile. -/
theorem quartiles_not_ordered : ([2 ^ 31, 2 ^ 31] : List Nat) ≠ [] ∧
    ([2 ^ 31, 2 ^ 31] : List Nat).Pairwise (· ≤ ·) ∧
    (∀ value ∈ ([2 ^ 31, 2 ^ 31] : List Nat), value < 2 ^ 32) ∧
    ¬ calcQ1Uint ℝ [2 ^ 31, 2 ^ 31] ≤ calcMedianUint [2 ^ 31, 2 ^ 31] := by
  have nonempty : ([2 ^ 31, 2 ^ 31] : List Nat) ≠ [] := List.cons_ne_nil _ _
  have sorted : ([2 ^ 31, 2 ^ 31] : List Nat).Pairwise (· ≤ ·) := by decide
  have fits : ∀ value ∈ ([2 ^ 31, 2 ^ 31] : List Nat), value < 2 ^ 32 := by decide
  refine ⟨nonempty, sorted, fits, ?_⟩
  rw [calcQ1Uint_eq nonempty sorted fits]
  decide

end TiFeatures
