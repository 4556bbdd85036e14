/-
This file settles when an autocorrelation is a coefficient. The loops divide the
products of the values a lag apart by the squares of the first of each pair alone, so
the quotient leaves the range where the last values are far from the mean and the
first ones are not.
-/

import TiFeatures.Iat
import TiFeatures.Payload
import TiFeatures.Squares

namespace TiFeatures

open Moments

/-! ### The loops -/

section Loops

variable {D : Type} [Double D]

/-- The two sums of the loops. -/
def lagSums (lag : Nat) (mean : D) (values : List D) : D × D :=
  (values.zip (values.drop lag)).foldl (fun sums pair =>
    let d1 := pair.1 - mean
    let d2 := pair.2 - mean
    (sums.1 + d1 * d2, sums.2 + d1 * d1)) (0, 0)

theorem calcIatAutocorrDouble_eq {values : List D} {lag : Nat} (positive : 1 ≤ lag)
    (within : lag < values.length) :
    calcIatAutocorrDouble values lag =
      let sums := lagSums lag (sumDouble values / (values.length : D)) values
      if Double.blt 0 sums.2 then sums.1 / sums.2 else 0 := by
  rw [calcIatAutocorrDouble, if_neg (by omega)]
  rfl

/-- The loop over integers is the one over their conversions. -/
theorem calcAutocorr_eq {seq : List Nat} {lag : Nat} (positive : 1 ≤ lag)
    (within : lag < seq.length) :
    (calcAutocorr seq lag : D) = calcIatAutocorrDouble (prepareDoubleBuffer D seq) lag := by
  rw [calcIatAutocorrDouble_eq positive (by rwa [length_prepareDoubleBuffer]),
    sumDouble_prepareDoubleBuffer, length_prepareDoubleBuffer, lagSums, prepareDoubleBuffer_eq,
    ← List.map_drop, List.zip_map, List.foldl_map, calcAutocorr, if_neg (not_le.mpr within)]
  rfl

/-- The loop over the bytes of a payload is the one over integers. -/
theorem payloadAutocorrLag1_eq {payload : List UInt8} (long : 1 < payload.length) :
    (payloadAutocorrLag1 payload : D) = calcAutocorr (payload.map UInt8.toNat) 1 := by
  have within : ¬ (payload.map UInt8.toNat).length ≤ 1 := by
    rw [List.length_map]
    omega
  rw [calcAutocorr, if_neg within]
  rfl

end Loops

theorem real_lagSums (lag : Nat) (mean : ℝ) (values : List ℝ) :
    lagSums lag mean values =
      (lagSum lag mean values, powerSum 2 mean (values.take (values.length - lag))) := by
  have folded : ∀ pairs : List (ℝ × ℝ),
      pairs.foldl (fun sums pair => (sums.1 + (pair.1 - mean) * (pair.2 - mean),
        sums.2 + (pair.1 - mean) * (pair.1 - mean))) ((0, 0) : ℝ × ℝ) =
      ((pairs.map fun pair => (pair.1 - mean) * (pair.2 - mean)).sum,
        powerSum 2 mean (pairs.map Prod.fst)) := by
    intro pairs
    induction pairs using List.reverseRecOn with
    | nil => rfl
    | append_singleton pairs pair inductionHypothesis =>
      rw [List.foldl_concat, inductionHypothesis, List.map_append, List.sum_append,
        List.map_append, powerSum_append, List.map_singleton, List.map_singleton,
        powerSum_singleton, List.sum_singleton, sq]
  rw [← map_fst_zip_drop]
  exact folded _

/-! ### The range -/

/-- The last values are not far from the mean where the first ones are near: the squared distances
of the last exceed those of the first by at most the squared changes over the lag, and by at most
those of the changes with the sign of one value turned around the mean. -/
structure LagBalanced (values : List ℝ) (lag : Nat) : Prop where
  changes : powerSum 2 (mean values) (values.drop (values.length - lag)) ≤
    powerSum 2 (mean values) (values.take lag) +
      ((values.zip (values.drop lag)).map fun pair => (pair.2 - pair.1) ^ 2).sum
  opposites : powerSum 2 (mean values) (values.drop (values.length - lag)) ≤
    powerSum 2 (mean values) (values.take lag) +
      ((values.zip (values.drop lag)).map fun pair =>
        (pair.2 + pair.1 - 2 * mean values) ^ 2).sum

/-- The sum of the products stays within that of the squares. -/
theorem lagBalanced_iff (values : List ℝ) (lag : Nat) :
    LagBalanced values lag ↔
      |lagSum lag (mean values) values| ≤
        powerSum 2 (mean values) (values.take (values.length - lag)) := by
  have total : powerSum 2 (mean values) (values.take lag) +
      powerSum 2 (mean values) (values.drop lag) =
      powerSum 2 (mean values) (values.take (values.length - lag)) +
        powerSum 2 (mean values) (values.drop (values.length - lag)) := by
    rw [← powerSum_append, ← powerSum_append, List.take_append_drop, List.take_append_drop]
  have changes_eq := sum_lag_squares lag (mean values) (-1) values
  have opposites_eq := sum_lag_squares lag (mean values) 1 values
  have change : ∀ pair : ℝ × ℝ, (pair.2 - mean values) + -1 * (pair.1 - mean values) =
      pair.2 - pair.1 := fun pair => by ring
  have opposite : ∀ pair : ℝ × ℝ, (pair.2 - mean values) + 1 * (pair.1 - mean values) =
      pair.2 + pair.1 - 2 * mean values := fun pair => by ring
  simp only [change] at changes_eq
  simp only [opposite] at opposites_eq
  rw [abs_le]
  constructor
  · rintro ⟨changes, opposites⟩
    rw [changes_eq] at changes
    rw [opposites_eq] at opposites
    constructor
    · linarith
    · linarith
  · rintro ⟨lower, upper⟩
    refine ⟨?_, ?_⟩
    · rw [changes_eq]
      linarith
    · rw [opposites_eq]
      linarith

theorem calcIatAutocorrDouble_mem_iff {values : List ℝ} {lag : Nat} (positive : 1 ≤ lag)
    (within : lag < values.length) :
    (-1 ≤ calcIatAutocorrDouble values lag ∧ calcIatAutocorrDouble values lag ≤ 1) ↔
      LagBalanced values lag := by
  rw [calcIatAutocorrDouble_eq positive within, real_sumDouble, real_lagSums, lagBalanced_iff]
  exact guarded_div_mem_iff (powerSum_two_nonneg _ _) lagSum_eq_zero

/-- In exact arithmetic both functions compute the same, and it is a coefficient exactly if the
ends of the sequence are balanced. -/
theorem autocorr_mem_iff {seq : List Nat} {lag : Nat} (positive : 1 ≤ lag)
    (within : lag < seq.length) :
    let values := prepareDoubleBuffer ℝ seq
    ((-1 ≤ (calcAutocorr seq lag : ℝ) ∧ (calcAutocorr seq lag : ℝ) ≤ 1) ↔
      LagBalanced values lag) ∧
    ((-1 ≤ calcIatAutocorrDouble values lag ∧ calcIatAutocorrDouble values lag ≤ 1) ↔
      LagBalanced values lag) ∧
    ∀ payload : List UInt8, payload.map UInt8.toNat = seq → lag = 1 →
      ((-1 ≤ (payloadAutocorrLag1 payload : ℝ) ∧ (payloadAutocorrLag1 payload : ℝ) ≤ 1) ↔
        LagBalanced values lag) := by
  intro values
  have longer : lag < values.length := by rwa [length_prepareDoubleBuffer]
  have in_range := calcIatAutocorrDouble_mem_iff positive longer
  refine ⟨?_, in_range, ?_⟩
  · rw [calcAutocorr_eq positive within]
    exact in_range
  · rintro payload rfl rfl
    rw [List.length_map] at within
    rw [payloadAutocorrLag1_eq within, calcAutocorr_eq le_rfl (by rwa [List.length_map])]
    exact in_range

theorem autocorr_mem_get : 1 ≤ 1 ∧ 1 < [60, 1500, 60].length ∧
    -1 ≤ (calcAutocorr [60, 1500, 60] 1 : ℝ) ∧ (calcAutocorr [60, 1500, 60] 1 : ℝ) ≤ 1 := by
  have values_eq : prepareDoubleBuffer ℝ [60, 1500, 60] = [60, 1500, 60] := by
    rw [prepareDoubleBuffer_eq]
    simp only [List.map_cons, List.map_nil, Nat.cast_ofNat]
  have balanced : LagBalanced (prepareDoubleBuffer ℝ [60, 1500, 60]) 1 := by
    rw [values_eq]
    constructor
    · norm_num [mean, powerSum]
    · norm_num [mean, powerSum]
  have within : 1 < [60, 1500, 60].length := by decide
  exact ⟨le_rfl, within, (autocorr_mem_iff le_rfl within).1.mpr balanced⟩

/-- Four packets of 60 bytes, one of 62 and one of 65: the coefficient is 227/221. -/
theorem autocorr_above_one : 1 ≤ 1 ∧ 1 < [60, 60, 60, 60, 62, 65].length ∧
    1 < (calcAutocorr [60, 60, 60, 60, 62, 65] 1 : ℝ) ∧
    1 < calcIatAutocorrDouble (prepareDoubleBuffer ℝ [60, 60, 60, 60, 62, 65]) 1 := by
  have values_eq : prepareDoubleBuffer ℝ [60, 60, 60, 60, 62, 65] =
      [60, 60, 60, 60, 62, 65] := by
    rw [prepareDoubleBuffer_eq]
    simp only [List.map_cons, List.map_nil, Nat.cast_ofNat]
  have above : ∀ values : List ℝ, values = [60, 60, 60, 60, 62, 65] →
      1 < calcIatAutocorrDouble values 1 := by
    intro values values_eq
    have length_eq : values.length = 6 := congrArg List.length values_eq
    have mean_eq : values.sum / Nat.cast values.length = 367 / 6 := by
      norm_num [values_eq]
    have num_eq : lagSum 1 (367 / 6) values = 227 / 36 := by
      norm_num [values_eq, lagSum]
    have den_eq : powerSum 2 (367 / 6) (values.take (values.length - 1)) = 221 / 36 := by
      norm_num [values_eq, powerSum]
    have passes : Double.blt (0 : ℝ) (221 / 36) = true := (real_blt_iff _ _).mpr (by norm_num)
    rw [calcIatAutocorrDouble_eq le_rfl (by omega), real_sumDouble, real_lagSums]
    simp only [mean_eq, num_eq, den_eq, if_pos passes]
    norm_num
  refine ⟨le_rfl, by decide, ?_, above _ values_eq⟩
  rw [calcAutocorr_eq le_rfl (by decide)]
  exact above _ values_eq

end TiFeatures
