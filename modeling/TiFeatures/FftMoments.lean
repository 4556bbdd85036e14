/-
This file compares the moments of the magnitudes with those that the batch functions
compute. The transform's statistics come from raw power sums; in exact arithmetic they
are the same, and the variance is never negative before it is clamped.
-/

import TiFeatures.FreqDomain
import TiFeatures.Squares

namespace TiFeatures

open Moments

/-! ### The variance -/

/-- `variance` of `fft_compute_statistics`, before it is clamped. -/
def fftVariance {D : Type} [Double D] (magnitudes : List D) : D :=
  if magnitudes.length > 1 then
    (sumSqDouble magnitudes - (magnitudes.length : D) *
      (sumDouble magnitudes / (magnitudes.length : D)) *
      (sumDouble magnitudes / (magnitudes.length : D))) / ((magnitudes.length - 1 : Nat) : D)
  else 0

theorem real_fftVariance (magnitudes : List ℝ) :
    fftVariance magnitudes = sampleVariance magnitudes := by
  rw [fftVariance, real_sumDouble, real_sumSqDouble]
  split
  · exact (sampleVariance_eq magnitudes).symm
  · rename_i few
    exact (sampleVariance_of_few few).symm

/-! ### The expanded moments -/

section Fields

variable {K : Type} [Field K] {count mean second third fourth std : K}

theorem rawThird_eq (nonzero : count ≠ 0) :
    (third / count - 3 * mean * second / count + 2 * mean * mean * mean) / (std * std * std) =
      (third - 3 * mean * second + 2 * count * mean ^ 3) / std ^ 3 / count := by
  field_simp

theorem rawFourth_eq {variance : K} (nonzero : count ≠ 0) :
    (fourth / count - 4 * mean * third / count + 6 * mean * mean * second / count -
        3 * mean * mean * mean * mean) / (variance * variance) =
      (fourth - 4 * mean * third + 6 * mean ^ 2 * second - 3 * count * mean ^ 4) /
        (variance * variance) / count := by
  field_simp

end Fields

theorem foldl_cubes (values : List ℝ) :
    values.foldl (fun sum v => sum + v * v * v) 0 = powerSum 3 0 values := by
  rw [foldl_add_term (fun v : ℝ => v * v * v) values 0, zero_add, powerSum]
  refine congrArg List.sum (List.map_congr_left fun v _ => ?_)
  rw [sub_zero]
  exact (pow_three' v).symm

theorem foldl_fourths (values : List ℝ) :
    values.foldl (fun sum v => sum + v * v * v * v) 0 = powerSum 4 0 values := by
  rw [foldl_add_term (fun v : ℝ => v * v * v * v) values 0, zero_add, powerSum]
  refine congrArg List.sum (List.map_congr_left fun v _ => ?_)
  rw [sub_zero]
  exact (congrArg (· * v) (pow_three' v).symm).trans (pow_succ v 3).symm

theorem sumSqDouble_eq_powerSum (values : List ℝ) : sumSqDouble values = powerSum 2 0 values := by
  rw [real_sumSqDouble, powerSum]
  refine congrArg List.sum (List.map_congr_left fun v _ => ?_)
  rw [sub_zero, sq]

theorem real_fftVariance_not_clamped (magnitudes : List ℝ) :
    ¬ Double.blt (fftVariance magnitudes) 0 = true := by
  rw [real_blt_iff, real_fftVariance]
  exact not_lt.mpr (sampleVariance_nonneg magnitudes)

theorem real_magMean (magnitudes : List ℝ) :
    (fftComputeStatistics magnitudes).magMean = mean magnitudes :=
  congrArg (· / (Nat.cast magnitudes.length : ℝ)) (real_sumDouble magnitudes)

/-- The deviation is the root of the sample variance. -/
theorem real_magStd (magnitudes : List ℝ) :
    (fftComputeStatistics magnitudes).magStd = Double.sqrt (sampleVariance magnitudes) := by
  rw [← real_fftVariance]
  exact congrArg Double.sqrt (if_neg (real_fftVariance_not_clamped magnitudes))

section Varies

variable {magnitudes : List ℝ} (varies : sampleVariance magnitudes ≠ 0)

include varies

theorem real_magStd_pos : 0 < (fftComputeStatistics magnitudes).magStd := by
  rw [real_magStd]
  exact Real.sqrt_pos.mpr (sampleVariance_pos varies)

/-- The skewness from the power sums is that of the batch function. -/
theorem real_magSkew (many : 3 ≤ magnitudes.length) :
    let stats := fftComputeStatistics magnitudes
    stats.magSkew = calcSkewness magnitudes stats.magMean stats.magStd := by
  intro stats
  have std_pos : 0 < stats.magStd := real_magStd_pos varies
  have skew_eq : stats.magSkew = if Double.blt 0 stats.magStd then
      (magnitudes.foldl (fun sum v => sum + v * v * v) 0 / Nat.cast magnitudes.length -
        3 * stats.magMean * sumSqDouble magnitudes / Nat.cast magnitudes.length +
        2 * stats.magMean * stats.magMean * stats.magMean) /
          (stats.magStd * stats.magStd * stats.magStd) else 0 := rfl
  have moment := centralSum_three_eq magnitudes
  rw [centralSum, ← real_magMean] at moment
  rw [skew_eq, if_pos ((real_blt_iff _ _).mpr std_pos), foldl_cubes, sumSqDouble_eq_powerSum,
    calcSkewness_eq _ many std_pos.ne', moment]
  exact rawThird_eq (Nat.cast_ne_zero.mpr (by omega))

/-- The kurtosis from the power sums is that of the batch function. -/
theorem real_magKurt (many : 4 ≤ magnitudes.length) :
    let stats := fftComputeStatistics magnitudes
    stats.magKurt = calcKurtosis magnitudes stats.magMean stats.magStd := by
  intro stats
  have positive := sampleVariance_pos varies
  have std_pos : 0 < stats.magStd := real_magStd_pos varies
  have passes : Double.blt 0 (fftVariance magnitudes) = true := by
    rw [real_blt_iff, real_fftVariance]
    exact positive
  let m4 := magnitudes.foldl (fun sum v => sum + v * v * v * v) 0 / Nat.cast magnitudes.length -
    4 * stats.magMean * magnitudes.foldl (fun sum v => sum + v * v * v) 0 /
      Nat.cast magnitudes.length +
    6 * stats.magMean * stats.magMean * sumSqDouble magnitudes / Nat.cast magnitudes.length -
    3 * stats.magMean * stats.magMean * stats.magMean * stats.magMean
  have kurt_eq : stats.magKurt = if Double.blt 0 (fftVariance magnitudes) then
      m4 / (fftVariance magnitudes * fftVariance magnitudes) - 3 else 0 :=
    congrArg (fun clamped : ℝ =>
      if Double.blt 0 clamped then m4 / (clamped * clamped) - 3 else 0)
      (if_neg (real_fftVariance_not_clamped magnitudes))
  have moment := centralSum_four_eq magnitudes
  rw [centralSum, ← real_magMean] at moment
  have fourth : stats.magStd ^ 4 = fftVariance magnitudes * fftVariance magnitudes := by
    rw [real_fftVariance, ← real_sqrt_fourth positive.le, ← real_magStd]
  simp only [m4, foldl_cubes, foldl_fourths, sumSqDouble_eq_powerSum] at kurt_eq
  rw [kurt_eq, if_pos passes, calcKurtosis_eq _ many std_pos.ne', moment, fourth]
  exact congrArg (· - (3 : ℝ)) (rawFourth_eq (Nat.cast_ne_zero.mpr (by omega)))

end Varies

/-- The deviation is the root of the sample variance, which is not clamped, and the skewness and
the kurtosis are those that the batch functions compute. -/
theorem fftComputeStatistics_moments {magnitudes : List ℝ} (many : 4 ≤ magnitudes.length)
    (varies : sampleVariance magnitudes ≠ 0) :
    let stats := fftComputeStatistics magnitudes
    let variance := fftVariance magnitudes
    stats.magStd = Double.sqrt (if Double.blt variance 0 then 0 else variance) ∧
      ¬ Double.blt variance 0 = true ∧
      stats.magStd * stats.magStd = sampleVariance magnitudes ∧
      stats.magSkew = calcSkewness magnitudes stats.magMean stats.magStd ∧
      stats.magKurt = calcKurtosis magnitudes stats.magMean stats.magStd := by
  intro stats variance
  refine ⟨rfl, real_fftVariance_not_clamped magnitudes, ?_, real_magSkew varies (by omega),
    real_magKurt varies many⟩
  rw [real_magStd]
  exact Real.mul_self_sqrt (sampleVariance_nonneg magnitudes)

/-- Magnitudes that vary have the moments of the batch functions. -/
theorem fftComputeStatistics_moments_get :
    let magnitudes : List ℝ := [1, 0, 0, 3]
    let stats := fftComputeStatistics magnitudes
    sampleVariance magnitudes ≠ 0 ∧
      stats.magStd * stats.magStd = sampleVariance magnitudes ∧
      stats.magSkew = calcSkewness magnitudes stats.magMean stats.magStd ∧
      stats.magKurt = calcKurtosis magnitudes stats.magMean stats.magStd := by
  intro magnitudes stats
  have varies : sampleVariance magnitudes ≠ 0 := by
    norm_num [magnitudes, sampleVariance, centralSum, powerSum, mean]
  exact ⟨varies, (fftComputeStatistics_moments (by decide) varies).2.2⟩

end TiFeatures
