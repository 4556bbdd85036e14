/-
This file compares Welford's recurrences with the moments of a whole list, in
exact arithmetic. The mean and the sum of squared distances are those of the
list, in any order. The recurrences for the third and the fourth moment leave
out the terms of the lower moments, so they are right only where what is left
out cancels.
-/

import TiFeatures.Summaries
import TiFeatures.Library.Moments
import Mathlib.Tactic.LinearCombination

namespace TiFeatures

/-! ### Updates over a field -/

section Fields

variable {K : Type} [Field K] [CharZero K] (seen : List K) (sample : K) {count : K}

/-- What the update of the third moment leaves out. -/
def missingThird {K : Type} [Field K] (seen : List K) (sample : K) : K :=
  let count : K := seen.length + 1
  let delta := sample - Moments.mean seen
  delta ^ 3 * (count - 1) * (2 * count - 3) / count ^ 3 -
    3 * delta * Moments.centralSum 2 seen / count

/-- What the update of the fourth moment leaves out, less what it adds too much. -/
def missingFourth {K : Type} [Field K] (seen : List K) (sample : K) : K :=
  let count : K := seen.length + 1
  let delta := sample - Moments.mean seen
  delta ^ 4 * (count - 1) * (3 * count - 2) / count ^ 3 +
    6 * delta ^ 2 * Moments.centralSum 2 seen / count ^ 2 -
    4 * delta * Moments.centralSum 3 seen / count -
    6 * delta ^ 3 * (count - 1) ^ 3 / count ^ 5

/-- What is left out over some more samples. -/
def missingSum {K : Type} [Field K] (missing : List K → K → K) (seen : List K) : List K → K
  | [] => 0
  | sample :: rest => missing seen sample + missingSum missing (seen ++ [sample]) rest

omit [CharZero K] in
theorem missingSum_concat (missing : List K → K → K) (rest : List K) :
    missingSum missing seen (rest ++ [sample]) =
      missingSum missing seen rest + missing (seen ++ rest) sample := by
  induction rest generalizing seen with
  | nil => rw [List.nil_append, missingSum, missingSum, missingSum, List.append_nil, add_comm]
  | cons next rest inductionHypothesis =>
    rw [List.cons_append, missingSum, missingSum, inductionHypothesis, add_assoc,
      List.append_assoc, List.singleton_append]

/-- The update of the sum of squared distances, from the mean before and after. -/
theorem centralSum_two_update (count_eq : count = seen.length + 1) :
    let delta := sample - Moments.mean seen
    let delta2 := sample - (Moments.mean seen + delta / count)
    Moments.centralSum 2 seen + delta * delta2 =
      Moments.centralSum 2 (seen ++ [sample]) := by
  have nonzero : (seen.length : K) + 1 ≠ 0 := Nat.cast_add_one_ne_zero _
  intro delta delta2
  simp only [delta, delta2, count_eq]
  rw [Moments.centralSum_two_concat]
  field_simp
  ring

/-- The update of the third moment misses some terms. -/
theorem centralSum_three_update (count_eq : count = seen.length + 1) :
    let delta := sample - Moments.mean seen
    let delta2 := sample - (Moments.mean seen + delta / count)
    Moments.centralSum 3 seen + (delta * delta2 * delta2 - 3 * delta2 * delta2 * delta / count) =
      Moments.centralSum 3 (seen ++ [sample]) - missingThird seen sample := by
  have nonzero : (seen.length : K) + 1 ≠ 0 := Nat.cast_add_one_ne_zero _
  intro delta delta2
  simp only [delta, delta2, count_eq, missingThird]
  rw [Moments.centralSum_three_concat]
  field_simp
  ring

/-- The update of the fourth moment misses some terms and has one too many. -/
theorem centralSum_four_update (count_eq : count = seen.length + 1) :
    let delta := sample - Moments.mean seen
    let delta2 := sample - (Moments.mean seen + delta / count)
    Moments.centralSum 4 seen +
        (delta * delta2 * delta2 * delta2 - 4 * (delta * delta2) * delta2 * delta / count +
          6 * delta2 * delta2 * delta2 / (count * count)) =
      Moments.centralSum 4 (seen ++ [sample]) - missingFourth seen sample := by
  have nonzero : (seen.length : K) + 1 ≠ 0 := Nat.cast_add_one_ne_zero _
  intro delta delta2
  simp only [delta, delta2, count_eq, missingFourth]
  rw [Moments.centralSum_four_concat]
  field_simp
  ring

omit [CharZero K] in
theorem missingThird_nil : missingThird [] sample = 0 := by
  have second : Moments.centralSum 2 ([] : List K) = 0 := rfl
  simp only [missingThird, List.length_nil, Nat.cast_zero, zero_add, sub_self, mul_zero, zero_mul,
    zero_div, second]

omit [CharZero K] in
theorem missingFourth_nil : missingFourth [] sample = 0 := by
  have second : Moments.centralSum 2 ([] : List K) = 0 := rfl
  have third : Moments.centralSum 3 ([] : List K) = 0 := rfl
  simp only [missingFourth, List.length_nil, Nat.cast_zero, zero_add, sub_self, mul_zero,
    zero_mul, zero_div, zero_pow three_ne_zero, second, third, add_zero]

/-- The first value that differs from the ones before it leaves something out. -/
theorem missing_replicate_iff (count : Nat) (value : K) :
    (missingThird (List.replicate (count + 1) value) sample = 0 ∧
      missingFourth (List.replicate (count + 1) value) sample = 0) ↔ sample = value := by
  have third := Moments.centralSum_replicate (count + 1) 2 value
  have second := Moments.centralSum_replicate (count + 1) 1 value
  simp only [Nat.reduceAdd] at third second
  simp only [missingThird, missingFourth, Moments.mean_replicate, List.length_replicate,
    Nat.cast_add, Nat.cast_one, second, third, mul_zero, zero_div, sub_zero, add_zero]
  constructor
  · rintro ⟨cube, -⟩
    have divisor : ((count : K) + 1 + 1) ^ 3 ≠ 0 := by
      have successor : (((count + 1 : Nat) : K) + 1) ≠ 0 := Nat.cast_add_one_ne_zero (count + 1)
      rw [Nat.cast_add, Nat.cast_one] at successor
      exact pow_ne_zero 3 successor
    have factor : (count : K) + 1 + 1 - 1 ≠ 0 := by
      rw [add_sub_cancel_right]
      exact Nat.cast_add_one_ne_zero count
    have other : 2 * ((count : K) + 1 + 1) - 3 ≠ 0 := by
      have odd : 2 * ((count : K) + 1 + 1) - 3 = ((2 * count + 1 : Nat) : K) := by
        push_cast
        ring
      rw [odd]
      exact Nat.cast_ne_zero.mpr (Nat.succ_ne_zero _)
    rw [div_eq_zero_iff, mul_eq_zero, mul_eq_zero] at cube
    have distance := ((cube.resolve_right divisor).resolve_right other).resolve_right factor
    exact sub_eq_zero.mp (pow_eq_zero_iff three_ne_zero |>.mp distance)
  · rintro rfl
    simp only [sub_self, ne_eq, OfNat.ofNat_ne_zero, not_false_eq_true, zero_pow, zero_mul,
      mul_zero, zero_div, and_self]

/-- Nothing is left out anywhere in a list exactly if its values are equal. -/
theorem missingSum_prefixes_iff (samples : List K) :
    (∀ seen, seen <+: samples → missingSum missingThird [] seen = 0 ∧
      missingSum missingFourth [] seen = 0) ↔
      ∀ first ∈ samples, ∀ second ∈ samples, first = second := by
  induction samples using List.reverseRecOn with
  | nil =>
    refine iff_of_true (fun seen within => ?_) fun first member => absurd member List.not_mem_nil
    rw [List.prefix_nil.mp within]
    exact ⟨rfl, rfl⟩
  | append_singleton samples sample inductionHypothesis =>
    have whole : (∀ seen, seen <+: samples ++ [sample] → missingSum missingThird [] seen = 0 ∧
        missingSum missingFourth [] seen = 0) ↔
        (∀ first ∈ samples, ∀ second ∈ samples, first = second) ∧
          missingThird samples sample = 0 ∧ missingFourth samples sample = 0 := by
      simp only [List.prefix_concat_iff, forall_eq_or_imp, inductionHypothesis]
      rw [and_comm]
      refine and_congr_right fun same => ?_
      obtain ⟨third, fourth⟩ := inductionHypothesis.mpr same samples List.prefix_rfl
      rw [missingSum_concat, missingSum_concat, third, fourth, zero_add, zero_add,
        List.nil_append]
    rw [whole]
    cases samples with
    | nil =>
      refine iff_of_true ⟨fun first member => absurd member List.not_mem_nil,
        missingThird_nil sample, missingFourth_nil sample⟩ fun first member second other => ?_
      rw [List.nil_append, List.mem_singleton] at member other
      rw [member, other]
    | cons value rest =>
      have same_iff : (∀ first ∈ value :: rest, ∀ second ∈ value :: rest, first = second) ↔
          value :: rest = List.replicate (rest.length + 1) value := by
        rw [List.eq_replicate_iff]
        refine ⟨fun same => ⟨rfl, fun other member => same other member value List.mem_cons_self⟩,
          fun ⟨_, same⟩ first member second other => ?_⟩
        rw [same first member, same second other]
      constructor
      · rintro ⟨same, missing⟩
        rw [same_iff.mp same] at missing ⊢
        rw [(missing_replicate_iff sample _ value).mp missing, ← List.replicate_succ']
        intro first member second other
        rw [List.eq_of_mem_replicate member, List.eq_of_mem_replicate other]
      · intro same
        have before : ∀ first ∈ value :: rest, ∀ second ∈ value :: rest, first = second :=
          fun first member second other => same first (List.mem_append_left _ member) second
            (List.mem_append_left _ other)
        refine ⟨before, ?_⟩
        rw [same_iff.mp before, missing_replicate_iff]
        exact same sample (List.mem_append_right _ (List.mem_singleton_self _)) value
          (List.mem_append_left _ List.mem_cons_self)

end Fields

/-! ### Mean and variance -/

/-- What the update of a statistic computes from the mean before and after. -/
theorem runningStatsUpdate_moments {stats : RunningStats ℝ} {seen : List ℝ} (sample : ℝ)
    (mean_eq : stats.mean = Moments.mean seen) (count_eq : stats.count = seen.length)
    (fits : seen.length + 1 < 2 ^ 64) :
    (runningStatsUpdate stats sample).count = (seen ++ [sample]).length ∧
      (runningStatsUpdate stats sample).mean = Moments.mean (seen ++ [sample]) ∧
      (stats.m2 = Moments.centralSum 2 seen →
        (runningStatsUpdate stats sample).m2 = Moments.centralSum 2 (seen ++ [sample])) := by
  have next_eq : u64 (stats.count + 1) = seen.length + 1 := by
    rw [count_eq, u64_of_lt fits]
  have cast_eq : (Nat.cast (u64 (stats.count + 1)) : ℝ) = Nat.cast seen.length + 1 := by
    rw [next_eq, Nat.cast_add, Nat.cast_one]
  refine ⟨?_, ?_, fun m2_eq => ?_⟩
  · rw [List.length_append, List.length_singleton]
    exact next_eq
  · have concat := Moments.mean_concat seen sample
    rw [← cast_eq, ← mean_eq] at concat
    exact concat.symm
  · have update := centralSum_two_update seen sample cast_eq
    rw [← mean_eq, ← m2_eq] at update
    exact update

/-- What a statistic is after its samples: Welford's recurrence gives the moments of the list. -/
structure Welford (samples : List ℝ) (stats : RunningStats ℝ) : Prop where
  count_eq : stats.count = samples.length
  mean_eq : stats.mean = Moments.mean samples
  m2_eq : stats.m2 = Moments.centralSum 2 samples

theorem foldl_runningStatsUpdate_welford (samples : List ℝ) (fits : samples.length < 2 ^ 64) :
    Welford samples (samples.foldl runningStatsUpdate runningStatsInit) := by
  induction samples using List.reverseRecOn with
  | nil => exact ⟨rfl, Moments.mean_nil.symm, rfl⟩
  | append_singleton samples sample inductionHypothesis =>
    rw [List.length_append, List.length_singleton] at fits
    have sampled := inductionHypothesis (by omega)
    rw [List.foldl_concat]
    obtain ⟨count_eq, mean_eq, m2_eq⟩ :=
      runningStatsUpdate_moments sample sampled.mean_eq sampled.count_eq fits
    exact ⟨count_eq, mean_eq, m2_eq sampled.m2_eq⟩

theorem Welford.variance_eq {samples : List ℝ} {stats : RunningStats ℝ}
    (welford : Welford samples stats) :
    runningStatsVariance stats = Moments.sampleVariance samples := by
  rw [runningStatsVariance, welford.count_eq, welford.m2_eq]
  split
  · rfl
  · rename_i few
    exact (Moments.sampleVariance_of_few few).symm

/-- The minimum of a statistic is the least of its samples. -/
theorem foldl_runningStatsUpdate_isLeast {samples : List ℝ} (nonempty : samples ≠ [])
    (within : ∀ sample ∈ samples, sample ≤ (Nat.cast (10 ^ 18) : ℝ)) :
    IsLeast { sample | sample ∈ samples }
      (samples.foldl runningStatsUpdate runningStatsInit).minVal := by
  have le_iff := foldl_runningStatsUpdate_minVal_le_iff samples runningStatsInit
  have lower : ∀ sample ∈ samples,
      (samples.foldl runningStatsUpdate runningStatsInit).minVal ≤ sample :=
    fun sample member => (le_iff sample).mpr (.inr ⟨sample, member, le_rfl⟩)
  refine ⟨?_, lower⟩
  obtain ⟨sample, member, below⟩ : ∃ sample ∈ samples,
      sample ≤ (samples.foldl runningStatsUpdate runningStatsInit).minVal := by
    rcases (le_iff _).mp le_rfl with start | found
    · obtain ⟨sample, member⟩ := List.exists_mem_of_ne_nil samples nonempty
      exact ⟨sample, member, (within sample member).trans start⟩
    · exact found
  exact le_antisymm (lower sample member) below ▸ member

/-- The maximum of a statistic is the greatest of its samples. -/
theorem foldl_runningStatsUpdate_isGreatest {samples : List ℝ} (nonempty : samples ≠ [])
    (within : ∀ sample ∈ samples, -(Nat.cast (10 ^ 18) : ℝ) ≤ sample) :
    IsGreatest { sample | sample ∈ samples }
      (samples.foldl runningStatsUpdate runningStatsInit).maxVal := by
  have le_iff := le_foldl_runningStatsUpdate_maxVal_iff samples runningStatsInit
  have upper : ∀ sample ∈ samples,
      sample ≤ (samples.foldl runningStatsUpdate runningStatsInit).maxVal :=
    fun sample member => (le_iff sample).mpr (.inr ⟨sample, member, le_rfl⟩)
  refine ⟨?_, upper⟩
  obtain ⟨sample, member, above⟩ : ∃ sample ∈ samples,
      (samples.foldl runningStatsUpdate runningStatsInit).maxVal ≤ sample := by
    rcases (le_iff _).mp le_rfl with start | found
    · obtain ⟨sample, member⟩ := List.exists_mem_of_ne_nil samples nonempty
      exact ⟨sample, member, start.trans (within sample member)⟩
    · exact found
  exact le_antisymm above (upper sample member) ▸ member

/-- The update makes the count, the mean, the sum of squared distances, the minimum, the maximum
and the variance of its inputs, in whichever order they come. -/
theorem runningStats_welford (samples : List ℝ) (nonempty : samples ≠ [])
    (within : ∀ sample ∈ samples, -10 ^ 18 ≤ sample ∧ sample ≤ 10 ^ 18)
    (fits : samples.length < 2 ^ 64) :
    let stats := samples.foldl runningStatsUpdate runningStatsInit
    stats.count = samples.length ∧ stats.mean = Moments.mean samples ∧
      stats.m2 = Moments.centralSum 2 samples ∧
      IsLeast { sample | sample ∈ samples } stats.minVal ∧
      IsGreatest { sample | sample ∈ samples } stats.maxVal ∧
      runningStatsVariance stats = Moments.sampleVariance samples ∧
      ∀ other : List ℝ, other.Perm samples →
        let again := other.foldl runningStatsUpdate runningStatsInit
        again.count = stats.count ∧ again.mean = stats.mean ∧ again.m2 = stats.m2 ∧
          again.minVal = stats.minVal ∧ again.maxVal = stats.maxVal ∧
          runningStatsVariance again = runningStatsVariance stats := by
  have limit_eq : (Nat.cast (10 ^ 18) : ℝ) = 10 ^ 18 := by norm_num
  have least : ∀ other : List ℝ, other.Perm samples → IsLeast { sample | sample ∈ samples }
      (other.foldl runningStatsUpdate runningStatsInit).minVal := by
    intro other same
    have found := foldl_runningStatsUpdate_isLeast
      (fun empty => nonempty (List.nil_perm.mp (empty ▸ same))) fun sample member =>
        (within sample (same.mem_iff.mp member)).2.trans_eq limit_eq.symm
    simpa only [same.mem_iff] using found
  have greatest : ∀ other : List ℝ, other.Perm samples → IsGreatest { sample | sample ∈ samples }
      (other.foldl runningStatsUpdate runningStatsInit).maxVal := by
    intro other same
    have found := foldl_runningStatsUpdate_isGreatest
      (fun empty => nonempty (List.nil_perm.mp (empty ▸ same))) fun sample member =>
        (congrArg Neg.neg limit_eq).trans_le (within sample (same.mem_iff.mp member)).1
    simpa only [same.mem_iff] using found
  have sampled := foldl_runningStatsUpdate_welford samples fits
  refine ⟨sampled.count_eq, sampled.mean_eq, sampled.m2_eq, least samples (List.Perm.refl _),
    greatest samples (List.Perm.refl _), sampled.variance_eq, fun other same => ?_⟩
  have again := foldl_runningStatsUpdate_welford other (same.length_eq ▸ fits)
  refine ⟨?_, ?_, ?_, (least other same).unique (least samples (List.Perm.refl _)),
    (greatest other same).unique (greatest samples (List.Perm.refl _)), ?_⟩
  · rw [again.count_eq, sampled.count_eq, same.length_eq]
  · rw [again.mean_eq, sampled.mean_eq, Moments.mean_perm same]
  · rw [again.m2_eq, sampled.m2_eq, Moments.centralSum_perm same]
  · rw [again.variance_eq, sampled.variance_eq, Moments.sampleVariance_perm same]

theorem runningStats_welford_two :
    ((1 : ℝ) :: [3]).length < 2 ^ 64 ∧
      runningStatsVariance (((1 : ℝ) :: [3]).foldl runningStatsUpdate runningStatsInit) =
        Moments.sampleVariance [1, 3] := by
  have within : ∀ sample ∈ ((1 : ℝ) :: [3]), -10 ^ 18 ≤ sample ∧ sample ≤ 10 ^ 18 := by
    intro sample member
    rcases List.mem_pair.mp member with rfl | rfl
    · norm_num
    · norm_num
  exact ⟨by decide, (runningStats_welford [1, 3] (List.cons_ne_nil _ _) within
    (by decide)).2.2.2.2.2.1⟩

/-- The count of as many inputs as its type has values is zero. -/
theorem runningStats_count_wraps :
    let samples := List.replicate (2 ^ 64) (0 : ℝ)
    samples ≠ [] ∧ (∀ sample ∈ samples, -10 ^ 18 ≤ sample ∧ sample ≤ 10 ^ 18) ∧
      (samples.foldl runningStatsUpdate runningStatsInit).count ≠ samples.length := by
  refine ⟨?_, fun sample member => ?_, ?_⟩
  · exact List.ne_nil_of_length_pos (by rw [List.length_replicate]; exact Nat.two_pow_pos 64)
  · rw [List.eq_of_mem_replicate member]
    norm_num
  · rw [foldl_runningStatsUpdate_count, List.length_replicate]
    decide

/-! ### Third and fourth moments -/

/-- What a statistic lacks of the third and the fourth moment. -/
structure Shortfall (samples : List ℝ) (stats : RunningStats ℝ) : Prop where
  m3_eq : stats.m3 = Moments.centralSum 3 samples - missingSum missingThird [] samples
  m4_eq : stats.m4 = Moments.centralSum 4 samples - missingSum missingFourth [] samples

theorem Shortfall.update {seen : List ℝ} {stats : RunningStats ℝ} (short : Shortfall seen stats)
    (welford : Welford seen stats) (fits : seen.length + 1 < 2 ^ 32) (sample : ℝ) :
    Shortfall (seen ++ [sample]) (runningStatsUpdate stats sample) := by
  have next_eq : u64 (stats.count + 1) = seen.length + 1 := by
    rw [welford.count_eq, u64_of_lt (by omega)]
  have cast_eq : (Nat.cast (u64 (stats.count + 1)) : ℝ) = Nat.cast seen.length + 1 := by
    rw [next_eq, Nat.cast_add, Nat.cast_one]
  have square_eq : (Nat.cast (u64 (u64 (stats.count + 1) * u64 (stats.count + 1))) : ℝ) =
      Nat.cast (u64 (stats.count + 1)) * Nat.cast (u64 (stats.count + 1)) := by
    have small : (seen.length + 1) * (seen.length + 1) < 2 ^ 64 :=
      (Nat.mul_lt_mul'' fits fits).trans_eq (by norm_num)
    rw [next_eq, u64_of_lt small, Nat.cast_mul]
  constructor
  · have update := centralSum_three_update seen sample cast_eq
    rw [← welford.mean_eq] at update
    show stats.m3 + _ = _
    rw [missingSum_concat, List.nil_append, short.m3_eq]
    exact (sub_add_eq_add_sub _ _ _).trans
      ((congrArg (· - missingSum missingThird [] seen) update).trans (by ring))
  · have update := centralSum_four_update seen sample cast_eq
    rw [← welford.mean_eq, ← square_eq] at update
    show stats.m4 + _ = _
    rw [missingSum_concat, List.nil_append, short.m4_eq]
    exact (sub_add_eq_add_sub _ _ _).trans
      ((congrArg (· - missingSum missingFourth [] seen) update).trans (by ring))

theorem foldl_runningStatsUpdate_shortfall (samples : List ℝ) (fits : samples.length < 2 ^ 32) :
    Shortfall samples (samples.foldl runningStatsUpdate runningStatsInit) := by
  induction samples using List.reverseRecOn with
  | nil => exact ⟨(sub_self (0 : ℝ)).symm, (sub_self (0 : ℝ)).symm⟩
  | append_singleton samples sample inductionHypothesis =>
    rw [List.length_append, List.length_singleton] at fits
    rw [List.foldl_concat]
    exact (inductionHypothesis (by omega)).update
      (foldl_runningStatsUpdate_welford samples (by omega)) fits sample

/-! ### Skewness and kurtosis -/

theorem real_beq_iff (first second : ℝ) : (first == second) = true ↔ first = second :=
  @decide_eq_true_iff _ (Classical.propDecidable _)

section Batch

variable {samples : List ℝ} (mean : ℝ) {std : ℝ}

/-- Adding up powers of scaled distances gives a scaled power sum. -/
theorem foldl_scaled {degree : Nat} {term : ℝ → ℝ}
    (powers : ∀ value, term value = ((value - mean) / std) ^ degree) :
    samples.foldl (fun sum value => sum + term value) 0 =
      Moments.powerSum degree mean samples / std ^ degree := by
  rw [← Moments.sum_map_div_pow, Moments.foldl_add_term term samples 0, zero_add]
  exact congrArg List.sum (List.map_congr_left fun value _ => powers value)

/-- The batch skewness is the third power sum over the cube of the deviation. -/
theorem calcSkewness_eq (many : 3 ≤ samples.length) (nonzero : std ≠ 0) :
    calcSkewness samples mean std =
      Moments.powerSum 3 mean samples / std ^ 3 / Nat.cast samples.length := by
  have runs : ¬(decide (samples.length < 3) || std == 0) = true := by
    rw [Bool.or_eq_true, decide_eq_true_iff, real_beq_iff, not_or]
    exact ⟨not_lt.mpr many, nonzero⟩
  have cubes : ∀ value : ℝ, (value - mean) / std * ((value - mean) / std) *
      ((value - mean) / std) = ((value - mean) / std) ^ 3 := fun value => (pow_three' _).symm
  rw [calcSkewness, if_neg runs]
  exact congrArg (· / (Nat.cast samples.length : ℝ)) (foldl_scaled mean cubes)

/-- The batch kurtosis is the fourth power sum over the square of the variance, less three. -/
theorem calcKurtosis_eq (many : 4 ≤ samples.length) (nonzero : std ≠ 0) :
    calcKurtosis samples mean std =
      Moments.powerSum 4 mean samples / std ^ 4 / Nat.cast samples.length - 3 := by
  have runs : ¬(decide (samples.length < 4) || std == 0) = true := by
    rw [Bool.or_eq_true, decide_eq_true_iff, real_beq_iff, not_or]
    exact ⟨not_lt.mpr many, nonzero⟩
  have powers : ∀ value : ℝ, (value - mean) / std * ((value - mean) / std) *
      ((value - mean) / std) * ((value - mean) / std) = ((value - mean) / std) ^ 4 := by
    intro value
    rw [← pow_three', ← pow_succ]
  rw [calcKurtosis, if_neg runs]
  exact congrArg (· / (Nat.cast samples.length : ℝ) - 3) (foldl_scaled mean powers)

theorem real_sqrt_cube {variance : ℝ} (nonneg : 0 ≤ variance) :
    (Double.sqrt variance : ℝ) ^ 3 = Double.pow variance (3 / 2) := by
  have half : ((Nat.cast 3 : ℝ) * (Nat.cast 2)⁻¹) = (2 : ℝ)⁻¹ * (3 : Nat) := by norm_num
  show Real.sqrt variance ^ 3 = variance ^ ((Nat.cast 3 : ℝ) * (Nat.cast 2)⁻¹)
  rw [half, Real.rpow_mul nonneg, Real.rpow_natCast, Real.sqrt_eq_rpow, one_div]

theorem real_sqrt_fourth {variance : ℝ} (nonneg : 0 ≤ variance) :
    (Double.sqrt variance : ℝ) ^ 4 = variance * variance := by
  show Real.sqrt variance ^ 4 = variance * variance
  rw [show 4 = 2 * 2 by rfl, pow_mul, Real.sq_sqrt nonneg, sq]

end Batch

/-- The third and fourth moments of a statistic are those of its samples: no division is by zero,
and the skewness and the kurtosis are those computed from the whole list. -/
structure HigherMoments (samples : List ℝ) (stats : RunningStats ℝ) : Prop where
  divisor_ne : ∀ count : Nat, 0 < count → count ≤ samples.length → u64 (count * count) ≠ 0
  m3_eq : stats.m3 = Moments.centralSum 3 samples
  m4_eq : stats.m4 = Moments.centralSum 4 samples
  skew_eq : 4 ≤ samples.length → Moments.sampleVariance samples ≠ 0 →
    runningStatsSkew stats = calcSkewness samples (Moments.mean samples)
      (Double.sqrt (Moments.sampleVariance samples))
  kurt_eq : 4 ≤ samples.length → Moments.sampleVariance samples ≠ 0 →
    runningStatsKurt stats = calcKurtosis samples (Moments.mean samples)
      (Double.sqrt (Moments.sampleVariance samples))

/-- Where the moments are right, so are the skewness and the kurtosis. -/
theorem higherMoments_iff {samples : List ℝ} {stats : RunningStats ℝ}
    (welford : samples.length < 2 ^ 32 → Welford samples stats) :
    HigherMoments samples stats ↔ samples.length < 2 ^ 32 ∧
      stats.m3 = Moments.centralSum 3 samples ∧ stats.m4 = Moments.centralSum 4 samples := by
  constructor
  · intro moments
    refine ⟨?_, moments.m3_eq, moments.m4_eq⟩
    by_contra long
    exact moments.divisor_ne (2 ^ 32) (by decide) (not_lt.mp long) (by decide)
  · rintro ⟨fits, m3_eq, m4_eq⟩
    have sampled := welford fits
    have nonneg := Moments.sampleVariance_nonneg samples
    have nonzero_iff : ∀ varies : Moments.sampleVariance samples ≠ 0,
        (Double.sqrt (Moments.sampleVariance samples) : ℝ) ≠ 0 := fun varies =>
      (Real.sqrt_pos.mpr (Moments.sampleVariance_pos varies)).ne'
    refine ⟨fun count positive within => ?_, m3_eq, m4_eq, fun many varies => ?_,
      fun many varies => ?_⟩
    · have small : count * count < 2 ^ 64 :=
        (Nat.mul_lt_mul'' (within.trans_lt fits) (within.trans_lt fits)).trans_eq (by norm_num)
      rw [u64_of_lt small]
      exact (Nat.mul_pos positive positive).ne'
    · have short : ¬stats.count < 3 := by
        rw [sampled.count_eq]
        omega
      rw [runningStatsSkew, if_neg short, sampled.variance_eq]
      dsimp only
      rw [if_neg (mt (real_beq_iff _ _).mp varies), m3_eq, sampled.count_eq,
        calcSkewness_eq _ (by omega) (nonzero_iff varies), real_sqrt_cube nonneg]
      exact div_right_comm _ _ _
    · have short : ¬stats.count < 4 := by
        rw [sampled.count_eq]
        omega
      rw [runningStatsKurt, if_neg short, sampled.variance_eq]
      dsimp only
      rw [if_neg (mt (real_beq_iff _ _).mp varies), m4_eq, sampled.count_eq,
        calcKurtosis_eq _ many (nonzero_iff varies), real_sqrt_fourth nonneg]
      exact congrArg (· - (3 : ℝ)) (div_right_comm _ _ _)

/-- A statistic has the third and the fourth moment of its samples exactly if what the updates
leave out cancels, and has them after every sample exactly if all samples are equal. -/
theorem runningStats_higherMoments_iff (samples : List ℝ) :
    let moments := fun seen : List ℝ =>
      HigherMoments seen (seen.foldl runningStatsUpdate runningStatsInit)
    (moments samples ↔ samples.length < 2 ^ 32 ∧
      missingSum missingThird [] samples = 0 ∧ missingSum missingFourth [] samples = 0) ∧
    ((∀ seen, seen <+: samples → moments seen) ↔ samples.length < 2 ^ 32 ∧
      ∀ first ∈ samples, ∀ second ∈ samples, first = second) := by
  intro moments
  have moments_iff : ∀ seen : List ℝ, moments seen ↔ seen.length < 2 ^ 32 ∧
      missingSum missingThird [] seen = 0 ∧ missingSum missingFourth [] seen = 0 := by
    intro seen
    refine (higherMoments_iff fun fits => foldl_runningStatsUpdate_welford seen
      (fits.trans (by norm_num))).trans (and_congr_right fun fits => ?_)
    have short := foldl_runningStatsUpdate_shortfall seen fits
    rw [short.m3_eq, short.m4_eq, sub_eq_self, sub_eq_self]
  refine ⟨moments_iff samples, ?_⟩
  simp only [moments_iff]
  constructor
  · intro always
    exact ⟨(always samples List.prefix_rfl).1,
      (missingSum_prefixes_iff samples).mp fun seen within => (always seen within).2⟩
  · rintro ⟨fits, same⟩ seen within
    exact ⟨within.length_le.trans_lt fits, (missingSum_prefixes_iff samples).mpr same seen within⟩

/-- Three zeros and a one: the third moment is 9/64 and not 3/8. -/
theorem runningStats_misses_third :
    ([0, 0, 0, 1] : List ℝ) ≠ [] ∧
      (([0, 0, 0, 1] : List ℝ).foldl runningStatsUpdate runningStatsInit).m3 ≠
        Moments.centralSum 3 ([0, 0, 0, 1] : List ℝ) := by
  refine ⟨List.cons_ne_nil _ _, ?_⟩
  have missing : missingSum missingThird [] ([0, 0, 0, 1] : List ℝ) = 15 / 64 := by
    simp only [missingSum, missingThird, Moments.mean, Moments.centralSum, Moments.powerSum,
      List.nil_append, List.cons_append, List.sum_cons, List.sum_nil, List.map_cons,
      List.map_nil, List.length_cons, List.length_nil]
    norm_num
  rw [(foldl_runningStatsUpdate_shortfall [0, 0, 0, 1] (by decide)).m3_eq, missing, ne_eq,
    sub_eq_self]
  norm_num

end TiFeatures
