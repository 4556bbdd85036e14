/-
This file settles where the burst statistics divide by zero. The functions are written
again with every division and every root checked; over the states a flow can reach the
checks all pass unless the flow has recorded exactly two bursts, as the one interval
between them has no sample variance.
-/

import TiFeatures.BurstTimes
import TiFeatures.Squares

namespace TiFeatures

/-! ### Checked arithmetic -/

section Checked

variable {D : Type} [Double D]

/-- A division that is made only if the divisor is not zero. -/
def checkedDiv (dividend divisor : D) : Option D :=
  if divisor == 0 then none else some (dividend / divisor)

/-- A root that is taken only of a number that is not negative. -/
def checkedSqrt (radicand : D) : Option D :=
  if Double.blt radicand 0 then none else some (Double.sqrt radicand)

/-- `calc_burstiness_index` with its three divisions and its root checked. -/
def checkedBurstinessIndex (burstCount : Nat) (burstIntervals : List Nat) : Option D :=
  if burstCount < 2 then some 0
  else do
    let intervals := prepareDoubleBuffer D burstIntervals
    let n : D := ((burstCount - 1 : Nat) : D)
    let mean ← checkedDiv (sumDouble intervals) n
    let variance ← checkedDiv (sumSqDouble intervals - n * mean * mean) (n - 1)
    let std ← checkedSqrt variance
    if Double.blt 0 mean then checkedDiv std mean else some 0

/-- The packet rates with the division by the duration checked. -/
def checkedPacketRates (durations packetCounts : List Nat) : Option (List D) :=
  ((durations.zip packetCounts).filter fun burst => burst.1 > 0).mapM fun burst =>
    checkedDiv ((burst.2 : D) * 1000000) (burst.1 : D)

/-- `size_std` with its division and its root checked. -/
def checkedSampleStd (count : Nat) (sumSq mean : D) : Option D :=
  if count > 1 then do
    let variance ← checkedDiv (sumSq - (count : D) * mean * mean) ((count - 1 : Nat) : D)
    checkedSqrt variance
  else some 0

/-- `burst_interval_mean` with its two divisions checked. -/
def checkedIntervalMean (burstCount : Nat) (intervals : List Nat) : Option D :=
  if burstCount > 1 then do
    let mean ← checkedDiv (sumUint D intervals) ((burstCount - 1 : Nat) : D)
    checkedDiv mean 1000000
  else some 0

/-- `calc_burst_statistics` with every division and every root checked. -/
def checkedBurstStatistics (sizes durations intervals packetCounts : List Nat) :
    Option (Output D) :=
  let burstCount := sizes.length
  if burstCount = 0 then
    some [addNumber "burst_count" (burstCount : D),
      addNumber "avg_burst_duration" 0,
      addNumber "avg_burst_size" 0,
      addNumber "burst_size_std" 0,
      addNumber "burst_interval_mean" 0,
      addNumber "burst_packet_count_mean" 0,
      addNumber "burst_packet_rate_peak" 0,
      addNumber "burstiness_index" 0]
  else do
    let totalSizeSq := sumSqDouble (prepareDoubleBuffer D sizes)
    let rates ← checkedPacketRates durations packetCounts
    let avgSize ← checkedDiv (sumUint D sizes) (burstCount : D)
    let avgDurationUs ← checkedDiv (sumUint D durations) (burstCount : D)
    let avgDuration ← checkedDiv avgDurationUs 1000000
    let avgPktCount ← checkedDiv (sumUint D packetCounts) (burstCount : D)
    let sizeStd ← checkedSampleStd burstCount totalSizeSq avgSize
    let intervalMean ← checkedIntervalMean burstCount intervals
    let index ← checkedBurstinessIndex burstCount intervals
    return [addNumber "burst_count" (burstCount : D),
      addNumber "avg_burst_size" avgSize,
      addNumber "avg_burst_duration" avgDuration,
      addNumber "burst_packet_count_mean" avgPktCount,
      addNumber "burst_packet_rate_peak" (scanMax 0 rates),
      addNumber "burst_size_std" sizeStd,
      addNumber "burst_interval_mean" intervalMean,
      addNumber "burstiness_index" index]

/-- Both functions that compute the burst statistics pass every check, and so they compute what
they compute without the checks. -/
structure FlowFeatureState.BurstArithmeticSafe (state : FlowFeatureState D) : Prop where
  statistics_eq : checkedBurstStatistics (D := D) state.view.burstSizes state.view.burstDurations
      state.view.burstIntervals state.view.burstPacketCounts =
    some (calcBurstStatistics state.view.burstSizes state.view.burstDurations
      state.view.burstIntervals state.view.burstPacketCounts)
  index_eq : checkedBurstinessIndex (D := D) state.view.burstSizes.length
      state.view.burstIntervals =
    some (calcBurstinessIndex state.view.burstSizes.length state.view.burstIntervals)

end Checked

/-! ### Exact arithmetic -/

theorem real_checkedDiv {dividend divisor : ℝ} (nonzero : divisor ≠ 0) :
    checkedDiv dividend divisor = some (dividend / divisor) :=
  if_neg (mt (real_beq_iff _ _).mp nonzero)

theorem real_checkedDiv_zero (dividend : ℝ) : checkedDiv dividend 0 = none :=
  if_pos ((real_beq_iff _ _).mpr rfl)

theorem real_checkedSqrt {radicand : ℝ} (nonneg : 0 ≤ radicand) :
    checkedSqrt radicand = some (Double.sqrt radicand) :=
  if_neg (mt (real_blt_iff _ _).mp nonneg.not_gt)

theorem checkedDiv_bind {Result : Type} {dividend divisor : ℝ} (nonzero : divisor ≠ 0)
    (next : ℝ → Option Result) :
    (checkedDiv dividend divisor).bind next = next (dividend / divisor) := by
  rw [real_checkedDiv nonzero, Option.bind_some]

theorem real_cast_pred_ne_zero {count : Nat} (many : count > 1) :
    (Nat.cast (count - 1) : ℝ) ≠ 0 :=
  Nat.cast_ne_zero.mpr (Nat.sub_ne_zero_of_lt many)

/-- The rates divide by durations that are not zero. -/
theorem real_checkedPacketRates (durations packetCounts : List Nat) :
    checkedPacketRates durations packetCounts =
      some (burstPacketRates durations packetCounts : List ℝ) := by
  have positive : ∀ burst ∈ (durations.zip packetCounts).filter fun burst => burst.1 > 0,
      0 < burst.1 := fun burst member => of_decide_eq_true (List.mem_filter.mp member).2
  rw [checkedPacketRates, burstPacketRates]
  generalize (durations.zip packetCounts).filter _ = bursts at positive
  induction bursts with
  | nil => rfl
  | cons burst bursts inductionHypothesis =>
    obtain ⟨first, others⟩ := List.forall_mem_cons.mp positive
    have nonzero : (Nat.cast burst.1 : ℝ) ≠ 0 := Nat.cast_ne_zero.mpr first.ne'
    rw [List.mapM_cons, inductionHypothesis others, List.map_cons]
    exact checkedDiv_bind nonzero _

/-- The sum of the squared distances, as the code computes it. -/
theorem real_sumSq_sub (values : List Nat) :
    sumSqDouble (prepareDoubleBuffer ℝ values) -
        Nat.cast values.length * (sumUint ℝ values / Nat.cast values.length) *
          (sumUint ℝ values / Nat.cast values.length) =
      Moments.centralSum 2 (values.map (Nat.cast : Nat → ℝ)) := by
  rw [Moments.centralSum_two_eq, prepareDoubleBuffer_eq, real_sumSqDouble, Moments.mean,
    List.length_map, real_sumUint, Nat.cast_list_sum]

/-- The root of a variance is taken of a number that is not negative. -/
theorem real_variance_nonneg (values : List Nat) {divisor : ℝ} (nonneg : 0 ≤ divisor) :
    0 ≤ (sumSqDouble (prepareDoubleBuffer ℝ values) -
      Nat.cast values.length * (sumUint ℝ values / Nat.cast values.length) *
        (sumUint ℝ values / Nat.cast values.length)) / divisor := by
  rw [real_sumSq_sub]
  exact div_nonneg (Moments.powerSum_two_nonneg _ _) nonneg

/-- The deviation of the sizes divides by one less than a count above one. -/
theorem real_checkedSampleStd (values : List Nat) :
    checkedSampleStd values.length (sumSqDouble (prepareDoubleBuffer ℝ values))
        (sumUint ℝ values / Nat.cast values.length) =
      some (sampleStd values.length (sumSqDouble (prepareDoubleBuffer ℝ values))
        (sumUint ℝ values / Nat.cast values.length)) := by
  rw [checkedSampleStd, sampleStd]
  by_cases many : values.length > 1
  · rw [if_pos many, if_pos many]
    exact (checkedDiv_bind (real_cast_pred_ne_zero many) _).trans
      (real_checkedSqrt (real_variance_nonneg values (Nat.cast_nonneg _)))
  · rw [if_neg many, if_neg many]

theorem real_checkedIntervalMean (burstCount : Nat) (intervals : List Nat) :
    checkedIntervalMean burstCount intervals =
      some (if burstCount > 1 then
        sumUint ℝ intervals / (Nat.cast (burstCount - 1) : ℝ) / 1000000 else 0) := by
  rw [checkedIntervalMean]
  by_cases many : burstCount > 1
  · rw [if_pos many, if_pos many]
    exact (checkedDiv_bind (real_cast_pred_ne_zero many) _).trans (real_checkedDiv (by norm_num))
  · rw [if_neg many, if_neg many]

/-- With two recorded bursts the sample variance of one interval divides by zero. -/
theorem real_checkedBurstinessIndex_two (intervals : List Nat) :
    checkedBurstinessIndex (D := ℝ) 2 intervals = none := by
  rw [checkedBurstinessIndex, if_neg (Nat.lt_irrefl 2)]
  have one : (Nat.cast (2 - 1) : ℝ) ≠ 0 := by norm_num
  have less : (Nat.cast (2 - 1) : ℝ) - 1 = 0 := by norm_num
  refine (checkedDiv_bind one _).trans ?_
  rw [less, real_checkedDiv_zero]
  rfl

/-- With any other number of bursts the index passes every check. -/
theorem real_checkedBurstinessIndex {burstCount : Nat} {intervals : List Nat}
    (length_eq : intervals.length = burstCount - 1) (other : burstCount ≠ 2) :
    checkedBurstinessIndex (D := ℝ) burstCount intervals =
      some (calcBurstinessIndex burstCount intervals) := by
  rw [checkedBurstinessIndex, calcBurstinessIndex]
  by_cases few : burstCount < 2
  · rw [if_pos few, if_pos few]
  · rw [if_neg few, if_neg few]
    have nonzero := real_cast_pred_ne_zero (Nat.not_lt.mp few)
    have less_eq : (Nat.cast (burstCount - 1) : ℝ) - 1 = Nat.cast (burstCount - 2) := by
      rw [show burstCount - 1 = (burstCount - 2) + 1 by omega, Nat.cast_succ,
        add_sub_cancel_right]
    have less_ne : (Nat.cast (burstCount - 1) : ℝ) - 1 ≠ 0 :=
      less_eq ▸ Nat.cast_ne_zero.mpr (by omega)
    have less_nonneg : 0 ≤ (Nat.cast (burstCount - 1) : ℝ) - 1 := less_eq ▸ Nat.cast_nonneg _
    have nonneg := real_variance_nonneg intervals less_nonneg
    rw [length_eq] at nonneg
    dsimp only [bind]
    rw [checkedDiv_bind nonzero, checkedDiv_bind less_ne, sumDouble_prepareDoubleBuffer,
      real_checkedSqrt nonneg, Option.bind_some]
    split_ifs with positive
    · exact real_checkedDiv ((real_blt_iff _ _).mp positive).ne'
    · rfl

/-- With any number of bursts but two the statistics pass every check. -/
theorem real_checkedBurstStatistics (sizes durations packetCounts : List Nat)
    {intervals : List Nat} (length_eq : intervals.length = sizes.length - 1)
    (other : sizes.length ≠ 2) :
    checkedBurstStatistics (D := ℝ) sizes durations intervals packetCounts =
      some (calcBurstStatistics sizes durations intervals packetCounts) := by
  simp only [checkedBurstStatistics, calcBurstStatistics]
  by_cases none : sizes.length = 0
  · rw [if_pos none, if_pos none]
  · rw [if_neg none, if_neg none]
    have nonzero : (Nat.cast sizes.length : ℝ) ≠ 0 := Nat.cast_ne_zero.mpr none
    have million : (1000000 : ℝ) ≠ 0 := by norm_num
    simp only [bind, real_checkedPacketRates, real_checkedDiv nonzero, real_checkedDiv million,
      Option.bind_some, real_checkedSampleStd, real_checkedIntervalMean,
      real_checkedBurstinessIndex length_eq other]
    rfl

/-- With two recorded bursts a check fails. -/
theorem real_checkedBurstStatistics_two (durations intervals packetCounts : List Nat)
    {sizes : List Nat} (two : sizes.length = 2) :
    checkedBurstStatistics (D := ℝ) sizes durations intervals packetCounts = none := by
  have nonzero : (Nat.cast 2 : ℝ) ≠ 0 := by norm_num
  have million : (1000000 : ℝ) ≠ 0 := by norm_num
  have sizeStd := real_checkedSampleStd sizes
  simp only [two] at sizeStd
  simp only [checkedBurstStatistics, two, OfNat.ofNat_ne_zero, if_false]
  simp only [bind, real_checkedPacketRates, real_checkedDiv nonzero, real_checkedDiv million,
    Option.bind_some, sizeStd, real_checkedIntervalMean, real_checkedBurstinessIndex_two]
  rfl

/-! ### The states of a flow -/

/-- In a flow no burst statistic divides by zero or takes the root of a negative number exactly if
the number of recorded bursts is not two. -/
theorem FlowFeatureState.burstArithmeticSafe_iff (state : FlowFeatureState ℝ) :
    state.BurstArithmeticSafe ↔ state.store.burstCount ≠ 2 := by
  have sizes_length : state.view.burstSizes.length = state.store.burstCount :=
    state.store.length_values _ _
  have intervals_length : state.view.burstIntervals.length = state.store.burstCount - 1 :=
    state.store.length_values _ _
  rw [← sizes_length] at intervals_length ⊢
  constructor
  · intro safe two
    have failed := real_checkedBurstStatistics_two state.view.burstDurations
      state.view.burstIntervals state.view.burstPacketCounts two
    rw [safe.statistics_eq] at failed
    cases failed
  · intro other
    exact ⟨real_checkedBurstStatistics _ _ _ intervals_length other,
      real_checkedBurstinessIndex intervals_length other⟩

section Flows

variable (cfg : FeatureConfig) (platform : Platform ℝ)

/-- Whatever packets arrive and whichever allocations fail, the burst statistics are safe exactly
in the states with other than two recorded bursts. -/
theorem reachable_burstArithmeticSafe_iff : ∀ state, Reachable cfg platform state →
    (state.BurstArithmeticSafe ↔ state.store.burstCount ≠ 2) :=
  fun state _ => state.burstArithmeticSafe_iff

variable {cfg platform} in
theorem Reachable.three_lt_actualSeqLen {state : FlowFeatureState ℝ}
    (reachable : Reachable cfg platform state) : 3 < state.store.memPool.actualSeqLen := by
  rw [reachable.wellFormed.store.pool.seqLen_eq]
  cases state.store.memPool.level <;> decide

variable (streamType : StreamType) (first : RawPacket) (rest : List RawPacket)

/-- A flow whose packets are in order records as many bursts as it has broken runs that count
more than one packet, up to the capacity of its arrays. -/
theorem flowRun_burstCount (collected : cfg.enableBurst = true)
    (positive : ∀ info ∈ packetInfos cfg streamType (first :: rest), 0 < info.tsUs)
    (ordered : ((packetInfos cfg streamType (first :: rest)).map PacketInfo.tsUs).Pairwise
      (· ≤ ·)) :
    ∃ state, flowRun cfg platform streamType (allocated (first :: rest)) = some state ∧
      state.store.burstCount = min state.store.memPool.actualSeqLen
        (recordedRuns (brokenRuns 0 (packetRuns cfg.burstIatThresholdUs
          (packetInfos cfg streamType (first :: rest))))).length := by
  obtain ⟨state, run, bursts⟩ := flowRun_bursts cfg platform streamType first rest collected
    positive ordered
  refine ⟨state, run, ?_⟩
  have lengths := congrArg List.length bursts.sizes_eq
  rw [List.length_map, List.length_map, keptRuns, List.length_take] at lengths
  exact (state.store.length_values _ _).symm.trans lengths

/-- The statistics of a flow whose packets are in order are safe exactly if it does not record
two bursts. -/
theorem flowRun_burstArithmeticSafe_iff (collected : cfg.enableBurst = true)
    (positive : ∀ info ∈ packetInfos cfg streamType (first :: rest), 0 < info.tsUs)
    (ordered : ((packetInfos cfg streamType (first :: rest)).map PacketInfo.tsUs).Pairwise
      (· ≤ ·)) :
    ∃ state, flowRun cfg platform streamType (allocated (first :: rest)) = some state ∧
      (state.BurstArithmeticSafe ↔
        (recordedRuns (brokenRuns 0 (packetRuns cfg.burstIatThresholdUs
          (packetInfos cfg streamType (first :: rest))))).length ≠ 2) := by
  obtain ⟨state, run, count_eq⟩ := flowRun_burstCount cfg platform streamType first rest collected
    positive ordered
  refine ⟨state, run, ?_⟩
  have room := (flowRun_reachable run).three_lt_actualSeqLen
  rw [state.burstArithmeticSafe_iff, count_eq]
  omega

end Flows

/-- Two recorded bursts have one interval, and its sample variance divides by zero. -/
theorem burstArithmetic_two : ∃ state : FlowFeatureState ℝ,
    flowRun defaultConfig (barePlatform ℝ) .tcp (allocated (twoBursts 20000)) = some state ∧
      checkedBurstinessIndex (D := ℝ) 2 state.view.burstIntervals = none ∧
      ¬ state.BurstArithmeticSafe := by
  obtain ⟨state, run, safe_iff⟩ := flowRun_burstArithmeticSafe_iff defaultConfig (barePlatform ℝ)
    .tcp (barePacket 1 1 100) (twoBursts 20000).tail rfl (by decide) (by decide)
  refine ⟨state, run, real_checkedBurstinessIndex_two _, fun safe => ?_⟩
  exact safe_iff.mp safe (by decide)

/-- Three recorded bursts have two intervals. -/
theorem reachable_burstArithmeticSafe_three : ∃ state : FlowFeatureState ℝ,
    flowRun defaultConfig (barePlatform ℝ) .tcp
        (allocated (twoBursts 20000 ++ [barePacket 20001 1 100, barePacket 30000 1 100])) =
          some state ∧
      state.store.burstCount = 3 ∧ state.BurstArithmeticSafe := by
  obtain ⟨state, run, count_eq⟩ := flowRun_burstCount defaultConfig (barePlatform ℝ) .tcp
    (barePacket 1 1 100)
    ((twoBursts 20000).tail ++ [barePacket 20001 1 100, barePacket 30000 1 100]) rfl (by decide)
    (by decide)
  have room := (flowRun_reachable run).three_lt_actualSeqLen
  have three : state.store.burstCount = 3 := by
    rw [count_eq, Nat.min_eq_right]
    · decide
    · exact le_of_eq_of_le (by decide) room.le
  refine ⟨state, run, three, ?_⟩
  exact (reachable_burstArithmeticSafe_iff defaultConfig (barePlatform ℝ) state
    (flowRun_reachable run)).mpr (by rw [three]; decide)

end TiFeatures
