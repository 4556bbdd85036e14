/-
This file models `calc_iat.cpp`: inter-arrival times, active and idle time,
response delays, and the features derived from them when a flow closes.
-/

import TiFeatures.Behavior

namespace TiFeatures

variable {D : Type} [Double D]

/-! ### Per-packet updates -/

/-- `calc_active_idle_time`. -/
def calcActiveIdleTime (cfg : FeatureConfig) (state : IatState D) (iatUs : Nat) : IatState D :=
  if iatUs ≤ cfg.activeIatThresholdUs then
    { state with activeTimeUs := u64 (state.activeTimeUs + iatUs) }
  else { state with idleTimeUs := u64 (state.idleTimeUs + iatUs) }

/-- `calc_iat_update`. The first packet only sets the arrival time. -/
def calcIatUpdate (cfg : FeatureConfig) (state : IatState D) (tsUs direction : Nat) :
    IatState D × List (Access D) :=
  if state.lastArrivalUs = 0 then ({ state with lastArrivalUs := tsUs }, [])
  else
    let iat := u64Sub tsUs state.lastArrivalUs
    let fwdIat := u64Sub tsUs state.lastFwdUs
    let bwdIat := u64Sub tsUs state.lastBwdUs
    let recordFwd := cfg.needFwdBwdIats && direction = dirFwd && state.lastFwdUs > 0
    let recordBwd := cfg.needFwdBwdIats && direction = dirBwd && state.lastBwdUs > 0
    let updated := if cfg.enableIatStats then
        { state with iatStats := runningStatsUpdate state.iatStats (iat : D) }
      else state
    let updated := if recordFwd then
        { updated with
          fwdIat := { updated.fwdIat with
            fwd := runningStatsUpdate updated.fwdIat.fwd (fwdIat : D) } }
      else if recordBwd then
        { updated with
          bwdIat := { updated.bwdIat with
            bwd := runningStatsUpdate updated.bwdIat.bwd (bwdIat : D) } }
      else updated
    let updated := if cfg.enableIatActive then calcActiveIdleTime cfg updated iat else updated
    ({ updated with
      lastFwdUs := if direction = dirFwd then tsUs else updated.lastFwdUs
      lastBwdUs := if direction = dirBwd then tsUs else updated.lastBwdUs
      lastArrivalUs := tsUs },
      (if recordFwd then [.append .fwdIats fwdIat] else []) ++
      (if recordBwd then [.append .bwdIats bwdIat] else []) ++
      (if cfg.needIatSeq then [.push .iatSeq iat] else []))

/-- `calc_response_delay`. -/
def calcResponseDelay (state : ResponseState) (tsUs direction : Nat) :
    ResponseState × List (Access D) :=
  if direction = dirFwd then ({ state with lastReqTs := tsUs }, [])
  else if direction = dirBwd ∧ state.lastReqTs > 0 then
    let delayUs := u64Sub tsUs state.lastReqTs
    ({ state with lastReqTs := 0 }, [.appendRespDelay ((delayUs : D) / 1000)])
  else (state, [])

/-! ### Entropy and autocorrelation -/

/-- `calc_iat_entropy_double`. -/
def calcIatEntropyDouble (seq : List D) : D :=
  if seq.length = 0 then 0
  else
    let minV := scanMin (seq.getD 0 0) seq
    let maxV := scanMax (seq.getD 0 0) seq
    if minV == maxV then 0
    else
      let span := maxV - minV
      let bins := seq.foldl (fun bins value =>
        let idx := Double.truncate ((value - minV) / span * 31)
        let idx := if idx < 0 then 0 else if idx ≥ 32 then 31 else idx.toNat
        bins.set idx (u32 (bins.getD idx 0 + 1))) (List.replicate 32 0)
      calcShannonEntropy D bins

/-- `calc_iat_autocorr_double`. -/
def calcIatAutocorrDouble (seq : List D) (lag : Nat) : D :=
  if seq.length ≤ lag ∨ lag = 0 then 0
  else
    let mean := sumDouble seq / (seq.length : D)
    let sums := (seq.zip (seq.drop lag)).foldl (fun sums pair =>
      let d1 := pair.1 - mean
      let d2 := pair.2 - mean
      (sums.1 + d1 * d2, sums.2 + d1 * d1)) ((0, 0) : D × D)
    if Double.blt 0 sums.2 then sums.1 / sums.2 else 0

/-! ### Derived features -/

/-- `memcpy` into an array, at an element offset. -/
def memcpyAt (buffer : List D) (offset : Nat) (values : List D) : List D :=
  buffer.take offset ++ values ++ buffer.drop (offset + values.length)

/-- The statistics of the running IAT sums. -/
def iatRunningFeatures (stats : RunningStats D) : Output D :=
  [addNumber "iat_mean" stats.mean,
    addNumber "iat_std" (runningStatsStd stats),
    addNumber "iat_min" stats.minVal,
    addNumber "iat_max" stats.maxVal,
    addNumber "iat_skew" (runningStatsSkew stats),
    addNumber "iat_kurt" (runningStatsKurt stats),
    addNumber "interval_coefficient_of_variation" (runningStatsCv stats)]

/-- `interval_ratio_mean`. -/
def intervalRatioMean (tempBuf : List D) : D :=
  if tempBuf.length > 1 then
    let ratios := ((tempBuf.zip (tempBuf.drop 1)).filter fun pair => Double.blt 0 pair.1).map
      fun pair => pair.2 / pair.1
    if ratios.length > 0 then sumDouble ratios / (ratios.length : D) else 0
  else 0

/-- The keys that the sequence part of `enable_iat_stats` adds, also when the sequence is empty
or does not fit the temporary buffer. -/
def iatSequenceKeys : List String :=
  ["iat_entropy", "iat_autocorr_lag_1", "iat_autocorr_lag_2", "iat_autocorr_lag_3",
    "iat_autocorr_lag_4", "iat_autocorr_lag_5", "iat_median", "iat_q1", "iat_q3",
    "interval_ratio_mean", "iat_sequence_mean", "iat_sequence_std", "iat_sequence_min",
    "iat_sequence_max", "iat_sequence_median", "iat_sequence_q1", "iat_sequence_q3",
    "iat_sequence_skew", "iat_sequence_kurt", "log_iat_sequence_mean", "log_iat_sequence_std",
    "log_iat_sequence_min", "log_iat_sequence_max", "log_iat_sequence_median",
    "log_iat_sequence_q1", "log_iat_sequence_q3", "log_iat_sequence_skew",
    "log_iat_sequence_kurt"]

/-- The temporary area after the values, their logarithms and the sorted values have been
written to it. `temp_buf2` is `temp_buf + max_len`, where the sorting copy also goes. -/
def iatTempArea (iatSeq : List Nat) (maxLen : Nat) : List D :=
  let iatCount := iatSeq.length
  let temp : List D := List.replicate (2 * maxLen) 0
  let temp := memcpyAt temp 0 (prepareDoubleBuffer D iatSeq)
  let temp := memcpyAt temp maxLen (iatSeq.map fun value => Double.log ((value : D) + 1))
  let temp := memcpyAt temp maxLen (temp.take iatCount)
  memcpyAt temp maxLen (sortDouble ((temp.drop maxLen).take iatCount))

/-- The sequence part of `enable_iat_stats`. -/
def iatSequenceFeatures (iatSeq : List Nat) (maxLen : Nat) : Output D :=
  let iatCount := iatSeq.length
  if iatCount > 0 ∧ iatCount ≤ maxLen then
    let temp : List D := memcpyAt (iatTempArea iatSeq maxLen) 0 (prepareDoubleBuffer D iatSeq)
    let tempBuf := temp.take iatCount
    let sorted := (temp.drop maxLen).take iatCount
    let mean := sumDouble tempBuf / (iatCount : D)
    let std := sampleStd iatCount (sumSqDouble tempBuf) mean
    let tempBuf2 := (temp.drop maxLen).take iatCount
    let lmean := sumDouble tempBuf2 / (iatCount : D)
    let lstd := sampleStd iatCount (sumSqDouble tempBuf2) lmean
    let temp := memcpyAt temp maxLen (sortDouble tempBuf2)
    let logSorted := (temp.drop maxLen).take iatCount
    [addNumber "iat_entropy" (calcIatEntropyDouble tempBuf),
      addNumber "iat_autocorr_lag_1" (calcIatAutocorrDouble tempBuf 1),
      addNumber "iat_autocorr_lag_2" (calcIatAutocorrDouble tempBuf 2),
      addNumber "iat_autocorr_lag_3" (calcIatAutocorrDouble tempBuf 3),
      addNumber "iat_autocorr_lag_4" (calcIatAutocorrDouble tempBuf 4),
      addNumber "iat_autocorr_lag_5" (calcIatAutocorrDouble tempBuf 5),
      addNumber "iat_median" (calcMedianDouble sorted),
      addNumber "iat_q1" (calcQ1Double sorted),
      addNumber "iat_q3" (calcQ3Double sorted),
      addNumber "interval_ratio_mean" (intervalRatioMean tempBuf),
      addNumber "iat_sequence_mean" mean,
      addNumber "iat_sequence_std" std,
      addNumber "iat_sequence_min" (sorted.getD 0 0),
      addNumber "iat_sequence_max" (sorted.getD (iatCount - 1) 0),
      addNumber "iat_sequence_median" (calcMedianDouble sorted),
      addNumber "iat_sequence_q1" (calcQ1Double sorted),
      addNumber "iat_sequence_q3" (calcQ3Double sorted),
      addNumber "iat_sequence_skew" (calcSkewness tempBuf mean std),
      addNumber "iat_sequence_kurt" (calcKurtosis tempBuf mean std),
      addNumber "log_iat_sequence_mean" lmean,
      addNumber "log_iat_sequence_std" lstd,
      addNumber "log_iat_sequence_min" (logSorted.getD 0 0),
      addNumber "log_iat_sequence_max" (logSorted.getD (iatCount - 1) 0),
      addNumber "log_iat_sequence_median" (calcMedianDouble logSorted),
      addNumber "log_iat_sequence_q1" (calcQ1Double logSorted),
      addNumber "log_iat_sequence_q3" (calcQ3Double logSorted),
      addNumber "log_iat_sequence_skew"
        (calcSkewness ((temp.drop maxLen).take iatCount) lmean lstd),
      addNumber "log_iat_sequence_kurt"
        (calcKurtosis ((temp.drop maxLen).take iatCount) lmean lstd)]
  else iatSequenceKeys.map fun key => addNumber key 0

/-- The features of `enable_iat_stats`. -/
def iatStatsFeatures (stats : RunningStats D) (iatSeq : List Nat) (maxLen : Nat) : Output D :=
  iatRunningFeatures stats ++ iatSequenceFeatures iatSeq maxLen

/-- The IAT features of one direction. -/
def iatDirFeatures (dir : String) (stats : RunningStats D) (iats : List Nat) (maxLen : Nat) :
    Output D :=
  [addNumber (dir ++ "_iat_mean") stats.mean,
    addNumber (dir ++ "_iat_std") (runningStatsStd stats),
    addNumber (dir ++ "_iat_cv") (runningStatsCv stats),
    addNumber (dir ++ "_iat_min") stats.minVal,
    addNumber (dir ++ "_iat_max") stats.maxVal,
    addNumber (dir ++ "_iat_skew") (runningStatsSkew stats),
    addNumber (dir ++ "_iat_kurt") (runningStatsKurt stats)] ++
  (if iats.length > 0 ∧ iats.length ≤ maxLen then
    let sorted := sortDouble (prepareDoubleBuffer D iats)
    [addNumber (dir ++ "_iat_median") (calcMedianDouble sorted),
      addNumber (dir ++ "_iat_q1") (calcQ1Double sorted),
      addNumber (dir ++ "_iat_q3") (calcQ3Double sorted)]
  else [])

/-- The features of `enable_iat_fwd_bwd`. -/
def iatFwdBwdFeatures (fwdStats bwdStats : RunningStats D) (fwdIats bwdIats : List Nat)
    (maxLen : Nat) : Output D :=
  iatDirFeatures "fwd" fwdStats fwdIats maxLen ++ iatDirFeatures "bwd" bwdStats bwdIats maxLen

/-- The features of `enable_iat_active`. -/
def iatActiveFeatures (activeTimeUs idleTimeUs : Nat) : Output D :=
  let totalTime := u64 (activeTimeUs + idleTimeUs)
  [addNumber "active_time" ((activeTimeUs : D) / 1000000),
    addNumber "idle_time" ((idleTimeUs : D) / 1000000)] ++
  (if totalTime > 0 then
    [addNumber "active_time_ratio" ((activeTimeUs : D) / (totalTime : D))]
  else [])

/-- The features of `enable_iat_response`. -/
def iatResponseFeatures (cfg : FeatureConfig) (respDelays : List D) (maxLen : Nat) : Output D :=
  let count := respDelays.length
  if count > 0 ∧ count ≤ maxLen then
    let mean := sumDouble respDelays / (count : D)
    let std := sampleStd count (sumSqDouble respDelays) mean
    let sorted := sortDouble respDelays
    [addNumber "response_delay_mean" mean,
      addNumber "response_delay_min" (scanMin (respDelays.getD 0 0) respDelays),
      addNumber "response_delay_max" (scanMax 0 respDelays),
      addNumber "response_delay_std" std,
      addNumber "response_delay_median" (if count > 1 then calcMedianDouble sorted else mean),
      addNumber "response_delay_q1" (if count > 1 then calcQ1Double sorted else mean),
      addNumber "response_delay_q3" (if count > 1 then calcQ3Double sorted else mean),
      addNumber "response_delay_skew"
        (if count > 1 then calcSkewness respDelays mean std else 0),
      addNumber "response_delay_kurt"
        (if count > 1 then calcKurtosis respDelays mean std else 0),
      addNumber "is_interactive_session" (Double.ofBool (isInteractiveSession cfg mean))]
  else []

/-- `calc_derived_iat`. -/
def calcDerivedIat (cfg : FeatureConfig) (view : View D) : Output D :=
  (if cfg.enableIatStats then
    iatStatsFeatures view.iat.iatStats (view.seqs .iatSeq) view.tempUintBufferSize else []) ++
  (if cfg.enableIatFwdBwd then
    iatFwdBwdFeatures view.iat.fwdIat.fwd view.iat.bwdIat.bwd (view.arrays .fwdIats)
      (view.arrays .bwdIats) view.tempUintBufferSize else []) ++
  (if cfg.enableIatActive then
    iatActiveFeatures view.iat.activeTimeUs view.iat.idleTimeUs else []) ++
  (if cfg.enableIatResponse then
    iatResponseFeatures cfg view.respDelays view.tempUintBufferSize else [])

end TiFeatures
