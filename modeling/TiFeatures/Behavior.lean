/-
This file models `calc_behavior.cpp`: the thresholds a session is judged by and
the behaviour features derived when a flow closes.
-/

import TiFeatures.State

namespace TiFeatures

variable {D : Type} [Double D]

/-! ### Judgements -/

/-- `is_interactive_session`. -/
def isInteractiveSession (cfg : FeatureConfig) (avgResponseDelayMs : D) : Bool :=
  Double.blt avgResponseDelayMs (cfg.interactiveThresholdMs : D)

/-- `is_bulk_transfer`. -/
def isBulkTransfer (cfg : FeatureConfig) (throughputKbps : D) : Bool :=
  Double.blt (cfg.bulkTransferKbps : D) throughputKbps

/-- `is_short_connection`. -/
def isShortConnection (cfg : FeatureConfig) (durationS : D) : Bool :=
  Double.blt durationS (cfg.shortConnThresholdS : D)

/-- `calc_flow_asymmetry_ratio`. -/
def calcFlowAsymmetryRatio (fwdBytes bwdBytes : Nat) : D :=
  if bwdBytes = 0 then
    if fwdBytes = 0 then 1 else Double.infinity
  else (fwdBytes : D) / (bwdBytes : D)

/-- `get_flow_pattern`. -/
def getFlowPattern (asymmetryRatio : D) : String :=
  if Double.blt asymmetryRatio (1 / 2) then "download_heavy"
  else if Double.blt 2 asymmetryRatio then "upload_heavy"
  else if Double.ble (8 / 10) asymmetryRatio && Double.ble asymmetryRatio (5 / 4) then "balanced"
  else "asymmetric"

/-- `has_regular_intervals`. -/
def hasRegularIntervals (cv : D) : Bool := Double.blt cv (1 / 2)

/-! ### Derived features -/

/-- `flow_duration`, in seconds. -/
def flowDuration (clock : ClockState) : D :=
  ((u64Sub clock.lastPktUs clock.flowStartUs : Nat) : D) / 1000000

/-- The features of `enable_behavior_basic`. -/
def behaviorBasic (cfg : FeatureConfig) (clock : ClockState) (state : CounterState) : Output D :=
  let durationS : D := flowDuration clock
  [addNumber "flow_duration" durationS] ++
  (if Double.blt 0 durationS then
    [addNumber "avg_bitrate" ((state.totalBytes : D) * 8 / durationS),
      addNumber "avg_packet_rate" ((state.totalPackets : D) / durationS),
      addNumber "avg_throughput" ((state.totalBytes : D) / durationS / 1024),
      addNumber "is_bulk_transfer"
        (Double.ofBool (isBulkTransfer cfg ((state.totalBytes : D) / durationS / 1024))),
      addNumber "short_connection_ratio" (Double.ofBool (isShortConnection cfg durationS))]
  else [])

/-- The windows that hold a packet, with what another window array holds for them. -/
def validWindows (windowPktCounts values : List Nat) : List Nat :=
  ((windowPktCounts.zip values).filter fun window => window.1 > 0).map Prod.snd

/-- The features of `enable_behavior_pattern`. -/
def behaviorPattern (state : CounterState) (tcpPackets : Nat) (iatStats : RunningStats D)
    (windowPktCounts windowBitrate : List Nat) : Output D :=
  let asymmetry : D := calcFlowAsymmetryRatio state.fwdBytes state.bwdBytes
  let valid := validWindows windowPktCounts windowBitrate
  let other := u64Sub (u64Sub (u64Sub state.totalPackets tcpPackets) state.udpPackets)
    state.icmpPackets
  [addNumber "flow_asymmetry_ratio" asymmetry,
    addString "flow_pattern" (getFlowPattern asymmetry),
    addNumber "has_regular_intervals"
      (Double.ofBool (hasRegularIntervals (runningStatsCv iatStats)))] ++
  (if state.totalPackets > 0 then
    [addNumber "protocol_tcp_ratio" ((tcpPackets : D) / (state.totalPackets : D)),
      addNumber "protocol_udp_ratio" ((state.udpPackets : D) / (state.totalPackets : D)),
      addNumber "protocol_icmp_ratio" ((state.icmpPackets : D) / (state.totalPackets : D)),
      addNumber "protocol_other_ratio" ((other : D) / (state.totalPackets : D))]
  else []) ++
  (if valid.length > 0 then
    [addNumber "peak_bitrate" (scanMax 0 (prepareDoubleBuffer D valid))]
  else [])

/-- The bitrate part of `enable_behavior_bitrate`. -/
def instantBitrate (bitrateVals : List D) : Output D :=
  let valid := bitrateVals.length
  if valid > 0 then
    let first := bitrateVals.getD 0 0
    let mean := sumDouble bitrateVals / (valid : D)
    let std := sampleStd valid (sumSqDouble bitrateVals) mean
    let sorted := sortDouble bitrateVals
    [addNumber "instant_bitrate_mean" mean,
      addNumber "instant_bitrate_std" std,
      addNumber "instant_bitrate_min" (scanMin first bitrateVals),
      addNumber "instant_bitrate_max" (scanMax first bitrateVals),
      addNumber "instant_bitrate_median" (calcMedianDouble sorted),
      addNumber "instant_bitrate_q1" (calcQ1Double sorted),
      addNumber "instant_bitrate_q3" (calcQ3Double sorted),
      addNumber "instant_bitrate_skew" (calcSkewness bitrateVals mean std),
      addNumber "instant_bitrate_kurt" (calcKurtosis bitrateVals mean std),
      addNumber "bitrate_percentile_25" (calcPercentileDouble sorted 25),
      addNumber "bitrate_percentile_50" (calcPercentileDouble sorted 50),
      addNumber "bitrate_percentile_75" (calcPercentileDouble sorted 75),
      addNumber "bitrate_percentile_90" (calcPercentileDouble sorted 90)]
  else []

/-- The entropy part of `enable_behavior_bitrate`. -/
def trafficEntropy (windowByteCounts : List Nat) : Output D :=
  let counts := windowByteCounts.filter fun count => count > 0
  let total : D := sumUint D counts
  if counts.length > 0 && Double.blt 0 total then
    let entropies := counts.map fun count =>
      let p := (count : D) / total
      (-p) * Double.log2 p
    [addNumber "traffic_entropy_ts_mean" (sumDouble entropies / (counts.length : D)),
      addNumber "traffic_entropy_ts_peak" (scanMax 0 entropies)]
  else [addNumber "traffic_entropy_ts_mean" 0, addNumber "traffic_entropy_ts_peak" 0]

/-- The features of `enable_behavior_bitrate`. -/
def behaviorBitrate (windowPktCounts windowByteCounts windowBitrate : List Nat) : Output D :=
  instantBitrate (prepareDoubleBuffer D (validWindows windowPktCounts windowBitrate)) ++
  trafficEntropy windowByteCounts

/-- `calc_derived_behavior`. -/
def calcDerivedBehavior (cfg : FeatureConfig) (view : View D) : Output D :=
  (if cfg.enableBehaviorBasic then behaviorBasic cfg view.clock view.counters else []) ++
  (if cfg.enableBehaviorPattern then
    behaviorPattern view.counters view.tcp.tcpPackets view.iat.iatStats view.windowPktCounts
      view.windowBitrate else []) ++
  (if cfg.enableBehaviorBitrate then
    behaviorBitrate view.windowPktCounts view.windowByteCounts view.windowBitrate else [])

end TiFeatures
