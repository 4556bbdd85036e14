/-
This file models `calc_basic.cpp`: the packet and byte counters, the packet
length statistics, and the features derived from them when a flow closes.
-/

import TiFeatures.State

namespace TiFeatures

variable {D : Type} [Double D]

/-! ### Per-packet updates -/

/-- `calc_basic_counters`. -/
def calcBasicCounters (cfg : FeatureConfig) (state : CounterState) (payload : PayloadDirState D)
    (direction pktLen payloadLen : Nat) :
    CounterState × PayloadDirState D × List (Access D) :=
  let state := { state with
    totalPackets := u64 (state.totalPackets + 1)
    l2Packets := u64 (state.l2Packets + 1)
    totalBytes := u64 (state.totalBytes + pktLen) }
  if direction = dirFwd then
    let state := { state with
      fwdPackets := u64 (state.fwdPackets + 1)
      fwdBytes := u64 (state.fwdBytes + pktLen)
      fwdPayloadBytes := u64 (state.fwdPayloadBytes + payloadLen) }
    if cfg.needPayloadDir && payloadLen > 0 then
      (state,
        { payload with
          fwdPayloadStats := runningStatsUpdate payload.fwdPayloadStats (payloadLen : D) },
        [.append .fwdPayloadSizes payloadLen])
    else (state, payload, [])
  else if direction = dirBwd then
    let state := { state with
      bwdPackets := u64 (state.bwdPackets + 1)
      bwdBytes := u64 (state.bwdBytes + pktLen)
      bwdPayloadBytes := u64 (state.bwdPayloadBytes + payloadLen) }
    if cfg.needPayloadDir && payloadLen > 0 then
      (state,
        { payload with
          bwdPayloadStats := runningStatsUpdate payload.bwdPayloadStats (payloadLen : D) },
        [.append .bwdPayloadSizes payloadLen])
    else (state, payload, [])
  else (state, payload, [])

/-- `calc_packet_length_stats`. -/
def calcPacketLengthStats (cfg : FeatureConfig) (state : PktLenState D) (direction pktLen : Nat) :
    PktLenState D × List (Access D) :=
  let state := if cfg.enableBasicPktLength then
      { state with
        pktLenStats := runningStatsUpdate state.pktLenStats (pktLen : D)
        smallPktCount := if pktLen ≤ cfg.smallPktThreshold then u32 (state.smallPktCount + 1)
          else state.smallPktCount
        largePktCount := if pktLen ≥ cfg.largePktThreshold then u32 (state.largePktCount + 1)
          else state.largePktCount }
    else state
  let state := if cfg.needFwdBwdPktLens then
      { state with
        fwdPktLen := directionalStatsUpdate state.fwdPktLen direction (pktLen : D)
        bwdPktLen := directionalStatsUpdate state.bwdPktLen direction (pktLen : D) }
    else state
  (state,
    (if cfg.needPktLenSeq then [.push .pktLenSeq pktLen] else []) ++
    (if cfg.needFirstN then [.appendFirstN pktLen] else []) ++
    (if cfg.needFwdBwdPktLens then
      if direction = dirFwd then [.append .fwdPktLens pktLen]
      else if direction = dirBwd then [.append .bwdPktLens pktLen]
      else []
    else []))

/-! ### Derived features -/

/-- The features of `enable_basic_ratios`. -/
def basicRatios (state : CounterState) : Output D :=
  [addNumber "fwd_bwd_packet_ratio"
      (if state.bwdPackets > 0 then (state.fwdPackets : D) / (state.bwdPackets : D)
        else Double.infinity),
    addNumber "fwd_bwd_byte_ratio"
      (if state.bwdBytes > 0 then (state.fwdBytes : D) / (state.bwdBytes : D)
        else Double.infinity),
    addNumber "avg_packet_length"
      (if state.totalPackets > 0 then (state.totalBytes : D) / (state.totalPackets : D) else 0),
    addNumber "fwd_avg_packet_length"
      (if state.fwdPackets > 0 then (state.fwdBytes : D) / (state.fwdPackets : D) else 0),
    addNumber "bwd_avg_packet_length"
      (if state.bwdPackets > 0 then (state.bwdBytes : D) / (state.bwdPackets : D) else 0)]

/-- The payload totals of one direction. -/
def payloadDirTotals (dir : String) (payloadBytes packets : Nat) (stats : RunningStats D) :
    Output D :=
  [addNumber (dir ++ "_total_payload") (payloadBytes : D)] ++
  (if packets > 0 then
    [addNumber (dir ++ "_payload_mean") ((payloadBytes : D) / (packets : D))] else []) ++
  [addNumber (dir ++ "_payload_std") (runningStatsStd stats),
    addNumber (dir ++ "_payload_min") (if stats.count > 0 then stats.minVal else 0),
    addNumber (dir ++ "_payload_max") (if stats.count > 0 then stats.maxVal else 0)]

/-- The payload distribution of one direction, if its values fit the temporary buffer. -/
def payloadDirDistribution (dir : String) (sizes : List Nat) (stats : RunningStats D)
    (maxLen : Nat) : Output D :=
  if sizes.length > 0 ∧ sizes.length ≤ maxLen then
    let mean := stats.mean
    let std := runningStatsStd stats
    let tempBuf2 := prepareDoubleBuffer D sizes
    let sorted := sortUint sizes
    [addNumber (dir ++ "_payload_skew") (calcSkewness tempBuf2 mean std),
      addNumber (dir ++ "_payload_kurt") (calcKurtosis tempBuf2 mean std),
      addNumber (dir ++ "_payload_median") (calcMedianUint sorted : D),
      addNumber (dir ++ "_payload_q1") (calcQ1Uint D sorted : D),
      addNumber (dir ++ "_payload_q3") (calcQ3Uint D sorted : D)]
  else []

/-- The features of `enable_basic_payload_dir`. -/
def basicPayloadDir (state : CounterState) (payload : PayloadDirState D)
    (fwdPayloadSizes bwdPayloadSizes : List Nat) (maxLen : Nat) : Output D :=
  payloadDirTotals "fwd" state.fwdPayloadBytes state.fwdPackets payload.fwdPayloadStats ++
  payloadDirTotals "bwd" state.bwdPayloadBytes state.bwdPackets payload.bwdPayloadStats ++
  payloadDirDistribution "fwd" fwdPayloadSizes payload.fwdPayloadStats maxLen ++
  payloadDirDistribution "bwd" bwdPayloadSizes payload.bwdPayloadStats maxLen

/-- The features of `enable_basic_first_n`. The buffers it sorts in and converts to are the
temporary ones or fresh ones of the same size. -/
def basicFirstN (firstNLens : List Nat) : Output D :=
  if firstNLens.length > 0 then
    let count := firstNLens.length
    let values := prepareDoubleBuffer D firstNLens
    let first := values.getD 0 0
    let mean := sumUint D firstNLens / (count : D)
    let std := sampleStd count (sumSqUint D firstNLens) mean
    let sorted := sortUint firstNLens
    [addNumber "first_n_packets_length_mean" mean,
      addNumber "first_n_packets_length_min" (scanMin first values),
      addNumber "first_n_packets_length_max" (scanMax first values),
      addNumber "first_n_packets_length_std" std,
      addNumber "first_n_packets_length_median" (calcMedianUint sorted : D),
      addNumber "first_n_packets_length_q1" (calcQ1Uint D sorted : D),
      addNumber "first_n_packets_length_q3" (calcQ3Uint D sorted : D),
      addNumber "first_n_packets_length_skew"
        (if count > 1 then calcSkewness values mean std else 0),
      addNumber "first_n_packets_length_kurt"
        (if count > 1 then calcKurtosis values mean std else 0)]
  else []

/-- The packet lengths of one direction, if they fit the temporary buffer. -/
def pktLengthDistribution (dir : String) (pktLens : List Nat) (stats : RunningStats D)
    (maxLen : Nat) : Output D :=
  if pktLens.length > 0 ∧ pktLens.length ≤ maxLen then
    let count := pktLens.length
    let sorted := sortUint pktLens
    let mean := sumUint D pktLens / (count : D)
    let std := sampleStd count (sumSqUint D pktLens) mean
    let tempBuf2 := prepareDoubleBuffer D pktLens
    [addNumber (dir ++ "_packet_length_mean") mean,
      addNumber (dir ++ "_packet_length_std") std,
      addNumber (dir ++ "_packet_length_min") stats.minVal,
      addNumber (dir ++ "_packet_length_max") stats.maxVal,
      addNumber (dir ++ "_packet_length_median") (calcMedianUint sorted : D),
      addNumber (dir ++ "_packet_length_q1") (calcQ1Uint D sorted : D),
      addNumber (dir ++ "_packet_length_q3") (calcQ3Uint D sorted : D),
      addNumber (dir ++ "_packet_length_cv") (calcCv mean std),
      addNumber (dir ++ "_packet_length_skew") (calcSkewness tempBuf2 mean std),
      addNumber (dir ++ "_packet_length_kurt") (calcKurtosis tempBuf2 mean std)]
  else []

/-- The features of `enable_basic_pkt_length`. -/
def basicPktLength (totalPackets : Nat) (state : PktLenState D) (fwdPktLens bwdPktLens : List Nat)
    (maxLen : Nat) : Output D :=
  let pktCount := u32 totalPackets
  [addNumber "small_packet_ratio"
      (if pktCount > 0 then (state.smallPktCount : D) / (pktCount : D) else 0),
    addNumber "large_packet_ratio"
      (if pktCount > 0 then (state.largePktCount : D) / (pktCount : D) else 0)] ++
  pktLengthDistribution "fwd" fwdPktLens state.fwdPktLen.fwd maxLen ++
  pktLengthDistribution "bwd" bwdPktLens state.bwdPktLen.bwd maxLen

/-- `calc_derived_basic`. -/
def calcDerivedBasic (cfg : FeatureConfig) (view : View D) : Output D :=
  (if cfg.enableBasicRatios then basicRatios view.counters else []) ++
  (if cfg.enableBasicPayloadDir then
    basicPayloadDir view.counters view.payloadDir (view.arrays .fwdPayloadSizes)
      (view.arrays .bwdPayloadSizes) view.tempUintBufferSize else []) ++
  (if cfg.enableBasicFirstN then basicFirstN view.firstNLens else []) ++
  (if cfg.enableBasicPktLength then
    basicPktLength view.counters.totalPackets view.pktLen (view.arrays .fwdPktLens)
      (view.arrays .bwdPktLens) view.tempUintBufferSize else [])

end TiFeatures
