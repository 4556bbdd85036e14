/-
This file models `calc_burst.cpp` and `calc_window.cpp`: bursts of packets and
fixed time windows, and the features derived from them when a flow closes.
-/

import TiFeatures.State

namespace TiFeatures

variable {D : Type} [Double D]

/-! ### Bursts -/

/-- `calc_burst_update`. -/
def calcBurstUpdate (cfg : FeatureConfig) (state : BurstState) (pktLen iatUs tsUs : Nat) :
    BurstState × List (Access D) :=
  if iatUs ≤ cfg.burstIatThresholdUs then
    ({ state with
      burstByteCount := u32 (state.burstByteCount + pktLen)
      burstPktCount := u32 (state.burstPktCount + 1) }, [])
  else
    ({ burstStartUs := tsUs, burstByteCount := pktLen, burstPktCount := 1 },
      if state.burstPktCount > 1 then
        [.recordBurst state.burstByteCount (u64Sub tsUs state.burstStartUs) state.burstPktCount
          iatUs]
      else [])

/-- `calc_burstiness_index`, of the intervals between the recorded bursts. -/
def calcBurstinessIndex (burstCount : Nat) (burstIntervals : List Nat) : D :=
  if burstCount < 2 then 0
  else
    let intervals := prepareDoubleBuffer D burstIntervals
    let n : D := ((burstCount - 1 : Nat) : D)
    let mean := sumDouble intervals / n
    let variance := (sumSqDouble intervals - n * mean * mean) / (n - 1)
    let std := Double.sqrt variance
    if Double.blt 0 mean then std / mean else 0

/-- The packet rates of the recorded bursts that have a duration. -/
def burstPacketRates (durations packetCounts : List Nat) : List D :=
  ((durations.zip packetCounts).filter fun burst => burst.1 > 0).map fun burst =>
    (burst.2 : D) * 1000000 / (burst.1 : D)

/-- `calc_burst_statistics`. -/
def calcBurstStatistics (sizes durations intervals packetCounts : List Nat) : Output D :=
  let burstCount := sizes.length
  if burstCount = 0 then
    [addNumber "burst_count" (burstCount : D),
      addNumber "avg_burst_duration" 0,
      addNumber "avg_burst_size" 0,
      addNumber "burst_size_std" 0,
      addNumber "burst_interval_mean" 0,
      addNumber "burst_packet_count_mean" 0,
      addNumber "burst_packet_rate_peak" 0,
      addNumber "burstiness_index" 0]
  else
    let avgSize := sumUint D sizes / (burstCount : D)
    let totalSizeSq := sumSqDouble (prepareDoubleBuffer D sizes)
    let rates : List D := burstPacketRates durations packetCounts
    [addNumber "burst_count" (burstCount : D),
      addNumber "avg_burst_size" avgSize,
      addNumber "avg_burst_duration" (sumUint D durations / (burstCount : D) / 1000000),
      addNumber "burst_packet_count_mean" (sumUint D packetCounts / (burstCount : D)),
      addNumber "burst_packet_rate_peak" (scanMax 0 rates),
      addNumber "burst_size_std" (sampleStd burstCount totalSizeSq avgSize),
      addNumber "burst_interval_mean"
        (if burstCount > 1 then
          sumUint D intervals / ((burstCount - 1 : Nat) : D) / 1000000 else 0),
      addNumber "burstiness_index" (calcBurstinessIndex burstCount intervals)]

/-! ### Time windows -/

/-- The loop of `calc_window_update` that finishes the windows up to the one a packet falls in:
the index it leaves in `current_window` and the windows whose bitrate it set. -/
def finishWindows (windowSizeUs targetWindow numWindows current : Nat) :
    Nat × List (Access D) :=
  if current ≤ targetWindow ∧ current < numWindows then
    let rest := finishWindows windowSizeUs targetWindow numWindows (current + 1)
    (rest.1, .setWindowBitrate current windowSizeUs :: rest.2)
  else (current, [])
  termination_by numWindows - current

/-- The time at which the windows of a flow start. -/
def WindowState.started (state : WindowState) (tsUs : Nat) : WindowState :=
  if state.windowStartUs = 0 then { state with windowStartUs := tsUs, currentWindow := 0 }
  else state

/-- `calc_window_update`. -/
def calcWindowUpdate (state : WindowState) (pktLen tsUs : Nat) :
    WindowState × List (Access D) :=
  if state.windowSizeMs = 0 then (state, [])
  else
    let windowSizeUs := state.windowSizeMs * 1000
    let started := state.started tsUs
    let elapsed := u64Sub tsUs started.windowStartUs
    let targetWindow := u32 (elapsed / windowSizeUs)
    let finished := finishWindows (D := D) windowSizeUs targetWindow started.numWindows
      started.currentWindow
    ({ started with currentWindow := finished.1 },
      finished.2 ++
      if targetWindow < started.numWindows then [.countWindow targetWindow pktLen] else [])

/-- The statistics of one window array over the windows that hold a packet. The array sorted and
converted has one place for each of these windows; a place the copy loop leaves out keeps what
`malloc` put there. -/
def windowCounts (platform : Platform D) (name : String) (validWindows : Nat)
    (counts : List Nat) : Output D :=
  let copied := counts.filter fun count => count > 0
  let mean := sumUint D copied / (validWindows : D)
  let std := sampleStd validWindows (sumSqUint D copied) mean
  let array := (List.range validWindows).map fun index =>
    copied.getD index (platform.malloced index)
  let sorted := sortUint array
  let doubleArr := prepareDoubleBuffer D array
  [addNumber (name ++ "_mean") mean,
    addNumber (name ++ "_std") std,
    addNumber (name ++ "_min") ((copied.foldl min (counts.getD 0 0) : Nat) : D),
    addNumber (name ++ "_max") ((copied.foldl max 0 : Nat) : D),
    addNumber (name ++ "_median") (calcMedianUint sorted : D),
    addNumber (name ++ "_q1") (calcQ1Uint D sorted : D),
    addNumber (name ++ "_q3") (calcQ3Uint D sorted : D),
    addNumber (name ++ "_skew") (calcSkewness doubleArr mean std),
    addNumber (name ++ "_kurt") (calcKurtosis doubleArr mean std)]

/-- The number of windows that hold a packet. -/
def countValidWindows (windowPktCounts : List Nat) : Nat :=
  (windowPktCounts.filter fun count => count > 0).length

/-- The features of `enable_window_pkt`. -/
def windowPkt (platform : Platform D) (windowPktCounts : List Nat) : Output D :=
  windowCounts platform "window_packet_count" (countValidWindows windowPktCounts) windowPktCounts

/-- The features of `enable_window_byte`. -/
def windowByte (platform : Platform D) (windowPktCounts windowByteCounts : List Nat) : Output D :=
  windowCounts platform "window_byte_count" (countValidWindows windowPktCounts) windowByteCounts

/-- `calc_derived_window`. -/
def calcDerivedWindow (cfg : FeatureConfig) (platform : Platform D) (view : View D) : Output D :=
  if countValidWindows view.windowPktCounts = 0 then []
  else
    (if cfg.enableWindowPkt then windowPkt platform view.windowPktCounts else []) ++
    (if cfg.enableWindowByte then
      windowByte platform view.windowPktCounts view.windowByteCounts else [])

end TiFeatures
