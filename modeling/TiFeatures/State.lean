/-
This file models the per-flow state. The scalar fields of
`flow_feature_state_t` are grouped as its comments group them; what lives in the
memory pool is reached through accesses, one for each kind of store the
per-packet code makes, and read back as a view when the flow closes.
-/

import TiFeatures.Packet
import TiFeatures.Stats

namespace TiFeatures

/-! ### The arrays of a flow -/

/-- The circular buffers of a flow. -/
inductive SeqId where
  | pktLenSeq
  | iatSeq
  | dirSeq
  | tsSeq
  | tcpWindowSeq
  | udpLenSeq
  | ipTtlSeq
  | ipTosSeq
  | payloadSizeSeq
  | payloadSizeDiffSeq
  | l3LenSeq
  | l4LenSeq
  | payloadLenSeq
  deriving DecidableEq

/-- `elem_size` of a circular buffer. -/
def SeqId.elemSize : SeqId → Nat
  | .iatSeq | .tsSeq => 8
  | .dirSeq => 1
  | _ => 4

/-- The circular buffers in the order in which they are bound to the ring area. -/
def seqOrder : List SeqId :=
  [.pktLenSeq, .iatSeq, .dirSeq, .tsSeq, .tcpWindowSeq, .udpLenSeq, .ipTtlSeq, .ipTosSeq,
    .payloadSizeSeq, .payloadSizeDiffSeq, .l3LenSeq, .l4LenSeq, .payloadLenSeq]

/-- The arrays that hold one value per packet of one direction. -/
inductive DirArray where
  | fwdPktLens
  | bwdPktLens
  | fwdIats
  | bwdIats
  | fwdPayloadSizes
  | bwdPayloadSizes
  deriving DecidableEq

/-- One store, or group of stores, that per-packet code makes into the arrays of the flow. The
capacity checks that guard a store belong to it. -/
inductive Access (D : Type) where
  /-- `circular_buffer_push`. -/
  | push (seq : SeqId) (value : Nat)
  /-- Append to a directional array. -/
  | append (array : DirArray) (value : Nat)
  /-- Append to `first_n_lens`. -/
  | appendFirstN (pktLen : Nat)
  /-- Record a finished burst. -/
  | recordBurst (byteCount duration pktCount interval : Nat)
  /-- Append to `resp_delays`. -/
  | appendRespDelay (delay : D)
  /-- Set `window_bitrate` from `window_byte_counts`. -/
  | setWindowBitrate (window windowSizeUs : Nat)
  /-- Count a packet in its window. -/
  | countWindow (window pktLen : Nat)

/-! ### The scalar fields -/

/-- Timestamps of the flow. -/
structure ClockState where
  flowStartUs : Nat
  lastPktUs : Nat
  deriving DecidableEq

/-- Basic counters. -/
structure CounterState where
  totalPackets : Nat
  fwdPackets : Nat
  bwdPackets : Nat
  totalBytes : Nat
  fwdBytes : Nat
  bwdBytes : Nat
  fwdPayloadBytes : Nat
  bwdPayloadBytes : Nat
  udpPackets : Nat
  icmpPackets : Nat
  l2Packets : Nat
  deriving DecidableEq

/-- TCP flag counters, window and sequence tracking. -/
structure TcpState (D : Type) where
  tcpPackets : Nat
  tcpSynCount : Nat
  tcpFinCount : Nat
  tcpRstCount : Nat
  tcpPshCount : Nat
  tcpAckCount : Nat
  tcpUrgCount : Nat
  tcpSynOnlyCount : Nat
  tcpSynAckCount : Nat
  tcpAckOnlyCount : Nat
  tcpPayloadPackets : Nat
  tcpWindowUpdateCount : Nat
  tcpZeroWindowCount : Nat
  tcpRetransmissionCount : Nat
  hasLastTcpWindow : Bool
  lastTcpWindow : Nat
  lastRstTs : Nat
  rstIntervalSumUs : Nat
  rstIntervalCount : Nat
  hasLastFwdSeq : Bool
  hasLastBwdSeq : Bool
  lastFwdSeq : Nat
  lastBwdSeq : Nat
  tcpWindowStats : RunningStats D

/-- Packet length statistics. -/
structure PktLenState (D : Type) where
  smallPktCount : Nat
  largePktCount : Nat
  pktLenStats : RunningStats D
  fwdPktLen : DirectionalRunningStats D
  bwdPktLen : DirectionalRunningStats D

/-- Inter-arrival times. -/
structure IatState (D : Type) where
  lastFwdUs : Nat
  lastBwdUs : Nat
  lastArrivalUs : Nat
  activeTimeUs : Nat
  idleTimeUs : Nat
  iatStats : RunningStats D
  fwdIat : DirectionalRunningStats D
  bwdIat : DirectionalRunningStats D

/-- IP header features. -/
structure IpState (D : Type) where
  srcIp : Nat
  dstIp : Nat
  srcIpIsPrivate : Bool
  dstIpIsPrivate : Bool
  ipFragCount : Nat
  ipTtlStats : RunningStats D
  ipTosStats : RunningStats D

/-- Port features. -/
structure PortState where
  srcPort : Nat
  dstPort : Nat
  uniqueSrcPorts : Nat
  uniqueDstPorts : Nat
  wellKnownSrcCount : Nat
  wellKnownDstCount : Nat
  deriving DecidableEq

/-- Payload sizes by direction. -/
structure PayloadDirState (D : Type) where
  fwdPayloadStats : RunningStats D
  bwdPayloadStats : RunningStats D

/-- Payload contents. -/
structure PayloadState (D : Type) where
  payloadSizeStats : RunningStats D
  payloadByteStats : RunningStats D
  payloadByteHist : List Nat
  payloadByteHistFull : List Nat
  payloadTotalBytes : Nat
  payloadNonEmptyCount : Nat
  payloadPrintableCount : Nat
  payloadAlnumCount : Nat
  payloadFirstBytes : List UInt8
  payloadMod : List (RunningStats D)
  payloadEntropyStats : RunningStats D
  payloadMarkovEntropyStats : RunningStats D
  payloadCompressionRatioStats : RunningStats D
  payloadAutocorrLag1Stats : RunningStats D
  payloadSizeDiffStats : RunningStats D
  lastPayloadLen : Nat
  hasLastPayloadLen : Bool
  payloadLooksLikeHttp : Bool
  payloadLooksLikeJson : Bool
  payloadLooksLikeXml : Bool
  payloadLooksLikeTls : Bool
  payloadLooksLikeSsh : Bool

/-- Magic numbers found at the start of payloads. -/
structure MagicState where
  payloadMagicHttpGet : Bool
  payloadMagicHttpPost : Bool
  payloadMagicTls10 : Bool
  payloadMagicTls11 : Bool
  payloadMagicTls12 : Bool
  payloadMagicTls13 : Bool
  payloadMagicSsh : Bool
  payloadMagicJpeg : Bool
  payloadMagicPng : Bool
  payloadMagicGif : Bool
  deriving DecidableEq

/-- The time windows. -/
structure WindowState where
  windowSizeMs : Nat
  numWindows : Nat
  currentWindow : Nat
  windowStartUs : Nat
  deriving DecidableEq

/-- The open burst. -/
structure BurstState where
  burstStartUs : Nat
  burstByteCount : Nat
  burstPktCount : Nat
  deriving DecidableEq

/-- The request that waits for a response. -/
structure ResponseState where
  lastReqTs : Nat
  deriving DecidableEq

/-- Bigrams of packet size classes. -/
structure BigramState where
  bigramStats : BigramStats
  lastPktSizeClass : PktSizeClass
  deriving DecidableEq

/-- Lengths of derived sequences. -/
structure DerivedState where
  lastDlChunkCount : Nat
  lastUplinkRateSeqLen : Nat
  lastDownlinkRateSeqLen : Nat
  deriving DecidableEq

/-- The fields of `flow_feature_state_t` outside the memory pool. -/
structure Fields (D : Type) where
  clock : ClockState
  counters : CounterState
  tcp : TcpState D
  udpLenStats : RunningStats D
  pktLen : PktLenState D
  iat : IatState D
  ip : IpState D
  port : PortState
  payloadDir : PayloadDirState D
  payload : PayloadState D
  magic : MagicState
  window : WindowState
  burst : BurstState
  response : ResponseState
  bigram : BigramState
  derived : DerivedState

/-! ### The state after initialisation -/

/-- `pool_num_windows`. -/
def poolNumWindows : Nat := 100

/-- `pool_resp_delay_capacity`. -/
def poolRespDelayCapacity : Nat := 1000

variable {D : Type} [Double D]

/-- Directional statistics with nothing in them. -/
def directionalStatsInit : DirectionalRunningStats D := ⟨runningStatsInit, runningStatsInit⟩

def tcpStateInit : TcpState D where
  tcpPackets := 0
  tcpSynCount := 0
  tcpFinCount := 0
  tcpRstCount := 0
  tcpPshCount := 0
  tcpAckCount := 0
  tcpUrgCount := 0
  tcpSynOnlyCount := 0
  tcpSynAckCount := 0
  tcpAckOnlyCount := 0
  tcpPayloadPackets := 0
  tcpWindowUpdateCount := 0
  tcpZeroWindowCount := 0
  tcpRetransmissionCount := 0
  hasLastTcpWindow := false
  lastTcpWindow := 0
  lastRstTs := 0
  rstIntervalSumUs := 0
  rstIntervalCount := 0
  hasLastFwdSeq := false
  hasLastBwdSeq := false
  lastFwdSeq := 0
  lastBwdSeq := 0
  tcpWindowStats := runningStatsInit

def payloadStateInit : PayloadState D where
  payloadSizeStats := runningStatsInit
  payloadByteStats := runningStatsInit
  payloadByteHist := List.replicate 16 0
  payloadByteHistFull := List.replicate 256 0
  payloadTotalBytes := 0
  payloadNonEmptyCount := 0
  payloadPrintableCount := 0
  payloadAlnumCount := 0
  payloadFirstBytes := []
  payloadMod := List.replicate 8 runningStatsInit
  payloadEntropyStats := runningStatsInit
  payloadMarkovEntropyStats := runningStatsInit
  payloadCompressionRatioStats := runningStatsInit
  payloadAutocorrLag1Stats := runningStatsInit
  payloadSizeDiffStats := runningStatsInit
  lastPayloadLen := 0
  hasLastPayloadLen := false
  payloadLooksLikeHttp := false
  payloadLooksLikeJson := false
  payloadLooksLikeXml := false
  payloadLooksLikeTls := false
  payloadLooksLikeSsh := false

/-- The scalar fields after `flow_state_init`, with `flow_start_us` as the first packet sets it. -/
def fieldsInit (cfg : FeatureConfig) (tsUs : Nat) : Fields D where
  clock := ⟨tsUs, 0⟩
  counters := ⟨0, 0, 0, 0, 0, 0, 0, 0, 0, 0, 0⟩
  tcp := tcpStateInit
  udpLenStats := runningStatsInit
  pktLen := ⟨0, 0, runningStatsInit, directionalStatsInit, directionalStatsInit⟩
  iat := ⟨0, 0, 0, 0, 0, runningStatsInit, directionalStatsInit, directionalStatsInit⟩
  ip := ⟨0, 0, false, false, 0, runningStatsInit, runningStatsInit⟩
  port := ⟨0, 0, 0, 0, 0, 0⟩
  payloadDir := ⟨runningStatsInit, runningStatsInit⟩
  payload := payloadStateInit
  magic := ⟨false, false, false, false, false, false, false, false, false, false⟩
  window := ⟨cfg.windowSizeMs, poolNumWindows, 0, 0⟩
  burst := ⟨0, 0, 0⟩
  response := ⟨0⟩
  bigram := ⟨bigramInit, .small⟩
  derived := ⟨0, 0, 0⟩

/-! ### The view of a closing flow -/

/-- What the derived features read of a flow: its fields, the values `circular_buffer_get_array`
returns, the stored prefixes of the arrays, and the size of the temporary buffers. -/
structure View (D : Type) extends Fields D where
  seqs : SeqId → List Nat
  arrays : DirArray → List Nat
  firstNLens : List Nat
  burstSizes : List Nat
  burstDurations : List Nat
  burstIntervals : List Nat
  burstPacketCounts : List Nat
  respDelays : List D
  windowPktCounts : List Nat
  windowByteCounts : List Nat
  windowBitrate : List Nat
  tempUintBufferSize : Nat

/-- A JSON value of a feature. -/
inductive Json (D : Type) where
  | num (value : D)
  | str (value : String)

/-- The items of the output object, in the order in which they are added. -/
abbrev Output (D : Type) := List (String × Json D)

/-- `cJSON_AddNumberToObject`. -/
def addNumber (key : String) (value : D) : String × Json D := (key, .num value)

/-- `cJSON_AddStringToObject`. -/
def addString (key value : String) : String × Json D := (key, .str value)

/-- The keys of an output object. -/
def Output.keys (output : Output D) : List String := output.map Prod.fst

/-- The six features of a running statistic. -/
def runningStatsFeatures (name : String) (stats : RunningStats D) : Output D :=
  [addNumber (name ++ "_mean") stats.mean,
    addNumber (name ++ "_std") (runningStatsStd stats),
    addNumber (name ++ "_min") stats.minVal,
    addNumber (name ++ "_max") stats.maxVal,
    addNumber (name ++ "_skew") (runningStatsSkew stats),
    addNumber (name ++ "_kurt") (runningStatsKurt stats)]

/-- The quartiles of a sequence, if there is one. -/
def quartileFeatures (name : String) (values : List Nat) : Output D :=
  if values.length > 0 then
    let sorted := sortUint values
    [addNumber (name ++ "_median") (calcMedianUint sorted : D),
      addNumber (name ++ "_q1") (calcQ1Uint D sorted : D),
      addNumber (name ++ "_q3") (calcQ3Uint D sorted : D)]
  else []

end TiFeatures
