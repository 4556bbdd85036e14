/-
This file names the feature groups that the switches turn on and off. The object
written when a flow closes is made of the flow's identification, the features of
the groups that are on, in a fixed order, and the basic information of the flow.
-/

import TiFeatures.Traffic

namespace TiFeatures

variable {D : Type} [Double D]

/-! ### The groups -/

/-- The feature groups, each with a switch of its own. -/
inductive Group where
  | basicRatios
  | basicPayloadDir
  | basicFirstN
  | basicPktLength
  | iatStats
  | iatFwdBwd
  | iatActive
  | iatResponse
  | burst
  | protocolTcpFlags
  | protocolTcpWindow
  | protocolIp
  | protocolUdp
  | protocolPort
  | payloadSize
  | payloadContent
  | payloadHist
  | payloadMagic
  | payloadStats
  | sequenceStats
  | rawSequences
  | chunkSequences
  | rateSequences
  | fftGlobal
  | fftFwd
  | fftBwd
  | windowPkt
  | windowByte
  | behaviorBasic
  | behaviorPattern
  | behaviorBitrate
  deriving DecidableEq

/-- The groups in the order in which their features are added. -/
def groupOrder : List Group :=
  [.basicRatios, .basicPayloadDir, .basicFirstN, .basicPktLength,
    .iatStats, .iatFwdBwd, .iatActive, .iatResponse,
    .burst,
    .protocolTcpFlags, .protocolTcpWindow, .protocolIp, .protocolUdp, .protocolPort,
    .payloadSize, .payloadContent, .payloadHist, .payloadMagic, .payloadStats,
    .sequenceStats, .rawSequences, .chunkSequences, .rateSequences,
    .fftGlobal, .fftFwd, .fftBwd,
    .windowPkt, .windowByte,
    .behaviorBasic, .behaviorPattern, .behaviorBitrate]

/-- A group is on: its switch and, if it has one, its master switch. -/
def Group.on (switches : Switches) : Group → Bool
  | .basicRatios => switches.enableBasic && switches.enableBasicRatios
  | .basicPayloadDir => switches.enableBasic && switches.enableBasicPayloadDir
  | .basicFirstN => switches.enableBasic && switches.enableBasicFirstN
  | .basicPktLength => switches.enableBasic && switches.enableBasicPktLength
  | .iatStats => switches.enableIat && switches.enableIatStats
  | .iatFwdBwd => switches.enableIat && switches.enableIatFwdBwd
  | .iatActive => switches.enableIat && switches.enableIatActive
  | .iatResponse => switches.enableIat && switches.enableIatResponse
  | .burst => switches.enableBurst
  | .protocolTcpFlags => switches.enableProtocol && switches.enableProtocolTcpFlags
  | .protocolTcpWindow => switches.enableProtocol && switches.enableProtocolTcpWindow
  | .protocolIp => switches.enableProtocol && switches.enableProtocolIp
  | .protocolUdp => switches.enableProtocol && switches.enableProtocolUdp
  | .protocolPort => switches.enableProtocol && switches.enableProtocolPort
  | .payloadSize => switches.enablePayload && switches.enablePayloadSize
  | .payloadContent => switches.enablePayload && switches.enablePayloadContent
  | .payloadHist => switches.enablePayload && switches.enablePayloadHist
  | .payloadMagic => switches.enablePayload && switches.enablePayloadMagic
  | .payloadStats => switches.enablePayload && switches.enablePayloadStats
  | .sequenceStats => switches.enableSequence && switches.enableSequenceStats
  | .rawSequences => switches.enableSequence && switches.enableRawSequences
  | .chunkSequences => switches.enableSequence && switches.enableChunkSequences
  | .rateSequences => switches.enableSequence && switches.enableRateSequences
  | .fftGlobal => switches.enableFft && switches.enableFftGlobal
  | .fftFwd => switches.enableFft && switches.enableFftFwd
  | .fftBwd => switches.enableFft && switches.enableFftBwd
  | .windowPkt => switches.enableWindow && switches.enableWindowPkt
  | .windowByte => switches.enableWindow && switches.enableWindowByte
  | .behaviorBasic => switches.enableBehavior && switches.enableBehaviorBasic
  | .behaviorPattern => switches.enableBehavior && switches.enableBehaviorPattern
  | .behaviorBitrate => switches.enableBehavior && switches.enableBehaviorBitrate

/-- The features a group adds: its section of `calc_derived_*`. -/
def Group.features (cfg : FeatureConfig) (platform : Platform D) (view : View D) :
    Group → Output D
  | .basicRatios => TiFeatures.basicRatios view.counters
  | .basicPayloadDir => TiFeatures.basicPayloadDir view.counters view.payloadDir
      (view.arrays .fwdPayloadSizes) (view.arrays .bwdPayloadSizes) view.tempUintBufferSize
  | .basicFirstN => TiFeatures.basicFirstN view.firstNLens
  | .basicPktLength => TiFeatures.basicPktLength view.counters.totalPackets view.pktLen
      (view.arrays .fwdPktLens) (view.arrays .bwdPktLens) view.tempUintBufferSize
  | .iatStats => iatStatsFeatures view.iat.iatStats (view.seqs .iatSeq) view.tempUintBufferSize
  | .iatFwdBwd => iatFwdBwdFeatures view.iat.fwdIat.fwd view.iat.bwdIat.bwd
      (view.arrays .fwdIats) (view.arrays .bwdIats) view.tempUintBufferSize
  | .iatActive => iatActiveFeatures view.iat.activeTimeUs view.iat.idleTimeUs
  | .iatResponse => iatResponseFeatures cfg view.respDelays view.tempUintBufferSize
  | .burst => calcBurstStatistics view.burstSizes view.burstDurations view.burstIntervals
      view.burstPacketCounts
  | .protocolTcpFlags => TiFeatures.protocolTcpFlags view.tcp view.counters
  | .protocolTcpWindow => TiFeatures.protocolTcpWindow view.tcp.tcpWindowStats
      (view.seqs .tcpWindowSeq)
  | .protocolIp => TiFeatures.protocolIp view.ip (view.seqs .ipTtlSeq) (view.seqs .ipTosSeq)
  | .protocolUdp => TiFeatures.protocolUdp view.udpLenStats (view.seqs .udpLenSeq)
  | .protocolPort => TiFeatures.protocolPort view.tcp view.ip.srcIpIsPrivate
      view.ip.dstIpIsPrivate view.ip.ipFragCount view.port view.counters
  | .payloadSize => TiFeatures.payloadSize view.payload.payloadSizeStats
      view.payload.payloadSizeDiffStats (view.seqs .payloadSizeSeq) (view.seqs .payloadSizeDiffSeq)
  | .payloadContent => TiFeatures.payloadContent view.payload.payloadTotalBytes
      view.payload.payloadPrintableCount view.payload.payloadAlnumCount
      view.payload.payloadNonEmptyCount view.counters.totalPackets
  | .payloadHist => TiFeatures.payloadHist view.payload.payloadByteHist
      view.payload.payloadByteHistFull view.payload.payloadByteStats
  | .payloadMagic => TiFeatures.payloadMagic view.magic view.payload
  | .payloadStats => TiFeatures.payloadStats view.payload
  | .sequenceStats => TiFeatures.sequenceStats (view.seqs .pktLenSeq) (view.seqs .iatSeq)
      view.dirs view.bigram.bigramStats
  | .rawSequences => TiFeatures.rawSequences (view.seqs .pktLenSeq) (view.seqs .iatSeq) view.dirs
      (view.seqs .l3LenSeq) (view.seqs .l4LenSeq) (view.seqs .payloadLenSeq)
  | .chunkSequences => TiFeatures.chunkSequences (view.seqs .tsSeq) (view.seqs .pktLenSeq)
      view.dirs view.derived.lastDlChunkCount
  | .rateSequences => TiFeatures.rateSequences platform (view.seqs .tsSeq)
      (view.seqs .pktLenSeq) view.dirs view.derived
  | .fftGlobal => TiFeatures.fftGlobal (view.seqs .pktLenSeq)
  | .fftFwd => fftDir "fwd" (view.arrays .fwdPktLens)
  | .fftBwd => fftDir "bwd" (view.arrays .bwdPktLens)
  | .windowPkt =>
    if countValidWindows view.windowPktCounts = 0 then []
    else TiFeatures.windowPkt platform view.windowPktCounts
  | .windowByte =>
    if countValidWindows view.windowPktCounts = 0 then []
    else TiFeatures.windowByte platform view.windowPktCounts view.windowByteCounts
  | .behaviorBasic => TiFeatures.behaviorBasic cfg view.clock view.counters
  | .behaviorPattern => TiFeatures.behaviorPattern view.counters view.tcp.tcpPackets
      view.iat.iatStats view.windowPktCounts view.windowBitrate
  | .behaviorBitrate => TiFeatures.behaviorBitrate view.windowPktCounts view.windowByteCounts
      view.windowBitrate

/-- The features of a group if it is on. -/
def Group.emitted (cfg : FeatureConfig) (platform : Platform D) (view : View D) (group : Group) :
    Output D :=
  if group.on cfg.toSwitches then group.features cfg platform view else []

/-! ### The object written -/

theorem if_append {Value : Type} (condition : Bool) (front back : List Value) :
    (if condition then front ++ back else []) =
      (if condition then front else []) ++ if condition then back else [] := by
  cases condition <;> rfl

theorem if_if_and {Value : Type} (outer inner : Bool) (values : List Value) :
    (if outer then (if inner then values else []) else []) =
      if outer && inner then values else [] := by
  cases outer <;> rfl

/-- The object written when a flow closes is made of the features of the groups that are on. -/
theorem flowStateComputeFeatures_eq (cfg : FeatureConfig) (platform : Platform D)
    (streamType : StreamType) (packet : RawPacket) (view : View D) :
    flowStateComputeFeatures cfg platform streamType packet view =
      addFlowTupleIdentifier platform streamType packet ++
      (match packet.sni with
        | some sni => [addString "sni" sni]
        | none => []) ++
      groupOrder.flatMap (Group.emitted cfg platform view) ++
      flowInformation view.counters view.tcp := by
  have window : calcDerivedWindow cfg platform view =
      (if cfg.enableWindowPkt then Group.windowPkt.features cfg platform view else []) ++
      (if cfg.enableWindowByte then Group.windowByte.features cfg platform view else []) := by
    by_cases none : countValidWindows view.windowPktCounts = 0
    · simp only [calcDerivedWindow, Group.features, if_pos none, ite_self, List.append_nil]
    · simp only [calcDerivedWindow, Group.features, if_neg none]
  simp only [flowStateComputeFeatures, window, calcDerivedBasic, calcDerivedIat,
    calcDerivedProtocol, calcDerivedPayload, calcDerivedSequence, calcDerivedFft,
    calcDerivedBehavior, if_append, if_if_and, groupOrder, Group.emitted, Group.on,
    List.flatMap_cons, List.flatMap_nil, List.append_assoc, List.append_nil]
  rfl

/-- What a group adds depends on the thresholds of the configuration only. -/
theorem Group.features_congr {cfg other : FeatureConfig}
    (same : cfg.toThresholds = other.toThresholds) (platform : Platform D) (view : View D)
    (group : Group) : group.features cfg platform view = group.features other platform view := by
  cases group with
  | iatResponse =>
    simp only [features, iatResponseFeatures, isInteractiveSession, same]
  | behaviorBasic =>
    simp only [features, TiFeatures.behaviorBasic, isBulkTransfer, isShortConnection, same]
  | _ => rfl

/-! ### Closing flows -/

/-- What is written when a flow closes after the given callbacks. -/
def flowOutput (cfg : FeatureConfig) (platform : Platform D) (streamType : StreamType)
    (callbacks : List (Allocs × RawPacket)) (closing : Allocs × RawPacket) : Option (Output D) :=
  (trafficProcess cfg platform streamType .close closing.1 closing.2
    (flowRun cfg platform streamType callbacks)).2.1

theorem flowOutput_eq (cfg : FeatureConfig) (platform : Platform D) (streamType : StreamType)
    (callbacks : List (Allocs × RawPacket)) (closing : Allocs × RawPacket) :
    flowOutput cfg platform streamType callbacks closing =
      (flowRun cfg platform streamType callbacks).map fun state =>
        flowStateComputeFeatures cfg platform streamType closing.2 state.view := by
  unfold flowOutput
  cases flowRun cfg platform streamType callbacks <;> rfl

end TiFeatures
