/-
This file names the switches that gate the collection of data and proves that
each part of a flow depends on the one that gates it and on no other: two flows
with the same packets, whose configurations agree on a gate, have collected the
same behind it.
-/

import TiFeatures.Calls
import TiFeatures.Streams

namespace TiFeatures

variable {D : Type}

/-! ### Gates -/

/-- The switches and flags that the DATA branch tests. -/
inductive Gate where
  | pktLength
  | fwdBwdPktLens
  | pktLenSeq
  | firstN
  | payloadDir
  | dirSeq
  | tsSeq
  | layerSeqs
  | iatStats
  | iatActive
  | fwdBwdIats
  | iatSeq
  | tcp
  | ip
  | udp
  | port
  | magic
  | payload
  | burst
  | response
  | bigram
  | window
  deriving DecidableEq

/-- The test of a gate. -/
def Gate.on (cfg : FeatureConfig) : Gate → Bool
  | .pktLength => cfg.enableBasicPktLength
  | .fwdBwdPktLens => cfg.needFwdBwdPktLens
  | .pktLenSeq => cfg.needPktLenSeq
  | .firstN => cfg.needFirstN
  | .payloadDir => cfg.needPayloadDir
  | .dirSeq => cfg.needDirSeq
  | .tsSeq => cfg.needTsSeq
  | .layerSeqs => cfg.needL3L4PayloadSeq
  | .iatStats => cfg.enableIatStats
  | .iatActive => cfg.enableIatActive
  | .fwdBwdIats => cfg.needFwdBwdIats
  | .iatSeq => cfg.needIatSeq
  | .tcp => cfg.enableProtocolTcpFlags || cfg.enableProtocolTcpWindow
  | .ip => cfg.enableProtocolIp
  | .udp => cfg.enableProtocolUdp
  | .port => cfg.enableProtocolPort
  | .magic => cfg.enablePayloadMagic
  | .payload => cfg.enablePayloadStats
  | .burst => cfg.enableBurst
  | .response => cfg.enableIatResponse
  | .bigram => cfg.enableSequenceStats
  | .window => cfg.needWindowUpdate

/-- The gate of the accesses that change a part of a flow's memory. -/
def Target.gate : Target → Gate
  | .ring .pktLenSeq => .pktLenSeq
  | .ring .iatSeq => .iatSeq
  | .ring .dirSeq => .dirSeq
  | .ring .tsSeq => .tsSeq
  | .ring .tcpWindowSeq => .tcp
  | .ring .udpLenSeq => .udp
  | .ring .ipTtlSeq | .ring .ipTosSeq => .ip
  | .ring .payloadSizeSeq | .ring .payloadSizeDiffSeq => .payload
  | .ring .l3LenSeq | .ring .l4LenSeq | .ring .payloadLenSeq => .layerSeqs
  | .array .fwdPktLens | .array .bwdPktLens => .fwdBwdPktLens
  | .array .fwdIats | .array .bwdIats => .fwdBwdIats
  | .array .fwdPayloadSizes | .array .bwdPayloadSizes => .payloadDir
  | .firstN => .firstN
  | .burst => .burst
  | .respDelay => .response
  | .window => .window

/-- The fields of two flows agree behind every gate of a set. -/
structure Fields.Agree (gates : Gate → Prop) (first second : Fields D) : Prop where
  clock : first.clock = second.clock
  counters : first.counters = second.counters
  tcp : gates .tcp → first.tcp = second.tcp
  udpLenStats : gates .udp → first.udpLenStats = second.udpLenStats
  pktLength : gates .pktLength →
    first.pktLen.smallPktCount = second.pktLen.smallPktCount ∧
      first.pktLen.largePktCount = second.pktLen.largePktCount ∧
      first.pktLen.pktLenStats = second.pktLen.pktLenStats
  fwdBwdPktLens : gates .fwdBwdPktLens →
    first.pktLen.fwdPktLen = second.pktLen.fwdPktLen ∧
      first.pktLen.bwdPktLen = second.pktLen.bwdPktLen
  arrivals : first.iat.lastArrivalUs = second.iat.lastArrivalUs ∧
    first.iat.lastFwdUs = second.iat.lastFwdUs ∧ first.iat.lastBwdUs = second.iat.lastBwdUs
  iatStats : gates .iatStats → first.iat.iatStats = second.iat.iatStats
  iatActive : gates .iatActive → first.iat.activeTimeUs = second.iat.activeTimeUs ∧
    first.iat.idleTimeUs = second.iat.idleTimeUs
  fwdBwdIats : gates .fwdBwdIats → first.iat.fwdIat = second.iat.fwdIat ∧
    first.iat.bwdIat = second.iat.bwdIat
  ip : gates .ip → first.ip = second.ip
  port : gates .port → first.port = second.port
  payloadDir : gates .payloadDir → first.payloadDir = second.payloadDir
  payload : gates .payload → first.payload = second.payload
  magic : gates .magic → first.magic = second.magic
  window : gates .window → first.window = second.window
  burst : gates .burst → first.burst = second.burst
  response : gates .response → first.response = second.response
  bigram : gates .bigram → first.bigram = second.bigram
  derived : first.derived = second.derived

theorem Fields.Agree.refl (gates : Gate → Prop) (fields : Fields D) :
    Fields.Agree gates fields fields := by
  constructor <;> simp

/-! ### One call -/

section Calls

variable {cfg other : FeatureConfig} (info : PacketInfo)

theorem ipCall_congr [Double D] (same : Gate.ip.on cfg = Gate.ip.on other)
    (state : IpState D) : ipCall cfg info state = ipCall other info state := by
  simp only [ipCall, show cfg.enableProtocolIp = other.enableProtocolIp from same]

theorem portCall_congr (same : Gate.port.on cfg = Gate.port.on other) (state : PortState) :
    portCall cfg info state = portCall other info state := by
  simp only [portCall, show cfg.enableProtocolPort = other.enableProtocolPort from same]

theorem tcpCall_congr [Double D] (same : Gate.tcp.on cfg = Gate.tcp.on other)
    (state : TcpState D) : tcpCall cfg info state = tcpCall other info state := by
  simp only [tcpCall, show (cfg.enableProtocolTcpFlags || cfg.enableProtocolTcpWindow) =
    (other.enableProtocolTcpFlags || other.enableProtocolTcpWindow) from same]

theorem udpCall_congr [Double D] (same : Gate.udp.on cfg = Gate.udp.on other)
    (stats : RunningStats D) : udpCall cfg info stats = udpCall other info stats := by
  simp only [udpCall, show cfg.enableProtocolUdp = other.enableProtocolUdp from same]

theorem magicCall_congr (same : Gate.magic.on cfg = Gate.magic.on other) (state : MagicState) :
    magicCall cfg info state = magicCall other info state := by
  simp only [magicCall, show cfg.enablePayloadMagic = other.enablePayloadMagic from same]

theorem payloadCall_congr [Double D] (same : Gate.payload.on cfg = Gate.payload.on other)
    (platform : Platform D) (state : PayloadState D) :
    payloadCall cfg info platform state = payloadCall other info platform state := by
  simp only [payloadCall, show cfg.enablePayloadStats = other.enablePayloadStats from same]

theorem responseCall_congr [Double D] (same : Gate.response.on cfg = Gate.response.on other)
    (state : ResponseState) :
    responseCall (D := D) cfg info state = responseCall other info state := by
  simp only [responseCall, show cfg.enableIatResponse = other.enableIatResponse from same]

theorem windowCall_congr (same : Gate.window.on cfg = Gate.window.on other)
    (state : WindowState) : windowCall (D := D) cfg info state = windowCall other info state := by
  simp only [windowCall, show cfg.needWindowUpdate = other.needWindowUpdate from same]

theorem burstCall_congr (thresholds : cfg.toThresholds = other.toThresholds)
    (same : Gate.burst.on cfg = Gate.burst.on other) (state : BurstState) (iatUs : Nat) :
    burstCall (D := D) cfg info state iatUs = burstCall other info state iatUs := by
  simp only [burstCall, calcBurstUpdate, thresholds,
    show cfg.enableBurst = other.enableBurst from same]

theorem bigramCall_congr (thresholds : cfg.toThresholds = other.toThresholds)
    (same : Gate.bigram.on cfg = Gate.bigram.on other) (state : BigramState) :
    bigramCall cfg info state = bigramCall other info state := by
  simp only [bigramCall, getPktSizeClass, thresholds,
    show cfg.enableSequenceStats = other.enableSequenceStats from same]

end Calls

/-! ### One packet -/

section Packets

variable [Double D] {cfg other : FeatureConfig} {gates : Gate → Prop} {first second : Fields D}

/-- The inter-arrival times agree after a packet. -/
theorem Fields.Agree.iatCall (agree : Fields.Agree gates first second)
    (thresholds : cfg.toThresholds = other.toThresholds)
    (same : ∀ gate, gates gate → gate.on cfg = gate.on other) (info : PacketInfo) :
    let firstIat := (TiFeatures.iatCall cfg info first.iat).1
    let secondIat := (TiFeatures.iatCall other info second.iat).1
    (firstIat.lastArrivalUs = secondIat.lastArrivalUs ∧
        firstIat.lastFwdUs = secondIat.lastFwdUs ∧ firstIat.lastBwdUs = secondIat.lastBwdUs) ∧
      (gates .iatStats → firstIat.iatStats = secondIat.iatStats) ∧
      (gates .iatActive → firstIat.activeTimeUs = secondIat.activeTimeUs ∧
        firstIat.idleTimeUs = secondIat.idleTimeUs) ∧
      (gates .fwdBwdIats → firstIat.fwdIat = secondIat.fwdIat ∧
        firstIat.bwdIat = secondIat.bwdIat) := by
  obtain ⟨arrival, fwd, bwd⟩ := agree.arrivals
  by_cases begins : first.iat.lastArrivalUs = 0
  · have alsoBegins : second.iat.lastArrivalUs = 0 := arrival.symm.trans begins
    rw [iatCall_first cfg info begins, iatCall_first other info alsoBegins]
    exact ⟨⟨rfl, fwd, bwd⟩, agree.iatStats, agree.iatActive, agree.fwdBwdIats⟩
  · have alsoLater : second.iat.lastArrivalUs ≠ 0 := fun zero => begins (arrival.trans zero)
    rw [iatCall_later cfg info begins, iatCall_later other info alsoLater]
    simp only [arrival, fwd, bwd, thresholds, true_and]
    refine ⟨fun on => ?_, fun on => ?_, fun on => ?_⟩
    · rw [show cfg.enableIatStats = other.enableIatStats from same _ on, agree.iatStats on]
    · obtain ⟨active, idle⟩ := agree.iatActive on
      rw [show cfg.enableIatActive = other.enableIatActive from same _ on, active, idle]
      exact ⟨rfl, rfl⟩
    · obtain ⟨fwdIat, bwdIat⟩ := agree.fwdBwdIats on
      rw [show cfg.needFwdBwdIats = other.needFwdBwdIats from same _ on, fwdIat, bwdIat]
      exact ⟨rfl, rfl⟩

/-- Fields that agree behind some gates agree behind them after a packet. -/
theorem Fields.Agree.dataFields (agree : Fields.Agree gates first second)
    (thresholds : cfg.toThresholds = other.toThresholds)
    (same : ∀ gate, gates gate → gate.on cfg = gate.on other) (platform : Platform D)
    (info : PacketInfo) :
    Fields.Agree gates (TiFeatures.dataFields cfg platform info first)
      (TiFeatures.dataFields other platform info second) := by
  obtain ⟨arrivals, iatStats, iatActive, fwdBwdIats⟩ := agree.iatCall thresholds same info
  exact
    { clock := by simp only [TiFeatures.dataFields, agree.clock]
      counters := by
        simp only [TiFeatures.dataFields, countersCall_counters, agree.counters]
      tcp := fun on => by
        simp only [TiFeatures.dataFields, tcpCall_congr info (same _ on), agree.tcp on]
      udpLenStats := fun on => by
        simp only [TiFeatures.dataFields, udpCall_congr info (same _ on), agree.udpLenStats on]
      pktLength := fun on => by
        obtain ⟨small, large, stats⟩ := agree.pktLength on
        simp only [TiFeatures.dataFields, pktLenCall_state, thresholds, small, large, stats,
          show cfg.enableBasicPktLength = other.enableBasicPktLength from same _ on, and_self]
      fwdBwdPktLens := fun on => by
        obtain ⟨fwd, bwd⟩ := agree.fwdBwdPktLens on
        simp only [TiFeatures.dataFields, pktLenCall_state, fwd, bwd,
          show cfg.needFwdBwdPktLens = other.needFwdBwdPktLens from same _ on, and_self]
      arrivals := arrivals
      iatStats := iatStats
      iatActive := iatActive
      fwdBwdIats := fwdBwdIats
      ip := fun on => by
        simp only [TiFeatures.dataFields, ipCall_congr info (same _ on), agree.ip on]
      port := fun on => by
        simp only [TiFeatures.dataFields, portCall_congr info (same _ on), agree.port on]
      payloadDir := fun on => by
        simp only [TiFeatures.dataFields, countersCall_payload, agree.payloadDir on,
          show cfg.needPayloadDir = other.needPayloadDir from same _ on]
      payload := fun on => by
        simp only [TiFeatures.dataFields, payloadCall_congr info (same _ on), agree.payload on]
      magic := fun on => by
        simp only [TiFeatures.dataFields, magicCall_congr info (same _ on), agree.magic on]
      window := fun on => by
        simp only [TiFeatures.dataFields, windowCall_congr info (same _ on), agree.window on]
      burst := fun on => by
        simp only [TiFeatures.dataFields, burstCall_congr info thresholds (same _ on),
          agree.burst on, burstIat, agree.arrivals.1]
      response := fun on => by
        simp only [TiFeatures.dataFields, responseCall_congr info (same _ on), agree.response on]
      bigram := fun on => by
        simp only [TiFeatures.dataFields, bigramCall_congr info thresholds (same _ on),
          agree.bigram on]
      derived := agree.derived }

/-- What a packet sends to a part depends on the gate of the part. -/
theorem Fields.Agree.dataAccesses (agree : Fields.Agree gates first second)
    (thresholds : cfg.toThresholds = other.toThresholds)
    (same : ∀ gate, gates gate → gate.on cfg = gate.on other) (platform : Platform D)
    (info : PacketInfo) {part : Target} (on : gates part.gate) :
    (TiFeatures.dataAccesses cfg platform info first).filterMap (Access.at part) =
      (TiFeatures.dataAccesses other platform info second).filterMap (Access.at part) := by
  rw [filterMap_dataAccesses cfg platform info first part fun _ => Access.at_eq_none,
    filterMap_dataAccesses other platform info second part fun _ => Access.at_eq_none]
  have gate := same _ on
  obtain ⟨arrival, fwd, bwd⟩ := agree.arrivals
  cases part with
  | ring seq =>
    cases seq with
    | pktLenSeq =>
      simp [Target.call, callAccesses, pktLenCall, calcPacketLengthStats,
        apply_ite (List.filterMap _),
        Access.at, Access.target, show cfg.needPktLenSeq = other.needPktLenSeq from gate]
    | ipTtlSeq | ipTosSeq =>
      simp only [Target.call, callAccesses, ipCall_congr info gate, agree.ip on]
    | tcpWindowSeq =>
      simp only [Target.call, callAccesses, tcpCall_congr info gate, agree.tcp on]
    | udpLenSeq =>
      simp only [Target.call, callAccesses, udpCall_congr info gate, agree.udpLenStats on]
    | payloadSizeSeq | payloadSizeDiffSeq =>
      simp only [Target.call, callAccesses, payloadCall_congr info gate, agree.payload on]
    | dirSeq =>
      simp [Target.call, callAccesses, seqPushes, apply_ite (List.filterMap _), Access.at,
        Access.target, show cfg.needDirSeq = other.needDirSeq from gate]
    | tsSeq =>
      simp [Target.call, callAccesses, seqPushes, apply_ite (List.filterMap _), Access.at,
        Access.target, show cfg.needTsSeq = other.needTsSeq from gate]
    | l3LenSeq | l4LenSeq | payloadLenSeq =>
      simp [Target.call, callAccesses, seqPushes, apply_ite (List.filterMap _), Access.at,
        Access.target, show cfg.needL3L4PayloadSeq = other.needL3L4PayloadSeq from gate]
    | iatSeq =>
      simp only [Target.call, callAccesses]
      by_cases begins : first.iat.lastArrivalUs = 0
      · rw [iatCall_first cfg info begins, iatCall_first other info (arrival ▸ begins)]
      · rw [iatCall_later cfg info begins, iatCall_later other info (arrival ▸ begins)]
        simp [apply_ite (List.filterMap _), Access.at, Access.target, arrival,
          show cfg.needIatSeq = other.needIatSeq from gate]
  | array dir =>
    cases dir with
    | fwdPayloadSizes | bwdPayloadSizes =>
      simp only [Target.call, callAccesses, countersCall_accesses,
        show cfg.needPayloadDir = other.needPayloadDir from gate]
    | fwdPktLens | bwdPktLens =>
      simp [Target.call, callAccesses, pktLenCall, calcPacketLengthStats,
        apply_ite (List.filterMap _), Access.at, Access.target,
        show cfg.needFwdBwdPktLens = other.needFwdBwdPktLens from gate]
    | fwdIats | bwdIats =>
      simp only [Target.call, callAccesses]
      by_cases begins : first.iat.lastArrivalUs = 0
      · rw [iatCall_first cfg info begins, iatCall_first other info (arrival ▸ begins)]
      · rw [iatCall_later cfg info begins, iatCall_later other info (arrival ▸ begins)]
        simp [apply_ite (List.filterMap _), Access.at, Access.target, fwd, bwd,
          show cfg.needFwdBwdIats = other.needFwdBwdIats from gate]
  | firstN =>
    simp [Target.call, callAccesses, pktLenCall, calcPacketLengthStats,
      apply_ite (List.filterMap _), Access.at, Access.target,
      show cfg.needFirstN = other.needFirstN from gate]
  | burst =>
    simp only [Target.call, callAccesses, burstCall_congr info thresholds gate, agree.burst on,
      burstIat, agree.arrivals.1]
  | respDelay =>
    simp only [Target.call, callAccesses, responseCall_congr info gate, agree.response on]
  | window =>
    simp only [Target.call, callAccesses, windowCall_congr info gate, agree.window on]

end Packets

/-! ### What accesses make of a part -/

section Contents

variable (seqLen firstNCapacity : Nat)

/-- What an access makes of its part depends on this part only. -/
theorem FlowContents.access_at_congr {first second : FlowContents D} {access : Access D}
    (same : first.at access.target = second.at access.target) :
    (first.access seqLen firstNCapacity access).at access.target =
      (second.access seqLen firstNCapacity access).at access.target := by
  cases access with
  | push seq value =>
    simp only [FlowContents.at, Access.target, Prod.mk.injEq, List.cons.injEq, and_true] at same
    simp only [FlowContents.at, Access.target, FlowContents.access, Function.update_self, same]
  | append dir value =>
    simp only [FlowContents.at, Access.target, Prod.mk.injEq, List.cons.injEq, and_true] at same
    simp only [FlowContents.at, Access.target, FlowContents.access, Function.update_self, same]
  | recordBurst byteCount duration pktCount interval =>
    simp only [FlowContents.at, Access.target, Prod.mk.injEq, List.cons.injEq, and_true] at same
    obtain ⟨sizes, durations, intervals, counts⟩ := same
    simp only [FlowContents.at, Access.target, FlowContents.access, FlowContents.recordBurst,
      sizes]
    split
    · simp only [durations, intervals, counts]
    · simp only [sizes, durations, intervals, counts]
  | setWindowBitrate window windowSizeUs =>
    simp only [FlowContents.at, Access.target, Prod.mk.injEq, List.cons.injEq, and_true] at same
    obtain ⟨pktCounts, byteCounts, bitrate⟩ := same
    simp only [FlowContents.at, Access.target, FlowContents.access, Function.update_self,
      Function.update_of_ne (show ArrayId.windowPktCounts ≠ .windowBitrate by decide),
      Function.update_of_ne (show ArrayId.windowByteCounts ≠ .windowBitrate by decide),
      pktCounts, byteCounts, bitrate]
  | countWindow window pktLen =>
    simp only [FlowContents.at, Access.target, Prod.mk.injEq, List.cons.injEq, and_true] at same
    obtain ⟨pktCounts, byteCounts, bitrate⟩ := same
    simp only [FlowContents.at, Access.target, FlowContents.access, pktCounts, byteCounts, bitrate]
  | appendFirstN pktLen =>
    simp only [FlowContents.at, Access.target, Prod.mk.injEq, List.cons.injEq, and_true] at same
    simp only [FlowContents.at, Access.target, FlowContents.access, same]
  | appendRespDelay delay =>
    simp only [FlowContents.at, Access.target, Prod.mk.injEq, true_and] at same
    simp only [FlowContents.at, Access.target, FlowContents.access, same]

/-- What accesses make of a part depends on the part and the accesses that change it. -/
theorem FlowContents.foldl_access_at {first second : FlowContents D} {part : Target}
    (same : first.at part = second.at part) (accesses : List (Access D)) :
    (accesses.foldl (FlowContents.access seqLen firstNCapacity) first).at part =
      ((accesses.filterMap (Access.at part)).foldl (FlowContents.access seqLen firstNCapacity)
        second).at part := by
  induction accesses generalizing first second with
  | nil => exact same
  | cons access rest inductionHypothesis =>
    by_cases changes : access.target = part
    · subst changes
      have kept : Access.at access.target access = some access := if_pos rfl
      rw [List.filterMap_cons_some kept]
      exact inductionHypothesis (FlowContents.access_at_congr _ _ same)
    · rw [List.filterMap_cons_none (Access.at_eq_none changes)]
      exact inductionHypothesis ((FlowContents.access_at_ne _ _ first changes).trans same)

/-- What an upgrade makes of a part depends on this part only. -/
theorem FlowContents.rebound_at {first second : FlowContents D} {part : Target}
    (same : first.at part = second.at part) (snapshot : SeqId → Bool) :
    (first.rebound snapshot).at part = (second.rebound snapshot).at part := by
  cases part with
  | ring seq =>
    simp only [FlowContents.at, Prod.mk.injEq, List.cons.injEq, and_true] at same
    simp only [FlowContents.at, FlowContents.rebound, same]
  | _ => exact same

end Contents

/-! ### Flows -/

theorem flowMemPoolCheckUpgrade_congr {first second : FlowMemPool D}
    (level : first.level = second.level) (count : first.currentPktCount = second.currentPktCount)
    (seqLen : first.actualSeqLen = second.actualSeqLen) :
    (flowMemPoolCheckUpgrade first).2 = (flowMemPoolCheckUpgrade second).2 ∧
      (flowMemPoolCheckUpgrade first).1.currentPktCount =
        (flowMemPoolCheckUpgrade second).1.currentPktCount := by
  simp only [flowMemPoolCheckUpgrade, level, count, seqLen]
  cases second.level.next <;> split_ifs <;> exact ⟨rfl, rfl⟩

section Flows

variable [Double D] {cfg other : FeatureConfig} {first second : FlowFeatureState D}

/-- Two flows with the same packets, under configurations that may differ in their switches: they
have the same level, and agree behind every gate that the configurations agree on. -/
structure FlowFeatureState.Agree (cfg other : FeatureConfig) (first second : FlowFeatureState D) :
    Prop where
  wellFormed : first.WellFormed cfg
  otherWellFormed : second.WellFormed other
  fields : Fields.Agree (fun gate => gate.on cfg = gate.on other) first.fields second.fields
  level_eq : first.store.memPool.level = second.store.memPool.level
  currentPktCount_eq : first.store.memPool.currentPktCount = second.store.memPool.currentPktCount
  contents : ∀ part : Target, part.gate.on cfg = part.gate.on other →
    first.store.contents.at part = second.store.contents.at part

/-- Two flows agree after a packet, whatever allocations fail on the way. -/
theorem FlowFeatureState.Agree.processData (agree : first.Agree cfg other second)
    (thresholds : cfg.toThresholds = other.toThresholds) (platform : Platform D)
    (streamType : StreamType) (allocs : Allocs) (packet : RawPacket) :
    (processData cfg platform streamType allocs packet first).Agree cfg other
      (processData other platform streamType allocs packet second) := by
  have info_eq : packetInfo other streamType packet = packetInfo cfg streamType packet :=
    packetInfo_congr (by rw [thresholds]) streamType packet
  have seqLen_eq : first.store.memPool.actualSeqLen = second.store.memPool.actualSeqLen := by
    rw [agree.wellFormed.store.pool.seqLen_eq, agree.otherWellFormed.store.pool.seqLen_eq,
      agree.level_eq]
  have processed := agree.wellFormed.processed platform streamType allocs packet
  have otherProcessed := agree.otherWellFormed.processed platform streamType allocs packet
  obtain ⟨due_eq, count_eq⟩ := flowMemPoolCheckUpgrade_congr agree.level_eq
    agree.currentPktCount_eq seqLen_eq
  have level_eq : (TiFeatures.processData cfg platform streamType allocs packet
      first).store.memPool.level =
        (TiFeatures.processData other platform streamType allocs packet
          second).store.memPool.level := by
    rw [processed.level_eq, otherProcessed.level_eq, due_eq, agree.level_eq]
  refine ⟨processed.wellFormed, otherProcessed.wellFormed, ?_, level_eq, ?_, ?_⟩
  · have fields := agree.fields.dataFields thresholds (fun _ same => same) platform
      (packetInfo cfg streamType packet)
    simp only [TiFeatures.processData, info_eq]
    exact fields
  · exact processed.currentPktCount_eq.trans
      (count_eq.trans otherProcessed.currentPktCount_eq.symm)
  · intro part same
    have checked_eq :
        (if (flowMemPoolCheckUpgrade first.store.memPool).2 && allocs.upgrade then
          first.store.contents.rebound allocs.snapshot else first.store.contents).at part =
        (if (flowMemPoolCheckUpgrade second.store.memPool).2 && allocs.upgrade then
          second.store.contents.rebound allocs.snapshot else second.store.contents).at part := by
      rw [due_eq]
      split
      · exact FlowContents.rebound_at (agree.contents part same) allocs.snapshot
      · exact agree.contents part same
    have sent := agree.fields.dataAccesses thresholds (fun _ same => same) platform
      (packetInfo cfg streamType packet) same
    rw [processed.contents_eq, otherProcessed.contents_eq, level_eq, thresholds,
      FlowContents.foldl_access_at _ _ rfl, info_eq, sent,
      FlowContents.foldl_access_at _ _ checked_eq.symm (TiFeatures.dataAccesses other _ _ _)]

theorem FlowFeatureState.Agree.foldl (agree : first.Agree cfg other second)
    (thresholds : cfg.toThresholds = other.toThresholds) (platform : Platform D)
    (streamType : StreamType) (callbacks : List (Allocs × RawPacket)) :
    (callbacks.foldl (fun state callback =>
        TiFeatures.processData cfg platform streamType callback.1 callback.2 state)
        first).Agree cfg other
      (callbacks.foldl (fun state callback =>
        TiFeatures.processData other platform streamType callback.1 callback.2 state) second) := by
  induction callbacks generalizing first second with
  | nil => exact agree
  | cons callback rest inductionHypothesis =>
    exact inductionHypothesis
      (agree.processData thresholds platform streamType callback.1 callback.2)

theorem createFlow_congr (thresholds : cfg.toThresholds = other.toThresholds) (allocs : Allocs)
    (packet : RawPacket) : createFlow (D := D) cfg allocs (packetTsUs cfg packet) =
      createFlow other allocs (packetTsUs other packet) := by
  simp only [createFlow, flowStateInit, fieldsInit, packetTsUs, thresholds]

/-- Under two configurations with the same thresholds a flow comes to states that agree behind
the gates on which the configurations agree, after any packets and whatever allocations fail. -/
theorem flowRun_agree (thresholds : cfg.toThresholds = other.toThresholds)
    (platform : Platform D) (streamType : StreamType) (callbacks : List (Allocs × RawPacket)) :
    Option.Rel (FlowFeatureState.Agree cfg other) (flowRun cfg platform streamType callbacks)
      (flowRun other platform streamType callbacks) := by
  cases callbacks with
  | nil => exact .none
  | cons callback rest =>
    rw [flowRun_cons, flowRun_cons, ← createFlow_congr thresholds]
    cases created_eq : createFlow (D := D) cfg callback.1 (packetTsUs cfg callback.2) with
    | none => exact .none
    | some created =>
      refine .some (FlowFeatureState.Agree.foldl ?_ thresholds platform streamType _)
      have otherCreated_eq := created_eq
      rw [createFlow_congr thresholds] at otherCreated_eq
      exact ⟨createFlow_wellFormed created_eq, createFlow_wellFormed otherCreated_eq,
        Fields.Agree.refl _ _, rfl, rfl, fun _ _ => rfl⟩

/-- A packet changes a part other than a buffer by the accesses of its call, whatever allocations
fail on the way. -/
theorem FlowFeatureState.WellFormed.processData_at {state : FlowFeatureState D}
    (wellFormed : state.WellFormed cfg) (platform : Platform D) (streamType : StreamType)
    (allocs : Allocs) (packet : RawPacket) {part : Target}
    (notRing : ∀ seq, part ≠ .ring seq) :
    let next := TiFeatures.processData cfg platform streamType allocs packet state
    next.store.contents.at part =
      (((callAccesses cfg platform (packetInfo cfg streamType packet) state.fields
        part.call).filterMap (Access.at part)).foldl (FlowContents.access
          (flowMemLevelToSeqLen next.store.memPool.level) (clampFirstN cfg.firstNPackets))
        state.store.contents).at part := by
  have processed := wellFormed.processed platform streamType allocs packet
  have rebound : ∀ contents : FlowContents D,
      (contents.rebound allocs.snapshot).at part = contents.at part := by
    intro contents
    cases part with
    | ring seq => exact absurd rfl (notRing seq)
    | _ => rfl
  intro next
  rw [processed.contents_eq, ← filterMap_dataAccesses cfg platform _ _ part
    fun _ => Access.at_eq_none]
  refine FlowContents.foldl_access_at _ _ ?_ _
  split
  · exact rebound _
  · rfl

end Flows

end TiFeatures
