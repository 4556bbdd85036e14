/-
This file proves that the groups whose data the compound flags gate do not
depend on the other switches. What a group reads of a closing flow lies behind a
few gates; a group that is on opens them, so two configurations with the same
thresholds under which it is on leave it the same data.
-/

import TiFeatures.Gates
import TiFeatures.Groups

namespace TiFeatures

variable {D : Type}

/-! ### What a group reads -/

/-- The groups whose data every switch that needs it collects. -/
def Group.selfContained : Group → Bool
  | .basicRatios | .basicPayloadDir | .basicFirstN | .basicPktLength
  | .iatStats | .iatFwdBwd | .iatActive | .iatResponse
  | .burst
  | .sequenceStats | .rawSequences | .chunkSequences | .rateSequences
  | .fftGlobal | .fftFwd | .fftBwd
  | .windowPkt | .windowByte
  | .behaviorBasic | .behaviorBitrate => true
  | _ => false

/-- The gates of the data a group reads. -/
def Group.gates : Group → List Gate
  | .basicRatios => []
  | .basicPayloadDir => [.payloadDir]
  | .basicFirstN => [.firstN]
  | .basicPktLength => [.pktLength, .fwdBwdPktLens]
  | .iatStats => [.iatStats, .iatSeq]
  | .iatFwdBwd => [.fwdBwdIats]
  | .iatActive => [.iatActive]
  | .iatResponse => [.response]
  | .burst => [.burst]
  | .protocolTcpFlags => [.tcp]
  | .protocolTcpWindow => [.tcp]
  | .protocolIp => [.ip]
  | .protocolUdp => [.udp]
  | .protocolPort => [.tcp, .ip, .port]
  | .payloadSize => [.payload]
  | .payloadContent => [.payload]
  | .payloadHist => [.payload]
  | .payloadMagic => [.magic, .payload]
  | .payloadStats => [.payload]
  | .sequenceStats => [.pktLenSeq, .iatSeq, .dirSeq, .bigram]
  | .rawSequences => [.pktLenSeq, .iatSeq, .dirSeq, .layerSeqs]
  | .chunkSequences => [.tsSeq, .pktLenSeq, .dirSeq]
  | .rateSequences => [.tsSeq, .pktLenSeq, .dirSeq]
  | .fftGlobal => [.pktLenSeq]
  | .fftFwd => [.fwdBwdPktLens]
  | .fftBwd => [.fwdBwdPktLens]
  | .windowPkt => [.window]
  | .windowByte => [.window]
  | .behaviorBasic => []
  | .behaviorPattern => [.tcp, .iatStats, .window]
  | .behaviorBitrate => [.window]

/-- Two closing flows hold the same in everything a group reads. -/
def Group.SameReads (first second : View D) : Group → Prop
  | .basicRatios => first.counters = second.counters
  | .basicPayloadDir => first.counters = second.counters ∧ first.payloadDir = second.payloadDir ∧
      first.arrays .fwdPayloadSizes = second.arrays .fwdPayloadSizes ∧
      first.arrays .bwdPayloadSizes = second.arrays .bwdPayloadSizes ∧
      first.tempUintBufferSize = second.tempUintBufferSize
  | .basicFirstN => first.firstNLens = second.firstNLens ∧
      first.tempUintBufferSize = second.tempUintBufferSize
  | .basicPktLength => first.counters.totalPackets = second.counters.totalPackets ∧
      first.pktLen.smallPktCount = second.pktLen.smallPktCount ∧
      first.pktLen.largePktCount = second.pktLen.largePktCount ∧
      first.pktLen.fwdPktLen.fwd = second.pktLen.fwdPktLen.fwd ∧
      first.pktLen.bwdPktLen.bwd = second.pktLen.bwdPktLen.bwd ∧
      first.arrays .fwdPktLens = second.arrays .fwdPktLens ∧
      first.arrays .bwdPktLens = second.arrays .bwdPktLens ∧
      first.tempUintBufferSize = second.tempUintBufferSize
  | .iatStats => first.iat.iatStats = second.iat.iatStats ∧
      first.seqs .iatSeq = second.seqs .iatSeq ∧
      first.tempUintBufferSize = second.tempUintBufferSize
  | .iatFwdBwd => first.iat.fwdIat.fwd = second.iat.fwdIat.fwd ∧
      first.iat.bwdIat.bwd = second.iat.bwdIat.bwd ∧
      first.arrays .fwdIats = second.arrays .fwdIats ∧
      first.arrays .bwdIats = second.arrays .bwdIats ∧
      first.tempUintBufferSize = second.tempUintBufferSize
  | .iatActive => first.iat.activeTimeUs = second.iat.activeTimeUs ∧
      first.iat.idleTimeUs = second.iat.idleTimeUs
  | .iatResponse => first.respDelays = second.respDelays ∧
      first.tempUintBufferSize = second.tempUintBufferSize
  | .burst => first.burstSizes = second.burstSizes ∧
      first.burstDurations = second.burstDurations ∧
      first.burstIntervals = second.burstIntervals ∧
      first.burstPacketCounts = second.burstPacketCounts
  | .protocolTcpFlags => first.tcp = second.tcp ∧ first.counters = second.counters
  | .protocolTcpWindow => first.tcp.tcpWindowStats = second.tcp.tcpWindowStats ∧
      first.seqs .tcpWindowSeq = second.seqs .tcpWindowSeq
  | .protocolIp => first.ip = second.ip ∧ first.seqs .ipTtlSeq = second.seqs .ipTtlSeq ∧
      first.seqs .ipTosSeq = second.seqs .ipTosSeq
  | .protocolUdp => first.udpLenStats = second.udpLenStats ∧
      first.seqs .udpLenSeq = second.seqs .udpLenSeq
  | .protocolPort => first.tcp = second.tcp ∧ first.ip = second.ip ∧ first.port = second.port ∧
      first.counters = second.counters
  | .payloadSize => first.payload = second.payload ∧
      first.seqs .payloadSizeSeq = second.seqs .payloadSizeSeq ∧
      first.seqs .payloadSizeDiffSeq = second.seqs .payloadSizeDiffSeq
  | .payloadContent => first.payload = second.payload ∧ first.counters = second.counters
  | .payloadHist => first.payload = second.payload
  | .payloadMagic => first.magic = second.magic ∧ first.payload = second.payload
  | .payloadStats => first.payload = second.payload
  | .sequenceStats => first.seqs .pktLenSeq = second.seqs .pktLenSeq ∧
      first.seqs .iatSeq = second.seqs .iatSeq ∧ first.seqs .dirSeq = second.seqs .dirSeq ∧
      first.bigram = second.bigram
  | .rawSequences => first.seqs .pktLenSeq = second.seqs .pktLenSeq ∧
      first.seqs .iatSeq = second.seqs .iatSeq ∧ first.seqs .dirSeq = second.seqs .dirSeq ∧
      first.seqs .l3LenSeq = second.seqs .l3LenSeq ∧
      first.seqs .l4LenSeq = second.seqs .l4LenSeq ∧
      first.seqs .payloadLenSeq = second.seqs .payloadLenSeq
  | .chunkSequences | .rateSequences => first.seqs .tsSeq = second.seqs .tsSeq ∧
      first.seqs .pktLenSeq = second.seqs .pktLenSeq ∧
      first.seqs .dirSeq = second.seqs .dirSeq ∧ first.derived = second.derived
  | .fftGlobal => first.seqs .pktLenSeq = second.seqs .pktLenSeq
  | .fftFwd => first.arrays .fwdPktLens = second.arrays .fwdPktLens
  | .fftBwd => first.arrays .bwdPktLens = second.arrays .bwdPktLens
  | .windowPkt => first.windowPktCounts = second.windowPktCounts
  | .windowByte => first.windowPktCounts = second.windowPktCounts ∧
      first.windowByteCounts = second.windowByteCounts
  | .behaviorBasic => first.clock = second.clock ∧ first.counters = second.counters
  | .behaviorPattern => first.counters = second.counters ∧
      first.tcp.tcpPackets = second.tcp.tcpPackets ∧ first.iat.iatStats = second.iat.iatStats ∧
      first.windowPktCounts = second.windowPktCounts ∧
      first.windowBitrate = second.windowBitrate
  | .behaviorBitrate => first.windowPktCounts = second.windowPktCounts ∧
      first.windowByteCounts = second.windowByteCounts ∧
      first.windowBitrate = second.windowBitrate

/-- A group adds the same features to two flows that hold the same in everything it reads. -/
theorem Group.features_eq [Double D] {cfg : FeatureConfig} {platform : Platform D}
    {first second : View D}
    {group : Group} (same : group.SameReads first second) :
    group.features cfg platform first = group.features cfg platform second := by
  cases group <;> simp_all [Group.SameReads, Group.features, View.dirs, TiFeatures.basicPktLength]

/-! ### Two flows with the same packets -/

/-- Fields and parts of the memory that agree behind the gates of a group hold the same in
everything the group reads. -/
theorem contentsView_sameReads {gates : Gate → Prop} {first second : Fields D}
    {contents other : FlowContents D} (agree : Fields.Agree gates first second)
    (parts : ∀ part : Target, gates part.gate → contents.at part = other.at part)
    (tempUintBufferSize : Nat) {group : Group} (read : ∀ gate ∈ group.gates, gates gate) :
    group.SameReads (contentsView first contents tempUintBufferSize)
      (contentsView second other tempUintBufferSize) := by
  have seqs : ∀ seq, gates (Target.ring seq).gate → contents.seqs seq = other.seqs seq := by
    intro seq gate
    have same := parts (.ring seq) gate
    simp only [FlowContents.at, Prod.mk.injEq, List.cons.injEq, and_true] at same
    exact same
  have arrays : ∀ dir : DirArray, gates (Target.array dir).gate →
      contents.arrays dir.arrayId = other.arrays dir.arrayId := by
    intro dir gate
    have same := parts (.array dir) gate
    simp only [FlowContents.at, Prod.mk.injEq, List.cons.injEq, and_true] at same
    exact same
  have windows : gates .window → contents.arrays .windowPktCounts = other.arrays .windowPktCounts ∧
      contents.arrays .windowByteCounts = other.arrays .windowByteCounts ∧
      contents.arrays .windowBitrate = other.arrays .windowBitrate := by
    intro gate
    have same := parts .window gate
    simp only [FlowContents.at, Prod.mk.injEq, List.cons.injEq, and_true] at same
    exact same
  cases group with
  | basicRatios => exact agree.counters
  | basicPayloadDir =>
    have gate := read .payloadDir (by decide)
    exact ⟨agree.counters, agree.payloadDir gate, arrays _ gate, arrays _ gate, rfl⟩
  | basicFirstN =>
    have same := parts .firstN (read .firstN (by decide))
    simp only [FlowContents.at, Prod.mk.injEq, List.cons.injEq, and_true] at same
    exact ⟨same, rfl⟩
  | basicPktLength =>
    have lens := read .fwdBwdPktLens (by decide)
    obtain ⟨small, large, -⟩ := agree.pktLength (read .pktLength (by decide))
    obtain ⟨fwd, bwd⟩ := agree.fwdBwdPktLens lens
    exact ⟨congrArg _ agree.counters, small, large, congrArg _ fwd, congrArg _ bwd,
      arrays _ lens, arrays _ lens, rfl⟩
  | iatStats =>
    exact ⟨agree.iatStats (read .iatStats (by decide)), seqs _ (read .iatSeq (by decide)), rfl⟩
  | iatFwdBwd =>
    have gate := read .fwdBwdIats (by decide)
    obtain ⟨fwd, bwd⟩ := agree.fwdBwdIats gate
    exact ⟨congrArg _ fwd, congrArg _ bwd, arrays _ gate, arrays _ gate, rfl⟩
  | iatActive => exact agree.iatActive (read .iatActive (by decide))
  | iatResponse =>
    have same := parts .respDelay (read .response (by decide))
    simp only [FlowContents.at, Prod.mk.injEq, true_and] at same
    exact ⟨same, rfl⟩
  | burst =>
    have same := parts .burst (read .burst (by decide))
    simp only [FlowContents.at, Prod.mk.injEq, List.cons.injEq, and_true] at same
    exact same
  | protocolTcpFlags => exact ⟨agree.tcp (read .tcp (by decide)), agree.counters⟩
  | protocolTcpWindow =>
    have gate := read .tcp (by decide)
    exact ⟨congrArg _ (agree.tcp gate), seqs _ gate⟩
  | protocolIp =>
    have gate := read .ip (by decide)
    exact ⟨agree.ip gate, seqs _ gate, seqs _ gate⟩
  | protocolUdp =>
    have gate := read .udp (by decide)
    exact ⟨agree.udpLenStats gate, seqs _ gate⟩
  | protocolPort =>
    exact ⟨agree.tcp (read .tcp (by decide)), agree.ip (read .ip (by decide)),
      agree.port (read .port (by decide)), agree.counters⟩
  | payloadSize =>
    have gate := read .payload (by decide)
    exact ⟨agree.payload gate, seqs _ gate, seqs _ gate⟩
  | payloadContent => exact ⟨agree.payload (read .payload (by decide)), agree.counters⟩
  | payloadHist => exact agree.payload (read .payload (by decide))
  | payloadMagic =>
    exact ⟨agree.magic (read .magic (by decide)), agree.payload (read .payload (by decide))⟩
  | payloadStats => exact agree.payload (read .payload (by decide))
  | sequenceStats =>
    exact ⟨seqs _ (read .pktLenSeq (by decide)), seqs _ (read .iatSeq (by decide)),
      seqs _ (read .dirSeq (by decide)), agree.bigram (read .bigram (by decide))⟩
  | rawSequences =>
    have layers := read .layerSeqs (by decide)
    exact ⟨seqs _ (read .pktLenSeq (by decide)), seqs _ (read .iatSeq (by decide)),
      seqs _ (read .dirSeq (by decide)), seqs _ layers, seqs _ layers, seqs _ layers⟩
  | chunkSequences | rateSequences =>
    exact ⟨seqs _ (read .tsSeq (by decide)), seqs _ (read .pktLenSeq (by decide)),
      seqs _ (read .dirSeq (by decide)), agree.derived⟩
  | fftGlobal => exact seqs _ (read .pktLenSeq (by decide))
  | fftFwd | fftBwd => exact arrays _ (read .fwdBwdPktLens (by decide))
  | windowPkt => exact (windows (read .window (by decide))).1
  | windowByte =>
    obtain ⟨pktCounts, byteCounts, -⟩ := windows (read .window (by decide))
    exact ⟨pktCounts, byteCounts⟩
  | behaviorBasic => exact ⟨agree.clock, agree.counters⟩
  | behaviorPattern =>
    obtain ⟨pktCounts, -, bitrate⟩ := windows (read .window (by decide))
    exact ⟨agree.counters, congrArg _ (agree.tcp (read .tcp (by decide))),
      agree.iatStats (read .iatStats (by decide)), pktCounts, bitrate⟩
  | behaviorBitrate => exact windows (read .window (by decide))

/-- Two flows that agree hold the same in everything a group reads, if the configurations agree
on its gates. -/
theorem FlowFeatureState.Agree.sameReads [Double D] {cfg other : FeatureConfig}
    {first second : FlowFeatureState D} (agree : first.Agree cfg other second) {group : Group}
    (same : ∀ gate ∈ group.gates, gate.on cfg = gate.on other) :
    group.SameReads first.view second.view := by
  rw [agree.wellFormed.view_eq, agree.otherWellFormed.view_eq, agree.level_eq]
  exact contentsView_sameReads agree.fields agree.contents _ same

/-! ### The self-contained groups -/

/-- A self-contained group that is on opens the gates of the data it reads. -/
theorem Group.gates_on (thresholds : Thresholds) {switches : Switches} {group : Group}
    (contained : group.selfContained = true) (on : group.on switches = true) :
    ∀ gate ∈ group.gates, gate.on (featConfigRead thresholds switches) = true := by
  intro gate member
  cases group <;>
    simp_all [Group.selfContained, Group.on, Group.gates, Gate.on, featConfigRead, compoundFlags]
  all_goals rcases member with rfl | rfl | rfl | rfl <;> simp_all

/-- Under two configurations with the same thresholds, whatever their other switches, a
self-contained group that is on finds the same in everything it reads when a flow closes. -/
theorem flowRun_sameReads [Double D] (thresholds : Thresholds) {switches other : Switches}
    {group : Group}
    (contained : group.selfContained = true) (on : group.on switches = true)
    (otherOn : group.on other = true) (platform : Platform D) (streamType : StreamType)
    (callbacks : List (Allocs × RawPacket)) :
    Option.Rel (fun state otherState => group.SameReads state.view otherState.view)
      (flowRun (featConfigRead thresholds switches) platform streamType callbacks)
      (flowRun (featConfigRead thresholds other) platform streamType callbacks) := by
  have thresholds_eq : (featConfigRead thresholds switches).toThresholds =
      (featConfigRead thresholds other).toThresholds := rfl
  have same : ∀ gate ∈ group.gates, gate.on (featConfigRead thresholds switches) =
      gate.on (featConfigRead thresholds other) := by
    intro gate member
    rw [Group.gates_on thresholds contained on gate member,
      Group.gates_on thresholds contained otherOn gate member]
  have agree := flowRun_agree thresholds_eq platform streamType callbacks
  revert agree
  generalize flowRun (featConfigRead thresholds switches) platform streamType callbacks = run
  generalize flowRun (featConfigRead thresholds other) platform streamType callbacks = otherRun
  rintro (agree | -)
  · exact .some (agree.sameReads same)
  · exact .none

/-- Without the windows and the payload statistics the bursts are the same. -/
theorem flowRun_sameReads_burst :
    Option.Rel (fun state otherState : FlowFeatureState Float =>
        Group.burst.SameReads state.view otherState.view)
      (flowRun (featConfigRead defaultThresholds defaultSwitches) (barePlatform Float) .udp
        (allocated [barePacket 1 1 100, barePacket 5 2 7]))
      (flowRun (featConfigRead defaultThresholds { defaultSwitches with
          enableWindowPkt := false, enableWindowByte := false, enablePayloadStats := false })
        (barePlatform Float) .udp (allocated [barePacket 1 1 100, barePacket 5 2 7])) :=
  flowRun_sameReads defaultThresholds rfl rfl rfl (barePlatform Float) .udp
    (allocated [barePacket 1 1 100, barePacket 5 2 7])

end TiFeatures
