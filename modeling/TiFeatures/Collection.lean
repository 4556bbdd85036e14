/-
This file characterises when two configurations with the same thresholds collect
the same: exactly when they agree on every gate, where the window gate does not
matter if the window size is zero. A short run of packets that carry everything
tells the gates apart.
-/

import TiFeatures.Gaps
import TiFeatures.Gates

namespace TiFeatures

open BoundedStore

variable {D : Type}

/-- Two configurations agree on the gates, as far as these matter. -/
def SameCollection (cfg other : FeatureConfig) : Prop :=
  ∀ gate : Gate, gate.on cfg = gate.on other ∨ gate = .window ∧ cfg.windowSizeMs = 0

/-! ### Agreeing configurations -/

section Congr

variable {cfg other : FeatureConfig} (info : PacketInfo)

theorem countersCall_congr [Double D] (same : Gate.payloadDir.on cfg = Gate.payloadDir.on other)
    (state : CounterState) (payload : PayloadDirState D) :
    countersCall cfg info state payload = countersCall other info state payload := by
  simp only [countersCall, calcBasicCounters,
    show cfg.needPayloadDir = other.needPayloadDir from same]

theorem pktLenCall_congr [Double D] (thresholds : cfg.toThresholds = other.toThresholds)
    (same : ∀ gate ∈ [Gate.pktLength, .fwdBwdPktLens, .pktLenSeq, .firstN],
      gate.on cfg = gate.on other)
    (state : PktLenState D) : pktLenCall cfg info state = pktLenCall other info state := by
  simp only [List.forall_mem_cons, Gate.on] at same
  obtain ⟨pktLength, fwdBwdPktLens, pktLenSeq, firstN, -⟩ := same
  simp only [pktLenCall, calcPacketLengthStats, thresholds, pktLength, fwdBwdPktLens, pktLenSeq,
    firstN]

theorem iatCall_congr [Double D] (thresholds : cfg.toThresholds = other.toThresholds)
    (same : ∀ gate ∈ [Gate.iatStats, .iatActive, .fwdBwdIats, .iatSeq],
      gate.on cfg = gate.on other)
    (state : IatState D) : iatCall cfg info state = iatCall other info state := by
  simp only [List.forall_mem_cons, Gate.on] at same
  obtain ⟨iatStats, iatActive, fwdBwdIats, iatSeq, -⟩ := same
  simp only [iatCall, calcIatUpdate, calcActiveIdleTime, thresholds, iatStats, iatActive,
    fwdBwdIats, iatSeq]

theorem seqPushes_congr
    (same : ∀ gate ∈ [Gate.dirSeq, .tsSeq, .layerSeqs], gate.on cfg = gate.on other) :
    (seqPushes cfg info : List (Access D)) = seqPushes other info := by
  simp only [List.forall_mem_cons, Gate.on] at same
  obtain ⟨dirSeq, tsSeq, layerSeqs, -⟩ := same
  simp only [seqPushes, dirSeq, tsSeq, layerSeqs]

theorem windowCall_windowSizeMs (cfg : FeatureConfig) (state : WindowState) :
    (windowCall (D := D) cfg info state).1.windowSizeMs = state.windowSizeMs := by
  simp only [windowCall, calcWindowUpdate, WindowState.started]
  split_ifs <;> rfl

/-- The windows start with the first packet that is counted in them. -/
theorem windowCall_windowStartUs (cfg : FeatureConfig) {info : PacketInfo} {state : WindowState}
    (size : state.windowSizeMs ≠ 0) (positive : 0 < info.tsUs) :
    (windowCall (D := D) cfg info state).1.windowStartUs ≠ 0 ↔
      cfg.needWindowUpdate = true ∨ state.windowStartUs ≠ 0 := by
  simp only [windowCall, calcWindowUpdate, if_neg size, WindowState.started]
  by_cases need : cfg.needWindowUpdate = true
  · by_cases unset : state.windowStartUs = 0
    · simp only [need, if_true, unset, true_or, iff_true]
      exact positive.ne'
    · simp only [need, if_true, if_neg unset, true_or, iff_true]
      exact unset
  · simp only [need, Bool.false_eq_true, if_false, false_or]

/-- One packet is the same to two configurations that agree on the gates. -/
theorem processData_congr [Double D] (thresholds : cfg.toThresholds = other.toThresholds)
    (same : SameCollection cfg other) (platform : Platform D) (streamType : StreamType)
    (allocs : Allocs) (packet : RawPacket) {state : FlowFeatureState D}
    (size : state.fields.window.windowSizeMs = cfg.windowSizeMs) :
    processData cfg platform streamType allocs packet state =
      processData other platform streamType allocs packet state := by
  have agree : ∀ gate : Gate, gate ≠ .window → gate.on cfg = gate.on other :=
    fun gate different => (same gate).resolve_right fun window => different window.1
  have window : ∀ info, windowCall (D := D) cfg info state.fields.window =
      windowCall other info state.fields.window := by
    intro info
    rcases same .window with gate | ⟨-, zero⟩
    · exact windowCall_congr info gate _
    · rw [windowCall_zero cfg info (size.trans zero), windowCall_zero other info (size.trans zero)]
  have info_eq : packetInfo cfg streamType packet = packetInfo other streamType packet :=
    packetInfo_congr (by rw [thresholds]) streamType packet
  have pktLen := fun info => pktLenCall_congr (D := D) info thresholds
    (by simp only [List.forall_mem_cons]; simp [agree])
  have iat := fun info => iatCall_congr (D := D) info thresholds
    (by simp only [List.forall_mem_cons]; simp [agree])
  have seqs : ∀ info, seqPushes (D := D) cfg info = seqPushes other info :=
    fun info => seqPushes_congr info (by simp only [List.forall_mem_cons]; simp [agree])
  simp only [processData, info_eq, dataFields, dataAccesses, pktLen, iat, seqs, window,
    ipCall_congr _ (agree .ip (by decide)), countersCall_congr _ (agree .payloadDir (by decide)),
    tcpCall_congr _ (agree .tcp (by decide)), udpCall_congr _ (agree .udp (by decide)),
    portCall_congr _ (agree .port (by decide)), magicCall_congr _ (agree .magic (by decide)),
    payloadCall_congr _ (agree .payload (by decide)),
    burstCall_congr _ thresholds (agree .burst (by decide)),
    responseCall_congr _ (agree .response (by decide)),
    bigramCall_congr _ thresholds (agree .bigram (by decide))]

/-- Two configurations that agree on the gates collect the same from any packets, whatever
allocations fail. -/
theorem flowRun_congr [Double D] (thresholds : cfg.toThresholds = other.toThresholds)
    (same : SameCollection cfg other) (platform : Platform D) (streamType : StreamType)
    (callbacks : List (Allocs × RawPacket)) :
    flowRun cfg platform streamType callbacks = flowRun other platform streamType callbacks := by
  have run : ∀ (callbacks : List (Allocs × RawPacket)) (state : FlowFeatureState D),
      state.fields.window.windowSizeMs = cfg.windowSizeMs →
      callbacks.foldl (fun state callback =>
          processData cfg platform streamType callback.1 callback.2 state) state =
        callbacks.foldl (fun state callback =>
          processData other platform streamType callback.1 callback.2 state) state := by
    intro callbacks
    induction callbacks with
    | nil => exact fun _ _ => rfl
    | cons callback rest inductionHypothesis =>
      intro state size
      rw [List.foldl_cons, List.foldl_cons,
        ← processData_congr thresholds same platform streamType _ _ size]
      exact inductionHypothesis _ ((windowCall_windowSizeMs _ _ _).trans size)
  cases callbacks with
  | nil => rfl
  | cons first rest =>
    have created : createFlow (D := D) cfg first.1 (packetTsUs cfg first.2) =
        createFlow other first.1 (packetTsUs other first.2) := by
      simp only [createFlow, flowStateInit, fieldsInit, packetTsUs, thresholds]
    rw [flowRun_cons, flowRun_cons, ← created]
    refine Option.map_congr fun state found => run _ _ ?_
    rw [(createFlow_eq_some found).1]
    rfl

end Congr

/-! ### A run that tells the gates apart -/

/-- An IPv4 header from a private address, a TCP header with the SYN flag, and a request. -/
def probeBytes : Nat → UInt8
  | 0 => 0x45
  | 12 => 10
  | 32 => 0x50
  | 33 => 0x02
  | 40 => 71
  | 41 => 69
  | 42 => 84
  | 43 => 32
  | _ => 0

/-- A packet with these bytes, at a time that both clocks give in milliseconds. -/
def probePacket (ms : Nat) : RawPacket where
  tvSec := 0
  tvUsec := ms * 1000
  platformMs := ms
  aPacket := some probeBytes
  detail := some ⟨4, 0⟩
  curdir := dirFwd
  rawTotLen := none
  rawPktType := none
  addr := .ipv4 (some ⟨[10, 0, 0, 0], [0, 0, 0, 0], 1, 1⟩)
  sni := none

/-- What a gate leaves behind if packets have passed it. -/
def Gate.mark (fields : Fields D) (contents : FlowContents D) : Gate → Nat
  | .pktLength => fields.pktLen.pktLenStats.count
  | .fwdBwdPktLens => fields.pktLen.fwdPktLen.fwd.count
  | .pktLenSeq => (contents.seqs .pktLenSeq).length
  | .firstN => contents.firstNLens.length
  | .payloadDir => fields.payloadDir.fwdPayloadStats.count
  | .dirSeq => (contents.seqs .dirSeq).length
  | .tsSeq => (contents.seqs .tsSeq).length
  | .layerSeqs => (contents.seqs .l3LenSeq).length
  | .iatStats => fields.iat.iatStats.count
  | .iatActive => fields.iat.activeTimeUs + fields.iat.idleTimeUs
  | .fwdBwdIats => fields.iat.fwdIat.fwd.count
  | .iatSeq => (contents.seqs .iatSeq).length
  | .tcp => fields.tcp.tcpPackets
  | .ip => fields.ip.ipTtlStats.count
  | .udp => fields.udpLenStats.count
  | .port => fields.port.srcPort
  | .magic => fields.magic.payloadMagicHttpGet.toNat
  | .payload => fields.payload.payloadNonEmptyCount
  | .burst => fields.burst.burstPktCount
  | .response => fields.response.lastReqTs
  | .bigram => fields.bigram.bigramStats.total
  | .window => fields.window.windowStartUs

section Probe

variable [Double D] (cfg : FeatureConfig) (platform : Platform D) (streamType : StreamType)

theorem packetInfo_probe_tsUs {ms : Nat} (small : ms < 1000) :
    (packetInfo cfg streamType (probePacket ms)).tsUs = ms * 1000 := by
  have seconds : (probePacket ms).tvSec * 1000000 + (probePacket ms).tvUsec = ms * 1000 := by
    rw [show (probePacket ms).tvSec = 0 from rfl, Nat.zero_mul, Nat.zero_add]
    rfl
  have ticks : (probePacket ms).platformMs * 1000 = ms * 1000 := rfl
  have bounded : ms * 1000 < 2 ^ 64 := by omega
  rw [show (packetInfo cfg streamType (probePacket ms)).tsUs = packetTsUs cfg (probePacket ms)
    from rfl, packetTsUs, seconds, ticks, ite_self, u64_of_lt bounded]

theorem packetInfo_probe_positive {ms : Nat} (positive : 0 < ms) (small : ms < 1000) :
    0 < (packetInfo cfg streamType (probePacket ms)).tsUs := by
  rw [packetInfo_probe_tsUs cfg streamType small]
  exact Nat.mul_pos positive (by decide)

@[simp] theorem packetInfo_probe_streamType (ms : Nat) :
    (packetInfo cfg streamType (probePacket ms)).streamType = streamType := rfl

@[simp] theorem packetInfo_probe_direction (ms : Nat) :
    (packetInfo cfg streamType (probePacket ms)).direction = dirFwd := rfl

@[simp] theorem packetInfo_probe_payloadLen (ms : Nat) :
    (packetInfo cfg streamType (probePacket ms)).payloadLen = 4 := rfl

@[simp] theorem packetInfo_probe_iph (ms : Nat) :
    (packetInfo cfg streamType (probePacket ms)).iph = some (ipHeaderAt probeBytes) := rfl

@[simp] theorem packetInfo_probe_tcph (ms : Nat) :
    (packetInfo cfg .tcp (probePacket ms)).tcph = some (tcpHeaderAt probeBytes 20) := rfl

@[simp] theorem packetInfo_probe_payload (ms : Nat) :
    (packetInfo cfg .tcp (probePacket ms)).payload =
      some fun index => probeBytes (40 + index) := by
  have l3 : packetL3Len (probePacket ms) = 20 := rfl
  have bytes : (probePacket ms).aPacket = some probeBytes := rfl
  have l4 : packetL4Len .tcp (probePacket ms) = 20 := by
    simp only [packetL4Len, packetTcph, bytes, l3, tcpHeaderAt, probeBytes]
    rfl
  rw [show (packetInfo cfg .tcp (probePacket ms)).payload =
    packetPayload .tcp (probePacket ms) 4 from rfl]
  simp only [packetPayload, l3, l4, bytes]
  rfl

@[simp] theorem packetInfo_probe_addr (ms : Nat) :
    (packetInfo cfg streamType (probePacket ms)).addr =
      .ipv4 (some ⟨[10, 0, 0, 0], [0, 0, 0, 0], 1, 1⟩) := rfl

/-- The bytes of the payload of a probe. -/
theorem payloadBytes_probe (ms : Nat) : payloadBytes (packetInfo cfg .tcp (probePacket ms))
    (fun index => probeBytes (40 + index)) = [71, 69, 84, 32] := by
  rw [payloadBytes, packetInfo_probe_payloadLen]
  rfl

/-- The fields after three probes. -/
theorem flowFields_probe :
    flowFields cfg platform streamType (probePacket 1) [probePacket 2, probePacket 3] =
      dataFields cfg platform (packetInfo cfg streamType (probePacket 3))
        (dataFields cfg platform (packetInfo cfg streamType (probePacket 2))
          (dataFields cfg platform (packetInfo cfg streamType (probePacket 1))
            (fieldsInit cfg (packetTsUs cfg (probePacket 1))))) := rfl

/-- The inter-arrival times after three probes. -/
theorem iat_probe :
    let fields := flowFields cfg platform streamType (probePacket 1)
      [probePacket 2, probePacket 3]
    fields.iat.iatStats.count = (if cfg.enableIatStats then 2 else 0) ∧
      fields.iat.activeTimeUs + fields.iat.idleTimeUs =
        (if cfg.enableIatActive then 2000 else 0) ∧
      fields.iat.fwdIat.fwd.count = if cfg.needFwdBwdIats then 1 else 0 := by
  have ts1 := packetInfo_probe_tsUs cfg streamType (show 1 < 1000 by decide)
  have ts2 := packetInfo_probe_tsUs cfg streamType (show 2 < 1000 by decide)
  have ts3 := packetInfo_probe_tsUs cfg streamType (show 3 < 1000 by decide)
  have unset : (fieldsInit cfg (packetTsUs cfg (probePacket 1)) : Fields D).iat.lastArrivalUs = 0 :=
    rfl
  have begins := iatCall_first cfg (packetInfo cfg streamType (probePacket 1)) unset
  have gap1 : u64Sub 2000 1000 = 1000 := by decide
  have gap2 : u64Sub 3000 2000 = 1000 := by decide
  rw [flowFields_probe]
  simp only [dataFields, begins]
  rw [iatCall_later cfg (packetInfo cfg streamType (probePacket 2)) (by simp [ts1]),
    iatCall_later cfg (packetInfo cfg streamType (probePacket 3)) (by simp [ts2])]
  simp only [packetInfo_probe_direction, ts1, ts2, ts3, fieldsInit, gap1, gap2,
    directionalStatsInit]
  refine ⟨?_, ?_, ?_⟩
  · cases cfg.enableIatStats <;> simp [runningStatsUpdate, runningStatsInit, u64]
  · by_cases active : 1000 ≤ cfg.activeIatThresholdUs
    · cases cfg.enableIatActive <;> simp [active, Nat.not_lt.mpr active, u64]
    · cases cfg.enableIatActive <;> simp [active, Nat.not_le.mp active, u64]
  · cases cfg.needFwdBwdIats <;> simp [runningStatsUpdate, runningStatsInit, u64]

/-- The sequences every packet is pushed to hold three values after three probes, if their flag
is set. -/
theorem seqs_probe (seq : SeqId) {need : Bool} {value : PacketInfo → Nat}
    (every : packetSeq cfg seq = some (need, value)) :
    ((flowContents cfg platform streamType (probePacket 1)
      [probePacket 2, probePacket 3]).seqs seq).length = if need then 3 else 0 := by
  rw [flowContents_seqs, pushed_flowAccesses cfg platform streamType _ _ every, length_rtake]
  cases need <;> rfl

theorem iatSeq_probe :
    ((flowContents cfg platform streamType (probePacket 1)
      [probePacket 2, probePacket 3]).seqs .iatSeq).length =
      if cfg.needIatSeq then 2 else 0 := by
  have positive : ∀ info ∈ packetInfos cfg streamType
      [probePacket 1, probePacket 2, probePacket 3], info.tsUs > 0 := by
    simp only [packetInfos, List.map_cons, List.map_nil, List.forall_mem_cons]
    exact ⟨packetInfo_probe_positive cfg streamType (by decide) (by decide),
      packetInfo_probe_positive cfg streamType (by decide) (by decide),
      packetInfo_probe_positive cfg streamType (by decide) (by decide), List.forall_mem_nil _⟩
  rw [flowContents_seqs, pushed_iats cfg platform streamType _ _ positive, length_rtake]
  cases cfg.needIatSeq <;> rfl

theorem firstN_probe :
    (flowContents cfg platform streamType (probePacket 1)
      [probePacket 2, probePacket 3]).firstNLens ≠ [] ↔ cfg.needFirstN = true := by
  have pushed : ∀ info fields, (dataAccesses cfg platform info fields).filterMap
      Access.firstLength = if cfg.needFirstN then [info.pktLen] else [] := by
    intro info fields
    rw [filterMap_dataAccesses cfg platform info fields .firstN
      fun _ => Access.firstLength_eq_none]
    simp only [Target.call, callAccesses, pktLenCall, calcPacketLengthStats]
    split_ifs <;> rfl
  rw [flowContents_firstNLens, filterMap_flowAccesses cfg platform streamType _ _ pushed,
    flatMap_if_singleton]
  obtain ⟨capacity, capacity_eq⟩ := Nat.exists_eq_succ_of_ne_zero
    (clampFirstN_pos cfg.firstNPackets).ne'
  rw [capacity_eq]
  cases cfg.needFirstN <;> simp [packetInfos]

/-- A probe carries the first bytes of a request. -/
theorem magicCall_probe (ms : Nat) (state : MagicState) :
    (magicCall cfg (packetInfo cfg .tcp (probePacket ms)) state).payloadMagicHttpGet =
      (cfg.enablePayloadMagic || state.payloadMagicHttpGet) := by
  simp only [magicCall, packetInfo_probe_payload, packetInfo_probe_payloadLen,
    payloadBytes_probe]
  cases cfg.enablePayloadMagic <;> simp [calcPayloadMagic, startsWith]

/-- A probe carries a payload. -/
theorem payloadCall_probe (ms : Nat) (state : PayloadState D) :
    (payloadCall cfg (packetInfo cfg .tcp (probePacket ms)) platform
      state).1.payloadNonEmptyCount = if cfg.enablePayloadStats then
        u32 (state.payloadNonEmptyCount + 1) else state.payloadNonEmptyCount := by
  rw [payloadCall, packetInfo_probe_payload]
  dsimp only
  split
  · exact (calcPayloadStats_counters platform state _ (Nat.succ_ne_zero 3)).1
  · rfl

/-- Three probes leave the mark of a gate if and only if it is on. The gate of the UDP statistics
needs a UDP stream, the others are marked by a TCP stream. -/
theorem mark_probe (gate : Gate) (size : gate = .window → cfg.windowSizeMs ≠ 0) :
    let streamType := if gate = .udp then .udp else .tcp
    gate.mark (flowFields cfg platform streamType (probePacket 1) [probePacket 2, probePacket 3])
        (flowContents cfg platform streamType (probePacket 1) [probePacket 2, probePacket 3]) ≠
        0 ↔ gate.on cfg = true := by
  cases gate with
  | pktLenSeq =>
    simp only [Gate.mark, seqs_probe cfg platform _ .pktLenSeq rfl, Gate.on]
    cases cfg.needPktLenSeq <;> simp
  | dirSeq =>
    simp only [Gate.mark, seqs_probe cfg platform _ .dirSeq rfl, Gate.on]
    cases cfg.needDirSeq <;> simp
  | tsSeq =>
    simp only [Gate.mark, seqs_probe cfg platform _ .tsSeq rfl, Gate.on]
    cases cfg.needTsSeq <;> simp
  | layerSeqs =>
    simp only [Gate.mark, seqs_probe cfg platform _ .l3LenSeq rfl, Gate.on]
    cases cfg.needL3L4PayloadSeq <;> simp
  | iatSeq =>
    simp only [Gate.mark, iatSeq_probe, Gate.on]
    cases cfg.needIatSeq <;> simp
  | firstN =>
    simp only [Gate.mark, ne_eq, List.length_eq_zero_iff]
    exact firstN_probe cfg platform _
  | iatStats =>
    simp only [Gate.mark, (iat_probe cfg platform _).1, Gate.on]
    cases cfg.enableIatStats <;> simp
  | iatActive =>
    simp only [Gate.mark, (iat_probe cfg platform _).2.1, Gate.on]
    cases cfg.enableIatActive <;> simp
  | fwdBwdIats =>
    simp only [Gate.mark, (iat_probe cfg platform _).2.2, Gate.on]
    cases cfg.needFwdBwdIats <;> simp
  | pktLength =>
    simp only [Gate.mark, flowFields_probe, dataFields, pktLenCall_state, Gate.on]
    cases cfg.enableBasicPktLength <;>
      simp [fieldsInit, runningStatsInit, runningStatsUpdate, u64]
  | fwdBwdPktLens =>
    simp only [Gate.mark, flowFields_probe, dataFields, pktLenCall_state, Gate.on]
    cases cfg.needFwdBwdPktLens <;>
      simp [fieldsInit, directionalStatsInit, directionalStatsUpdate, runningStatsInit,
        runningStatsUpdate, u64]
  | payloadDir =>
    simp only [Gate.mark, flowFields_probe, dataFields, countersCall_payload, Gate.on]
    cases cfg.needPayloadDir <;> simp [fieldsInit, runningStatsInit, runningStatsUpdate, u64]
  | tcp =>
    simp only [Gate.mark, flowFields_probe, dataFields, tcpCall, Gate.on]
    cases cfg.enableProtocolTcpFlags || cfg.enableProtocolTcpWindow <;>
      simp [fieldsInit, tcpStateInit, calcProtocolTcpUpdate_counters, u64]
  | ip =>
    simp only [Gate.mark, flowFields_probe, dataFields, ipCall, Gate.on]
    cases cfg.enableProtocolIp <;>
      simp [fieldsInit, calcProtocolIpUpdate, runningStatsInit, runningStatsUpdate, u64]
  | udp =>
    simp only [Gate.mark, flowFields_probe, dataFields, udpCall, Gate.on]
    cases cfg.enableProtocolUdp <;>
      simp [fieldsInit, updateUdpLen, runningStatsInit, runningStatsUpdate, u64]
  | port =>
    simp only [Gate.mark, flowFields_probe, dataFields, portCall, Gate.on]
    cases cfg.enableProtocolPort <;> simp [fieldsInit, calcProtocolPortUpdate, ntohs]
  | magic =>
    simp only [Gate.mark, flowFields_probe, dataFields, Gate.on]
    simp [magicCall_probe, fieldsInit]
  | payload =>
    simp only [Gate.mark, flowFields_probe, dataFields, Gate.on]
    simp only [payloadCall_probe, reduceCtorEq, if_false, fieldsInit, payloadStateInit]
    cases cfg.enablePayloadStats <;> decide
  | burst =>
    simp only [Gate.mark, flowFields_probe, dataFields, burstCall_burstPktCount, fieldsInit,
      Gate.on]
    cases cfg.enableBurst <;> simp [u32]
    split_ifs <;> simp
  | response =>
    simp only [Gate.mark, flowFields_probe, dataFields, responseCall, Gate.on]
    have later := packetInfo_probe_positive cfg .tcp (show 0 < 3 by decide) (by decide)
    cases cfg.enableIatResponse <;> simp [fieldsInit, calcResponseDelay, later.ne']
  | bigram =>
    simp only [Gate.mark, flowFields_probe, dataFields, bigramCall_total, fieldsInit, bigramInit,
      Gate.on]
    cases cfg.enableSequenceStats <;> simp [u32]
  | window =>
    have positive := fun {ms : Nat} (nonzero : 0 < ms) (small : ms < 1000) =>
      packetInfo_probe_positive cfg .tcp nonzero small
    have kept := fun info state => windowCall_windowSizeMs (D := D) info cfg state
    simp only [Gate.mark, flowFields_probe, dataFields, Gate.on, reduceCtorEq, if_false]
    rw [windowCall_windowStartUs cfg (by rw [kept, kept]; exact size rfl)
        (positive (by decide) (by decide)),
      windowCall_windowStartUs cfg (by rw [kept]; exact size rfl)
        (positive (by decide) (by decide)),
      windowCall_windowStartUs cfg (size rfl) (positive (by decide) (by decide))]
    simp [fieldsInit]

end Probe

/-- Two configurations with the same thresholds collect the same from every run if and only if
they agree on the gates. -/
theorem flowRun_eq_iff [Double D] {cfg other : FeatureConfig}
    (thresholds : cfg.toThresholds = other.toThresholds) (platform : Platform D) :
    (∀ streamType callbacks, flowRun cfg platform streamType callbacks =
      flowRun other platform streamType callbacks) ↔ SameCollection cfg other := by
  refine ⟨fun same gate => ?_, fun same streamType callbacks =>
    flowRun_congr thresholds same platform streamType callbacks⟩
  by_cases idle : gate = .window ∧ cfg.windowSizeMs = 0
  · exact Or.inr idle
  · have size : gate = .window → cfg.windowSizeMs ≠ 0 := fun window zero => idle ⟨window, zero⟩
    have otherSize : gate = .window → other.windowSizeMs ≠ 0 := by
      rw [← thresholds]
      exact size
    have marked := mark_probe cfg platform gate size
    have otherMarked := mark_probe other platform gate otherSize
    dsimp only at marked otherMarked
    set streamType := if gate = .udp then StreamType.udp else StreamType.tcp
    obtain ⟨state, run, fields_eq, after⟩ := flowRun_allocated cfg platform streamType
      (probePacket 1) [probePacket 2, probePacket 3]
    obtain ⟨otherState, otherRun, otherFields_eq, otherAfter⟩ := flowRun_allocated other platform
      streamType (probePacket 1) [probePacket 2, probePacket 3]
    have states : state = otherState :=
      Option.some.inj (run.symm.trans ((same streamType _).trans otherRun))
    rw [← fields_eq, ← after.contents_eq, states, otherFields_eq, otherAfter.contents_eq]
      at marked
    exact Or.inl (Bool.eq_iff_iff.mpr (marked.symm.trans otherMarked))

end TiFeatures
