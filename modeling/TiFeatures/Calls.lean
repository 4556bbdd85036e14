/-
This file writes out what the calls of the DATA branch do that have more than
one switch, part by part: the counters depend on no switch, and each part of the
payload, packet length and inter-arrival time statistics on the one that gates
it.
-/

import TiFeatures.Traffic

namespace TiFeatures

variable {D : Type} [Double D] (cfg : FeatureConfig) (info : PacketInfo)

theorem dirFwd_ne_dirBwd : (dirFwd = dirBwd) = False := eq_false (by decide)

/-! ### Counters -/

section Counters

variable (state : CounterState) (payload : PayloadDirState D)

/-- The counters do not depend on the configuration. -/
theorem countersCall_counters : (countersCall cfg info state payload).1 =
    { totalPackets := u64 (state.totalPackets + 1)
      fwdPackets := if info.direction = dirFwd then u64 (state.fwdPackets + 1)
        else state.fwdPackets
      bwdPackets := if info.direction = dirBwd then u64 (state.bwdPackets + 1)
        else state.bwdPackets
      totalBytes := u64 (state.totalBytes + info.pktLen)
      fwdBytes := if info.direction = dirFwd then u64 (state.fwdBytes + info.pktLen)
        else state.fwdBytes
      bwdBytes := if info.direction = dirBwd then u64 (state.bwdBytes + info.pktLen)
        else state.bwdBytes
      fwdPayloadBytes := if info.direction = dirFwd then
          u64 (state.fwdPayloadBytes + info.payloadLen)
        else state.fwdPayloadBytes
      bwdPayloadBytes := if info.direction = dirBwd then
          u64 (state.bwdPayloadBytes + info.payloadLen)
        else state.bwdPayloadBytes
      udpPackets := if info.streamType = .udp then u64 (state.udpPackets + 1)
        else state.udpPackets
      icmpPackets := state.icmpPackets
      l2Packets := u64 (state.l2Packets + 1) } := by
  unfold countersCall calcBasicCounters
  by_cases fwd : info.direction = dirFwd
  · have other : info.direction ≠ dirBwd := by
      rw [fwd]
      decide
    simp only [if_pos fwd, if_neg other]
    split_ifs <;> rfl
  · by_cases bwd : info.direction = dirBwd
    · simp only [if_neg fwd, if_pos bwd]
      split_ifs <;> rfl
    · simp only [if_neg fwd, if_neg bwd]
      split_ifs <;> rfl

/-- A payload is recorded if there is one and the flag is set. -/
theorem countersCall_accesses : (countersCall cfg info state payload).2.2 =
    if cfg.needPayloadDir && info.payloadLen > 0 then
      if info.direction = dirFwd then [.append .fwdPayloadSizes info.payloadLen]
      else if info.direction = dirBwd then [.append .bwdPayloadSizes info.payloadLen]
      else []
    else [] := by
  simp only [countersCall, calcBasicCounters]
  by_cases fwd : info.direction = dirFwd
  · rw [if_pos fwd, if_pos fwd]
    split_ifs <;> rfl
  · rw [if_neg fwd, if_neg fwd]
    split_ifs <;> rfl

/-- The payload statistics of a direction are updated when its payload is recorded. -/
theorem countersCall_payload : (countersCall cfg info state payload).2.1 =
    if cfg.needPayloadDir && info.payloadLen > 0 then
      if info.direction = dirFwd then
        { payload with
          fwdPayloadStats := runningStatsUpdate payload.fwdPayloadStats (info.payloadLen : D) }
      else if info.direction = dirBwd then
        { payload with
          bwdPayloadStats := runningStatsUpdate payload.bwdPayloadStats (info.payloadLen : D) }
      else payload
    else payload := by
  simp only [countersCall, calcBasicCounters]
  by_cases fwd : info.direction = dirFwd
  · rw [if_pos fwd, if_pos fwd]
    split_ifs <;> rfl
  · rw [if_neg fwd, if_neg fwd]
    split_ifs <;> rfl

end Counters

/-! ### Packet lengths -/

/-- Each part of the packet length statistics, by the switch it depends on. -/
theorem pktLenCall_state (state : PktLenState D) : (pktLenCall cfg info state).1 =
    { smallPktCount := if cfg.enableBasicPktLength && info.pktLen ≤ cfg.smallPktThreshold then
          u32 (state.smallPktCount + 1)
        else state.smallPktCount
      largePktCount := if cfg.enableBasicPktLength && info.pktLen ≥ cfg.largePktThreshold then
          u32 (state.largePktCount + 1)
        else state.largePktCount
      pktLenStats := if cfg.enableBasicPktLength then
          runningStatsUpdate state.pktLenStats (info.pktLen : D)
        else state.pktLenStats
      fwdPktLen := if cfg.needFwdBwdPktLens then
          directionalStatsUpdate state.fwdPktLen info.direction (info.pktLen : D)
        else state.fwdPktLen
      bwdPktLen := if cfg.needFwdBwdPktLens then
          directionalStatsUpdate state.bwdPktLen info.direction (info.pktLen : D)
        else state.bwdPktLen } := by
  simp only [pktLenCall, calcPacketLengthStats]
  by_cases collected : cfg.enableBasicPktLength = true
  · simp only [collected, if_true, Bool.true_and, decide_eq_true_eq]
    split_ifs <;> rfl
  · simp only [collected, Bool.false_and, Bool.false_eq_true, if_false]
    split_ifs <;> rfl

/-! ### Inter-arrival times -/

section Iat

variable {state : IatState D}

/-- The first packet only sets the arrival time. -/
theorem iatCall_first (first : state.lastArrivalUs = 0) :
    iatCall cfg info state = ({ state with lastArrivalUs := info.tsUs }, []) := by
  rw [iatCall, calcIatUpdate, if_pos first]

omit [Double D] in
/-- The inter-arrival time is added to the active or to the idle time. -/
theorem calcActiveIdleTime_ite (active : Bool) (iatUs : Nat) :
    (if active then calcActiveIdleTime cfg state iatUs else state) =
      { state with
        activeTimeUs := if active && iatUs ≤ cfg.activeIatThresholdUs then
            u64 (state.activeTimeUs + iatUs)
          else state.activeTimeUs
        idleTimeUs := if active && iatUs > cfg.activeIatThresholdUs then
            u64 (state.idleTimeUs + iatUs)
          else state.idleTimeUs } := by
  cases active with
  | false => rfl
  | true =>
    simp only [calcActiveIdleTime, if_true, Bool.true_and, decide_eq_true_eq]
    by_cases short : iatUs ≤ cfg.activeIatThresholdUs
    · rw [if_pos short, if_pos short, if_neg (Nat.not_lt.mpr short)]
    · rw [if_neg short, if_neg short, if_pos (Nat.not_le.mp short)]

/-- Each part of the inter-arrival times after a later packet, by the switches it depends on. -/
theorem iatCall_later (later : state.lastArrivalUs ≠ 0) :
    let iat := u64Sub info.tsUs state.lastArrivalUs
    let record := fun (dir lastUs : Nat) =>
      cfg.needFwdBwdIats && info.direction = dir && lastUs > 0
    iatCall cfg info state =
      ({ lastFwdUs := if info.direction = dirFwd then info.tsUs else state.lastFwdUs
         lastBwdUs := if info.direction = dirBwd then info.tsUs else state.lastBwdUs
         lastArrivalUs := info.tsUs
         activeTimeUs := if cfg.enableIatActive && iat ≤ cfg.activeIatThresholdUs then
             u64 (state.activeTimeUs + iat)
           else state.activeTimeUs
         idleTimeUs := if cfg.enableIatActive && iat > cfg.activeIatThresholdUs then
             u64 (state.idleTimeUs + iat)
           else state.idleTimeUs
         iatStats := if cfg.enableIatStats then runningStatsUpdate state.iatStats (iat : D)
           else state.iatStats
         fwdIat := if record dirFwd state.lastFwdUs then
             { state.fwdIat with
               fwd := runningStatsUpdate state.fwdIat.fwd
                 ((u64Sub info.tsUs state.lastFwdUs : Nat) : D) }
           else state.fwdIat
         bwdIat := if record dirBwd state.lastBwdUs then
             { state.bwdIat with
               bwd := runningStatsUpdate state.bwdIat.bwd
                 ((u64Sub info.tsUs state.lastBwdUs : Nat) : D) }
           else state.bwdIat },
        (if record dirFwd state.lastFwdUs then
          [.append .fwdIats (u64Sub info.tsUs state.lastFwdUs)] else []) ++
        (if record dirBwd state.lastBwdUs then
          [.append .bwdIats (u64Sub info.tsUs state.lastBwdUs)] else []) ++
        (if cfg.needIatSeq then [.push .iatSeq iat] else [])) := by
  dsimp only
  rw [iatCall, calcIatUpdate, if_neg later]
  have apart : (cfg.needFwdBwdIats && decide (info.direction = dirFwd) &&
      decide (state.lastFwdUs > 0)) = true →
      (cfg.needFwdBwdIats && decide (info.direction = dirBwd) &&
        decide (state.lastBwdUs > 0)) = false := by
    intro fwd
    simp only [Bool.and_eq_true, decide_eq_true_eq] at fwd
    simp only [fwd.1.2, dirFwd_ne_dirBwd, decide_false, Bool.and_false, Bool.false_and]
  refine Prod.ext ?_ rfl
  dsimp only
  rw [calcActiveIdleTime_ite]
  by_cases recordFwd : (cfg.needFwdBwdIats && decide (info.direction = dirFwd) &&
      decide (state.lastFwdUs > 0)) = true
  · simp only [if_pos recordFwd, apart recordFwd]
    cases cfg.enableIatStats <;> rfl
  · simp only [if_neg recordFwd]
    split_ifs <;> rfl

end Iat

/-! ### Bursts and bigrams -/

omit [Double D] in
/-- The number of packets in the open burst. -/
theorem burstCall_burstPktCount (state : BurstState) (iatUs : Nat) :
    (burstCall (D := D) cfg info state iatUs).1.burstPktCount =
      if cfg.enableBurst then
        if iatUs ≤ cfg.burstIatThresholdUs then u32 (state.burstPktCount + 1) else 1
      else state.burstPktCount := by
  unfold burstCall calcBurstUpdate
  split_ifs <;> rfl

/-- The place of a bigram is within the table. -/
theorem bigramIndex_lt (prev curr : PktSizeClass) : prev.rank * 3 + curr.rank < 9 := by
  cases prev <;> cases curr <;> decide

theorem bigramUpdate_eq (stats : BigramStats) (prev curr : PktSizeClass) :
    bigramUpdate stats prev curr =
      ⟨stats.counts.set (prev.rank * 3 + curr.rank)
          (u32 (stats.counts.getD (prev.rank * 3 + curr.rank) 0 + 1)),
        u32 (stats.total + 1)⟩ :=
  if_pos (bigramIndex_lt prev curr)

/-- Every packet ends a bigram. -/
theorem bigramCall_total (state : BigramState) :
    (bigramCall cfg info state).bigramStats.total =
      if cfg.enableSequenceStats then u32 (state.bigramStats.total + 1)
      else state.bigramStats.total := by
  simp only [bigramCall, bigramUpdate_eq]
  split <;> rfl

/-! ### Windows -/

omit [Double D] in
/-- Without a window size the window update does nothing. -/
theorem windowCall_zero {state : WindowState} (zero : state.windowSizeMs = 0) :
    windowCall (D := D) cfg info state = (state, []) := by
  simp only [windowCall, calcWindowUpdate, zero, if_true, ite_self]

/-! ### TCP -/

/-- Every TCP header counts as a packet, and those with the SYN flag as a SYN packet. -/
theorem calcProtocolTcpUpdate_counters (state : TcpState D) (tcph : TcpHeader)
    (payloadLen window direction tcpSeq tsUs : Nat) :
    let next := (calcProtocolTcpUpdate state tcph payloadLen window direction tcpSeq tsUs).1
    next.tcpPackets = u64 (state.tcpPackets + 1) ∧
      next.tcpSynCount = countIf tcph.syn state.tcpSynCount := by
  simp only [calcProtocolTcpUpdate, updateRetransmission, updateRst]
  split_ifs <;> exact ⟨rfl, rfl⟩

/-! ### Payloads -/

/-- What the byte loop leaves alone is what it was. -/
theorem foldl_updatePayloadByte {Value : Type} (read : PayloadState D → Value)
    (kept : ∀ state byte, read (updatePayloadByte state byte) = read state)
    (payload : List UInt8) (state : PayloadState D) :
    read (payload.foldl updatePayloadByte state) = read state := by
  induction payload generalizing state with
  | nil => rfl
  | cons byte rest inductionHypothesis => exact (inductionHypothesis _).trans (kept state byte)

/-- The counters of the payload statistics after a payload that is not empty. -/
theorem calcPayloadStats_counters (platform : Platform D) (state : PayloadState D)
    (payload : List UInt8) {payloadLen : Nat} (nonempty : payloadLen ≠ 0) :
    let next := (calcPayloadStats platform state payload payloadLen).1
    next.payloadNonEmptyCount = u32 (state.payloadNonEmptyCount + 1) ∧
      next.payloadTotalBytes = u32 (state.payloadTotalBytes + payloadLen) ∧
      next.hasLastPayloadLen = true ∧
      next.payloadSizeDiffStats.count = (if state.hasLastPayloadLen then
        u64 (state.payloadSizeDiffStats.count + 1) else state.payloadSizeDiffStats.count) ∧
      next.payloadMod.length = min state.payloadMod.length payloadMods.length := by
  simp only [calcPayloadStats, if_neg nonempty, List.length_map, List.length_zip]
  rw [foldl_updatePayloadByte PayloadState.payloadNonEmptyCount fun _ _ => rfl,
    foldl_updatePayloadByte PayloadState.payloadTotalBytes fun _ _ => rfl,
    foldl_updatePayloadByte PayloadState.hasLastPayloadLen fun _ _ => rfl,
    foldl_updatePayloadByte PayloadState.payloadSizeDiffStats fun _ _ => rfl,
    foldl_updatePayloadByte PayloadState.payloadMod fun _ _ => rfl]
  refine ⟨rfl, rfl, rfl, ?_, rfl⟩
  by_cases last : state.hasLastPayloadLen = true
  · simp only [if_pos last, runningStatsUpdate]
  · simp only [if_neg last]

end TiFeatures
