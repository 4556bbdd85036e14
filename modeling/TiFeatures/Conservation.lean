/-
This file relates the counters of a flow to each other. One invariant holds of
all of them after every packet: the parts of a total never exceed it, so no
difference of counters wraps and no share of a total is above one.
-/

import TiFeatures.Arithmetic
import TiFeatures.Directions

namespace TiFeatures

variable {D : Type}

/-! ### Counters of one packet -/

/-- A counter that has room for one more counts without a wrap. -/
theorem countIf_of_lt {count : Nat} (room : count + 1 < 2 ^ 32) (condition : Bool) :
    countIf condition count = count + condition.toNat := by
  unfold countIf
  cases condition with
  | true => exact u32_of_lt room
  | false => rfl

theorem countIf_le (condition : Bool) (count : Nat) : countIf condition count ≤ count + 1 := by
  unfold countIf
  split
  · exact Nat.mod_le _ _
  · exact Nat.le_succ count

/-- A payload may count as a retransmission, and the sequence numbers are kept. -/
theorem updateRetransmission_eq (state : TcpState D) (direction tcpSeq : Nat) :
    ∃ again hasLastFwdSeq hasLastBwdSeq lastFwdSeq lastBwdSeq,
      updateRetransmission state direction tcpSeq = { state with
        tcpRetransmissionCount := countIf again state.tcpRetransmissionCount
        hasLastFwdSeq
        hasLastBwdSeq
        lastFwdSeq
        lastBwdSeq } := by
  unfold updateRetransmission
  split
  · exact ⟨_, _, _, _, _, rfl⟩
  · split
    · exact ⟨_, _, _, _, _, rfl⟩
    · exact ⟨false, _, _, _, _, rfl⟩

/-- The counters of a TCP header, each counted under its own condition. -/
theorem calcProtocolTcpUpdate_counts [Double D] (state : TcpState D) (tcph : TcpHeader)
    (payloadLen window direction tcpSeq tsUs : Nat) :
    let next := (calcProtocolTcpUpdate state tcph payloadLen window direction tcpSeq tsUs).1
    next.tcpSynOnlyCount = countIf (tcph.syn && !tcph.ack) state.tcpSynOnlyCount ∧
      next.tcpSynAckCount = countIf (tcph.syn && tcph.ack) state.tcpSynAckCount ∧
      next.tcpRstCount = countIf tcph.rst state.tcpRstCount ∧
      next.tcpAckOnlyCount = countIf
        (tcph.ack && !tcph.syn && !tcph.fin && !tcph.rst && !tcph.psh && payloadLen == 0)
        state.tcpAckOnlyCount ∧
      next.tcpPayloadPackets = countIf (payloadLen > 0) state.tcpPayloadPackets ∧
      ∃ again : Bool, (again = true → payloadLen > 0) ∧
        next.tcpRetransmissionCount = countIf again state.tcpRetransmissionCount := by
  have rstCount : countIf tcph.rst state.tcpRstCount =
      if tcph.rst then u32 (state.tcpRstCount + 1) else state.tcpRstCount := rfl
  simp only [calcProtocolTcpUpdate]
  by_cases payload : payloadLen > 0
  · simp only [if_pos payload]
    generalize tracked_eq : updateRetransmission _ direction tcpSeq = tracked
    obtain ⟨again, _, _, _, _, eq⟩ := updateRetransmission_eq _ direction tcpSeq
    rw [eq] at tracked_eq
    subst tracked_eq
    by_cases reset : tcph.rst = true
    · simp only [rstCount, if_pos reset, updateRst, true_and]
      exact ⟨again, fun _ => payload, rfl⟩
    · simp only [rstCount, if_neg reset, true_and]
      exact ⟨again, fun _ => payload, rfl⟩
  · simp only [if_neg payload]
    have never : (false = true → payloadLen > 0) := fun taken => Bool.noConfusion taken
    by_cases reset : tcph.rst = true
    · simp only [rstCount, if_pos reset, updateRst, true_and]
      exact ⟨false, never, rfl⟩
    · simp only [rstCount, if_neg reset, true_and]
      exact ⟨false, never, rfl⟩

/-- Taking three parts off their total borrows nowhere. -/
theorem u64Sub_parts {total first second third : Nat} (within : first + second + third ≤ total)
    (small : total < 2 ^ 64) :
    u64Sub (u64Sub (u64Sub total first) second) third = total - first - second - third := by
  have afterFirst : u64Sub total first = total - first := u64Sub_of_le (by omega) small
  have afterSecond : u64Sub (total - first) second = total - first - second :=
    u64Sub_of_le (by omega) (by omega)
  rw [afterFirst, afterSecond]
  exact u64Sub_of_le (by omega) (by omega)

/-! ### The invariant -/

/-- The packet and byte counters of the directions are parts of the totals. -/
structure CounterState.Conserved (state : CounterState) (infos : List PacketInfo) : Prop where
  totalPackets_eq : state.totalPackets = infos.length
  totalBytes_eq : state.totalBytes = (infos.map PacketInfo.pktLen).sum
  packets_le : state.fwdPackets + state.bwdPackets ≤ state.totalPackets
  bytes_le : state.fwdBytes + state.bwdBytes ≤ state.totalBytes
  sided : (∀ info ∈ infos, info.direction = dirFwd ∨ info.direction = dirBwd) →
    state.fwdPackets + state.bwdPackets = state.totalPackets ∧
      state.fwdBytes + state.bwdBytes = state.totalBytes

/-- The TCP counters are parts of the number of TCP packets. -/
structure TcpState.Conserved (state : TcpState D) : Prop where
  syn_eq : state.tcpSynCount = state.tcpSynOnlyCount + state.tcpSynAckCount
  syn_le : state.tcpSynCount ≤ state.tcpPackets
  rst_le : state.tcpRstCount ≤ state.tcpPackets
  payload_le : state.tcpAckOnlyCount + state.tcpPayloadPackets ≤ state.tcpPackets
  retransmission_le : state.tcpRetransmissionCount ≤ state.tcpPayloadPackets

/-- The counters of a flow are conserved: every part is within its total. -/
structure CountersConserved (infos : List PacketInfo) (fields : Fields D) : Prop where
  counters : fields.counters.Conserved infos
  tcp : fields.tcp.Conserved
  protocols_le : fields.tcp.tcpPackets + fields.counters.udpPackets +
    fields.counters.icmpPackets ≤ fields.counters.totalPackets
  wellKnownSrc_le : fields.port.wellKnownSrcCount ≤ fields.counters.totalPackets
  wellKnownDst_le : fields.port.wellKnownDstCount ≤ fields.counters.totalPackets

theorem sum_pktLen_le {infos : List PacketInfo} (ranges : ∀ info ∈ infos, info.InRange) :
    (infos.map PacketInfo.pktLen).sum ≤ infos.length * (2 ^ 32 - 1) := by
  induction infos with
  | nil => exact Nat.zero_le _
  | cons info rest inductionHypothesis =>
    have others := inductionHypothesis fun other member =>
      ranges other (List.mem_cons_of_mem _ member)
    have first := (ranges info List.mem_cons_self).pktLen_lt
    rw [List.map_cons, List.sum_cons, List.length_cons, Nat.succ_mul]
    omega

/-- Counting a packet keeps the directions within the totals. -/
theorem CounterState.Conserved.step [Double D] {state : CounterState} {infos : List PacketInfo}
    (conserved : state.Conserved infos) {info : PacketInfo}
    (ranges : ∀ other ∈ infos ++ [info], other.InRange) (few : (infos ++ [info]).length < 2 ^ 32)
    (cfg : FeatureConfig) (payload : PayloadDirState D) :
    (countersCall cfg info state payload).1.Conserved (infos ++ [info]) := by
  obtain ⟨total_eq, bytes_eq, packets_le, bytes_le, sided⟩ := conserved
  have bytes_small := sum_pktLen_le ranges
  rw [List.map_append, List.sum_append, List.map_singleton, List.sum_singleton, ← bytes_eq]
    at bytes_small
  have product : (infos ++ [info]).length * (2 ^ 32 - 1) < 2 ^ 32 * 2 ^ 32 :=
    Nat.mul_lt_mul_of_lt_of_le few (by decide) (by decide)
  have bytes_lt : state.totalBytes + info.pktLen < 2 ^ 64 := bytes_small.trans_lt product
  rw [List.length_append, List.length_singleton, ← total_eq] at few
  have countedPackets : u64 (state.totalPackets + 1) = state.totalPackets + 1 :=
    u64_of_lt (by omega)
  have countedBytes := u64_of_lt bytes_lt
  have sidedPackets : u64 (state.fwdPackets + 1) = state.fwdPackets + 1 ∧
      u64 (state.bwdPackets + 1) = state.bwdPackets + 1 :=
    ⟨u64_of_lt (by omega), u64_of_lt (by omega)⟩
  have sidedBytes : u64 (state.fwdBytes + info.pktLen) = state.fwdBytes + info.pktLen ∧
      u64 (state.bwdBytes + info.pktLen) = state.bwdBytes + info.pktLen :=
    ⟨u64_of_lt (by omega), u64_of_lt (by omega)⟩
  rw [countersCall_counters]
  simp only [countedPackets, countedBytes, sidedPackets, sidedBytes]
  constructor
  · rw [total_eq, List.length_append, List.length_singleton]
  · rw [bytes_eq, List.map_append, List.sum_append]
    rfl
  · dsimp only
    by_cases forward : info.direction = dirFwd
    · rw [if_pos forward, forward, if_neg (by decide)]
      omega
    · rw [if_neg forward]
      split <;> omega
  · dsimp only
    by_cases forward : info.direction = dirFwd
    · rw [if_pos forward, forward, if_neg (by decide)]
      omega
    · rw [if_neg forward]
      split <;> omega
  · intro directed
    obtain ⟨packets_eq, bytes_eq⟩ := sided fun other member =>
      directed other (List.mem_append_left _ member)
    dsimp only
    rcases directed info (List.mem_append_right _ List.mem_cons_self) with forward | backward
    · rw [if_pos forward, if_pos forward, forward, if_neg (by decide), if_neg (by decide)]
      omega
    · rw [if_pos backward, if_pos backward, backward, if_neg (by decide), if_neg (by decide)]
      omega

/-- A TCP header keeps the TCP counters within the number of TCP packets. -/
theorem TcpState.Conserved.step [Double D] {state : TcpState D} (conserved : state.Conserved)
    (few : state.tcpPackets + 1 < 2 ^ 32) (tcph : TcpHeader)
    (payloadLen window direction tcpSeq tsUs : Nat) :
    let next := (calcProtocolTcpUpdate state tcph payloadLen window direction tcpSeq tsUs).1
    next.Conserved ∧ next.tcpPackets = state.tcpPackets + 1 := by
  obtain ⟨syn_eq, syn_le, rst_le, payload_le, retransmission_le⟩ := conserved
  obtain ⟨packets, syn⟩ := calcProtocolTcpUpdate_counters state tcph payloadLen window direction
    tcpSeq tsUs
  obtain ⟨synOnly, synAck, rst, ackOnly, payload, again, retransmits, retransmission⟩ :=
    calcProtocolTcpUpdate_counts state tcph payloadLen window direction tcpSeq tsUs
  rw [u64_of_lt (by omega)] at packets
  rw [countIf_of_lt (by omega)] at syn synOnly synAck rst ackOnly payload retransmission
  refine ⟨⟨?_, ?_, ?_, ?_, ?_⟩, packets⟩
  · have parts : tcph.syn.toNat = (tcph.syn && !tcph.ack).toNat + (tcph.syn && tcph.ack).toNat := by
      cases tcph.syn <;> cases tcph.ack <;> rfl
    rw [syn, synOnly, synAck, syn_eq, parts]
    omega
  · rw [syn, packets]
    exact Nat.add_le_add syn_le (Bool.toNat_le _)
  · rw [rst, packets]
    exact Nat.add_le_add rst_le (Bool.toNat_le _)
  · rw [ackOnly, payload, packets]
    by_cases empty : payloadLen = 0
    · have none : (decide (payloadLen > 0)).toNat = 0 := by
        rw [empty]
        rfl
      have once := Bool.toNat_le
        (tcph.ack && !tcph.syn && !tcph.fin && !tcph.rst && !tcph.psh && payloadLen == 0)
      omega
    · have other : (payloadLen == 0) = false := beq_eq_false_iff_ne.mpr empty
      have once := Bool.toNat_le (decide (payloadLen > 0))
      rw [other, Bool.and_false, Bool.toNat_false]
      omega
  · rw [retransmission, payload]
    cases again with
    | true =>
      rw [decide_eq_true (retransmits rfl)]
      exact Nat.succ_le_succ retransmission_le
    | false => exact retransmission_le.trans (Nat.le_add_right _ _)

/-- A packet keeps the counters of its connection conserved, and a UDP packet leaves them alone. -/
theorem TcpState.Conserved.call [Double D] {state : TcpState D} (conserved : state.Conserved)
    (few : state.tcpPackets + 1 < 2 ^ 32) (cfg : FeatureConfig) (info : PacketInfo) :
    (tcpCall cfg info state).1.Conserved ∧
      (tcpCall cfg info state).1.tcpPackets ≤
        if info.streamType = .udp then state.tcpPackets else state.tcpPackets + 1 := by
  cases stream : info.streamType with
  | udp =>
    simp only [tcpCall, stream, if_true]
    exact ⟨conserved, le_refl _⟩
  | tcp =>
    rw [if_neg (by decide)]
    cases header : info.tcph with
    | none =>
      simp only [tcpCall, stream, header]
      exact ⟨conserved, Nat.le_succ _⟩
    | some tcph =>
      simp only [tcpCall, stream, header]
      split
      · have updated := conserved.step few tcph info.payloadLen tcph.window info.direction
          tcph.seq info.tsUs
        exact ⟨updated.1, updated.2.le⟩
      · exact ⟨conserved, Nat.le_succ _⟩

/-- A packet counts at most one well-known port on either side. -/
theorem portCall_wellKnown_le (cfg : FeatureConfig) (info : PacketInfo) (state : PortState) :
    (portCall cfg info state).wellKnownSrcCount ≤ state.wellKnownSrcCount + 1 ∧
      (portCall cfg info state).wellKnownDstCount ≤ state.wellKnownDstCount + 1 := by
  simp only [portCall]
  split
  · split
    · exact ⟨countIf_le _ _, countIf_le _ _⟩
    · exact ⟨Nat.le_succ _, Nat.le_succ _⟩
  · exact ⟨Nat.le_succ _, Nat.le_succ _⟩

/-- A packet keeps the counters of a flow conserved. -/
theorem CountersConserved.step [Double D] {infos : List PacketInfo} {fields : Fields D}
    (conserved : CountersConserved infos fields) {info : PacketInfo}
    (ranges : ∀ other ∈ infos ++ [info], other.InRange) (few : (infos ++ [info]).length < 2 ^ 32)
    (cfg : FeatureConfig) (platform : Platform D) :
    CountersConserved (infos ++ [info]) (dataFields cfg platform info fields) := by
  obtain ⟨counters, tcp, protocols_le, src_le, dst_le⟩ := conserved
  have next := counters.step ranges few cfg fields.payloadDir
  have total_eq := counters.totalPackets_eq
  have totalNext_eq := next.totalPackets_eq
  rw [List.length_append, List.length_singleton] at few totalNext_eq
  have counted : (dataFields cfg platform info fields).counters.udpPackets =
      (if info.streamType = .udp then fields.counters.udpPackets + 1
        else fields.counters.udpPackets) ∧
      (dataFields cfg platform info fields).counters.icmpPackets =
        fields.counters.icmpPackets := by
    simp only [dataFields, countersCall_counters, and_true]
    rw [u64_of_lt (by omega)]
  have tcpNext : (dataFields cfg platform info fields).tcp.Conserved ∧
      (dataFields cfg platform info fields).tcp.tcpPackets ≤
        if info.streamType = .udp then fields.tcp.tcpPackets else fields.tcp.tcpPackets + 1 :=
    tcp.call (by omega) cfg info
  have portNext : (dataFields cfg platform info fields).port.wellKnownSrcCount ≤
      fields.port.wellKnownSrcCount + 1 ∧
      (dataFields cfg platform info fields).port.wellKnownDstCount ≤
        fields.port.wellKnownDstCount + 1 := portCall_wellKnown_le cfg info fields.port
  have totalNext : (dataFields cfg platform info fields).counters.totalPackets =
      fields.counters.totalPackets + 1 := totalNext_eq.trans (by rw [total_eq])
  refine ⟨next, tcpNext.1, ?_, ?_, ?_⟩
  · rw [counted.1, counted.2, totalNext]
    have packets_le := tcpNext.2
    split at packets_le <;> rename_i stream
    · rw [if_pos stream]
      omega
    · rw [if_neg stream]
      omega
  · rw [totalNext]
    exact portNext.1.trans (Nat.succ_le_succ src_le)
  · rw [totalNext]
    exact portNext.2.trans (Nat.succ_le_succ dst_le)

/-- The counters of every run of fewer than `2 ^ 32` packets are conserved. -/
theorem flowRun_countersConserved [Double D] {cfg : FeatureConfig} {platform : Platform D}
    {streamType : StreamType} {callbacks : List (Allocs × RawPacket)}
    (few : callbacks.length < 2 ^ 32) {flow : FlowFeatureState D}
    (run : flowRun cfg platform streamType callbacks = some flow) :
    CountersConserved (packetInfos cfg streamType (callbacks.map Prod.snd)) flow.fields := by
  have later : ∀ (rest before : List PacketInfo) (fields : Fields D),
      CountersConserved before fields → (∀ info ∈ before ++ rest, info.InRange) →
      (before ++ rest).length < 2 ^ 32 →
      CountersConserved (before ++ rest) ((flowMachine cfg platform).run fields rest) := by
    intro rest
    induction rest with
    | nil => exact fun before _ conserved _ _ => (List.append_nil before).symm ▸ conserved
    | cons info rest inductionHypothesis =>
      intro before fields conserved ranges short
      rw [List.append_cons] at ranges short ⊢
      refine inductionHypothesis _ _ (conserved.step (fun other member => ranges other
        (List.mem_append_left _ member)) ?_ cfg platform) ranges short
      rw [List.length_append] at short
      exact (Nat.le_add_right _ _).trans_lt short
  match callbacks with
  | [] => cases run
  | first :: rest =>
    rw [flowRun_fields run]
    have initial : CountersConserved [] (fieldsInit cfg (packetTsUs cfg first.2) : Fields D) :=
      ⟨⟨rfl, rfl, le_refl _, le_refl _, fun _ => ⟨rfl, rfl⟩⟩,
        ⟨rfl, le_refl _, le_refl _, le_refl _, le_refl _⟩, le_refl _, le_refl _, le_refl _⟩
    refine later (packetInfos cfg streamType ((first :: rest).map Prod.snd)) [] _ initial ?_ ?_
    · intro info member
      obtain ⟨packet, -, rfl⟩ := List.mem_map.mp member
      exact packetInfo_inRange cfg streamType packet
    · rw [List.nil_append, packetInfos, List.length_map, List.length_map]
      exact few

/-! ### Ratios -/

/-- The ratios of two counters where one counts a part of the other. -/
def counterRatios : List String :=
  ["tcp_connection_success_rate", "tcp_syn_ratio", "tcp_rst_ratio", "tcp_ack_only_ratio",
    "tcp_payload_packet_ratio", "tcp_syn_only_ratio", "tcp_half_open_ratio",
    "avg_retransmission_rate", "well_known_dst_port_ratio", "well_known_src_port_ratio",
    "protocol_tcp_ratio", "protocol_udp_ratio", "protocol_icmp_ratio", "protocol_other_ratio"]

section Ratios

variable [Double D]

/-- A number between zero and one. -/
def Proportion (value : D) : Prop := Double.ble 0 value = true ∧ Double.ble value 1 = true

/-- A feature is not one of the ratios, or it is between zero and one. -/
def RatioBounded (feature : String × Json D) : Prop :=
  feature.1 ∈ counterRatios → ∃ value, feature.2 = .num value ∧ Proportion value

theorem ratioBounded_other {key : String} {value : Json D} (other : key ∉ counterRatios) :
    RatioBounded (key, value) := fun member => absurd member other

theorem ratioBounded_proportion {key : String} {value : D} (proportion : Proportion value) :
    RatioBounded (addNumber key value) := fun _ => ⟨value, rfl, proportion⟩

theorem ratiosBounded_of_keys {output : Output D}
    (others : ∀ key ∈ output.keys, key ∉ counterRatios) :
    ∀ feature ∈ output, RatioBounded feature := fun feature member =>
  ratioBounded_other (others feature.1 (List.mem_map_of_mem member))

theorem forall_mem_if_feature {condition : Prop} [Decidable condition] {output : Output D}
    (all : condition → ∀ feature ∈ output, RatioBounded feature) :
    ∀ feature ∈ (if condition then output else []), RatioBounded feature := by
  split
  · rename_i taken
    exact all taken
  · exact fun feature member => absurd member List.not_mem_nil

theorem runningStatsFeatures_ratios {name : String} (stats : RunningStats D)
    (others : ∀ key ∈ ["_mean", "_std", "_min", "_max", "_skew", "_kurt"],
      name ++ key ∉ counterRatios) :
    ∀ feature ∈ runningStatsFeatures name stats, RatioBounded feature := by
  refine ratiosBounded_of_keys fun key member => ?_
  have keys_eq : (runningStatsFeatures name stats).keys =
      ["_mean", "_std", "_min", "_max", "_skew", "_kurt"].map (name ++ ·) := rfl
  rw [keys_eq] at member
  obtain ⟨suffix, inside, rfl⟩ := List.mem_map.mp member
  exact others suffix inside

theorem quartileFeatures_ratios {name : String} (values : List Nat)
    (others : ∀ key ∈ ["_median", "_q1", "_q3"], name ++ key ∉ counterRatios) :
    ∀ feature ∈ (quartileFeatures name values : Output D), RatioBounded feature := by
  refine forall_mem_if_feature fun _ => ratiosBounded_of_keys fun key member => ?_
  have member : key ∈ ["_median", "_q1", "_q3"].map (name ++ ·) := member
  obtain ⟨suffix, inside, rfl⟩ := List.mem_map.mp member
  exact others suffix inside

variable (ordered : OrderedQuotients D)

include ordered

/-- A part of a total is a proportion of it. -/
theorem proportion_div {part whole : Nat} (within : part ≤ whole) (positive : 0 < whole)
    (small : whole < 2 ^ 64) : Proportion ((part : D) / (whole : D)) :=
  ⟨ordered.zero_ble_div part whole (within.trans_lt small) positive small,
    ordered.div_ble_one part whole within positive small⟩

theorem proportion_zero : Proportion (0 : D) := ⟨ordered.zero_ble_zero, ordered.zero_ble_one⟩

theorem proportion_if {part whole : Nat} (within : part ≤ whole) (small : whole < 2 ^ 64) :
    Proportion (if whole > 0 then (part : D) / (whole : D) else 0) := by
  split
  · rename_i positive
    exact proportion_div ordered within positive small
  · exact proportion_zero ordered

theorem protocolTcpFlags_ratios {state : TcpState D} (conserved : state.Conserved)
    (small : state.tcpPackets < 2 ^ 32) (counters : CounterState) :
    ∀ feature ∈ protocolTcpFlags state counters, RatioBounded feature := by
  obtain ⟨syn_eq, syn_le, rst_le, payload_le, -⟩ := conserved
  have halfOpen : u32 (state.tcpSynCount + 2 ^ 32 - state.tcpSynAckCount) =
      state.tcpSynOnlyCount := by
    unfold u32
    omega
  simp only [protocolTcpFlags, List.forall_mem_append]
  refine ⟨⟨⟨ratiosBounded_of_keys ?_, forall_mem_if_feature fun synSeen => ?_⟩,
    forall_mem_if_feature fun tcpSeen => ?_⟩, ?_⟩
  · simp only [Output.keys, List.map_cons, List.map_nil, addNumber]
    decide
  · exact List.forall_mem_singleton.mpr
      (ratioBounded_proportion (proportion_div ordered (by omega) synSeen (by omega)))
  · simp only [List.forall_mem_cons, List.not_mem_nil, false_imp_iff, implies_true, and_true]
    have fits : state.tcpPackets < 2 ^ 64 := small.trans (by decide)
    exact ⟨ratioBounded_proportion (proportion_div ordered syn_le tcpSeen fits),
      ratioBounded_proportion (proportion_div ordered rst_le tcpSeen fits),
      ratioBounded_proportion (proportion_div ordered (by omega) tcpSeen fits),
      ratioBounded_proportion (proportion_div ordered (by omega) tcpSeen fits),
      ratioBounded_proportion (proportion_div ordered (by omega) tcpSeen fits)⟩
  · rw [halfOpen]
    exact List.forall_mem_singleton.mpr
      (ratioBounded_proportion (proportion_if ordered (by omega) (by omega)))

theorem protocolPort_ratios {tcp : TcpState D} (conserved : tcp.Conserved)
    (tcpSmall : tcp.tcpPackets < 2 ^ 32) (srcIpIsPrivate dstIpIsPrivate : Bool)
    (ipFragCount : Nat) {port : PortState} {counters : CounterState}
    (small : counters.totalPackets < 2 ^ 64)
    (src_le : port.wellKnownSrcCount ≤ counters.totalPackets)
    (dst_le : port.wellKnownDstCount ≤ counters.totalPackets) :
    ∀ feature ∈ protocolPort tcp srcIpIsPrivate dstIpIsPrivate ipFragCount port counters,
      RatioBounded feature := by
  have payload_le := conserved.payload_le
  simp only [protocolPort, List.forall_mem_cons, List.not_mem_nil, false_imp_iff, implies_true,
    and_true]
  refine ⟨ratioBounded_proportion (proportion_if ordered conserved.retransmission_le (by omega)),
    ?_, ?_, ?_, ?_, ?_, ?_, ratioBounded_proportion (proportion_if ordered dst_le small),
    ratioBounded_proportion (proportion_if ordered src_le small), ?_, ?_, ?_, ?_, ?_, ?_, ?_, ?_,
    ?_, ?_, ?_, ?_, ?_, ?_, ?_, ?_⟩
  all_goals exact ratioBounded_other (by decide)

/-- The ratios of `calc_derived_protocol` are between zero and one. -/
theorem calcDerivedProtocol_ratios (cfg : FeatureConfig) {infos : List PacketInfo} (view : View D)
    (conserved : CountersConserved infos view.toFields)
    (small : view.counters.totalPackets < 2 ^ 32) :
    ∀ feature ∈ calcDerivedProtocol cfg view, RatioBounded feature := by
  have protocols_le := conserved.protocols_le
  have tcpSmall : view.tcp.tcpPackets < 2 ^ 32 := by omega
  simp only [calcDerivedProtocol, List.forall_mem_append]
  refine ⟨⟨⟨⟨forall_mem_if_feature fun _ => ?_, forall_mem_if_feature fun _ => ?_⟩,
    forall_mem_if_feature fun _ => ?_⟩, forall_mem_if_feature fun _ => ?_⟩,
    forall_mem_if_feature fun _ => ?_⟩
  · exact protocolTcpFlags_ratios ordered conserved.tcp tcpSmall view.counters
  · simp only [protocolTcpWindow, List.forall_mem_append]
    exact ⟨runningStatsFeatures_ratios _ (by decide), quartileFeatures_ratios _ (by decide)⟩
  · simp only [protocolIp, List.forall_mem_append]
    refine ⟨⟨⟨⟨runningStatsFeatures_ratios _ (by decide),
      runningStatsFeatures_ratios _ (by decide)⟩,
      quartileFeatures_ratios _ (by decide)⟩, forall_mem_if_feature fun _ => ?_⟩,
      quartileFeatures_ratios _ (by decide)⟩
    refine ratiosBounded_of_keys ?_
    simp only [Output.keys, List.map_cons, List.map_nil, addNumber]
    decide
  · simp only [protocolUdp, List.forall_mem_append]
    exact ⟨runningStatsFeatures_ratios _ (by decide), quartileFeatures_ratios _ (by decide)⟩
  · exact protocolPort_ratios ordered conserved.tcp tcpSmall _ _ _ (small.trans (by decide))
      conserved.wellKnownSrc_le conserved.wellKnownDst_le

/-- The ratios of `calc_derived_behavior` are between zero and one. -/
theorem calcDerivedBehavior_ratios (cfg : FeatureConfig) {infos : List PacketInfo} (view : View D)
    (conserved : CountersConserved infos view.toFields)
    (small : view.counters.totalPackets < 2 ^ 64) :
    ∀ feature ∈ calcDerivedBehavior cfg view, RatioBounded feature := by
  obtain ⟨-, -, protocols_le, -, -⟩ := conserved
  simp only [calcDerivedBehavior, List.forall_mem_append]
  refine ⟨⟨forall_mem_if_feature fun _ => ?_, forall_mem_if_feature fun _ => ?_⟩,
    forall_mem_if_feature fun _ => ?_⟩
  · simp only [behaviorBasic, List.forall_mem_append]
    refine ⟨List.forall_mem_singleton.mpr (ratioBounded_other (by decide)),
      forall_mem_if_feature fun _ => ratiosBounded_of_keys ?_⟩
    simp only [Output.keys, List.map_cons, List.map_nil, addNumber]
    decide
  · simp only [behaviorPattern, List.forall_mem_append]
    refine ⟨⟨ratiosBounded_of_keys ?_, forall_mem_if_feature fun positive => ?_⟩,
      forall_mem_if_feature fun _ => List.forall_mem_singleton.mpr
        (ratioBounded_other (by decide))⟩
    · simp only [Output.keys, List.map_cons, List.map_nil, addNumber, addString]
      decide
    · have other_le : u64Sub (u64Sub (u64Sub view.counters.totalPackets view.tcp.tcpPackets)
          view.counters.udpPackets) view.counters.icmpPackets ≤ view.counters.totalPackets := by
        rw [u64Sub_parts protocols_le small, Nat.sub_sub, Nat.sub_sub]
        exact Nat.sub_le _ _
      simp only [List.forall_mem_cons, List.not_mem_nil, false_imp_iff, implies_true, and_true]
      exact ⟨ratioBounded_proportion (proportion_div ordered (by omega) positive small),
        ratioBounded_proportion (proportion_div ordered (by omega) positive small),
        ratioBounded_proportion (proportion_div ordered (by omega) positive small),
        ratioBounded_proportion (proportion_div ordered other_le positive small)⟩
  · simp only [behaviorBitrate, List.forall_mem_append]
    refine ⟨forall_mem_if_feature fun _ => ratiosBounded_of_keys ?_, ?_⟩
    · simp only [Output.keys, List.map_cons, List.map_nil, addNumber]
      decide
    · simp only [trafficEntropy]
      split <;> refine ratiosBounded_of_keys ?_
      · simp only [Output.keys, List.map_cons, List.map_nil, addNumber]
        decide
      · simp only [Output.keys, List.map_cons, List.map_nil, addNumber]
        decide

end Ratios

/-! ### Flows -/

/-- The subtractions of `tcp_half_open_ratio` and `protocol_other_ratio` do not wrap. -/
structure SubtractionsFit (fields : Fields D) : Prop where
  halfOpen_eq : u32 (fields.tcp.tcpSynCount + 2 ^ 32 - fields.tcp.tcpSynAckCount) =
    fields.tcp.tcpSynCount - fields.tcp.tcpSynAckCount
  halfOpen_le : fields.tcp.tcpSynAckCount ≤ fields.tcp.tcpSynCount
  other_eq : u64Sub (u64Sub (u64Sub fields.counters.totalPackets fields.tcp.tcpPackets)
    fields.counters.udpPackets) fields.counters.icmpPackets =
      fields.counters.totalPackets - fields.tcp.tcpPackets - fields.counters.udpPackets -
        fields.counters.icmpPackets

section Flows

variable [Double D]

/-- The counters of every run of fewer than `2 ^ 32` packets are conserved, the subtractions of
counters do not wrap, and the ratios that are written out are between zero and one. -/
theorem flowRun_ratios (ordered : OrderedQuotients D) {cfg : FeatureConfig}
    {platform : Platform D} {streamType : StreamType} {callbacks : List (Allocs × RawPacket)}
    (few : callbacks.length < 2 ^ 32) {flow : FlowFeatureState D}
    (run : flowRun cfg platform streamType callbacks = some flow) :
    CountersConserved (packetInfos cfg streamType (callbacks.map Prod.snd)) flow.fields ∧
      SubtractionsFit flow.fields ∧
      ∀ feature ∈ calcDerivedProtocol cfg flow.view ++ calcDerivedBehavior cfg flow.view,
        RatioBounded feature := by
  have conserved := flowRun_countersConserved few run
  have total_eq := conserved.counters.totalPackets_eq
  rw [packetInfos, List.length_map, List.length_map] at total_eq
  obtain ⟨syn_eq, syn_le, -, -, -⟩ := conserved.tcp
  have protocols_le := conserved.protocols_le
  have small : flow.fields.counters.totalPackets < 2 ^ 32 := by omega
  have totalSmall : flow.fields.counters.totalPackets < 2 ^ 64 := by omega
  refine ⟨conserved, ⟨?_, by omega, u64Sub_parts protocols_le totalSmall⟩, ?_⟩
  · unfold u32
    omega
  · rw [List.forall_mem_append]
    exact ⟨calcDerivedProtocol_ratios ordered cfg flow.view conserved small,
      calcDerivedBehavior_ratios ordered cfg flow.view conserved totalSmall⟩

/-- The bytes of a segment: an IPv4 header and a TCP header of 20 bytes each, with these flags. -/
def segmentBytes (flags : UInt8) : Nat → UInt8
  | 0 => 69
  | 32 => 80
  | 33 => flags
  | _ => 0

/-- A packet of one segment. -/
def segmentPacket (tvUsec curdir datalen : Nat) (flags : UInt8) : RawPacket :=
  { barePacket tvUsec curdir datalen with aPacket := some (segmentBytes flags) }

/-- SYN, SYN and ACK, ACK, and a segment with bytes in each direction. -/
def handshake : List RawPacket :=
  [segmentPacket 1 1 0 2, segmentPacket 2 2 0 18, segmentPacket 3 1 0 16,
    segmentPacket 4 1 100 24, segmentPacket 5 2 200 24]

/-- The counters of a connection that is made and used in both directions. -/
theorem flowRun_ratios_handshake : ∃ flow : FlowFeatureState ℝ,
    flowRun defaultConfig (barePlatform ℝ) .tcp (allocated handshake) = some flow ∧
      flow.fields.tcp.tcpSynOnlyCount = 1 ∧ flow.fields.tcp.tcpSynAckCount = 1 ∧
      flow.fields.tcp.tcpAckOnlyCount = 1 ∧ flow.fields.tcp.tcpPayloadPackets = 2 ∧
      CountersConserved (packetInfos defaultConfig .tcp handshake) flow.fields ∧
      SubtractionsFit flow.fields ∧
      ∀ feature ∈ calcDerivedProtocol defaultConfig flow.view ++
        calcDerivedBehavior defaultConfig flow.view, RatioBounded feature := by
  obtain ⟨flow, run, fields_eq, -⟩ := flowRun_allocated (D := ℝ) defaultConfig (barePlatform ℝ)
    .tcp (segmentPacket 1 1 0 2) handshake.tail
  refine ⟨flow, run, ?_, ?_, ?_, ?_, flowRun_ratios real_orderedQuotients (by decide) run⟩
  · rw [fields_eq]
    rfl
  · rw [fields_eq]
    rfl
  · rw [fields_eq]
    rfl
  · rw [fields_eq]
    rfl

/-- Twice as many bytes forward as backward make an asymmetry ratio above one. -/
theorem flowAsymmetryRatio_above_one : ∃ flow : FlowFeatureState ℝ,
    flowRun defaultConfig (barePlatform ℝ) .tcp
        (allocated [barePacket 1 1 200, barePacket 2 2 100]) = some flow ∧
      ∃ value, addNumber "flow_asymmetry_ratio" value ∈
          calcDerivedBehavior defaultConfig flow.view ∧ ¬ Proportion value := by
  obtain ⟨flow, run, fields_eq, -⟩ := flowRun_allocated (D := ℝ) defaultConfig (barePlatform ℝ)
    .tcp (barePacket 1 1 200) [barePacket 2 2 100]
  have sides := flowFields_sides defaultConfig (barePlatform ℝ) .tcp (barePacket 1 1 200)
    [barePacket 2 2 100]
  have fwdBytes : flow.view.counters.fwdBytes = 200 := by
    rw [show flow.view.counters = flow.fields.counters from rfl, fields_eq]
    exact (sides .fwd).2.1
  have bwdBytes : flow.view.counters.bwdBytes = 100 := by
    rw [show flow.view.counters = flow.fields.counters from rfl, fields_eq]
    exact (sides .bwd).2.1
  refine ⟨flow, run, calcFlowAsymmetryRatio flow.view.counters.fwdBytes
    flow.view.counters.bwdBytes, ?_, ?_⟩
  · exact List.mem_append_left _ (List.mem_append_right _
      (List.mem_append_left _ (List.mem_append_left _ List.mem_cons_self)))
  · intro proportion
    rw [fwdBytes, bwdBytes] at proportion
    have atMost := (real_ble_iff _ _).mp proportion.2
    have ratio : (calcFlowAsymmetryRatio 200 100 : ℝ) = Nat.cast 200 / Nat.cast 100 := rfl
    rw [ratio] at atMost
    norm_num at atMost

end Flows

end TiFeatures
