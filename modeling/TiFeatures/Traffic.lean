/-
This file models `ti_features.cpp`: what one callback does to a flow, and the
object of features that is written out when the flow closes.
-/

import TiFeatures.Basic
import TiFeatures.Burst
import TiFeatures.FreqDomain
import TiFeatures.Iat
import TiFeatures.Payload
import TiFeatures.Protocol
import TiFeatures.Sequence
import TiFeatures.Store

namespace TiFeatures

variable {D : Type} [Double D]

/-! ### The calls of the DATA branch

Each call of the branch is given with the switch that gates it: the part of the state it updates
and the accesses it makes. -/

section Calls

variable (cfg : FeatureConfig) (info : PacketInfo)

/-- The call of `calc_protocol_ip_update`. -/
def ipCall (state : IpState D) : IpState D × List (Access D) :=
  match info.iph with
  | some iph => if cfg.enableProtocolIp then calcProtocolIpUpdate state iph else (state, [])
  | none => (state, [])

/-- The call of `calc_protocol_port_update`. -/
def portCall (state : PortState) : PortState :=
  match info.addr with
  | .ipv4 (some paddr) =>
    if cfg.enableProtocolPort then calcProtocolPortUpdate state paddr.source paddr.dest else state
  | _ => state

/-- The increment of `udp_packets` and the call of `calc_basic_counters`. -/
def countersCall (state : CounterState) (payload : PayloadDirState D) :
    CounterState × PayloadDirState D × List (Access D) :=
  let state := if info.streamType = .udp then
      { state with udpPackets := u64 (state.udpPackets + 1) }
    else state
  calcBasicCounters cfg state payload info.direction info.pktLen info.payloadLen

/-- The call of `calc_packet_length_stats`. -/
def pktLenCall (state : PktLenState D) : PktLenState D × List (Access D) :=
  calcPacketLengthStats cfg state info.direction info.pktLen

/-- `dir_val`, as the byte of a `signed char`. -/
def dirVal (direction : Nat) : Nat :=
  if direction = dirFwd then 1 else if direction = dirBwd then 255 else 0

/-- The pushes to the direction, timestamp and layer length sequences. -/
def seqPushes : List (Access D) :=
  (if cfg.needDirSeq then [.push .dirSeq (dirVal info.direction)] else []) ++
  (if cfg.needTsSeq then [.push .tsSeq info.tsUs] else []) ++
  (if cfg.needL3L4PayloadSeq then
    [.push .l3LenSeq info.l3Len, .push .l4LenSeq info.l4Len,
      .push .payloadLenSeq info.payloadLen]
  else [])

/-- `burst_iat`, taken before the arrival time is updated. -/
def burstIat (state : IatState D) : Nat :=
  if state.lastArrivalUs > 0 then u64Sub info.tsUs state.lastArrivalUs else 0

/-- The call of `calc_iat_update`. -/
def iatCall (state : IatState D) : IatState D × List (Access D) :=
  calcIatUpdate cfg state info.tsUs info.direction

/-- The call of `calc_protocol_tcp_update`. -/
def tcpCall (state : TcpState D) : TcpState D × List (Access D) :=
  match info.streamType, info.tcph with
  | .tcp, some tcph =>
    if cfg.enableProtocolTcpFlags || cfg.enableProtocolTcpWindow then
      calcProtocolTcpUpdate state tcph info.payloadLen tcph.window info.direction tcph.seq
        info.tsUs
    else (state, [])
  | _, _ => (state, [])

/-- The UDP statistics. -/
def udpCall (stats : RunningStats D) : RunningStats D × List (Access D) :=
  if info.streamType = .udp ∧ cfg.enableProtocolUdp then updateUdpLen stats info.payloadLen
  else (stats, [])

/-- The bytes of the payload. -/
def payloadBytes (bytes : Nat → UInt8) : List UInt8 := (List.range info.payloadLen).map bytes

/-- The call of `calc_payload_magic`. -/
def magicCall (state : MagicState) : MagicState :=
  match info.payload with
  | some bytes =>
    if cfg.enablePayloadMagic then
      calcPayloadMagic state (payloadBytes info bytes) info.payloadLen
    else state
  | none => state

/-- The call of `calc_payload_stats`. -/
def payloadCall (platform : Platform D) (state : PayloadState D) :
    PayloadState D × List (Access D) :=
  match info.payload with
  | some bytes =>
    if cfg.enablePayloadStats then
      calcPayloadStats platform state (payloadBytes info bytes) info.payloadLen
    else (state, [])
  | none => (state, [])

/-- The call of `calc_burst_update`. -/
def burstCall (state : BurstState) (iatUs : Nat) : BurstState × List (Access D) :=
  if cfg.enableBurst then calcBurstUpdate cfg state info.pktLen iatUs info.tsUs else (state, [])

/-- The update of the bigrams. -/
def bigramCall (state : BigramState) : BigramState :=
  if cfg.enableSequenceStats then
    let currClass := getPktSizeClass cfg info.pktLen
    { bigramStats := bigramUpdate state.bigramStats state.lastPktSizeClass currClass
      lastPktSizeClass := currClass }
  else state

/-- The call of `calc_response_delay`. -/
def responseCall (state : ResponseState) : ResponseState × List (Access D) :=
  if cfg.enableIatResponse then calcResponseDelay state info.tsUs info.direction else (state, [])

/-- The call of `calc_window_update`. -/
def windowCall (state : WindowState) : WindowState × List (Access D) :=
  if cfg.needWindowUpdate then calcWindowUpdate state info.pktLen info.tsUs else (state, [])

end Calls

/-- The scalar fields after the DATA branch. -/
def dataFields (cfg : FeatureConfig) (platform : Platform D) (info : PacketInfo)
    (fields : Fields D) : Fields D where
  clock := { fields.clock with lastPktUs := info.tsUs }
  counters := (countersCall cfg info fields.counters fields.payloadDir).1
  tcp := (tcpCall cfg info fields.tcp).1
  udpLenStats := (udpCall cfg info fields.udpLenStats).1
  pktLen := (pktLenCall cfg info fields.pktLen).1
  iat := (iatCall cfg info fields.iat).1
  ip := (ipCall cfg info fields.ip).1
  port := portCall cfg info fields.port
  payloadDir := (countersCall cfg info fields.counters fields.payloadDir).2.1
  payload := (payloadCall cfg info platform fields.payload).1
  magic := magicCall cfg info fields.magic
  window := (windowCall (D := D) cfg info fields.window).1
  burst := (burstCall (D := D) cfg info fields.burst (burstIat info fields.iat)).1
  response := (responseCall (D := D) cfg info fields.response).1
  bigram := bigramCall cfg info fields.bigram
  derived := fields.derived

/-- The accesses of the DATA branch, in program order. -/
def dataAccesses (cfg : FeatureConfig) (platform : Platform D) (info : PacketInfo)
    (fields : Fields D) : List (Access D) :=
  (ipCall cfg info fields.ip).2 ++
  (countersCall cfg info fields.counters fields.payloadDir).2.2 ++
  (pktLenCall cfg info fields.pktLen).2 ++
  seqPushes cfg info ++
  (iatCall cfg info fields.iat).2 ++
  (tcpCall cfg info fields.tcp).2 ++
  (udpCall cfg info fields.udpLenStats).2 ++
  (payloadCall cfg info platform fields.payload).2 ++
  (burstCall cfg info fields.burst (burstIat info fields.iat)).2 ++
  (responseCall cfg info fields.response).2 ++
  (windowCall cfg info fields.window).2

/-! ### One callback -/

/-- `flow_feature_state_t`. -/
structure FlowFeatureState (D : Type) where
  fields : Fields D
  store : Store D

/-- The view of a flow that closes. -/
def FlowFeatureState.view (state : FlowFeatureState D) : View D :=
  flowView state.fields state.store

/-- The DATA branch of `traffic_process`. -/
def processData (cfg : FeatureConfig) (platform : Platform D) (streamType : StreamType)
    (allocs : Allocs) (packet : RawPacket) (state : FlowFeatureState D) : FlowFeatureState D :=
  let info := packetInfo cfg streamType packet
  { fields := dataFields cfg platform info state.fields
    store := (dataAccesses cfg platform info state.fields).foldl Store.access
      (upgradeIfNeeded allocs state.store) }

/-- The creation of the state in the PENDING branch. -/
def createFlow (cfg : FeatureConfig) (allocs : Allocs) (tsUs : Nat) :
    Option (FlowFeatureState D) :=
  if !allocs.state then none
  else (flowStateInit cfg allocs).map fun store => ⟨fieldsInit cfg tsUs, store⟩

/-- `add_flow_tuple_identifier`. -/
def addFlowTupleIdentifier (platform : Platform D) (streamType : StreamType)
    (packet : RawPacket) : Output D :=
  let tuple := fun paddr : StreamTuple4 =>
    [addString "src_ip" (platform.inetNtop paddr.saddr),
      addString "dst_ip" (platform.inetNtop paddr.daddr),
      addNumber "src_port" (ntohs paddr.source : D),
      addNumber "dst_port" (ntohs paddr.dest : D)]
  [addNumber "createtime"
    (match streamType, packet.detail with
      | .tcp, some detail => (detail.createtime : D)
      | _, _ => 0)] ++
  (match packet.addr with
    | .ipv4 (some paddr) => tuple paddr
    | .ipv6 (some paddr) => tuple paddr
    | _ => []) ++
  [addNumber "trans_proto" (streamType.code : D),
    addNumber "stream_dir" (packet.curdir : D)]

/-- The basic information of the flow, which is always written. -/
def flowInformation (counters : CounterState) (tcp : TcpState D) : Output D :=
  [addNumber "total_packets" (counters.totalPackets : D),
    addNumber "fwd_packets" (counters.fwdPackets : D),
    addNumber "bwd_packets" (counters.bwdPackets : D),
    addNumber "total_bytes" (counters.totalBytes : D),
    addNumber "fwd_bytes" (counters.fwdBytes : D),
    addNumber "bwd_bytes" (counters.bwdBytes : D),
    addNumber "tcp_syn_count" (tcp.tcpSynCount : D),
    addNumber "tcp_fin_count" (tcp.tcpFinCount : D),
    addNumber "tcp_rst_count" (tcp.tcpRstCount : D),
    addNumber "tcp_ack_count" (tcp.tcpAckCount : D)]

/-- `flow_state_compute_features`. -/
def flowStateComputeFeatures (cfg : FeatureConfig) (platform : Platform D)
    (streamType : StreamType) (packet : RawPacket) (view : View D) : Output D :=
  addFlowTupleIdentifier platform streamType packet ++
  (match packet.sni with
    | some sni => [addString "sni" sni]
    | none => []) ++
  (if cfg.enableBasic then calcDerivedBasic cfg view else []) ++
  (if cfg.enableIat then calcDerivedIat cfg view else []) ++
  (if cfg.enableBurst then
    calcBurstStatistics view.burstSizes view.burstDurations view.burstIntervals
      view.burstPacketCounts else []) ++
  (if cfg.enableProtocol then calcDerivedProtocol cfg view else []) ++
  (if cfg.enablePayload then calcDerivedPayload cfg view else []) ++
  (if cfg.enableSequence then calcDerivedSequence cfg platform view else []) ++
  (if cfg.enableFft then calcDerivedFft cfg view else []) ++
  (if cfg.enableWindow then calcDerivedWindow cfg platform view else []) ++
  (if cfg.enableBehavior then calcDerivedBehavior cfg view else []) ++
  flowInformation view.counters view.tcp

/-- The state flag of a callback. -/
inductive StateFlag where
  | pending
  | data
  | close
  | other
  deriving DecidableEq

/-- What `traffic_process` returns to the platform. -/
inductive AppState where
  | giveme
  | dropme
  deriving DecidableEq

/-- `traffic_process`: the state behind `pme` after the call, the features written out, and the
value returned. -/
def trafficProcess (cfg : FeatureConfig) (platform : Platform D) (streamType : StreamType)
    (flag : StateFlag) (allocs : Allocs) (packet : RawPacket)
    (pme : Option (FlowFeatureState D)) :
    Option (FlowFeatureState D) × Option (Output D) × AppState :=
  match flag, pme with
  | .pending, none =>
    match createFlow cfg allocs (packetTsUs cfg packet) with
    | none => (none, none, .dropme)
    | some state => (some (processData cfg platform streamType allocs packet state), none, .giveme)
  | .pending, some state =>
    (some (processData cfg platform streamType allocs packet state), none, .giveme)
  | .data, some state =>
    (some (processData cfg platform streamType allocs packet state), none, .giveme)
  | .close, some state =>
    (none, some (flowStateComputeFeatures cfg platform streamType packet state.view), .dropme)
  | _, state => (state, none, .giveme)

/-! ### Runs -/

/-- The state of a flow after its packets: the first is PENDING, the others are DATA. -/
def flowRun (cfg : FeatureConfig) (platform : Platform D) (streamType : StreamType) :
    List (Allocs × RawPacket) → Option (FlowFeatureState D)
  | [] => none
  | first :: rest =>
    rest.foldl (fun pme callback =>
      (trafficProcess cfg platform streamType .data callback.1 callback.2 pme).1)
      (trafficProcess cfg platform streamType .pending first.1 first.2 none).1

/-- The callbacks of packets for which every allocation succeeds. -/
def allocated (packets : List RawPacket) : List (Allocs × RawPacket) :=
  packets.map fun packet => (Allocs.succeed, packet)

/-- A run is the creation of the state and the DATA branch for every packet. -/
theorem flowRun_cons (cfg : FeatureConfig) (platform : Platform D) (streamType : StreamType)
    (first : Allocs × RawPacket) (rest : List (Allocs × RawPacket)) :
    flowRun cfg platform streamType (first :: rest) =
      (createFlow cfg first.1 (packetTsUs cfg first.2)).map fun state =>
        (first :: rest).foldl (fun state callback =>
          processData cfg platform streamType callback.1 callback.2 state) state := by
  have run : ∀ (callbacks : List (Allocs × RawPacket)) (state : FlowFeatureState D),
      callbacks.foldl (fun pme callback =>
        (trafficProcess cfg platform streamType .data callback.1 callback.2 pme).1) (some state) =
      some (callbacks.foldl (fun state callback =>
        processData cfg platform streamType callback.1 callback.2 state) state) := by
    intro callbacks
    induction callbacks with
    | nil => exact fun _ => rfl
    | cons callback others inductionHypothesis => exact fun state => inductionHypothesis _
  have stuck : ∀ callbacks : List (Allocs × RawPacket),
      callbacks.foldl (fun pme callback =>
        (trafficProcess cfg platform streamType .data callback.1 callback.2 pme).1)
        (none : Option (FlowFeatureState D)) = none := by
    intro callbacks
    induction callbacks with
    | nil => rfl
    | cons callback others inductionHypothesis => exact inductionHypothesis
  cases created : createFlow (D := D) cfg first.1 (packetTsUs cfg first.2) with
  | none =>
    simp only [flowRun, trafficProcess, created, Option.map_none]
    exact stuck rest
  | some state =>
    simp only [flowRun, trafficProcess, created, Option.map_some, List.foldl_cons]
    exact run rest _

/-- One more packet acts on the state of the run. -/
theorem flowRun_concat {cfg : FeatureConfig} {platform : Platform D} {streamType : StreamType}
    {callbacks : List (Allocs × RawPacket)} {state : FlowFeatureState D}
    (run : flowRun cfg platform streamType callbacks = some state)
    (callback : Allocs × RawPacket) :
    flowRun cfg platform streamType (callbacks ++ [callback]) =
      some (processData cfg platform streamType callback.1 callback.2 state) := by
  cases callbacks with
  | nil => cases run
  | cons first rest =>
    refine (List.foldl_concat _ _ _ _).trans ?_
    rw [show List.foldl _ _ rest = some state from run]
    rfl

end TiFeatures
