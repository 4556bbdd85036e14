/-
This file models `calc_protocol.cpp`: TCP flags and windows, IP headers, UDP
lengths and ports, and the features derived from them when a flow closes.
-/

import TiFeatures.State

namespace TiFeatures

variable {D : Type} [Double D]

/-! ### Addresses and ports -/

/-- `is_private_ip`, of the address as an integer in memory order. -/
def isPrivateIp (ip : Nat) : Bool :=
  let first := ip % 256
  let second := ip / 256 % 256
  first == 10 || (first == 172 && 16 ≤ second && second ≤ 31) ||
    (first == 192 && second == 168) || first == 127

/-- `is_well_known_port`. -/
def isWellKnownPort (port : Nat) : Bool := port < 1024

/-- `port_to_protocol`. -/
def portToProtocol (port : Nat) : String :=
  match port with
  | 20 => "FTP-DATA"
  | 21 => "FTP"
  | 22 => "SSH"
  | 23 => "TELNET"
  | 25 => "SMTP"
  | 53 => "DNS"
  | 80 => "HTTP"
  | 110 => "POP3"
  | 143 => "IMAP"
  | 443 => "HTTPS"
  | 465 => "SMTPS"
  | 587 => "SUBMISSION"
  | 993 => "IMAPS"
  | 995 => "POP3S"
  | 3306 => "MYSQL"
  | 3389 => "RDP"
  | 5432 => "POSTGRESQL"
  | 6379 => "REDIS"
  | 8080 => "HTTP-ALT"
  | 8443 => "HTTPS-ALT"
  | _ => "UNKNOWN"

/-! ### Per-packet updates -/

/-- A counter of type `unsigned int` that counts a packet if a condition holds. -/
def countIf (condition : Bool) (count : Nat) : Nat := if condition then u32 (count + 1) else count

/-- The reset part of `calc_protocol_tcp_update`. -/
def updateRst (state : TcpState D) (tsUs : Nat) : TcpState D :=
  let later := state.lastRstTs > 0 && tsUs > state.lastRstTs
  { state with
    tcpRstCount := u32 (state.tcpRstCount + 1)
    rstIntervalSumUs := if later then u64 (state.rstIntervalSumUs + (tsUs - state.lastRstTs))
      else state.rstIntervalSumUs
    rstIntervalCount := countIf later state.rstIntervalCount
    lastRstTs := tsUs }

/-- The retransmission part of `calc_protocol_tcp_update`. -/
def updateRetransmission (state : TcpState D) (direction tcpSeq : Nat) : TcpState D :=
  if direction = dirFwd then
    { state with
      tcpRetransmissionCount := countIf (state.hasLastFwdSeq && tcpSeq ≤ state.lastFwdSeq)
        state.tcpRetransmissionCount
      lastFwdSeq := tcpSeq
      hasLastFwdSeq := true }
  else if direction = dirBwd then
    { state with
      tcpRetransmissionCount := countIf (state.hasLastBwdSeq && tcpSeq ≤ state.lastBwdSeq)
        state.tcpRetransmissionCount
      lastBwdSeq := tcpSeq
      hasLastBwdSeq := true }
  else state

/-- `calc_protocol_tcp_update`. -/
def calcProtocolTcpUpdate (state : TcpState D) (tcph : TcpHeader)
    (payloadLen window direction tcpSeq tsUs : Nat) : TcpState D × List (Access D) :=
  let state := { state with
    tcpPackets := u64 (state.tcpPackets + 1)
    tcpSynCount := countIf tcph.syn state.tcpSynCount
    tcpSynOnlyCount := countIf (tcph.syn && !tcph.ack) state.tcpSynOnlyCount
    tcpFinCount := countIf tcph.fin state.tcpFinCount }
  let state := if tcph.rst then updateRst state tsUs else state
  let state := { state with
    tcpPshCount := countIf tcph.psh state.tcpPshCount
    tcpAckCount := countIf tcph.ack state.tcpAckCount
    tcpAckOnlyCount := countIf
      (tcph.ack && !tcph.syn && !tcph.fin && !tcph.rst && !tcph.psh && payloadLen == 0)
      state.tcpAckOnlyCount
    tcpUrgCount := countIf tcph.urg state.tcpUrgCount
    tcpSynAckCount := countIf (tcph.syn && tcph.ack) state.tcpSynAckCount
    tcpPayloadPackets := countIf (payloadLen > 0) state.tcpPayloadPackets
    tcpWindowStats := runningStatsUpdate state.tcpWindowStats (window : D)
    tcpWindowUpdateCount := countIf
      (state.hasLastTcpWindow && tcph.ack && payloadLen == 0 && window != state.lastTcpWindow)
      state.tcpWindowUpdateCount
    lastTcpWindow := window
    hasLastTcpWindow := true }
  let state := if payloadLen > 0 then updateRetransmission state direction tcpSeq else state
  ({ state with tcpZeroWindowCount := countIf (window == 0) state.tcpZeroWindowCount },
    [.push .tcpWindowSeq window])

/-- `calc_protocol_ip_update`. -/
def calcProtocolIpUpdate (state : IpState D) (iph : IpHeader) : IpState D × List (Access D) :=
  ({ ipTtlStats := runningStatsUpdate state.ipTtlStats (iph.ttl : D)
     ipTosStats := runningStatsUpdate state.ipTosStats (iph.tos : D)
     srcIp := iph.saddr
     srcIpIsPrivate := isPrivateIp iph.saddr
     dstIp := iph.daddr
     dstIpIsPrivate := isPrivateIp iph.daddr
     ipFragCount := if iph.fragOff % 0x2000 ≠ 0 then state.ipFragCount + 1
      else state.ipFragCount },
    [.push .ipTtlSeq iph.ttl, .push .ipTosSeq iph.tos])

/-- `calc_protocol_port_update`. -/
def calcProtocolPortUpdate (state : PortState) (source dest : Nat) : PortState :=
  let srcPort := ntohs source
  let dstPort := ntohs dest
  { srcPort
    dstPort
    uniqueSrcPorts := if srcPort > 0 then 1 else 0
    uniqueDstPorts := if dstPort > 0 then 1 else 0
    wellKnownSrcCount := countIf (isWellKnownPort srcPort) state.wellKnownSrcCount
    wellKnownDstCount := countIf (isWellKnownPort dstPort) state.wellKnownDstCount }

/-- The UDP branch of `traffic_process`: the length statistics of a datagram. -/
def updateUdpLen (stats : RunningStats D) (payloadLen : Nat) :
    RunningStats D × List (Access D) :=
  let udpLen := u32 (payloadLen + 8)
  (runningStatsUpdate stats (udpLen : D), [.push .udpLenSeq udpLen])

/-! ### Derived features -/

/-- The features of `enable_protocol_tcp_flags`. -/
def protocolTcpFlags (state : TcpState D) (counters : CounterState) : Output D :=
  [addNumber "tcp_psh_count" (state.tcpPshCount : D),
    addNumber "tcp_urg_count" (state.tcpUrgCount : D),
    addNumber "window_update_frequency" (state.tcpWindowUpdateCount : D),
    addNumber "tcp_syn_packets" (state.tcpSynCount : D),
    addNumber "tcp_syn_ack_packets" (state.tcpSynAckCount : D),
    addNumber "tcp_ack_only_count" (state.tcpAckOnlyCount : D),
    addNumber "tcp_payload_packets" (state.tcpPayloadPackets : D),
    addNumber "tcp_zero_window_count" (state.tcpZeroWindowCount : D),
    addNumber "icmp_packet_count" (counters.icmpPackets : D),
    addNumber "l2_packets_count"
      ((if counters.l2Packets > 0 then counters.l2Packets else counters.totalPackets : Nat) : D),
    addNumber "header_anomaly_count" 0,
    addNumber "tcp_header_anomaly_count" 0,
    addNumber "header_anomaly_ratio" 0] ++
  (if state.tcpSynCount > 0 then
    [addNumber "tcp_connection_success_rate"
      ((state.tcpSynAckCount : D) / (state.tcpSynCount : D))]
  else []) ++
  (if state.tcpPackets > 0 then
    [addNumber "tcp_syn_ratio" ((state.tcpSynCount : D) / (state.tcpPackets : D)),
      addNumber "tcp_rst_ratio" ((state.tcpRstCount : D) / (state.tcpPackets : D)),
      addNumber "tcp_ack_only_ratio" ((state.tcpAckOnlyCount : D) / (state.tcpPackets : D)),
      addNumber "tcp_payload_packet_ratio"
        ((state.tcpPayloadPackets : D) / (state.tcpPackets : D)),
      addNumber "tcp_syn_only_ratio" ((state.tcpSynOnlyCount : D) / (state.tcpPackets : D))]
  else []) ++
  [addNumber "tcp_half_open_ratio"
    (if state.tcpSynCount > 0 then
      ((u32 (state.tcpSynCount + 2 ^ 32 - state.tcpSynAckCount) : Nat) : D) /
        (state.tcpSynCount : D)
    else 0)]

/-- The features of `enable_protocol_tcp_window`. -/
def protocolTcpWindow (stats : RunningStats D) (tcpWindows : List Nat) : Output D :=
  runningStatsFeatures "tcp_window" stats ++ quartileFeatures "tcp_window" tcpWindows

/-- How often a TTL occurs. -/
def ttlCount (ttlValues : List Nat) (ttl : Nat) : D := ((u32 (ttlValues.count ttl) : Nat) : D)

/-- The features of `enable_protocol_ip`. -/
def protocolIp (state : IpState D) (ttlValues tosValues : List Nat) : Output D :=
  runningStatsFeatures "ip_ttl" state.ipTtlStats ++
  runningStatsFeatures "ip_tos" state.ipTosStats ++
  quartileFeatures "ip_ttl" ttlValues ++
  (if ttlValues.length > 0 then
    [addNumber "ip_ttl_eq_32_count" (ttlCount ttlValues 32),
      addNumber "ip_ttl_eq_64_count" (ttlCount ttlValues 64),
      addNumber "ip_ttl_eq_128_count" (ttlCount ttlValues 128),
      addNumber "ip_ttl_eq_255_count" (ttlCount ttlValues 255)]
  else []) ++
  quartileFeatures "ip_tos" tosValues

/-- The features of `enable_protocol_udp`. -/
def protocolUdp (stats : RunningStats D) (udpLens : List Nat) : Output D :=
  runningStatsFeatures "udp_length" stats ++ quartileFeatures "udp_length" udpLens

/-- `src_port_range`. -/
def portRange (port : Nat) : String :=
  if port < 1024 then "well_known" else if port < 49152 then "registered" else "dynamic"

/-- The features of `enable_protocol_port`. -/
def protocolPort (tcp : TcpState D) (srcIpIsPrivate dstIpIsPrivate : Bool) (ipFragCount : Nat)
    (port : PortState) (counters : CounterState) : Output D :=
  [addNumber "avg_retransmission_rate"
      (if tcp.tcpPayloadPackets > 0 then
        (tcp.tcpRetransmissionCount : D) / (tcp.tcpPayloadPackets : D) else 0),
    addNumber "rst_trigger_interval"
      (if tcp.rstIntervalCount > 0 then
        (tcp.rstIntervalSumUs : D) / (tcp.rstIntervalCount : D) / 1000000 else 0),
    addNumber "src_ip_is_private" (Double.ofBool srcIpIsPrivate),
    addNumber "dst_ip_is_private" (Double.ofBool dstIpIsPrivate),
    addNumber "ip_fragmentation_flag" (Double.ofBool (ipFragCount > 0)),
    addNumber "src_port_is_ephemeral" (Double.ofBool (port.srcPort ≥ 1024 && port.srcPort ≤ 65535)),
    addNumber "dst_port_is_ephemeral" (Double.ofBool (port.dstPort ≥ 1024 && port.dstPort ≤ 65535)),
    addNumber "well_known_dst_port_ratio"
      (if counters.totalPackets > 0 then
        (port.wellKnownDstCount : D) / (counters.totalPackets : D) else 0),
    addNumber "well_known_src_port_ratio"
      (if counters.totalPackets > 0 then
        (port.wellKnownSrcCount : D) / (counters.totalPackets : D) else 0),
    addNumber "unique_src_ports" (port.uniqueSrcPorts : D),
    addNumber "unique_dst_ports" (port.uniqueDstPorts : D),
    addNumber "is_common_service" (Double.ofBool (port.dstPort < 1024 || port.srcPort < 1024)),
    addNumber "quic_usage_flag" (Double.ofBool (port.dstPort == 443)),
    addString "src_port_protocol" (portToProtocol port.srcPort),
    addString "src_port_range" (portRange port.srcPort),
    addString "dst_port_protocol" (portToProtocol port.dstPort),
    addNumber "tcpackfaultcnt" 0,
    addNumber "tcpbflgtmx" 0,
    addNumber "tcpflwlssackrcvdbytes" 0,
    addNumber "tcpiseqn" (tcp.lastFwdSeq : D),
    addNumber "tcpinitwinsz" (if tcp.tcpWindowStats.count > 0 then tcp.tcpWindowStats.mean else 0),
    addNumber "tcppackcnt" (tcp.tcpAckCount : D),
    addNumber "tcppseqcnt" (tcp.tcpPackets : D),
    addNumber "tcpseqfaultcnt" (tcp.tcpRetransmissionCount : D),
    addNumber "tcpseqsntbytes"
      ((u64 (counters.fwdPayloadBytes + counters.bwdPayloadBytes) : Nat) : D)]

/-- `calc_derived_protocol`. -/
def calcDerivedProtocol (cfg : FeatureConfig) (view : View D) : Output D :=
  (if cfg.enableProtocolTcpFlags then protocolTcpFlags view.tcp view.counters else []) ++
  (if cfg.enableProtocolTcpWindow then
    protocolTcpWindow view.tcp.tcpWindowStats (view.seqs .tcpWindowSeq) else []) ++
  (if cfg.enableProtocolIp then
    protocolIp view.ip (view.seqs .ipTtlSeq) (view.seqs .ipTosSeq) else []) ++
  (if cfg.enableProtocolUdp then protocolUdp view.udpLenStats (view.seqs .udpLenSeq) else []) ++
  (if cfg.enableProtocolPort then
    protocolPort view.tcp view.ip.srcIpIsPrivate view.ip.dstIpIsPrivate
      view.ip.ipFragCount view.port view.counters else [])

end TiFeatures
