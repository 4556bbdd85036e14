/-
This file settles for which packets the top of `traffic_process` finds the
payload. The code reads the length of the IP header where IPv4 has it; in an IPv6
header these four bits belong to the traffic class, so the length is right for
every IPv4 packet and for an IPv6 packet only by the accident of its class.
-/

import TiFeatures.Traffic
import Mathlib.Data.List.GetD

namespace TiFeatures

/-! ### Well-formed packets -/

inductive IpFamily where
  | ipv4
  | ipv6
  deriving DecidableEq

/-- The protocol number that announces the transport header. -/
def StreamType.protocol : StreamType → Nat
  | .tcp => 6
  | .udp => 17

/-- The number in `count` bytes of a header, in network order. -/
def headerNumber (header : List UInt8) (offset count : Nat) : Nat :=
  bigEndian (fun index => header.getD index 0) offset count

/-- An IPv4 header in front of a segment: version, header length in words, protocol and
total length are those of the packet. -/
structure WellFormedIpv4 (protocol : Nat) (header : List UInt8) (segmentLen : Nat) : Prop where
  version_eq : headerNumber header 0 1 / 16 = 4
  words_eq : headerNumber header 0 1 % 16 * 4 = header.length
  atLeast : 20 ≤ header.length
  protocol_eq : headerNumber header 9 1 = protocol
  totalLen_eq : headerNumber header 2 2 = header.length + segmentLen

/-- An IPv6 header in front of a segment, with no extension header between them. -/
structure WellFormedIpv6 (protocol : Nat) (header : List UInt8) (segmentLen : Nat) : Prop where
  version_eq : headerNumber header 0 1 / 16 = 6
  length_eq : header.length = 40
  nextHeader_eq : headerNumber header 6 1 = protocol
  payloadLen_eq : headerNumber header 4 2 = segmentLen

/-- The IP header of either family. -/
def WellFormedIp : IpFamily → Nat → List UInt8 → Nat → Prop
  | .ipv4 => WellFormedIpv4
  | .ipv6 => WellFormedIpv6

/-- A TCP header: its data offset, in words, is its length. -/
structure WellFormedTcp (header : List UInt8) : Prop where
  dataOffset_eq : headerNumber header 12 1 / 16 * 4 = header.length
  atLeast : 20 ≤ header.length

/-- A UDP header in front of a payload. -/
structure WellFormedUdp (header : List UInt8) (payloadLen : Nat) : Prop where
  length_eq : header.length = 8
  udpLen_eq : headerNumber header 4 2 = 8 + payloadLen

/-- The transport header of either protocol. -/
def WellFormedTransport : StreamType → List UInt8 → Nat → Prop
  | .tcp, header, _ => WellFormedTcp header
  | .udp, header, payloadLen => WellFormedUdp header payloadLen

/-- A well-formed packet of a stream, from the start of its IP header. -/
structure IpPacket (streamType : StreamType) where
  family : IpFamily
  ipHeader : List UInt8
  transportHeader : List UInt8
  payload : List UInt8
  ip_wellFormed : WellFormedIp family streamType.protocol ipHeader
    (transportHeader.length + payload.length)
  transport_wellFormed : WellFormedTransport streamType transportHeader payload.length

namespace IpPacket

variable {streamType : StreamType}

/-- The bytes of the packet. -/
def bytes (ipPacket : IpPacket streamType) : List UInt8 :=
  ipPacket.ipHeader ++ (ipPacket.transportHeader ++ ipPacket.payload)

end IpPacket

/-- The platform hands over a packet: `a_packet` points at its first byte and `datalen` is the
length of its payload. -/
structure Carries {streamType : StreamType} (packet : RawPacket)
    (ipPacket : IpPacket streamType) : Prop where
  aPacket_eq : ∃ bytes, packet.aPacket = some bytes ∧
    ∀ index, index < ipPacket.bytes.length → bytes index = ipPacket.bytes.getD index 0
  datalen_eq : packet.detail.map StreamDetail.datalen = some ipPacket.payload.length

/-! ### The payload that is handed over -/

/-- The arguments of `calc_payload_magic` and `calc_payload_stats`: the bytes and their number,
for a packet they are called for. -/
def handedPayload (info : PacketInfo) : Option (List UInt8 × Nat) :=
  info.payload.map fun bytes => (payloadBytes info bytes, info.payloadLen)

theorem magicCall_eq (cfg : FeatureConfig) (info : PacketInfo) (state : MagicState) :
    magicCall cfg info state =
      match handedPayload info with
      | some (bytes, payloadLen) =>
        if cfg.enablePayloadMagic then calcPayloadMagic state bytes payloadLen else state
      | none => state := by
  cases payload : info.payload with
  | none => simp only [magicCall, handedPayload, payload, Option.map_none]
  | some bytes => simp only [magicCall, handedPayload, payload, Option.map_some]

theorem payloadCall_eq {D : Type} [Double D] (cfg : FeatureConfig) (info : PacketInfo)
    (platform : Platform D) (state : PayloadState D) :
    payloadCall cfg info platform state =
      match handedPayload info with
      | some (bytes, payloadLen) =>
        if cfg.enablePayloadStats then calcPayloadStats platform state bytes payloadLen
        else (state, [])
      | none => (state, []) := by
  cases payload : info.payload with
  | none => simp only [payloadCall, handedPayload, payload, Option.map_none]
  | some bytes => simp only [payloadCall, handedPayload, payload, Option.map_some]

/-- The headers of a packet are understood: the length of the IP header is known, and the
payload functions are given the transport payload, if it is not empty. -/
structure HeadersParsed {streamType : StreamType} (info : PacketInfo)
    (ipPacket : IpPacket streamType) : Prop where
  l3Len_eq : info.l3Len = ipPacket.ipHeader.length
  payload_eq : handedPayload info =
    if ipPacket.payload = [] then none else some (ipPacket.payload, ipPacket.payload.length)

/-! ### The lengths of the headers -/

/-- A byte is the number it is a header field of. -/
theorem headerNumber_one (header : List UInt8) (offset : Nat) :
    headerNumber header offset 1 = (header.getD offset 0).toNat := by
  simp [headerNumber, bigEndian]

theorem headerNumber_two_lt (header : List UInt8) (offset : Nat) :
    headerNumber header offset 2 < 2 ^ 16 := by
  have first := (header.getD offset 0).toNat_lt
  have second := (header.getD (offset + 1) 0).toNat_lt
  have number_eq : headerNumber header offset 2 =
      (header.getD offset 0).toNat * 256 + (header.getD (offset + 1) 0).toNat := by
    simp [headerNumber, bigEndian, List.range_succ]
  omega

namespace IpPacket

variable {streamType : StreamType} (ipPacket : IpPacket streamType)

/-- An IP header has its first byte. -/
theorem ipHeader_atLeast : 20 ≤ ipPacket.ipHeader.length := by
  have wellFormed := ipPacket.ip_wellFormed
  cases family : ipPacket.family with
  | ipv4 =>
    rw [family] at wellFormed
    exact wellFormed.atLeast
  | ipv6 =>
    rw [family] at wellFormed
    rw [wellFormed.length_eq]
    decide

/-- The length fields bound the payload. -/
theorem payload_length_lt : ipPacket.payload.length < 2 ^ 16 := by
  have wellFormed := ipPacket.ip_wellFormed
  cases family : ipPacket.family with
  | ipv4 =>
    rw [family] at wellFormed
    have total := headerNumber_two_lt ipPacket.ipHeader 2
    rw [wellFormed.totalLen_eq] at total
    omega
  | ipv6 =>
    rw [family] at wellFormed
    have total := headerNumber_two_lt ipPacket.ipHeader 4
    rw [wellFormed.payloadLen_eq] at total
    omega

/-- A byte of the IP header. -/
theorem getD_bytes_ip {index : Nat} (inside : index < ipPacket.ipHeader.length) :
    ipPacket.bytes.getD index 0 = ipPacket.ipHeader.getD index 0 := by
  rw [bytes, List.getD_append _ _ _ _ inside]

/-- A byte of the transport header. -/
theorem getD_bytes_transport {index : Nat}
    (inside : index < ipPacket.transportHeader.length) :
    ipPacket.bytes.getD (ipPacket.ipHeader.length + index) 0 =
      ipPacket.transportHeader.getD index 0 := by
  rw [bytes, List.getD_append_right _ _ _ _ (Nat.le_add_right _ _), Nat.add_sub_cancel_left,
    List.getD_append _ _ _ _ inside]

/-- A byte of the payload. -/
theorem getD_bytes_payload (index : Nat) :
    ipPacket.bytes.getD (ipPacket.ipHeader.length + ipPacket.transportHeader.length + index) 0 =
      ipPacket.payload.getD index 0 := by
  rw [bytes, Nat.add_assoc, List.getD_append_right _ _ _ _ (Nat.le_add_right _ _),
    Nat.add_sub_cancel_left, List.getD_append_right _ _ _ _ (Nat.le_add_right _ _),
    Nat.add_sub_cancel_left]

theorem length_bytes : ipPacket.bytes.length =
    ipPacket.ipHeader.length + (ipPacket.transportHeader.length + ipPacket.payload.length) := by
  rw [bytes, List.length_append, List.length_append]

/-- The four bits where IPv4 has the header length. -/
def ihl : Nat := headerNumber ipPacket.ipHeader 0 1 % 16

/-- The bits count the words of the header for IPv4, and for IPv6 when they happen to be ten. -/
theorem ihl_eq_iff : ipPacket.ihl * 4 = ipPacket.ipHeader.length ↔
    ipPacket.family = .ipv4 ∨ ipPacket.ihl = 10 := by
  have wellFormed := ipPacket.ip_wellFormed
  cases family : ipPacket.family with
  | ipv4 =>
    rw [family] at wellFormed
    exact iff_of_true wellFormed.words_eq (Or.inl rfl)
  | ipv6 =>
    rw [family] at wellFormed
    rw [wellFormed.length_eq]
    refine ⟨fun equal => Or.inr (by omega), fun classBits => ?_⟩
    rw [classBits.resolve_left (by decide)]

end IpPacket

/-! ### What the code reads -/

section Parsing

variable {streamType : StreamType} {packet : RawPacket} {ipPacket : IpPacket streamType}

/-- The length the code assumes for the IP header. -/
theorem packetL3Len_carried (carried : Carries packet ipPacket) :
    packetL3Len packet = ipPacket.ihl * 4 := by
  obtain ⟨bytes, aPacket_eq, bytes_eq⟩ := carried.aPacket_eq
  have atLeast := ipPacket.ipHeader_atLeast
  have length_bytes := ipPacket.length_bytes
  rw [packetL3Len, aPacket_eq, IpPacket.ihl, headerNumber_one,
    ← ipPacket.getD_bytes_ip (by omega), ← bytes_eq 0 (by omega)]
  rfl

theorem packetPayloadLen_carried (carried : Carries packet ipPacket) :
    packetPayloadLen packet = ipPacket.payload.length := by
  have small := ipPacket.payload_length_lt
  obtain ⟨detail, detail_eq, datalen_eq⟩ := Option.map_eq_some_iff.mp carried.datalen_eq
  rw [packetPayloadLen, detail_eq]
  simp only [datalen_eq]
  exact Nat.mod_eq_of_lt (by omega)

/-- Behind an IP header of known length, the transport header's length is read. -/
theorem packetL4Len_carried (carried : Carries packet ipPacket)
    (l3Len_eq : packetL3Len packet = ipPacket.ipHeader.length) :
    packetL4Len streamType packet = ipPacket.transportHeader.length := by
  obtain ⟨bytes, aPacket_eq, bytes_eq⟩ := carried.aPacket_eq
  have wellFormed := ipPacket.transport_wellFormed
  have length_bytes := ipPacket.length_bytes
  cases streamType with
  | tcp =>
    have atLeast := wellFormed.atLeast
    have tcph_eq : packetTcph .tcp packet =
        some (tcpHeaderAt bytes ipPacket.ipHeader.length) := by
      simp only [packetTcph, aPacket_eq, l3Len_eq]
    have offset_eq : (tcpHeaderAt bytes ipPacket.ipHeader.length).doff =
        headerNumber ipPacket.transportHeader 12 1 / 16 := by
      rw [headerNumber_one, ← ipPacket.getD_bytes_transport (by omega),
        ← bytes_eq _ (by omega)]
      rfl
    rw [packetL4Len, tcph_eq]
    simp only [offset_eq]
    exact wellFormed.dataOffset_eq
  | udp => exact wellFormed.length_eq.symm

/-- Behind headers of known lengths, the payload functions are given the payload. -/
theorem handedPayload_carried (cfg : FeatureConfig) (carried : Carries packet ipPacket)
    (l3Len_eq : packetL3Len packet = ipPacket.ipHeader.length) :
    handedPayload (packetInfo cfg streamType packet) =
      if ipPacket.payload = [] then none
      else some (ipPacket.payload, ipPacket.payload.length) := by
  have l4Len_eq := packetL4Len_carried carried l3Len_eq
  have payloadLen_eq := packetPayloadLen_carried carried
  obtain ⟨bytes, aPacket_eq, bytes_eq⟩ := carried.aPacket_eq
  have length_bytes := ipPacket.length_bytes
  have info_payload : (packetInfo cfg streamType packet).payload =
      packetPayload streamType packet (packetPayloadLen packet) := rfl
  have info_payloadLen : (packetInfo cfg streamType packet).payloadLen =
      ipPacket.payload.length := payloadLen_eq
  rw [handedPayload, info_payload, packetPayload, aPacket_eq, payloadLen_eq]
  by_cases empty : ipPacket.payload = []
  · rw [if_pos empty, empty]
    rfl
  · have positive : ipPacket.payload.length > 0 := List.length_pos_iff.mpr empty
    rw [if_neg empty]
    simp only [if_pos positive, Option.map_some, payloadBytes, info_payloadLen, l3Len_eq, l4Len_eq]
    refine congrArg (fun list => some (list, ipPacket.payload.length)) ?_
    refine List.ext_getElem (by rw [List.length_map, List.length_range]) fun index inside _ => ?_
    rw [List.length_map, List.length_range] at inside
    rw [List.getElem_map, List.getElem_range, bytes_eq _ (by omega),
      ipPacket.getD_bytes_payload, List.getD_eq_getElem _ _ inside]

/-- The headers of a well-formed packet are understood if it is an IPv4 packet, and of the IPv6
packets only if the upper four bits of the traffic class look like a header of ten words. -/
theorem packetInfo_headersParsed_iff (cfg : FeatureConfig) (carried : Carries packet ipPacket) :
    HeadersParsed (packetInfo cfg streamType packet) ipPacket ↔
      ipPacket.family = .ipv4 ∨ ipPacket.ihl = 10 := by
  rw [← ipPacket.ihl_eq_iff, ← packetL3Len_carried carried]
  constructor
  · exact HeadersParsed.l3Len_eq
  · intro l3Len_eq
    exact ⟨l3Len_eq, handedPayload_carried cfg carried l3Len_eq⟩

end Parsing

/-! ### One packet of each family -/

/-- The packet that carries some bytes. -/
def rawPacketOf {streamType : StreamType} (ipPacket : IpPacket streamType) : RawPacket :=
  { barePacket 1 1 ipPacket.payload.length with
    aPacket := some fun index => ipPacket.bytes.getD index 0 }

theorem rawPacketOf_carries {streamType : StreamType} (ipPacket : IpPacket streamType) :
    Carries (rawPacketOf ipPacket) ipPacket where
  aPacket_eq := ⟨_, rfl, fun _ _ => rfl⟩
  datalen_eq := rfl

/-- A UDP header in front of one byte. -/
def probeUdpHeader : List UInt8 := [0, 53, 0, 53, 0, 9, 0, 0]

/-- A UDP packet of one byte under IPv4. -/
def probeIpv4 : IpPacket .udp where
  family := .ipv4
  ipHeader := [69, 0, 0, 29, 0, 0, 0, 0, 64, 17, 0, 0, 10, 0, 0, 1, 10, 0, 0, 2]
  transportHeader := probeUdpHeader
  payload := [1]
  ip_wellFormed := ⟨by decide, by decide, by decide, by decide, by decide⟩
  transport_wellFormed := ⟨by decide, by decide⟩

/-- A UDP packet of one byte under IPv6, of traffic class zero. -/
def probeIpv6 : IpPacket .udp where
  family := .ipv6
  ipHeader := [96, 0, 0, 0, 0, 9, 17, 64] ++ List.replicate 32 0
  transportHeader := probeUdpHeader
  payload := [1]
  ip_wellFormed := ⟨by decide, by decide, by decide, by decide⟩
  transport_wellFormed := ⟨by decide, by decide⟩

theorem probeIpv4_parsed :
    HeadersParsed (packetInfo defaultConfig .udp (rawPacketOf probeIpv4)) probeIpv4 :=
  (packetInfo_headersParsed_iff defaultConfig (rawPacketOf_carries probeIpv4)).mpr (Or.inl rfl)

/-- Of an IPv6 packet of traffic class zero the IP header is taken to be empty. -/
theorem probeIpv6_not_parsed :
    ¬ HeadersParsed (packetInfo defaultConfig .udp (rawPacketOf probeIpv6)) probeIpv6 :=
  fun parsed => absurd parsed.l3Len_eq (by decide)

end TiFeatures
