/-
This file models what one callback of the platform brings: the clock, the bytes
at `a_packet`, the length of the payload, the direction and the address. The
second half is the top of `traffic_process`, which derives from these the
lengths, the headers and the payload that the per-packet functions work on.
-/

import TiFeatures.Config

namespace TiFeatures

/-! ### The platform -/

/-- `stream_type`. -/
inductive StreamType where
  | tcp
  | udp
  deriving DecidableEq

/-- The value of the enumerator. -/
def StreamType.code : StreamType → Nat
  | .tcp => 0
  | .udp => 1

/-- A four-tuple: the addresses as bytes, the ports as they are stored, in network order. -/
structure StreamTuple4 where
  saddr : List UInt8
  daddr : List UInt8
  source : Nat
  dest : Nat
  deriving DecidableEq

/-- `addr` of a stream: its type and the tuple behind `paddr`, if the pointer is set. -/
inductive StreamAddr where
  | ipv4 (paddr : Option StreamTuple4)
  | ipv6 (paddr : Option StreamTuple4)
  | other
  deriving DecidableEq

/-- `raw_pkt_type` values of frames that start with a link-layer header. -/
def linkLayerTypes : List Nat := [4, 3, 16]

/-- `tcpdetail` or `udpdetail`. -/
structure StreamDetail where
  datalen : Nat
  createtime : Nat
  deriving DecidableEq

/-- One callback: what the platform reports about a stream and its packet. The bytes are those
from `a_packet` on; `sni` is what the bridge holds for the stream, if it is enabled. -/
structure RawPacket where
  tvSec : Nat
  tvUsec : Nat
  platformMs : Nat
  aPacket : Option (Nat → UInt8)
  detail : Option StreamDetail
  curdir : Nat
  rawTotLen : Option Int
  rawPktType : Option Nat
  addr : StreamAddr
  sni : Option String

/-- The functions of other libraries the plugin calls, and the contents `malloc` leaves in a
block of `unsigned int`. -/
structure Platform (D : Type) where
  /-- zlib's `compress`: the compressed length, unless it fails. -/
  compress : List UInt8 → Option Nat
  inetNtop : List UInt8 → String
  /-- The text an output stream makes of a `double`. -/
  formatDouble : D → String
  malloced : Nat → Nat

/-! ### Headers -/

/-- `ntohs` and `htons`. -/
def ntohs (value : Nat) : Nat := value % 256 * 256 + value / 256 % 256

/-- The big-endian number in `count` bytes. -/
def bigEndian (bytes : Nat → UInt8) (offset count : Nat) : Nat :=
  (List.range count).foldl (fun value index => value * 256 + (bytes (offset + index)).toNat) 0

/-- The bit of a header byte with the given index. -/
def headerBit (byte : UInt8) (index : Nat) : Bool := byte.toNat.testBit index

/-- The fields of an IPv4 header that are read. An address is the integer its four bytes form
in memory, the first byte lowest. -/
structure IpHeader where
  ihl : Nat
  tos : Nat
  ttl : Nat
  fragOff : Nat
  saddr : Nat
  daddr : Nat
  deriving DecidableEq

/-- The `struct iphdr` at a packet's bytes. -/
def ipHeaderAt (bytes : Nat → UInt8) : IpHeader where
  ihl := (bytes 0).toNat % 16
  tos := (bytes 1).toNat
  ttl := (bytes 8).toNat
  fragOff := bigEndian bytes 6 2
  saddr := (List.range 4).foldl (fun value index =>
    value + (bytes (12 + index)).toNat * 256 ^ index) 0
  daddr := (List.range 4).foldl (fun value index =>
    value + (bytes (16 + index)).toNat * 256 ^ index) 0

/-- The fields of a TCP header that are read, numbers in host order. -/
structure TcpHeader where
  seq : Nat
  doff : Nat
  fin : Bool
  syn : Bool
  rst : Bool
  psh : Bool
  ack : Bool
  urg : Bool
  window : Nat
  deriving DecidableEq

/-- The `struct tcphdr` at an offset of a packet's bytes. -/
def tcpHeaderAt (bytes : Nat → UInt8) (offset : Nat) : TcpHeader where
  seq := bigEndian bytes (offset + 4) 4
  doff := (bytes (offset + 12)).toNat / 16
  fin := headerBit (bytes (offset + 13)) 0
  syn := headerBit (bytes (offset + 13)) 1
  rst := headerBit (bytes (offset + 13)) 2
  psh := headerBit (bytes (offset + 13)) 3
  ack := headerBit (bytes (offset + 13)) 4
  urg := headerBit (bytes (offset + 13)) 5
  window := bigEndian bytes (offset + 14) 2

/-! ### The top of `traffic_process` -/

/-- The local variables of `traffic_process` when its state machine is entered. `payload` holds
the bytes that the payload functions are given, from `payload` on; it is absent where they are
not called. -/
structure PacketInfo where
  streamType : StreamType
  tsUs : Nat
  direction : Nat
  pktLen : Nat
  payloadLen : Nat
  l2Len : Nat
  l3Len : Nat
  l4Len : Nat
  iph : Option IpHeader
  tcph : Option TcpHeader
  payload : Option (Nat → UInt8)
  addr : StreamAddr

/-- The timestamp of a packet, from the capture or from the platform's clock. -/
def packetTsUs (cfg : FeatureConfig) (packet : RawPacket) : Nat :=
  if cfg.runMode == 0 then u64 (packet.tvSec * 1000000 + packet.tvUsec)
  else u64 (packet.platformMs * 1000)

/-- The length of the payload, if the stream has a detail. -/
def packetPayloadLen (packet : RawPacket) : Nat :=
  match packet.detail with
  | some detail => u32 detail.datalen
  | none => 0

/-- The length of the IP header the code assumes. -/
def packetL3Len (packet : RawPacket) : Nat :=
  match packet.aPacket with
  | some bytes => (ipHeaderAt bytes).ihl * 4
  | none => 0

/-- The TCP header behind the IP header. -/
def packetTcph (streamType : StreamType) (packet : RawPacket) : Option TcpHeader :=
  match streamType, packet.aPacket with
  | .tcp, some bytes => some (tcpHeaderAt bytes (packetL3Len packet))
  | _, _ => none

/-- The length of the transport header. -/
def packetL4Len (streamType : StreamType) (packet : RawPacket) : Nat :=
  match streamType with
  | .tcp =>
    match packetTcph streamType packet with
    | some tcph => tcph.doff * 4
    | none => 0
  | .udp => 8

/-- The length of the link-layer header, from the total length of the raw frame. -/
def packetL2Len (packet : RawPacket) (l3l4PayloadLen : Nat) : Nat :=
  match packet.rawTotLen, packet.rawPktType with
  | some rawTotLen, some rawPktType =>
    if rawPktType ∈ linkLayerTypes ∧ rawTotLen ≥ toInt32 l3l4PayloadLen then
      u32 ((rawTotLen - toInt32 l3l4PayloadLen) % 2 ^ 32).toNat
    else 0
  | _, _ => 0

/-- The bytes from the payload on, for a packet that has a payload and bytes. -/
def packetPayload (streamType : StreamType) (packet : RawPacket) (payloadLen : Nat) :
    Option (Nat → UInt8) :=
  match packet.aPacket with
  | some bytes =>
    if payloadLen > 0 then
      some fun index => bytes (packetL3Len packet + packetL4Len streamType packet + index)
    else none
  | none => none

/-- The top of `traffic_process`, up to the state machine. -/
def packetInfo (cfg : FeatureConfig) (streamType : StreamType) (packet : RawPacket) :
    PacketInfo :=
  let payloadLen := packetPayloadLen packet
  let l3Len := packetL3Len packet
  let l4Len := packetL4Len streamType packet
  let l2Len := packetL2Len packet (u32 (l3Len + l4Len + payloadLen))
  { streamType
    tsUs := packetTsUs cfg packet
    direction := packet.curdir
    pktLen := u32 (u32 (payloadLen + l3Len + l4Len) + l2Len)
    payloadLen
    l2Len
    l3Len
    l4Len
    iph := packet.aPacket.map ipHeaderAt
    tcph := packetTcph streamType packet
    payload := packetPayload streamType packet payloadLen
    addr := packet.addr }

theorem packetInfo_pktLen_lt (cfg : FeatureConfig) (streamType : StreamType)
    (packet : RawPacket) : (packetInfo cfg streamType packet).pktLen < 2 ^ 32 := u32_lt _

theorem packetInfo_payloadLen_lt (cfg : FeatureConfig) (streamType : StreamType)
    (packet : RawPacket) : (packetInfo cfg streamType packet).payloadLen < 2 ^ 32 := by
  change packetPayloadLen packet < 2 ^ 32
  unfold packetPayloadLen
  split
  · exact u32_lt _
  · decide

theorem packetInfo_tsUs_lt (cfg : FeatureConfig) (streamType : StreamType)
    (packet : RawPacket) : (packetInfo cfg streamType packet).tsUs < 2 ^ 64 := by
  unfold packetInfo packetTsUs
  split <;> exact u64_lt _

/-- What a packet is to the per-packet functions depends on the clock setting only. -/
theorem packetInfo_congr {cfg other : FeatureConfig} (same : cfg.runMode = other.runMode)
    (streamType : StreamType) (packet : RawPacket) :
    packetInfo cfg streamType packet = packetInfo other streamType packet := by
  unfold packetInfo packetTsUs
  rw [same]

/-! ### A packet without bytes -/

/-- A packet with nothing at `a_packet`, at a time within the first second of the clock. -/
def barePacket (tvUsec curdir datalen : Nat) : RawPacket where
  tvSec := 0
  tvUsec
  platformMs := 0
  aPacket := none
  detail := some ⟨datalen, 0⟩
  curdir
  rawTotLen := none
  rawPktType := none
  addr := .other
  sni := none

/-- A packet without bytes, two seconds after the epoch. -/
def laterPacket : RawPacket := { barePacket 1 1 0 with tvSec := 2 }

/-- A platform for packets that have no bytes and no address to print. -/
def barePlatform (D : Type) : Platform D where
  compress _ := none
  inetNtop _ := ""
  formatDouble _ := ""
  malloced _ := 0

end TiFeatures
