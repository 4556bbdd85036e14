/-
This file recovers the header lengths of a packet from its record. The length of the
link-layer header is not stored: it is what the packet length exceeds the other
three by, and that is exact as long as these stay below 2^31.
-/

import TiFeatures.Alignment

namespace TiFeatures

/-! ### The lengths of a packet -/

/-- The total length of the raw frame, where it is reported, is an `int`. -/
def RawPacket.TotLenInRange (packet : RawPacket) : Prop :=
  ∀ rawTotLen ∈ packet.rawTotLen, -2 ^ 31 ≤ rawTotLen ∧ rawTotLen < 2 ^ 31

/-- The length of the link-layer header completes the packet to the raw frame. -/
theorem packetL2Len_add_lt {packet : RawPacket} (inRange : packet.TotLenInRange)
    {l3l4PayloadLen : Nat} (short : l3l4PayloadLen < 2 ^ 31) :
    packetL2Len packet l3l4PayloadLen + l3l4PayloadLen < 2 ^ 31 := by
  have total_eq : toInt32 l3l4PayloadLen = (l3l4PayloadLen : Int) := by
    unfold toInt32
    omega
  unfold packetL2Len
  split
  · rename_i rawTotLen rawPktType reported _
    obtain ⟨low, high⟩ := inRange rawTotLen reported
    split
    · rename_i complete
      rw [total_eq] at complete ⊢
      unfold u32
      omega
    · omega
  · omega

/-- The length of a packet is the sum of its four parts. -/
theorem packetInfo_pktLen_eq (cfg : FeatureConfig) (streamType : StreamType) {packet : RawPacket}
    (inRange : packet.TotLenInRange)
    (short : (packetInfo cfg streamType packet).l3Len + (packetInfo cfg streamType packet).l4Len +
      (packetInfo cfg streamType packet).payloadLen < 2 ^ 31) :
    (packetInfo cfg streamType packet).pktLen =
      (packetInfo cfg streamType packet).l2Len + (packetInfo cfg streamType packet).l3Len +
        (packetInfo cfg streamType packet).l4Len +
        (packetInfo cfg streamType packet).payloadLen := by
  have parts : packetL3Len packet + packetL4Len streamType packet + packetPayloadLen packet <
      2 ^ 31 := short
  have complete := packetL2Len_add_lt inRange parts
  show u32 (u32 (packetPayloadLen packet + packetL3Len packet + packetL4Len streamType packet) +
      packetL2Len packet (u32 (packetL3Len packet + packetL4Len streamType packet +
        packetPayloadLen packet))) =
    packetL2Len packet (u32 (packetL3Len packet + packetL4Len streamType packet +
        packetPayloadLen packet)) + packetL3Len packet + packetL4Len streamType packet +
      packetPayloadLen packet
  rw [u32_of_lt (show packetL3Len packet + packetL4Len streamType packet +
    packetPayloadLen packet < 2 ^ 32 by omega), u32_of_lt (show packetPayloadLen packet +
    packetL3Len packet + packetL4Len streamType packet < 2 ^ 32 by omega), u32_of_lt (by omega)]
  omega

/-! ### The record of a packet -/

/-- A packet whose length is the sum of its parts, which stay below 2^31. -/
structure PacketInfo.Split (info : PacketInfo) : Prop where
  short : info.l3Len + info.l4Len + info.payloadLen < 2 ^ 31
  sum_eq : info.pktLen = info.l2Len + info.l3Len + info.l4Len + info.payloadLen

/-- The record of a packet has the lengths of its parts. -/
theorem layerRecords_split_getElem? (infos : List PacketInfo) (iats : List Nat) {index : Nat}
    {info : PacketInfo} (found : infos[index]? = some info) (split : info.Split) :
    ∃ entry : LayerRecord, (layerRecords (infos.map PacketInfo.pktLen) iats
      (infos.map PacketInfo.l3Len) (infos.map PacketInfo.l4Len)
      (infos.map PacketInfo.payloadLen))[index]? = some entry ∧
      entry.l2 = info.l2Len ∧ entry.l3 = info.l3Len ∧ entry.l4 = info.l4Len ∧
      entry.payload = info.payloadLen := by
  obtain ⟨inside, -⟩ := List.getElem?_eq_some_iff.mp found
  have some_packet : (infos.map PacketInfo.pktLen).length > 0 := by
    rw [List.length_map]
    omega
  have total := u32_of_lt (show info.l3Len + info.l4Len + info.payloadLen < 2 ^ 32 by
    have := split.short
    omega)
  have sum_eq := split.sum_eq
  simp only [layerRecords, List.length_map, Nat.min_self, ite_self, List.getElem?_map,
    List.getElem?_range inside, Option.map_some, List.getD_eq_getElem?_getD, found,
    Option.getD_some, total]
  refine ⟨_, rfl, ?_, rfl, rfl, rfl⟩
  have enough : info.pktLen ≥ info.l3Len + info.l4Len + info.payloadLen := by omega
  rw [if_pos ⟨by simpa using some_packet, enough⟩]
  show info.pktLen - (info.l3Len + info.l4Len + info.payloadLen) = info.l2Len
  omega

/-! ### Flows -/

variable {D : Type}

/-- The records of a view give the lengths of the packets it is made of, and the entries of the
packet length sequence are their sums. -/
structure View.SplitsLengths (view : View D) (described : List PacketInfo) : Prop where
  length_eq : view.layerRecords.length = described.length
  record_eq : ∀ (index : Nat) (info : PacketInfo), described[index]? = some info →
    ∃ entry : LayerRecord, view.layerRecords[index]? = some entry ∧
      entry.l2 = info.l2Len ∧ entry.l3 = info.l3Len ∧ entry.l4 = info.l4Len ∧
      entry.payload = info.payloadLen ∧
      (view.seqs .pktLenSeq)[index]? = some (entry.l2 + entry.l3 + entry.l4 + entry.payload)

/-- The sequences of a view that the records are made of hold the lengths of these packets. -/
structure View.HoldsLengths (view : View D) (described : List PacketInfo) : Prop where
  pktLens : view.seqs .pktLenSeq = described.map PacketInfo.pktLen
  l3Lens : view.seqs .l3LenSeq = described.map PacketInfo.l3Len
  l4Lens : view.seqs .l4LenSeq = described.map PacketInfo.l4Len
  payloadLens : view.seqs .payloadLenSeq = described.map PacketInfo.payloadLen

namespace View.HoldsLengths

variable {view : View D} {described : List PacketInfo} (holds : view.HoldsLengths described)

include holds

/-- The lengths of packets that are split are recovered from the sequences. -/
theorem splitsLengths (split : ∀ info ∈ described, info.Split) :
    view.SplitsLengths described := by
  have records_eq : view.layerRecords = TiFeatures.layerRecords (described.map PacketInfo.pktLen)
      (view.seqs .iatSeq) (described.map PacketInfo.l3Len) (described.map PacketInfo.l4Len)
      (described.map PacketInfo.payloadLen) := by
    rw [View.layerRecords, holds.pktLens, holds.l3Lens, holds.l4Lens, holds.payloadLens]
  refine ⟨?_, fun index info found => ?_⟩
  · rw [records_eq]
    simp only [TiFeatures.layerRecords, List.length_map, List.length_range, Nat.min_self, ite_self]
  · have info_split := split info (List.mem_of_getElem? found)
    obtain ⟨entry, recorded, l2, l3, l4, payload⟩ :=
      layerRecords_split_getElem? described (view.seqs .iatSeq) found info_split
    refine ⟨entry, records_eq ▸ recorded, l2, l3, l4, payload, ?_⟩
    rw [holds.pktLens, List.getElem?_map, found, Option.map_some, info_split.sum_eq, l2, l3, l4,
      payload]

/-- The records and the packet lengths are written out when there are any. -/
theorem reported [Double D] {cfg : FeatureConfig} (raw : cfg.enableRawSequences = true)
    (platform : Platform D) (some_packet : 0 < described.length) :
    addString "l2l3l4pl_iat" (serialize LayerRecord.text view.layerRecords) ∈
      calcDerivedSequence cfg platform view ∧
    addString "packet_length_seq" (serializeUintArray (view.seqs .pktLenSeq)) ∈
      calcDerivedSequence cfg platform view := by
  have positive : ∀ length : PacketInfo → Nat, (described.map length).length > 0 :=
    fun length => (List.length_map length).symm ▸ some_packet
  have lens_pos : (view.seqs .pktLenSeq).length > 0 := holds.pktLens ▸ positive _
  have layers_pos : (view.seqs .l3LenSeq).length > 0 ∧ (view.seqs .l4LenSeq).length > 0 ∧
      (view.seqs .payloadLenSeq).length > 0 :=
    ⟨holds.l3Lens ▸ positive _, holds.l4Lens ▸ positive _, holds.payloadLens ▸ positive _⟩
  unfold calcDerivedSequence rawSequences
  rw [if_pos raw, if_pos lens_pos, if_pos layers_pos, View.layerRecords]
  simp only [List.mem_append, List.mem_singleton, true_or, or_true, and_self]

end View.HoldsLengths

/-- A packet of 52 bytes of payload in a frame of 74 bytes. -/
def framedPacket : RawPacket :=
  { barePacket 1 1 52 with rawTotLen := some 74, rawPktType := some 4 }

/-- Two packets in frames, and two without, in both directions. -/
def framedPackets : List RawPacket :=
  [framedPacket, barePacket 2 2 100, { framedPacket with tvUsec := 3, curdir := 2 },
    barePacket 4 1 0]

end TiFeatures
