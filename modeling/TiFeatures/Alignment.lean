/-
This file settles whether the inter-arrival times written next to the packets of
a flow belong to them. The packet sequences hold one value more than the
inter-arrival times until both are full; from then on both hold 5000, and what
is read at a fixed distance of one no longer belongs to the same packet.
-/

import TiFeatures.Gaps

namespace TiFeatures

open BoundedStore

variable {D : Type}

/-! ### Arrival gaps -/

theorem gapsBy_getElem? (sub : Nat → Nat → Nat) {times : List Nat} {index earlier later : Nat}
    (first : times[index]? = some earlier) (second : times[index + 1]? = some later) :
    (gapsBy sub times)[index]? = some (sub later earlier) := by
  induction times using gapsBy.induct generalizing index with
  | case1 head next rest inductionHypothesis =>
    cases index with
    | zero =>
      obtain rfl := Option.some.inj first
      obtain rfl := Option.some.inj second
      rfl
    | succ index => exact inductionHypothesis first second
  | case2 times short =>
    rcases times with _ | ⟨head, _ | ⟨next, rest⟩⟩
    · cases first
    · cases second
    · exact absurd rfl (short head next rest)

/-! ### Records -/

/-- The records of `l2l3l4pl_iat` of a view. -/
def View.layerRecords (view : View D) : List LayerRecord :=
  TiFeatures.layerRecords (view.seqs .pktLenSeq) (view.seqs .iatSeq) (view.seqs .l3LenSeq)
    (view.seqs .l4LenSeq) (view.seqs .payloadLenSeq)

/-- The record of a packet has its lengths, and the inter-arrival time one place earlier. -/
theorem layerRecords_getElem? (infos : List PacketInfo) (iats : List Nat) {index : Nat}
    {info : PacketInfo} (found : infos[index]? = some info) : ∃ l2,
    (layerRecords (infos.map PacketInfo.pktLen) iats (infos.map PacketInfo.l3Len)
      (infos.map PacketInfo.l4Len) (infos.map PacketInfo.payloadLen))[index]? =
      some ⟨l2, info.l3Len, info.l4Len, info.payloadLen,
        if index = 0 then 0 else iats.getD (index - 1) 0⟩ := by
  obtain ⟨inside, -⟩ := List.getElem?_eq_some_iff.mp found
  simp only [layerRecords, List.length_map, Nat.min_self, ite_self, List.getElem?_map,
    List.getElem?_range inside, Option.map_some, List.getD_eq_getElem?_getD, found,
    Option.getD_some]
  exact ⟨_, rfl⟩

/-- The records of a view are those of given packets. -/
structure View.Describes (view : View D) (described : List PacketInfo) : Prop where
  length_eq : view.layerRecords.length = described.length
  record_eq : ∀ (index : Nat) (entry : LayerRecord) (info : PacketInfo),
    view.layerRecords[index]? = some entry → described[index]? = some info →
    entry.l3 = info.l3Len ∧ entry.l4 = info.l4Len ∧ entry.payload = info.payloadLen

/-- The inter-arrival times of a view belong to the packets its records describe: every record
but the first has the time from the packet of the record before, and the lengths are one more
than the times. -/
structure View.IatsAligned (view : View D) (described : List PacketInfo) : Prop where
  iat_eq : ∀ (index : Nat) (entry : LayerRecord) (earlier later : PacketInfo),
    view.layerRecords[index + 1]? = some entry → described[index]? = some earlier →
    described[index + 1]? = some later → entry.iat = u64Sub later.tsUs earlier.tsUs
  count_eq : (view.seqs .pktLenSeq).length = (view.seqs .iatSeq).length + 1

/-- The sequences of a view are those of the last packets, as far as its capacity goes. -/
structure View.OfPackets (view : View D) (capacity : Nat) (infos : List PacketInfo) : Prop where
  pktLens_eq : view.seqs .pktLenSeq = (infos.rtake capacity).map PacketInfo.pktLen
  l3Lens_eq : view.seqs .l3LenSeq = (infos.rtake capacity).map PacketInfo.l3Len
  l4Lens_eq : view.seqs .l4LenSeq = (infos.rtake capacity).map PacketInfo.l4Len
  payloadLens_eq : view.seqs .payloadLenSeq = (infos.rtake capacity).map PacketInfo.payloadLen
  iats_eq : view.seqs .iatSeq = (gapsBy u64Sub (infos.map PacketInfo.tsUs)).rtake capacity

section Views

variable {view : View D} {capacity : Nat} {infos : List PacketInfo}

theorem View.OfPackets.layerRecords_eq (of : view.OfPackets capacity infos) : view.layerRecords =
    TiFeatures.layerRecords ((infos.rtake capacity).map PacketInfo.pktLen) (view.seqs .iatSeq)
      ((infos.rtake capacity).map PacketInfo.l3Len) ((infos.rtake capacity).map PacketInfo.l4Len)
      ((infos.rtake capacity).map PacketInfo.payloadLen) := by
  rw [View.layerRecords, of.pktLens_eq, of.l3Lens_eq, of.l4Lens_eq, of.payloadLens_eq]

theorem View.OfPackets.describes (of : view.OfPackets capacity infos) :
    view.Describes (infos.rtake capacity) := by
  refine ⟨?_, fun index entry info recorded found => ?_⟩
  · rw [of.layerRecords_eq]
    simp only [TiFeatures.layerRecords, List.length_map, List.length_range, Nat.min_self, ite_self]
  · obtain ⟨l2, entry_eq⟩ := layerRecords_getElem? (infos.rtake capacity) (view.seqs .iatSeq) found
    rw [← of.layerRecords_eq, recorded] at entry_eq
    rw [Option.some.inj entry_eq]
    exact ⟨rfl, rfl, rfl⟩

/-- The counts differ by one exactly until the packet sequences are full. -/
theorem View.OfPackets.iatsAligned_iff (of : view.OfPackets capacity infos)
    (nonempty : infos.length > 0) :
    view.IatsAligned (infos.rtake capacity) ↔ infos.length ≤ capacity := by
  have lens : (view.seqs .pktLenSeq).length = min capacity infos.length := by
    rw [of.pktLens_eq, List.length_map, length_rtake]
  have iats : (view.seqs .iatSeq).length = min capacity (infos.length - 1) := by
    rw [of.iats_eq, length_rtake, length_gapsBy, List.length_map]
  refine ⟨fun aligned => ?_, fun few => ⟨?_, by omega⟩⟩
  · have counts := aligned.count_eq
    omega
  · intro index entry earlier later recorded before found
    rw [rtake_of_length_le few] at before found
    obtain ⟨l2, entry_eq⟩ := layerRecords_getElem? infos (view.seqs .iatSeq) found
    rw [of.layerRecords_eq, rtake_of_length_le few, entry_eq] at recorded
    obtain rfl := Option.some.inj recorded
    have timeBefore : (infos.map PacketInfo.tsUs)[index]? = Option.some earlier.tsUs := by
      rw [List.getElem?_map, before]
      rfl
    have timeFound : (infos.map PacketInfo.tsUs)[index + 1]? = Option.some later.tsUs := by
      rw [List.getElem?_map, found]
      rfl
    have gap := gapsBy_getElem? u64Sub timeBefore timeFound
    have fewGaps : (gapsBy u64Sub (infos.map PacketInfo.tsUs)).length ≤ capacity := by
      rw [length_gapsBy, List.length_map]
      omega
    have iats_eq := of.iats_eq.trans (rtake_of_length_le fewGaps)
    show (if index + 1 = 0 then 0 else (view.seqs .iatSeq).getD (index + 1 - 1) 0) = _
    rw [if_neg (Nat.succ_ne_zero index), Nat.add_sub_cancel, iats_eq, List.getD_eq_getElem?_getD,
      gap, Option.getD_some]

end Views

section Runs

variable [Double D] (cfg : FeatureConfig) (platform : Platform D) (streamType : StreamType)
  (first : RawPacket) (rest : List RawPacket)

/-- A sequence that every packet adds one value to is that of the last packets. -/
theorem closingView_packetSeq {seq : SeqId} {need : Bool} {value : PacketInfo → Nat}
    (every : packetSeq cfg seq = some (need, value)) (on : need = true) :
    (closingView (D := D) cfg platform streamType first rest).seqs seq =
      ((packetInfos cfg streamType (first :: rest)).rtake 5000).map value := by
  rw [closingView_seqs, flowContents_seqs,
    pushed_flowAccesses cfg platform streamType first rest every, if_pos on, map_rtake]

theorem closingView_ofPackets (lens : cfg.needPktLenSeq = true)
    (layers : cfg.needL3L4PayloadSeq = true) (iats : cfg.needIatSeq = true)
    (positive : ∀ info ∈ packetInfos cfg streamType (first :: rest), info.tsUs > 0) :
    (closingView cfg platform streamType first rest).OfPackets 5000
      (packetInfos cfg streamType (first :: rest)) := by
  have iatSeq := flowContents_seqs cfg platform streamType first rest .iatSeq
  rw [← closingView_seqs, pushed_iats cfg platform streamType first rest positive,
    if_pos iats] at iatSeq
  have packets := @closingView_packetSeq D _ cfg platform streamType first rest
  exact ⟨packets rfl lens, packets rfl layers, packets rfl layers, packets rfl layers, iatSeq⟩

/-- Writing the sequences out switches their collection on. -/
theorem needs_of_enableRawSequences {switches : Switches}
    (raw : switches.enableRawSequences = true) :
    (compoundFlags switches).needPktLenSeq = true ∧
      (compoundFlags switches).needL3L4PayloadSeq = true ∧
      (compoundFlags switches).needIatSeq = true := by
  refine ⟨?_, raw, ?_⟩
  · simp only [compoundFlags, raw, Bool.or_true, Bool.true_or]
  · simp only [compoundFlags, raw, Bool.or_true]

/-- The records of a flow describe its last 5000 packets. Their inter-arrival times are aligned
with them exactly if the flow has no more packets than that. -/
theorem layerRecords_aligned_iff (thresholds : Thresholds) {switches : Switches}
    (raw : switches.enableRawSequences = true)
    (positive : ∀ info ∈ packetInfos (featConfigRead thresholds switches) streamType
      (first :: rest), info.tsUs > 0) :
    let cfg := featConfigRead thresholds switches
    let described := (packetInfos cfg streamType (first :: rest)).rtake 5000
    ∃ state, flowRun cfg platform streamType (allocated (first :: rest)) = some state ∧
      state.view.Describes described ∧
      (state.view.IatsAligned described ↔ rest.length + 1 ≤ 5000) := by
  intro cfg described
  obtain ⟨state, run, view_eq⟩ := Option.map_eq_some_iff.mp
    (flowRun_view cfg platform streamType first rest)
  obtain ⟨lens, layers, iats⟩ := needs_of_enableRawSequences raw
  have of := closingView_ofPackets cfg platform streamType first rest lens layers iats positive
  have aligned := of.iatsAligned_iff (Nat.succ_pos _)
  rw [packetInfos, List.length_map, List.length_cons] at aligned
  rw [← view_eq] at aligned of
  exact ⟨state, run, of.describes, aligned⟩

end Runs

/-- The records of a flow of two packets are aligned. -/
theorem layerRecords_aligned_two : ∃ state : FlowFeatureState Float,
    flowRun defaultConfig (barePlatform Float) .tcp
        (allocated [barePacket 1 1 100, barePacket 3 2 100]) = some state ∧
      state.view.IatsAligned ((packetInfos defaultConfig .tcp
        [barePacket 1 1 100, barePacket 3 2 100]).rtake 5000) := by
  obtain ⟨state, run, -, aligned_iff⟩ := layerRecords_aligned_iff (barePlatform Float) .tcp
    (barePacket 1 1 100) [barePacket 3 2 100] defaultThresholds
    (show defaultSwitches.enableRawSequences = true from rfl) (by decide)
  exact ⟨state, run, aligned_iff.mpr (by decide)⟩

/-- Packets at the times 1 and 8, and 4999 more at 9. -/
def lateGap : List RawPacket := barePacket 8 1 100 :: List.replicate 4999 (barePacket 9 1 100)

/-- A flow of one packet more than the sequences hold: the second of its records describes a
packet one microsecond after the one before, and has the seven from before that. There are as
many inter-arrival times as packets. -/
theorem layerRecords_misaligned : ∃ (state : FlowFeatureState Float) (entry : LayerRecord),
    flowRun defaultConfig (barePlatform Float) .tcp (allocated (barePacket 1 1 100 :: lateGap)) =
        some state ∧
      (packetInfos defaultConfig .tcp (barePacket 1 1 100 :: lateGap)).rtake 5000 =
        packetInfos defaultConfig .tcp lateGap ∧
      state.view.layerRecords[1]? = some entry ∧ entry.iat = 7 ∧
      (state.view.seqs .pktLenSeq).length = 5000 ∧ (state.view.seqs .iatSeq).length = 5000 := by
  obtain ⟨state, run, view_eq⟩ := Option.map_eq_some_iff.mp
    (flowRun_view defaultConfig (barePlatform Float) .tcp (barePacket 1 1 100) lateGap)
  have positive : ∀ info ∈ packetInfos defaultConfig .tcp (barePacket 1 1 100 :: lateGap),
      info.tsUs > 0 := by
    intro info member
    obtain ⟨packet, inside, rfl⟩ := List.mem_map.mp member
    simp only [lateGap, List.mem_cons, List.mem_replicate] at inside
    rcases inside with rfl | rfl | ⟨-, rfl⟩ <;> decide
  have of := closingView_ofPackets defaultConfig (barePlatform Float) .tcp (barePacket 1 1 100)
    lateGap rfl rfl rfl positive
  rw [← view_eq] at of
  have length_eq : (packetInfos defaultConfig .tcp lateGap).length = 5000 := by
    rw [packetInfos, List.length_map, lateGap, List.length_cons, List.length_replicate]
  have described : (packetInfos defaultConfig .tcp (barePacket 1 1 100 :: lateGap)).rtake 5000 =
      packetInfos defaultConfig .tcp lateGap := by
    have dropped := rtake_cons_length (packetInfo defaultConfig .tcp (barePacket 1 1 100))
      (packetInfos defaultConfig .tcp lateGap)
    rwa [length_eq] at dropped
  have iats_length : (gapsBy u64Sub ((packetInfos defaultConfig .tcp
      (barePacket 1 1 100 :: lateGap)).map PacketInfo.tsUs)).length = 5000 := by
    rw [length_gapsBy, List.length_map, packetInfos, List.map_cons, List.length_cons,
      ← packetInfos, length_eq]
  have iats_eq := of.iats_eq.trans (rtake_of_length_le iats_length.le)
  have second : ((packetInfos defaultConfig .tcp (barePacket 1 1 100 :: lateGap)).rtake 5000)[1]? =
      some (packetInfo defaultConfig .tcp (barePacket 9 1 100)) :=
    (congrArg (fun infos : List PacketInfo => infos[1]?) described).trans rfl
  obtain ⟨l2, recorded⟩ := layerRecords_getElem? _ (state.view.seqs .iatSeq) second
  rw [← of.layerRecords_eq] at recorded
  have gap := gapsBy_getElem? u64Sub
    (show ((packetInfos defaultConfig .tcp (barePacket 1 1 100 :: lateGap)).map
      PacketInfo.tsUs)[0]? = some 1 from rfl)
    (show ((packetInfos defaultConfig .tcp (barePacket 1 1 100 :: lateGap)).map
      PacketInfo.tsUs)[1]? = some 8 from rfl)
  refine ⟨state, _, run, described, recorded, ?_, ?_, by rw [iats_eq, iats_length]⟩
  · show (if 1 = 0 then 0 else (state.view.seqs .iatSeq).getD (1 - 1) 0) = 7
    rw [if_neg one_ne_zero, iats_eq, List.getD_eq_getElem?_getD, gap]
    rfl
  · rw [of.pktLens_eq, List.length_map, described, length_eq]

end TiFeatures
