/-
This file compares the keys a flow is written with after some packets with the
keys it is written with after more. Sections come and go with their guards, and
every other section that is written once is written ever after.
-/

import TiFeatures.ActiveTime
import TiFeatures.Arithmetic
import TiFeatures.Guards

namespace TiFeatures

open BoundedStore

variable {D : Type}

/-! ### Views that grow -/

section Views

variable [Double D]

/-- What does not become less when a flow takes more packets. -/
structure View.Grown (cfg : FeatureConfig) (view later : View D) : Prop where
  seqs : ∀ seq, (view.seqs seq).length ≤ (later.seqs seq).length
  arrays : ∀ array, (view.arrays array).length ≤ (later.arrays array).length
  firstNLens : view.firstNLens.length ≤ later.firstNLens.length
  activeIdle : cfg.enableIatActive = true →
    u64 (view.iat.activeTimeUs + view.iat.idleTimeUs) > 0 →
    u64 (later.iat.activeTimeUs + later.iat.idleTimeUs) > 0
  matched : sequencesMatch (view.seqs .tsSeq) (view.seqs .pktLenSeq) view.dirs = true →
    sequencesMatch (later.seqs .tsSeq) (later.seqs .pktLenSeq) later.dirs = true
  payloadMod : view.payload.payloadMod.length ≤ later.payload.payloadMod.length
  duration : Double.blt 0 (flowDuration view.clock : D) = true →
    Double.blt 0 (flowDuration later.clock : D) = true

/-- A section that is written with the first view is written with the second. -/
def KeySection.Stays (view later : View D) (part : KeySection D) : Prop :=
  part.shown view = true → part.shown later = true

/-- The sections of a group stay written if its guards hold on. -/
theorem View.Grown.stays {cfg : FeatureConfig} {view later : View D}
    (grown : View.Grown cfg view later) {group : Group} (isOn : group.on cfg.toSwitches = true)
    (guards : ∀ guard : Guard, group ∈ guard.groups →
      guard.shown view = true → guard.shown later = true) :
    ∀ part ∈ group.sections, KeySection.Stays view later part := by
  have longer : ∀ {count laterCount : Nat}, count ≤ laterCount → ∀ least : Nat,
      decide (count ≥ least) = true → decide (laterCount ≥ least) = true :=
    fun more least enough => decide_eq_true ((of_decide_eq_true enough).trans more)
  have always : ∀ keys : List String, KeySection.Stays view later (.always keys) :=
    fun _ shown => shown
  have seqs := fun seq => longer (grown.seqs seq)
  cases group with
  | basicPayloadDir =>
    simp only [Group.sections, List.forall_mem_cons]
    exact ⟨always _, guards (.packets .fwd) (by decide), always _, always _,
      guards (.packets .bwd) (by decide), always _, guards (.fits .fwdPayloadSizes) (by decide),
      guards (.fits .bwdPayloadSizes) (by decide), List.forall_mem_nil _⟩
  | basicFirstN => exact List.forall_mem_singleton.mpr (longer grown.firstNLens 1)
  | basicPktLength =>
    simp only [Group.sections, List.forall_mem_cons]
    exact ⟨always _, guards (.fits .fwdPktLens) (by decide),
      guards (.fits .bwdPktLens) (by decide), List.forall_mem_nil _⟩
  | iatFwdBwd =>
    simp only [Group.sections, List.forall_mem_cons]
    exact ⟨always _, guards (.fits .fwdIats) (by decide), always _,
      guards (.fits .bwdIats) (by decide), List.forall_mem_nil _⟩
  | iatActive =>
    simp only [Group.sections, List.forall_mem_cons]
    exact ⟨always _, fun shown => decide_eq_true (grown.activeIdle
      (Bool.and_eq_true_iff.mp isOn).2 (of_decide_eq_true shown)), List.forall_mem_nil _⟩
  | iatResponse => exact List.forall_mem_singleton.mpr (guards .responses (by decide))
  | protocolTcpFlags =>
    simp only [Group.sections, List.forall_mem_cons]
    exact ⟨always _, guards .synPackets (by decide), guards .tcpPackets (by decide), always _,
      List.forall_mem_nil _⟩
  | protocolTcpWindow =>
    simp only [Group.sections, List.forall_mem_cons]
    exact ⟨always _, seqs .tcpWindowSeq 1, List.forall_mem_nil _⟩
  | protocolIp =>
    simp only [Group.sections, List.forall_mem_cons]
    exact ⟨always _, always _, seqs .ipTtlSeq 1, seqs .ipTtlSeq 1, seqs .ipTosSeq 1,
      List.forall_mem_nil _⟩
  | protocolUdp =>
    simp only [Group.sections, List.forall_mem_cons]
    exact ⟨always _, seqs .udpLenSeq 1, List.forall_mem_nil _⟩
  | payloadSize =>
    simp only [Group.sections, List.forall_mem_cons]
    refine ⟨always _, seqs .payloadSizeSeq 1, guards .payloadDiffs (by decide), fun shown => ?_,
      List.forall_mem_nil _⟩
    obtain ⟨sampled, kept⟩ := Bool.and_eq_true_iff.mp shown
    exact Bool.and_eq_true_iff.mpr
      ⟨guards .payloadDiffs (by decide) sampled, seqs .payloadSizeDiffSeq 1 kept⟩
  | payloadContent =>
    simp only [Group.sections, List.forall_mem_cons]
    exact ⟨guards .payloadBytes (by decide), guards .allPackets (by decide),
      List.forall_mem_nil _⟩
  | payloadStats =>
    simp only [Group.sections, List.forall_mem_append, List.forall_mem_map,
      List.forall_mem_singleton]
    exact ⟨fun entry _ shown => decide_eq_true ((of_decide_eq_true shown).trans_le
      grown.payloadMod), always _⟩
  | sequenceStats =>
    simp only [Group.sections, List.forall_mem_cons]
    exact ⟨always _, seqs .pktLenSeq 1, always _, seqs .pktLenSeq 1, always _,
      guards .bigrams (by decide), List.forall_mem_nil _⟩
  | rawSequences =>
    have dirs : view.dirs.length ≤ later.dirs.length := by
      rw [View.dirs, View.dirs, List.length_map, List.length_map]
      exact grown.seqs .dirSeq
    simp only [Group.sections, List.forall_mem_cons]
    refine ⟨seqs .pktLenSeq 1, seqs .iatSeq 1, longer dirs 1, fun shown => ?_,
      List.forall_mem_nil _⟩
    obtain ⟨l3, l4, payload⟩ := of_decide_eq_true shown
    exact decide_eq_true ⟨l3.trans_le (grown.seqs .l3LenSeq), l4.trans_le (grown.seqs .l4LenSeq),
      payload.trans_le (grown.seqs .payloadLenSeq)⟩
  | chunkSequences | rateSequences =>
    simp only [Group.sections, List.forall_mem_cons]
    exact ⟨grown.matched, always _, List.forall_mem_nil _⟩
  | fftGlobal => exact List.forall_mem_singleton.mpr (seqs .pktLenSeq 2)
  | fftFwd => exact List.forall_mem_singleton.mpr (longer (grown.arrays .fwdPktLens) 2)
  | fftBwd => exact List.forall_mem_singleton.mpr (longer (grown.arrays .bwdPktLens) 2)
  | windowPkt | windowByte =>
    exact List.forall_mem_singleton.mpr (guards .windows (by decide))
  | behaviorBasic =>
    simp only [Group.sections, List.forall_mem_cons]
    exact ⟨always _, grown.duration, List.forall_mem_nil _⟩
  | behaviorPattern =>
    simp only [Group.sections, List.forall_mem_cons]
    exact ⟨always _, guards .allPackets (by decide), guards .ratedWindows (by decide),
      List.forall_mem_nil _⟩
  | behaviorBitrate =>
    simp only [Group.sections, List.forall_mem_cons]
    exact ⟨guards .ratedWindows (by decide), always _, List.forall_mem_nil _⟩
  | basicRatios | iatStats | burst | protocolPort | payloadHist | payloadMagic =>
    exact List.forall_mem_singleton.mpr (always _)

/-- A guard stands before a section of each of its groups. -/
theorem Guard.exists_section {guard : Guard} {group : Group} (guarded : group ∈ guard.groups) :
    ∃ part ∈ (group.sections : List (KeySection D)),
      ∀ view, part.shown view = guard.shown view := by
  cases guard with
  | fits array =>
    cases array with
    | fwdPktLens =>
      obtain rfl := List.mem_singleton.mp guarded
      exact ⟨_, .tail _ (.head _), fun _ => rfl⟩
    | bwdPktLens =>
      obtain rfl := List.mem_singleton.mp guarded
      exact ⟨_, .tail _ (.tail _ (.head _)), fun _ => rfl⟩
    | fwdIats =>
      obtain rfl := List.mem_singleton.mp guarded
      exact ⟨_, .tail _ (.head _), fun _ => rfl⟩
    | bwdIats =>
      obtain rfl := List.mem_singleton.mp guarded
      exact ⟨_, .tail _ (.tail _ (.tail _ (.head _))), fun _ => rfl⟩
    | fwdPayloadSizes =>
      obtain rfl := List.mem_singleton.mp guarded
      exact ⟨_, .tail _ (.tail _ (.tail _ (.tail _ (.tail _ (.tail _ (.head _)))))),
        fun _ => rfl⟩
    | bwdPayloadSizes =>
      obtain rfl := List.mem_singleton.mp guarded
      exact ⟨_, .tail _ (.tail _ (.tail _ (.tail _ (.tail _ (.tail _ (.tail _ (.head _))))))),
        fun _ => rfl⟩
  | packets side =>
    obtain rfl := List.mem_singleton.mp guarded
    cases side with
    | fwd => exact ⟨_, .tail _ (.head _), fun _ => rfl⟩
    | bwd => exact ⟨_, .tail _ (.tail _ (.tail _ (.tail _ (.head _)))), fun _ => rfl⟩
  | responses =>
    obtain rfl := List.mem_singleton.mp guarded
    exact ⟨_, .head _, fun _ => rfl⟩
  | synPackets =>
    obtain rfl := List.mem_singleton.mp guarded
    exact ⟨_, .tail _ (.head _), fun _ => rfl⟩
  | tcpPackets =>
    obtain rfl := List.mem_singleton.mp guarded
    exact ⟨_, .tail _ (.tail _ (.head _)), fun _ => rfl⟩
  | payloadBytes =>
    obtain rfl := List.mem_singleton.mp guarded
    exact ⟨_, .head _, fun _ => rfl⟩
  | allPackets =>
    rcases List.mem_pair.mp guarded with rfl | rfl
    · exact ⟨_, .tail _ (.head _), fun _ => rfl⟩
    · exact ⟨_, .tail _ (.head _), fun _ => rfl⟩
  | payloadDiffs =>
    obtain rfl := List.mem_singleton.mp guarded
    exact ⟨_, .tail _ (.tail _ (.head _)), fun _ => rfl⟩
  | bigrams =>
    obtain rfl := List.mem_singleton.mp guarded
    exact ⟨_, .tail _ (.tail _ (.tail _ (.tail _ (.tail _ (.head _))))), fun _ => rfl⟩
  | windows =>
    rcases List.mem_pair.mp guarded with rfl | rfl
    · exact ⟨_, .head _, fun _ => rfl⟩
    · exact ⟨_, .head _, fun _ => rfl⟩
  | ratedWindows =>
    rcases List.mem_pair.mp guarded with rfl | rfl
    · exact ⟨_, .tail _ (.tail _ (.head _)), fun _ => rfl⟩
    · exact ⟨_, .head _, fun _ => rfl⟩

/-- Every section has a key. -/
theorem Group.exists_key {group : Group} {part : KeySection D} (inside : part ∈ group.sections) :
    ∃ key, key ∈ part.keys := by
  have all : (group.sections : List (KeySection D)).all (fun part => !part.keys.isEmpty) =
      true := by
    cases group <;> rfl
  have nonempty := List.all_eq_true.mp all part inside
  refine List.exists_mem_of_ne_nil _ fun empty => ?_
  rw [empty] at nonempty
  cases nonempty

end Views

/-! ### Keys -/

/-- The closing packet has the addresses of its flow. -/
def RawPacket.addressed (packet : RawPacket) : Bool :=
  match packet.addr with
  | .ipv4 (some _) | .ipv6 (some _) => true
  | _ => false

/-- The keys that a closing packet with or without addresses and a server name gives. -/
def closingKeys (addressed named : Bool) : List String :=
  ["createtime"] ++
  (if addressed then ["src_ip", "dst_ip", "src_port", "dst_port"] else []) ++
  ["trans_proto", "stream_dir"] ++ (if named then ["sni"] else [])

/-- A closing packet has what another has. -/
structure RawPacket.Covers (later closing : RawPacket) : Prop where
  addressed : closing.addressed = true → later.addressed = true
  named : closing.sni.isSome = true → later.sni.isSome = true

/-- The keys of the basic information. -/
def informationKeys : List String :=
  ["total_packets", "fwd_packets", "bwd_packets", "total_bytes", "fwd_bytes", "bwd_bytes",
    "tcp_syn_count", "tcp_fin_count", "tcp_rst_count", "tcp_ack_count"]

/-- The keys of a closing packet are keys of the frame, and not of the basic information. -/
theorem closingKeys_framed (addressed named : Bool) :
    ∀ key ∈ closingKeys addressed named, key ∈ frameKeys ∧ key ∉ informationKeys := by
  revert addressed named
  decide

theorem closingKeys_subset_iff (addressed named laterAddressed laterNamed : Bool) :
    closingKeys addressed named ⊆ closingKeys laterAddressed laterNamed ↔
      (addressed = true → laterAddressed = true) ∧ (named = true → laterNamed = true) := by
  revert addressed named laterAddressed laterNamed
  decide

section Keys

variable [Double D] {cfg : FeatureConfig} {platform : Platform D} {streamType : StreamType}

/-- A group writes under keys of its own. -/
theorem Group.mem_keys_of_mem_features {view : View D} {group : Group} {key : String}
    (written : key ∈ Output.keys (group.features cfg platform view)) : key ∈ group.keys := by
  obtain ⟨⟨_, value⟩, member, rfl⟩ := List.mem_map.mp written
  exact Group.key_mem member

/-- The keys of the object: those of the closing packet, those of the groups that are on, and
those of the basic information. -/
theorem mem_keys_iff {packet : RawPacket} {view : View D} {key : String} :
    key ∈ Output.keys (flowStateComputeFeatures cfg platform streamType packet view) ↔
      key ∈ closingKeys packet.addressed packet.sni.isSome ∨
        (∃ group : Group, group.on cfg.toSwitches = true ∧
          key ∈ Output.keys (group.features cfg platform view)) ∨
        key ∈ informationKeys := by
  have groups : key ∈ Output.keys (groupOrder.flatMap (Group.emitted cfg platform view)) ↔
      ∃ group : Group, group.on cfg.toSwitches = true ∧
        key ∈ Output.keys (group.features cfg platform view) := by
    simp only [Output.keys, List.mem_map, mem_flatMap_emitted_iff]
    constructor
    · rintro ⟨item, ⟨group, isOn, member⟩, key_eq⟩
      exact ⟨group, isOn, item, member, key_eq⟩
    · rintro ⟨group, isOn, item, member, key_eq⟩
      exact ⟨item, ⟨group, isOn, member⟩, key_eq⟩
  have tuple : Output.keys (addFlowTupleIdentifier platform streamType packet) =
      closingKeys packet.addressed false := by
    unfold addFlowTupleIdentifier RawPacket.addressed
    cases packet.addr with
    | ipv4 paddr => cases paddr <;> rfl
    | ipv6 paddr => cases paddr <;> rfl
    | other => rfl
  have named : ∀ addressed named : Bool, closingKeys addressed named =
      closingKeys addressed false ++ if named then ["sni"] else [] := by decide
  rw [flowStateComputeFeatures_eq, keys_append, keys_append, keys_append, List.mem_append,
    List.mem_append, groups, tuple, named packet.addressed packet.sni.isSome, or_assoc,
    show Output.keys (flowInformation (D := D) view.counters view.tcp) = informationKeys from rfl]
  cases packet.sni with
  | none => rfl
  | some sni => rfl

/-- Keys of the frame are not keys of a group. -/
theorem mem_keys_of_frame {packet : RawPacket} {view : View D} {key : String}
    (framed : key ∈ frameKeys) :
    key ∈ Output.keys (flowStateComputeFeatures cfg platform streamType packet view) ↔
      key ∈ closingKeys packet.addressed packet.sni.isSome ∨
        key ∈ informationKeys := by
  rw [mem_keys_iff]
  refine or_congr_right (or_iff_right ?_)
  rintro ⟨group, -, written⟩
  exact Group.key_notMem_frameKeys (Group.mem_keys_of_mem_features written) framed

/-- A key of a group is written if the group is on and writes it. -/
theorem Group.mem_keys_iff {packet : RawPacket} {view : View D} {group : Group} {key : String}
    (own : key ∈ group.keys) :
    key ∈ Output.keys (flowStateComputeFeatures cfg platform streamType packet view) ↔
      group.on cfg.toSwitches = true ∧
        key ∈ Output.keys (group.features cfg platform view) := by
  constructor
  · intro written
    obtain ⟨⟨_, value⟩, member, rfl⟩ := List.mem_map.mp written
    obtain ⟨isOn, inside⟩ := (Group.mem_flowStateComputeFeatures own).mp member
    exact ⟨isOn, List.mem_map_of_mem inside⟩
  · rintro ⟨isOn, written⟩
    exact TiFeatures.mem_keys_iff.mpr (.inr (.inl ⟨group, isOn, written⟩))

/-- The keys of one view are among those of another exactly if the closing packet of the other
has what the closing packet of the one has and every section stays. -/
theorem keys_subset_iff {closing laterClosing : RawPacket} {view later : View D} :
    Output.keys (flowStateComputeFeatures cfg platform streamType closing view) ⊆
        Output.keys (flowStateComputeFeatures cfg platform streamType laterClosing later) ↔
      laterClosing.Covers closing ∧
        ∀ group : Group, group.on cfg.toSwitches = true →
          ∀ part ∈ group.sections, KeySection.Stays view later part := by
  constructor
  · intro subset
    constructor
    · have closes := (closingKeys_subset_iff closing.addressed closing.sni.isSome
        laterClosing.addressed laterClosing.sni.isSome).mp fun key member => by
          obtain ⟨framed, apart⟩ := closingKeys_framed _ _ key member
          have written := subset ((mem_keys_of_frame framed).mpr (.inl member))
          exact ((mem_keys_of_frame framed).mp written).resolve_right apart
      exact ⟨closes.1, closes.2⟩
    · intro group isOn part inside shown
      obtain ⟨key, own⟩ := Group.exists_key inside
      have groupKey : key ∈ group.keys := by
        rw [← group.keys_eq (D := D)]
        exact List.mem_flatMap.mpr ⟨part, inside, own⟩
      have written := subset ((Group.mem_keys_iff groupKey).mpr
        ⟨isOn, (Group.mem_keys_features_iff inside own).mpr shown⟩)
      exact (Group.mem_keys_features_iff inside own).mp
        ((Group.mem_keys_iff groupKey).mp written).2
  · rintro ⟨covers, stays⟩ key written
    rw [TiFeatures.mem_keys_iff] at written ⊢
    rcases written with closes | ⟨group, isOn, member⟩ | information
    · exact .inl ((closingKeys_subset_iff _ _ _ _).mpr ⟨covers.addressed, covers.named⟩ closes)
    · refine .inr (.inl ⟨group, isOn, ?_⟩)
      have shownKey := (group.keys_features cfg platform view).subset member
      obtain ⟨part, inside, shown⟩ := List.mem_flatMap.mp shownKey
      split at shown
      · rename_i isShown
        exact (Group.mem_keys_features_iff inside shown).mpr (stays group isOn part inside isShown)
      · cases shown
    · exact .inr (.inr information)

end Keys

/-! ### Flows -/

section Flows

variable [Double D] {cfg : FeatureConfig} {platform : Platform D} {streamType : StreamType}
  {first : RawPacket} {rest more : List RawPacket}

/-- The last time of some packets is the time of one of them. -/
theorem exists_lastTsUs_eq {infos : List PacketInfo} (some : infos ≠ []) :
    ∃ info ∈ infos, lastTsUs infos = info.tsUs := by
  refine ⟨infos.getLast some, List.getLast_mem some, ?_⟩
  rw [lastTsUs, List.getLast?_eq_some_getLast some]
  rfl

/-- Among packets in order no time is after the last. -/
theorem tsUs_le_lastTsUs {infos : List PacketInfo}
    (ordered : (infos.map PacketInfo.tsUs).Pairwise (· ≤ ·)) {info : PacketInfo}
    (member : info ∈ infos) : info.tsUs ≤ lastTsUs infos := by
  rcases List.eq_nil_or_concat infos with rfl | ⟨front, last, rfl⟩
  · cases member
  · rw [List.concat_eq_append] at ordered member ⊢
    rw [lastTsUs_concat]
    rw [List.map_append, List.pairwise_append] at ordered
    rcases List.mem_append.mp member with before | same
    · exact ordered.2.2 _ (List.mem_map_of_mem before) _ List.mem_cons_self
    · rw [List.mem_singleton.mp same]

/-- The clock of a flow after its packets. -/
structure Clocked (startUs : Nat) (infos : List PacketInfo) (clock : ClockState) : Prop where
  flowStartUs_eq : clock.flowStartUs = startUs
  lastPktUs_eq : infos ≠ [] → clock.lastPktUs = lastTsUs infos

/-- The clock of a flow holds the times of its first and its last packet. -/
theorem flowFields_clocked (platform : Platform D) (first : RawPacket) (rest : List RawPacket) :
    Clocked (packetTsUs cfg first) (packetInfos cfg streamType (first :: rest))
      (flowFields cfg platform streamType first rest).clock := by
  have start : Clocked (packetTsUs cfg first) []
      (fieldsInit cfg (packetTsUs cfg first) : Fields D).clock :=
    ⟨rfl, fun some => absurd rfl some⟩
  exact Mealy.run_history (fun infos (fields : Fields D) =>
      Clocked (packetTsUs cfg first) infos fields.clock)
    (fun infos _ info clocked => ⟨clocked.flowStartUs_eq,
      fun _ => (lastTsUs_concat infos info).symm⟩) start _

/-- A flow that takes more packets starts at the same time and ends no earlier. -/
theorem Timely.clock_grown (timely : Timely cfg streamType (first :: (rest ++ more)))
    (platform : Platform D) :
    let clock := (flowFields cfg platform streamType first rest).clock
    let later := (flowFields cfg platform streamType first (rest ++ more)).clock
    later.flowStartUs = clock.flowStartUs ∧ clock.flowStartUs ≤ clock.lastPktUs ∧
      clock.lastPktUs ≤ later.lastPktUs ∧ later.lastPktUs < 2 ^ 64 := by
  have clocked : Clocked (packetTsUs cfg first) (packetInfos cfg streamType (first :: rest)) _ :=
    flowFields_clocked platform first rest
  have laterClocked : Clocked (packetTsUs cfg first)
      (packetInfos cfg streamType (first :: (rest ++ more))) _ :=
    flowFields_clocked platform first (rest ++ more)
  have infos_eq : packetInfos cfg streamType (first :: (rest ++ more)) =
      packetInfos cfg streamType (first :: rest) ++ packetInfos cfg streamType more :=
    packetInfos_append cfg streamType (first :: rest) more
  have laterOrdered := timely.ordered
  have ordered : ((packetInfos cfg streamType (first :: rest)).map PacketInfo.tsUs).Pairwise
      (· ≤ ·) := by
    rw [infos_eq, List.map_append] at laterOrdered
    exact (List.pairwise_append.mp laterOrdered).1
  intro clock later
  rw [clocked.flowStartUs_eq, laterClocked.flowStartUs_eq,
    clocked.lastPktUs_eq (List.cons_ne_nil _ _), laterClocked.lastPktUs_eq (List.cons_ne_nil _ _)]
  obtain ⟨last, member, last_eq⟩ : ∃ info ∈ packetInfos cfg streamType (first :: rest),
      lastTsUs (packetInfos cfg streamType (first :: rest)) = info.tsUs :=
    exists_lastTsUs_eq (List.cons_ne_nil _ _)
  obtain ⟨laterLast, laterMember, laterLast_eq⟩ :
      ∃ info ∈ packetInfos cfg streamType (first :: (rest ++ more)),
        lastTsUs (packetInfos cfg streamType (first :: (rest ++ more))) = info.tsUs :=
    exists_lastTsUs_eq (List.cons_ne_nil _ _)
  have head : packetInfo cfg streamType first ∈ packetInfos cfg streamType (first :: rest) :=
    List.mem_cons_self
  refine ⟨rfl, tsUs_le_lastTsUs ordered head, ?_, ?_⟩
  · rw [last_eq]
    exact tsUs_le_lastTsUs laterOrdered (infos_eq ▸ List.mem_append_left _ member)
  · rw [laterLast_eq]
    exact packetInfos_tsUs_lt cfg streamType _ _ laterMember

/-- The accesses of a flow come first among those it makes with more packets. -/
theorem flowAccesses_append (platform : Platform D) (first : RawPacket)
    (rest more : List RawPacket) :
    flowAccesses cfg platform streamType first rest <+:
      flowAccesses cfg platform streamType first (rest ++ more) := by
  rw [flowAccesses, flowAccesses, ← List.cons_append, packetInfos_append, Mealy.trace_append]
  exact List.prefix_append _ _

/-- What is read off the accesses of a flow does not become less. -/
theorem length_filterMap_flowAccesses_le {Image : Type} (image : Access D → Option Image)
    (platform : Platform D) (first : RawPacket) (rest more : List RawPacket) :
    ((flowAccesses cfg platform streamType first rest).filterMap image).length ≤
      ((flowAccesses cfg platform streamType first (rest ++ more)).filterMap image).length :=
  ((flowAccesses_append platform first rest more).filterMap image).length_le

/-- The number of values in a circular buffer that every packet pushes to. -/
theorem length_closingView_packetSeq {seq : SeqId} {need : Bool} {value : PacketInfo → Nat}
    (every : packetSeq cfg seq = some (need, value)) (platform : Platform D) (first : RawPacket)
    (rest : List RawPacket) :
    ((closingView cfg platform streamType first rest).seqs seq).length =
      if need then min 5000 (rest.length + 1) else 0 := by
  rw [closingView_seqs, flowContents_seqs, pushed_flowAccesses cfg platform streamType first rest
    every, length_rtake, apply_ite List.length, List.length_map, packetInfos, List.length_map]
  cases need with
  | true => rfl
  | false => exact Nat.min_zero _

/-- The sequences of times, lengths and directions match if they are needed. -/
theorem sequencesMatch_closingView_iff (platform : Platform D) (first : RawPacket)
    (rest : List RawPacket) :
    let view := closingView cfg platform streamType first rest
    sequencesMatch (view.seqs .tsSeq) (view.seqs .pktLenSeq) view.dirs = true ↔
      cfg.needTsSeq = true ∧ cfg.needPktLenSeq = true ∧ cfg.needDirSeq = true := by
  intro view
  have times : (view.seqs .tsSeq).length = if cfg.needTsSeq then min 5000 (rest.length + 1)
      else 0 := length_closingView_packetSeq rfl platform first rest
  have lens : (view.seqs .pktLenSeq).length = if cfg.needPktLenSeq then
      min 5000 (rest.length + 1) else 0 := length_closingView_packetSeq rfl platform first rest
  have dirs : view.dirs.length = if cfg.needDirSeq then min 5000 (rest.length + 1) else 0 := by
    rw [View.dirs, List.length_map]
    exact length_closingView_packetSeq rfl platform first rest
  have positive : 0 < min 5000 (rest.length + 1) := Nat.lt_min.mpr ⟨by decide, Nat.succ_pos _⟩
  rw [sequencesMatch, Bool.and_eq_true, Bool.and_eq_true, decide_eq_true_eq, beq_iff_eq,
    beq_iff_eq, times, lens, dirs]
  cases cfg.needTsSeq <;> cases cfg.needPktLenSeq <;> cases cfg.needDirSeq <;>
    simp [positive.ne', positive.ne]

theorem Timely.of_append (timely : Timely cfg streamType (first :: (rest ++ more))) :
    Timely cfg streamType (first :: rest) := by
  have infos_eq : packetInfos cfg streamType (first :: (rest ++ more)) =
      packetInfos cfg streamType (first :: rest) ++ packetInfos cfg streamType more :=
    packetInfos_append cfg streamType (first :: rest) more
  obtain ⟨positive, ordered⟩ := timely
  rw [infos_eq] at positive ordered
  rw [List.map_append] at ordered
  exact ⟨fun info member => positive info (List.mem_append_left _ member),
    (List.pairwise_append.mp ordered).1⟩

/-- The active and the idle time of a timely flow add up to the time between its first and its
last packet. -/
theorem Timely.activeIdle (timely : Timely cfg streamType (first :: rest))
    (collected : cfg.enableIatActive = true) (platform : Platform D) :
    let fields := flowFields cfg platform streamType first rest
    fields.clock.flowStartUs + (fields.iat.activeTimeUs + fields.iat.idleTimeUs) =
      fields.clock.lastPktUs := by
  have counted := flowFields_timesCounted collected platform first rest
    fun info member => (timely.positive info member).ne'
  exact counted.sum_eq_of_ordered (List.forall_mem_map.mpr (packetInfos_tsUs_lt cfg streamType _))
    timely.ordered

omit [Double D] in
/-- A flow has a duration if its last packet comes after its first. -/
theorem blt_flowDuration [Double D] (exact : ExactIntegers D) {clock : ClockState}
    (ordered : clock.flowStartUs ≤ clock.lastPktUs) (small : clock.lastPktUs < 2 ^ 64) :
    Double.blt 0 (flowDuration clock : D) = decide (clock.flowStartUs < clock.lastPktUs) := by
  have million : (1000000 : D) = ((1000000 : Nat) : D) := rfl
  rw [flowDuration, million, exact.blt_zero_div _ (by decide) (by decide) (u64Sub_lt _ _),
    u64Sub_of_le ordered small]
  exact decide_eq_decide.mpr Nat.sub_pos_iff_lt

/-- A flow that takes more packets grows. -/
theorem closingView_grown (exact : ExactIntegers D)
    (timely : Timely cfg streamType (first :: (rest ++ more))) (platform : Platform D) :
    View.Grown cfg (closingView cfg platform streamType first rest)
      (closingView cfg platform streamType first (rest ++ more)) := by
  obtain ⟨start, begins, ends, small⟩ := timely.clock_grown platform
  constructor
  · intro seq
    rw [closingView_seqs, closingView_seqs, flowContents_seqs, flowContents_seqs, length_rtake,
      length_rtake]
    exact min_le_min_left 5000 (length_filterMap_flowAccesses_le _ platform first rest more)
  · intro array
    rw [closingView_arrays, closingView_arrays, flowContents_arrays, flowContents_arrays,
      List.length_take, List.length_take]
    exact min_le_min_left 5000 (length_filterMap_flowAccesses_le _ platform first rest more)
  · rw [closingView_firstNLens, closingView_firstNLens, flowContents_firstNLens,
      flowContents_firstNLens, List.length_take, List.length_take]
    exact min_le_min_left _ (length_filterMap_flowAccesses_le _ platform first rest more)
  · intro collected
    have before := timely.of_append.activeIdle collected platform
    have after := timely.activeIdle collected platform
    dsimp only at before after
    rw [start] at after
    show u64 ((flowFields cfg platform streamType first rest).iat.activeTimeUs +
          (flowFields cfg platform streamType first rest).iat.idleTimeUs) > 0 →
      u64 ((flowFields cfg platform streamType first (rest ++ more)).iat.activeTimeUs +
          (flowFields cfg platform streamType first (rest ++ more)).iat.idleTimeUs) > 0
    rw [u64_of_lt (by omega), u64_of_lt (by omega)]
    omega
  · exact fun matched => (sequencesMatch_closingView_iff platform first (rest ++ more)).mpr
      ((sequencesMatch_closingView_iff platform first rest).mp matched)
  · exact ((flowFields_counted platform streamType first rest).payloadMod_length.trans
      (flowFields_counted platform streamType first (rest ++ more)).payloadMod_length.symm).le
  · show Double.blt 0 (flowDuration (flowFields cfg platform streamType first rest).clock : D) =
        true → Double.blt 0 (flowDuration (flowFields cfg platform streamType first
          (rest ++ more)).clock : D) = true
    rw [blt_flowDuration exact begins (ends.trans_lt small),
      blt_flowDuration exact (start ▸ begins.trans ends) small, start]
    exact fun took => decide_eq_true ((of_decide_eq_true took).trans_le ends)

/-- The sections of a flow stay when it takes more packets if its guards do. -/
theorem closingView_stays_iff (exact : ExactIntegers D) {thresholds : Thresholds}
    {switches : Switches} (cfg_eq : cfg = featConfigRead thresholds switches)
    (timely : Timely cfg streamType (first :: (rest ++ more))) (platform : Platform D) :
    (∀ group : Group, group.on switches = true → ∀ part ∈ group.sections,
        KeySection.Stays (closingView cfg platform streamType first rest)
          (closingView cfg platform streamType first (rest ++ more)) part) ↔
      ∀ guard : Guard, (∃ group ∈ guard.groups, group.on switches = true) →
        guard.Passes cfg (packetInfos cfg streamType (first :: rest)) →
          guard.Passes cfg (packetInfos cfg streamType (first :: (rest ++ more))) := by
  have shown_iff : ∀ {guard : Guard} {group : Group}, group ∈ guard.groups →
      group.on switches = true →
      (guard.shown (closingView (D := D) cfg platform streamType first rest) = true ↔
          guard.Passes cfg (packetInfos cfg streamType (first :: rest))) ∧
        (guard.shown (closingView (D := D) cfg platform streamType first (rest ++ more)) = true ↔
          guard.Passes cfg (packetInfos cfg streamType (first :: (rest ++ more)))) := by
    intro guard group guarded isOn
    have needed : guard.needed cfg = true := cfg_eq ▸ Guard.needed_of_on guarded isOn thresholds
    exact ⟨Guard.shown_iff needed timely.of_append, Guard.shown_iff needed timely⟩
  constructor
  · rintro stays guard ⟨group, guarded, isOn⟩ passes
    obtain ⟨before, after⟩ := shown_iff guarded isOn
    obtain ⟨part, inside, shown_eq⟩ := guard.exists_section (D := D) guarded
    have kept := stays group isOn part inside
    rw [KeySection.Stays, shown_eq, shown_eq] at kept
    exact after.mp (kept (before.mpr passes))
  · intro passes group isOn
    refine (closingView_grown exact timely platform).stays (cfg_eq ▸ isOn) fun guard guarded => ?_
    obtain ⟨before, after⟩ := shown_iff guarded isOn
    exact fun shown => after.mpr (passes guard ⟨group, guarded, isOn⟩ (before.mp shown))

end Flows

/-! ### Closing flows -/

section Outputs

variable [Double D] {platform : Platform D} {streamType : StreamType} {thresholds : Thresholds}
  {switches : Switches} {packets more : List RawPacket} {closing laterClosing : Allocs × RawPacket}
  {output later : Output D}

/-- A flow whose allocations succeed is written with the features of its closing view. -/
theorem flowOutput_allocated (cfg : FeatureConfig) (platform : Platform D)
    (streamType : StreamType) (first : RawPacket) (rest : List RawPacket)
    (closing : Allocs × RawPacket) :
    flowOutput cfg platform streamType (allocated (first :: rest)) closing =
      some (flowStateComputeFeatures cfg platform streamType closing.2
        (closingView cfg platform streamType first rest)) := by
  have view_eq := congrArg (Option.map (flowStateComputeFeatures cfg platform streamType
    closing.2)) (flowRun_view cfg platform streamType first rest)
  rw [Option.map_map] at view_eq
  exact (flowOutput_eq cfg platform streamType _ closing).trans view_eq

/-- The keys of a guarded section are written if the packets pass the guard. -/
theorem Guard.mem_keys_iff {guard : Guard} {group : Group} (guarded : group ∈ guard.groups)
    (isOn : group.on switches = true) {part : KeySection D} (inside : part ∈ group.sections)
    (shown_eq : ∀ view, part.shown view = guard.shown view) {key : String}
    (own : key ∈ part.keys) {first : RawPacket} {rest : List RawPacket}
    (timely : Timely (featConfigRead thresholds switches) streamType (first :: rest))
    (packet : RawPacket) :
    key ∈ Output.keys (flowStateComputeFeatures (featConfigRead thresholds switches) platform
        streamType packet
        (closingView (featConfigRead thresholds switches) platform streamType first rest)) ↔
      guard.Passes (featConfigRead thresholds switches)
        (packetInfos (featConfigRead thresholds switches) streamType (first :: rest)) := by
  have groupKey : key ∈ group.keys := by
    rw [← group.keys_eq (D := D)]
    exact List.mem_flatMap.mpr ⟨part, inside, own⟩
  rw [Group.mem_keys_iff groupKey, Group.mem_keys_features_iff inside own, shown_eq,
    Guard.shown_iff (Guard.needed_of_on guarded isOn thresholds) timely]
  exact and_iff_right isOn

/-- Every key that a flow is written with after some packets is one it is written with after more,
exactly if the later closing packet has what the earlier has and the guards of every group that is
on hold on. -/
theorem flowOutput_keysKept_iff (exact : ExactIntegers D)
    (timely : Timely (featConfigRead thresholds switches) streamType (packets ++ more))
    (written : flowOutput (featConfigRead thresholds switches) platform streamType
      (allocated packets) closing = some output)
    (laterWritten : flowOutput (featConfigRead thresholds switches) platform streamType
      (allocated (packets ++ more)) laterClosing = some later) :
    Output.keys output ⊆ Output.keys later ↔
      laterClosing.2.Covers closing.2 ∧
        ∀ guard : Guard, (∃ group ∈ guard.groups, group.on switches = true) →
          guard.Passes (featConfigRead thresholds switches)
              (packetInfos (featConfigRead thresholds switches) streamType packets) →
            guard.Passes (featConfigRead thresholds switches)
              (packetInfos (featConfigRead thresholds switches) streamType (packets ++ more)) := by
  match packets with
  | [] =>
    rw [flowOutput_eq] at written
    cases written
  | first :: rest =>
    rw [flowOutput_allocated, Option.some.injEq] at written
    rw [List.cons_append, flowOutput_allocated, Option.some.injEq] at laterWritten
    rw [← written, ← laterWritten, keys_subset_iff]
    exact and_congr_right fun _ => closingView_stays_iff exact rfl timely platform

end Outputs

/-- With one packet of payload after another the basic features keep their keys. -/
theorem flowOutput_keysKept_basic : ∃ output later : Output ℝ,
    let switches := { defaultSwitches with
      enableIat := false, enablePayload := false, enableProtocol := false,
      enableSequence := false, enableFft := false, enableWindow := false,
      enableBehavior := false }
    flowOutput (featConfigRead defaultThresholds switches) (barePlatform ℝ) .tcp
        (allocated [barePacket 1 1 100]) (Allocs.succeed, barePacket 1 1 0) = some output ∧
      flowOutput (featConfigRead defaultThresholds switches) (barePlatform ℝ) .tcp
        (allocated ([barePacket 1 1 100] ++ [barePacket 2 1 100]))
        (Allocs.succeed, barePacket 2 1 0) = some later ∧
      Output.keys output ⊆ Output.keys later := by
  have timely : Timely (featConfigRead defaultThresholds { defaultSwitches with
      enableIat := false, enablePayload := false, enableProtocol := false,
      enableSequence := false, enableFft := false, enableWindow := false,
      enableBehavior := false }) .tcp ([barePacket 1 1 100] ++ [barePacket 2 1 100]) :=
    ⟨by decide, by decide⟩
  refine ⟨_, _, flowOutput_allocated _ _ _ _ _ _, flowOutput_allocated _ _ _ _ _ _, ?_⟩
  refine (flowOutput_keysKept_iff real_exactIntegers timely (flowOutput_allocated _ _ _ _ _ _)
    (flowOutput_allocated _ _ _ _ _ _)).mpr ⟨⟨id, id⟩, ?_⟩
  rintro guard ⟨group, guarded, isOn⟩ passes
  cases guard with
  | fits array =>
    cases array with
    | fwdPktLens | fwdPayloadSizes => exact ⟨by decide, by decide⟩
    | bwdPktLens | bwdPayloadSizes => exact absurd passes.1 (by decide)
    | fwdIats | bwdIats =>
      obtain rfl := List.mem_singleton.mp guarded
      cases isOn
  | packets side =>
    cases side with
    | fwd => exact (show 0 < u64 2 by decide)
    | bwd => exact absurd (show 0 < u64 0 from passes) (by decide)
  | allPackets | windows | ratedWindows =>
    rcases List.mem_pair.mp guarded with rfl | rfl
    · cases isOn
    · cases isOn
  | _ =>
    obtain rfl := List.mem_singleton.mp guarded
    cases isOn

/-- Among 512 forward packets the statistics of their lengths are written, and with one more
packet they are not. -/
theorem flowOutput_loses_keys : ∃ output later : Output Float,
    Timely defaultConfig .tcp (List.replicate 512 (barePacket 1 1 100) ++ [barePacket 1 1 100]) ∧
    flowOutput defaultConfig (barePlatform Float) .tcp
        (allocated (List.replicate 512 (barePacket 1 1 100)))
        (Allocs.succeed, barePacket 1 1 0) = some output ∧
      flowOutput defaultConfig (barePlatform Float) .tcp
        (allocated (List.replicate 512 (barePacket 1 1 100) ++ [barePacket 1 1 100]))
        (Allocs.succeed, barePacket 1 1 0) = some later ∧
      "fwd_packet_length_mean" ∈ Output.keys output ∧
      "fwd_packet_length_mean" ∉ Output.keys later := by
  have info_eq : ∀ count, packetInfos defaultConfig .tcp
      (List.replicate count (barePacket 1 1 100)) =
        List.replicate count (packetInfo defaultConfig .tcp (barePacket 1 1 100)) :=
    fun count => List.map_replicate
  have timely : ∀ count, Timely defaultConfig .tcp
      (List.replicate count (barePacket 1 1 100)) := by
    intro count
    refine ⟨fun info member => ?_, ?_⟩
    · rw [info_eq] at member
      rw [List.eq_of_mem_replicate member]
      decide
    · rw [info_eq, List.map_replicate]
      exact List.pairwise_replicate.mpr (Or.inr le_rfl)
  have inside : ⟨fun view => view.fitsTemp (view.arrays .fwdPktLens).length,
      suffixed "fwd_packet_length" ["_mean", "_std", "_min", "_max", "_median", "_q1", "_q3",
        "_cv", "_skew", "_kurt"]⟩ ∈ (Group.basicPktLength.sections : List (KeySection Float)) :=
    .tail _ (.head _)
  have written : ∀ count, "fwd_packet_length_mean" ∈ Output.keys (flowStateComputeFeatures
      defaultConfig (barePlatform Float) .tcp (barePacket 1 1 0) (closingView defaultConfig
        (barePlatform Float) .tcp (barePacket 1 1 100)
        (List.replicate count (barePacket 1 1 100)))) ↔ FitsLargest (count + 1) := by
    intro count
    have guarded : Group.basicPktLength ∈ (Guard.fits .fwdPktLens).groups := .head _
    have isOn : Group.basicPktLength.on defaultSwitches = true := rfl
    refine (Guard.mem_keys_iff guarded isOn inside (fun _ => rfl) (.head _) (timely (count + 1))
      (barePacket 1 1 0)).trans ?_
    show FitsLargest (Side.fwd.of (packetInfos defaultConfig .tcp
      (List.replicate (count + 1) (barePacket 1 1 100)))).length ↔ _
    rw [info_eq, Side.of, List.filter_replicate_of_pos (by decide), List.length_replicate]
  have more : List.replicate 512 (barePacket 1 1 100) ++ [barePacket 1 1 100] =
      List.replicate 513 (barePacket 1 1 100) := List.replicate_succ'.symm
  rw [more]
  exact ⟨_, _, timely 513, flowOutput_allocated _ _ _ _ _ _, flowOutput_allocated _ _ _ _ _ _,
    (written 511).mpr ⟨by decide, by decide⟩,
    fun key => absurd ((written 512).mp key).2 (by decide)⟩

end TiFeatures
