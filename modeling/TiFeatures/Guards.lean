/-
This file says of its packets which guarded sections a flow is written with. A
section is guarded if it may be written for a flow and missing for a longer one:
its guard asks for a number of values that fits the temporary buffer, or for a
counter that is not zero.
-/

import TiFeatures.Keys
import TiFeatures.Responses
import TiFeatures.Samples
import TiFeatures.Windows

namespace TiFeatures

variable {D : Type}

/-! ### Counters -/

/-- A packet of a TCP stream with the SYN flag. -/
def carriesSyn (info : PacketInfo) : Bool :=
  match info.streamType, info.tcph with
  | .tcp, some tcph => tcph.syn
  | _, _ => false

/-- The sizes of the payloads that `calc_payload_stats` is called with. -/
def countedSizes (cfg : FeatureConfig) (infos : List PacketInfo) : List Nat :=
  if cfg.enablePayloadStats then infos.flatMap givenSize else []

/-- What the counters of a flow are after its packets. -/
structure Counted (cfg : FeatureConfig) (infos : List PacketInfo) (fields : Fields D) : Prop where
  totalPackets_eq : fields.counters.totalPackets = u64 infos.length
  tcpPackets_eq : cfg.enableProtocolTcpFlags = true →
    fields.tcp.tcpPackets = u64 (infos.flatMap advertisedWindow).length
  tcpSynCount_eq : cfg.enableProtocolTcpFlags = true →
    fields.tcp.tcpSynCount = u32 (infos.countP carriesSyn)
  payloadTotalBytes_eq : fields.payload.payloadTotalBytes = u32 (countedSizes cfg infos).sum
  hasLastPayloadLen_eq :
    fields.payload.hasLastPayloadLen = decide (0 < (countedSizes cfg infos).length)
  diffCount_eq : fields.payload.payloadSizeDiffStats.count =
    u64 ((countedSizes cfg infos).length - 1)
  payloadMod_length : fields.payload.payloadMod.length = 8
  bigramTotal_eq : cfg.enableSequenceStats = true →
    fields.bigram.bigramStats.total = u32 infos.length

theorem countedSizes_concat (cfg : FeatureConfig) (infos : List PacketInfo) (info : PacketInfo) :
    countedSizes cfg (infos ++ [info]) = countedSizes cfg infos ++ countedSizes cfg [info] := by
  unfold countedSizes
  split
  · exact List.flatMap_append
  · rfl

/-- Every packet counts in the table of its bigram. -/
theorem bigramUpdate_total (stats : BigramStats) (previous current : PktSizeClass) :
    (bigramUpdate stats previous current).total = u32 (stats.total + 1) := by
  cases previous <;> cases current <;> rfl

section Steps

variable [Double D] {cfg : FeatureConfig} {infos : List PacketInfo}

/-- A packet with a payload adds its size to the counters of the payloads. -/
theorem payloadCall_counted (platform : Platform D) (info : PacketInfo)
    (state : PayloadState D) :
    let next := (payloadCall cfg info platform state).1
    (countedSizes cfg [info] = [] ∧ next = state) ∨
      ∃ size, countedSizes cfg [info] = [size] ∧
        next.payloadTotalBytes = u32 (state.payloadTotalBytes + size) ∧
        next.hasLastPayloadLen = true ∧
        next.payloadSizeDiffStats.count = (if state.hasLastPayloadLen then
          u64 (state.payloadSizeDiffStats.count + 1) else state.payloadSizeDiffStats.count) ∧
        next.payloadMod.length = min state.payloadMod.length payloadMods.length := by
  rw [show countedSizes cfg [info] = if cfg.enablePayloadStats then givenSize info else [] by
    rw [countedSizes, List.flatMap_singleton]]
  unfold payloadCall givenSize
  cases info.payload with
  | none => exact Or.inl ⟨ite_self _, rfl⟩
  | some bytes =>
    by_cases collected : cfg.enablePayloadStats = true
    · simp only [collected, if_true]
      by_cases empty : info.payloadLen = 0
      · exact Or.inl ⟨if_pos empty, congrArg Prod.fst (if_pos empty)⟩
      · obtain ⟨-, counters⟩ := calcPayloadStats_counters platform state
          (payloadBytes info bytes) empty
        exact Or.inr ⟨info.payloadLen, if_neg empty, counters⟩
    · simp only [collected]
      exact Or.inl ⟨rfl, rfl⟩

/-- A packet with a TCP header adds itself to the counters of TCP packets. -/
theorem tcpCall_counted (collected : cfg.enableProtocolTcpFlags = true) (info : PacketInfo)
    {state : TcpState D} {packets synPackets : Nat} (packets_eq : state.tcpPackets = u64 packets)
    (synPackets_eq : state.tcpSynCount = u32 synPackets) :
    let next := (tcpCall cfg info state).1
    next.tcpPackets = u64 (packets + (advertisedWindow info).length) ∧
      next.tcpSynCount = u32 (synPackets + [info].countP carriesSyn) := by
  have on : (cfg.enableProtocolTcpFlags || cfg.enableProtocolTcpWindow) = true := by
    rw [collected, Bool.true_or]
  unfold tcpCall advertisedWindow
  rw [List.countP_singleton]
  unfold carriesSyn
  cases info.streamType with
  | udp => exact ⟨packets_eq, synPackets_eq⟩
  | tcp =>
    cases info.tcph with
    | none => exact ⟨packets_eq, synPackets_eq⟩
    | some tcph =>
      obtain ⟨packetsNext, synNext⟩ := calcProtocolTcpUpdate_counters state tcph info.payloadLen
        tcph.window info.direction tcph.seq info.tsUs
      simp only [if_pos on, List.length_singleton]
      rw [packetsNext, synNext, packets_eq, synPackets_eq]
      refine ⟨Nat.mod_add_mod _ _ _, ?_⟩
      by_cases syn : tcph.syn = true
      · rw [countIf, if_pos syn, if_pos syn]
        exact Nat.mod_add_mod _ _ _
      · rw [countIf, if_neg syn, if_neg syn, Nat.add_zero]

/-- A packet adds itself to the counters. -/
theorem Counted.step {fields : Fields D} (counted : Counted cfg infos fields)
    (platform : Platform D) (info : PacketInfo) :
    Counted cfg (infos ++ [info]) (dataFields cfg platform info fields) := by
  have tcp := fun collected => tcpCall_counted collected info (counted.tcpPackets_eq collected)
    (counted.tcpSynCount_eq collected)
  have sizes_eq := countedSizes_concat cfg infos info
  have payload : (dataFields cfg platform info fields).payload =
      (payloadCall cfg info platform fields.payload).1 := rfl
  have sizes : let next := (dataFields cfg platform info fields).payload
      let sizes := countedSizes cfg (infos ++ [info])
      next.payloadTotalBytes = u32 sizes.sum ∧
        next.hasLastPayloadLen = decide (0 < sizes.length) ∧
        next.payloadSizeDiffStats.count = u64 (sizes.length - 1) ∧
        next.payloadMod.length = 8 := by
    dsimp only
    rw [sizes_eq, payload]
    rcases @payloadCall_counted D _ cfg platform info fields.payload with
      ⟨none, same⟩ | ⟨size, one, bytes, last, diffs, mods⟩
    · rw [none, same, List.append_nil]
      exact ⟨counted.payloadTotalBytes_eq, counted.hasLastPayloadLen_eq, counted.diffCount_eq,
        counted.payloadMod_length⟩
    · rw [one, bytes, last, diffs, mods, List.sum_append, List.sum_singleton, List.length_append,
        List.length_singleton, counted.payloadTotalBytes_eq, counted.hasLastPayloadLen_eq,
        counted.diffCount_eq, counted.payloadMod_length]
      refine ⟨Nat.mod_add_mod _ _ _, (decide_eq_true (Nat.succ_pos _)).symm, ?_, rfl⟩
      by_cases some : 0 < (countedSizes cfg infos).length
      · rw [if_pos (decide_eq_true some), u64_add_u64]
        exact congrArg u64 (Nat.sub_add_cancel some)
      · rw [if_neg (by rwa [decide_eq_true_eq]), Nat.eq_zero_of_not_pos some]
  obtain ⟨bytes, last, diffs, mods⟩ := sizes
  constructor
  · show (countersCall cfg info fields.counters fields.payloadDir).1.totalPackets = _
    rw [countersCall_counters, counted.totalPackets_eq, List.length_append, List.length_singleton]
    exact u64_add_u64 _ _
  · intro collected
    rw [List.flatMap_append, List.length_append, List.flatMap_singleton]
    exact (tcp collected).1
  · intro collected
    rw [List.countP_append]
    exact (tcp collected).2
  · exact bytes
  · exact last
  · exact diffs
  · exact mods
  · intro collected
    show (bigramCall cfg info fields.bigram).bigramStats.total = _
    rw [bigramCall, if_pos collected, bigramUpdate_total, counted.bigramTotal_eq collected,
      List.length_append, List.length_singleton]
    exact Nat.mod_add_mod _ _ _

/-- The counters of a flow count its packets. -/
theorem flowFields_counted (platform : Platform D) (streamType : StreamType) (first : RawPacket)
    (rest : List RawPacket) :
    Counted cfg (packetInfos cfg streamType (first :: rest))
      (flowFields cfg platform streamType first rest) := by
  have nothing : countedSizes cfg [] = [] := ite_self _
  have start : Counted cfg [] (fieldsInit cfg (packetTsUs cfg first) : Fields D) :=
    { totalPackets_eq := rfl
      tcpPackets_eq := fun _ => rfl
      tcpSynCount_eq := fun _ => rfl
      payloadTotalBytes_eq := nothing ▸ rfl
      hasLastPayloadLen_eq := nothing ▸ rfl
      diffCount_eq := nothing ▸ rfl
      payloadMod_length := rfl
      bigramTotal_eq := fun _ => rfl }
  exact Mealy.run_history (Counted cfg) (fun _ _ info counted => counted.step platform info)
    start _

end Steps

/-! ### Guards -/

/-- The conditions for a section that may hold of a flow and fail of a longer one. -/
inductive Guard where
  | fits (array : DirArray)
  | responses
  | packets (side : Side)
  | synPackets
  | tcpPackets
  | payloadBytes
  | allPackets
  | payloadDiffs
  | bigrams
  | windows
  | ratedWindows
  deriving DecidableEq

/-- The groups with a section behind a guard. -/
def Guard.groups : Guard → List Group
  | .fits .fwdPktLens | .fits .bwdPktLens => [.basicPktLength]
  | .fits .fwdPayloadSizes | .fits .bwdPayloadSizes => [.basicPayloadDir]
  | .fits .fwdIats | .fits .bwdIats => [.iatFwdBwd]
  | .responses => [.iatResponse]
  | .packets _ => [.basicPayloadDir]
  | .synPackets | .tcpPackets => [.protocolTcpFlags]
  | .payloadBytes => [.payloadContent]
  | .allPackets => [.payloadContent, .behaviorPattern]
  | .payloadDiffs => [.payloadSize]
  | .bigrams => [.sequenceStats]
  | .windows => [.windowPkt, .windowByte]
  | .ratedWindows => [.behaviorPattern, .behaviorBitrate]

/-- The test that a guard is in the code. -/
def Guard.shown (view : View D) : Guard → Bool
  | .fits array => view.fitsTemp (view.arrays array).length
  | .responses => view.fitsTemp view.respDelays.length
  | .packets side => side.packets view.counters > 0
  | .synPackets => view.tcp.tcpSynCount > 0
  | .tcpPackets => view.tcp.tcpPackets > 0
  | .payloadBytes => view.payload.payloadTotalBytes > 0
  | .allPackets => view.counters.totalPackets > 0
  | .payloadDiffs => view.payload.payloadSizeDiffStats.count > 0
  | .bigrams => view.bigram.bigramStats.total > 0
  | .windows => countValidWindows view.windowPktCounts > 0
  | .ratedWindows => (validWindows view.windowPktCounts view.windowBitrate).length > 0

/-- The flag behind which a directional array is collected. -/
def DirArray.needed (cfg : FeatureConfig) : DirArray → Bool
  | .fwdPktLens | .bwdPktLens => cfg.needFwdBwdPktLens
  | .fwdIats | .bwdIats => cfg.needFwdBwdIats
  | .fwdPayloadSizes | .bwdPayloadSizes => cfg.needPayloadDir

/-- The flag behind which the values of a guard are collected, if there is one. -/
def Guard.needed (cfg : FeatureConfig) : Guard → Bool
  | .fits array => array.needed cfg
  | .responses => cfg.enableIatResponse
  | .synPackets | .tcpPackets => cfg.enableProtocolTcpFlags
  | .bigrams => cfg.enableSequenceStats
  | .windows | .ratedWindows => cfg.needWindowUpdate
  | _ => true

/-- A configuration collects what the guards of its groups ask for. -/
theorem Guard.needed_of_on {guard : Guard} {group : Group} (guarded : group ∈ guard.groups)
    {switches : Switches} (isOn : group.on switches = true) (thresholds : Thresholds) :
    guard.needed (featConfigRead thresholds switches) = true := by
  revert group
  cases guard with
  | fits array =>
    cases array <;> simp +contextual [groups, needed, DirArray.needed, Group.on, featConfigRead,
      compoundFlags]
  | _ => simp +contextual [groups, needed, Group.on, featConfigRead, compoundFlags]

/-- The number of values that packets send to a directional array. The first packet of a flow has
no gap before it and does not count as the one before a gap. -/
def DirArray.sent (infos : List PacketInfo) : DirArray → Nat
  | .fwdPktLens => (Side.fwd.of infos).length
  | .bwdPktLens => (Side.bwd.of infos).length
  | .fwdIats => (Side.fwd.of infos.tail).length - 1
  | .bwdIats => (Side.bwd.of infos.tail).length - 1
  | .fwdPayloadSizes => (payloadSizes (Side.fwd.of infos)).length
  | .bwdPayloadSizes => (payloadSizes (Side.bwd.of infos)).length

/-- A number of values is positive and fits the largest temporary buffer. -/
def FitsLargest (count : Nat) : Prop := 0 < count ∧ count ≤ 512

/-- What a guard asks of the packets of a flow. -/
def Guard.Passes (cfg : FeatureConfig) (infos : List PacketInfo) : Guard → Prop
  | .fits array => FitsLargest (array.sent infos)
  | .responses => FitsLargest (exchanges infos).length
  | .packets side => 0 < u64 (side.of infos).length
  | .synPackets => 0 < u32 (infos.countP carriesSyn)
  | .tcpPackets => 0 < u64 (infos.flatMap advertisedWindow).length
  | .payloadBytes => 0 < u32 (countedSizes cfg infos).sum
  | .allPackets => 0 < u64 infos.length
  | .payloadDiffs => 0 < u64 ((countedSizes cfg infos).length - 1)
  | .bigrams => 0 < u32 infos.length
  | .windows | .ratedWindows => WindowShown cfg infos

/-! ### The temporary buffer -/

/-- Some of the values of a flow's packets fit the temporary buffer exactly if they fit the
largest one. Before the last level the buffer has room for a value of every packet. -/
theorem fitsTemp_min_iff {view : View D} {packets capacity count : Nat}
    (size_eq : view.tempUintBufferSize = min (flowMemLevelToSeqLen (levelAt (packets + 1))) 512)
    (large : 512 < capacity) (few : count ≤ packets + 1) :
    view.fitsTemp (min capacity count) = true ↔ FitsLargest count := by
  rw [View.fitsTemp, size_eq, Bool.and_eq_true, decide_eq_true_eq, decide_eq_true_eq, FitsLargest]
  rcases lt_seqLen_levelAt packets with room | last
  · omega
  · rw [last, show flowMemLevelToSeqLen .large = 5000 from rfl]
    omega

/-! ### Flows -/

theorem DirArray.sent_le (array : DirArray) (infos : List PacketInfo) :
    array.sent infos ≤ infos.length := by
  have sided : ∀ (side : Side) (infos : List PacketInfo),
      (side.of infos).length ≤ infos.length := fun side infos => List.length_filter_le _ _
  have sizes : ∀ infos : List PacketInfo, (payloadSizes infos).length ≤ infos.length :=
    fun infos => (List.length_filter_le _ _).trans_eq (List.length_map _)
  have gaps : ∀ side : Side, (side.of infos.tail).length - 1 ≤ infos.length := fun side =>
    (Nat.sub_le _ _).trans ((sided side infos.tail).trans
      (List.length_tail.trans_le (Nat.sub_le _ _)))
  cases array with
  | fwdPktLens => exact sided .fwd infos
  | bwdPktLens => exact sided .bwd infos
  | fwdIats => exact gaps .fwd
  | bwdIats => exact gaps .bwd
  | fwdPayloadSizes => exact (sizes _).trans (sided .fwd infos)
  | bwdPayloadSizes => exact (sizes _).trans (sided .bwd infos)

section Flows

variable [Double D] {cfg : FeatureConfig} {platform : Platform D} {streamType : StreamType}
  {first : RawPacket} {rest : List RawPacket}

/-- The times of the packets of a flow are not zero and in order. -/
structure Timely (cfg : FeatureConfig) (streamType : StreamType) (packets : List RawPacket) :
    Prop where
  positive : ∀ info ∈ packetInfos cfg streamType packets, info.tsUs > 0
  ordered : ((packetInfos cfg streamType packets).map PacketInfo.tsUs).Pairwise (· ≤ ·)

/-- A directional array that is needed holds the first 5000 values sent to it. -/
theorem length_closingView_arrays {array : DirArray} (needed : array.needed cfg = true)
    (timely : Timely cfg streamType (first :: rest)) :
    ((closingView (D := D) cfg platform streamType first rest).arrays array).length =
      min 5000 (array.sent (packetInfos cfg streamType (first :: rest))) := by
  have pktLens : cfg.needFwdBwdPktLens = true → ∀ side : Side,
      ((closingView (D := D) cfg platform streamType first rest).arrays side.pktLens).length =
        min 5000 (side.of (packetInfos cfg streamType (first :: rest))).length := by
    intro need side
    rw [closingView_arrays, flowContents_arrays, filterMap_flowAccesses cfg platform streamType
      first rest (appended_pktLens cfg platform side), flatMap_side, flatMap_if_singleton,
      if_pos need, List.length_take, List.length_map]
  have sizes : cfg.needPayloadDir = true → ∀ side : Side,
      ((closingView (D := D) cfg platform streamType first rest).arrays
          side.payloadSizes).length =
        min 5000 (payloadSizes (side.of (packetInfos cfg streamType (first :: rest)))).length := by
    intro need side
    rw [closingView_arrays, flowContents_arrays, filterMap_flowAccesses cfg platform streamType
      first rest (appended_payloadSizes cfg platform side), flatMap_side,
      flatMap_if_filter cfg.needPayloadDir PacketInfo.payloadLen (fun size => size > 0),
      if_pos need, List.length_take]
    rfl
  have iats : cfg.needFwdBwdIats = true → ∀ side : Side,
      ((closingView (D := D) cfg platform streamType first rest).arrays side.iats).length =
        min 5000 ((side.of (packetInfos cfg streamType rest)).length - 1) := by
    intro need side
    rw [closingView_arrays, flowContents_arrays, (flowAccesses_iats cfg platform streamType first
      rest need timely.positive side).1, List.length_take, length_gapsBy, List.length_map]
  cases array with
  | fwdPktLens =>
    rw [show DirArray.fwdPktLens = Side.fwd.pktLens from rfl, pktLens needed .fwd]
    rfl
  | bwdPktLens =>
    rw [show DirArray.bwdPktLens = Side.bwd.pktLens from rfl, pktLens needed .bwd]
    rfl
  | fwdIats =>
    rw [show DirArray.fwdIats = Side.fwd.iats from rfl, iats needed .fwd]
    rfl
  | bwdIats =>
    rw [show DirArray.bwdIats = Side.bwd.iats from rfl, iats needed .bwd]
    rfl
  | fwdPayloadSizes =>
    rw [show DirArray.fwdPayloadSizes = Side.fwd.payloadSizes from rfl, sizes needed .fwd]
    rfl
  | bwdPayloadSizes =>
    rw [show DirArray.bwdPayloadSizes = Side.bwd.payloadSizes from rfl, sizes needed .bwd]
    rfl

/-- Whether a flow has a window with a packet. -/
theorem closingView_windowShown_iff (need : cfg.needWindowUpdate = true)
    (timely : Timely cfg streamType (first :: rest)) :
    let view : View D := closingView cfg platform streamType first rest
    let shown := WindowShown cfg (packetInfos cfg streamType (first :: rest))
    (countValidWindows view.windowPktCounts > 0 ↔ shown) ∧
      ((validWindows view.windowPktCounts view.windowBitrate).length > 0 ↔ shown) := by
  obtain ⟨flow, run, -⟩ := flowRun_allocated (D := D) cfg platform streamType first rest
  have view_eq := flowRun_view (D := D) cfg platform streamType first rest
  have packets : ((Allocs.succeed, first) :: allocated rest).map Prod.snd = first :: rest := by
    rw [List.map_cons, allocated, List.map_map]
    exact congrArg (first :: ·) (List.map_id _)
  have nonzero : packetTsUs cfg (Allocs.succeed, first).2 ≠ 0 :=
    (timely.positive _ List.mem_cons_self).ne'
  rw [run, Option.map_some, Option.some.injEq] at view_eq
  rw [show allocated (first :: rest) = (Allocs.succeed, first) :: allocated rest from
    List.map_cons ..] at run
  have windowShown := flowRun_windowShown_iff need nonzero run
  rw [packets, view_eq] at windowShown
  exact windowShown

/-- The test of a guard on a flow is the question it asks of the packets. -/
theorem Guard.shown_iff {guard : Guard} (needed : guard.needed cfg = true)
    (timely : Timely cfg streamType (first :: rest)) :
    guard.shown (closingView (D := D) cfg platform streamType first rest) = true ↔
      guard.Passes cfg (packetInfos cfg streamType (first :: rest)) := by
  have counted : Counted cfg (packetInfos cfg streamType (first :: rest))
      (flowFields (D := D) cfg platform streamType first rest) :=
    flowFields_counted platform streamType first rest
  have infos_length : (packetInfos cfg streamType (first :: rest)).length = rest.length + 1 :=
    List.length_map _
  have positive : ∀ value : Nat, decide (value > 0) = true ↔ 0 < value :=
    fun _ => decide_eq_true_iff
  cases guard with
  | fits array =>
    rw [shown, length_closingView_arrays needed timely]
    exact fitsTemp_min_iff rfl (by decide) ((array.sent_le _).trans_eq infos_length)
  | responses =>
    have delays : (closingView (D := D) cfg platform streamType first rest).respDelays.length =
        min 1000 (exchanges (packetInfos cfg streamType (first :: rest))).length := by
      rw [closingView_respDelays, flowContents_respDelays, flowAccesses_delays needed streamType
        first rest fun info member => (timely.positive info member).ne', List.length_take,
        List.length_map]
    rw [shown, delays]
    exact fitsTemp_min_iff rfl (by decide) ((length_exchanges_le _).trans_eq infos_length)
  | packets side =>
    rw [shown, Passes, ← (flowFields_sides (D := D) cfg platform streamType first rest side).1]
    exact positive _
  | synPackets =>
    rw [shown, Passes, ← counted.tcpSynCount_eq needed]
    exact positive _
  | tcpPackets =>
    rw [shown, Passes, ← counted.tcpPackets_eq needed]
    exact positive _
  | payloadBytes =>
    rw [shown, Passes, ← counted.payloadTotalBytes_eq]
    exact positive _
  | allPackets =>
    rw [shown, Passes, ← counted.totalPackets_eq]
    exact positive _
  | payloadDiffs =>
    rw [shown, Passes, ← counted.diffCount_eq]
    exact positive _
  | bigrams =>
    rw [shown, Passes, ← counted.bigramTotal_eq needed]
    exact positive _
  | windows =>
    rw [shown, decide_eq_true_iff]
    exact (closingView_windowShown_iff (D := D) needed timely).1
  | ratedWindows =>
    rw [shown, decide_eq_true_iff]
    exact (closingView_windowShown_iff (D := D) needed timely).2

end Flows

end TiFeatures
