/-
This file proves that the levels of the pool cannot be seen from the values a
flow holds. As long as every allocation succeeds, the pool is upgraded before
any array or circular buffer of its level can fill, so a run acts on the values
as if every capacity had been that of the largest level from the start. It also
splits the memory into the parts an access can change.
-/

import TiFeatures.Library.Mealy
import TiFeatures.Reachable

namespace TiFeatures

open BoundedStore

variable {D : Type}

/-! ### The parts of the memory -/

theorem DirArray.arrayId_injective : Function.Injective DirArray.arrayId := by
  intro first second same
  cases first <;> cases second <;> first | rfl | cases same

/-- The values of one part. -/
def FlowContents.at (contents : FlowContents D) : Target → List (List Nat) × List D
  | .ring seq => ([contents.seqs seq], [])
  | .array dir => ([contents.arrays dir.arrayId], [])
  | .firstN => ([contents.firstNLens], [])
  | .burst => ([contents.arrays .burstSizes, contents.arrays .burstDurations,
      contents.arrays .burstIntervals, contents.arrays .burstPacketCounts], [])
  | .respDelay => ([], contents.respDelays)
  | .window => ([contents.arrays .windowPktCounts, contents.arrays .windowByteCounts,
      contents.arrays .windowBitrate], [])

/-- An access changes no other part. -/
theorem FlowContents.access_at_ne (seqLen firstNCapacity : Nat) (contents : FlowContents D)
    {access : Access D} {part : Target} (different : access.target ≠ part) :
    (contents.access seqLen firstNCapacity access).at part = contents.at part := by
  cases access with
  | push seq value =>
    cases part with
    | ring other =>
      have apart : other ≠ seq := fun same => different (same ▸ rfl)
      simp only [FlowContents.access, FlowContents.at, Function.update_of_ne apart]
    | _ => rfl
  | append dir value =>
    have apart : ∀ {array : ArrayId}, array ≠ dir.arrayId →
        (contents.access seqLen firstNCapacity (.append dir value)).arrays array =
          contents.arrays array := fun other => Function.update_of_ne other ..
    cases part with
    | array other =>
      have named : other.arrayId ≠ dir.arrayId := fun same =>
        different (DirArray.arrayId_injective same ▸ rfl)
      rw [FlowContents.at, FlowContents.at, apart named]
    | burst =>
      rw [FlowContents.at, FlowContents.at, apart (by cases dir <;> decide),
        apart (by cases dir <;> decide), apart (by cases dir <;> decide),
        apart (by cases dir <;> decide)]
    | window =>
      rw [FlowContents.at, FlowContents.at, apart (by cases dir <;> decide),
        apart (by cases dir <;> decide), apart (by cases dir <;> decide)]
    | _ => rfl
  | recordBurst byteCount duration pktCount interval =>
    simp only [FlowContents.access, FlowContents.recordBurst]
    split
    · cases part with
      | array other => cases other <;> rfl
      | burst => exact absurd rfl different
      | _ => rfl
    · rfl
  | setWindowBitrate window windowSizeUs =>
    cases part with
    | array other => cases other <;> rfl
    | window => exact absurd rfl different
    | _ => rfl
  | countWindow window pktLen =>
    cases part with
    | array other => cases other <;> rfl
    | window => exact absurd rfl different
    | _ => rfl
  | appendFirstN pktLen =>
    cases part with
    | firstN => exact absurd rfl different
    | _ => rfl
  | appendRespDelay delay =>
    cases part with
    | respDelay => exact absurd rfl different
    | _ => rfl

/-! ### Capacities that are not reached -/

/-- The number of values that count against the capacity of a part. -/
def FlowContents.sizeAt (contents : FlowContents D) : Target → Nat
  | .ring seq => (contents.seqs seq).length
  | .array dir => (contents.arrays dir.arrayId).length
  | .burst => (contents.arrays .burstSizes).length
  | _ => 0

theorem slide_capacity {Value : Type} {window : List Value} {capacity limit : Nat}
    (room : window.length < capacity) (within : capacity ≤ limit) (value : Value) :
    slide capacity window value = slide limit window value := by
  rw [slide_of_room room, slide_of_room (room.trans_le within)]

theorem fill_capacity {Value : Type} {kept : List Value} {capacity limit : Nat}
    (room : kept.length < capacity) (within : capacity ≤ limit) (value : Value) :
    fill capacity kept value = fill limit kept value := by
  rw [fill, fill, if_pos room, if_pos (room.trans_le within)]

/-- An access to a part with room for one more value does not see the capacity. -/
theorem access_capacity {contents : FlowContents D} {access : Access D}
    {seqLen limit firstNCapacity : Nat} (room : contents.sizeAt access.target < seqLen)
    (within : seqLen ≤ limit) :
    contents.access seqLen firstNCapacity access = contents.access limit firstNCapacity access := by
  cases access with
  | push seq value => rw [FlowContents.access, FlowContents.access, slide_capacity room within]
  | append dir value => rw [FlowContents.access, FlowContents.access, fill_capacity room within]
  | recordBurst byteCount duration pktCount interval =>
    have below : (contents.arrays .burstSizes).length < seqLen := room
    rw [FlowContents.access, FlowContents.access, FlowContents.recordBurst,
      FlowContents.recordBurst, if_pos below, if_pos (below.trans_le within)]
  | _ => rfl

theorem FlowContents.sizeAt_congr {first second : FlowContents D} {part : Target}
    (same : first.at part = second.at part) : first.sizeAt part = second.sizeAt part := by
  cases part with
  | ring | array | burst => exact congrArg (fun values => (values.1.headD []).length) same
  | _ => rfl

/-- An access adds at most one value to a part. -/
theorem sizeAt_access_le (contents : FlowContents D) (seqLen firstNCapacity : Nat)
    (access : Access D) :
    (contents.access seqLen firstNCapacity access).sizeAt access.target ≤
      contents.sizeAt access.target + 1 := by
  cases access with
  | push seq value =>
    simp only [FlowContents.access, FlowContents.sizeAt, Access.target, Function.update_self,
      length_slide]
    omega
  | append dir value =>
    simp only [FlowContents.access, FlowContents.sizeAt, Access.target, Function.update_self, fill]
    split
    · rw [List.length_append, List.length_singleton]
    · omega
  | recordBurst byteCount duration pktCount interval =>
    simp only [FlowContents.access, FlowContents.recordBurst, FlowContents.sizeAt, Access.target]
    split
    · rw [List.length_append, List.length_singleton]
    · omega
  | _ => exact Nat.zero_le _

section Lists

/-- Accesses add at most as many values to a part as change it. -/
theorem sizeAt_foldl_le (seqLen firstNCapacity : Nat) (accesses : List (Access D))
    (part : Target) (contents : FlowContents D) :
    (accesses.foldl (FlowContents.access seqLen firstNCapacity) contents).sizeAt part ≤
      contents.sizeAt part + (targets accesses).count part := by
  induction accesses generalizing contents with
  | nil => exact le_refl _
  | cons access rest inductionHypothesis =>
    rw [List.foldl_cons]
    refine (inductionHypothesis _).trans ?_
    rw [targets_cons, List.count_cons]
    by_cases same : access.target = part
    · subst same
      have grows := sizeAt_access_le contents seqLen firstNCapacity access
      rw [beq_self_eq_true, if_pos rfl]
      omega
    · rw [FlowContents.sizeAt_congr (contents.access_at_ne seqLen firstNCapacity same)]
      omega

/-- Accesses that change each part at most once do not see the capacity if every part they
change has room for one more value. -/
theorem foldl_access_capacity {seqLen limit firstNCapacity : Nat} (within : seqLen ≤ limit)
    {accesses : List (Access D)}
    (once : ∀ part, part ≠ .window → (targets accesses).count part ≤ 1)
    {contents : FlowContents D} (room : ∀ part, contents.sizeAt part < seqLen) :
    accesses.foldl (FlowContents.access seqLen firstNCapacity) contents =
      accesses.foldl (FlowContents.access limit firstNCapacity) contents := by
  -- only the parts that are still to be changed need their room
  have needed : ∀ part ∈ targets accesses, contents.sizeAt part < seqLen := fun part _ => room part
  clear room
  induction accesses generalizing contents with
  | nil => rfl
  | cons access rest inductionHypothesis =>
    rw [List.foldl_cons, List.foldl_cons,
      ← access_capacity (needed _ (List.mem_cons_self ..)) within]
    refine inductionHypothesis (fun part other => ?_) fun part member => ?_
    · have bound := once part other
      rw [targets_cons, List.count_cons] at bound
      omega
    · by_cases same : access.target = part
      · by_cases window : part = .window
        · subst window
          exact Nat.zero_lt_of_lt (needed _ (List.mem_cons_of_mem _ member))
        · have bound := once part window
          have positive := List.count_pos_iff.mpr member
          rw [targets_cons, List.count_cons, same, beq_self_eq_true, if_pos rfl] at bound
          omega
      · rw [FlowContents.sizeAt_congr (contents.access_at_ne seqLen firstNCapacity same)]
        exact needed part (List.mem_cons_of_mem _ member)

end Lists

/-! ### The levels of a run -/

/-- The level of the pool after a number of packets. -/
def levelAt (packets : Nat) : FlowLevel :=
  if packets < 51 then .tiny
  else if packets < 204 then .small
  else if packets < 800 then .medium
  else .large

/-- The packet counter of the pool after a number of packets: it stops at the largest level. -/
def pktCountAt (packets : Nat) : Nat := min packets 800

/-- The check below the largest level: the packet is counted, and an upgrade is due from four
fifths of the sequence length on. -/
theorem flowMemPoolCheckUpgrade_below {pool : FlowMemPool D} (wellFormed : pool.WellFormed)
    {newLevel : FlowLevel} (next : pool.level.next = some newLevel)
    (small : pool.currentPktCount < 2 ^ 32 - 1) :
    (flowMemPoolCheckUpgrade pool).1.currentPktCount = pool.currentPktCount + 1 ∧
      (flowMemPoolCheckUpgrade pool).2 =
        decide (flowMemLevelToSeqLen pool.level * 8 / 10 ≤ pool.currentPktCount + 1) := by
  have notLarge : pool.level ≠ .large := fun large => by
    rw [large] at next
    cases next
  have threshold : (flowMemLevelToSeqLen pool.level * 8 / 10 == 0) = false := by
    cases pool.level <;> rfl
  simp only [flowMemPoolCheckUpgrade, if_neg notLarge, if_pos small, wellFormed.seqLen_eq,
    threshold, Bool.false_eq_true, if_false, next]
  by_cases due : pool.currentPktCount + 1 ≥ flowMemLevelToSeqLen pool.level * 8 / 10
  · simp only [if_pos due, true_and]
    exact (decide_eq_true due).symm
  · simp only [if_neg due, true_and]
    exact (decide_eq_false due).symm

/-- The upgrade check of a packet follows the schedule of the levels. -/
theorem flowMemPoolCheckUpgrade_levelAt {pool : FlowMemPool D} (wellFormed : pool.WellFormed)
    {packets : Nat} (level_eq : pool.level = levelAt packets)
    (count_eq : pool.currentPktCount = pktCountAt packets) :
    (flowMemPoolCheckUpgrade pool).1.currentPktCount = pktCountAt (packets + 1) ∧
      (if (flowMemPoolCheckUpgrade pool).2 then pool.level.next.getD pool.level
        else pool.level) = levelAt (packets + 1) := by
  unfold pktCountAt at count_eq ⊢
  by_cases large : 800 ≤ packets
  · have level : pool.level = .large := by
      rw [level_eq, levelAt, if_neg (by omega), if_neg (by omega), if_neg (by omega)]
    simp only [flowMemPoolCheckUpgrade, if_pos level, Bool.false_eq_true, if_false]
    refine ⟨by omega, ?_⟩
    rw [level, levelAt, if_neg (by omega), if_neg (by omega), if_neg (by omega)]
  · have below : ∃ newLevel, pool.level.next = some newLevel := by
      rw [level_eq, levelAt, if_pos (by omega : packets < 800)]
      split_ifs <;> exact ⟨_, rfl⟩
    obtain ⟨newLevel, next⟩ := below
    obtain ⟨counted, due⟩ := flowMemPoolCheckUpgrade_below wellFormed next (by omega)
    refine ⟨by omega, ?_⟩
    rw [due, show pool.currentPktCount = packets by omega, level_eq]
    simp only [decide_eq_true_eq]
    by_cases tiny : packets < 51
    · rw [show levelAt packets = .tiny from if_pos tiny,
        show flowMemLevelToSeqLen .tiny * 8 / 10 = 51 from rfl, levelAt]
      by_cases last : packets = 50
      · subst last
        rfl
      · rw [if_neg (by omega), if_pos (by omega)]
    · by_cases small : packets < 204
      · rw [show levelAt packets = .small by rw [levelAt, if_neg tiny, if_pos small],
          show flowMemLevelToSeqLen .small * 8 / 10 = 204 from rfl, levelAt]
        by_cases last : packets = 203
        · subst last
          rfl
        · rw [if_neg (by omega), if_neg (by omega), if_pos (by omega)]
      · rw [show levelAt packets = .medium by
          rw [levelAt, if_neg tiny, if_neg small, if_pos (by omega)],
          show flowMemLevelToSeqLen .medium * 8 / 10 = 800 from rfl, levelAt]
        by_cases last : packets = 799
        · subst last
          rfl
        · rw [if_neg (by omega), if_neg (by omega), if_neg (by omega), if_pos (by omega)]

/-- The parts of a flow cannot have filled when a packet is counted. -/
theorem lt_seqLen_levelAt (packets : Nat) :
    packets < flowMemLevelToSeqLen (levelAt (packets + 1)) ∨ levelAt (packets + 1) = .large := by
  unfold levelAt
  split_ifs
  · exact Or.inl (show packets < 64 by omega)
  · exact Or.inl (show packets < 256 by omega)
  · exact Or.inl (show packets < 1000 by omega)
  · exact Or.inr rfl

theorem flowMemLevelToSeqLen_le_large (level : FlowLevel) :
    flowMemLevelToSeqLen level ≤ flowMemLevelToSeqLen .large := by
  cases level <;> decide

/-! ### Runs -/

section Runs

/-- The per-packet code as a machine: the fields are its state, the accesses its outputs. -/
def flowMachine [Double D] (cfg : FeatureConfig) (platform : Platform D) :
    Mealy (Fields D) PacketInfo (Access D) where
  step fields info := dataFields cfg platform info fields
  emit fields info := dataAccesses cfg platform info fields

/-- The values a list of accesses leaves, if every capacity is that of the largest level. -/
def FlowContents.accessAll (firstNCapacity : Nat) (contents : FlowContents D)
    (accesses : List (Access D)) : FlowContents D :=
  accesses.foldl (FlowContents.access (flowMemLevelToSeqLen .large) firstNCapacity) contents

/-- The allocations of an upgrade succeed. -/
def Allocs.UpgradeOk (allocs : Allocs) : Prop :=
  allocs.upgrade = true ∧ ∀ seq, allocs.snapshot seq = true

theorem FlowContents.rebound_eq (contents : FlowContents D) {snapshot : SeqId → Bool}
    (all : ∀ seq, snapshot seq = true) : contents.rebound snapshot = contents := by
  refine FlowContents.ext (funext fun seq => ?_) rfl rfl rfl
  simp only [FlowContents.rebound, all, if_true]

/-- A state after a number of packets, with the values it holds. -/
structure FlowFeatureState.After [Double D] (cfg : FeatureConfig) (state : FlowFeatureState D)
    (packets : Nat) (contents : FlowContents D) : Prop where
  wellFormed : state.WellFormed cfg
  contents_eq : state.store.contents = contents
  level_eq : state.store.memPool.level = levelAt packets
  currentPktCount_eq : state.store.memPool.currentPktCount = pktCountAt packets
  size_le : ∀ part, contents.sizeAt part ≤ packets

variable [Double D] {cfg : FeatureConfig} {state : FlowFeatureState D}
  {packets : Nat} {contents : FlowContents D}

/-- One packet acts on the values as it would at the largest level. -/
theorem FlowFeatureState.After.processData (after : state.After cfg packets contents)
    (platform : Platform D) (streamType : StreamType) {allocs : Allocs} (succeed : allocs.UpgradeOk)
    (packet : RawPacket) :
    (processData cfg platform streamType allocs packet state).After cfg (packets + 1)
      (contents.accessAll (clampFirstN cfg.firstNPackets)
        (dataAccesses cfg platform (packetInfo cfg streamType packet) state.fields)) := by
  have processed := after.wellFormed.processed platform streamType allocs packet
  have once := fun (part : Target) (other : part ≠ .window) => count_targets_le cfg platform
    (packetInfo cfg streamType packet) state.fields other
  obtain ⟨count_eq, level_eq⟩ := flowMemPoolCheckUpgrade_levelAt after.wellFormed.store.pool
    after.level_eq after.currentPktCount_eq
  have newLevel : (TiFeatures.processData cfg platform streamType allocs packet
      state).store.memPool.level = levelAt (packets + 1) := by
    rw [processed.level_eq, succeed.1, Bool.and_true]
    exact level_eq
  refine ⟨processed.wellFormed, ?_, newLevel, processed.currentPktCount_eq.trans count_eq, ?_⟩
  · rw [processed.contents_eq, newLevel, after.contents_eq,
      FlowContents.rebound_eq _ succeed.2, ite_self]
    rcases lt_seqLen_levelAt packets with room | large
    · exact foldl_access_capacity (flowMemLevelToSeqLen_le_large _) once
        fun part => (after.size_le part).trans_lt room
    · rw [large]
      rfl
  · intro part
    by_cases window : part = .window
    · rw [window]
      exact Nat.zero_le _
    · have grown := sizeAt_foldl_le (flowMemLevelToSeqLen .large)
        (clampFirstN cfg.firstNPackets)
        (dataAccesses cfg platform (packetInfo cfg streamType packet) state.fields) part contents
      exact grown.trans (Nat.add_le_add (after.size_le part) (once part window))

/-- What a packet is to the per-packet functions, for every packet of a run. -/
def packetInfos (cfg : FeatureConfig) (streamType : StreamType) (packets : List RawPacket) :
    List PacketInfo := packets.map (packetInfo cfg streamType)

omit [Double D] in
theorem packetInfos_append (cfg : FeatureConfig) (streamType : StreamType)
    (front back : List RawPacket) : packetInfos cfg streamType (front ++ back) =
      packetInfos cfg streamType front ++ packetInfos cfg streamType back := List.map_append

omit [Double D] in
/-- The times of packets fit 64 bits. -/
theorem packetInfos_tsUs_lt (cfg : FeatureConfig) (streamType : StreamType)
    (packets : List RawPacket) : ∀ info ∈ packetInfos cfg streamType packets,
      info.tsUs < 2 ^ 64 :=
  List.forall_mem_map.mpr fun packet _ => packetInfo_tsUs_lt cfg streamType packet

/-- Packets act on the fields and the values as the machine of the per-packet code does. -/
theorem FlowFeatureState.After.foldl (after : state.After cfg packets contents)
    (platform : Platform D) (streamType : StreamType) {callbacks : List (Allocs × RawPacket)}
    (succeed : ∀ callback ∈ callbacks, callback.1.UpgradeOk) :
    let next := callbacks.foldl (fun state callback =>
      TiFeatures.processData cfg platform streamType callback.1 callback.2 state) state
    let infos := packetInfos cfg streamType (callbacks.map Prod.snd)
    next.fields = (flowMachine cfg platform).run state.fields infos ∧
      next.After cfg (packets + callbacks.length)
        (contents.accessAll (clampFirstN cfg.firstNPackets)
          ((flowMachine cfg platform).trace state.fields infos)) := by
  induction callbacks generalizing state packets contents with
  | nil => exact ⟨rfl, after⟩
  | cons callback rest inductionHypothesis =>
    have one := after.processData platform streamType
      (succeed callback (List.mem_cons_self ..)) callback.2
    obtain ⟨fields_eq, later⟩ := inductionHypothesis one fun other member =>
      succeed other (List.mem_cons_of_mem _ member)
    refine ⟨fields_eq, ?_⟩
    rw [List.length_cons, Nat.add_comm rest.length, ← Nat.add_assoc]
    simp only [packetInfos, List.map_cons, Mealy.trace_cons, FlowContents.accessAll,
      List.foldl_append]
    exact later

end Runs

/-! ### The view of a run -/

section Views

variable [Double D]

/-- The view of a flow with the given fields and values. -/
def contentsView (fields : Fields D) (contents : FlowContents D) (tempUintBufferSize : Nat) :
    View D where
  toFields := fields
  seqs := contents.seqs
  arrays := fun dir => contents.arrays dir.arrayId
  firstNLens := contents.firstNLens
  burstSizes := contents.arrays .burstSizes
  burstDurations := contents.arrays .burstDurations
  burstIntervals := contents.arrays .burstIntervals
  burstPacketCounts := contents.arrays .burstPacketCounts
  respDelays := contents.respDelays
  windowPktCounts := contents.arrays .windowPktCounts
  windowByteCounts := contents.arrays .windowByteCounts
  windowBitrate := contents.arrays .windowBitrate
  tempUintBufferSize

/-- The closing code sees the fields, the values and the size of the temporary buffers. -/
theorem FlowFeatureState.WellFormed.view_eq {cfg : FeatureConfig} {state : FlowFeatureState D}
    (wellFormed : state.WellFormed cfg) : state.view =
      contentsView state.fields state.store.contents
        (min (flowMemLevelToSeqLen state.store.memPool.level) 512) := by
  rw [← wellFormed.store.pool.seqLen_eq, ← wellFormed.store.tempSize_eq]
  simp only [FlowFeatureState.view, flowView, contentsView, wellFormed.window.numWindows_eq]
  congr 1
  funext dir
  cases dir <;> rfl

/-- The fields after the packets of a flow. -/
def flowFields (cfg : FeatureConfig) (platform : Platform D) (streamType : StreamType)
    (first : RawPacket) (rest : List RawPacket) : Fields D :=
  (flowMachine cfg platform).run (fieldsInit cfg (packetTsUs cfg first))
    (packetInfos cfg streamType (first :: rest))

/-- The accesses the packets of a flow make, in program order. -/
def flowAccesses (cfg : FeatureConfig) (platform : Platform D) (streamType : StreamType)
    (first : RawPacket) (rest : List RawPacket) : List (Access D) :=
  (flowMachine cfg platform).trace (fieldsInit cfg (packetTsUs cfg first))
    (packetInfos cfg streamType (first :: rest))

/-- The values a flow holds after its packets, if every capacity is that of the largest level. -/
def flowContents (cfg : FeatureConfig) (platform : Platform D) (streamType : StreamType)
    (first : RawPacket) (rest : List RawPacket) : FlowContents D :=
  FlowContents.init.accessAll (clampFirstN cfg.firstNPackets)
    (flowAccesses cfg platform streamType first rest)

/-- The view of a flow after its packets. -/
def closingView (cfg : FeatureConfig) (platform : Platform D) (streamType : StreamType)
    (first : RawPacket) (rest : List RawPacket) : View D :=
  contentsView (flowFields cfg platform streamType first rest)
    (flowContents cfg platform streamType first rest)
    (min (flowMemLevelToSeqLen (levelAt (rest.length + 1))) 512)

theorem closingView_seqs (cfg : FeatureConfig) (platform : Platform D) (streamType : StreamType)
    (first : RawPacket) (rest : List RawPacket) (seq : SeqId) :
    (closingView cfg platform streamType first rest).seqs seq =
      (flowContents cfg platform streamType first rest).seqs seq := by
  rw [closingView, contentsView]

theorem closingView_respDelays (cfg : FeatureConfig) (platform : Platform D)
    (streamType : StreamType) (first : RawPacket) (rest : List RawPacket) :
    (closingView cfg platform streamType first rest).respDelays =
      (flowContents cfg platform streamType first rest).respDelays := by
  rw [closingView, contentsView]

theorem closingView_firstNLens (cfg : FeatureConfig) (platform : Platform D)
    (streamType : StreamType) (first : RawPacket) (rest : List RawPacket) :
    (closingView cfg platform streamType first rest).firstNLens =
      (flowContents cfg platform streamType first rest).firstNLens := by
  rw [closingView, contentsView]

theorem closingView_arrays (cfg : FeatureConfig) (platform : Platform D) (streamType : StreamType)
    (first : RawPacket) (rest : List RawPacket) (dir : DirArray) :
    (closingView cfg platform streamType first rest).arrays dir =
      (flowContents cfg platform streamType first rest).arrays dir.arrayId := by
  rw [closingView, contentsView]

theorem Allocs.succeed_upgradeOk : Allocs.succeed.UpgradeOk := ⟨rfl, fun _ => rfl⟩

theorem createFlow_after {cfg : FeatureConfig} {allocs : Allocs} {tsUs : Nat}
    {state : FlowFeatureState D} (created : createFlow cfg allocs tsUs = some state) :
    state.After cfg 0 FlowContents.init := by
  obtain ⟨-, initial⟩ := createFlow_eq_some created
  refine ⟨createFlow_wellFormed created, initial.contents_eq, initial.level_eq,
    initial.currentPktCount_eq, fun part => ?_⟩
  cases part with
  | array dir => cases dir <;> exact le_refl _
  | _ => exact le_refl _

/-- A run without allocation failures ends in a state with the fields and the values that the
largest capacities give. -/
theorem flowRun_allocated (cfg : FeatureConfig) (platform : Platform D) (streamType : StreamType)
    (first : RawPacket) (rest : List RawPacket) :
    ∃ state, flowRun cfg platform streamType (allocated (first :: rest)) = some state ∧
      state.fields = flowFields cfg platform streamType first rest ∧
      state.After cfg (rest.length + 1) (flowContents cfg platform streamType first rest) := by
  obtain ⟨created, created_eq⟩ := createFlow_succeed (D := D) cfg (packetTsUs cfg first)
  have succeed : ∀ callback ∈ allocated (first :: rest), callback.1.UpgradeOk := by
    intro callback member
    obtain ⟨packet, -, rfl⟩ := List.mem_map.mp member
    exact Allocs.succeed_upgradeOk
  have packets : (allocated (first :: rest)).map Prod.snd = first :: rest := by
    rw [allocated, List.map_map]
    exact List.map_id _
  obtain ⟨fields_eq, after⟩ := (createFlow_after created_eq).foldl platform
    streamType succeed
  rw [packets, (createFlow_eq_some created_eq).1] at fields_eq after
  refine ⟨_, ?_, fields_eq, ?_⟩
  · rw [show allocated (first :: rest) = (Allocs.succeed, first) :: allocated rest from rfl,
      flowRun_cons, created_eq]
    rfl
  · rw [Nat.zero_add, allocated, List.length_map, List.length_cons] at after
    exact after

/-- Whatever the allocations, the packets of a run act on the fields as the machine of the
per-packet code does. -/
theorem flowRun_fields {cfg : FeatureConfig} {platform : Platform D} {streamType : StreamType}
    {first : Allocs × RawPacket} {rest : List (Allocs × RawPacket)} {flow : FlowFeatureState D}
    (run : flowRun cfg platform streamType (first :: rest) = some flow) :
    flow.fields = flowFields cfg platform streamType first.2 (rest.map Prod.snd) := by
  have fields_run : ∀ (callbacks : List (Allocs × RawPacket)) (state : FlowFeatureState D),
      (callbacks.foldl (fun state callback => processData cfg platform streamType callback.1
        callback.2 state) state).fields =
        (flowMachine cfg platform).run state.fields
          (packetInfos cfg streamType (callbacks.map Prod.snd)) := by
    intro callbacks
    induction callbacks with
    | nil => exact fun _ => rfl
    | cons callback others inductionHypothesis => exact fun state => inductionHypothesis _
  rw [flowRun_cons] at run
  obtain ⟨created, created_eq, rfl⟩ := Option.map_eq_some_iff.mp run
  rw [fields_run, (createFlow_eq_some created_eq).1]
  rfl

/-- The view of a run without allocation failures. -/
theorem flowRun_view (cfg : FeatureConfig) (platform : Platform D) (streamType : StreamType)
    (first : RawPacket) (rest : List RawPacket) :
    (flowRun cfg platform streamType (allocated (first :: rest))).map FlowFeatureState.view =
      some (closingView cfg platform streamType first rest) := by
  obtain ⟨state, run, fields_eq, after⟩ := flowRun_allocated cfg platform streamType first rest
  rw [run, Option.map_some, after.wellFormed.view_eq, fields_eq, after.contents_eq, after.level_eq]
  rfl

end Views

end TiFeatures
