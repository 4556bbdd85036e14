/-
This file states the bounds that hold in every state a flow can reach and
proves them from the invariant: counts stay within the capacities of the current
pool, buffers lie in its ring area, and every store has been inside its block.
-/

import TiFeatures.Tiers

namespace TiFeatures

open CMemory Layout

variable {D : Type}

/-- The counts, capacities and places of a flow are consistent. A store outside its block would
have set the fault flag of the block for good. -/
structure WithinBounds (state : FlowFeatureState D) : Prop where
  dirCount_le : ∀ array, state.store.dirCount array ≤ state.store.dirCapacity array
  dirCapacity_eq : ∀ array, state.store.dirCapacity array = state.store.memPool.actualSeqLen
  burstCount_le : state.store.burstCount ≤ state.store.memPool.actualSeqLen
  ring_capacity : ∀ seq, (state.store.seqs seq).capacity = state.store.memPool.actualSeqLen
  ring_count : ∀ seq, (state.store.seqs seq).count ≤ (state.store.seqs seq).capacity
  ring_head : ∀ seq, (state.store.seqs seq).head < (state.store.seqs seq).capacity
  ring_tail : ∀ seq, (state.store.seqs seq).tail < (state.store.seqs seq).capacity
  ring_place : ∀ seq, ∃ data, (state.store.seqs seq).data = some data ∧
    data.block = state.store.memPool.memory.id ∧
    state.store.memPool.ringBufferData.offset ≤ data.offset ∧
    data.offset + (state.store.seqs seq).capacity * (state.store.seqs seq).elemSize ≤
      state.store.memPool.ringBufferData.offset + state.store.memPool.ringBufferSize
  ring_area : state.store.memPool.memory.Fits state.store.memPool.ringBufferData
    state.store.memPool.ringBufferSize
  respDelayCount_le : state.store.respDelayCount ≤ 1000
  firstNCount_le : state.store.firstNCount ≤ state.store.firstNCapacity
  currentWindow_le : state.fields.window.currentWindow ≤ state.fields.window.numWindows
  temp_fits : 2 * state.store.tempUintBufferSize * 8 ≤ 8192
  temp_area : state.store.memPool.memory.Fits state.store.memPool.tempMem 8192
  temp_place : state.store.tempDoubleBuffer = some state.store.memPool.tempMem ∧
    state.store.tempDoubleBuffer2 =
      some (state.store.memPool.tempMem.add (state.store.tempUintBufferSize * 8))
  array_fits : ∀ array, state.store.memPool.memory.Fits (state.store.arrays array)
    (state.store.arrayLength array * array.width)
  stores_inside : state.store.memPool.memory.fault = false ∧ state.store.firstNLens.fault = false

/-- The elements an access assigns exist: the guard the code checks before the assignment keeps
the index below the number of elements the array has in the current pool. -/
def Store.AssignsInRange (store : Store D) : Access D → Prop
  | .push seq _ => (store.seqs seq).head < (store.seqs seq).capacity
  | .append dir _ => store.dirCount dir < store.dirCapacity dir →
      store.dirCount dir < store.arrayLength dir.arrayId
  | .appendFirstN _ => store.firstNCount < store.firstNCapacity →
      (store.firstNCount + 1) * 4 ≤ store.firstNLens.size
  | .recordBurst .. => store.burstCount < store.memPool.actualSeqLen →
      ∀ array ∈ [ArrayId.burstSizes, .burstDurations, .burstPacketCounts, .burstIntervals],
        store.burstCount < store.arrayLength array
  | .appendRespDelay _ => store.respDelayCount < store.respDelayCapacity →
      store.respDelayCount < store.arrayLength .respDelays
  | .setWindowBitrate window _ => window < store.arrayLength .windowBitrate ∧
      window < store.arrayLength .windowByteCounts
  | .countWindow window _ => window < store.arrayLength .windowPktCounts ∧
      window < store.arrayLength .windowByteCounts

/-- The ring area and the temporary area lie in the block, one in front of the other. -/
theorem FlowMemPool.WellFormed.areas {pool : FlowMemPool D} (wellFormed : pool.WellFormed) :
    pool.memory.Fits pool.ringBufferData pool.ringBufferSize ∧
      pool.memory.Fits pool.tempMem 8192 := by
  have room := wellFormed.room
  have ring := wellFormed.ringBufferSize_eq
  rw [wellFormed.ringBufferData_eq, wellFormed.tempMem_eq]
  exact ⟨⟨rfl, by dsimp only; omega⟩, ⟨rfl, by dsimp only; omega⟩⟩

/-- A circular buffer lies in the ring area. -/
theorem FlowMemPool.WellFormed.seq_inside {pool : FlowMemPool D} (wellFormed : pool.WellFormed)
    (seq : SeqId) :
    pool.ringBufferData.offset ≤ (Region.seq seq).offset pool.shape ∧
      (Region.seq seq).offset pool.shape + pool.actualSeqLen * seq.elemSize ≤
        pool.ringBufferData.offset + pool.ringBufferSize := by
  have room := wellFormed.room
  have ring := wellFormed.ringBufferSize_eq
  have stop := offsetOf_end pool.shape.seqBytes (mem_seqOrder seq)
  rw [wellFormed.ringBufferData_eq]
  simp only [Region.offset]
  rw [show pool.shape.seqBytes seq = pool.actualSeqLen * seq.elemSize from rfl] at stop
  omega

theorem Store.WellFormed.assignsInRange {store : Store D} (wellFormed : store.WellFormed)
    {access : Access D} (valid : access.Valid) : store.AssignsInRange access := by
  cases access with
  | push seq value => exact (wellFormed.seq seq).head_lt
  | append dir value =>
    intro room
    rwa [store.arrayLength_arrayId, ← wellFormed.dirCapacity_eq dir]
  | appendFirstN pktLen =>
    intro room
    rw [wellFormed.firstNSize_eq]
    exact Nat.mul_le_mul_right 4 room
  | recordBurst byteCount duration pktCount interval =>
    intro room array member
    simp only [List.mem_cons, List.not_mem_nil, or_false] at member
    rcases member with rfl | rfl | rfl | rfl <;> exact room
  | appendRespDelay delay =>
    intro room
    rw [wellFormed.respDelayCapacity_eq] at room
    exact room
  | setWindowBitrate window windowSizeUs => exact ⟨valid, valid⟩
  | countWindow window pktLen => exact ⟨valid, valid⟩

theorem FlowFeatureState.WellFormed.withinBounds {cfg : FeatureConfig}
    {state : FlowFeatureState D} (wellFormed : state.WellFormed cfg) : WithinBounds state := by
  obtain ⟨store, window, -⟩ := wellFormed
  have capacity_eq := store.capacity_eq
  have areas := store.pool.areas
  exact
    { dirCount_le := fun array => (store.dirCapacity_eq array).symm ▸ store.dirCount_le array
      dirCapacity_eq := store.dirCapacity_eq
      burstCount_le := store.burstCount_le
      ring_capacity := capacity_eq
      ring_count := fun seq => (store.seq seq).count_le
      ring_head := fun seq => (store.seq seq).head_lt
      ring_tail := fun seq => (store.seq seq).tail_lt
      ring_place := fun seq => by
        have inside := store.pool.seq_inside seq
        refine ⟨_, (store.seq seq).data_eq, rfl, inside.1, ?_⟩
        rw [capacity_eq seq, store.elemSize_eq seq]
        exact inside.2
      ring_area := areas.1
      respDelayCount_le := store.respDelayCount_le
      firstNCount_le := store.firstNCount_le
      currentWindow_le := window.numWindows_eq.symm ▸ window.currentWindow_le
      temp_fits := by
        rw [store.tempSize_eq]
        omega
      temp_area := areas.2
      temp_place := ⟨store.tempBuffer_eq, store.tempBuffer2_eq⟩
      array_fits := store.array_fits
      stores_inside := ⟨store.fault_eq, store.firstNFault_eq⟩ }

section Flows

variable [Double D] {cfg : FeatureConfig} {platform : Platform D} {state : FlowFeatureState D}

/-- Every access of a packet finds its elements, wherever among the accesses of the packet it
stands and whether or not the packet has upgraded the pool. -/
theorem FlowFeatureState.WellFormed.assignsInRange (wellFormed : state.WellFormed cfg)
    (info : PacketInfo) (allocs : Allocs) {front back : List (Access D)} {access : Access D}
    (split : dataAccesses cfg platform info state.fields = front ++ access :: back) :
    (front.foldl Store.access (upgradeIfNeeded allocs state.store)).AssignsInRange access := by
  have valid := dataAccesses_valid cfg platform info wellFormed.window
  rw [split] at valid
  have checked := wellFormed.store.upgradeIfNeeded allocs
  have before := checked.wellFormed.accessedAll fun other member =>
    valid other (List.mem_append_left _ member)
  exact before.wellFormed.assignsInRange (valid access
    (List.mem_append_right _ (List.mem_cons_self ..)))

/-- Every state a flow can reach is within bounds, whatever its packets are and whichever
allocations fail, and every array write of the packet that follows is in range. -/
theorem reachable_withinBounds (reachable : Reachable cfg platform state) :
    WithinBounds state ∧
      ∀ (streamType : StreamType) (packet : RawPacket) (allocs : Allocs)
        (front back : List (Access D)) (access : Access D),
        dataAccesses cfg platform (packetInfo cfg streamType packet) state.fields =
          front ++ access :: back →
        (front.foldl Store.access (upgradeIfNeeded allocs state.store)).AssignsInRange access :=
  ⟨reachable.wellFormed.withinBounds, fun _ _ allocs _ _ _ split =>
    reachable.wellFormed.assignsInRange _ allocs split⟩

end Flows

/-- Every allocation succeeds but that of a larger pool. -/
def refusedUpgrade : Allocs := { Allocs.succeed with upgrade := false }

/-- The callbacks of fifty-two packets, of which the fifty-first is refused a larger pool. -/
def refusedOnce : List (Allocs × RawPacket) :=
  allocated (List.replicate 50 (barePacket 1 1 100)) ++
    [(refusedUpgrade, barePacket 1 1 100), (.succeed, barePacket 1 1 100)]

/-- A flow that is refused a larger pool for its fifty-first packet and given one for the next is
within bounds, and so is every access of the packet that follows. -/
theorem refused_withinBounds : ∃ refused state : FlowFeatureState Float,
    flowRun defaultConfig (barePlatform Float) .tcp (refusedOnce.take 51) = some refused ∧
      refused.store.memPool.level = .tiny ∧
      flowRun defaultConfig (barePlatform Float) .tcp refusedOnce = some state ∧
      state.store.memPool.level = .small ∧ WithinBounds state ∧
      ∀ (streamType : StreamType) (packet : RawPacket) (allocs : Allocs)
        (front back : List (Access Float)) (access : Access Float),
        dataAccesses defaultConfig (barePlatform Float)
          (packetInfo defaultConfig streamType packet) state.fields = front ++ access :: back →
        (front.foldl Store.access (upgradeIfNeeded allocs state.store)).AssignsInRange access := by
  obtain ⟨before, run, -, after⟩ := flowRun_allocated (D := Float) defaultConfig
    (barePlatform Float) .tcp (barePacket 1 1 100) (List.replicate 49 (barePacket 1 1 100))
  rw [List.length_replicate] at after
  have refusal := after.wellFormed.processed (barePlatform Float) .tcp refusedUpgrade
    (barePacket 1 1 100)
  have refusedRun : flowRun defaultConfig (barePlatform Float) .tcp (refusedOnce.take 51) =
      some (processData defaultConfig (barePlatform Float) .tcp refusedUpgrade
        (barePacket 1 1 100) before) :=
    flowRun_concat run (refusedUpgrade, barePacket 1 1 100)
  have refusedLevel : (processData defaultConfig (barePlatform Float) .tcp refusedUpgrade
      (barePacket 1 1 100) before).store.memPool.level = .tiny := by
    rw [refusal.level_eq, show refusedUpgrade.upgrade = false from rfl, Bool.and_false,
      if_neg Bool.false_ne_true, after.level_eq]
    rfl
  have counted := refusal.currentPktCount_eq
  have next : before.store.memPool.level.next = some .small := by
    rw [after.level_eq]
    rfl
  rw [(flowMemPoolCheckUpgrade_below after.wellFormed.store.pool next
    (by rw [after.currentPktCount_eq]; decide)).1, after.currentPktCount_eq] at counted
  generalize processData defaultConfig (barePlatform Float) .tcp refusedUpgrade
    (barePacket 1 1 100) before = refused at refusal refusedRun refusedLevel counted
  have upgrade := refusal.wellFormed.processed (barePlatform Float) .tcp .succeed
    (barePacket 1 1 100)
  have due : (flowMemPoolCheckUpgrade refused.store.memPool).2 = true := by
    rw [(flowMemPoolCheckUpgrade_below refusal.wellFormed.store.pool
      (show _ = some FlowLevel.small by rw [refusedLevel]; rfl) (by rw [counted]; decide)).2,
      refusedLevel, counted]
    rfl
  have stateRun := flowRun_concat refusedRun (.succeed, barePacket 1 1 100)
  have reachable := flowRun_reachable stateRun
  refine ⟨refused, _, refusedRun, refusedLevel, stateRun, ?_, reachable_withinBounds reachable⟩
  rw [upgrade.level_eq, due, refusedLevel]
  rfl

end TiFeatures
