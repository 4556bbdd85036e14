/-
This file models the part of the flow state that lives in memory: the pool, the
pointers, counts and capacities the state caches of it, and the first-packets
array. It covers the initialisation, the upgrade with its snapshots, the stores
of the per-packet code, and the view the closing code reads.
-/

import TiFeatures.CircularBuffer
import TiFeatures.MemoryPool
import TiFeatures.State

namespace TiFeatures

open CMemory

/-! ### The store -/

/-- The pool array behind a directional array. -/
def DirArray.arrayId : DirArray → ArrayId
  | .fwdPktLens => .fwdPktLens
  | .bwdPktLens => .bwdPktLens
  | .fwdIats => .fwdIats
  | .bwdIats => .bwdIats
  | .fwdPayloadSizes => .fwdPayloadSizes
  | .bwdPayloadSizes => .bwdPayloadSizes

/-- The fields of `flow_feature_state_t` that point into the memory of the flow or count what is
stored there. -/
structure Store (D : Type) where
  memPool : FlowMemPool D
  arrays : ArrayId → Ptr
  dirCount : DirArray → Nat
  dirCapacity : DirArray → Nat
  seqs : SeqId → CircularBuffer
  burstCount : Nat
  respDelayCount : Nat
  respDelayCapacity : Nat
  tempDoubleBuffer : Option Ptr
  tempDoubleBuffer2 : Option Ptr
  tempUintBufferSize : Nat
  firstNLens : Block D
  firstNCount : Nat
  firstNCapacity : Nat

/-- The outcomes of the allocations of one callback. The last two are those of an upgrade. -/
structure Allocs where
  state : Bool
  firstNLens : Bool
  memPool : Bool
  dynamicMem : Bool
  snapshot : SeqId → Bool
  upgrade : Bool

/-- Every allocation succeeds. -/
def Allocs.succeed : Allocs := ⟨true, true, true, true, fun _ => true, true⟩

variable {D : Type} [Double D]

/-- Replace the block behind the pool. -/
def Store.withMemory (store : Store D) (memory : Block D) : Store D :=
  { store with memPool := { store.memPool with memory } }

/-! ### Initialisation -/

/-- `flow_state_bind_temp_buffers`. -/
def flowStateBindTempBuffers (store : Store D) (seqLen : Nat) : Store D :=
  let tempCap := store.memPool.tempMemSize / 16
  let boundedLen := if seqLen < tempCap then seqLen else tempCap
  let unbound := { store with
    tempDoubleBuffer := none
    tempDoubleBuffer2 := none
    tempUintBufferSize := 0 }
  if boundedLen = 0 then unbound
  else
    let (memPool, buffer) := flowMemPoolAllocTemp store.memPool (boundedLen * 16) 8
    match buffer with
    | none => { unbound with memPool }
    | some pointer =>
      { store with
        memPool
        tempDoubleBuffer := some pointer
        tempDoubleBuffer2 := some (pointer.add (boundedLen * 8))
        tempUintBufferSize := boundedLen }

/-- A buffer bound to a place in the ring area, with nothing in it. -/
def emptyBuffer (data : Ptr) (elemSize capacity : Nat) : CircularBuffer where
  data := some data
  elemSize
  capacity
  count := 0
  head := 0
  tail := 0
  isFull := false

/-- A buffer after `memset`. -/
def clearedBuffer : CircularBuffer := ⟨none, 0, 0, 0, 0, 0, false⟩

/-- `INIT_RING_BUFFER`: bind one buffer and advance the offset. -/
def initRingBuffer (pool : FlowMemPool D) (seqLen : Nat)
    (state : (SeqId → CircularBuffer) × Nat) (seq : SeqId) :
    Option ((SeqId → CircularBuffer) × Nat) :=
  (flowMemPoolGetRingBuffer pool state.2).map fun ringData =>
    (Function.update state.1 seq (emptyBuffer ringData seq.elemSize seqLen),
      state.2 + seqLen * seq.elemSize)

/-- The memory part of `flow_state_init`. -/
def flowStateInit (cfg : FeatureConfig) (allocs : Allocs) : Option (Store D) :=
  let firstNCapacity := clampFirstN cfg.firstNPackets
  if !allocs.firstNLens then none
  else if !allocs.memPool then none
  else
    match flowMemPoolInitEx .tiny poolNumWindows poolRespDelayCapacity
        (if allocs.dynamicMem then some 0 else none) with
    | none => none
    | some memPool =>
      let seqLen := memPool.actualSeqLen
      (seqOrder.foldlM (initRingBuffer memPool seqLen) (fun _ => clearedBuffer, 0)).map
        fun bound =>
          flowStateBindTempBuffers
            { memPool
              arrays := memPool.arrays
              dirCount := fun _ => 0
              dirCapacity := fun _ => seqLen
              seqs := bound.1
              burstCount := 0
              respDelayCount := 0
              respDelayCapacity := poolRespDelayCapacity
              tempDoubleBuffer := none
              tempDoubleBuffer2 := none
              tempUintBufferSize := 0
              firstNLens := Block.zeroed 0 (firstNCapacity * 4)
              firstNCount := 0
              firstNCapacity } seqLen

/-! ### Upgrades -/

/-- `ring_buffer_snapshot_t`. The data are the raw cells of the copied elements. -/
structure RingBufferSnapshot (D : Type) where
  data : Option (List (Cell D))
  count : Nat
  elemSize : Nat

/-- `ring_buffer_snapshot_capture`. -/
def ringBufferSnapshotCapture (memory : Block D) (cb : CircularBuffer) (mallocOk : Bool) :
    RingBufferSnapshot D :=
  if cb.count = 0 then ⟨none, 0, cb.elemSize⟩
  else
    match circularBufferGetArray memory cb mallocOk with
    | (some elems, count) => ⟨some elems.flatten, count, cb.elemSize⟩
    | (none, _) => ⟨none, 0, cb.elemSize⟩

/-- `ring_buffer_rebind_from_snapshot`, on the block of the upgraded pool. When the pool has no
ring area left the buffer stays as it is. -/
def ringBufferRebindFromSnapshot (pool : FlowMemPool D) (capacity : Nat)
    (snaps : SeqId → RingBufferSnapshot D)
    (state : Block D × (SeqId → CircularBuffer) × Nat) (seq : SeqId) :
    Block D × (SeqId → CircularBuffer) × Nat :=
  let (memory, seqs, ringOffset) := state
  match flowMemPoolGetRingBuffer pool ringOffset with
  | none => state
  | some ringData =>
    let bound := emptyBuffer ringData seq.elemSize capacity
    let nextOffset := ringOffset + capacity * seq.elemSize
    let snap := snaps seq
    match snap.data with
    | none => (memory, Function.update seqs seq bound, nextOffset)
    | some data =>
      if snap.count > 0 ∧ snap.elemSize = seq.elemSize then
        let copyCount := if snap.count < capacity then snap.count else capacity
        (memory.store ringData (data.take (copyCount * seq.elemSize)),
          Function.update seqs seq
            { bound with
              count := copyCount
              tail := 0
              head := copyCount % capacity
              isFull := copyCount == capacity },
          nextOffset)
      else (memory, Function.update seqs seq bound, nextOffset)

/-- The part of the upgrade block of `traffic_process` that follows a successful
`flow_mem_pool_upgrade`: refresh the cached pointers and capacities, and rebind the buffers. -/
def refreshStore (store : Store D) (pool : FlowMemPool D)
    (snaps : SeqId → RingBufferSnapshot D) : Store D :=
  let seqLen := pool.actualSeqLen
  let refreshed := flowStateBindTempBuffers
    { store with
      memPool := pool
      arrays := pool.arrays
      dirCapacity := fun _ => seqLen } seqLen
  let rebound := seqOrder.foldl (ringBufferRebindFromSnapshot refreshed.memPool seqLen snaps)
    (refreshed.memPool.memory, refreshed.seqs, 0)
  { refreshed.withMemory rebound.1 with seqs := rebound.2.1 }

/-- The upgrade block of `traffic_process`. -/
def upgradeIfNeeded (allocs : Allocs) (store : Store D) : Store D :=
  let checked := flowMemPoolCheckUpgrade store.memPool
  let store := { store with memPool := checked.1 }
  if checked.2 then
    let snaps := fun seq => ringBufferSnapshotCapture store.memPool.memory (store.seqs seq)
      (allocs.snapshot seq)
    match store.memPool.level.next with
    | none => store
    | some newLevel =>
      match flowMemPoolUpgrade store.memPool newLevel allocs.upgrade with
      | none => store
      | some pool => refreshStore store pool snaps
  else store

/-! ### Accesses -/

/-- The codec of a pool array of integers. -/
def ArrayId.codec (D : Type) (array : ArrayId) : Codec D Nat := unsignedCodec D array.width

/-- Assignment to an element of a pool array, through the pointer the state caches. -/
def Store.write (store : Store D) (array : ArrayId) (index value : Nat) : Store D :=
  store.withMemory
    (store.memPool.memory.writeAt (array.codec D) (store.arrays array) index value)

/-- An element of a pool array, through the pointer the state caches. -/
def Store.read (store : Store D) (array : ArrayId) (index : Nat) : Nat :=
  store.memPool.memory.readAt (array.codec D) (store.arrays array) index

/-- The burst arrays after a burst is recorded. -/
def recordBurst (store : Store D) (byteCount duration pktCount interval : Nat) : Store D :=
  if store.burstCount < store.memPool.actualSeqLen then
    let recorded := ((store.write .burstSizes store.burstCount byteCount).write
      .burstDurations store.burstCount duration).write .burstPacketCounts store.burstCount pktCount
    let recorded := if store.burstCount > 0 then
        recorded.write .burstIntervals (store.burstCount - 1) interval
      else recorded
    { recorded with burstCount := store.burstCount + 1 }
  else store

/-- Carry out one access. -/
def Store.access (store : Store D) : Access D → Store D
  | .push seq value =>
    let pushed := circularBufferPushed store.memPool.memory (store.seqs seq)
      (encodeUnsigned seq.elemSize value)
    { store.withMemory pushed.1 with seqs := Function.update store.seqs seq pushed.2 }
  | .append array value =>
    if store.dirCount array < store.dirCapacity array then
      { store.write array.arrayId (store.dirCount array) value with
        dirCount := Function.update store.dirCount array (store.dirCount array + 1) }
    else store
  | .appendFirstN pktLen =>
    if store.firstNCount < store.firstNCapacity then
      { store with
        firstNLens := store.firstNLens.writeAt (unsignedCodec D 4) ⟨store.firstNLens.id, 0⟩
          store.firstNCount pktLen
        firstNCount := store.firstNCount + 1 }
    else store
  | .recordBurst byteCount duration pktCount interval =>
    recordBurst store byteCount duration pktCount interval
  | .appendRespDelay delay =>
    if store.respDelayCount < store.respDelayCapacity then
      { store.withMemory (store.memPool.memory.writeAt (floatCodec D) (store.arrays .respDelays)
          store.respDelayCount delay) with
        respDelayCount := store.respDelayCount + 1 }
    else store
  | .setWindowBitrate window windowSizeUs =>
    store.write .windowBitrate window
      (u32 (u64 (store.read .windowByteCounts window * 8 * 1000000) / windowSizeUs))
  | .countWindow window pktLen =>
    let counted := store.write .windowPktCounts window
      (u32 (store.read .windowPktCounts window + 1))
    counted.write .windowByteCounts window (u32 (counted.read .windowByteCounts window + pktLen))

/-! ### The view of a store -/

/-- The values of a circular buffer as `circular_buffer_get_array` returns them. -/
def Store.seqValues (store : Store D) (seq : SeqId) : List Nat :=
  ((circularBufferGetArray store.memPool.memory (store.seqs seq) true).1.getD []).map
    decodeUnsigned

/-- The first elements of a pool array. -/
def Store.values (store : Store D) (array : ArrayId) (count : Nat) : List Nat :=
  store.memPool.memory.readArray (array.codec D) (store.arrays array) count

/-- The stored prefix of a directional array. -/
def Store.dirValues (store : Store D) (array : DirArray) : List Nat :=
  store.values array.arrayId (store.dirCount array)

/-- What the closing code sees of a flow. -/
def flowView (fields : Fields D) (store : Store D) : View D where
  toFields := fields
  seqs := store.seqValues
  arrays := store.dirValues
  firstNLens := store.firstNLens.readArray (unsignedCodec D 4) ⟨store.firstNLens.id, 0⟩
    store.firstNCount
  burstSizes := store.values .burstSizes store.burstCount
  burstDurations := store.values .burstDurations store.burstCount
  burstIntervals := store.values .burstIntervals (store.burstCount - 1)
  burstPacketCounts := store.values .burstPacketCounts store.burstCount
  respDelays := store.memPool.memory.readArray (floatCodec D) (store.arrays .respDelays)
    store.respDelayCount
  windowPktCounts := store.values .windowPktCounts fields.window.numWindows
  windowByteCounts := store.values .windowByteCounts fields.window.numWindows
  windowBitrate := store.values .windowBitrate fields.window.numWindows
  tempUintBufferSize := store.tempUintBufferSize

end TiFeatures
