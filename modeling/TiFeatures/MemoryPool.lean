/-
This file models `utils/memory_pool.h`: the tiered pool that holds the arrays
and the circular buffers of one flow in a single block. The pool starts at the
smallest level and is replaced by a larger block when the flow approaches its
capacity. Blocks are numbered in the order of their allocation, so a pointer into
a freed block is told apart from one into the current block.
-/

import TiFeatures.Machine
import TiFeatures.Library.Arrays
import TiFeatures.Library.Layout

namespace TiFeatures

open CMemory

/-! ### Levels and sizes -/

/-- `flow_level_t`. -/
inductive FlowLevel where
  | tiny
  | small
  | medium
  | large
  deriving DecidableEq

/-- The value of the enumerator. -/
def FlowLevel.rank : FlowLevel → Nat
  | .tiny => 0
  | .small => 1
  | .medium => 2
  | .large => 3

/-- `(flow_level_t)((int)level + 1)`, if it is at most `FLOW_LEVEL_LARGE`. -/
def FlowLevel.next : FlowLevel → Option FlowLevel
  | .tiny => some .small
  | .small => some .medium
  | .medium => some .large
  | .large => none

/-- `flow_mem_level_to_seq_len`. -/
def flowMemLevelToSeqLen : FlowLevel → Nat
  | .tiny => 64
  | .small => 256
  | .medium => 1000
  | .large => 5000

/-- The dynamic arrays of a pool. -/
inductive ArrayId where
  | fwdPktLens
  | bwdPktLens
  | fwdIats
  | bwdIats
  | fwdPayloadSizes
  | bwdPayloadSizes
  | windowPktCounts
  | windowByteCounts
  | windowBitrate
  | burstSizes
  | burstDurations
  | burstIntervals
  | burstPacketCounts
  | respDelays
  deriving DecidableEq

/-- `sizeof` the element type of an array. -/
def ArrayId.width : ArrayId → Nat
  | .fwdPktLens | .bwdPktLens | .fwdPayloadSizes | .bwdPayloadSizes => 4
  | .windowPktCounts | .windowByteCounts | .windowBitrate => 4
  | .burstSizes | .burstPacketCounts => 4
  | .fwdIats | .bwdIats | .burstDurations | .burstIntervals | .respDelays => 8

/-- The arrays in the order in which the pool lays them out. -/
def arrayOrder : List ArrayId :=
  [.fwdPktLens, .bwdPktLens, .fwdIats, .bwdIats, .fwdPayloadSizes, .bwdPayloadSizes,
    .windowPktCounts, .windowByteCounts, .windowBitrate,
    .burstSizes, .burstDurations, .burstIntervals, .burstPacketCounts, .respDelays]

/-- The number of elements of an array. -/
def ArrayId.length (seqLen numWindows respDelayCapacity : Nat) : ArrayId → Nat
  | .windowPktCounts | .windowByteCounts | .windowBitrate => numWindows
  | .respDelays => respDelayCapacity
  | _ => seqLen

/-- The number of bytes of an array. -/
def ArrayId.bytes (seqLen numWindows respDelayCapacity : Nat) (array : ArrayId) : Nat :=
  array.length seqLen numWindows respDelayCapacity * array.width

/-- `flow_mem_pool_calc_size_ex`. -/
def flowMemPoolCalcSizeEx (level : FlowLevel) (numWindows respDelayCapacity : Nat) : Nat :=
  let seqLen := flowMemLevelToSeqLen level
  let size := seqLen * 4 + seqLen * 4 + seqLen * 8 + seqLen * 8 + seqLen * 4 + seqLen * 4
  let size := size + numWindows * 4 + numWindows * 4 + numWindows * 4
  let size := size + seqLen * 4 + seqLen * 8 + seqLen * 8 + seqLen * 4
  let size := size + respDelayCapacity * 8
  let size := size + 5 * seqLen * 4 + 4 * seqLen * 8 + 1 * seqLen * 1 + 4 * seqLen * 4
  let size := size + 8192
  (size + 63) / 64 * 64

/-! ### The pool -/

variable {D : Type}

/-- `flow_mem_pool_t`. The block `dynamic_mem` points to is part of it. -/
structure FlowMemPool (D : Type) where
  memory : Block D
  dynamicMem : Ptr
  dynamicMemSize : Nat
  dynamicMemOffset : Nat
  tempMem : Ptr
  tempMemSize : Nat
  tempMemOffset : Nat
  arrays : ArrayId → Ptr
  ringBufferData : Ptr
  ringBufferSize : Nat
  level : FlowLevel
  actualSeqLen : Nat
  currentPktCount : Nat
  needsUpgrade : Bool
  numWindows : Nat
  respDelayCapacity : Nat

/-- `flow_mem_pool_init_ex`, with the block that `malloc` returns, if it returns one. -/
def flowMemPoolInitEx (level : FlowLevel) (numWindows respDelayCapacity : Nat)
    (block : Option Nat) : Option (FlowMemPool D) :=
  block.map fun id =>
    let seqLen := flowMemLevelToSeqLen level
    let totalSize := flowMemPoolCalcSizeEx level numWindows respDelayCapacity
    let carved := Layout.carve (ArrayId.bytes seqLen numWindows respDelayCapacity) arrayOrder 0
      (fun _ => 0)
    { memory := Block.zeroed id totalSize
      dynamicMem := ⟨id, 0⟩
      dynamicMemSize := totalSize
      dynamicMemOffset := carved.2
      tempMem := ⟨id, totalSize - 8192⟩
      tempMemSize := 8192
      tempMemOffset := 0
      arrays := fun array => ⟨id, carved.1 array⟩
      ringBufferData := ⟨id, carved.2⟩
      ringBufferSize := totalSize - carved.2 - 8192
      level
      actualSeqLen := seqLen
      currentPktCount := 0
      needsUpgrade := false
      numWindows
      respDelayCapacity }

/-- `flow_mem_pool_check_upgrade`: the pool after the call and whether it must be upgraded. -/
def flowMemPoolCheckUpgrade (pool : FlowMemPool D) : FlowMemPool D × Bool :=
  if pool.level = .large then ({ pool with needsUpgrade := false }, false)
  else
    let count := if pool.currentPktCount < 2 ^ 32 - 1 then pool.currentPktCount + 1
      else pool.currentPktCount
    let counted := { pool with currentPktCount := count }
    let threshold := pool.actualSeqLen * 8 / 10
    let threshold := if threshold == 0 then 1 else threshold
    if count ≥ threshold then
      match pool.level.next with
      | some _ => ({ counted with needsUpgrade := true }, true)
      | none => (counted, false)
    else (counted, false)

/-- `flow_mem_pool_alloc_temp`: the pool after the call and the pointer it returns. -/
def flowMemPoolAllocTemp (pool : FlowMemPool D) (size alignment : Nat) :
    FlowMemPool D × Option Ptr :=
  if size == 0 then (pool, none)
  else if size > pool.tempMemSize then (pool, none)
  else
    let offset := if alignment > 1 then (pool.tempMemOffset + alignment - 1) / alignment * alignment
      else pool.tempMemOffset
    let offset := if offset + size > pool.tempMemSize then 0 else offset
    ({ pool with tempMemOffset := offset + size }, some (pool.tempMem.add offset))

/-- `flow_mem_pool_get_ring_buffer`. -/
def flowMemPoolGetRingBuffer (pool : FlowMemPool D) (offset : Nat) : Option Ptr :=
  if offset ≥ pool.ringBufferSize then none else some (pool.ringBufferData.add offset)

/-- The number of elements `flow_mem_pool_upgrade` copies of an array: as many as both levels
have for a sequence array, all of them for the others. -/
def ArrayId.copied (oldSeqLen newSeqLen numWindows respDelayCapacity : Nat) (array : ArrayId) :
    Nat :=
  array.length (min oldSeqLen newSeqLen) numWindows respDelayCapacity

/-- `UPGRADE_SEQ_ARRAY` and `UPGRADE_FIXED_ARRAY`: place an array in the new block and copy the
old elements to it. -/
def upgradeArray (pool : FlowMemPool D) (newSeqLen : Nat)
    (state : Block D × (ArrayId → Ptr) × Nat) (array : ArrayId) :
    Block D × (ArrayId → Ptr) × Nat :=
  let (memory, arrays, offset) := state
  let target : Ptr := ⟨memory.id, offset⟩
  let copied := array.copied pool.actualSeqLen newSeqLen pool.numWindows pool.respDelayCapacity
  let memory := if copied > 0 then
      memory.copyFrom target pool.memory (pool.arrays array) (copied * array.width)
    else memory
  (memory, Function.update arrays array target,
    offset + array.bytes newSeqLen pool.numWindows pool.respDelayCapacity)

/-- The copy of the raw ring area, as far as both areas reach. -/
def upgradeRingArea (pool : FlowMemPool D) (memory : Block D) (ringBufferData : Ptr)
    (ringBufferSize : Nat) : Block D :=
  if pool.ringBufferSize > 0 ∧ ringBufferSize > 0 then
    memory.copyFrom ringBufferData pool.memory pool.ringBufferData
      (min pool.ringBufferSize ringBufferSize)
  else memory

/-- The last part of `flow_mem_pool_upgrade`: the fields of the pool once the arrays have been
placed and copied. -/
def upgradedPool (pool : FlowMemPool D) (newLevel : FlowLevel) (memory : Block D)
    (arrays : ArrayId → Ptr) (offset : Nat) : FlowMemPool D :=
  let newSize := flowMemPoolCalcSizeEx newLevel pool.numWindows pool.respDelayCapacity
  let ringBufferData : Ptr := ⟨memory.id, offset⟩
  let ringBufferSize := newSize - offset - 8192
  { pool with
    memory := upgradeRingArea pool memory ringBufferData ringBufferSize
    dynamicMem := ⟨memory.id, 0⟩
    dynamicMemSize := newSize
    dynamicMemOffset := offset
    tempMem := ⟨memory.id, newSize - 8192⟩
    tempMemSize := 8192
    tempMemOffset := 0
    arrays
    ringBufferData
    ringBufferSize
    level := newLevel
    actualSeqLen := flowMemLevelToSeqLen newLevel
    needsUpgrade := false }

/-- The zeroed block of an upgrade. -/
def upgradeBlock (pool : FlowMemPool D) (newLevel : FlowLevel) : Block D :=
  { Block.zeroed (pool.memory.id + 1)
      (flowMemPoolCalcSizeEx newLevel pool.numWindows pool.respDelayCapacity) with
    fault := pool.memory.fault }

/-- `flow_mem_pool_upgrade`: the upgraded pool, or `none` with the pool unchanged. The flag says
whether `malloc` returns a block. -/
def flowMemPoolUpgrade (pool : FlowMemPool D) (newLevel : FlowLevel) (mallocOk : Bool) :
    Option (FlowMemPool D) :=
  if newLevel.rank ≤ pool.level.rank then none
  else if !mallocOk then none
  else
    let placed := arrayOrder.foldl (upgradeArray pool (flowMemLevelToSeqLen newLevel))
      (upgradeBlock pool newLevel, pool.arrays, 0)
    some (upgradedPool pool newLevel placed.1 placed.2.1 placed.2.2)

end TiFeatures
