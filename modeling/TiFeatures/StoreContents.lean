/-
This file proves that the memory of a flow keeps its layout and that every
access of the per-packet code has the effect on the stored values that it is
meant to have: a push slides one sequence, an append fills one array, and
nothing else changes.
-/

import TiFeatures.PoolLayout
import TiFeatures.Store

namespace TiFeatures

open CMemory BoundedStore

variable {D : Type}

/-! ### What a flow holds -/

/-- The values a flow holds, without the memory they lie in. -/
@[ext]
structure FlowContents (D : Type) where
  seqs : SeqId → List Nat
  arrays : ArrayId → List Nat
  respDelays : List D
  firstNLens : List Nat

/-- How many elements of a pool array are in use. The response delays are not integers and are
kept apart. -/
def Store.arrayCount (store : Store D) : ArrayId → Nat
  | .fwdPktLens => store.dirCount .fwdPktLens
  | .bwdPktLens => store.dirCount .bwdPktLens
  | .fwdIats => store.dirCount .fwdIats
  | .bwdIats => store.dirCount .bwdIats
  | .fwdPayloadSizes => store.dirCount .fwdPayloadSizes
  | .bwdPayloadSizes => store.dirCount .bwdPayloadSizes
  | .windowPktCounts | .windowByteCounts | .windowBitrate => poolNumWindows
  | .burstSizes | .burstDurations | .burstPacketCounts => store.burstCount
  | .burstIntervals => store.burstCount - 1
  | .respDelays => 0

/-- The values a store holds. -/
def Store.contents [Double D] (store : Store D) : FlowContents D where
  seqs := store.seqValues
  arrays := fun array => store.values array (store.arrayCount array)
  respDelays := store.memPool.memory.readArray (floatCodec D) (store.arrays .respDelays)
    store.respDelayCount
  firstNLens := store.firstNLens.readArray (unsignedCodec D 4) ⟨store.firstNLens.id, 0⟩
    store.firstNCount

/-- A value as an element of an array keeps it. -/
def ArrayId.stored (array : ArrayId) (value : Nat) : Nat := value % 256 ^ array.width

/-- A value as an element of a circular buffer keeps it. -/
def SeqId.stored (seq : SeqId) (value : Nat) : Nat := value % 256 ^ seq.elemSize

/-- Record a burst in the four burst arrays. -/
def FlowContents.recordBurst (contents : FlowContents D) (seqLen byteCount duration pktCount
    interval : Nat) : FlowContents D :=
  if (contents.arrays .burstSizes).length < seqLen then
    { contents with
      arrays := fun array =>
        match array with
        | .burstSizes => contents.arrays .burstSizes ++ [ArrayId.stored .burstSizes byteCount]
        | .burstDurations =>
          contents.arrays .burstDurations ++ [ArrayId.stored .burstDurations duration]
        | .burstPacketCounts =>
          contents.arrays .burstPacketCounts ++ [ArrayId.stored .burstPacketCounts pktCount]
        | .burstIntervals =>
          if (contents.arrays .burstSizes).length > 0 then
            contents.arrays .burstIntervals ++ [ArrayId.stored .burstIntervals interval]
          else contents.arrays .burstIntervals
        | other => contents.arrays other }
  else contents

/-- An access on the values a flow holds, for a pool with sequences of the given length. -/
def FlowContents.access (seqLen firstNCapacity : Nat) (contents : FlowContents D) :
    Access D → FlowContents D
  | .push seq value =>
    { contents with
      seqs := Function.update contents.seqs seq
        (slide seqLen (contents.seqs seq) (seq.stored value)) }
  | .append array value =>
    { contents with
      arrays := Function.update contents.arrays array.arrayId
        (fill seqLen (contents.arrays array.arrayId) (array.arrayId.stored value)) }
  | .appendFirstN pktLen =>
    { contents with firstNLens := fill firstNCapacity contents.firstNLens (pktLen % 256 ^ 4) }
  | .recordBurst byteCount duration pktCount interval =>
    contents.recordBurst seqLen byteCount duration pktCount interval
  | .appendRespDelay delay =>
    { contents with respDelays := fill poolRespDelayCapacity contents.respDelays delay }
  | .setWindowBitrate window windowSizeUs =>
    { contents with
      arrays := Function.update contents.arrays .windowBitrate
        ((contents.arrays .windowBitrate).set window
          (u32 (u64 ((contents.arrays .windowByteCounts).getD window 0 * 8 * 1000000) /
            windowSizeUs))) }
  | .countWindow window pktLen =>
    { contents with
      arrays := fun array =>
        match array with
        | .windowPktCounts => (contents.arrays .windowPktCounts).set window
            (u32 ((contents.arrays .windowPktCounts).getD window 0 + 1))
        | .windowByteCounts => (contents.arrays .windowByteCounts).set window
            (u32 ((contents.arrays .windowByteCounts).getD window 0 + pktLen))
        | other => contents.arrays other }

/-- The windows an access names exist. -/
def Access.Valid : Access D → Prop
  | .setWindowBitrate window _ => window < poolNumWindows
  | .countWindow window _ => window < poolNumWindows
  | _ => True

/-! ### The invariant of a store -/

/-- The number of elements a pool array has room for. -/
def Store.arrayLength (store : Store D) (array : ArrayId) : Nat :=
  array.length store.memPool.actualSeqLen poolNumWindows poolRespDelayCapacity

/-- The pointers, counts and capacities of a store agree with its pool, and no store has left its
block. -/
structure Store.WellFormed (store : Store D) : Prop where
  pool : store.memPool.WellFormed
  fault_eq : store.memPool.memory.fault = false
  numWindows_eq : store.memPool.numWindows = poolNumWindows
  poolRespDelayCapacity_eq : store.memPool.respDelayCapacity = poolRespDelayCapacity
  arrays_eq : store.arrays = store.memPool.arrays
  dirCapacity_eq : ∀ array, store.dirCapacity array = store.memPool.actualSeqLen
  dirCount_le : ∀ array, store.dirCount array ≤ store.memPool.actualSeqLen
  seq : ∀ seq, (store.seqs seq).WellFormed store.memPool.memory
    ((Region.seq seq).ptr store.memPool.shape store.memPool.memory.id)
  elemSize_eq : ∀ seq, (store.seqs seq).elemSize = seq.elemSize
  capacity_eq : ∀ seq, (store.seqs seq).capacity = store.memPool.actualSeqLen
  burstCount_le : store.burstCount ≤ store.memPool.actualSeqLen
  respDelayCapacity_eq : store.respDelayCapacity = poolRespDelayCapacity
  respDelayCount_le : store.respDelayCount ≤ poolRespDelayCapacity
  tempSize_eq : store.tempUintBufferSize = min store.memPool.actualSeqLen 512
  tempBuffer_eq : store.tempDoubleBuffer = some store.memPool.tempMem
  tempBuffer2_eq :
    store.tempDoubleBuffer2 = some (store.memPool.tempMem.add (store.tempUintBufferSize * 8))
  firstNSize_eq : store.firstNLens.size = store.firstNCapacity * 4
  firstNFault_eq : store.firstNLens.fault = false
  firstNCount_le : store.firstNCount ≤ store.firstNCapacity

namespace Store.WellFormed

variable {store : Store D}

theorem shape_eq (wellFormed : store.WellFormed) : store.memPool.shape =
    ⟨store.memPool.actualSeqLen, poolNumWindows, poolRespDelayCapacity⟩ := by
  rw [FlowMemPool.shape, wellFormed.numWindows_eq, wellFormed.poolRespDelayCapacity_eq]

theorem array_ptr (wellFormed : store.WellFormed) (array : ArrayId) : store.arrays array =
    (Region.array array).ptr store.memPool.shape store.memPool.memory.id := by
  rw [wellFormed.arrays_eq, wellFormed.pool.arrays_eq]

theorem arrayBytes_eq (wellFormed : store.WellFormed) (array : ArrayId) :
    store.memPool.shape.arrayBytes array = store.arrayLength array * array.width := by
  rw [wellFormed.shape_eq]
  rfl

/-- An array lies inside the block. -/
theorem array_fits (wellFormed : store.WellFormed) (array : ArrayId) :
    store.memPool.memory.Fits (store.arrays array) (store.arrayLength array * array.width) := by
  rw [wellFormed.array_ptr, ← wellFormed.arrayBytes_eq]
  exact wellFormed.pool.fits (.array array)

theorem arrayCount_le (wellFormed : store.WellFormed) (array : ArrayId) :
    store.arrayCount array ≤ store.arrayLength array := by
  have := wellFormed.dirCount_le
  have := wellFormed.burstCount_le
  cases array with
  | windowPktCounts => exact le_refl _
  | windowByteCounts => exact le_refl _
  | windowBitrate => exact le_refl _
  | respDelays => exact Nat.zero_le _
  | burstIntervals => exact (Nat.sub_le _ _).trans wellFormed.burstCount_le
  | burstSizes => exact wellFormed.burstCount_le
  | burstDurations => exact wellFormed.burstCount_le
  | burstPacketCounts => exact wellFormed.burstCount_le
  | _ => exact wellFormed.dirCount_le _

/-- The layout survives a change of the contents of the block. -/
theorem withMemory (wellFormed : store.WellFormed) {memory : Block D}
    (id_eq : memory.id = store.memPool.memory.id)
    (size_eq : memory.size = store.memPool.memory.size) (fault_eq : memory.fault = false) :
    (store.withMemory memory).WellFormed where
  pool :=
    { seqLen_eq := wellFormed.pool.seqLen_eq
      size_eq := size_eq.trans wellFormed.pool.size_eq
      arrays_eq := fun array => (wellFormed.pool.arrays_eq array).trans
        (congrArg (Region.ptr _ _) id_eq.symm)
      ringBufferData_eq := wellFormed.pool.ringBufferData_eq.trans
        (congrArg (Ptr.mk · _) id_eq.symm)
      ringBufferSize_eq := wellFormed.pool.ringBufferSize_eq.trans
        (congrArg (· - _ - 8192) size_eq.symm)
      tempMem_eq := wellFormed.pool.tempMem_eq.trans
        (congrArg₂ Ptr.mk id_eq.symm (congrArg (· - 8192) size_eq.symm))
      tempMemSize_eq := wellFormed.pool.tempMemSize_eq }
  fault_eq := fault_eq
  numWindows_eq := wellFormed.numWindows_eq
  poolRespDelayCapacity_eq := wellFormed.poolRespDelayCapacity_eq
  arrays_eq := wellFormed.arrays_eq
  dirCapacity_eq := wellFormed.dirCapacity_eq
  dirCount_le := wellFormed.dirCount_le
  seq := fun seq => by
    have moved := (wellFormed.seq seq).transfer id_eq size_eq
    rw [← id_eq] at moved
    exact moved
  elemSize_eq := wellFormed.elemSize_eq
  capacity_eq := wellFormed.capacity_eq
  burstCount_le := wellFormed.burstCount_le
  respDelayCapacity_eq := wellFormed.respDelayCapacity_eq
  respDelayCount_le := wellFormed.respDelayCount_le
  tempSize_eq := wellFormed.tempSize_eq
  tempBuffer_eq := wellFormed.tempBuffer_eq
  tempBuffer2_eq := wellFormed.tempBuffer2_eq
  firstNSize_eq := wellFormed.firstNSize_eq
  firstNFault_eq := wellFormed.firstNFault_eq
  firstNCount_le := wellFormed.firstNCount_le

end Store.WellFormed

/-! ### Reading a region -/

section Regions

variable {store : Store D} {memory : Block D}

/-- A block holds the same cells as the block of a store in one of its regions. -/
def Store.SameRegion (store : Store D) (memory : Block D) (region : Region) : Prop :=
  ∀ offset < region.bytes store.memPool.shape,
    memory.cellAt (region.ptr store.memPool.shape store.memPool.memory.id) offset =
      store.memPool.memory.cellAt (region.ptr store.memPool.shape store.memPool.memory.id) offset

theorem Store.WellFormed.values_congr (wellFormed : store.WellFormed) {array : ArrayId}
    (same : store.SameRegion memory (.array array)) {count : Nat}
    (short : count ≤ store.arrayLength array) :
    (store.withMemory memory).values array count = store.values array count := by
  refine Block.readArray_congr fun offset inside => ?_
  rw [show (store.withMemory memory).arrays array = store.arrays array from rfl,
    wellFormed.array_ptr]
  refine same offset ?_
  have wider : count * array.width ≤ store.memPool.shape.arrayBytes array := by
    rw [wellFormed.arrayBytes_eq]
    exact Nat.mul_le_mul_right _ short
  exact inside.trans_le wider

theorem Store.WellFormed.respDelays_congr [Double D] (wellFormed : store.WellFormed)
    (same : store.SameRegion memory (.array .respDelays)) :
    (store.withMemory memory).contents.respDelays = store.contents.respDelays := by
  refine Block.readArray_congr fun offset inside => ?_
  rw [show (store.withMemory memory).arrays .respDelays = store.arrays .respDelays from rfl,
    wellFormed.array_ptr]
  refine same offset ?_
  have wider : store.respDelayCount * 8 ≤ store.memPool.shape.arrayBytes .respDelays := by
    rw [wellFormed.arrayBytes_eq]
    exact Nat.mul_le_mul_right _ wellFormed.respDelayCount_le
  exact inside.trans_le wider

/-- What `circular_buffer_get_array` returns for a well-formed buffer. -/
theorem Store.WellFormed.seqValues_eq (wellFormed : store.WellFormed) (seq : SeqId) :
    store.seqValues seq = ((store.seqs seq).contents store.memPool.memory
      ((Region.seq seq).ptr store.memPool.shape store.memPool.memory.id)).map decodeUnsigned := by
  have buffer := wellFormed.seq seq
  have sized : ((store.seqs seq).elemSize == 0) = false :=
    beq_eq_false_iff_ne.mpr buffer.elemSize_pos.ne'
  simp only [Store.seqValues, circularBufferGetArray, buffer.data_eq]
  by_cases empty : (store.seqs seq).count = 0
  · simp [empty, CircularBuffer.contents]
  · simp [empty, sized, CircularBuffer.contents]

theorem Store.WellFormed.seqValues_congr (wellFormed : store.WellFormed) {seq : SeqId}
    (id_eq : memory.id = store.memPool.memory.id)
    (size_eq : memory.size = store.memPool.memory.size) (fault_eq : memory.fault = false)
    (same : store.SameRegion memory (.seq seq)) :
    (store.withMemory memory).seqValues seq = store.seqValues seq := by
  rw [(wellFormed.withMemory id_eq size_eq fault_eq).seqValues_eq, wellFormed.seqValues_eq]
  refine congrArg (List.map decodeUnsigned) ?_
  have moved := CircularBuffer.contents_congr (wellFormed.seq seq)
    fun offset inside => same offset (by
      rw [wellFormed.capacity_eq, wellFormed.elemSize_eq] at inside
      exact inside)
  rw [← moved]
  exact congrArg (CircularBuffer.contents _ memory) (congrArg (Region.ptr _ _) id_eq)

end Regions

/-! ### Writing an array element -/

section Write

variable {store : Store D} {array : ArrayId} {index : Nat} (value : Nat)

theorem Store.WellFormed.write_fault (wellFormed : store.WellFormed)
    (inside : index < store.arrayLength array) :
    (store.write array index value).memPool.memory.fault = false := by
  have fits : store.memPool.memory.Fits (store.arrays array)
      (store.arrayLength array * (array.codec D).width) := wellFormed.array_fits array
  exact (Block.writeAt_fault inside fits).trans wellFormed.fault_eq

theorem Store.WellFormed.write (wellFormed : store.WellFormed)
    (inside : index < store.arrayLength array) :
    (store.write array index value).WellFormed :=
  wellFormed.withMemory (Block.writeAt_id _ _ _ _ _) (Block.writeAt_size _ _ _ _ _)
    (wellFormed.write_fault value inside)

/-- A write to one array leaves every other region. -/
theorem Store.WellFormed.write_sameRegion (wellFormed : store.WellFormed)
    (inside : index < store.arrayLength array) {region : Region}
    (other : region ≠ .array array) :
    store.SameRegion (store.write array index value).memPool.memory region := by
  intro offset within
  show (store.memPool.memory.writeAt (array.codec D) _ _ _).cellAt _ _ = _
  refine Block.cellAt_writeAt_other inside ?_
  have apart := region_disjoint store.memPool.shape other
  rw [show (Region.array array).bytes store.memPool.shape =
    store.memPool.shape.arrayBytes array from rfl, wellFormed.arrayBytes_eq] at apart
  rw [wellFormed.array_ptr]
  simp only [Region.ptr, ArrayId.codec, unsignedCodec_width]
  omega

theorem Store.WellFormed.values_write_ne (wellFormed : store.WellFormed)
    (inside : index < store.arrayLength array) {other : ArrayId} (different : other ≠ array)
    {count : Nat} (short : count ≤ store.arrayLength other) :
    (store.write array index value).values other count = store.values other count :=
  wellFormed.values_congr (wellFormed.write_sameRegion value inside fun same =>
    different (Region.array.inj same)) short

theorem Store.WellFormed.seqValues_write (wellFormed : store.WellFormed)
    (inside : index < store.arrayLength array) (seq : SeqId) :
    (store.write array index value).seqValues seq = store.seqValues seq :=
  wellFormed.seqValues_congr (Block.writeAt_id _ _ _ _ _) (Block.writeAt_size _ _ _ _ _)
    (wellFormed.write_fault value inside) (wellFormed.write_sameRegion value inside (by simp))

theorem Store.WellFormed.respDelays_write [Double D] (wellFormed : store.WellFormed)
    (inside : index < store.arrayLength array) (different : array ≠ .respDelays) :
    (store.write array index value).contents.respDelays = store.contents.respDelays :=
  wellFormed.respDelays_congr (wellFormed.write_sameRegion value inside fun same =>
    different (Region.array.inj same).symm)

theorem Store.WellFormed.values_write_append (wellFormed : store.WellFormed)
    (inside : index < store.arrayLength array) :
    (store.write array index value).values array (index + 1) =
      store.values array index ++ [array.stored value] := by
  have fits : store.memPool.memory.Fits (store.arrays array)
      (store.arrayLength array * (array.codec D).width) := wellFormed.array_fits array
  refine (Block.readArray_writeAt_append inside fits).trans ?_
  rw [ArrayId.codec, unsignedCodec_stored]
  rfl

theorem Store.WellFormed.values_write_set (wellFormed : store.WellFormed)
    (inside : index < store.arrayLength array) (count : Nat) :
    (store.write array index value).values array count =
      (store.values array count).set index (array.stored value) := by
  have fits : store.memPool.memory.Fits (store.arrays array)
      (store.arrayLength array * (array.codec D).width) := wellFormed.array_fits array
  refine (Block.readArray_writeAt_set inside fits).trans ?_
  rw [ArrayId.codec, unsignedCodec_stored]
  rfl

theorem Store.read_eq (store : Store D) {array : ArrayId} {index count : Nat}
    (inside : index < count) :
    store.read array index = (store.values array count).getD index 0 := by
  have bound : index < (store.values array count).length := by
    rw [Store.values, Block.readArray_length]
    exact inside
  rw [List.getD_eq_getElem?_getD, List.getElem?_eq_getElem bound, Option.getD_some]
  exact (Block.readArray_getElem _ _ _ _ _ _).symm

theorem Store.length_values (store : Store D) (array : ArrayId) (count : Nat) :
    (store.values array count).length = count := Block.readArray_length _ _ _ _

end Write

end TiFeatures
