/-
This file proves what the initialisation and the upgrades of a flow's store do.
A fresh store is well formed and empty. An upgrade keeps the store well formed
and keeps its values, except that a circular buffer whose snapshot could not be
allocated comes back empty.
-/

import TiFeatures.StoreContents

namespace TiFeatures

open CMemory Layout

variable {D : Type}

/-! ### Temporary buffers -/

/-- Binding the temporary buffers takes the front of the temporary area. -/
theorem flowStateBindTempBuffers_eq (store : Store D) (size_eq : store.memPool.tempMemSize = 8192)
    (offset_eq : store.memPool.tempMemOffset = 0) {seqLen : Nat} (positive : 0 < seqLen) :
    flowStateBindTempBuffers store seqLen =
      { store with
        memPool := { store.memPool with tempMemOffset := min seqLen 512 * 16 }
        tempDoubleBuffer := some store.memPool.tempMem
        tempDoubleBuffer2 := some (store.memPool.tempMem.add (min seqLen 512 * 8))
        tempUintBufferSize := min seqLen 512 } := by
  have bounded : (if seqLen < 512 then seqLen else 512) = min seqLen 512 := by
    split <;> omega
  have nonzero : min seqLen 512 ≠ 0 := by omega
  have sized : (min seqLen 512 * 16 == 0) = false := beq_eq_false_iff_ne.mpr (by omega)
  have fits : ¬ min seqLen 512 * 16 > 8192 := by omega
  have fromStart : ¬ (0 + 8 - 1) / 8 * 8 + min seqLen 512 * 16 > 8192 := by omega
  simp only [flowStateBindTempBuffers, flowMemPoolAllocTemp, size_eq, offset_eq,
    show 8192 / 16 = 512 from rfl, bounded, if_neg nonzero, sized, Bool.false_eq_true, if_false,
    if_neg fits, show 8 > 1 from by decide, if_true, if_neg fromStart]
  simp [Ptr.add]

/-! ### Buffers filled from the start -/

/-- A buffer that holds its elements from the start of its range on. -/
def filledBuffer (data : Ptr) (elemSize capacity count : Nat) : CircularBuffer :=
  { emptyBuffer data elemSize capacity with
    count
    tail := 0
    head := count % capacity
    isFull := count == capacity }

theorem emptyBuffer_eq {data : Ptr} {elemSize capacity : Nat} (positive : 0 < capacity) :
    emptyBuffer data elemSize capacity = filledBuffer data elemSize capacity 0 := by
  have notFull : (0 == capacity) = false := beq_eq_false_iff_ne.mpr positive.ne
  simp only [filledBuffer, emptyBuffer, Nat.zero_mod, notFull]

theorem filledBuffer_wellFormed {block : Block D} {data : Ptr} {elemSize capacity count : Nat}
    (fits : block.Fits data (capacity * elemSize)) (elemSize_pos : 0 < elemSize)
    (capacity_pos : 0 < capacity) (capacity_le : capacity ≤ 2 ^ 31) (within : count ≤ capacity) :
    (filledBuffer data elemSize capacity count).WellFormed block data where
  data_eq := rfl
  fits := fits
  elemSize_pos := elemSize_pos
  capacity_pos := capacity_pos
  capacity_le := capacity_le
  count_le := within
  isFull_iff := beq_iff_eq
  tail_lt := capacity_pos
  head_lt := Nat.mod_lt _ capacity_pos
  head_full := fun full => by
    have last : count = capacity := beq_iff_eq.mp full
    simp only [filledBuffer, last, Nat.mod_self]
  head_partial := fun isPartial => by
    have notLast : count ≠ capacity := beq_eq_false_iff_ne.mp isPartial
    exact ⟨Nat.mod_eq_of_lt (Nat.lt_of_le_of_ne within notLast), rfl⟩

/-- Such a buffer holds the elements that lie one after the other in its range. -/
theorem filledBuffer_contents {block : Block D} {data : Ptr} {elemSize capacity : Nat}
    {elems : List (List (Cell D))} (capacity_le : capacity ≤ 2 ^ 31)
    (within : elems.length ≤ capacity) (widths : ∀ elem ∈ elems, elem.length = elemSize)
    (flat : block.load data (elems.length * elemSize) = elems.flatten) :
    (filledBuffer data elemSize capacity elems.length).contents block data = elems := by
  refine Eq.trans (List.map_congr_left fun index member => ?_) (Block.load_elements widths flat)
  have inside : index < elems.length := List.mem_range.mp member
  have slot_eq : (filledBuffer data elemSize capacity elems.length).slot index = index := by
    rw [CircularBuffer.slot]
    split
    · simp only [filledBuffer, emptyBuffer, Nat.zero_add]
      rw [u32_of_lt (by omega), Nat.mod_eq_of_lt (by omega)]
    · rfl
  rw [slot_eq]
  rfl

/-! ### Initialisation -/

/-- A flow that holds nothing. -/
def FlowContents.init : FlowContents D where
  seqs := fun _ => []
  arrays := fun array =>
    match array with
    | .windowPktCounts | .windowByteCounts | .windowBitrate => List.replicate poolNumWindows 0
    | _ => []
  respDelays := []
  firstNLens := []

/-- Binding buffers one after the other. -/
theorem foldlM_initRingBuffer (pool : FlowMemPool D) {seqLen : Nat} (positive : 0 < seqLen)
    {remaining : List SeqId} (distinct : remaining.Nodup) (seqs : SeqId → CircularBuffer)
    (offset : Nat)
    (room : offset + totalSize (fun seq : SeqId => seqLen * seq.elemSize) remaining ≤
      pool.ringBufferSize) :
    ∃ bound, remaining.foldlM (initRingBuffer pool seqLen) (seqs, offset) = some bound ∧
      ∀ seq, bound.1 seq =
        if seq ∈ remaining then
          emptyBuffer (pool.ringBufferData.add
            (offset + offsetOf (fun seq : SeqId => seqLen * seq.elemSize) remaining seq))
            seq.elemSize seqLen
        else seqs seq := by
  induction remaining generalizing seqs offset with
  | nil => exact ⟨_, rfl, fun seq => (if_neg (List.not_mem_nil)).symm⟩
  | cons head rest inductionHypothesis =>
    obtain ⟨notRest, restDistinct⟩ := List.nodup_cons.mp distinct
    rw [totalSize, List.map_cons, List.sum_cons, ← Nat.add_assoc] at room
    have sized : 0 < seqLen * head.elemSize :=
      Nat.mul_pos positive (by cases head <;> decide)
    obtain ⟨bound, bound_eq, place⟩ := inductionHypothesis restDistinct
      (Function.update seqs head
        (emptyBuffer (pool.ringBufferData.add offset) head.elemSize seqLen))
      (offset + seqLen * head.elemSize) room
    refine ⟨bound, ?_, fun seq => ?_⟩
    · have inside : ¬ offset ≥ pool.ringBufferSize := by omega
      rw [List.foldlM_cons]
      simp only [initRingBuffer, flowMemPoolGetRingBuffer, if_neg inside, Option.map_some,
        Option.bind_eq_bind, Option.bind_some]
      exact bound_eq
    · rw [place seq]
      exact ite_mem_update notRest (fun seq : SeqId => seqLen * seq.elemSize) offset
        (fun start seq => emptyBuffer (pool.ringBufferData.add start) seq.elemSize seqLen) seqs seq

/-- What the initialisation of a flow leaves. -/
structure Store.Initial [Double D] (cfg : FeatureConfig) (store : Store D) : Prop where
  wellFormed : store.WellFormed
  contents_eq : store.contents = FlowContents.init
  level_eq : store.memPool.level = .tiny
  currentPktCount_eq : store.memPool.currentPktCount = 0
  firstNCapacity_eq : store.firstNCapacity = clampFirstN cfg.firstNPackets

/-- The allocations of the initialisation succeed. -/
def Allocs.InitOk (allocs : Allocs) : Prop :=
  allocs.firstNLens = true ∧ allocs.memPool = true ∧ allocs.dynamicMem = true

theorem flowStateInit_initial [Double D] (cfg : FeatureConfig) {allocs : Allocs}
    (succeed : allocs.InitOk) :
    ∃ store : Store D, flowStateInit cfg allocs = some store ∧ store.Initial cfg := by
  obtain ⟨firstNLensOk, memPoolOk, dynamicMemOk⟩ := succeed
  obtain ⟨pool, pool_eq⟩ : ∃ pool : FlowMemPool D,
      flowMemPoolInitEx .tiny poolNumWindows poolRespDelayCapacity (some 0) = some pool :=
    ⟨_, rfl⟩
  have poolWellFormed := flowMemPoolInitEx_wellFormed pool_eq
  obtain ⟨level_eq, seqLen_eq, memory_eq, windows_eq, delays_eq, offset_eq, count_eq⟩ :
      pool.level = .tiny ∧ pool.actualSeqLen = 64 ∧
      pool.memory = Block.zeroed 0 (flowMemPoolCalcSizeEx .tiny 100 1000) ∧
      pool.numWindows = poolNumWindows ∧ pool.respDelayCapacity = poolRespDelayCapacity ∧
      pool.tempMemOffset = 0 ∧ pool.currentPktCount = 0 := by
    obtain rfl := Option.some.inj pool_eq
    exact ⟨rfl, rfl, rfl, rfl, rfl, rfl, rfl⟩
  have positive : 0 < pool.actualSeqLen := by rw [seqLen_eq]; decide
  have ringRoom : 0 + totalSize (fun seq : SeqId => pool.actualSeqLen * seq.elemSize) seqOrder ≤
      pool.ringBufferSize := by
    have room := poolWellFormed.room
    have ring := poolWellFormed.ringBufferSize_eq
    rw [show (fun seq : SeqId => pool.actualSeqLen * seq.elemSize) = pool.shape.seqBytes from rfl]
    omega
  obtain ⟨bound, bound_eq, place⟩ := foldlM_initRingBuffer pool positive seqOrder_nodup
    (fun _ => clearedBuffer) 0 ringRoom
  have buffers : ∀ seq, bound.1 seq = filledBuffer
      ((Region.seq seq).ptr pool.shape pool.memory.id) seq.elemSize pool.actualSeqLen 0 := by
    intro seq
    rw [place seq, if_pos (mem_seqOrder seq), emptyBuffer_eq positive, Nat.zero_add,
      poolWellFormed.ringBufferData_eq]
    rfl
  have zeroed : ∀ array count, pool.memory.readArray (unsignedCodec D (ArrayId.width array))
      (pool.arrays array) count = List.replicate count 0 := by
    intro array count
    rw [memory_eq]
    exact Block.readArray_zeroed _ _ _ _ _
  have run : flowStateInit (D := D) cfg allocs = some (flowStateBindTempBuffers
      { memPool := pool
        arrays := pool.arrays
        dirCount := fun _ => 0
        dirCapacity := fun _ => pool.actualSeqLen
        seqs := bound.1
        burstCount := 0
        respDelayCount := 0
        respDelayCapacity := poolRespDelayCapacity
        tempDoubleBuffer := none
        tempDoubleBuffer2 := none
        tempUintBufferSize := 0
        firstNLens := Block.zeroed 0 (clampFirstN cfg.firstNPackets * 4)
        firstNCount := 0
        firstNCapacity := clampFirstN cfg.firstNPackets } pool.actualSeqLen) := by
    simp only [flowStateInit, firstNLensOk, memPoolOk, dynamicMemOk, pool_eq, bound_eq,
      Bool.not_true, Bool.false_eq_true, if_false, if_true, Option.map_some]
  rw [flowStateBindTempBuffers_eq _ poolWellFormed.tempMemSize_eq offset_eq positive] at run
  refine ⟨_, run, ?_, ?_, level_eq, count_eq, rfl⟩
  · exact
      { pool := { poolWellFormed with }
        fault_eq := by rw [memory_eq]; rfl
        numWindows_eq := windows_eq
        poolRespDelayCapacity_eq := delays_eq
        arrays_eq := rfl
        dirCapacity_eq := fun _ => rfl
        dirCount_le := fun _ => Nat.zero_le _
        seq := fun seq => by
          dsimp only
          rw [buffers seq]
          exact filledBuffer_wellFormed (poolWellFormed.fits (.seq seq))
            (by cases seq <;> decide) positive (by rw [seqLen_eq]; decide) (Nat.zero_le _)
        elemSize_eq := fun seq => congrArg CircularBuffer.elemSize (buffers seq)
        capacity_eq := fun seq => congrArg CircularBuffer.capacity (buffers seq)
        burstCount_le := Nat.zero_le _
        respDelayCapacity_eq := rfl
        respDelayCount_le := Nat.zero_le _
        tempSize_eq := rfl
        tempBuffer_eq := rfl
        tempBuffer2_eq := rfl
        firstNSize_eq := rfl
        firstNFault_eq := rfl
        firstNCount_le := Nat.zero_le _ }
  · refine FlowContents.ext (funext fun seq => ?_) (funext fun array => ?_) rfl rfl
    · simp [Store.contents, Store.seqValues, buffers, circularBufferGetArray, filledBuffer,
        emptyBuffer, FlowContents.init]
    · cases array <;> first | rfl | exact zeroed _ _

theorem flowStateInit_none [Double D] (cfg : FeatureConfig) {allocs : Allocs}
    (failed : ¬ allocs.InitOk) : flowStateInit (D := D) cfg allocs = none := by
  unfold flowStateInit
  cases firstN : allocs.firstNLens with
  | false => rfl
  | true =>
    cases memPool : allocs.memPool with
    | false => rfl
    | true =>
      cases dynamicMem : allocs.dynamicMem with
      | false => rfl
      | true => exact absurd ⟨firstN, memPool, dynamicMem⟩ failed

/-- The block of a flow that was just created is the first one. -/
theorem flowStateInit_id {cfg : FeatureConfig} {allocs : Allocs} {store : Store D}
    (init : flowStateInit cfg allocs = some store) : store.memPool.memory.id = 0 := by
  have bound : ∀ (store : Store D) (seqLen : Nat),
      (flowStateBindTempBuffers store seqLen).memPool.memory = store.memPool.memory := by
    intro store seqLen
    have memory : ∀ size, (flowMemPoolAllocTemp store.memPool size 8).1.memory =
        store.memPool.memory := by
      intro size
      unfold flowMemPoolAllocTemp
      split_ifs <;> rfl
    unfold flowStateBindTempBuffers
    dsimp only
    generalize (if seqLen < store.memPool.tempMemSize / 16 then seqLen
      else store.memPool.tempMemSize / 16) = bounded
    split
    · rfl
    · split <;> exact memory _
  unfold flowStateInit at init
  split at init
  · cases init
  · split at init
    · cases init
    · split at init
      · cases init
      · rename_i pool pool_eq
        obtain ⟨seqs, -, rfl⟩ := Option.map_eq_some_iff.mp init
        rw [bound]
        cases ok : allocs.dynamicMem with
        | false =>
          rw [ok] at pool_eq
          cases pool_eq
        | true =>
          rw [ok] at pool_eq
          cases pool_eq
          rfl

/-! ### Snapshots -/

/-- The snapshot of a list of elements. -/
def RingBufferSnapshot.ofElems (elemSize : Nat) (elems : List (List (Cell D))) :
    RingBufferSnapshot D :=
  if elems.length = 0 then ⟨none, 0, elemSize⟩ else ⟨some elems.flatten, elems.length, elemSize⟩

/-- A snapshot holds the elements of the buffer, or none if it could not be allocated. -/
theorem ringBufferSnapshotCapture_eq {cb : CircularBuffer} {memory : Block D} {data : Ptr}
    (wellFormed : cb.WellFormed memory data) (mallocOk : Bool) :
    ringBufferSnapshotCapture memory cb mallocOk =
      .ofElems cb.elemSize (if mallocOk then cb.contents memory data else []) := by
  have sized : (cb.elemSize == 0) = false := beq_eq_false_iff_ne.mpr wellFormed.elemSize_pos.ne'
  by_cases empty : cb.count = 0
  · have none : cb.contents memory data = [] := by
      rw [CircularBuffer.contents, empty]
      rfl
    rw [ringBufferSnapshotCapture, if_pos empty, none, ite_self]
    rfl
  · have some : (cb.count == 0 || cb.elemSize == 0) = false := by
      rw [sized, Bool.or_false]
      exact beq_eq_false_iff_ne.mpr empty
    simp only [ringBufferSnapshotCapture, if_neg empty, circularBufferGetArray,
      wellFormed.data_eq, some, Bool.false_eq_true, if_false]
    cases mallocOk with
    | false => rfl
    | true =>
      simp only [Bool.not_true, Bool.false_eq_true, if_false, if_true,
        RingBufferSnapshot.ofElems, CircularBuffer.length_contents, if_neg empty]
      rfl

/-- The number of cells of a list of elements. -/
theorem length_flatten_elems {elemSize : Nat} {elems : List (List (Cell D))}
    (widths : ∀ elem ∈ elems, elem.length = elemSize) :
    elems.flatten.length = elems.length * elemSize := by
  rw [List.length_flatten, List.map_congr_left widths, List.map_const', List.sum_replicate_nat]

/-- A rebind stores the elements of the snapshot at the start of the new range. -/
theorem ringBufferRebindFromSnapshot_eq (pool : FlowMemPool D) {capacity : Nat}
    (positive : 0 < capacity) {snaps : SeqId → RingBufferSnapshot D} {memory : Block D}
    (seqs : SeqId → CircularBuffer) {offset : Nat} (inside : offset < pool.ringBufferSize)
    (fits : memory.Fits (pool.ringBufferData.add offset) 0) {seq : SeqId}
    {elems : List (List (Cell D))} (snap_eq : snaps seq = .ofElems seq.elemSize elems)
    (within : elems.length ≤ capacity) (widths : ∀ elem ∈ elems, elem.length = seq.elemSize) :
    ringBufferRebindFromSnapshot pool capacity snaps (memory, seqs, offset) seq =
      (memory.store (pool.ringBufferData.add offset) elems.flatten,
        Function.update seqs seq (filledBuffer (pool.ringBufferData.add offset) seq.elemSize
          capacity elems.length),
        offset + capacity * seq.elemSize) := by
  simp only [ringBufferRebindFromSnapshot, flowMemPoolGetRingBuffer,
    if_neg (Nat.not_le.mpr inside), snap_eq, RingBufferSnapshot.ofElems]
  by_cases empty : elems.length = 0
  · obtain rfl := List.eq_nil_of_length_eq_zero empty
    simp only [List.length_nil, if_true, List.flatten_nil, Block.store_nil fits,
      emptyBuffer_eq positive]
  · have copied : (if elems.length < capacity then elems.length else capacity) =
        elems.length := by
      split <;> omega
    have whole : elems.flatten.take (elems.length * seq.elemSize) = elems.flatten := by
      rw [← length_flatten_elems widths, List.take_length]
    simp only [if_neg empty, Nat.pos_of_ne_zero empty, and_true, if_true, copied, whole]
    rfl

/-- Rebinding the buffers one after the other stores the elements of each at its place and
changes nothing in front of the ring area. -/
theorem foldl_ringBufferRebind (pool : FlowMemPool D) {capacity : Nat} (positive : 0 < capacity)
    {snaps : SeqId → RingBufferSnapshot D} {elems : SeqId → List (List (Cell D))}
    (snaps_eq : ∀ seq, snaps seq = .ofElems seq.elemSize (elems seq))
    (within : ∀ seq, (elems seq).length ≤ capacity)
    (widths : ∀ seq, ∀ elem ∈ elems seq, elem.length = SeqId.elemSize seq)
    {remaining : List SeqId} (distinct : remaining.Nodup) (memory : Block D)
    (seqs : SeqId → CircularBuffer) (offset : Nat)
    (sameBlock : pool.ringBufferData.block = memory.id)
    (room : offset + totalSize (fun seq : SeqId => capacity * seq.elemSize) remaining ≤
      pool.ringBufferSize)
    (inside : pool.ringBufferData.offset + pool.ringBufferSize ≤ memory.size) :
    let place := fun seq => pool.ringBufferData.add
      (offset + offsetOf (fun seq : SeqId => capacity * seq.elemSize) remaining seq)
    let result := remaining.foldl (ringBufferRebindFromSnapshot pool capacity snaps)
      (memory, seqs, offset)
    result.1.id = memory.id ∧ result.1.size = memory.size ∧ result.1.fault = memory.fault ∧
      (∀ address < pool.ringBufferData.offset + offset,
        result.1.cellAt ⟨memory.id, 0⟩ address = memory.cellAt ⟨memory.id, 0⟩ address) ∧
      (∀ seq, result.2.1 seq =
        if seq ∈ remaining then
          filledBuffer (place seq) seq.elemSize capacity (elems seq).length
        else seqs seq) ∧
      ∀ seq ∈ remaining, result.1.load (place seq) ((elems seq).length * seq.elemSize) =
        (elems seq).flatten := by
  induction remaining generalizing memory seqs offset with
  | nil =>
    refine ⟨rfl, rfl, rfl, fun _ _ => rfl, fun seq => (if_neg List.not_mem_nil).symm, ?_⟩
    intro seq member
    cases member
  | cons head rest inductionHypothesis =>
    obtain ⟨notRest, restDistinct⟩ := List.nodup_cons.mp distinct
    rw [totalSize, List.map_cons, List.sum_cons, ← Nat.add_assoc] at room
    have sized : 0 < capacity * head.elemSize := Nat.mul_pos positive (by cases head <;> decide)
    have length_eq := length_flatten_elems (widths head)
    have shorter : (elems head).length * head.elemSize ≤ capacity * head.elemSize :=
      Nat.mul_le_mul_right _ (within head)
    have fits : memory.Fits (pool.ringBufferData.add offset) (elems head).flatten.length := by
      refine ⟨sameBlock, ?_⟩
      rw [length_eq, Ptr.add_offset]
      omega
    obtain ⟨sameId, sameSize, sameFault, below, buffers, stored⟩ := inductionHypothesis
      restDistinct (memory.store (pool.ringBufferData.add offset) (elems head).flatten)
      (Function.update seqs head (filledBuffer (pool.ringBufferData.add offset) head.elemSize
        capacity (elems head).length))
      (offset + capacity * head.elemSize) (sameBlock.trans (Block.store_id _ _ _).symm) room
      (by rwa [Block.store_size])
    rw [List.foldl_cons, ringBufferRebindFromSnapshot_eq pool positive seqs (by omega)
      ⟨sameBlock, by rw [Ptr.add_offset]; omega⟩ (snaps_eq head) (within head) (widths head)]
    rw [Block.store_id] at sameId below
    dsimp only
    refine ⟨sameId, sameSize.trans (Block.store_size _ _ _),
      sameFault.trans (Block.store_fault fits), fun address isBelow => ?_, fun seq => ?_,
      fun seq member => ?_⟩
    · rw [below address (by omega)]
      exact Block.cellAt_store_other (Or.inl (by rw [Nat.zero_add]; exact isBelow))
    · rw [buffers seq]
      exact ite_mem_update notRest (fun seq : SeqId => capacity * seq.elemSize) offset
        (fun start seq => filledBuffer (pool.ringBufferData.add start) seq.elemSize capacity
          (elems seq).length) seqs seq
    · by_cases isHead : seq = head
      · subst isHead
        rw [offsetOf, if_pos rfl, Nat.add_zero, ← length_eq]
        refine Eq.trans (Block.load_congr fun index isInside => ?_) (Block.load_store_same fits)
        have kept := below (pool.ringBufferData.offset + offset + index) (by omega)
        simpa only [Block.cellAt, Ptr.add_block, Ptr.add_offset, sameBlock, sameId, Block.store_id,
          Nat.zero_add] using kept
      · rw [offsetOf, if_neg isHead, ← Nat.add_assoc]
        exact stored seq ((List.mem_cons.mp member).resolve_left isHead)

/-! ### Upgrades -/

section Upgrade

variable [Double D] {store : Store D}

/-- The values after an upgrade: a circular buffer without a snapshot comes back empty. -/
def FlowContents.rebound (contents : FlowContents D) (snapshot : SeqId → Bool) :
    FlowContents D :=
  { contents with seqs := fun seq => if snapshot seq then contents.seqs seq else [] }

/-- What an upgrade to a level does to a store. -/
structure Store.UpgradedTo (store next : Store D) (newLevel : FlowLevel)
    (snapshot : SeqId → Bool) : Prop where
  wellFormed : next.WellFormed
  contents_eq : next.contents = store.contents.rebound snapshot
  level_eq : next.memPool.level = newLevel
  currentPktCount_eq : next.memPool.currentPktCount = store.memPool.currentPktCount
  firstNCapacity_eq : next.firstNCapacity = store.firstNCapacity

/-- The elements the snapshots of an upgrade hold. -/
def Store.snapshotElems (store : Store D) (snapshot : SeqId → Bool) (seq : SeqId) :
    List (List (Cell D)) :=
  if snapshot seq then
    (store.seqs seq).contents store.memPool.memory
      ((Region.seq seq).ptr store.memPool.shape store.memPool.memory.id)
  else []

omit [Double D] in
theorem Store.WellFormed.snapshotElems_length (wellFormed : store.WellFormed)
    (snapshot : SeqId → Bool) (seq : SeqId) :
    (store.snapshotElems snapshot seq).length ≤ store.memPool.actualSeqLen := by
  rw [Store.snapshotElems]
  split
  · rw [CircularBuffer.length_contents, ← wellFormed.capacity_eq seq]
    exact (wellFormed.seq seq).count_le
  · exact Nat.zero_le _

omit [Double D] in
theorem Store.WellFormed.snapshotElems_width (wellFormed : store.WellFormed)
    (snapshot : SeqId → Bool) (seq : SeqId) :
    ∀ elem ∈ store.snapshotElems snapshot seq, elem.length = seq.elemSize := by
  intro elem member
  rw [Store.snapshotElems] at member
  split at member
  · obtain ⟨index, -, rfl⟩ := List.mem_map.mp member
    rw [Block.load_length, wellFormed.elemSize_eq]
  · cases member

omit [Double D] in
theorem Store.WellFormed.snapshotElems_values (wellFormed : store.WellFormed)
    (snapshot : SeqId → Bool) (seq : SeqId) :
    (store.snapshotElems snapshot seq).map decodeUnsigned =
      if snapshot seq then store.seqValues seq else [] := by
  rw [Store.snapshotElems, wellFormed.seqValues_eq]
  split <;> rfl

theorem flowMemLevelToSeqLen_pos (level : FlowLevel) : 0 < flowMemLevelToSeqLen level := by
  cases level <;> decide

theorem flowMemLevelToSeqLen_le (level : FlowLevel) : flowMemLevelToSeqLen level ≤ 2 ^ 31 := by
  cases level <;> decide

/-- A ring area that has been rebound: every buffer holds its elements from the start of its
region on, and what lies in front of the area is unchanged. -/
structure FlowMemPool.Rebound (pool : FlowMemPool D) (elems : SeqId → List (List (Cell D)))
    (memory : Block D) (seqs : SeqId → CircularBuffer) : Prop where
  id_eq : memory.id = pool.memory.id
  size_eq : memory.size = pool.memory.size
  fault_eq : memory.fault = pool.memory.fault
  below : ∀ pointer : Ptr, ∀ index, pointer.offset + index < pool.shape.arraysSize →
    memory.cellAt pointer index = pool.memory.cellAt pointer index
  buffers : ∀ seq, seqs seq = filledBuffer ((Region.seq seq).ptr pool.shape pool.memory.id)
    seq.elemSize pool.actualSeqLen (elems seq).length
  stored : ∀ seq, memory.load ((Region.seq seq).ptr pool.shape pool.memory.id)
    ((elems seq).length * seq.elemSize) = (elems seq).flatten

omit [Double D] in
theorem FlowMemPool.WellFormed.rebound {pool : FlowMemPool D} (wellFormed : pool.WellFormed)
    {snaps : SeqId → RingBufferSnapshot D} {elems : SeqId → List (List (Cell D))}
    (snaps_eq : ∀ seq, snaps seq = .ofElems seq.elemSize (elems seq))
    (within : ∀ seq, (elems seq).length ≤ pool.actualSeqLen)
    (widths : ∀ seq, ∀ elem ∈ elems seq, elem.length = SeqId.elemSize seq)
    (seqs : SeqId → CircularBuffer) :
    let result := seqOrder.foldl (ringBufferRebindFromSnapshot pool pool.actualSeqLen snaps)
      (pool.memory, seqs, 0)
    pool.Rebound elems result.1 result.2.1 := by
  have room := wellFormed.room
  have ring_eq := wellFormed.ringBufferSize_eq
  have data_eq := wellFormed.ringBufferData_eq
  have positive : 0 < pool.actualSeqLen := by
    rw [wellFormed.seqLen_eq]
    exact flowMemLevelToSeqLen_pos _
  obtain ⟨sameId, sameSize, sameFault, below, buffers, stored⟩ :=
    foldl_ringBufferRebind pool positive snaps_eq within widths seqOrder_nodup pool.memory seqs 0
      (congrArg Ptr.block data_eq)
      (by
        rw [show (fun seq : SeqId => pool.actualSeqLen * seq.elemSize) = pool.shape.seqBytes
          from rfl]
        omega)
      (by
        rw [data_eq]
        dsimp only
        omega)
  have place : ∀ seq, pool.ringBufferData.add
      (0 + offsetOf (fun seq : SeqId => pool.actualSeqLen * seq.elemSize) seqOrder seq) =
      (Region.seq seq).ptr pool.shape pool.memory.id := by
    intro seq
    rw [data_eq, Nat.zero_add]
    rfl
  simp only [mem_seqOrder, if_true, place] at buffers
  have storedAt : ∀ seq, _ := fun seq => stored seq (mem_seqOrder seq)
  simp only [place] at storedAt
  refine ⟨sameId, sameSize, sameFault, fun pointer index isBelow => ?_, buffers, storedAt⟩
  rw [data_eq, Nat.add_zero] at below
  have kept := below (pointer.offset + index) isBelow
  simp only [Block.cellAt, sameId, if_true, Nat.zero_add] at kept
  simp only [Block.cellAt, sameId, kept]

/-- The store an upgrade leaves, with the rebound ring area in it. -/
def Store.withPool (store : Store D) (pool : FlowMemPool D) (memory : Block D)
    (seqs : SeqId → CircularBuffer) : Store D :=
  { store with
    memPool := { pool with memory, tempMemOffset := min pool.actualSeqLen 512 * 16 }
    arrays := pool.arrays
    dirCapacity := fun _ => pool.actualSeqLen
    seqs
    tempDoubleBuffer := some pool.tempMem
    tempDoubleBuffer2 := some (pool.tempMem.add (min pool.actualSeqLen 512 * 8))
    tempUintBufferSize := min pool.actualSeqLen 512 }

omit [Double D] in
theorem refreshStore_eq (store : Store D) {pool : FlowMemPool D} (size_eq : pool.tempMemSize = 8192)
    (offset_eq : pool.tempMemOffset = 0) (positive : 0 < pool.actualSeqLen)
    (snaps : SeqId → RingBufferSnapshot D) :
    refreshStore store pool snaps =
      let rebound := seqOrder.foldl (ringBufferRebindFromSnapshot pool pool.actualSeqLen snaps)
        (pool.memory, store.seqs, 0)
      store.withPool pool rebound.1 rebound.2.1 := by
  have bound := flowStateBindTempBuffers_eq { store with
    memPool := pool
    arrays := pool.arrays
    dirCapacity := fun _ => pool.actualSeqLen } size_eq offset_eq positive
  simp only [refreshStore, bound]
  rfl

omit [Double D] in
/-- The layout and the counts of a store are those of the upgraded pool. -/
theorem Store.WellFormed.withPool (wellFormed : store.WellFormed) {pool : FlowMemPool D}
    {newLevel : FlowLevel} (upgraded : store.memPool.Upgraded pool newLevel)
    (grows : store.memPool.actualSeqLen ≤ pool.actualSeqLen)
    {elems : SeqId → List (List (Cell D))} {memory : Block D} {seqs : SeqId → CircularBuffer}
    (rebound : pool.Rebound elems memory seqs)
    (within : ∀ seq, (elems seq).length ≤ pool.actualSeqLen) :
    (store.withPool pool memory seqs).WellFormed := by
  have newWellFormed := upgraded.wellFormed
  have seqLen_eq := newWellFormed.seqLen_eq
  exact
    { pool :=
        { seqLen_eq := seqLen_eq
          size_eq := rebound.size_eq.trans newWellFormed.size_eq
          arrays_eq := fun array => (newWellFormed.arrays_eq array).trans
            (congrArg (Region.ptr _ _) rebound.id_eq.symm)
          ringBufferData_eq := by
            show pool.ringBufferData = ⟨memory.id, _⟩
            rw [rebound.id_eq]
            exact newWellFormed.ringBufferData_eq
          ringBufferSize_eq := by
            show pool.ringBufferSize = memory.size - _ - 8192
            rw [rebound.size_eq]
            exact newWellFormed.ringBufferSize_eq
          tempMem_eq := newWellFormed.tempMem_eq.trans
            (congrArg₂ Ptr.mk rebound.id_eq.symm (congrArg (· - 8192) rebound.size_eq.symm))
          tempMemSize_eq := newWellFormed.tempMemSize_eq }
      fault_eq := rebound.fault_eq.trans (upgraded.fault_eq.trans wellFormed.fault_eq)
      numWindows_eq := upgraded.numWindows_eq.trans wellFormed.numWindows_eq
      poolRespDelayCapacity_eq :=
        upgraded.respDelayCapacity_eq.trans wellFormed.poolRespDelayCapacity_eq
      arrays_eq := rfl
      dirCapacity_eq := fun _ => rfl
      dirCount_le := fun array => (wellFormed.dirCount_le array).trans grows
      seq := fun seq => by
        dsimp only [Store.withPool]
        rw [rebound.buffers seq]
        have filled := filledBuffer_wellFormed
          (newWellFormed.fits (.seq seq)) (by cases seq <;> decide)
          ((flowMemLevelToSeqLen_pos _).trans_eq seqLen_eq.symm)
          (seqLen_eq.trans_le (flowMemLevelToSeqLen_le _))
          (within seq)
        have moved := filled.transfer rebound.id_eq rebound.size_eq
        rw [← rebound.id_eq] at moved ⊢
        exact moved
      elemSize_eq := fun seq => congrArg CircularBuffer.elemSize (rebound.buffers seq)
      capacity_eq := fun seq => congrArg CircularBuffer.capacity (rebound.buffers seq)
      burstCount_le := wellFormed.burstCount_le.trans grows
      respDelayCapacity_eq := wellFormed.respDelayCapacity_eq
      respDelayCount_le := wellFormed.respDelayCount_le
      tempSize_eq := rfl
      tempBuffer_eq := rfl
      tempBuffer2_eq := rfl
      firstNSize_eq := wellFormed.firstNSize_eq
      firstNFault_eq := wellFormed.firstNFault_eq
      firstNCount_le := wellFormed.firstNCount_le }

omit [Double D] in
/-- The cells of an array come along with an upgrade. -/
theorem Store.WellFormed.withPool_cell (wellFormed : store.WellFormed) {pool : FlowMemPool D}
    {newLevel : FlowLevel} (next : store.memPool.level.next = some newLevel)
    (upgraded : store.memPool.Upgraded pool newLevel)
    {elems : SeqId → List (List (Cell D))} {memory : Block D} {seqs : SeqId → CircularBuffer}
    (rebound : pool.Rebound elems memory seqs) {array : ArrayId} {index : Nat}
    (inside : index < store.memPool.shape.arrayBytes array) :
    memory.cellAt (pool.arrays array) index =
      store.memPool.memory.cellAt (store.arrays array) index := by
  have newWellFormed := upgraded.wellFormed
  rw [wellFormed.arrays_eq, ← upgraded.copied array index inside]
  refine rebound.below _ _ ?_
  have wider : store.memPool.shape.arrayBytes array ≤ pool.shape.arrayBytes array := by
    rw [FlowMemPool.shape, FlowMemPool.shape, wellFormed.pool.seqLen_eq, newWellFormed.seqLen_eq,
      upgraded.level_eq, upgraded.numWindows_eq, upgraded.respDelayCapacity_eq]
    exact arrayBytes_mono (FlowLevel.next_rank next) _ _ array
  have stop := offsetOf_end pool.shape.arrayBytes (mem_arrayOrder array)
  rw [newWellFormed.arrays_eq]
  simp only [Region.ptr, Region.offset]
  exact (Nat.add_lt_add_left (inside.trans_le wider) _).trans_le stop

/-- Refreshing the pointers and rebinding the buffers completes an upgrade. -/
theorem Store.WellFormed.refreshStore (wellFormed : store.WellFormed) {pool : FlowMemPool D}
    {newLevel : FlowLevel} (next : store.memPool.level.next = some newLevel)
    (upgraded : store.memPool.Upgraded pool newLevel) (snapshot : SeqId → Bool) :
    store.UpgradedTo (refreshStore store pool fun seq =>
      ringBufferSnapshotCapture store.memPool.memory (store.seqs seq) (snapshot seq)) newLevel
      snapshot := by
  have newWellFormed := upgraded.wellFormed
  have seqLen_eq := newWellFormed.seqLen_eq
  have grows : store.memPool.actualSeqLen ≤ pool.actualSeqLen := by
    rw [wellFormed.pool.seqLen_eq, seqLen_eq, upgraded.level_eq]
    exact FlowLevel.higher_seqLen (FlowLevel.next_rank next)
  have within : ∀ seq, (store.snapshotElems snapshot seq).length ≤ pool.actualSeqLen :=
    fun seq => (wellFormed.snapshotElems_length snapshot seq).trans grows
  have widths := wellFormed.snapshotElems_width snapshot
  have captured : ∀ seq, ringBufferSnapshotCapture store.memPool.memory (store.seqs seq)
      (snapshot seq) = .ofElems seq.elemSize (store.snapshotElems snapshot seq) := by
    intro seq
    rw [ringBufferSnapshotCapture_eq (wellFormed.seq seq), wellFormed.elemSize_eq]
    rfl
  have rebound := newWellFormed.rebound captured within widths store.seqs
  rw [refreshStore_eq store newWellFormed.tempMemSize_eq upgraded.tempMemOffset_eq
    ((flowMemLevelToSeqLen_pos _).trans_eq seqLen_eq.symm)]
  dsimp only at rebound ⊢
  generalize seqOrder.foldl (ringBufferRebindFromSnapshot pool pool.actualSeqLen _)
    (pool.memory, store.seqs, 0) = result at rebound
  have moved := wellFormed.withPool upgraded grows rebound within
  refine ⟨moved, ?_, upgraded.level_eq, upgraded.currentPktCount_eq, rfl⟩
  refine FlowContents.ext (funext fun seq => ?_) (funext fun array => ?_) ?_ rfl
  · refine (moved.seqValues_eq seq).trans (Eq.trans (congrArg (List.map decodeUnsigned) ?_)
      (wellFormed.snapshotElems_values snapshot seq))
    rw [show ((store.withPool pool result.1 result.2.1).seqs seq) = result.2.1 seq from rfl,
      rebound.buffers seq, show (store.withPool pool result.1 result.2.1).memPool.memory =
        result.1 from rfl, rebound.id_eq]
    exact filledBuffer_contents (seqLen_eq.trans_le (flowMemLevelToSeqLen_le _)) (within seq)
      (widths seq) (rebound.stored seq)
  · rw [show (store.withPool pool result.1 result.2.1).contents.arrays array =
      (store.withPool pool result.1 result.2.1).values array (store.arrayCount array) from by
        cases array <;> rfl]
    refine Block.readArray_congr fun offset inside =>
      wellFormed.withPool_cell next upgraded rebound ?_
    rw [wellFormed.arrayBytes_eq]
    exact inside.trans_le (Nat.mul_le_mul_right _ (wellFormed.arrayCount_le array))
  · refine Block.readArray_congr fun offset inside =>
      wellFormed.withPool_cell next upgraded rebound ?_
    rw [wellFormed.arrayBytes_eq]
    exact inside.trans_le (Nat.mul_le_mul_right _ wellFormed.respDelayCount_le)

/-! ### The upgrade block -/

/-- What the upgrade block of a callback does to a store: nothing to its values if no upgrade is
due or its block cannot be allocated, and otherwise the upgrade. -/
structure Store.UpgradeChecked (store next : Store D) (allocs : Allocs) : Prop where
  wellFormed : next.WellFormed
  contents_eq : next.contents =
    if (flowMemPoolCheckUpgrade store.memPool).2 && allocs.upgrade then
      store.contents.rebound allocs.snapshot
    else store.contents
  level_eq : next.memPool.level =
    if (flowMemPoolCheckUpgrade store.memPool).2 && allocs.upgrade then
      store.memPool.level.next.getD store.memPool.level
    else store.memPool.level
  currentPktCount_eq :
    next.memPool.currentPktCount = (flowMemPoolCheckUpgrade store.memPool).1.currentPktCount
  firstNCapacity_eq : next.firstNCapacity = store.firstNCapacity

omit [Double D] in
/-- The check changes the counter and the flag of the pool only. -/
theorem flowMemPoolCheckUpgrade_eq (pool : FlowMemPool D) : ∃ count flag,
    (flowMemPoolCheckUpgrade pool).1 =
      { pool with currentPktCount := count, needsUpgrade := flag } := by
  unfold flowMemPoolCheckUpgrade
  split
  · exact ⟨_, _, rfl⟩
  · dsimp only
    generalize (if pool.currentPktCount < 2 ^ 32 - 1 then pool.currentPktCount + 1
      else pool.currentPktCount) = count
    generalize (if pool.actualSeqLen * 8 / 10 == 0 then 1 else pool.actualSeqLen * 8 / 10) =
      threshold
    split
    · split
      · exact ⟨_, _, rfl⟩
      · exact ⟨_, _, rfl⟩
    · exact ⟨_, _, rfl⟩

omit [Double D] in
/-- An upgrade is due only below the largest level. -/
theorem FlowLevel.next_of_due {pool : FlowMemPool D}
    (due : (flowMemPoolCheckUpgrade pool).2 = true) :
    ∃ newLevel, pool.level.next = some newLevel := by
  cases level : pool.level with
  | tiny => exact ⟨_, rfl⟩
  | small => exact ⟨_, rfl⟩
  | medium => exact ⟨_, rfl⟩
  | large =>
    rw [flowMemPoolCheckUpgrade, if_pos level] at due
    cases due

theorem Store.WellFormed.upgradeIfNeeded (wellFormed : store.WellFormed) (allocs : Allocs) :
    store.UpgradeChecked (upgradeIfNeeded allocs store) allocs := by
  obtain ⟨count, flag, checked_eq⟩ := flowMemPoolCheckUpgrade_eq store.memPool
  have checked : ({ store with memPool := (flowMemPoolCheckUpgrade store.memPool).1 } :
      Store D).WellFormed := by
    rw [checked_eq]
    exact { wellFormed with pool := { wellFormed.pool with } }
  have sameContents : ({ store with memPool := (flowMemPoolCheckUpgrade store.memPool).1 } :
      Store D).contents = store.contents := by
    rw [checked_eq]
    exact FlowContents.ext rfl (funext fun array => by cases array <;> rfl) rfl rfl
  have sameLevel : (flowMemPoolCheckUpgrade store.memPool).1.level = store.memPool.level := by
    rw [checked_eq]
  cases due : (flowMemPoolCheckUpgrade store.memPool).2 with
  | false =>
    have unchanged : TiFeatures.upgradeIfNeeded allocs store =
        { store with memPool := (flowMemPoolCheckUpgrade store.memPool).1 } := by
      rw [TiFeatures.upgradeIfNeeded]
      exact if_neg (by rw [due]; decide)
    rw [unchanged]
    refine ⟨checked, ?_, ?_, rfl, rfl⟩
    · rw [due]
      exact sameContents
    · rw [due]
      exact sameLevel
  | true =>
    obtain ⟨newLevel, next⟩ := FlowLevel.next_of_due due
    cases malloc : allocs.upgrade with
    | false =>
      have unchanged : TiFeatures.upgradeIfNeeded allocs store =
          { store with memPool := (flowMemPoolCheckUpgrade store.memPool).1 } := by
        simp only [TiFeatures.upgradeIfNeeded, due, if_true, sameLevel, next, malloc,
          flowMemPoolUpgrade, if_neg (FlowLevel.next_rank next), Bool.not_false]
      rw [unchanged]
      refine ⟨checked, ?_, ?_, rfl, rfl⟩
      · rw [due, malloc]
        exact sameContents
      · rw [due, malloc]
        exact sameLevel
    | true =>
      obtain ⟨pool, pool_eq, upgraded⟩ := flowMemPoolUpgrade_upgraded checked.pool
        (sameLevel.symm ▸ FlowLevel.next_rank next)
      have result : TiFeatures.upgradeIfNeeded allocs store =
          TiFeatures.refreshStore
            { store with memPool := (flowMemPoolCheckUpgrade store.memPool).1 } pool fun seq =>
              ringBufferSnapshotCapture (flowMemPoolCheckUpgrade store.memPool).1.memory
                (store.seqs seq) (allocs.snapshot seq) := by
        simp only [TiFeatures.upgradeIfNeeded, due, if_true, sameLevel, next, malloc, pool_eq]
      rw [result]
      obtain ⟨refreshed, contents_eq, level_eq, count_eq, firstN_eq⟩ :=
        checked.refreshStore (sameLevel.symm ▸ next) upgraded allocs.snapshot
      refine ⟨refreshed, ?_, ?_, count_eq, firstN_eq⟩
      · rw [due, malloc, contents_eq, sameContents]
        rfl
      · rw [due, malloc, level_eq, next]
        rfl

omit [Double D] in
/-- Rebinding the buffers stays in the block. -/
theorem foldl_ringBufferRebind_id (pool : FlowMemPool D) (capacity : Nat)
    (snaps : SeqId → RingBufferSnapshot D) (order : List SeqId)
    (state : Block D × (SeqId → CircularBuffer) × Nat) :
    (order.foldl (ringBufferRebindFromSnapshot pool capacity snaps) state).1.id = state.1.id := by
  induction order generalizing state with
  | nil => rfl
  | cons seq rest inductionHypothesis =>
    refine (inductionHypothesis _).trans ?_
    unfold ringBufferRebindFromSnapshot
    dsimp only
    split
    · rfl
    · split
      · rfl
      · split
        · exact Block.store_id _ _ _
        · rfl

omit [Double D] in
/-- An upgrade moves a flow to the next block. -/
theorem Store.WellFormed.upgradeIfNeeded_id {store : Store D} (wellFormed : store.WellFormed)
    (allocs : Allocs) : (TiFeatures.upgradeIfNeeded allocs store).memPool.memory.id =
      if (flowMemPoolCheckUpgrade store.memPool).2 && allocs.upgrade then
        store.memPool.memory.id + 1
      else store.memPool.memory.id := by
  obtain ⟨count, flag, checked_eq⟩ := flowMemPoolCheckUpgrade_eq store.memPool
  have checked : FlowMemPool.WellFormed (flowMemPoolCheckUpgrade store.memPool).1 := by
    rw [checked_eq]
    exact { wellFormed.pool with }
  have sameMemory : (flowMemPoolCheckUpgrade store.memPool).1.memory = store.memPool.memory := by
    rw [checked_eq]
  have sameLevel : (flowMemPoolCheckUpgrade store.memPool).1.level = store.memPool.level := by
    rw [checked_eq]
  cases due : (flowMemPoolCheckUpgrade store.memPool).2 with
  | false =>
    simp only [TiFeatures.upgradeIfNeeded, due, Bool.false_and, Bool.false_eq_true, if_false]
    exact congrArg Block.id sameMemory
  | true =>
    obtain ⟨newLevel, next⟩ := FlowLevel.next_of_due due
    cases malloc : allocs.upgrade with
    | false =>
      simp only [TiFeatures.upgradeIfNeeded, due, if_true, sameLevel, next, malloc,
        flowMemPoolUpgrade, if_neg (FlowLevel.next_rank next), Bool.not_false]
      exact congrArg Block.id sameMemory
    | true =>
      obtain ⟨pool, pool_eq, upgraded⟩ := flowMemPoolUpgrade_upgraded checked
        (sameLevel.symm ▸ FlowLevel.next_rank next)
      have positive : 0 < pool.actualSeqLen :=
        (flowMemLevelToSeqLen_pos _).trans_eq upgraded.wellFormed.seqLen_eq.symm
      simp only [TiFeatures.upgradeIfNeeded, due, if_true, sameLevel, next, malloc, pool_eq,
        Bool.and_true]
      rw [refreshStore_eq _ upgraded.wellFormed.tempMemSize_eq upgraded.tempMemOffset_eq positive]
      exact (foldl_ringBufferRebind_id _ _ _ _ _).trans
        (upgraded.id_eq.trans (congrArg (·.id + 1) sameMemory))

end Upgrade

end TiFeatures
