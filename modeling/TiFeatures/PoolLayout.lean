/-
This file proves where things lie in the block of a pool. The arrays and the
circular buffers are regions, laid out one after the other in front of the
temporary area; a fresh pool and an upgraded one both have this layout, and an
upgrade carries the contents of every array over.
-/

import TiFeatures.MemoryPool
import TiFeatures.State
import Mathlib.Tactic.Linarith

namespace TiFeatures

open CMemory Layout

/-! ### Regions -/

/-- The numbers that determine the layout of a pool. -/
structure PoolShape where
  seqLen : Nat
  numWindows : Nat
  respDelayCapacity : Nat

/-- The size of an array in a pool. -/
def PoolShape.arrayBytes (shape : PoolShape) (array : ArrayId) : Nat :=
  array.bytes shape.seqLen shape.numWindows shape.respDelayCapacity

/-- The size of a circular buffer in a pool. -/
def PoolShape.seqBytes (shape : PoolShape) (seq : SeqId) : Nat := shape.seqLen * seq.elemSize

/-- The size of all arrays, which is where the ring area starts. -/
def PoolShape.arraysSize (shape : PoolShape) : Nat := totalSize shape.arrayBytes arrayOrder

/-- The part of a block that an array or a circular buffer owns. -/
inductive Region where
  | array (which : ArrayId)
  | seq (which : SeqId)
  deriving DecidableEq

/-- The size of a region. -/
def Region.bytes (shape : PoolShape) : Region → Nat
  | .array which => shape.arrayBytes which
  | .seq which => shape.seqBytes which

/-- The offset of a region. -/
def Region.offset (shape : PoolShape) : Region → Nat
  | .array which => offsetOf shape.arrayBytes arrayOrder which
  | .seq which => shape.arraysSize + offsetOf shape.seqBytes seqOrder which

/-- The pointer to a region of the block with the given identity. -/
def Region.ptr (region : Region) (shape : PoolShape) (block : Nat) : Ptr :=
  ⟨block, region.offset shape⟩

theorem mem_arrayOrder (array : ArrayId) : array ∈ arrayOrder := by
  cases array <;> decide

theorem mem_seqOrder (seq : SeqId) : seq ∈ seqOrder := by
  cases seq <;> decide

theorem arrayOrder_nodup : arrayOrder.Nodup := by decide

theorem seqOrder_nodup : seqOrder.Nodup := by decide

theorem arraysSize_eq (shape : PoolShape) : shape.arraysSize =
    56 * shape.seqLen + 12 * shape.numWindows + 8 * shape.respDelayCapacity := by
  simp only [PoolShape.arraysSize, totalSize, arrayOrder, List.map_cons, List.map_nil,
    List.sum_cons, List.sum_nil, PoolShape.arrayBytes, ArrayId.bytes, ArrayId.length,
    ArrayId.width]
  omega

theorem seqsSize_eq (shape : PoolShape) :
    totalSize shape.seqBytes seqOrder = 57 * shape.seqLen := by
  simp only [totalSize, seqOrder, List.map_cons, List.map_nil, List.sum_cons, List.sum_nil,
    PoolShape.seqBytes, SeqId.elemSize]
  omega

/-- The block has room for the regions and the temporary area. -/
theorem regions_fit (level : FlowLevel) (numWindows respDelayCapacity : Nat) :
    let shape : PoolShape := ⟨flowMemLevelToSeqLen level, numWindows, respDelayCapacity⟩
    shape.arraysSize + totalSize shape.seqBytes seqOrder + 8192 ≤
      flowMemPoolCalcSizeEx level numWindows respDelayCapacity := by
  simp only [arraysSize_eq, seqsSize_eq, flowMemPoolCalcSizeEx]
  omega

/-- A region ends before the temporary area. -/
theorem region_end (shape : PoolShape) (region : Region) :
    region.offset shape + region.bytes shape ≤
      shape.arraysSize + totalSize shape.seqBytes seqOrder := by
  cases region with
  | array array =>
    have stop := offsetOf_end shape.arrayBytes (mem_arrayOrder array)
    simp only [Region.offset, Region.bytes, PoolShape.arraysSize]
    omega
  | seq seq =>
    have stop := offsetOf_end shape.seqBytes (mem_seqOrder seq)
    simp only [Region.offset, Region.bytes]
    omega

/-- Two regions of one block do not overlap. -/
theorem region_disjoint (shape : PoolShape) {first second : Region} (different : first ≠ second) :
    first.offset shape + first.bytes shape ≤ second.offset shape ∨
      second.offset shape + second.bytes shape ≤ first.offset shape := by
  cases first with
  | array first =>
    have stop := offsetOf_end shape.arrayBytes (mem_arrayOrder first)
    cases second with
    | array second =>
      exact offsetOf_disjoint shape.arrayBytes (mem_arrayOrder first) (mem_arrayOrder second)
        fun same => different (congrArg Region.array same)
    | seq second =>
      simp only [Region.offset, Region.bytes, PoolShape.arraysSize]
      omega
  | seq first =>
    cases second with
    | array second =>
      have stop := offsetOf_end shape.arrayBytes (mem_arrayOrder second)
      simp only [Region.offset, Region.bytes, PoolShape.arraysSize]
      omega
    | seq second =>
      have apart := offsetOf_disjoint shape.seqBytes (mem_seqOrder first) (mem_seqOrder second)
        fun same => different (congrArg Region.seq same)
      simp only [Region.offset, Region.bytes]
      omega

/-! ### Pools with this layout -/

section Pools

variable {D : Type}

/-- The shape of a pool. -/
def FlowMemPool.shape (pool : FlowMemPool D) : PoolShape :=
  ⟨pool.actualSeqLen, pool.numWindows, pool.respDelayCapacity⟩

/-- A pool whose pointers follow the layout of its level, in a block of the computed size. -/
structure FlowMemPool.WellFormed (pool : FlowMemPool D) : Prop where
  seqLen_eq : pool.actualSeqLen = flowMemLevelToSeqLen pool.level
  size_eq : pool.memory.size =
    flowMemPoolCalcSizeEx pool.level pool.numWindows pool.respDelayCapacity
  arrays_eq : ∀ array, pool.arrays array = (Region.array array).ptr pool.shape pool.memory.id
  ringBufferData_eq : pool.ringBufferData = ⟨pool.memory.id, pool.shape.arraysSize⟩
  ringBufferSize_eq :
    pool.ringBufferSize = pool.memory.size - pool.shape.arraysSize - 8192
  tempMem_eq : pool.tempMem = ⟨pool.memory.id, pool.memory.size - 8192⟩
  tempMemSize_eq : pool.tempMemSize = 8192

theorem FlowMemPool.WellFormed.room {pool : FlowMemPool D} (wellFormed : pool.WellFormed) :
    pool.shape.arraysSize + totalSize pool.shape.seqBytes seqOrder + 8192 ≤ pool.memory.size := by
  rw [wellFormed.size_eq, FlowMemPool.shape, wellFormed.seqLen_eq]
  exact regions_fit _ _ _

/-- A region lies inside the block. -/
theorem FlowMemPool.WellFormed.fits {pool : FlowMemPool D} (wellFormed : pool.WellFormed)
    (region : Region) :
    pool.memory.Fits (region.ptr pool.shape pool.memory.id) (region.bytes pool.shape) := by
  refine ⟨rfl, ?_⟩
  have stop := region_end pool.shape region
  have room := wellFormed.room
  simp only [Region.ptr]
  omega

theorem flowMemPoolInitEx_wellFormed {level : FlowLevel} {numWindows respDelayCapacity id : Nat}
    {pool : FlowMemPool D}
    (initialised : flowMemPoolInitEx level numWindows respDelayCapacity (some id) = some pool) :
    pool.WellFormed := by
  obtain rfl := Option.some.inj initialised
  refine
    { seqLen_eq := rfl
      size_eq := rfl
      arrays_eq := fun array => ?_
      ringBufferData_eq := ?_
      ringBufferSize_eq := ?_
      tempMem_eq := rfl
      tempMemSize_eq := rfl }
  · simp only [carve_fst _ arrayOrder_nodup (mem_arrayOrder array), Nat.zero_add]
    rfl
  · simp only [carve_snd, Nat.zero_add]
    rfl
  · simp only [carve_snd, Nat.zero_add]
    rfl

/-! ### The upgrade of a pool -/

/-- The loop of an upgrade puts the arrays one after the other. -/
theorem foldl_upgradeArray_layout (pool : FlowMemPool D) (newSeqLen : Nat)
    (remaining : List ArrayId) (state : Block D × (ArrayId → Ptr) × Nat) :
    let bytes := ArrayId.bytes newSeqLen pool.numWindows pool.respDelayCapacity
    let result := remaining.foldl (upgradeArray pool newSeqLen) state
    let carved := carve bytes remaining state.2.2 fun array => (state.2.1 array).offset
    result.1.id = state.1.id ∧ result.1.size = state.1.size ∧ result.2.2 = carved.2 ∧
      ∀ array, result.2.1 array =
        if array ∈ remaining then ⟨state.1.id, carved.1 array⟩ else state.2.1 array := by
  induction remaining generalizing state with
  | nil => exact ⟨rfl, rfl, rfl, fun array => by simp⟩
  | cons head rest inductionHypothesis =>
    obtain ⟨memory, arrays, offset⟩ := state
    obtain ⟨sameId, sameSize, stop, place⟩ :=
      inductionHypothesis (upgradeArray pool newSeqLen (memory, arrays, offset) head)
    have headId : (upgradeArray pool newSeqLen (memory, arrays, offset) head).1.id =
        memory.id := by
      simp only [upgradeArray]
      split <;> simp
    have headSize : (upgradeArray pool newSeqLen (memory, arrays, offset) head).1.size =
        memory.size := by
      simp only [upgradeArray]
      split <;> simp
    have headPlace : (fun array =>
        ((upgradeArray pool newSeqLen (memory, arrays, offset) head).2.1 array).offset) =
        Function.update (fun array => (arrays array).offset) head offset := by
      funext array
      by_cases same : array = head
      · subst same
        simp [upgradeArray]
      · simp [upgradeArray, same]
    rw [headId] at sameId
    rw [headSize] at sameSize
    rw [headPlace] at stop
    refine ⟨sameId, sameSize, stop, fun array => ?_⟩
    rw [List.foldl_cons, place array, headPlace, headId, carve_cons]
    by_cases inRest : array ∈ rest
    · simp only [inRest, if_true, List.mem_cons, or_true]
      rfl
    · by_cases isHead : array = head
      · subst isHead
        simp [inRest, upgradeArray, carve_fst_of_notMem _ inRest]
      · simp [inRest, isHead, upgradeArray]

/-- One step of the loop writes only from its offset on, and stays in the block. -/
theorem upgradeArray_frame (pool : FlowMemPool D) {newSeqLen : Nat} {memory : Block D}
    (arrays : ArrayId → Ptr) {offset : Nat} {array : ArrayId}
    (room : offset + array.bytes newSeqLen pool.numWindows pool.respDelayCapacity ≤ memory.size) :
    let copied := array.copied pool.actualSeqLen newSeqLen pool.numWindows pool.respDelayCapacity
    let result := upgradeArray pool newSeqLen (memory, arrays, offset) array
    result.1.fault = memory.fault ∧
      (∀ address < offset, result.1.cellAt ⟨memory.id, 0⟩ address =
        memory.cellAt ⟨memory.id, 0⟩ address) ∧
      ∀ index < copied * array.width, result.1.cellAt ⟨memory.id, offset⟩ index =
        pool.memory.cellAt (pool.arrays array) index := by
  intro copied result
  have short : copied * array.width ≤
      array.bytes newSeqLen pool.numWindows pool.respDelayCapacity := by
    refine Nat.mul_le_mul_right _ ?_
    have least : min pool.actualSeqLen newSeqLen ≤ newSeqLen := Nat.min_le_right _ _
    cases array <;> first | exact least | exact le_refl _
  have fits : memory.Fits ⟨memory.id, offset⟩ (copied * array.width) :=
    ⟨rfl, (Nat.add_le_add_left short offset).trans room⟩
  by_cases some : copied > 0
  · have result_eq : result.1 = memory.copyFrom ⟨memory.id, offset⟩ pool.memory
        (pool.arrays array) (copied * array.width) := by
      simp only [result, upgradeArray]
      exact if_pos some
    rw [result_eq]
    refine ⟨Block.copyFrom_fault fits, fun address below => ?_, fun index inside => ?_⟩
    · exact Block.cellAt_copyFrom_other (Or.inl (by simpa using below))
    · exact Block.cellAt_copyFrom_same fits inside
  · have result_eq : result.1 = memory := by
      simp only [result, upgradeArray]
      exact if_neg some
    rw [result_eq]
    refine ⟨rfl, fun _ _ => rfl, fun index inside => ?_⟩
    have none : copied = 0 := Nat.eq_zero_of_not_pos some
    rw [none, Nat.zero_mul] at inside
    cases inside

/-- The loop of an upgrade stays in the block, leaves what lies before it, and copies every
array to its new place. -/
theorem foldl_upgradeArray_memory (pool : FlowMemPool D) (newSeqLen : Nat)
    (remaining : List ArrayId) (distinct : remaining.Nodup) (memory : Block D)
    (arrays : ArrayId → Ptr) (offset : Nat)
    (room : offset + totalSize (ArrayId.bytes newSeqLen pool.numWindows pool.respDelayCapacity)
      remaining ≤ memory.size) :
    let bytes := ArrayId.bytes newSeqLen pool.numWindows pool.respDelayCapacity
    let result := remaining.foldl (upgradeArray pool newSeqLen) (memory, arrays, offset)
    result.1.fault = memory.fault ∧
      (∀ address < offset, result.1.cellAt ⟨memory.id, 0⟩ address =
        memory.cellAt ⟨memory.id, 0⟩ address) ∧
      ∀ array ∈ remaining, ∀ index < array.copied pool.actualSeqLen newSeqLen pool.numWindows
        pool.respDelayCapacity * array.width,
        result.1.cellAt ⟨memory.id, offset + offsetOf bytes remaining array⟩ index =
          pool.memory.cellAt (pool.arrays array) index := by
  intro bytes
  induction remaining generalizing memory arrays offset with
  | nil => exact ⟨rfl, fun _ _ => rfl, fun array member => by cases member⟩
  | cons head rest inductionHypothesis =>
    obtain ⟨notRest, restDistinct⟩ := List.nodup_cons.mp distinct
    rw [totalSize, List.map_cons, List.sum_cons] at room
    have headRoom : offset + bytes head ≤ memory.size := by
      simp only [bytes]
      omega
    obtain ⟨headFault, headBelow, headCopied⟩ :=
      upgradeArray_frame pool arrays headRoom
    have headLayout := foldl_upgradeArray_layout pool newSeqLen [head] (memory, arrays, offset)
    have headOffset : (upgradeArray pool newSeqLen (memory, arrays, offset) head).2.2 =
      offset + bytes head := rfl
    rcases stepped : upgradeArray pool newSeqLen (memory, arrays, offset) head with
      ⟨nextMemory, nextArrays, nextOffset⟩
    simp only [List.foldl_cons, List.foldl_nil, stepped] at headLayout
    rw [stepped] at headFault headBelow headCopied headOffset
    obtain ⟨sameId, sameSize, -, -⟩ := headLayout
    simp only at sameId sameSize headOffset headBelow headCopied headFault
    subst headOffset
    obtain ⟨fault, below, copied⟩ := inductionHypothesis restDistinct nextMemory nextArrays
      (offset + bytes head) (by
        rw [totalSize, sameSize]
        simp only [bytes]
        omega)
    simp only [List.foldl_cons, stepped]
    rw [sameId] at below copied
    refine ⟨fault.trans headFault, fun address isBelow => ?_, fun array member index inside => ?_⟩
    · rw [below address (by omega), headBelow address isBelow]
    · rw [offsetOf]
      by_cases isHead : array = head
      · subst isHead
        rw [if_pos rfl, Nat.add_zero, ← headCopied index inside]
        have copiedLe : array.copied pool.actualSeqLen newSeqLen pool.numWindows
            pool.respDelayCapacity * array.width ≤ bytes array := by
          refine Nat.mul_le_mul_right _ ?_
          have least : min pool.actualSeqLen newSeqLen ≤ newSeqLen := Nat.min_le_right _ _
          cases array <;> first | exact least | exact le_refl _
        have kept := below (offset + index) (by omega)
        simpa only [Block.cellAt, Nat.zero_add] using kept
      · rw [if_neg isHead, ← Nat.add_assoc]
        exact copied array ((List.mem_cons.mp member).resolve_left isHead) index inside

/-- A level has at least the room of those below it. -/
theorem FlowLevel.higher_seqLen {level newLevel : FlowLevel}
    (higher : ¬ newLevel.rank ≤ level.rank) :
    flowMemLevelToSeqLen level ≤ flowMemLevelToSeqLen newLevel := by
  revert higher
  cases level <;> cases newLevel <;> decide

theorem FlowLevel.next_rank {level newLevel : FlowLevel} (next : level.next = some newLevel) :
    ¬ newLevel.rank ≤ level.rank := by
  cases level <;> cases next <;> decide

/-- What an upgrade makes of a pool: the layout of the new level in a new block, with the
contents of every array. -/
structure FlowMemPool.Upgraded (pool upgraded : FlowMemPool D) (newLevel : FlowLevel) : Prop where
  wellFormed : upgraded.WellFormed
  level_eq : upgraded.level = newLevel
  numWindows_eq : upgraded.numWindows = pool.numWindows
  respDelayCapacity_eq : upgraded.respDelayCapacity = pool.respDelayCapacity
  currentPktCount_eq : upgraded.currentPktCount = pool.currentPktCount
  tempMemOffset_eq : upgraded.tempMemOffset = 0
  id_eq : upgraded.memory.id = pool.memory.id + 1
  fault_eq : upgraded.memory.fault = pool.memory.fault
  copied : ∀ array, ∀ index < pool.shape.arrayBytes array,
    upgraded.memory.cellAt (upgraded.arrays array) index =
      pool.memory.cellAt (pool.arrays array) index

/-- The copy of the ring area stays in the block and leaves what lies before the area. -/
theorem upgradeRingArea_frame (pool : FlowMemPool D) {memory : Block D} {offset size : Nat}
    (room : offset + size ≤ memory.size) :
    let result := upgradeRingArea pool memory ⟨memory.id, offset⟩ size
    result.id = memory.id ∧ result.size = memory.size ∧ result.fault = memory.fault ∧
      ∀ (pointer : Ptr) (index : Nat), pointer.offset + index < offset →
        result.cellAt pointer index = memory.cellAt pointer index := by
  have fits : memory.Fits ⟨memory.id, offset⟩ (min pool.ringBufferSize size) :=
    ⟨rfl, (Nat.add_le_add_left (Nat.min_le_right _ _) _).trans room⟩
  unfold upgradeRingArea
  split
  · exact ⟨Block.copyFrom_id _ _ _ _ _, Block.copyFrom_size _ _ _ _ _, Block.copyFrom_fault fits,
      fun pointer index below => Block.cellAt_copyFrom_other (Or.inl below)⟩
  · exact ⟨rfl, rfl, rfl, fun _ _ _ => rfl⟩

/-- The first loop of an upgrade, from the fresh block on: the layout of the new level, with the
contents of every array. -/
theorem upgradeArrays_spec (pool : FlowMemPool D) {level newLevel : FlowLevel}
    (seqLen_eq : pool.actualSeqLen = flowMemLevelToSeqLen level)
    (higher : ¬ newLevel.rank ≤ level.rank) (fresh : Block D)
    (size_eq : fresh.size =
      flowMemPoolCalcSizeEx newLevel pool.numWindows pool.respDelayCapacity) :
    let shape : PoolShape :=
      ⟨flowMemLevelToSeqLen newLevel, pool.numWindows, pool.respDelayCapacity⟩
    let result := arrayOrder.foldl (upgradeArray pool shape.seqLen) (fresh, pool.arrays, 0)
    result.1.id = fresh.id ∧ result.1.size = fresh.size ∧ result.1.fault = fresh.fault ∧
      result.2.2 = shape.arraysSize ∧
      (∀ array, result.2.1 array = (Region.array array).ptr shape fresh.id) ∧
      ∀ array, ∀ index < pool.shape.arrayBytes array,
        result.1.cellAt ((Region.array array).ptr shape fresh.id) index =
          pool.memory.cellAt (pool.arrays array) index := by
  intro shape
  have room : shape.arraysSize + totalSize shape.seqBytes seqOrder + 8192 ≤ fresh.size := by
    rw [size_eq]
    exact regions_fit newLevel pool.numWindows pool.respDelayCapacity
  obtain ⟨sameId, sameSize, stop, place⟩ := foldl_upgradeArray_layout pool shape.seqLen arrayOrder
    (fresh, pool.arrays, 0)
  obtain ⟨sameFault, -, copied⟩ := foldl_upgradeArray_memory pool shape.seqLen arrayOrder
    arrayOrder_nodup fresh pool.arrays 0 (by
      rw [Nat.zero_add]
      exact (Nat.le_add_right _ _).trans ((Nat.le_add_right _ _).trans room))
  refine ⟨sameId, sameSize, sameFault, ?_, fun array => ?_, fun array index inside => ?_⟩
  · rw [stop, carve_snd, Nat.zero_add]
    rfl
  · rw [place array, if_pos (mem_arrayOrder array), carve_fst _ arrayOrder_nodup
      (mem_arrayOrder array), Nat.zero_add]
    rfl
  · have kept : array.copied pool.actualSeqLen shape.seqLen pool.numWindows
        pool.respDelayCapacity * array.width = pool.shape.arrayBytes array := by
      have grows : min pool.actualSeqLen shape.seqLen = pool.actualSeqLen := by
        rw [seqLen_eq]
        exact Nat.min_eq_left (FlowLevel.higher_seqLen higher)
      simp only [ArrayId.copied, grows, PoolShape.arrayBytes, ArrayId.bytes, FlowMemPool.shape]
    have copy := copied array (mem_arrayOrder array) index (kept ▸ inside)
    rw [Nat.zero_add] at copy
    exact copy

/-- Once the arrays have been placed and copied, the rest of an upgrade completes the pool. -/
theorem upgradedPool_upgraded {pool : FlowMemPool D} {newLevel : FlowLevel} {memory : Block D}
    {arrays : ArrayId → Ptr}
    (id_eq : memory.id = pool.memory.id + 1) (size_eq : memory.size =
      flowMemPoolCalcSizeEx newLevel pool.numWindows pool.respDelayCapacity)
    (fault_eq : memory.fault = pool.memory.fault) :
    let shape : PoolShape :=
      ⟨flowMemLevelToSeqLen newLevel, pool.numWindows, pool.respDelayCapacity⟩
    (∀ array, arrays array = (Region.array array).ptr shape memory.id) →
    (∀ array, ∀ index < pool.shape.arrayBytes array,
      memory.cellAt ((Region.array array).ptr shape memory.id) index =
        pool.memory.cellAt (pool.arrays array) index) →
    (∀ array, pool.shape.arrayBytes array ≤ shape.arrayBytes array) →
    pool.Upgraded (upgradedPool pool newLevel memory arrays shape.arraysSize) newLevel := by
  intro shape place copied grows
  have room : shape.arraysSize + (memory.size - shape.arraysSize - 8192) ≤ memory.size := by
    have fit : shape.arraysSize + totalSize shape.seqBytes seqOrder + 8192 ≤ memory.size := by
      rw [size_eq]
      exact regions_fit newLevel pool.numWindows pool.respDelayCapacity
    omega
  obtain ⟨ringId, ringSize, ringFault, ringBelow⟩ := upgradeRingArea_frame pool room
  rw [size_eq] at ringId ringSize ringFault ringBelow
  refine
    { wellFormed :=
        { seqLen_eq := rfl
          size_eq := ringSize
          arrays_eq := fun array => ?_
          ringBufferData_eq := ?_
          ringBufferSize_eq := ?_
          tempMem_eq := ?_
          tempMemSize_eq := rfl }
      level_eq := rfl
      numWindows_eq := rfl
      respDelayCapacity_eq := rfl
      currentPktCount_eq := rfl
      tempMemOffset_eq := rfl
      id_eq := ringId.trans id_eq
      fault_eq := ringFault.trans fault_eq
      copied := fun array index inside => ?_ }
  · exact (place array).trans (congrArg (Region.ptr _ shape) ringId.symm)
  · exact congrArg (Ptr.mk · shape.arraysSize) ringId.symm
  · exact congrArg (· - shape.arraysSize - 8192) ringSize.symm
  · exact congrArg₂ Ptr.mk ringId.symm (congrArg (· - 8192) ringSize.symm)
  · have below : (arrays array).offset + index < shape.arraysSize := by
      have stop := offsetOf_end shape.arrayBytes (mem_arrayOrder array)
      have wider := grows array
      rw [place array]
      simp only [Region.ptr, Region.offset, PoolShape.arraysSize]
      omega
    exact (ringBelow _ _ below).trans ((congrArg (memory.cellAt · index) (place array)).trans
      (copied array index inside))

theorem arrayBytes_mono {level newLevel : FlowLevel} (higher : ¬ newLevel.rank ≤ level.rank)
    (numWindows respDelayCapacity : Nat) (array : ArrayId) :
    PoolShape.arrayBytes ⟨flowMemLevelToSeqLen level, numWindows, respDelayCapacity⟩ array ≤
      PoolShape.arrayBytes ⟨flowMemLevelToSeqLen newLevel, numWindows, respDelayCapacity⟩
        array := by
  refine Nat.mul_le_mul_right _ ?_
  have grows := FlowLevel.higher_seqLen higher
  cases array <;> first | exact grows | exact le_refl _

/-- An upgrade to a higher level succeeds when its allocation does. -/
theorem flowMemPoolUpgrade_upgraded {pool : FlowMemPool D} (wellFormed : pool.WellFormed)
    {newLevel : FlowLevel} (higher : ¬ newLevel.rank ≤ pool.level.rank) :
    ∃ upgraded, flowMemPoolUpgrade pool newLevel true = some upgraded ∧
      pool.Upgraded upgraded newLevel := by
  obtain ⟨sameId, sameSize, sameFault, stop, place, copied⟩ :=
    upgradeArrays_spec pool wellFormed.seqLen_eq higher (upgradeBlock pool newLevel) rfl
  simp only [flowMemPoolUpgrade, if_neg higher, Bool.not_true,
    Bool.false_eq_true, if_false]
  dsimp only at sameId sameSize sameFault stop place copied
  generalize arrayOrder.foldl (upgradeArray pool (flowMemLevelToSeqLen newLevel))
    (upgradeBlock pool newLevel, pool.arrays, 0) = placed at *
  refine ⟨_, rfl, ?_⟩
  rw [stop]
  rw [← sameId] at place copied
  refine upgradedPool_upgraded sameId sameSize sameFault place copied fun array => ?_
  rw [FlowMemPool.shape, wellFormed.seqLen_eq]
  exact arrayBytes_mono higher _ _ _

end Pools

end TiFeatures
