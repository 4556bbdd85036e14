/-
This file follows the pool of a flow through any sequence of upgrades. Whatever
is stored in its block in between, the arrays, the circular buffers and the
temporary area stay apart and inside the block, and an upgrade gives the offsets
of a fresh pool of the new level with the contents of every array.
-/

import TiFeatures.StoreUpgrade

namespace TiFeatures

open CMemory Layout

variable {D : Type}

/-! ### The parts of a block -/

/-- What lies in the block of a pool: the arrays, the circular buffers and the temporary area. -/
inductive PoolPart where
  | region (which : Region)
  | temp
  deriving DecidableEq

/-- Where a part starts, for some buffers bound in the ring area. -/
def PoolPart.start (pool : FlowMemPool D) (seqs : SeqId → CircularBuffer) :
    PoolPart → Option Ptr
  | .region (.array which) => some (pool.arrays which)
  | .region (.seq which) => (seqs which).data
  | .temp => some pool.tempMem

/-- The number of bytes of a part. -/
def PoolPart.bytes (pool : FlowMemPool D) (seqs : SeqId → CircularBuffer) : PoolPart → Nat
  | .region (.array which) =>
    which.bytes pool.actualSeqLen pool.numWindows pool.respDelayCapacity
  | .region (.seq which) => (seqs which).capacity * (seqs which).elemSize
  | .temp => pool.tempMemSize

/-- Every part has its own place in the block. -/
structure LaidOut (pool : FlowMemPool D) (seqs : SeqId → CircularBuffer) : Prop where
  inside : ∀ part, ∃ pointer, PoolPart.start pool seqs part = some pointer ∧
    pool.memory.Fits pointer (PoolPart.bytes pool seqs part)
  disjoint : ∀ first second, first ≠ second → ∀ pointer other,
    PoolPart.start pool seqs first = some pointer →
    PoolPart.start pool seqs second = some other →
    pointer.offset + PoolPart.bytes pool seqs first ≤ other.offset ∨
      other.offset + PoolPart.bytes pool seqs second ≤ pointer.offset

/-- The rings of a pool, carved in the order of `flow_state_init`; none if one of the thirteen
calls of `flow_mem_pool_get_ring_buffer` fails. -/
def carvedRings (pool : FlowMemPool D) : Option ((SeqId → CircularBuffer) × Nat) :=
  seqOrder.foldlM (initRingBuffer pool pool.actualSeqLen) (fun _ => clearedBuffer, 0)

/-- A pool of the layout of its level has thirteen rings, each of the level's capacity. -/
theorem FlowMemPool.WellFormed.rings {pool : FlowMemPool D} (wellFormed : pool.WellFormed) :
    ∃ carved, carvedRings pool = some carved ∧ ∀ seq, carved.1 seq =
      emptyBuffer ((Region.seq seq).ptr pool.shape pool.memory.id) seq.elemSize
        pool.actualSeqLen := by
  have positive : 0 < pool.actualSeqLen := by
    rw [wellFormed.seqLen_eq]
    exact flowMemLevelToSeqLen_pos _
  have ringRoom : 0 + totalSize (fun seq : SeqId => pool.actualSeqLen * seq.elemSize) seqOrder ≤
      pool.ringBufferSize := by
    have room := wellFormed.room
    have ring := wellFormed.ringBufferSize_eq
    rw [show (fun seq : SeqId => pool.actualSeqLen * seq.elemSize) = pool.shape.seqBytes from rfl]
    omega
  obtain ⟨carved, carved_eq, place⟩ := foldlM_initRingBuffer pool positive seqOrder_nodup
    (fun _ => clearedBuffer) 0 ringRoom
  refine ⟨carved, carved_eq, fun seq => ?_⟩
  rw [place seq, if_pos (mem_seqOrder seq), Nat.zero_add, wellFormed.ringBufferData_eq]
  rfl

section Layouts

variable {pool : FlowMemPool D} {seqs : SeqId → CircularBuffer}

/-- The arrays and the rings are at their regions. -/
theorem FlowMemPool.WellFormed.region_place (wellFormed : pool.WellFormed)
    (bound : ∀ seq, seqs seq = emptyBuffer ((Region.seq seq).ptr pool.shape pool.memory.id)
      seq.elemSize pool.actualSeqLen) (region : Region) :
    PoolPart.start pool seqs (.region region) = some (region.ptr pool.shape pool.memory.id) ∧
      PoolPart.bytes pool seqs (.region region) = region.bytes pool.shape := by
  cases region with
  | array which => exact ⟨congrArg some (wellFormed.arrays_eq which), rfl⟩
  | seq which =>
    simp only [PoolPart.start, PoolPart.bytes, bound which]
    exact ⟨rfl, rfl⟩

/-- A region ends where the temporary area starts, or before. -/
theorem FlowMemPool.WellFormed.region_before_temp (wellFormed : pool.WellFormed)
    (region : Region) : region.offset pool.shape + region.bytes pool.shape ≤
      pool.tempMem.offset := by
  have stop := region_end pool.shape region
  have room := wellFormed.room
  rw [wellFormed.tempMem_eq]
  dsimp only
  omega

theorem FlowMemPool.WellFormed.laidOut (wellFormed : pool.WellFormed)
    (bound : ∀ seq, seqs seq = emptyBuffer ((Region.seq seq).ptr pool.shape pool.memory.id)
      seq.elemSize pool.actualSeqLen) : LaidOut pool seqs := by
  have room := wellFormed.room
  have temp_eq := wellFormed.tempMem_eq
  have tempSize_eq := wellFormed.tempMemSize_eq
  have place := wellFormed.region_place bound
  constructor
  · intro part
    cases part with
    | region which =>
      obtain ⟨start_eq, bytes_eq⟩ := place which
      exact ⟨_, start_eq, bytes_eq ▸ wellFormed.fits which⟩
    | temp =>
      refine ⟨_, rfl, by rw [temp_eq], ?_⟩
      rw [PoolPart.bytes, temp_eq, tempSize_eq]
      dsimp only
      omega
  · intro first second different pointer other firstStart secondStart
    cases first with
    | region first =>
      obtain ⟨first_eq, firstBytes⟩ := place first
      obtain rfl := Option.some.inj (first_eq.symm.trans firstStart)
      rw [firstBytes]
      cases second with
      | region second =>
        obtain ⟨second_eq, secondBytes⟩ := place second
        obtain rfl := Option.some.inj (second_eq.symm.trans secondStart)
        rw [secondBytes]
        exact region_disjoint pool.shape fun same => different (congrArg PoolPart.region same)
      | temp =>
        obtain rfl := Option.some.inj secondStart
        exact Or.inl (wellFormed.region_before_temp first)
    | temp =>
      obtain rfl := Option.some.inj firstStart
      cases second with
      | region second =>
        obtain ⟨second_eq, secondBytes⟩ := place second
        obtain rfl := Option.some.inj (second_eq.symm.trans secondStart)
        rw [secondBytes]
        exact Or.inr (wellFormed.region_before_temp second)
      | temp => exact absurd rfl different

end Layouts

/-! ### What happens to a pool -/

/-- What the program does to a pool. -/
inductive PoolEvent (D : Type) where
  | upgrade (newLevel : FlowLevel) (mallocOk : Bool)
  | checkUpgrade
  | allocTemp (size alignment : Nat)
  | store (pointer : Ptr) (cells : List (Cell D))

/-- `flow_mem_pool_upgrade` as a step: on failure the pool stays as it is. -/
def upgradeStep (pool : FlowMemPool D) (newLevel : FlowLevel) (mallocOk : Bool) :
    FlowMemPool D :=
  (flowMemPoolUpgrade pool newLevel mallocOk).getD pool

/-- One event. -/
def poolStep (pool : FlowMemPool D) : PoolEvent D → FlowMemPool D
  | .upgrade newLevel mallocOk => upgradeStep pool newLevel mallocOk
  | .checkUpgrade => (flowMemPoolCheckUpgrade pool).1
  | .allocTemp size alignment => (flowMemPoolAllocTemp pool size alignment).1
  | .store pointer cells => { pool with memory := pool.memory.store pointer cells }

/-- The invariant of a pool: the layout of its level, in a block it knows the size of. -/
structure FlowMemPool.Kept (numWindows respDelayCapacity : Nat) (pool : FlowMemPool D) :
    Prop where
  wellFormed : pool.WellFormed
  numWindows_eq : pool.numWindows = numWindows
  respDelayCapacity_eq : pool.respDelayCapacity = respDelayCapacity
  dynamicMem_eq : pool.dynamicMem = ⟨pool.memory.id, 0⟩
  dynamicMemSize_eq : pool.dynamicMemSize = pool.memory.size
  dynamicMemOffset_eq : pool.dynamicMemOffset = pool.ringBufferData.offset

section Steps

variable {numWindows respDelayCapacity : Nat} {pool : FlowMemPool D}

theorem flowMemPoolInitEx_kept (level : FlowLevel) (numWindows respDelayCapacity id : Nat) :
    ∃ pool : FlowMemPool D,
      flowMemPoolInitEx level numWindows respDelayCapacity (some id) = some pool ∧
        pool.Kept numWindows respDelayCapacity ∧ pool.level = level := by
  refine ⟨_, rfl, ⟨flowMemPoolInitEx_wellFormed rfl, rfl, rfl, rfl, rfl, rfl⟩, rfl⟩

/-- A check, a temporary allocation and a store leave the layout alone. -/
theorem FlowMemPool.Kept.checkUpgrade (kept : pool.Kept numWindows respDelayCapacity) :
    (flowMemPoolCheckUpgrade pool).1.Kept numWindows respDelayCapacity := by
  obtain ⟨count, flag, checked_eq⟩ := flowMemPoolCheckUpgrade_eq pool
  rw [checked_eq]
  exact { kept with wellFormed := { kept.wellFormed with } }

theorem FlowMemPool.Kept.allocTemp (kept : pool.Kept numWindows respDelayCapacity)
    (size alignment : Nat) :
    (flowMemPoolAllocTemp pool size alignment).1.Kept numWindows respDelayCapacity := by
  unfold flowMemPoolAllocTemp
  split
  · exact kept
  · split
    · exact kept
    · exact { kept with wellFormed := { kept.wellFormed with } }

theorem FlowMemPool.Kept.store (kept : pool.Kept numWindows respDelayCapacity) (pointer : Ptr)
    (cells : List (Cell D)) : ({ pool with memory := pool.memory.store pointer cells } :
      FlowMemPool D).Kept numWindows respDelayCapacity := by
  have wellFormed := kept.wellFormed
  have id_eq := Block.store_id pool.memory pointer cells
  have size_eq := Block.store_size pool.memory pointer cells
  exact
    { kept with
      wellFormed :=
        { wellFormed with
          size_eq := size_eq.trans wellFormed.size_eq
          arrays_eq := id_eq ▸ wellFormed.arrays_eq
          ringBufferData_eq := id_eq ▸ wellFormed.ringBufferData_eq
          ringBufferSize_eq := size_eq ▸ wellFormed.ringBufferSize_eq
          tempMem_eq := id_eq ▸ size_eq ▸ wellFormed.tempMem_eq }
      dynamicMem_eq := id_eq ▸ kept.dynamicMem_eq
      dynamicMemSize_eq := size_eq ▸ kept.dynamicMemSize_eq }

theorem upgradeRingArea_id (pool : FlowMemPool D) (memory : Block D) (ringBufferData : Ptr)
    (ringBufferSize : Nat) :
    (upgradeRingArea pool memory ringBufferData ringBufferSize).id = memory.id := by
  unfold upgradeRingArea
  split
  · exact Block.copyFrom_id _ _ _ _ _
  · rfl

/-- The bookkeeping of an upgraded pool. -/
theorem flowMemPoolUpgrade_dynamicMem {newLevel : FlowLevel} {upgraded : FlowMemPool D}
    (upgrade_eq : flowMemPoolUpgrade pool newLevel true = some upgraded)
    (done : pool.Upgraded upgraded newLevel) :
    upgraded.dynamicMem = ⟨upgraded.memory.id, 0⟩ ∧
      upgraded.dynamicMemSize = upgraded.memory.size ∧
      upgraded.dynamicMemOffset = upgraded.ringBufferData.offset := by
  have size_eq := done.wellFormed.size_eq
  rw [done.level_eq, done.numWindows_eq, done.respDelayCapacity_eq] at size_eq
  unfold flowMemPoolUpgrade at upgrade_eq
  split at upgrade_eq
  · cases upgrade_eq
  · obtain rfl := Option.some.inj upgrade_eq
    exact ⟨congrArg (Ptr.mk · 0) (upgradeRingArea_id _ _ _ _).symm, size_eq.symm, rfl⟩

/-- An upgrade to a higher level gives a pool of that level with the arrays of the old one. -/
theorem FlowMemPool.Kept.upgrade (kept : pool.Kept numWindows respDelayCapacity)
    {newLevel : FlowLevel} (higher : ¬ newLevel.rank ≤ pool.level.rank) :
    ∃ upgraded, flowMemPoolUpgrade pool newLevel true = some upgraded ∧
      upgraded.Kept numWindows respDelayCapacity ∧ pool.Upgraded upgraded newLevel := by
  obtain ⟨upgraded, upgrade_eq, done⟩ := flowMemPoolUpgrade_upgraded kept.wellFormed higher
  obtain ⟨dynamicMem_eq, dynamicMemSize_eq, dynamicMemOffset_eq⟩ :=
    flowMemPoolUpgrade_dynamicMem upgrade_eq done
  exact ⟨upgraded, upgrade_eq,
    ⟨done.wellFormed, done.numWindows_eq.trans kept.numWindows_eq,
      done.respDelayCapacity_eq.trans kept.respDelayCapacity_eq, dynamicMem_eq,
      dynamicMemSize_eq, dynamicMemOffset_eq⟩, done⟩

/-- A failed allocation changes nothing. -/
theorem upgradeStep_failed (pool : FlowMemPool D) (newLevel : FlowLevel) :
    upgradeStep pool newLevel false = pool := by
  have failed : flowMemPoolUpgrade pool newLevel false = none := by
    unfold flowMemPoolUpgrade
    split
    · rfl
    · rfl
  rw [upgradeStep, failed]
  rfl

/-- A level that is not higher is refused. -/
theorem upgradeStep_refused {newLevel : FlowLevel} (lower : newLevel.rank ≤ pool.level.rank)
    (mallocOk : Bool) : upgradeStep pool newLevel mallocOk = pool := by
  rw [upgradeStep, flowMemPoolUpgrade, if_pos lower]
  rfl

theorem FlowMemPool.Kept.step (kept : pool.Kept numWindows respDelayCapacity)
    (event : PoolEvent D) : (poolStep pool event).Kept numWindows respDelayCapacity := by
  cases event with
  | upgrade newLevel mallocOk =>
    rw [poolStep]
    cases mallocOk with
    | false =>
      rw [upgradeStep_failed]
      exact kept
    | true =>
      by_cases lower : newLevel.rank ≤ pool.level.rank
      · rw [upgradeStep_refused lower]
        exact kept
      · obtain ⟨upgraded, upgrade_eq, upgradedKept, -⟩ := kept.upgrade lower
        rw [upgradeStep, upgrade_eq]
        exact upgradedKept
  | checkUpgrade => exact kept.checkUpgrade
  | allocTemp size alignment => exact kept.allocTemp size alignment
  | store pointer cells => exact kept.store pointer cells

theorem FlowMemPool.Kept.run (kept : pool.Kept numWindows respDelayCapacity)
    (events : List (PoolEvent D)) :
    (events.foldl poolStep pool).Kept numWindows respDelayCapacity := by
  induction events generalizing pool with
  | nil => exact kept
  | cons event rest inductionHypothesis => exact inductionHypothesis (kept.step event)

end Steps

/-! ### The laws of a pool -/

/-- Two pools have the same offsets in their blocks. -/
structure SameOffsets (pool other : FlowMemPool D) : Prop where
  size_eq : pool.memory.size = other.memory.size
  actualSeqLen_eq : pool.actualSeqLen = other.actualSeqLen
  arrays_eq : ∀ array, (pool.arrays array).offset = (other.arrays array).offset
  ringBufferData_eq : pool.ringBufferData.offset = other.ringBufferData.offset
  ringBufferSize_eq : pool.ringBufferSize = other.ringBufferSize
  tempMem_eq : pool.tempMem.offset = other.tempMem.offset
  tempMemSize_eq : pool.tempMemSize = other.tempMemSize
  dynamicMem_eq : pool.dynamicMem.offset = other.dynamicMem.offset
  dynamicMemSize_eq : pool.dynamicMemSize = other.dynamicMemSize
  dynamicMemOffset_eq : pool.dynamicMemOffset = other.dynamicMemOffset

/-- The layout is determined by the level and the two capacities. -/
theorem FlowMemPool.Kept.sameOffsets {numWindows respDelayCapacity : Nat}
    {pool other : FlowMemPool D} (kept : pool.Kept numWindows respDelayCapacity)
    (otherKept : other.Kept numWindows respDelayCapacity) (level_eq : pool.level = other.level) :
    SameOffsets pool other := by
  have first := kept.wellFormed
  have second := otherKept.wellFormed
  have size_eq : pool.memory.size = other.memory.size := by
    rw [first.size_eq, second.size_eq, level_eq, kept.numWindows_eq, otherKept.numWindows_eq,
      kept.respDelayCapacity_eq, otherKept.respDelayCapacity_eq]
  have seqLen_eq : pool.actualSeqLen = other.actualSeqLen := by
    rw [first.seqLen_eq, second.seqLen_eq, level_eq]
  have shape_eq : pool.shape = other.shape := by
    rw [shape, shape, seqLen_eq, kept.numWindows_eq, otherKept.numWindows_eq,
      kept.respDelayCapacity_eq, otherKept.respDelayCapacity_eq]
  have ring_eq : pool.ringBufferData.offset = other.ringBufferData.offset := by
    rw [first.ringBufferData_eq, second.ringBufferData_eq, shape_eq]
  exact
    { size_eq
      actualSeqLen_eq := seqLen_eq
      arrays_eq := fun array => by
        rw [first.arrays_eq, second.arrays_eq, shape_eq]
        rfl
      ringBufferData_eq := ring_eq
      ringBufferSize_eq := by
        rw [first.ringBufferSize_eq, second.ringBufferSize_eq, size_eq, shape_eq]
      tempMem_eq := by rw [first.tempMem_eq, second.tempMem_eq, size_eq]
      tempMemSize_eq := first.tempMemSize_eq.trans second.tempMemSize_eq.symm
      dynamicMem_eq := by rw [kept.dynamicMem_eq, otherKept.dynamicMem_eq]
      dynamicMemSize_eq := by
        rw [kept.dynamicMemSize_eq, otherKept.dynamicMemSize_eq, size_eq]
      dynamicMemOffset_eq := by
        rw [kept.dynamicMemOffset_eq, otherKept.dynamicMemOffset_eq, ring_eq] }

/-- An upgraded pool has the elements of every array: the first `actualSeqLen` of the old level
of a sequence array, all of the others. -/
def KeepsArrays (pool upgraded : FlowMemPool D) : Prop :=
  ∀ array : ArrayId,
    let bytes := array.bytes pool.actualSeqLen pool.numWindows pool.respDelayCapacity
    upgraded.memory.load (upgraded.arrays array) bytes = pool.memory.load (pool.arrays array) bytes

/-- What holds of a pool at any time. -/
structure FlowMemPool.Laws (numWindows respDelayCapacity : Nat) (pool : FlowMemPool D) :
    Prop where
  size_eq : pool.memory.size = flowMemPoolCalcSizeEx pool.level numWindows respDelayCapacity
  tempMemSize_eq : pool.tempMemSize = 8192
  rings : ∃ carved, carvedRings pool = some carved ∧ LaidOut pool carved.1 ∧
    ∀ seq, (carved.1 seq).capacity = pool.actualSeqLen ∧ (carved.1 seq).elemSize = seq.elemSize
  failed : ∀ newLevel, upgradeStep pool newLevel false = pool
  refused : ∀ newLevel mallocOk, newLevel.rank ≤ pool.level.rank →
    upgradeStep pool newLevel mallocOk = pool
  upgraded : ∀ newLevel, ¬ newLevel.rank ≤ pool.level.rank →
    ∃ upgraded, flowMemPoolUpgrade pool newLevel true = some upgraded ∧
      KeepsArrays pool upgraded ∧ ∀ id, ∃ fresh,
        flowMemPoolInitEx newLevel numWindows respDelayCapacity (some id) = some fresh ∧
          SameOffsets upgraded fresh

theorem FlowMemPool.Kept.laws {numWindows respDelayCapacity : Nat} {pool : FlowMemPool D}
    (kept : pool.Kept numWindows respDelayCapacity) :
    pool.Laws numWindows respDelayCapacity := by
  refine
    { size_eq := ?_
      tempMemSize_eq := kept.wellFormed.tempMemSize_eq
      rings := ?_
      failed := upgradeStep_failed pool
      refused := fun newLevel mallocOk lower => upgradeStep_refused lower mallocOk
      upgraded := fun newLevel higher => ?_ }
  · rw [kept.wellFormed.size_eq, kept.numWindows_eq, kept.respDelayCapacity_eq]
  · obtain ⟨carved, carved_eq, bound⟩ := kept.wellFormed.rings
    refine ⟨carved, carved_eq, kept.wellFormed.laidOut bound, fun seq => ?_⟩
    rw [bound seq]
    exact ⟨rfl, rfl⟩
  · obtain ⟨upgraded, upgrade_eq, upgradedKept, done⟩ := kept.upgrade higher
    refine ⟨upgraded, upgrade_eq, fun array => Block.load_congr (done.copied array), fun id => ?_⟩
    obtain ⟨fresh, fresh_eq, freshKept, level_eq⟩ :=
      flowMemPoolInitEx_kept (D := D) newLevel numWindows respDelayCapacity id
    exact ⟨fresh, fresh_eq, upgradedKept.sameOffsets freshKept (done.level_eq.trans level_eq.symm)⟩

/-- A pool of any level and capacities keeps its laws through any sequence of upgrades, whatever
is stored in its block in between. -/
theorem poolRun_laws (level : FlowLevel) (numWindows respDelayCapacity id : Nat) :
    ∃ pool : FlowMemPool D,
      flowMemPoolInitEx level numWindows respDelayCapacity (some id) = some pool ∧
        ∀ events : List (PoolEvent D),
          (events.foldl poolStep pool).Laws numWindows respDelayCapacity := by
  obtain ⟨pool, init_eq, kept, -⟩ :=
    flowMemPoolInitEx_kept (D := D) level numWindows respDelayCapacity id
  exact ⟨pool, init_eq, fun events => (kept.run events).laws⟩

end TiFeatures
