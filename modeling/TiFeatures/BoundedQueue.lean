/-
This file shows that a circular buffer is a bounded queue: under any pushes and
clears, its count, its flag and its two ways of reading agree with the list of
the last elements pushed, and a buffer rebuilt from the snapshot of another one
goes on from the elements it was given.
-/

import TiFeatures.StoreUpgrade

namespace TiFeatures

open CMemory BoundedStore

variable {D : Type}

/-! ### Runs of a buffer -/

/-- One operation on a buffer and the block its elements are in. -/
def bufferStep (buffer : Block D × CircularBuffer) :
    QueueOp (List (Cell D)) → Block D × CircularBuffer
  | .push elem => circularBufferPushed buffer.1 buffer.2 elem
  | .clear => (buffer.1, circularBufferClear buffer.2)

/-- Operations one after the other. -/
def bufferRun (buffer : Block D × CircularBuffer) (ops : List (QueueOp (List (Cell D)))) :
    Block D × CircularBuffer :=
  ops.foldl bufferStep buffer

/-- Every element that is pushed has the size of the buffer's elements. -/
def Sized (elemSize : Nat) (ops : List (QueueOp (List (Cell D)))) : Prop :=
  ∀ elem, QueueOp.push elem ∈ ops → elem.length = elemSize

/-- A buffer of a capacity shows the elements of a queue, from the oldest to the newest. -/
structure HoldsQueue (capacity : Nat) (buffer : Block D × CircularBuffer)
    (queue : List (List (Cell D))) : Prop where
  count_eq : circularBufferCount buffer.2 = queue.length
  count_le : buffer.2.count ≤ capacity
  isFull_iff : buffer.2.isFull = true ↔ buffer.2.count = capacity
  getArray_eq : ∀ mallocOk, circularBufferGetArray buffer.1 buffer.2 mallocOk =
    (if queue ≠ [] ∧ mallocOk then some queue else none, queue.length)
  get_eq : ∀ index (inside : index < queue.length), ∃ pointer,
    circularBufferGet buffer.2 index = some pointer ∧
      buffer.1.load pointer buffer.2.elemSize = queue[index]
  get_none : ∀ index, queue.length ≤ index → circularBufferGet buffer.2 index = none

/-- From here on, a buffer is the bounded queue that starts with some elements. -/
def BehavesAsQueue (capacity elemSize : Nat) (buffer : Block D × CircularBuffer)
    (start : List (List (Cell D))) : Prop :=
  ∀ ops, Sized elemSize ops →
    HoldsQueue capacity (bufferRun buffer ops) ((sinceClear start ops).rtake capacity)

/-! ### The invariant of a run -/

/-- A well-formed buffer of a capacity and an element size that holds some elements. -/
structure QueueState (capacity elemSize : Nat) (data : Ptr) (buffer : Block D × CircularBuffer)
    (queue : List (List (Cell D))) : Prop where
  wellFormed : buffer.2.WellFormed buffer.1 data
  capacity_eq : buffer.2.capacity = capacity
  elemSize_eq : buffer.2.elemSize = elemSize
  contents_eq : buffer.2.contents buffer.1 data = queue

section Runs

variable {capacity elemSize : Nat} {data : Ptr} {buffer : Block D × CircularBuffer}
  {queue : List (List (Cell D))}

/-- A push keeps the capacity and the size of the elements. -/
theorem pushed_sizes {cb : CircularBuffer} {block : Block D}
    (wellFormed : cb.WellFormed block data) (elem : List (Cell D)) :
    (circularBufferPushed block cb elem).2.capacity = cb.capacity ∧
      (circularBufferPushed block cb elem).2.elemSize = cb.elemSize := by
  cases full : cb.isFull with
  | true =>
    rw [pushed_full wellFormed full]
    exact ⟨rfl, rfl⟩
  | false =>
    rw [pushed_notFull wellFormed full]
    exact ⟨rfl, rfl⟩

theorem QueueState.push (state : QueueState capacity elemSize data buffer queue)
    {elem : List (Cell D)} (width : elem.length = elemSize) :
    QueueState capacity elemSize data (circularBufferPushed buffer.1 buffer.2 elem)
      (slide capacity queue elem) where
  wellFormed := state.wellFormed.pushed elem
  capacity_eq := (pushed_sizes state.wellFormed elem).1.trans state.capacity_eq
  elemSize_eq := (pushed_sizes state.wellFormed elem).2.trans state.elemSize_eq
  contents_eq := by
    rw [contents_pushed state.wellFormed (width.trans state.elemSize_eq.symm),
      state.contents_eq, state.capacity_eq]

theorem QueueState.clear (state : QueueState capacity elemSize data buffer queue) :
    QueueState capacity elemSize data (buffer.1, circularBufferClear buffer.2) [] where
  wellFormed :=
    { state.wellFormed with
      count_le := Nat.zero_le _
      isFull_iff := iff_of_false Bool.false_ne_true state.wellFormed.capacity_pos.ne
      tail_lt := state.wellFormed.capacity_pos
      head_lt := state.wellFormed.capacity_pos
      head_full := fun _ => rfl
      head_partial := fun _ => ⟨rfl, rfl⟩ }
  capacity_eq := state.capacity_eq
  elemSize_eq := state.elemSize_eq
  contents_eq := rfl

/-- Whatever is done to a buffer is done to the queue it holds. -/
theorem QueueState.run (state : QueueState capacity elemSize data buffer queue)
    {ops : List (QueueOp (List (Cell D)))} (sized : Sized elemSize ops) :
    QueueState capacity elemSize data (bufferRun buffer ops)
      (ops.foldl (queueStep capacity) queue) := by
  induction ops generalizing buffer queue with
  | nil => exact state
  | cons op rest inductionHypothesis =>
    have restSized : Sized elemSize rest := fun elem inside =>
      sized elem (List.mem_cons_of_mem _ inside)
    cases op with
    | push elem =>
      exact inductionHypothesis (state.push (sized elem List.mem_cons_self)) restSized
    | clear => exact inductionHypothesis state.clear restSized

theorem QueueState.length_eq (state : QueueState capacity elemSize data buffer queue) :
    queue.length = buffer.2.count := by
  rw [← state.contents_eq, CircularBuffer.length_contents]

/-- A buffer in such a state shows its queue. -/
theorem QueueState.holds (state : QueueState capacity elemSize data buffer queue) :
    HoldsQueue capacity buffer queue := by
  have wellFormed := state.wellFormed
  have length_eq := state.length_eq
  have elemSize_ne : (buffer.2.elemSize == 0) = false :=
    beq_eq_false_iff_ne.mpr wellFormed.elemSize_pos.ne'
  have capacity_ne : (buffer.2.capacity == 0) = false :=
    beq_eq_false_iff_ne.mpr wellFormed.capacity_pos.ne'
  refine ⟨length_eq.symm, state.capacity_eq ▸ wellFormed.count_le,
    state.capacity_eq ▸ wellFormed.isFull_iff, fun mallocOk => ?_, fun index inside => ?_,
    fun index outside => ?_⟩
  · by_cases empty : buffer.2.count = 0
    · have none_held : queue = [] := List.eq_nil_of_length_eq_zero (length_eq.trans empty)
      simp only [circularBufferGetArray, wellFormed.data_eq, empty, none_held]
      rfl
    · have held : queue ≠ [] := fun none_held => empty (by rw [← length_eq, none_held]; rfl)
      have count_ne : (buffer.2.count == 0) = false := beq_eq_false_iff_ne.mpr empty
      simp only [circularBufferGetArray, wellFormed.data_eq, count_ne, elemSize_ne,
        Bool.or_false, Bool.false_eq_true, if_false, length_eq]
      cases mallocOk with
      | false => simp only [Bool.not_false, if_true, Bool.false_eq_true, and_false, if_false]
      | true =>
        simp only [Bool.not_true, Bool.false_eq_true, if_false, held, ne_eq, not_false_eq_true,
          and_self, if_true]
        exact congrArg (fun elems => (some elems, buffer.2.count)) state.contents_eq
  · refine ⟨data.add (buffer.2.slot index * buffer.2.elemSize), ?_, ?_⟩
    · have inRange : ¬ (buffer.2.count > buffer.2.capacity ∨ index ≥ buffer.2.count) := by
        have within := wellFormed.count_le
        omega
      simp only [circularBufferGet, wellFormed.data_eq, capacity_ne, elemSize_ne, Bool.or_self,
        Bool.false_eq_true, if_false]
      simp [inRange]
    · simp only [← state.contents_eq, CircularBuffer.contents, List.getElem_map,
        List.getElem_range]
  · have beyond : index ≥ buffer.2.count := length_eq ▸ outside
    simp only [circularBufferGet, wellFormed.data_eq, capacity_ne, elemSize_ne, Bool.or_self,
      Bool.false_eq_true, if_false]
    simp [beyond]

/-- A buffer that holds at most its capacity is from then on a bounded queue. -/
theorem QueueState.behavesAsQueue (state : QueueState capacity elemSize data buffer queue) :
    BehavesAsQueue capacity elemSize buffer queue := by
  intro ops sized
  have within : queue.length ≤ capacity := by
    rw [state.length_eq, ← state.capacity_eq]
    exact state.wellFormed.count_le
  rw [← foldl_queueStep, rtake_of_length_le within]
  exact (state.run sized).holds

end Runs

/-! ### A fresh buffer -/

theorem circularBufferInit_state {capacity elemSize : Nat} (id : Nat)
    (capacity_pos : 1 ≤ capacity) (capacity_le : capacity ≤ 2 ^ 31) (elemSize_pos : 1 ≤ elemSize)
    (small : capacity * elemSize < 2 ^ 64) :
    ∃ fresh : Block D × CircularBuffer,
      circularBufferInit capacity elemSize (some id) = some fresh ∧
      QueueState capacity elemSize ⟨id, 0⟩ fresh [] := by
  have sizes : (capacity == 0 || elemSize == 0) = false := by
    simp only [Bool.or_eq_false_iff, beq_eq_false_iff_ne]
    omega
  refine ⟨(Block.zeroed id (u64 (capacity * elemSize)), emptyBuffer ⟨id, 0⟩ elemSize capacity), ?_,
    ?_, rfl, rfl, rfl⟩
  · rw [circularBufferInit, sizes]
    rfl
  · rw [emptyBuffer_eq capacity_pos]
    refine filledBuffer_wellFormed ⟨rfl, ?_⟩ elemSize_pos capacity_pos capacity_le
      (Nat.zero_le _)
    rw [u64, Nat.mod_eq_of_lt small]
    exact (Nat.zero_add _).le

/-! ### Rebuilt buffers -/

/-- `ring_buffer_rebind_from_snapshot`, for one buffer of any element size: the block, the
buffer and the ring offset it leaves, or the failure when the pool has no ring area left. -/
def rebindFromSnapshot (pool : FlowMemPool D) (memory : Block D)
    (ringOffset capacity elemSize : Nat) (snap : RingBufferSnapshot D) :
    Option (Block D × CircularBuffer × Nat) :=
  (flowMemPoolGetRingBuffer pool ringOffset).map fun ringData =>
    let bound := emptyBuffer ringData elemSize capacity
    let nextOffset := ringOffset + capacity * elemSize
    match snap.data with
    | none => (memory, bound, nextOffset)
    | some data =>
      if snap.count > 0 ∧ snap.elemSize = elemSize then
        let copyCount := if snap.count < capacity then snap.count else capacity
        (memory.store ringData (data.take (copyCount * elemSize)),
          { bound with
            count := copyCount
            tail := 0
            head := copyCount % capacity
            isFull := copyCount == capacity },
          nextOffset)
      else (memory, bound, nextOffset)

/-- The buffers of a flow are rebuilt one by one in this way. -/
theorem ringBufferRebindFromSnapshot_seq (pool : FlowMemPool D) (capacity : Nat)
    (snaps : SeqId → RingBufferSnapshot D) (memory : Block D) (seqs : SeqId → CircularBuffer)
    (ringOffset : Nat) (seq : SeqId) :
    ringBufferRebindFromSnapshot pool capacity snaps (memory, seqs, ringOffset) seq =
      match rebindFromSnapshot pool memory ringOffset capacity seq.elemSize (snaps seq) with
      | none => (memory, seqs, ringOffset)
      | some (rebound, cb, nextOffset) => (rebound, Function.update seqs seq cb, nextOffset) := by
  cases place : flowMemPoolGetRingBuffer pool ringOffset with
  | none => simp only [ringBufferRebindFromSnapshot, rebindFromSnapshot, place, Option.map_none]
  | some ringData =>
    simp only [ringBufferRebindFromSnapshot, rebindFromSnapshot, place, Option.map_some]
    cases (snaps seq).data with
    | none => rfl
    | some cells =>
      by_cases copied : (snaps seq).count > 0 ∧ (snaps seq).elemSize = seq.elemSize
      · simp only [if_pos copied]
      · simp only [if_neg copied]

section Rebind

variable {pool : FlowMemPool D} {memory : Block D} {ringOffset capacity elemSize : Nat}

/-- A rebuilt buffer holds the elements of the snapshot. -/
theorem rebindFromSnapshot_state (capacity_pos : 1 ≤ capacity) (capacity_le : capacity ≤ 2 ^ 31)
    (elemSize_pos : 1 ≤ elemSize) (inside : ringOffset < pool.ringBufferSize)
    (fits : memory.Fits (pool.ringBufferData.add ringOffset) (capacity * elemSize))
    {elems : List (List (Cell D))} (within : elems.length ≤ capacity)
    (widths : ∀ elem ∈ elems, elem.length = elemSize) :
    ∃ rebound cb, rebindFromSnapshot pool memory ringOffset capacity elemSize
        (.ofElems elemSize elems) = some (rebound, cb, ringOffset + capacity * elemSize) ∧
      QueueState capacity elemSize (pool.ringBufferData.add ringOffset) (rebound, cb) elems := by
  have flat_length : elems.flatten.length = elems.length * elemSize :=
    length_flatten_elems widths
  have range_le : elems.length * elemSize ≤ capacity * elemSize :=
    Nat.mul_le_mul_right _ within
  have fitsCopied : memory.Fits (pool.ringBufferData.add ringOffset) elems.flatten.length :=
    ⟨fits.1, (Nat.add_le_add_left (flat_length.trans_le range_le) _).trans fits.2⟩
  refine ⟨memory.store (pool.ringBufferData.add ringOffset) elems.flatten,
    filledBuffer (pool.ringBufferData.add ringOffset) elemSize capacity elems.length, ?_, ?_, rfl,
    rfl, ?_⟩
  · simp only [rebindFromSnapshot, flowMemPoolGetRingBuffer, if_neg (Nat.not_le.mpr inside),
      Option.map_some, RingBufferSnapshot.ofElems]
    by_cases empty : elems.length = 0
    · obtain rfl := List.eq_nil_of_length_eq_zero empty
      simp only [List.length_nil, if_true, List.flatten_nil, Block.store_nil fitsCopied,
        emptyBuffer_eq capacity_pos]
    · have copied : (if elems.length < capacity then elems.length else capacity) =
          elems.length := by
        split <;> omega
      have whole : elems.flatten.take (elems.length * elemSize) = elems.flatten := by
        rw [← flat_length, List.take_length]
      simp only [if_neg empty, Nat.pos_of_ne_zero empty, and_true, if_true, copied, whole]
      rfl
  · exact (filledBuffer_wellFormed fits elemSize_pos capacity_pos capacity_le within).transfer
      (Block.store_id _ _ _) (Block.store_size _ _ _)
  · refine filledBuffer_contents capacity_le within widths ?_
    rw [← flat_length]
    exact Block.load_store_same fitsCopied

end Rebind

/-! ### The refinement -/

/-- A pool that is nothing but a ring area. -/
def ringPool (D : Type) (size : Nat) : FlowMemPool D where
  memory := Block.zeroed 1 size
  dynamicMem := ⟨1, 0⟩
  dynamicMemSize := size
  dynamicMemOffset := 0
  tempMem := ⟨1, 0⟩
  tempMemSize := 0
  tempMemOffset := 0
  arrays := fun _ => ⟨1, 0⟩
  ringBufferData := ⟨1, 0⟩
  ringBufferSize := size
  level := .tiny
  actualSeqLen := 0
  currentPktCount := 0
  needsUpgrade := false
  numWindows := 0
  respDelayCapacity := 0

/-- A fresh circular buffer is a bounded queue; at any point, the buffer rebuilt from a snapshot
of it in another block holds the same elements and is again a bounded queue. -/
theorem circularBuffer_refinesQueue {capacity elemSize : Nat} (id : Nat)
    (capacity_pos : 1 ≤ capacity) (capacity_le : capacity ≤ 2 ^ 31) (elemSize_pos : 1 ≤ elemSize)
    (small : capacity * elemSize < 2 ^ 64) :
    ∃ fresh : Block D × CircularBuffer,
      circularBufferInit capacity elemSize (some id) = some fresh ∧
      BehavesAsQueue capacity elemSize fresh [] ∧
      ∀ ops, Sized elemSize ops → ∀ (pool : FlowMemPool D) (memory : Block D)
        (ringOffset newCapacity : Nat), 1 ≤ newCapacity → newCapacity ≤ 2 ^ 31 →
        (bufferRun fresh ops).2.count ≤ newCapacity → ringOffset < pool.ringBufferSize →
        memory.Fits (pool.ringBufferData.add ringOffset) (newCapacity * elemSize) →
        ∃ rebound cb, rebindFromSnapshot pool memory ringOffset newCapacity elemSize
            (ringBufferSnapshotCapture (bufferRun fresh ops).1 (bufferRun fresh ops).2 true) =
              some (rebound, cb, ringOffset + newCapacity * elemSize) ∧
          HoldsQueue newCapacity (rebound, cb) ((sinceClear [] ops).rtake capacity) ∧
          BehavesAsQueue newCapacity elemSize (rebound, cb)
            ((sinceClear [] ops).rtake capacity) := by
  obtain ⟨fresh, init_eq, state⟩ :=
    circularBufferInit_state (D := D) id capacity_pos capacity_le elemSize_pos small
  refine ⟨fresh, init_eq, state.behavesAsQueue, ?_⟩
  intro ops sized pool memory ringOffset newCapacity newCapacity_pos newCapacity_le within inside
    fits
  have final := state.run sized
  have queue_eq : ops.foldl (queueStep capacity) [] = (sinceClear [] ops).rtake capacity := by
    rw [← foldl_queueStep, rtake_of_length_le (Nat.zero_le _)]
  rw [queue_eq] at final
  have widths : ∀ elem ∈ (sinceClear [] ops).rtake capacity, elem.length = elemSize := by
    intro elem member
    rw [← final.contents_eq] at member
    obtain ⟨index, -, rfl⟩ := List.mem_map.mp member
    rw [Block.load_length, final.elemSize_eq]
  have snapshot : ringBufferSnapshotCapture (bufferRun fresh ops).1 (bufferRun fresh ops).2 true =
      .ofElems elemSize ((sinceClear [] ops).rtake capacity) := by
    rw [ringBufferSnapshotCapture_eq final.wellFormed, final.elemSize_eq, final.contents_eq]
    rfl
  obtain ⟨rebound, cb, rebind_eq, reboundState⟩ := rebindFromSnapshot_state newCapacity_pos
    newCapacity_le elemSize_pos inside fits (final.length_eq.trans_le within) widths
  exact ⟨rebound, cb, snapshot ▸ rebind_eq, reboundState.holds, reboundState.behavesAsQueue⟩

/-- The cells of a small number in four bytes. -/
def wordCells (value : UInt8) : List (Cell Unit) :=
  [.byte value, .byte 0, .byte 0, .byte 0]

/-- A push, a clear, and three more pushes. -/
def pushesBeyond : List (QueueOp (List (Cell Unit))) :=
  [.push (wordCells 9), .clear, .push (wordCells 1), .push (wordCells 2), .push (wordCells 3)]

/-- A buffer of two elements of four bytes is cleared, pushed three elements and rebuilt with room
for three: the last two are there. -/
theorem circularBuffer_refinesQueue_overflow :
    ∃ fresh : Block Unit × CircularBuffer, circularBufferInit 2 4 (some 0) = some fresh ∧
      BehavesAsQueue 2 4 fresh [] ∧ ∃ rebound cb,
        rebindFromSnapshot (ringPool Unit 12) (ringPool Unit 12).memory 0 3 4
          (ringBufferSnapshotCapture (bufferRun fresh pushesBeyond).1
            (bufferRun fresh pushesBeyond).2 true) = some (rebound, cb, 12) ∧
        HoldsQueue 3 (rebound, cb) [wordCells 2, wordCells 3] ∧
        BehavesAsQueue 3 4 (rebound, cb) [wordCells 2, wordCells 3] := by
  obtain ⟨fresh, init_eq, behaves, rebuilt⟩ := circularBuffer_refinesQueue (D := Unit) 0
    (show 1 ≤ 2 by decide) (by decide) (show 1 ≤ 4 by decide) (by decide)
  have sized : Sized 4 pushesBeyond := by
    intro elem inside
    simp only [pushesBeyond, List.mem_cons, QueueOp.push.injEq, reduceCtorEq, false_or,
      List.not_mem_nil, or_false] at inside
    rcases inside with rfl | rfl | rfl | rfl <;> rfl
  have full : (bufferRun fresh pushesBeyond).2.count ≤ 3 := by
    have held := behaves pushesBeyond sized
    exact held.count_le.trans (by decide)
  obtain ⟨rebound, cb, rebind_eq, holds, onwards⟩ := rebuilt pushesBeyond sized
    (ringPool Unit 12) (ringPool Unit 12).memory 0 3 (by decide) (by decide) full (by decide)
    (by decide)
  exact ⟨fresh, init_eq, behaves, rebound, cb, rebind_eq, holds, onwards⟩

/-- A push that does not fit the block changes none of its cells. -/
theorem pushed_cells_of_short {block : Block D} {cb : CircularBuffer} {data : Ptr}
    {elem : List (Cell D)} (data_eq : cb.data = some data)
    (short : ¬ block.Fits (data.add (cb.head * cb.elemSize)) elem.length) :
    (circularBufferPushed block cb elem).1.cells = block.cells ∧
      (circularBufferPushed block cb elem).2.elemSize = cb.elemSize := by
  simp only [circularBufferPushed, circularBufferPush, data_eq, Block.store, if_neg short]
  split_ifs <;> exact ⟨rfl, rfl⟩

/-- Reading cells that are all zero gives zeros. -/
theorem load_of_zero {block : Block D} (zero : block.cells = fun _ => .byte 0) (pointer : Ptr)
    (count : Nat) : block.load pointer count = List.replicate count (.byte 0) := by
  refine List.eq_replicate_iff.mpr ⟨Block.load_length _ _ _, fun cell member => ?_⟩
  obtain ⟨index, -, rfl⟩ := List.mem_map.mp member
  rw [Block.cellAt, zero, ite_self]

/-- A block too small for one element loses the first element pushed. -/
theorem not_behavesAsQueue_of_short {capacity elemSize : Nat} (id : Nat)
    (capacity_pos : 1 ≤ capacity) (short : u64 (capacity * elemSize) < elemSize) :
    ∃ fresh : Block D × CircularBuffer,
      circularBufferInit capacity elemSize (some id) = some fresh ∧
        ¬ BehavesAsQueue capacity elemSize fresh [] := by
  have sizes : (capacity == 0 || elemSize == 0) = false := by
    simp only [Bool.or_eq_false_iff, beq_eq_false_iff_ne]
    omega
  let elem : List (Cell D) := List.replicate elemSize (.byte 1)
  let block : Block D := Block.zeroed id (u64 (capacity * elemSize))
  let cb := emptyBuffer ⟨id, 0⟩ elemSize capacity
  refine ⟨(block, cb), by rw [circularBufferInit, sizes]; rfl, fun behaves => ?_⟩
  have outside : ¬ block.Fits ((Ptr.mk id 0).add (cb.head * cb.elemSize)) elem.length := by
    rintro ⟨-, fits⟩
    rw [List.length_replicate] at fits
    exact absurd ((Nat.le_add_left _ _).trans fits) (Nat.not_le.mpr short)
  obtain ⟨cells_eq, elemSize_eq⟩ := pushed_cells_of_short (show cb.data = some ⟨id, 0⟩ from rfl)
    outside
  have holds := behaves [.push elem] fun pushed inside => by
    cases List.mem_singleton.mp inside
    exact List.length_replicate
  have queue_eq : (sinceClear [] [.push elem]).rtake capacity = [elem] :=
    rtake_of_length_le capacity_pos
  rw [queue_eq] at holds
  obtain ⟨pointer, -, load_eq⟩ := holds.get_eq 0 (Nat.zero_lt_one)
  have zeros : List.replicate elemSize (Cell.byte 0) = elem := by
    have width : (bufferRun (block, cb) [.push elem]).2.elemSize = elemSize := elemSize_eq
    rw [width] at load_eq
    exact (load_of_zero cells_eq pointer elemSize).symm.trans load_eq
  cases (List.replicate_right_inj (Nat.zero_lt_of_lt short).ne').mp zeros

/-- The size of a buffer of `2 ^ 31` elements of more than eight gibibytes does not fit a
`size_t`, and the block is too small for the first of them. -/
theorem circularBuffer_size_wraps :
    ∃ fresh : Block Unit × CircularBuffer,
      circularBufferInit (2 ^ 31) (2 ^ 33 + 1) (some 0) = some fresh ∧
        ¬ BehavesAsQueue (2 ^ 31) (2 ^ 33 + 1) fresh [] :=
  not_behavesAsQueue_of_short 0 (by norm_num) (by norm_num [u64])

end TiFeatures
