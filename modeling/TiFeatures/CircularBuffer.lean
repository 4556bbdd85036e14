/-
This file models `utils/circular_buffer.cpp` and proves that a circular buffer
is a sliding window over the values pushed to it. The elements live in a memory
block at the buffer's data pointer; the buffer itself is the record of its
indices. A call that returns an error code is `none` and changes nothing.
-/

import TiFeatures.Machine
import TiFeatures.Library.Arrays
import TiFeatures.Library.Window

namespace TiFeatures

open CMemory BoundedStore

variable {V : Type}

/-- `circular_buffer_t`. -/
structure CircularBuffer where
  data : Option Ptr
  elemSize : Nat
  capacity : Nat
  count : Nat
  head : Nat
  tail : Nat
  isFull : Bool
  deriving DecidableEq

/-- `circular_buffer_init`, with the block that `malloc` returns, if it returns one. The size of
the block is computed as a `size_t`. -/
def circularBufferInit (capacity elemSize : Nat) (block : Option Nat) :
    Option (Block V × CircularBuffer) :=
  if capacity == 0 || elemSize == 0 then none
  else block.map fun id =>
    (Block.zeroed id (u64 (capacity * elemSize)),
      { data := some ⟨id, 0⟩, elemSize, capacity, count := 0, head := 0, tail := 0,
        isFull := false })

/-- `circular_buffer_push`: the element is copied to the head, which then advances; a full
buffer also advances its tail. -/
def circularBufferPush (block : Block V) (cb : CircularBuffer) (elem : List (Cell V)) :
    Option (Block V × CircularBuffer) :=
  match cb.data with
  | none => none
  | some data =>
    if cb.capacity == 0 || cb.elemSize == 0 then none
    else if cb.count > cb.capacity then none
    else
      let written := block.store (data.add (cb.head * cb.elemSize)) elem
      let advanced := { cb with head := u32 (cb.head + 1) % cb.capacity }
      if cb.isFull then
        some (written, { advanced with tail := u32 (cb.tail + 1) % cb.capacity })
      else
        let counted := { advanced with count := u32 (cb.count + 1) }
        if counted.count == cb.capacity then some (written, { counted with isFull := true })
        else some (written, counted)

/-- The position of the element with the given index, from the oldest on. -/
def CircularBuffer.slot (cb : CircularBuffer) (index : Nat) : Nat :=
  if cb.isFull then u32 (cb.tail + index) % cb.capacity else index

/-- `circular_buffer_get`: a pointer to an element. -/
def circularBufferGet (cb : CircularBuffer) (index : Nat) : Option Ptr :=
  match cb.data with
  | none => none
  | some data =>
    if cb.capacity == 0 || cb.elemSize == 0 then none
    else if cb.count > cb.capacity || index ≥ cb.count then none
    else some (data.add (cb.slot index * cb.elemSize))

/-- `circular_buffer_get_array`: the copied elements, if there are any and `malloc` succeeds,
and the count, which is reported in any case. -/
def circularBufferGetArray (block : Block V) (cb : CircularBuffer) (mallocOk : Bool) :
    Option (List (List (Cell V))) × Nat :=
  match cb.data with
  | none => (none, cb.count)
  | some data =>
    if cb.count == 0 || cb.elemSize == 0 then (none, cb.count)
    else if !mallocOk then (none, cb.count)
    else
      (some ((List.range cb.count).map fun index =>
        block.load (data.add (cb.slot index * cb.elemSize)) cb.elemSize), cb.count)

/-- `circular_buffer_clear`. -/
def circularBufferClear (cb : CircularBuffer) : CircularBuffer :=
  { cb with count := 0, head := 0, tail := 0, isFull := false }

/-- `circular_buffer_count`. -/
def circularBufferCount (cb : CircularBuffer) : Nat := cb.count

/-! ### The window a buffer holds -/

/-- The elements of a buffer from the oldest to the newest, as raw cells. -/
def CircularBuffer.contents (cb : CircularBuffer) (block : Block V) (data : Ptr) :
    List (List (Cell V)) :=
  (List.range cb.count).map fun index =>
    block.load (data.add (cb.slot index * cb.elemSize)) cb.elemSize

/-- The indices of a buffer are consistent and its elements lie in the block. -/
structure CircularBuffer.WellFormed (cb : CircularBuffer) (block : Block V) (data : Ptr) :
    Prop where
  data_eq : cb.data = some data
  fits : block.Fits data (cb.capacity * cb.elemSize)
  elemSize_pos : 0 < cb.elemSize
  capacity_pos : 0 < cb.capacity
  capacity_le : cb.capacity ≤ 2 ^ 31
  count_le : cb.count ≤ cb.capacity
  isFull_iff : cb.isFull = true ↔ cb.count = cb.capacity
  tail_lt : cb.tail < cb.capacity
  head_lt : cb.head < cb.capacity
  head_full : cb.isFull = true → cb.head = cb.tail
  head_partial : cb.isFull = false → cb.head = cb.count ∧ cb.tail = 0

theorem CircularBuffer.length_contents (cb : CircularBuffer) (block : Block V) (data : Ptr) :
    (cb.contents block data).length = cb.count := by
  rw [contents, List.length_map, List.length_range]

/-- The contents depend on the cells of the buffer's own range only. -/
theorem CircularBuffer.contents_congr {cb : CircularBuffer} {block other : Block V} {data : Ptr}
    (wellFormed : cb.WellFormed block data)
    (same : ∀ offset < cb.capacity * cb.elemSize,
      other.cellAt data offset = block.cellAt data offset) :
    cb.contents other data = cb.contents block data := by
  refine List.map_congr_left fun index member => Block.load_congr fun offset inside => ?_
  rw [Block.cellAt_add, Block.cellAt_add]
  refine same _ ?_
  have slot_lt : cb.slot index < cb.capacity := by
    unfold slot
    split
    · exact Nat.mod_lt _ wellFormed.capacity_pos
    · exact (List.mem_range.mp member).trans_le wellFormed.count_le
  have stop := Block.element_end cb.elemSize slot_lt
  omega

theorem CircularBuffer.WellFormed.transfer {cb : CircularBuffer} {block other : Block V}
    {data : Ptr} (wellFormed : cb.WellFormed block data) (id : other.id = block.id)
    (size : other.size = block.size) : cb.WellFormed other data :=
  { wellFormed with
    fits := ⟨id ▸ wellFormed.fits.1, size ▸ wellFormed.fits.2⟩ }

/-- The slot an index maps to in a full buffer, without the machine reduction. -/
theorem CircularBuffer.WellFormed.slot_full {cb : CircularBuffer} {block : Block V} {data : Ptr}
    (wellFormed : cb.WellFormed block data) (full : cb.isFull = true) {index : Nat}
    (inside : index < cb.capacity) : cb.slot index = (cb.tail + index) % cb.capacity := by
  have := wellFormed.tail_lt
  have := wellFormed.capacity_le
  rw [slot, if_pos full, u32_of_lt (by omega)]

/-- What a push does to a well-formed buffer: the element is stored at the head and the indices
move, with no machine reduction left. -/
theorem circularBufferPush_eq {cb : CircularBuffer} {block : Block V} {data : Ptr}
    (wellFormed : cb.WellFormed block data) (elem : List (Cell V)) :
    circularBufferPush block cb elem =
      some (block.store (data.add (cb.head * cb.elemSize)) elem,
        if cb.isFull then
          { cb with head := (cb.head + 1) % cb.capacity, tail := (cb.tail + 1) % cb.capacity }
        else
          { cb with
            head := (cb.head + 1) % cb.capacity
            count := cb.count + 1
            isFull := cb.count + 1 == cb.capacity }) := by
  have capacity_pos := wellFormed.capacity_pos
  have capacity_le := wellFormed.capacity_le
  have elemSize_pos := wellFormed.elemSize_pos
  have count_le := wellFormed.count_le
  have head_small : u32 (cb.head + 1) = cb.head + 1 :=
    u32_of_lt (by have := wellFormed.head_lt; omega)
  have tail_small : u32 (cb.tail + 1) = cb.tail + 1 :=
    u32_of_lt (by have := wellFormed.tail_lt; omega)
  have count_small : u32 (cb.count + 1) = cb.count + 1 := u32_of_lt (by omega)
  have sizes : (cb.capacity == 0 || cb.elemSize == 0) = false := by
    simp only [Bool.or_eq_false_iff, beq_eq_false_iff_ne]
    omega
  simp only [circularBufferPush, wellFormed.data_eq, sizes, Bool.false_eq_true, if_false,
    if_neg (Nat.not_lt.mpr count_le), head_small, tail_small, count_small]
  cases full : cb.isFull with
  | true => rfl
  | false =>
    by_cases last : cb.count + 1 = cb.capacity
    · simp [last]
    · simp [last]

/-! ### A push slides the window -/

/-- Moving less than a full turn around a circle ends elsewhere. -/
theorem add_mod_ne {start step turn : Nat} (inside : start < turn) (moved : 0 < step)
    (short : step < turn) : (start + step) % turn ≠ start := by
  rcases Nat.lt_or_ge (start + step) turn with below | above
  · rw [Nat.mod_eq_of_lt below]
    omega
  · rw [Nat.mod_eq_sub_mod above, Nat.mod_eq_of_lt (by omega)]
    omega

section Push

variable {cb : CircularBuffer} {block : Block V} {data : Ptr} {elem : List (Cell V)}

/-- The buffer and block a push leaves; on failure nothing has changed. -/
def circularBufferPushed (block : Block V) (cb : CircularBuffer) (elem : List (Cell V)) :
    Block V × CircularBuffer :=
  (circularBufferPush block cb elem).getD (block, cb)

theorem pushed_block (wellFormed : cb.WellFormed block data) (elem : List (Cell V)) :
    (circularBufferPushed block cb elem).1 =
      block.store (data.add (cb.head * cb.elemSize)) elem := by
  rw [circularBufferPushed, circularBufferPush_eq wellFormed]
  rfl

theorem pushed_full (wellFormed : cb.WellFormed block data) (full : cb.isFull = true)
    (elem : List (Cell V)) :
    (circularBufferPushed block cb elem).2 =
      { cb with head := (cb.head + 1) % cb.capacity, tail := (cb.tail + 1) % cb.capacity } := by
  rw [circularBufferPushed, circularBufferPush_eq wellFormed]
  simp only [Option.getD_some, full, if_true]

theorem pushed_notFull (wellFormed : cb.WellFormed block data) (room : cb.isFull = false)
    (elem : List (Cell V)) :
    (circularBufferPushed block cb elem).2 =
      { cb with
        head := (cb.head + 1) % cb.capacity
        count := cb.count + 1
        isFull := cb.count + 1 == cb.capacity } := by
  rw [circularBufferPushed, circularBufferPush_eq wellFormed]
  simp only [Option.getD_some, room, Bool.false_eq_true, if_false]

theorem CircularBuffer.WellFormed.room (wellFormed : cb.WellFormed block data)
    (partially : cb.isFull = false) : cb.count < cb.capacity := by
  refine Nat.lt_of_le_of_ne wellFormed.count_le fun equal => ?_
  rw [wellFormed.isFull_iff.mpr equal] at partially
  cases partially

/-- The cells a push writes lie in the buffer's own range. -/
theorem CircularBuffer.WellFormed.fits_head (wellFormed : cb.WellFormed block data)
    (width : elem.length = cb.elemSize) :
    block.Fits (data.add (cb.head * cb.elemSize)) elem.length := by
  have stop := Block.element_end cb.elemSize wellFormed.head_lt
  refine ⟨wellFormed.fits.1, ?_⟩
  have := wellFormed.fits.2
  rw [Ptr.add_offset, width]
  omega

/-- A push keeps a buffer well formed. -/
theorem CircularBuffer.WellFormed.pushed (wellFormed : cb.WellFormed block data)
    (elem : List (Cell V)) :
    (circularBufferPushed block cb elem).2.WellFormed
      (circularBufferPushed block cb elem).1 data := by
  have capacity_pos := wellFormed.capacity_pos
  refine (show CircularBuffer.WellFormed _ block data from ?_).transfer
    (by rw [pushed_block wellFormed, Block.store_id])
    (by rw [pushed_block wellFormed, Block.store_size])
  cases full : cb.isFull with
  | true =>
    have ends := wellFormed.head_full full
    rw [pushed_full wellFormed full]
    exact { wellFormed with
      tail_lt := Nat.mod_lt _ capacity_pos
      head_lt := Nat.mod_lt _ capacity_pos
      head_full := fun _ => by rw [ends]
      head_partial := fun isPartial => by simp [full] at isPartial }
  | false =>
    obtain ⟨atCount, atZero⟩ := wellFormed.head_partial full
    have room := wellFormed.room full
    rw [pushed_notFull wellFormed full]
    exact { wellFormed with
      count_le := room
      isFull_iff := by simp
      head_lt := Nat.mod_lt _ capacity_pos
      head_full := fun nowFull => by
        have last : cb.count + 1 = cb.capacity := by simpa using nowFull
        simp only [atCount, atZero, last, Nat.mod_self]
      head_partial := fun stillPartial => by
        have notLast : cb.count + 1 ≠ cb.capacity := by simpa using stillPartial
        simp only [atCount, atZero, and_true]
        exact Nat.mod_eq_of_lt (by omega) }

/-- The element at a position of the buffer's range after a push: the pushed element at the
head, the old element elsewhere. -/
theorem load_pushed (wellFormed : cb.WellFormed block data) (width : elem.length = cb.elemSize)
    (position : Nat) :
    (circularBufferPushed block cb elem).1.load (data.add (position * cb.elemSize)) cb.elemSize =
      if position = cb.head then elem
      else block.load (data.add (position * cb.elemSize)) cb.elemSize := by
  rw [pushed_block wellFormed]
  split
  · rename_i same
    have back := Block.load_store_same (wellFormed.fits_head width)
    rw [width] at back
    rwa [same]
  · rename_i different
    refine Block.load_store_other ?_
    rw [Ptr.add_offset, Ptr.add_offset, width]
    rcases Nat.lt_or_gt_of_ne different with below | above
    · have stop := Block.element_end cb.elemSize below
      omega
    · have stop := Block.element_end cb.elemSize above
      omega

/-- The window of a buffer after a push is the old window slid by the pushed element. -/
theorem contents_pushed (wellFormed : cb.WellFormed block data)
    (width : elem.length = cb.elemSize) :
    (circularBufferPushed block cb elem).2.contents (circularBufferPushed block cb elem).1 data =
      slide cb.capacity (cb.contents block data) elem := by
  have capacity_pos := wellFormed.capacity_pos
  have after : (circularBufferPushed block cb elem).2.WellFormed _ data := wellFormed.pushed elem
  cases full : cb.isFull with
  | true =>
    have ends := wellFormed.head_full full
    have count_eq := wellFormed.isFull_iff.mp full
    have pushed := pushed_full wellFormed full elem
    rw [slide_of_full (by rw [CircularBuffer.length_contents, count_eq]) capacity_pos]
    refine List.ext_getElem ?_ fun index first second => ?_
    · rw [CircularBuffer.length_contents, List.length_append, List.length_drop,
        CircularBuffer.length_contents, List.length_singleton, pushed]
      exact (Nat.sub_add_cancel (count_eq ▸ capacity_pos)).symm
    · have inside : index < cb.capacity := by
        rw [CircularBuffer.length_contents, pushed] at first
        exact count_eq ▸ first
      have slot_after : (circularBufferPushed block cb elem).2.slot index =
          ((cb.tail + 1) % cb.capacity + index) % cb.capacity := by
        rw [after.slot_full (by rw [pushed]; exact full) (by rw [pushed]; exact inside), pushed]
      have slot_eq : ((cb.tail + 1) % cb.capacity + index) % cb.capacity =
          (cb.tail + (index + 1)) % cb.capacity := by
        rw [Nat.mod_add_mod, Nat.add_assoc, Nat.add_comm 1 index]
      have elemSize_eq : (circularBufferPushed block cb elem).2.elemSize = cb.elemSize := by
        rw [pushed]
      simp only [CircularBuffer.contents, List.getElem_map, List.getElem_range, slot_after,
        slot_eq, elemSize_eq, load_pushed wellFormed width]
      have tail_lt := wellFormed.tail_lt
      by_cases last : index + 1 = cb.capacity
      · rw [last, Nat.add_mod_right, Nat.mod_eq_of_lt tail_lt, if_pos ends.symm]
        rw [List.getElem_append_right (by simp; omega)]
        simp
      · have notHead : (cb.tail + (index + 1)) % cb.capacity ≠ cb.head := by
          rw [ends]
          exact add_mod_ne tail_lt (by omega) (by omega)
        rw [if_neg notHead, List.getElem_append_left (by simp; omega)]
        simp only [List.getElem_drop, List.getElem_map, List.getElem_range]
        rw [wellFormed.slot_full full (by omega), Nat.add_comm 1 index]
  | false =>
    obtain ⟨atCount, atZero⟩ := wellFormed.head_partial full
    have room := wellFormed.room full
    have pushed := pushed_notFull wellFormed full elem
    rw [slide_of_room (by rwa [CircularBuffer.length_contents])]
    refine List.ext_getElem ?_ fun index first second => ?_
    · rw [CircularBuffer.length_contents, List.length_append, CircularBuffer.length_contents,
        List.length_singleton, pushed]
    · have inside : index < cb.count + 1 := by
        rw [CircularBuffer.length_contents, pushed] at first
        exact first
      have slot_after : (circularBufferPushed block cb elem).2.slot index = index := by
        cases nowFull : (circularBufferPushed block cb elem).2.isFull with
        | true =>
          rw [after.slot_full nowFull (by rw [pushed]; dsimp only; omega), pushed]
          simp only [atZero, Nat.zero_add]
          exact Nat.mod_eq_of_lt (by omega)
        | false => rw [CircularBuffer.slot, nowFull, if_neg (by decide)]
      have slot_before : cb.slot index = index := by
        rw [CircularBuffer.slot, full, if_neg (by decide)]
      have elemSize_eq : (circularBufferPushed block cb elem).2.elemSize = cb.elemSize := by
        rw [pushed]
      simp only [CircularBuffer.contents, List.getElem_map, List.getElem_range, slot_after,
        elemSize_eq, load_pushed wellFormed width, atCount]
      by_cases last : index = cb.count
      · rw [if_pos last, List.getElem_append_right (by simp; omega)]
        simp
      · rw [if_neg last, List.getElem_append_left (by simp; omega)]
        simp only [List.getElem_map, List.getElem_range, slot_before]

end Push

end TiFeatures
