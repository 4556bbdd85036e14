/-
This file is a small model of the memory blocks a C program allocates. A block
has an identity, a size and a cell at every offset; a cell is a byte or one
eighth of a floating-point value, so the two kinds of contents share one block
without an encoding of the floating-point type. A store that leaves its block,
or goes through a pointer into another block, marks the block as faulty and
changes nothing else.
-/

import Mathlib.Data.List.Basic
import Mathlib.Algebra.Order.Group.Nat
import Mathlib.Tactic.Ring

namespace CMemory

/-- A pointer: the identity of an allocated block and an offset into it. -/
structure Ptr where
  block : Nat
  offset : Nat
  deriving DecidableEq

/-- Pointer arithmetic in bytes. -/
def Ptr.add (pointer : Ptr) (bytes : Nat) : Ptr :=
  { pointer with offset := pointer.offset + bytes }

@[simp] theorem Ptr.add_block (pointer : Ptr) (bytes : Nat) :
    (pointer.add bytes).block = pointer.block := rfl

@[simp] theorem Ptr.add_offset (pointer : Ptr) (bytes : Nat) :
    (pointer.add bytes).offset = pointer.offset + bytes := rfl

/-- One byte of memory: a plain byte, or the given eighth of a floating-point value. -/
inductive Cell (V : Type) where
  | byte (value : UInt8)
  | fragment (value : V) (index : Nat)

/-- An allocated block. -/
structure Block (V : Type) where
  id : Nat
  size : Nat
  cells : Nat → Cell V
  fault : Bool

namespace Block

variable {V : Type}

/-- A fresh block after `memset(block, 0, size)`. -/
def zeroed (id size : Nat) : Block V := ⟨id, size, fun _ => .byte 0, false⟩

/-- The cell `index` bytes after a pointer. Reading another block finds nothing. -/
def cellAt (block : Block V) (pointer : Ptr) (index : Nat) : Cell V :=
  if pointer.block = block.id then block.cells (pointer.offset + index) else .byte 0

/-- The `count` cells a pointer leads to. -/
def load (block : Block V) (pointer : Ptr) (count : Nat) : List (Cell V) :=
  (List.range count).map (block.cellAt pointer)

/-- The pointer leads to `count` cells of the block. -/
def Fits (block : Block V) (pointer : Ptr) (count : Nat) : Prop :=
  pointer.block = block.id ∧ pointer.offset + count ≤ block.size

instance (block : Block V) (pointer : Ptr) (count : Nat) : Decidable (block.Fits pointer count) :=
  inferInstanceAs (Decidable (_ ∧ _))

/-- Store cells at a pointer. -/
def store (block : Block V) (pointer : Ptr) (cells : List (Cell V)) : Block V :=
  if block.Fits pointer cells.length then
    { block with
      cells := fun address =>
        if pointer.offset ≤ address ∧ address < pointer.offset + cells.length then
          cells.getD (address - pointer.offset) (.byte 0)
        else block.cells address }
  else { block with fault := true }

/-- `memcpy` from one block into another. -/
def copyFrom (target : Block V) (destination : Ptr) (source : Block V) (origin : Ptr)
    (count : Nat) : Block V :=
  target.store destination (source.load origin count)

/-! ### Loads and stores -/

@[simp] theorem store_id (block : Block V) (pointer : Ptr) (cells : List (Cell V)) :
    (block.store pointer cells).id = block.id := by
  unfold store
  split <;> rfl

@[simp] theorem store_size (block : Block V) (pointer : Ptr) (cells : List (Cell V)) :
    (block.store pointer cells).size = block.size := by
  unfold store
  split <;> rfl

theorem store_fault {block : Block V} {pointer : Ptr} {cells : List (Cell V)}
    (fits : block.Fits pointer cells.length) : (block.store pointer cells).fault = block.fault := by
  rw [store, if_pos fits]

theorem store_nil {block : Block V} {pointer : Ptr} (fits : block.Fits pointer 0) :
    block.store pointer [] = block := by
  have outside : ∀ address, ¬ (pointer.offset ≤ address ∧ address < pointer.offset + 0) := by
    intro address
    omega
  simp only [store, List.length_nil, if_pos fits, if_neg (outside _)]

@[simp] theorem load_length (block : Block V) (pointer : Ptr) (count : Nat) :
    (block.load pointer count).length = count := by
  rw [load, List.length_map, List.length_range]

@[simp] theorem fits_store {block : Block V} {pointer other : Ptr} {cells : List (Cell V)}
    {count : Nat} : (block.store pointer cells).Fits other count ↔ block.Fits other count := by
  simp only [Fits, store_id, store_size]

@[simp] theorem copyFrom_id (target : Block V) (destination : Ptr) (source : Block V)
    (origin : Ptr) (count : Nat) :
    (target.copyFrom destination source origin count).id = target.id := store_id _ _ _

@[simp] theorem copyFrom_size (target : Block V) (destination : Ptr) (source : Block V)
    (origin : Ptr) (count : Nat) :
    (target.copyFrom destination source origin count).size = target.size := store_size _ _ _

theorem copyFrom_fault {target : Block V} {destination : Ptr} {source : Block V} {origin : Ptr}
    {count : Nat} (fits : target.Fits destination count) :
    (target.copyFrom destination source origin count).fault = target.fault :=
  store_fault (by rwa [load_length])

/-- A cell inside the stored range holds what was stored. -/
theorem cellAt_store_same {block : Block V} {pointer : Ptr} {cells : List (Cell V)}
    (fits : block.Fits pointer cells.length) {index : Nat} (inside : index < cells.length) :
    (block.store pointer cells).cellAt pointer index = cells.getD index (.byte 0) := by
  simp only [store, if_pos fits, cellAt, if_pos fits.1, Nat.le_add_right, true_and]
  rw [if_pos (Nat.add_lt_add_left inside _), Nat.add_sub_cancel_left]

/-- A cell outside the stored range keeps its value. -/
theorem cellAt_store_other {block : Block V} {pointer other : Ptr} {cells : List (Cell V)}
    {index : Nat} (outside : other.offset + index < pointer.offset ∨
      pointer.offset + cells.length ≤ other.offset + index) :
    (block.store pointer cells).cellAt other index = block.cellAt other index := by
  by_cases fits : block.Fits pointer cells.length
  · have unchanged : ¬ (pointer.offset ≤ other.offset + index ∧
        other.offset + index < pointer.offset + cells.length) := by omega
    simp only [store, if_pos fits, cellAt, if_neg unchanged]
  · simp only [store, if_neg fits, cellAt]

theorem load_store_same {block : Block V} {pointer : Ptr} {cells : List (Cell V)}
    (fits : block.Fits pointer cells.length) :
    (block.store pointer cells).load pointer cells.length = cells := by
  refine List.ext_getElem (load_length _ _ _) fun index _ inside => ?_
  simp only [load, List.getElem_map, List.getElem_range, cellAt_store_same fits inside]
  simp [inside]

theorem cellAt_copyFrom_same {target : Block V} {destination : Ptr} {source : Block V}
    {origin : Ptr} {count index : Nat} (fits : target.Fits destination count)
    (inside : index < count) :
    (target.copyFrom destination source origin count).cellAt destination index =
      source.cellAt origin index := by
  rw [copyFrom, cellAt_store_same (by rwa [load_length]) (by rwa [load_length])]
  simp [load, inside]

theorem cellAt_copyFrom_other {target : Block V} {destination other : Ptr} {source : Block V}
    {origin : Ptr} {count index : Nat} (outside : other.offset + index < destination.offset ∨
      destination.offset + count ≤ other.offset + index) :
    (target.copyFrom destination source origin count).cellAt other index =
      target.cellAt other index :=
  cellAt_store_other (by rwa [load_length])

theorem cellAt_zeroed (id size : Nat) (pointer : Ptr) (index : Nat) :
    (zeroed id size : Block V).cellAt pointer index = .byte 0 := by
  unfold cellAt zeroed
  split <;> rfl

/-- Cells are addressed by their distance, so a pointer can be moved into the index. -/
theorem cellAt_add (block : Block V) (pointer : Ptr) (bytes index : Nat) :
    block.cellAt (pointer.add bytes) index = block.cellAt pointer (bytes + index) := by
  simp only [cellAt, Ptr.add_block, Ptr.add_offset, Nat.add_assoc]

theorem load_congr {block other : Block V} {pointer origin : Ptr} {count : Nat}
    (same : ∀ index < count, block.cellAt pointer index = other.cellAt origin index) :
    block.load pointer count = other.load origin count :=
  List.map_congr_left fun index member => same index (List.mem_range.mp member)

/-- Loads through a pointer moved forward. -/
theorem load_store_other {block : Block V} {pointer other : Ptr} {cells : List (Cell V)}
    {count : Nat} (disjoint : other.offset + count ≤ pointer.offset ∨
      pointer.offset + cells.length ≤ other.offset) :
    (block.store pointer cells).load other count = block.load other count :=
  load_congr fun index inside => cellAt_store_other (by omega)

/-- A load is the load of its front followed by the load of its back. -/
theorem load_add (block : Block V) (pointer : Ptr) (front back : Nat) :
    block.load pointer (front + back) =
      block.load pointer front ++ block.load (pointer.add front) back := by
  rw [load, List.range_add, List.map_append, List.map_map]
  refine congrArg (block.load pointer front ++ ·) (List.map_congr_left fun index _ => ?_)
  exact (cellAt_add block pointer front index).symm

/-- Cells that hold the elements of a list one after the other, read element by element. -/
theorem load_elements {block : Block V} {width : Nat} {elems : List (List (Cell V))}
    (widths : ∀ elem ∈ elems, elem.length = width) {pointer : Ptr}
    (flat : block.load pointer (elems.length * width) = elems.flatten) :
    (List.range elems.length).map (fun index => block.load (pointer.add (index * width)) width) =
      elems := by
  induction elems generalizing pointer with
  | nil => rfl
  | cons head rest inductionHypothesis =>
    have sizes := List.forall_mem_cons.mp widths
    rw [List.length_cons, Nat.succ_mul, Nat.add_comm, load_add, List.flatten_cons] at flat
    obtain ⟨first, others⟩ := List.append_inj flat (by rw [load_length, sizes.1])
    rw [List.length_cons, List.range_succ_eq_map, List.map_cons, List.map_map]
    refine congrArg₂ List.cons ?_ ?_
    · rw [Nat.zero_mul]
      exact first
    · refine Eq.trans (List.map_congr_left fun index _ => ?_) (inductionHypothesis sizes.2 others)
      simp only [Function.comp_apply, Nat.succ_mul, Ptr.add, Nat.add_assoc,
        Nat.add_comm (index * width)]

end Block

/-! ### Unsigned integers in memory -/

section Unsigned

variable {V : Type}

/-- The little-endian bytes of an unsigned integer of the given width. -/
def encodeUnsigned : Nat → Nat → List (Cell V)
  | 0, _ => []
  | width + 1, value => .byte (UInt8.ofNat value) :: encodeUnsigned width (value / 256)

/-- The unsigned integer a sequence of bytes stands for. -/
def decodeUnsigned : List (Cell V) → Nat
  | [] => 0
  | .byte value :: rest => value.toNat + 256 * decodeUnsigned rest
  | .fragment _ _ :: rest => 256 * decodeUnsigned rest

@[simp] theorem encodeUnsigned_length (width value : Nat) :
    (encodeUnsigned width value : List (Cell V)).length = width := by
  induction width generalizing value with
  | zero => rfl
  | succ width inductionHypothesis =>
    rw [encodeUnsigned, List.length_cons, inductionHypothesis]

/-- Reading back an encoded integer gives the integer reduced to its width. -/
theorem decode_encodeUnsigned (width value : Nat) :
    decodeUnsigned (encodeUnsigned width value : List (Cell V)) = value % 256 ^ width := by
  induction width generalizing value with
  | zero => rw [encodeUnsigned, decodeUnsigned, pow_zero, Nat.mod_one]
  | succ width inductionHypothesis =>
    rw [encodeUnsigned, decodeUnsigned, inductionHypothesis, pow_succ', Nat.mod_mul]
    rfl

theorem decodeUnsigned_replicate (width : Nat) :
    decodeUnsigned (List.replicate width (.byte 0) : List (Cell V)) = 0 := by
  induction width with
  | zero => rfl
  | succ width inductionHypothesis =>
    rw [List.replicate_succ, decodeUnsigned, inductionHypothesis]
    rfl

end Unsigned

/-! ### Floating-point values in memory -/

section Float

variable {V : Type}

/-- The eight cells of a floating-point value. -/
def encodeFloat (value : V) : List (Cell V) := (List.range 8).map (.fragment value)

/-- The floating-point value in eight cells; zero bytes are the value zero. -/
def decodeFloat [Zero V] : List (Cell V) → V
  | .fragment value 0 :: _ => value
  | _ => 0

@[simp] theorem encodeFloat_length (value : V) : (encodeFloat value).length = 8 := by
  rw [encodeFloat, List.length_map, List.length_range]

end Float

end CMemory
