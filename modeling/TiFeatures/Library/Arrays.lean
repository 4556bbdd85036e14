/-
This file reads a memory block as arrays. A codec says how many cells an element
takes and how it is laid out in them; an array is then a pointer and a codec.
The lemmas say what a write to one element does to the array it belongs to, and
that it does nothing to an array elsewhere in the block.
-/

import TiFeatures.Library.Memory

namespace CMemory

/-- How an element of an array is stored. -/
structure Codec (V T : Type) where
  width : Nat
  encode : T → List (Cell V)
  decode : List (Cell V) → T
  length_encode : ∀ value, (encode value).length = width

/-- Unsigned integers of the given number of bytes. -/
def unsignedCodec (V : Type) (width : Nat) : Codec V Nat where
  width := width
  encode := encodeUnsigned width
  decode := decodeUnsigned
  length_encode := encodeUnsigned_length width

/-- Floating-point values. -/
def floatCodec (V : Type) [Zero V] : Codec V V where
  width := 8
  encode := encodeFloat
  decode := decodeFloat
  length_encode := encodeFloat_length

/-- What reading a stored value back gives. -/
def Codec.stored {V T : Type} (codec : Codec V T) (value : T) : T :=
  codec.decode (codec.encode value)

@[simp] theorem unsignedCodec_stored (V : Type) (width value : Nat) :
    (unsignedCodec V width).stored value = value % 256 ^ width := decode_encodeUnsigned _ _

@[simp] theorem floatCodec_stored (V : Type) [Zero V] (value : V) :
    (floatCodec V).stored value = value := rfl

@[simp] theorem unsignedCodec_width (V : Type) (width : Nat) :
    (unsignedCodec V width).width = width := rfl

@[simp] theorem floatCodec_width (V : Type) [Zero V] : (floatCodec V).width = 8 := rfl

namespace Block

variable {V T : Type} (codec : Codec V T)

/-- The element of an array at an index. -/
def readAt (block : Block V) (array : Ptr) (index : Nat) : T :=
  codec.decode (block.load (array.add (index * codec.width)) codec.width)

/-- Assignment to the element of an array at an index. -/
def writeAt (block : Block V) (array : Ptr) (index : Nat) (value : T) : Block V :=
  block.store (array.add (index * codec.width)) (codec.encode value)

/-- The first elements of an array. -/
def readArray (block : Block V) (array : Ptr) (count : Nat) : List T :=
  (List.range count).map (block.readAt codec array)

@[simp] theorem writeAt_id (block : Block V) (array : Ptr) (index : Nat) (value : T) :
    (block.writeAt codec array index value).id = block.id := store_id _ _ _

@[simp] theorem writeAt_size (block : Block V) (array : Ptr) (index : Nat) (value : T) :
    (block.writeAt codec array index value).size = block.size := store_size _ _ _

@[simp] theorem readArray_length (block : Block V) (array : Ptr) (count : Nat) :
    (block.readArray codec array count).length = count := by
  rw [readArray, List.length_map, List.length_range]

@[simp] theorem readArray_getElem (block : Block V) (array : Ptr) (count index : Nat)
    (inside : index < (block.readArray codec array count).length) :
    (block.readArray codec array count)[index] = block.readAt codec array index := by
  simp only [readArray, List.getElem_map, List.getElem_range]

variable {codec}

/-- The end of an element of an array lies inside the array. -/
theorem element_end {index count : Nat} (width : Nat) (inside : index < count) :
    index * width + width ≤ count * width := by
  have step : (index + 1) * width ≤ count * width := Nat.mul_le_mul_right width inside
  rwa [Nat.succ_mul] at step

theorem fits_element {block : Block V} {array : Ptr} {index count : Nat} (inside : index < count)
    (fits : block.Fits array (count * codec.width)) (value : T) :
    block.Fits (array.add (index * codec.width)) (codec.encode value).length := by
  have stop := element_end codec.width inside
  refine ⟨fits.1, ?_⟩
  rw [codec.length_encode, Ptr.add_offset]
  have := fits.2
  omega

theorem writeAt_fault {block : Block V} {array : Ptr} {index count : Nat} {value : T}
    (inside : index < count) (fits : block.Fits array (count * codec.width)) :
    (block.writeAt codec array index value).fault = block.fault :=
  store_fault (fits_element inside fits value)

theorem readAt_writeAt_same {block : Block V} {array : Ptr} {index count : Nat} {value : T}
    (inside : index < count) (fits : block.Fits array (count * codec.width)) :
    (block.writeAt codec array index value).readAt codec array index = codec.stored value := by
  have back := load_store_same (fits_element inside fits value)
  rw [codec.length_encode] at back
  rw [readAt, writeAt, back, Codec.stored]

theorem readAt_congr {block other : Block V} {array origin : Ptr} {index : Nat}
    (same : ∀ offset < codec.width, block.cellAt array (index * codec.width + offset) =
      other.cellAt origin (index * codec.width + offset)) :
    block.readAt codec array index = other.readAt codec origin index := by
  refine congrArg codec.decode (load_congr fun offset inside => ?_)
  rw [cellAt_add, cellAt_add]
  exact same offset inside

theorem readArray_congr {block other : Block V} {array origin : Ptr} {count : Nat}
    (same : ∀ offset < count * codec.width, block.cellAt array offset =
      other.cellAt origin offset) :
    block.readArray codec array count = other.readArray codec origin count := by
  refine List.map_congr_left fun index member => readAt_congr fun offset inside => same _ ?_
  have stop := element_end codec.width (List.mem_range.mp member)
  omega

theorem readAt_writeAt_ne {block : Block V} {array : Ptr} {index other : Nat} {value : T}
    (different : index ≠ other) :
    (block.writeAt codec array index value).readAt codec array other =
      block.readAt codec array other := by
  refine readAt_congr fun offset inside => cellAt_store_other ?_
  rw [codec.length_encode, Ptr.add_offset]
  rcases Nat.lt_or_gt_of_ne different with below | above
  · have stop := element_end codec.width below
    omega
  · have stop := element_end codec.width above
    omega

/-- A write inside one range of a block changes nothing outside that range. -/
theorem cellAt_writeAt_other {block : Block V} {array other : Ptr} {index count offset : Nat}
    {value : T} (inside : index < count) (outside : other.offset + offset < array.offset ∨
      array.offset + count * codec.width ≤ other.offset + offset) :
    (block.writeAt codec array index value).cellAt other offset = block.cellAt other offset := by
  refine cellAt_store_other ?_
  have stop := element_end codec.width inside
  rw [codec.length_encode, Ptr.add_offset]
  omega

/-- The unsigned integers of a fresh block are zero. -/
theorem readArray_zeroed (id size width : Nat) (array : Ptr) (count : Nat) :
    (zeroed id size : Block V).readArray (unsignedCodec V width) array count =
      List.replicate count 0 := by
  refine List.eq_replicate_iff.mpr ⟨readArray_length _ _ _ _, fun value member => ?_⟩
  obtain ⟨index, -, rfl⟩ := List.mem_map.mp member
  rw [← decodeUnsigned_replicate (V := V) width]
  refine congrArg decodeUnsigned (List.eq_replicate_iff.mpr ⟨load_length _ _ _, ?_⟩)
  intro cell inside
  obtain ⟨offset, -, rfl⟩ := List.mem_map.mp inside
  exact cellAt_zeroed _ _ _ _

/-- Writing past the elements read so far appends one element. -/
theorem readArray_writeAt_append {block : Block V} {array : Ptr} {count capacity : Nat}
    {value : T} (inside : count < capacity)
    (fits : block.Fits array (capacity * codec.width)) :
    (block.writeAt codec array count value).readArray codec array (count + 1) =
      block.readArray codec array count ++ [codec.stored value] := by
  rw [readArray, List.range_succ, List.map_append, List.map_singleton,
    readAt_writeAt_same inside fits]
  refine congrArg (· ++ _) (List.map_congr_left fun index member => readAt_writeAt_ne ?_)
  exact (Nat.ne_of_lt (List.mem_range.mp member)).symm

/-- Writing one of the elements read replaces it. -/
theorem readArray_writeAt_set {block : Block V} {array : Ptr} {index count capacity : Nat}
    {value : T} (inside : index < capacity)
    (fits : block.Fits array (capacity * codec.width)) :
    (block.writeAt codec array index value).readArray codec array count =
      (block.readArray codec array count).set index (codec.stored value) := by
  refine List.ext_getElem (by simp) fun position first second => ?_
  rw [readArray_getElem, List.getElem_set]
  split
  · rename_i same
    rw [← same, readAt_writeAt_same inside fits]
  · rename_i different
    rw [readAt_writeAt_ne different, readArray_getElem]

end Block

end CMemory
