/-
This file proves that the accesses of the per-packet code refine the same
accesses on plain lists: from a well-formed store each of them gives a
well-formed store that holds what the list version says.
-/

import TiFeatures.StoreContents

namespace TiFeatures

open CMemory BoundedStore

variable {D : Type} [Double D] {store : Store D}

/-- What carrying out an access does: the invariant is kept, the values change as on lists, and
the level of the pool and the capacities stay. -/
structure Store.Accessed (store : Store D) (access : Access D) : Prop where
  wellFormed : (store.access access).WellFormed
  contents_eq : (store.access access).contents =
    store.contents.access store.memPool.actualSeqLen store.firstNCapacity access
  level_eq : (store.access access).memPool.level = store.memPool.level
  seqLen_eq : (store.access access).memPool.actualSeqLen = store.memPool.actualSeqLen
  currentPktCount_eq :
    (store.access access).memPool.currentPktCount = store.memPool.currentPktCount
  firstNCapacity_eq : (store.access access).firstNCapacity = store.firstNCapacity

/-! ### Pushes -/

section Push

theorem Store.WellFormed.push_sameRegion (wellFormed : store.WellFormed) {seq : SeqId}
    (value : Nat) {region : Region} (other : region ≠ .seq seq) :
    store.SameRegion (store.access (.push seq value)).memPool.memory region := by
  intro offset within
  have buffer := wellFormed.seq seq
  rw [show (store.access (.push seq value)).memPool.memory =
    (circularBufferPushed store.memPool.memory (store.seqs seq)
      (encodeUnsigned seq.elemSize value)).1 from rfl, pushed_block buffer]
  have stop := Block.element_end seq.elemSize buffer.head_lt
  rw [wellFormed.capacity_eq] at stop
  have apart := region_disjoint store.memPool.shape other
  simp only [show (Region.seq seq).bytes store.memPool.shape =
    store.memPool.actualSeqLen * seq.elemSize from rfl] at apart
  refine Block.cellAt_store_other ?_
  rw [encodeUnsigned_length, wellFormed.elemSize_eq]
  simp only [Region.ptr, Ptr.add_offset]
  omega

theorem Store.WellFormed.push (wellFormed : store.WellFormed) (seq : SeqId) (value : Nat) :
    (store.access (.push seq value)).WellFormed := by
  have buffer := wellFormed.seq seq
  have width : (encodeUnsigned seq.elemSize value : List (Cell D)).length =
      (store.seqs seq).elemSize := by
    rw [encodeUnsigned_length, wellFormed.elemSize_eq]
  have block := pushed_block buffer (encodeUnsigned seq.elemSize value)
  have moved : (store.withMemory (circularBufferPushed store.memPool.memory (store.seqs seq)
      (encodeUnsigned seq.elemSize value)).1).WellFormed := by
    refine wellFormed.withMemory ?_ ?_ ?_
    · rw [block, Block.store_id]
    · rw [block, Block.store_size]
    · rw [block, Block.store_fault (buffer.fits_head width), wellFormed.fault_eq]
  have pushed := buffer.pushed (encodeUnsigned seq.elemSize value)
  have sizes : (circularBufferPushed store.memPool.memory (store.seqs seq)
      (encodeUnsigned seq.elemSize value)).2.elemSize = (store.seqs seq).elemSize ∧
      (circularBufferPushed store.memPool.memory (store.seqs seq)
      (encodeUnsigned seq.elemSize value)).2.capacity = (store.seqs seq).capacity := by
    cases full : (store.seqs seq).isFull with
    | true => rw [pushed_full buffer full]; exact ⟨rfl, rfl⟩
    | false => rw [pushed_notFull buffer full]; exact ⟨rfl, rfl⟩
  refine { moved with
    seq := fun other => ?_
    elemSize_eq := fun other => ?_
    capacity_eq := fun other => ?_ }
  · by_cases same : other = seq
    · subst same
      simp only [Store.access, Function.update_self]
      have id_eq : (circularBufferPushed store.memPool.memory (store.seqs other)
          (encodeUnsigned other.elemSize value)).1.id = store.memPool.memory.id := by
        rw [block, Block.store_id]
      rw [← id_eq] at pushed
      exact pushed
    · simp only [Store.access, Function.update_of_ne same]
      exact moved.seq other
  · by_cases same : other = seq
    · subst same
      simp only [Store.access, Function.update_self]
      exact sizes.1.trans (wellFormed.elemSize_eq other)
    · simp only [Store.access, Function.update_of_ne same]
      exact wellFormed.elemSize_eq other
  · by_cases same : other = seq
    · subst same
      simp only [Store.access, Function.update_self]
      exact sizes.2.trans (wellFormed.capacity_eq other)
    · simp only [Store.access, Function.update_of_ne same]
      exact wellFormed.capacity_eq other

theorem Store.WellFormed.seqValues_push (wellFormed : store.WellFormed) (seq : SeqId)
    (value : Nat) :
    (store.access (.push seq value)).seqValues =
      Function.update store.seqValues seq
        (slide store.memPool.actualSeqLen (store.seqValues seq) (seq.stored value)) := by
  funext other
  by_cases same : other = seq
  · subst same
    have buffer := wellFormed.seq other
    have width : (encodeUnsigned other.elemSize value : List (Cell D)).length =
        (store.seqs other).elemSize := by
      rw [encodeUnsigned_length, wellFormed.elemSize_eq]
    have id_eq : (store.access (.push other value)).memPool.memory.id = store.memPool.memory.id :=
      (congrArg Block.id (pushed_block buffer _)).trans (Block.store_id _ _ _)
    rw [Function.update_self, (wellFormed.push other value).seqValues_eq,
      wellFormed.seqValues_eq, id_eq,
      SeqId.stored, ← decode_encodeUnsigned (V := D), ← map_slide, ← wellFormed.capacity_eq other,
      ← contents_pushed buffer width]
    simp only [Store.access, Function.update_self]
    rfl
  · rw [Function.update_of_ne same]
    have kept := wellFormed.push seq value
    have region := wellFormed.push_sameRegion value fun equal => same (Region.seq.inj equal)
    have moved := wellFormed.seqValues_congr ?_ ?_ kept.fault_eq region
    · rw [← moved]
      simp only [Store.seqValues, Store.access, Store.withMemory, Function.update_of_ne same]
    · exact (congrArg Block.id (pushed_block (wellFormed.seq seq) _)).trans (Block.store_id _ _ _)
    · exact (congrArg Block.size (pushed_block (wellFormed.seq seq) _)).trans
        (Block.store_size _ _ _)

theorem Store.WellFormed.accessed_push (wellFormed : store.WellFormed) (seq : SeqId)
    (value : Nat) : store.Accessed (.push seq value) where
  wellFormed := wellFormed.push seq value
  contents_eq := by
    refine FlowContents.ext (wellFormed.seqValues_push seq value) (funext fun array => ?_) ?_ rfl
    · have region : store.SameRegion (store.access (.push seq value)).memPool.memory
          (.array array) := wellFormed.push_sameRegion value (by simp)
      have moved := wellFormed.values_congr region (wellFormed.arrayCount_le array)
      rw [show (store.access (.push seq value)).contents.arrays array =
        (store.access (.push seq value)).values array (store.arrayCount array) from by
          cases array <;> rfl]
      exact moved
    · exact wellFormed.respDelays_congr (wellFormed.push_sameRegion value (by simp))
  level_eq := rfl
  seqLen_eq := rfl
  currentPktCount_eq := rfl
  firstNCapacity_eq := rfl

end Push

/-! ### Appends -/

section Append

variable {array : DirArray} {value : Nat}

omit [Double D] in
theorem Store.arrayLength_arrayId (store : Store D) (array : DirArray) :
    store.arrayLength array.arrayId = store.memPool.actualSeqLen := by
  cases array <;> rfl

omit [Double D] in
theorem Store.arrayCount_arrayId (store : Store D) (array : DirArray) :
    store.arrayCount array.arrayId = store.dirCount array := by
  cases array <;> rfl

omit [Double D] in
theorem Store.arrayCount_update (store : Store D) (array : DirArray) (count : Nat)
    (other : ArrayId) :
    ({ store with dirCount := Function.update store.dirCount array count } : Store D).arrayCount
      other = if other = array.arrayId then count else store.arrayCount other := by
  cases array <;> cases other <;> rfl

theorem DirArray.arrayId_ne_respDelays (array : DirArray) : array.arrayId ≠ .respDelays := by
  cases array <;> decide

theorem Store.WellFormed.accessed_append (wellFormed : store.WellFormed) :
    store.Accessed (.append array value) := by
  have length_eq : (store.contents.arrays array.arrayId).length = store.dirCount array := by
    rw [← store.arrayCount_arrayId]
    exact store.length_values _ _
  by_cases room : store.dirCount array < store.dirCapacity array
  · have inside : store.dirCount array < store.arrayLength array.arrayId := by
      rwa [store.arrayLength_arrayId, ← wellFormed.dirCapacity_eq array]
    have written := wellFormed.write value inside
    have access_eq : store.access (.append array value) =
        { store.write array.arrayId (store.dirCount array) value with
          dirCount := Function.update store.dirCount array (store.dirCount array + 1) } :=
      if_pos room
    refine ⟨?_, ?_, ?_, ?_, ?_, ?_⟩
    · rw [access_eq]
      refine { written with dirCount_le := fun other => ?_ }
      refine le_trans ?_ (show store.memPool.actualSeqLen ≤ _ from le_refl _)
      by_cases same : other = array
      · rw [same, ← wellFormed.dirCapacity_eq array]
        simpa only [Function.update_self] using Nat.succ_le_of_lt room
      · simpa only [Function.update_of_ne same] using wellFormed.dirCount_le other
    · rw [access_eq]
      refine FlowContents.ext (funext (wellFormed.seqValues_write value inside))
        (funext fun other => ?_)
        (wellFormed.respDelays_write value inside array.arrayId_ne_respDelays) rfl
      refine (congrArg ((store.write array.arrayId (store.dirCount array) value).values other)
        (Store.arrayCount_update _ array (store.dirCount array + 1) other)).trans ?_
      by_cases same : other = array.arrayId
      · subst same
        simp only [FlowContents.access, Function.update_self, if_true]
        rw [wellFormed.values_write_append value inside, fill, if_pos]
        · rw [← store.arrayCount_arrayId]
          rfl
        · rw [length_eq, ← wellFormed.dirCapacity_eq array]
          exact room
      · simp only [FlowContents.access, Function.update_of_ne same, if_neg same]
        exact wellFormed.values_write_ne value inside same (wellFormed.arrayCount_le other)
    all_goals rw [access_eq]; rfl
  · have access_eq : store.access (.append array value) = store := if_neg room
    refine ⟨by rwa [access_eq], ?_, ?_, ?_, ?_, ?_⟩
    · rw [access_eq, FlowContents.access, fill, if_neg, Function.update_eq_self]
      rw [length_eq, ← wellFormed.dirCapacity_eq array]
      exact room
    all_goals rw [access_eq]

theorem Store.WellFormed.accessed_appendFirstN (wellFormed : store.WellFormed) {pktLen : Nat} :
    store.Accessed (.appendFirstN pktLen) := by
  have length_eq : store.contents.firstNLens.length = store.firstNCount :=
    Block.readArray_length _ _ _ _
  have fits : store.firstNLens.Fits ⟨store.firstNLens.id, 0⟩
      (store.firstNCapacity * (unsignedCodec D 4).width) :=
    ⟨rfl, by rw [Nat.zero_add, wellFormed.firstNSize_eq]; exact le_refl _⟩
  by_cases room : store.firstNCount < store.firstNCapacity
  · have access_eq : store.access (.appendFirstN pktLen) =
        { store with
          firstNLens := store.firstNLens.writeAt (unsignedCodec D 4) ⟨store.firstNLens.id, 0⟩
            store.firstNCount pktLen
          firstNCount := store.firstNCount + 1 } := if_pos room
    refine ⟨?_, ?_, ?_, ?_, ?_, ?_⟩
    · rw [access_eq]
      exact { wellFormed with
        firstNSize_eq := (Block.writeAt_size _ _ _ _ _).trans wellFormed.firstNSize_eq
        firstNFault_eq := (Block.writeAt_fault room fits).trans wellFormed.firstNFault_eq
        firstNCount_le := room }
    · rw [access_eq]
      refine FlowContents.ext rfl (funext fun other => by cases other <;> rfl) rfl ?_
      rw [FlowContents.access, fill, if_pos (length_eq.trans_lt room)]
      simp only [Store.contents, Block.writeAt_id]
      rw [Block.readArray_writeAt_append room fits, unsignedCodec_stored]
    all_goals rw [access_eq]
  · have access_eq : store.access (.appendFirstN pktLen) = store := if_neg room
    refine ⟨by rwa [access_eq], ?_, ?_, ?_, ?_, ?_⟩
    · rw [access_eq, FlowContents.access, fill, if_neg]
      rwa [length_eq]
    all_goals rw [access_eq]

theorem Store.WellFormed.accessed_appendRespDelay (wellFormed : store.WellFormed) {delay : D} :
    store.Accessed (.appendRespDelay delay) := by
  have length_eq : store.contents.respDelays.length = store.respDelayCount :=
    Block.readArray_length _ _ _ _
  by_cases room : store.respDelayCount < store.respDelayCapacity
  · have below : store.respDelayCount < poolRespDelayCapacity := by
      rwa [← wellFormed.respDelayCapacity_eq]
    have inside : store.respDelayCount < store.arrayLength .respDelays := below
    have fits : store.memPool.memory.Fits (store.arrays .respDelays)
        (store.arrayLength .respDelays * (floatCodec D).width) := wellFormed.array_fits .respDelays
    let written := store.memPool.memory.writeAt (floatCodec D) (store.arrays .respDelays)
      store.respDelayCount delay
    have access_eq : store.access (.appendRespDelay delay) =
        { store.withMemory written with respDelayCount := store.respDelayCount + 1 } := if_pos room
    have id_eq : written.id = store.memPool.memory.id := Block.writeAt_id _ _ _ _ _
    have size_eq : written.size = store.memPool.memory.size := Block.writeAt_size _ _ _ _ _
    have fault_eq : written.fault = false :=
      (Block.writeAt_fault inside fits).trans wellFormed.fault_eq
    have same : ∀ region, region ≠ .array .respDelays → store.SameRegion written region := by
      intro region other offset within
      refine Block.cellAt_writeAt_other inside ?_
      have apart := region_disjoint store.memPool.shape other
      rw [show (Region.array .respDelays).bytes store.memPool.shape =
        store.memPool.shape.arrayBytes .respDelays from rfl, wellFormed.arrayBytes_eq] at apart
      rw [wellFormed.array_ptr]
      simp only [Region.ptr, floatCodec_width]
      simp only [ArrayId.width] at apart
      omega
    refine ⟨?_, ?_, ?_, ?_, ?_, ?_⟩
    · rw [access_eq]
      exact { wellFormed.withMemory id_eq size_eq fault_eq with
        respDelayCount_le := below }
    · rw [access_eq]
      refine FlowContents.ext
        (funext fun seq => wellFormed.seqValues_congr id_eq size_eq fault_eq (same _ (by simp)))
        (funext fun array => ?_) ?_ rfl
      · by_cases isDelays : array = .respDelays
        · subst isDelays
          rfl
        · have region := same (.array array) (by simpa using isDelays)
          have kept := wellFormed.values_congr region (wellFormed.arrayCount_le array)
          rw [FlowContents.access, ← show _ = store.contents.arrays array from kept]
          cases array <;> rfl
      · simp only [FlowContents.access]
        rw [fill, if_pos (length_eq.trans_lt below)]
        exact Block.readArray_writeAt_append inside fits
    all_goals rw [access_eq]; rfl
  · have access_eq : store.access (.appendRespDelay delay) = store := if_neg room
    refine ⟨by rwa [access_eq], ?_, ?_, ?_, ?_, ?_⟩
    · rw [access_eq, FlowContents.access, fill, if_neg]
      rwa [length_eq, ← wellFormed.respDelayCapacity_eq]
    all_goals rw [access_eq]

end Append

/-! ### Windows and bursts -/

section Write

variable {array : ArrayId} {index : Nat}

omit [Double D] in
/-- What a write to one array does to the elements of any array. -/
theorem Store.WellFormed.values_write (wellFormed : store.WellFormed) (value : Nat)
    (inside : index < store.arrayLength array) {other : ArrayId} {count : Nat}
    (short : count ≤ store.arrayLength other) :
    (store.write array index value).values other count =
      if other = array then (store.values other count).set index (array.stored value)
      else store.values other count := by
  split
  · rename_i same
    subst same
    exact wellFormed.values_write_set value inside count
  · rename_i different
    exact wellFormed.values_write_ne value inside different short

omit [Double D] in
/-- Setting the element after a prefix appends to the prefix. -/
theorem Store.values_succ_set (store : Store D) (array : ArrayId) (count value : Nat) :
    (store.values array (count + 1)).set count value = store.values array count ++ [value] := by
  rw [Store.values, Block.readArray, List.range_succ, List.map_append, List.set_append_right]
  · rw [List.length_map, List.length_range, Nat.sub_self]
    rfl
  · rw [List.length_map, List.length_range]

/-- Replace the values of one array. -/
def FlowContents.withArray (contents : FlowContents D) (array : ArrayId) (values : List Nat) :
    FlowContents D :=
  { contents with arrays := Function.update contents.arrays array values }

omit [Double D] in
theorem FlowContents.withArray_same (contents : FlowContents D) (array : ArrayId)
    (values : List Nat) : (contents.withArray array values).arrays array = values :=
  Function.update_self _ _ _

omit [Double D] in
theorem FlowContents.withArray_of_ne (contents : FlowContents D) {array other : ArrayId}
    (different : other ≠ array) (values : List Nat) :
    (contents.withArray array values).arrays other = contents.arrays other :=
  Function.update_of_ne different _ _

/-- A write that does not lengthen an array sets one of its elements. -/
theorem Store.WellFormed.contents_write (wellFormed : store.WellFormed) (value : Nat)
    (inside : index < store.arrayLength array) (different : array ≠ .respDelays) :
    (store.write array index value).contents =
      store.contents.withArray array
        ((store.contents.arrays array).set index (array.stored value)) := by
  refine FlowContents.ext (funext (wellFormed.seqValues_write value inside))
    (funext fun other => ?_) (wellFormed.respDelays_write value inside different) rfl
  have written := wellFormed.values_write value inside (wellFormed.arrayCount_le other)
  rw [show (store.write array index value).contents.arrays other =
    (store.write array index value).values other (store.arrayCount other) from by
      cases other <;> rfl, written]
  by_cases same : other = array
  · subst same
    rw [if_pos rfl, FlowContents.withArray_same]
    rfl
  · rw [if_neg same, FlowContents.withArray_of_ne _ same]
    rfl

end Write

/-- A value reduced to 32 bits is stored as it is in an array of 32-bit elements. -/
theorem ArrayId.stored_u32 {array : ArrayId} (width : array.width = 4) (value : Nat) :
    array.stored (u32 value) = u32 value := by
  rw [ArrayId.stored, width]
  exact Nat.mod_mod _ _

section Windows

variable {window : Nat}

theorem Store.read_window (store : Store D) {array : ArrayId}
    (windows : store.arrayCount array = poolNumWindows) (valid : window < poolNumWindows) :
    store.read array window = (store.contents.arrays array).getD window 0 := by
  rw [store.read_eq (windows ▸ valid : window < store.arrayCount array)]
  rfl

theorem Store.WellFormed.accessed_setWindowBitrate (wellFormed : store.WellFormed)
    (valid : window < poolNumWindows) {windowSizeUs : Nat} :
    store.Accessed (.setWindowBitrate window windowSizeUs) where
  wellFormed := wellFormed.write _ valid
  contents_eq := by
    refine (wellFormed.contents_write _ valid (by decide)).trans ?_
    rw [ArrayId.stored_u32 rfl, store.read_window rfl valid]
    rfl
  level_eq := rfl
  seqLen_eq := rfl
  currentPktCount_eq := rfl
  firstNCapacity_eq := rfl

theorem Store.WellFormed.accessed_countWindow (wellFormed : store.WellFormed)
    (valid : window < poolNumWindows) {pktLen : Nat} :
    store.Accessed (.countWindow window pktLen) where
  wellFormed := (wellFormed.write _ valid).write _ valid
  contents_eq := by
    have place : window < store.arrayLength .windowPktCounts := valid
    have counted := wellFormed.write (u32 (store.read .windowPktCounts window + 1)) place
    refine (counted.contents_write _ valid (by decide)).trans ?_
    have first := wellFormed.contents_write (u32 (store.read .windowPktCounts window + 1)) place
      (by decide)
    rw [ArrayId.stored_u32 rfl, store.read_window rfl valid] at first
    rw [ArrayId.stored_u32 rfl, store.read_window rfl valid, Store.read_window _ rfl valid, first]
    refine FlowContents.ext rfl (funext fun other => ?_) rfl rfl
    cases other <;> rfl
  level_eq := rfl
  seqLen_eq := rfl
  currentPktCount_eq := rfl
  firstNCapacity_eq := rfl

end Windows

section Bursts

variable {byteCount duration pktCount interval : Nat}

/-- The three writes that every recorded burst makes. -/
def Store.writeBurst (store : Store D) (byteCount duration pktCount : Nat) : Store D :=
  ((store.write .burstSizes store.burstCount byteCount).write
    .burstDurations store.burstCount duration).write .burstPacketCounts store.burstCount pktCount

/-- The memory of a burst that has been written, with the elements of every array. -/
structure Store.BurstWritten (store written : Store D) (byteCount duration pktCount : Nat) :
    Prop where
  wellFormed : written.WellFormed
  seqs_eq : written.seqValues = store.seqValues
  respDelays_eq : written.contents.respDelays = store.contents.respDelays
  sizes_eq : written.values .burstSizes (store.burstCount + 1) =
    store.values .burstSizes store.burstCount ++ [ArrayId.stored .burstSizes byteCount]
  durations_eq : written.values .burstDurations (store.burstCount + 1) =
    store.values .burstDurations store.burstCount ++ [ArrayId.stored .burstDurations duration]
  packetCounts_eq : written.values .burstPacketCounts (store.burstCount + 1) =
    store.values .burstPacketCounts store.burstCount ++
      [ArrayId.stored .burstPacketCounts pktCount]
  other_eq : ∀ array, array ≠ .burstSizes → array ≠ .burstDurations →
    array ≠ .burstPacketCounts → ∀ count ≤ store.arrayLength array,
      written.values array count = store.values array count

theorem Store.WellFormed.writeBurst (wellFormed : store.WellFormed)
    (room : store.burstCount < store.memPool.actualSeqLen) (byteCount duration pktCount : Nat) :
    store.BurstWritten (store.writeBurst byteCount duration pktCount) byteCount duration
      pktCount := by
  have first : (store.write .burstSizes store.burstCount byteCount).WellFormed :=
    wellFormed.write byteCount room
  have second : Store.WellFormed (.write _ .burstDurations store.burstCount duration) :=
    first.write duration room
  have third : Store.WellFormed (.write _ .burstPacketCounts store.burstCount pktCount) :=
    second.write pktCount room
  -- the elements of every array, as far as the array reaches
  have written : ∀ array, ∀ count ≤ store.arrayLength array,
      (store.writeBurst byteCount duration pktCount).values array count =
        if array = .burstPacketCounts then
          (store.values array count).set store.burstCount
            (ArrayId.stored .burstPacketCounts pktCount)
        else if array = .burstDurations then
          (store.values array count).set store.burstCount
            (ArrayId.stored .burstDurations duration)
        else if array = .burstSizes then
          (store.values array count).set store.burstCount (ArrayId.stored .burstSizes byteCount)
        else store.values array count := by
    intro array count short
    rw [Store.writeBurst, second.values_write _ room short, first.values_write _ room short,
      wellFormed.values_write _ room short]
    cases array <;> rfl
  refine ⟨third, ?_, ?_, ?_, ?_, ?_, ?_⟩
  · funext seq
    exact (second.seqValues_write _ room seq).trans ((first.seqValues_write _ room seq).trans
      (wellFormed.seqValues_write _ room seq))
  · exact (second.respDelays_write _ room (by decide)).trans
      ((first.respDelays_write _ room (by decide)).trans
        (wellFormed.respDelays_write _ room (by decide)))
  · exact (written .burstSizes _ room).trans (store.values_succ_set _ _ _)
  · exact (written .burstDurations _ room).trans (store.values_succ_set _ _ _)
  · exact (written .burstPacketCounts _ room).trans (store.values_succ_set _ _ _)
  · intro array notSizes notDurations notCounts count short
    rw [written array count short, if_neg notCounts, if_neg notDurations, if_neg notSizes]

theorem Store.WellFormed.accessed_recordBurst (wellFormed : store.WellFormed) :
    store.Accessed (.recordBurst byteCount duration pktCount interval) := by
  have length_eq : (store.contents.arrays .burstSizes).length = store.burstCount :=
    store.length_values _ _
  by_cases room : store.burstCount < store.memPool.actualSeqLen
  · have burst := wellFormed.writeBurst room byteCount duration pktCount
    by_cases some : store.burstCount > 0
    · have place : store.burstCount - 1 < store.arrayLength .burstIntervals :=
        (Nat.sub_le _ _).trans_lt room
      have written := burst.wellFormed.write interval place
      have access_eq : store.access (.recordBurst byteCount duration pktCount interval) =
          { (store.writeBurst byteCount duration pktCount).write .burstIntervals
              (store.burstCount - 1) interval with burstCount := store.burstCount + 1 } := by
        simp only [Store.access, recordBurst, if_pos room, if_pos some]
        rfl
      have intervals : ((store.writeBurst byteCount duration pktCount).write .burstIntervals
          (store.burstCount - 1) interval).values .burstIntervals store.burstCount =
          store.values .burstIntervals (store.burstCount - 1) ++
            [ArrayId.stored .burstIntervals interval] := by
        have appended := burst.wellFormed.values_write_append interval place
        rw [Nat.sub_add_cancel some] at appended
        rw [appended, burst.other_eq .burstIntervals (by decide) (by decide) (by decide) _
          place.le]
      refine ⟨?_, ?_, ?_, ?_, ?_, ?_⟩
      · rw [access_eq]
        exact { written with burstCount_le := room }
      · have kept : ∀ array, array ≠ .burstIntervals → ∀ count ≤ store.arrayLength array,
            ((store.writeBurst byteCount duration pktCount).write .burstIntervals
              (store.burstCount - 1) interval).values array count =
              (store.writeBurst byteCount duration pktCount).values array count :=
          fun array different count short =>
            burst.wellFormed.values_write_ne interval place different short
        rw [access_eq, FlowContents.access, FlowContents.recordBurst,
          if_pos (length_eq.trans_lt room)]
        refine FlowContents.ext ?_ (funext fun array => ?_) ?_ rfl
        · funext seq
          exact (burst.wellFormed.seqValues_write interval place seq).trans
            (congrFun burst.seqs_eq seq)
        · have wider := wellFormed.arrayCount_le array
          cases array
          case burstSizes => exact (kept _ (by decide) _ room).trans burst.sizes_eq
          case burstDurations => exact (kept _ (by decide) _ room).trans burst.durations_eq
          case burstPacketCounts => exact (kept _ (by decide) _ room).trans burst.packetCounts_eq
          case burstIntervals => exact intervals.trans (if_pos (length_eq ▸ some)).symm
          all_goals
            exact (kept _ (by decide) _ wider).trans
              (burst.other_eq _ (by decide) (by decide) (by decide) _ wider)
        · exact (burst.wellFormed.respDelays_write interval place (by decide)).trans
            burst.respDelays_eq
      all_goals rw [access_eq]; rfl
    · have access_eq : store.access (.recordBurst byteCount duration pktCount interval) =
          { store.writeBurst byteCount duration pktCount with
            burstCount := store.burstCount + 1 } := by
        simp only [Store.access, recordBurst, if_pos room, if_neg some]
        rfl
      refine ⟨?_, ?_, ?_, ?_, ?_, ?_⟩
      · rw [access_eq]
        exact { burst.wellFormed with burstCount_le := room }
      · rw [access_eq, FlowContents.access, FlowContents.recordBurst,
          if_pos (length_eq.trans_lt room)]
        refine FlowContents.ext burst.seqs_eq (funext fun array => ?_) burst.respDelays_eq rfl
        have wider := wellFormed.arrayCount_le array
        cases array
        case burstSizes => exact burst.sizes_eq
        case burstDurations => exact burst.durations_eq
        case burstPacketCounts => exact burst.packetCounts_eq
        case burstIntervals =>
          have none : store.burstCount = 0 := Nat.eq_zero_of_not_pos some
          refine Eq.trans ?_ (if_neg (by rw [length_eq]; exact some)).symm
          rw [show store.contents.arrays .burstIntervals =
            store.values .burstIntervals (store.burstCount - 1) from rfl, none]
          rfl
        all_goals exact burst.other_eq _ (by decide) (by decide) (by decide) _ wider
      all_goals rw [access_eq]; rfl
  · have access_eq : store.access (.recordBurst byteCount duration pktCount interval) = store :=
      if_neg room
    refine ⟨by rwa [access_eq], ?_, ?_, ?_, ?_, ?_⟩
    · rw [access_eq, FlowContents.access, FlowContents.recordBurst, if_neg]
      rwa [length_eq]
    all_goals rw [access_eq]

end Bursts

/-! ### Any access -/

omit [Double D] in
theorem Store.write_id (store : Store D) (array : ArrayId) (index value : Nat) :
    (store.write array index value).memPool.memory.id = store.memPool.memory.id :=
  Block.writeAt_id _ _ _ _ _

/-- An access stays in the block of the pool. -/
theorem Store.access_id {store : Store D} (wellFormed : store.WellFormed) (access : Access D) :
    (store.access access).memPool.memory.id = store.memPool.memory.id := by
  cases access with
  | push seq value =>
    exact (congrArg Block.id (pushed_block (wellFormed.seq seq) _)).trans (Block.store_id _ _ _)
  | append array value =>
    rw [Store.access]
    split
    · exact Store.write_id _ _ _ _
    · rfl
  | appendFirstN pktLen =>
    rw [Store.access]
    split <;> rfl
  | recordBurst byteCount duration pktCount interval =>
    rw [Store.access, recordBurst]
    split
    · dsimp only
      split <;> simp only [Store.write_id]
    · rfl
  | appendRespDelay delay =>
    rw [Store.access]
    split
    · exact Block.writeAt_id _ _ _ _ _
    · rfl
  | setWindowBitrate => exact Store.write_id _ _ _ _
  | countWindow => exact (Store.write_id _ _ _ _).trans (Store.write_id _ _ _ _)

/-- Every access of the per-packet code keeps a store well formed and acts as it does on
lists. -/
theorem Store.WellFormed.accessed (wellFormed : store.WellFormed) {access : Access D}
    (valid : access.Valid) : store.Accessed access := by
  cases access with
  | push seq value => exact wellFormed.accessed_push seq value
  | append => exact wellFormed.accessed_append
  | appendFirstN => exact wellFormed.accessed_appendFirstN
  | recordBurst => exact wellFormed.accessed_recordBurst
  | appendRespDelay => exact wellFormed.accessed_appendRespDelay
  | setWindowBitrate => exact wellFormed.accessed_setWindowBitrate valid
  | countWindow => exact wellFormed.accessed_countWindow valid

/-- What carrying out a list of accesses does. -/
structure Store.AccessedAll (store : Store D) (accesses : List (Access D)) : Prop where
  wellFormed : (accesses.foldl Store.access store).WellFormed
  contents_eq : (accesses.foldl Store.access store).contents =
    accesses.foldl (FlowContents.access store.memPool.actualSeqLen store.firstNCapacity)
      store.contents
  level_eq : (accesses.foldl Store.access store).memPool.level = store.memPool.level
  currentPktCount_eq :
    (accesses.foldl Store.access store).memPool.currentPktCount = store.memPool.currentPktCount
  firstNCapacity_eq : (accesses.foldl Store.access store).firstNCapacity = store.firstNCapacity

theorem Store.WellFormed.accessedAll (wellFormed : store.WellFormed)
    {accesses : List (Access D)} (valid : ∀ access ∈ accesses, access.Valid) :
    store.AccessedAll accesses := by
  induction accesses generalizing store with
  | nil => exact ⟨wellFormed, rfl, rfl, rfl, rfl⟩
  | cons access rest inductionHypothesis =>
    have first := wellFormed.accessed (valid access (List.mem_cons_self ..))
    have tail := inductionHypothesis first.wellFormed fun other member =>
      valid other (List.mem_cons_of_mem _ member)
    refine ⟨tail.wellFormed, ?_, ?_, ?_, ?_⟩
    · rw [List.foldl_cons, tail.contents_eq, first.contents_eq, first.seqLen_eq,
        first.firstNCapacity_eq]
      rfl
    · exact tail.level_eq.trans first.level_eq
    · exact tail.currentPktCount_eq.trans first.currentPktCount_eq
    · exact tail.firstNCapacity_eq.trans first.firstNCapacity_eq

/-- A list of accesses stays in the block of the pool. -/
theorem Store.WellFormed.foldl_access_id (wellFormed : store.WellFormed)
    {accesses : List (Access D)} (valid : ∀ access ∈ accesses, access.Valid) :
    (accesses.foldl Store.access store).memPool.memory.id = store.memPool.memory.id := by
  induction accesses generalizing store with
  | nil => rfl
  | cons access rest inductionHypothesis =>
    have first := wellFormed.accessed (valid access List.mem_cons_self)
    exact (inductionHypothesis first.wellFormed fun other member =>
      valid other (List.mem_cons_of_mem _ member)).trans (Store.access_id wellFormed access)

end TiFeatures
