/-
This file models what the callbacks of one stream slot allocate, use and give
back: the flow state, its pool with the block of the current level, the array of
the first packets, and the snapshots of an upgrade. Every object of the heap is
accounted for after every sequence of callbacks, whichever allocations fail.
-/

import TiFeatures.Groups
import TiFeatures.Reachable
import TiFeatures.Library.Ledger

namespace TiFeatures

open CMemory HeapLedger

/-! ### Objects -/

/-- What a flow allocates. -/
inductive Resource where
  | state
  | firstNLens
  | memPool
  | dynamicMem
  | snapshot
  deriving DecidableEq

/-- The objects of a flow: its state and those the state points to, where a pointer is not
`NULL`. The blocks the pool has had are listed in the order of their allocation, which is also
how pointers number them; the last one is `dynamic_mem`. -/
structure FlowObjects where
  state : Nat
  firstNLens : Option Nat
  memPool : Option Nat
  blocks : List Nat

/-- The object of `dynamic_mem`. -/
def FlowObjects.dynamicMem (objects : FlowObjects) : Option Nat := objects.blocks.getLast?

/-- The objects with what they are. -/
def FlowObjects.resources (objects : FlowObjects) : List (Nat × Resource) :=
  (objects.state, .state) :: (objects.firstNLens.map (·, Resource.firstNLens)).toList ++
    (objects.memPool.map (·, Resource.memPool)).toList ++
    (objects.dynamicMem.map (·, Resource.dynamicMem)).toList

variable {D : Type} [Double D]

/-- The pointers into the block that the pool holds. -/
def FlowMemPool.pointers (pool : FlowMemPool D) : List Ptr :=
  pool.tempMem :: pool.ringBufferData :: arrayOrder.map pool.arrays

/-- The pointers into the block that the state caches. -/
def Store.pointers (store : Store D) : List Ptr :=
  arrayOrder.map store.arrays ++ seqOrder.filterMap (fun seq => (store.seqs seq).data) ++
    store.tempDoubleBuffer.toList ++ store.tempDoubleBuffer2.toList

/-- Go through all the pointers of a flow, as the per-packet and the closing code may. -/
def useFlow (heap : Heap Resource) (objects : FlowObjects) (store : Store D) : Heap Resource :=
  ([some objects.state, objects.firstNLens, objects.memPool] ++
    (store.memPool.pointers ++ store.pointers).map (objects.blocks[·.block]?)).foldl
      Heap.deref heap

/-! ### Creation and destruction -/

/-- `flow_mem_pool_destroy`. -/
def flowMemPoolDestroy (heap : Heap Resource) (memPool : Nat) (dynamicMem : Option Nat) :
    Heap Resource :=
  let heap := heap.use memPool
  let heap := match dynamicMem with
    | some block => heap.free block
    | none => heap
  heap.use memPool

/-- Give back the array of the first packets, if the state has one. -/
def freeFirstNLens (heap : Heap Resource) (objects : FlowObjects) : Heap Resource :=
  match objects.firstNLens with
  | some array => (heap.free array).use objects.state
  | none => heap

/-- `flow_state_destroy`. -/
def flowStateDestroy (heap : Heap Resource) (objects : FlowObjects) : Heap Resource :=
  let heap := freeFirstNLens (heap.use objects.state) objects
  match objects.memPool with
  | some memPool =>
    ((flowMemPoolDestroy heap memPool objects.dynamicMem).free memPool).use objects.state
  | none => heap

/-- `flow_state_init` on the heap: the objects it leaves, or none after `cleanup`. The store of
the state is that of the values, which also says whether the buffers could be bound. -/
def flowStateInitOnHeap (cfg : FeatureConfig) (allocs : Allocs) (heap : Heap Resource)
    (state : Nat) : Heap Resource × Option (FlowObjects × Store D) :=
  let heap := heap.use state
  match heap.malloc .firstNLens allocs.firstNLens with
  | (heap, none) => (flowStateDestroy heap ⟨state, none, none, []⟩, none)
  | (heap, some array) =>
    match heap.malloc .memPool allocs.memPool with
    | (heap, none) => (flowStateDestroy heap ⟨state, some array, none, []⟩, none)
    | (heap, some memPool) =>
      let heap := heap.use memPool
      match heap.malloc .dynamicMem allocs.dynamicMem with
      | (heap, none) =>
        (flowStateDestroy (heap.free memPool) ⟨state, some array, none, []⟩, none)
      | (heap, some block) =>
        let heap := heap.use block
        let objects : FlowObjects := ⟨state, some array, some memPool, [block]⟩
        match flowStateInit cfg allocs with
        | none => (flowStateDestroy heap objects, none)
        | some store => (useFlow heap objects store, some (objects, store))

/-- A flow with its objects. -/
structure Flow (D : Type) where
  objects : FlowObjects
  state : FlowFeatureState D

/-- The creation of the state in the PENDING branch. -/
def createOnHeap (cfg : FeatureConfig) (allocs : Allocs) (tsUs : Nat) (heap : Heap Resource) :
    Heap Resource × Option (Flow D) :=
  match heap.malloc .state allocs.state with
  | (heap, none) => (heap, none)
  | (heap, some state) =>
    match flowStateInitOnHeap cfg allocs heap state with
    | (heap, none) => (heap.free state, none)
    | (heap, some (objects, store)) =>
      (heap.use state, some ⟨objects, ⟨fieldsInit cfg tsUs, store⟩⟩)

/-! ### Upgrades -/

/-- `ring_buffer_snapshot_capture` of one buffer, with the snapshots taken so far. -/
def captureOnHeap (objects : FlowObjects) (allocs : Allocs) (store : Store D)
    (state : Heap Resource × List Nat) (seq : SeqId) : Heap Resource × List Nat :=
  let cb := store.seqs seq
  match cb.data with
  | none => state
  | some data =>
    if cb.count == 0 || cb.elemSize == 0 then state
    else
      match state.1.malloc .snapshot (allocs.snapshot seq) with
      | (heap, none) => (heap, state.2)
      | (heap, some snapshot) =>
        ((heap.use snapshot).deref objects.blocks[data.block]?, snapshot :: state.2)

/-- `flow_mem_pool_upgrade`: the new block, if it is allocated, replaces the old one. -/
def flowMemPoolUpgradeOnHeap (heap : Heap Resource) (objects : FlowObjects)
    (pool : FlowMemPool D) (newLevel : FlowLevel) (mallocOk : Bool) :
    Heap Resource × Option FlowObjects :=
  if newLevel.rank ≤ pool.level.rank then (heap, none)
  else
    match heap.malloc .dynamicMem mallocOk with
    | (heap, none) => (heap, none)
    | (heap, some block) =>
      let heap := (pool.pointers.map (objects.blocks[·.block]?)).foldl Heap.deref
        (heap.use block)
      let heap := match objects.dynamicMem with
        | some oldMem => heap.free oldMem
        | none => heap
      (heap, some { objects with blocks := objects.blocks ++ [block] })

/-- The upgrade block of the DATA branch. After an upgrade the pointers are refreshed and the
buffers are filled from the snapshots, which are released in any case. -/
def upgradeOnHeap (allocs : Allocs) (heap : Heap Resource) (objects : FlowObjects)
    (store : Store D) : Heap Resource × FlowObjects :=
  let checked := flowMemPoolCheckUpgrade store.memPool
  if checked.2 then
    let captured := seqOrder.foldl (captureOnHeap objects allocs store) (heap, [])
    let upgraded := match checked.1.level.next with
      | none => (captured.1, none)
      | some newLevel =>
        flowMemPoolUpgradeOnHeap captured.1 objects checked.1 newLevel allocs.upgrade
    match upgraded with
    | (heap, none) => (captured.2.foldl Heap.free heap, objects)
    | (heap, some objects) =>
      let heap := captured.2.foldl Heap.use
        (useFlow heap objects (upgradeIfNeeded allocs store))
      (captured.2.foldl Heap.free heap, objects)
  else (heap, objects)

/-! ### Callbacks -/

/-- The DATA branch of `traffic_process`. -/
def processDataOnHeap (cfg : FeatureConfig) (platform : Platform D) (streamType : StreamType)
    (allocs : Allocs) (packet : RawPacket) (heap : Heap Resource) (flow : Flow D) :
    Heap Resource × Flow D :=
  let heap := useFlow heap flow.objects flow.state.store
  let upgraded := upgradeOnHeap allocs heap flow.objects flow.state.store
  let state := processData cfg platform streamType allocs packet flow.state
  (useFlow upgraded.1 upgraded.2 state.store, ⟨upgraded.2, state⟩)

/-- One callback of a stream slot. -/
structure Callback where
  flag : StateFlag
  allocs : Allocs
  packet : RawPacket

/-- `traffic_process` on the heap: the heap, the flow behind `pme` and the features written. -/
def trafficProcessOnHeap (cfg : FeatureConfig) (platform : Platform D) (streamType : StreamType)
    (callback : Callback) (heap : Heap Resource) (pme : Option (Flow D)) :
    Heap Resource × Option (Flow D) × Option (Output D) :=
  let data := fun (heap : Heap Resource) (flow : Flow D) =>
    let result := processDataOnHeap cfg platform streamType callback.allocs callback.packet
      heap flow
    (result.1, some result.2, none)
  match callback.flag, pme with
  | .pending, none =>
    match createOnHeap cfg callback.allocs (packetTsUs cfg callback.packet) heap with
    | (heap, none) => (heap, none, none)
    | (heap, some flow) => data heap flow
  | .pending, some flow => data heap flow
  | .data, some flow => data heap flow
  | .close, some flow =>
    let heap := useFlow heap flow.objects flow.state.store
    ((flowStateDestroy heap flow.objects).free flow.objects.state, none,
      some (flowStateComputeFeatures cfg platform streamType callback.packet flow.state.view))
  | _, pme => (heap, pme, none)

/-- The heap and the slot after a sequence of callbacks, which starts with an empty slot. -/
def slotRun (cfg : FeatureConfig) (platform : Platform D) (streamType : StreamType)
    (callbacks : List Callback) : Heap Resource × Option (Flow D) :=
  callbacks.foldl (fun slot callback =>
    let result := trafficProcessOnHeap cfg platform streamType callback slot.1 slot.2
    (result.1, result.2.1)) (Heap.empty, none)

/-! ### The objects of a flow -/

/-- The pointers of the state to its objects are set, and the pool is in its last block. -/
structure FlowObjects.Complete (objects : FlowObjects) (store : Store D) : Prop where
  firstNLens : ∃ array, objects.firstNLens = some array
  memPool : ∃ memPool, objects.memPool = some memPool
  current : objects.blocks.length = store.memPool.memory.id + 1

section Objects

variable {heap : Heap Resource} {objects : FlowObjects} {store : Store D}

omit [Double D] in
/-- All pointers of a well-formed store lead into the current block. -/
theorem Store.WellFormed.pointers_block (wellFormed : store.WellFormed) :
    ∀ pointer ∈ store.memPool.pointers ++ store.pointers,
      pointer.block = store.memPool.memory.id := by
  have arrays : ∀ pointer ∈ arrayOrder.map store.memPool.arrays,
      pointer.block = store.memPool.memory.id := by
    intro pointer member
    obtain ⟨array, -, rfl⟩ := List.mem_map.mp member
    rw [wellFormed.pool.arrays_eq]
    rfl
  have tempMem : store.memPool.tempMem.block = store.memPool.memory.id := by
    rw [wellFormed.pool.tempMem_eq]
  intro pointer member
  simp only [FlowMemPool.pointers, Store.pointers, List.mem_append, List.mem_cons,
    wellFormed.arrays_eq, wellFormed.tempBuffer_eq, wellFormed.tempBuffer2_eq,
    Option.mem_toList, Option.some.injEq] at member
  rcases member with (rfl | rfl | inPool) | ((inState | inSeqs) | rfl) | rfl
  · exact tempMem
  · rw [wellFormed.pool.ringBufferData_eq]
  · exact arrays pointer inPool
  · exact arrays pointer inState
  · obtain ⟨seq, -, data_eq⟩ := List.mem_filterMap.mp inSeqs
    rw [(wellFormed.seq seq).data_eq, Option.some.injEq] at data_eq
    rw [← data_eq]
    rfl
  · exact tempMem
  · exact tempMem

omit [Double D] in
/-- The objects of a complete flow. -/
theorem FlowObjects.Complete.objects_eq (complete : objects.Complete store) :
    ∃ array memPool older block,
      objects = ⟨objects.state, some array, some memPool, older ++ [block]⟩ ∧
        older.length = store.memPool.memory.id ∧
        objects.resources = [(objects.state, .state), (array, .firstNLens), (memPool, .memPool),
          (block, .dynamicMem)] := by
  obtain ⟨⟨array, array_eq⟩, ⟨memPool, memPool_eq⟩, current⟩ := complete
  obtain ⟨state, firstNLens, pool, blocks⟩ := objects
  obtain ⟨older, block, rfl⟩ := (List.eq_nil_or_concat' blocks).resolve_left
    (List.ne_nil_of_length_eq_add_one current)
  rw [List.length_append, List.length_singleton, Nat.add_right_cancel_iff] at current
  cases array_eq
  cases memPool_eq
  refine ⟨array, memPool, older, block, rfl, current, ?_⟩
  simp only [FlowObjects.resources, FlowObjects.dynamicMem, List.getLast?_concat]
  rfl

omit [Double D] in
/-- The pointers of a complete flow lead to objects that it owns. -/
theorem FlowObjects.Complete.pointers (complete : objects.Complete store)
    (wellFormed : store.WellFormed) :
    ∀ pointer ∈ (store.memPool.pointers ++ store.pointers).map (objects.blocks[·.block]?),
      ∃ object ∈ objects.resources.map Prod.fst, pointer = some object := by
  obtain ⟨array, memPool, older, block, objects_eq, last, resources_eq⟩ := complete.objects_eq
  intro pointer member
  obtain ⟨origin, inside, rfl⟩ := List.mem_map.mp member
  refine ⟨block, ?_, ?_⟩
  · simp [resources_eq]
  · rw [wellFormed.pointers_block origin inside, ← last, objects_eq]
    exact List.getElem?_concat_length

omit [Double D] in
/-- Using a complete flow changes nothing. -/
theorem FlowObjects.Complete.useFlow (complete : objects.Complete store)
    (wellFormed : store.WellFormed) (others : List (Nat × Resource))
    (owns : heap.Owns (others ++ objects.resources)) : useFlow heap objects store = heap := by
  refine owns.foldl_deref fun pointer member => ?_
  rw [List.map_append]
  rcases List.mem_append.mp member with own | inBlock
  · obtain ⟨array, memPool, older, block, objects_eq, -, resources_eq⟩ := complete.objects_eq
    rw [resources_eq]
    rw [objects_eq] at own
    simp only [List.mem_cons, List.not_mem_nil, or_false] at own
    rcases own with rfl | rfl | rfl <;>
      exact ⟨_, List.mem_append_right _ (by simp), rfl⟩
  · obtain ⟨object, inside, pointer_eq⟩ := complete.pointers wellFormed pointer inBlock
    exact ⟨object, List.mem_append_right _ inside, pointer_eq⟩

omit [Double D] in
theorem freeFirstNLens_owns {rest : List (Nat × Resource)}
    (owns : heap.Owns ((objects.state, .state) ::
      (objects.firstNLens.map (·, Resource.firstNLens)).toList ++ rest)) :
    (freeFirstNLens heap objects).Owns ((objects.state, .state) :: rest) := by
  unfold freeFirstNLens
  cases firstN : objects.firstNLens with
  | none =>
    rw [firstN] at owns
    exact owns
  | some array =>
    rw [firstN] at owns
    have kept := owns.free_middle [(objects.state, Resource.state)]
    exact kept.use_owns List.mem_cons_self

omit [Double D] in
theorem flowMemPoolDestroy_owns {state memPool : Nat} {dynamicMem : Option Nat}
    (owns : heap.Owns ([(state, .state), (memPool, .memPool)] ++
      (dynamicMem.map (·, Resource.dynamicMem)).toList)) :
    (flowMemPoolDestroy heap memPool dynamicMem).Owns
      [(state, .state), (memPool, .memPool)] := by
  have second : ∀ {rest : List (Nat × Resource)}, memPool ∈
      ((state, Resource.state) :: (memPool, .memPool) :: rest).map Prod.fst :=
    List.mem_cons_of_mem _ List.mem_cons_self
  unfold flowMemPoolDestroy
  dsimp only
  cases dynamicMem with
  | none =>
    dsimp only
    rw [owns.use second, owns.use second]
    exact owns
  | some block =>
    dsimp only
    rw [owns.use second]
    have kept := owns.free_middle [(state, Resource.state), (memPool, .memPool)]
    exact kept.use_owns second

omit [Double D] in
/-- Destroying a state gives back everything it points to. -/
theorem flowStateDestroy_owns (pool : objects.memPool = none → objects.dynamicMem = none)
    (owns : heap.Owns objects.resources) :
    (flowStateDestroy heap objects).Owns [(objects.state, .state)] := by
  rw [FlowObjects.resources, List.append_assoc] at owns
  have freed := freeFirstNLens_owns owns
  unfold flowStateDestroy
  rw [owns.use List.mem_cons_self]
  dsimp only
  cases memPool_eq : objects.memPool with
  | none =>
    rw [memPool_eq, pool memPool_eq] at freed
    exact freed
  | some memPool =>
    rw [memPool_eq] at freed
    have kept := (flowMemPoolDestroy_owns freed).free_middle [(objects.state, Resource.state)]
    exact kept.use_owns List.mem_cons_self

end Objects

/-! ### Creation -/

/-- The objects behind `pme`. -/
def slotResources (pme : Option (Flow D)) : List (Nat × Resource) :=
  pme.elim [] fun flow => flow.objects.resources

/-- The live objects are those of the flow behind `pme`, if there is one, which is in order. -/
structure SlotSound (cfg : FeatureConfig) (slot : Heap Resource × Option (Flow D)) : Prop where
  owns : slot.1.Owns (slotResources slot.2)
  complete : ∀ flow ∈ slot.2, flow.objects.Complete flow.state.store
  wellFormed : ∀ flow ∈ slot.2, flow.state.WellFormed cfg

omit [Double D] in
theorem SlotSound.none {cfg : FeatureConfig} {heap : Heap Resource} (owns : heap.Owns []) :
    SlotSound (D := D) cfg (heap, none) :=
  ⟨owns, fun _ member => absurd member (Option.not_mem_none _),
    fun _ member => absurd member (Option.not_mem_none _)⟩

omit [Double D] in
theorem SlotSound.some {cfg : FeatureConfig} {heap : Heap Resource} {flow : Flow D}
    (owns : heap.Owns flow.objects.resources)
    (complete : flow.objects.Complete flow.state.store)
    (wellFormed : flow.state.WellFormed cfg) : SlotSound cfg (heap, some flow) :=
  ⟨owns, fun _ member => Option.some.inj member ▸ complete,
    fun _ member => Option.some.inj member ▸ wellFormed⟩

section Creation

variable {cfg : FeatureConfig} {heap : Heap Resource}

/-- The initialisation of a state leaves the state with all its objects, or gives all of them
back. -/
theorem flowStateInitOnHeap_spec (cfg : FeatureConfig) (allocs : Allocs) {state : Nat}
    (owns : heap.Owns [(state, .state)]) :
    (∃ after, flowStateInitOnHeap (D := D) cfg allocs heap state = (after, none) ∧
        flowStateInit (D := D) cfg allocs = none ∧ after.Owns [(state, .state)]) ∨
      ∃ after objects store,
        flowStateInitOnHeap (D := D) cfg allocs heap state = (after, some (objects, store)) ∧
          flowStateInit cfg allocs = some store ∧ objects.state = state ∧
            after.Owns objects.resources ∧ objects.Complete store := by
  unfold flowStateInitOnHeap
  rw [owns.use List.mem_cons_self]
  cases firstN : allocs.firstNLens with
  | false =>
    refine Or.inl ⟨_, rfl, flowStateInit_none cfg fun ok => ?_, ?_⟩
    · exact absurd (firstN.symm.trans ok.1) Bool.false_ne_true
    · exact flowStateDestroy_owns (fun _ => rfl) owns
  | true =>
    have array := owns.push_last Resource.firstNLens
    cases pool : allocs.memPool with
    | false =>
      refine Or.inl ⟨_, rfl, flowStateInit_none cfg fun ok => ?_, ?_⟩
      · exact absurd (pool.symm.trans ok.2.1) Bool.false_ne_true
      · exact flowStateDestroy_owns (fun _ => rfl) array
    | true =>
      have memPool := array.push_last Resource.memPool
      simp only [Heap.malloc, if_true]
      rw [memPool.use (List.mem_map_of_mem List.mem_concat_self)]
      cases dynamic : allocs.dynamicMem with
      | false =>
        refine Or.inl ⟨_, rfl, flowStateInit_none cfg fun ok => ?_, ?_⟩
        · exact absurd (dynamic.symm.trans ok.2.2) Bool.false_ne_true
        · exact flowStateDestroy_owns (fun _ => rfl) (memPool.free_middle _)
      | true =>
        have block := memPool.push_last Resource.dynamicMem
        obtain ⟨store, store_eq, initial⟩ := flowStateInit_initial (D := D) cfg
          (show allocs.InitOk from ⟨firstN, pool, dynamic⟩)
        simp only [if_true]
        rw [block.use (List.mem_map_of_mem List.mem_concat_self), store_eq]
        have complete : FlowObjects.Complete ⟨state, some heap.kinds.length,
            some (heap.push .firstNLens).kinds.length,
            [((heap.push .firstNLens).push .memPool).kinds.length]⟩ store :=
          ⟨⟨_, rfl⟩, ⟨_, rfl⟩, congrArg (· + 1) (flowStateInit_id store_eq).symm⟩
        refine Or.inr ⟨_, _, store, rfl, rfl, rfl, ?_, complete⟩
        rw [complete.useFlow initial.wellFormed [] block]
        exact block

/-- The creation of a state leaves the slot as the values say, and all objects accounted for. -/
theorem createOnHeap_spec (cfg : FeatureConfig) (allocs : Allocs) (tsUs : Nat)
    (owns : heap.Owns []) :
    SlotSound cfg (createOnHeap (D := D) cfg allocs tsUs heap) ∧
      (createOnHeap cfg allocs tsUs heap).2.map Flow.state =
        createFlow (D := D) cfg allocs tsUs := by
  unfold createOnHeap createFlow
  cases state : allocs.state with
  | false => exact ⟨.none owns, rfl⟩
  | true =>
    have created := owns.push Resource.state
    simp only [Heap.malloc, if_true]
    rcases flowStateInitOnHeap_spec (D := D) cfg allocs created with
      ⟨after, run, none_eq, kept⟩ | ⟨after, objects, store, run, store_eq, state_eq, kept, complete⟩
    · rw [run, none_eq]
      exact ⟨.none kept.free, rfl⟩
    · rw [run, store_eq, ← state_eq]
      have created_eq : createFlow (D := D) cfg allocs tsUs =
          some ⟨fieldsInit cfg tsUs, store⟩ := by
        simp only [createFlow, state, store_eq]
        rfl
      exact ⟨.some (kept.use_owns List.mem_cons_self) complete
        (createFlow_wellFormed created_eq), rfl⟩

end Creation

/-! ### Upgrades keep the account -/

section Upgrade

variable {heap : Heap Resource} {objects : FlowObjects} {store : Store D}

omit [Double D] in
/-- A snapshot is a new object, if it is taken. -/
theorem captureOnHeap_owns (complete : objects.Complete store) (wellFormed : store.WellFormed)
    (allocs : Allocs) {captured : List Nat} (seq : SeqId)
    (owns : heap.Owns (captured.map (·, Resource.snapshot) ++ objects.resources)) :
    let after := captureOnHeap objects allocs store (heap, captured) seq
    after.1.Owns (after.2.map (·, Resource.snapshot) ++ objects.resources) := by
  unfold captureOnHeap
  dsimp only
  cases data_eq : (store.seqs seq).data with
  | none => exact owns
  | some data =>
    dsimp only
    split
    · exact owns
    · cases ok : allocs.snapshot seq with
      | false => exact owns
      | true =>
        have taken := owns.push Resource.snapshot
        simp only [Heap.malloc, if_true]
        rw [taken.use List.mem_cons_self]
        have inPointers : objects.blocks[data.block]? ∈
            (store.memPool.pointers ++ store.pointers).map (objects.blocks[·.block]?) := by
          refine List.mem_map.mpr ⟨data, ?_, rfl⟩
          simp only [Store.pointers, List.mem_append, List.mem_filterMap]
          exact Or.inr (Or.inl (Or.inl (Or.inr ⟨seq, mem_seqOrder seq, data_eq⟩)))
        obtain ⟨object, inside, pointer_eq⟩ := complete.pointers wellFormed _ inPointers
        rw [pointer_eq]
        refine taken.use_owns ?_
        simp only [List.map_cons, List.map_append, List.mem_cons, List.mem_append]
        exact Or.inr (Or.inr inside)

omit [Double D] in
/-- The snapshots of all buffers are new objects. -/
theorem foldl_captureOnHeap_owns (complete : objects.Complete store)
    (wellFormed : store.WellFormed) (allocs : Allocs) (order : List SeqId) (captured : List Nat)
    (owns : heap.Owns (captured.map (·, Resource.snapshot) ++ objects.resources)) :
    let after := order.foldl (captureOnHeap objects allocs store) (heap, captured)
    after.1.Owns (after.2.map (·, Resource.snapshot) ++ objects.resources) := by
  induction order generalizing heap captured with
  | nil => exact owns
  | cons seq rest inductionHypothesis =>
    exact inductionHypothesis _ (captureOnHeap_owns complete wellFormed allocs seq owns)

omit [Double D] in
/-- An upgrade of the pool gives back the old block for the new one. -/
theorem flowMemPoolUpgradeOnHeap_owns (complete : objects.Complete store)
    (wellFormed : store.WellFormed) {newLevel : FlowLevel}
    (higher : ¬ newLevel.rank ≤ store.memPool.level.rank) {others : List (Nat × Resource)}
    (owns : heap.Owns (others ++ objects.resources)) :
    ∃ after upgraded, flowMemPoolUpgradeOnHeap heap objects store.memPool newLevel true =
        (after, some upgraded) ∧ after.Owns (others ++ upgraded.resources) ∧
      upgraded.state = objects.state ∧ upgraded.firstNLens = objects.firstNLens ∧
        upgraded.memPool = objects.memPool ∧
          upgraded.blocks.length = objects.blocks.length + 1 := by
  have grown := owns.push_last Resource.dynamicMem
  have used : ((store.memPool.pointers.map (objects.blocks[·.block]?)).foldl Heap.deref
      (heap.push .dynamicMem)) = heap.push .dynamicMem := by
    refine grown.foldl_deref fun pointer member => ?_
    obtain ⟨object, inside, pointer_eq⟩ := complete.pointers wellFormed pointer (by
      rw [List.map_append]
      exact List.mem_append_left _ member)
    refine ⟨object, ?_, pointer_eq⟩
    simp only [List.map_append, List.mem_append]
    exact Or.inl (Or.inr inside)
  obtain ⟨array, memPool, older, block, objects_eq, -, resources_eq⟩ := complete.objects_eq
  have current : objects.dynamicMem = some block := by
    rw [objects_eq]
    exact List.getLast?_concat
  refine ⟨(heap.push .dynamicMem).free block,
    { objects with blocks := objects.blocks ++ [heap.kinds.length] }, ?_, ?_, rfl, rfl, rfl,
    List.length_append⟩
  · simp only [flowMemPoolUpgradeOnHeap, if_neg higher, Heap.malloc, if_true]
    rw [grown.use (List.mem_map_of_mem List.mem_concat_self), used, current]
  · have resources : FlowObjects.resources
        { objects with blocks := objects.blocks ++ [heap.kinds.length] } =
          [(objects.state, .state), (array, .firstNLens), (memPool, .memPool),
            (heap.kinds.length, .dynamicMem)] := by
      rw [objects_eq]
      simp only [FlowObjects.resources, FlowObjects.dynamicMem, List.getLast?_concat]
      rfl
    rw [resources]
    rw [resources_eq, List.append_assoc] at grown
    have kept := HeapLedger.Heap.Owns.free_middle (others ++ [(objects.state, Resource.state),
      (array, .firstNLens), (memPool, .memPool)]) (by
        simpa only [List.append_assoc, List.cons_append, List.nil_append] using grown)
    simpa only [List.append_assoc, List.cons_append, List.nil_append] using kept

/-- After the upgrade block the objects are those of the new store, and the snapshots have been
given back. -/
theorem upgradeOnHeap_spec (complete : objects.Complete store) (wellFormed : store.WellFormed)
    (allocs : Allocs) (owns : heap.Owns objects.resources) :
    let after := upgradeOnHeap allocs heap objects store
    after.1.Owns after.2.resources ∧ after.2.Complete (upgradeIfNeeded allocs store) := by
  have captured := foldl_captureOnHeap_owns complete wellFormed allocs seqOrder [] owns
  have id_eq := wellFormed.upgradeIfNeeded_id allocs
  have sameLevel : (flowMemPoolCheckUpgrade store.memPool).1.level = store.memPool.level := by
    obtain ⟨count, flag, checked_eq⟩ := flowMemPoolCheckUpgrade_eq store.memPool
    rw [checked_eq]
  have samePool : ∀ heap newLevel ok, flowMemPoolUpgradeOnHeap heap objects
      (flowMemPoolCheckUpgrade store.memPool).1 newLevel ok =
        flowMemPoolUpgradeOnHeap heap objects store.memPool newLevel ok := by
    obtain ⟨count, flag, checked_eq⟩ := flowMemPoolCheckUpgrade_eq store.memPool
    intro heap newLevel ok
    rw [checked_eq]
    rfl
  unfold upgradeOnHeap
  dsimp only
  cases due : (flowMemPoolCheckUpgrade store.memPool).2 with
  | false =>
    rw [due, Bool.false_and] at id_eq
    exact ⟨owns, complete.firstNLens, complete.memPool,
      complete.current.trans (congrArg (· + 1) id_eq.symm)⟩
  | true =>
    obtain ⟨newLevel, next⟩ := FlowLevel.next_of_due due
    have higher := FlowLevel.next_rank next
    simp only [if_true, sameLevel, next, samePool]
    rw [due, Bool.true_and] at id_eq
    cases ok : allocs.upgrade with
    | false =>
      rw [ok] at id_eq
      simp only [flowMemPoolUpgradeOnHeap, if_neg higher]
      exact ⟨captured.foldl_free, complete.firstNLens, complete.memPool,
        complete.current.trans (congrArg (· + 1) id_eq.symm)⟩
    | true =>
      rw [ok] at id_eq
      obtain ⟨after, upgraded, run, kept, -, firstNLens_eq, memPool_eq, blocks_eq⟩ :=
        flowMemPoolUpgradeOnHeap_owns complete wellFormed higher captured
      rw [run]
      have newComplete : upgraded.Complete (upgradeIfNeeded allocs store) :=
        ⟨firstNLens_eq ▸ complete.firstNLens, memPool_eq ▸ complete.memPool,
          blocks_eq.trans (congrArg (· + 1) (complete.current.trans id_eq.symm))⟩
      refine ⟨?_, newComplete⟩
      dsimp only
      rw [newComplete.useFlow (wellFormed.upgradeIfNeeded allocs).wellFormed _ kept,
        kept.foldl_use fun object member => ?_]
      · exact kept.foldl_free
      · simp only [List.map_append, List.map_map, List.mem_append]
        exact Or.inl (List.mem_map.mpr ⟨object, member, rfl⟩)

end Upgrade

/-! ### Callbacks keep the account -/

section Callbacks

variable (cfg : FeatureConfig) (platform : Platform D) (streamType : StreamType)

theorem processDataOnHeap_sound (allocs : Allocs) (packet : RawPacket)
    {heap : Heap Resource} {flow : Flow D} (sound : SlotSound cfg (heap, some flow)) :
    let after := processDataOnHeap cfg platform streamType allocs packet heap flow
    SlotSound cfg (after.1, some after.2) := by
  have complete := sound.complete flow rfl
  have wellFormed := sound.wellFormed flow rfl
  have owns : heap.Owns flow.objects.resources := sound.owns
  obtain ⟨kept, upgraded⟩ := upgradeOnHeap_spec complete wellFormed.store allocs owns
  have newWellFormed : (processData cfg platform streamType allocs packet flow.state).WellFormed
      cfg := processData_wellFormed wellFormed streamType allocs packet
  have sameBlock := (wellFormed.store.upgradeIfNeeded allocs).wellFormed.foldl_access_id
    (dataAccesses_valid cfg platform (packetInfo cfg streamType packet) wellFormed.window)
  have newComplete : FlowObjects.Complete _
      (processData cfg platform streamType allocs packet flow.state).store :=
    ⟨upgraded.firstNLens, upgraded.memPool,
      upgraded.current.trans (congrArg (· + 1) sameBlock.symm)⟩
  have used := complete.useFlow wellFormed.store [] owns
  unfold processDataOnHeap
  dsimp only
  rw [used, newComplete.useFlow newWellFormed.store [] kept]
  exact .some kept newComplete newWellFormed

theorem processDataOnHeap_state (allocs : Allocs) (packet : RawPacket) (heap : Heap Resource)
    (flow : Flow D) :
    (processDataOnHeap cfg platform streamType allocs packet heap flow).2.state =
      processData cfg platform streamType allocs packet flow.state := rfl

omit [Double D] in
/-- Closing gives back every object of the flow. -/
theorem flowStateDestroy_free_owns {heap : Heap Resource} {flow : Flow D}
    (complete : flow.objects.Complete flow.state.store)
    (owns : heap.Owns flow.objects.resources) :
    ((flowStateDestroy heap flow.objects).free flow.objects.state).Owns [] := by
  obtain ⟨memPool, memPool_eq⟩ := complete.memPool
  have pool : flow.objects.memPool = none → flow.objects.dynamicMem = none := fun absent =>
    absurd (memPool_eq.symm.trans absent) (Option.some_ne_none _)
  exact (flowStateDestroy_owns pool owns).free

/-- One callback keeps the account, and does to the values what it does without the heap. -/
theorem trafficProcessOnHeap_sound (callback : Callback)
    {slot : Heap Resource × Option (Flow D)} (sound : SlotSound cfg slot) :
    let after := trafficProcessOnHeap cfg platform streamType callback slot.1 slot.2
    let values := trafficProcess cfg platform streamType callback.flag callback.allocs
      callback.packet (slot.2.map Flow.state)
    SlotSound cfg (after.1, after.2.1) ∧ after.2.1.map Flow.state = values.1 ∧
      after.2.2 = values.2.1 := by
  obtain ⟨heap, pme⟩ := slot
  obtain ⟨flag, allocs, packet⟩ := callback
  have data : ∀ {heap : Heap Resource} {flow : Flow D}, SlotSound cfg (heap, some flow) →
      let after := processDataOnHeap cfg platform streamType allocs packet heap flow
      SlotSound cfg (after.1, some after.2) := fun {heap flow} sound =>
    processDataOnHeap_sound cfg platform streamType allocs packet sound
  cases flag with
  | pending =>
    cases pme with
    | none =>
      obtain ⟨created, state_eq⟩ := createOnHeap_spec (D := D) cfg allocs (packetTsUs cfg packet)
        sound.owns
      simp only [trafficProcessOnHeap, trafficProcess, Option.map_none, ← state_eq]
      dsimp only at created ⊢
      revert created
      rcases createOnHeap (D := D) cfg allocs (packetTsUs cfg packet) heap with ⟨after, none | flow⟩
      · exact fun created => ⟨created, rfl, rfl⟩
      · intro created
        simp only [Option.map_some, processDataOnHeap_state, and_true]
        exact data created
    | some flow =>
      simp only [trafficProcessOnHeap, trafficProcess, Option.map_some, processDataOnHeap_state,
        and_true]
      exact data sound
  | data =>
    cases pme with
    | none => exact ⟨sound, rfl, rfl⟩
    | some flow =>
      simp only [trafficProcessOnHeap, trafficProcess, Option.map_some, processDataOnHeap_state,
        and_true]
      exact data sound
  | close =>
    cases pme with
    | none => exact ⟨sound, rfl, rfl⟩
    | some flow =>
      simp only [trafficProcessOnHeap, trafficProcess, Option.map_some, Option.map_none]
      have complete := sound.complete flow rfl
      have owns : heap.Owns flow.objects.resources := sound.owns
      rw [complete.useFlow (sound.wellFormed flow rfl).store [] owns]
      exact ⟨.none (flowStateDestroy_free_owns complete owns), trivial, trivial⟩
  | other => cases pme <;> exact ⟨sound, rfl, rfl⟩

end Callbacks

end TiFeatures
