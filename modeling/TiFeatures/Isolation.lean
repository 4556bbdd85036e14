/-
This file lets any number of streams share the heap of the process. In whatever
order their callbacks come, each stream goes through the states, and writes out the
features, that its own callbacks give, and the live objects are those of the flows
that are open, each of which belongs to one of them.
-/

import TiFeatures.Library.Tenants
import TiFeatures.Slots

namespace TiFeatures

open HeapLedger

variable {D : Type} [Double D]

/-! ### The heap is only a source of objects -/

section Shared

variable {others : List Nat} {start heap hidden : Heap Resource}

omit [Double D] in
theorem useFlow_shared (shared : Shared others start heap hidden) (objects : FlowObjects)
    (store : Store D) :
    Shared others start (useFlow heap objects store) (useFlow hidden objects store) :=
  shared.foldl (fun pointer together => together.deref pointer) _

theorem freeFirstNLens_shared (shared : Shared others start heap hidden) (objects : FlowObjects) :
    Shared others start (freeFirstNLens heap objects) (freeFirstNLens hidden objects) := by
  unfold freeFirstNLens
  cases objects.firstNLens with
  | none => exact shared
  | some array => exact (shared.free array).use objects.state

theorem flowMemPoolDestroy_shared (shared : Shared others start heap hidden) (memPool : Nat)
    (dynamicMem : Option Nat) :
    Shared others start (flowMemPoolDestroy heap memPool dynamicMem)
      (flowMemPoolDestroy hidden memPool dynamicMem) := by
  unfold flowMemPoolDestroy
  cases dynamicMem with
  | none => exact (shared.use memPool).use memPool
  | some block => exact ((shared.use memPool).free block).use memPool

theorem flowStateDestroy_shared (shared : Shared others start heap hidden)
    (objects : FlowObjects) :
    Shared others start (flowStateDestroy heap objects) (flowStateDestroy hidden objects) := by
  have freed := freeFirstNLens_shared (shared.use objects.state) objects
  unfold flowStateDestroy
  cases objects.memPool with
  | none => exact freed
  | some memPool =>
    exact ((flowMemPoolDestroy_shared freed memPool objects.dynamicMem).free memPool).use
      objects.state

end Shared

omit [Double D] in
/-- The initialisation of a state. -/
theorem flowStateInitOnHeap_uniform (cfg : FeatureConfig) (allocs : Allocs) (state : Nat) :
    Uniform fun heap => flowStateInitOnHeap (D := D) cfg allocs heap state := by
  refine .of fun {others start heap hidden} shared => ?_
  have used := shared.use state
  have array := used.push Resource.firstNLens
  have memPool := (array.push Resource.memPool).use
    ((heap.use state).push Resource.firstNLens).kinds.length
  have block := (memPool.push Resource.dynamicMem).use
    ((((heap.use state).push Resource.firstNLens).push Resource.memPool).use
      ((heap.use state).push Resource.firstNLens).kinds.length).kinds.length
  unfold flowStateInitOnHeap
  cases allocs.firstNLens with
  | false =>
    simp only [Heap.malloc, Bool.false_eq_true, if_false, and_true]
    exact flowStateDestroy_shared used _
  | true =>
    simp only [Heap.malloc, if_true, used.next_eq]
    cases allocs.memPool with
    | false =>
      simp only [Bool.false_eq_true, if_false, and_true]
      exact flowStateDestroy_shared array _
    | true =>
      simp only [if_true, array.next_eq]
      cases allocs.dynamicMem with
      | false =>
        simp only [Bool.false_eq_true, if_false, and_true]
        exact flowStateDestroy_shared (memPool.free _) _
      | true =>
        simp only [if_true, memPool.next_eq]
        cases flowStateInit (D := D) cfg allocs with
        | none =>
          dsimp only
          exact ⟨flowStateDestroy_shared block _, rfl⟩
        | some store =>
          dsimp only
          exact ⟨useFlow_shared block _ store, rfl⟩

/-- The creation of a state. -/
theorem createOnHeap_uniform (cfg : FeatureConfig) (allocs : Allocs) (tsUs : Nat) :
    Uniform fun heap => createOnHeap (D := D) cfg allocs tsUs heap := by
  refine .of fun {others start heap hidden} shared => ?_
  have created := shared.push Resource.state
  have initialised := flowStateInitOnHeap_uniform (D := D) cfg allocs heap.kinds.length
  have together := initialised.keeps created
  have result_eq := initialised.result_eq created
  unfold createOnHeap
  cases allocs.state with
  | false =>
    simp only [Heap.malloc, Bool.false_eq_true, if_false, and_true]
    exact shared
  | true =>
    simp only [Heap.malloc, if_true, shared.next_eq]
    revert together result_eq
    rcases flowStateInitOnHeap (D := D) cfg allocs (heap.push .state) heap.kinds.length with
      ⟨after, objects⟩
    rcases flowStateInitOnHeap (D := D) cfg allocs (hidden.push .state) heap.kinds.length with
      ⟨hiddenAfter, hiddenObjects⟩
    rintro together rfl
    cases objects with
    | none => exact ⟨together.free _, rfl⟩
    | some created => exact ⟨together.use _, rfl⟩

omit [Double D] in
/-- The snapshot of one buffer. -/
theorem captureOnHeap_uniform (objects : FlowObjects) (allocs : Allocs) (store : Store D)
    (captured : List Nat) (seq : SeqId) :
    Uniform fun heap => captureOnHeap objects allocs store (heap, captured) seq := by
  unfold captureOnHeap
  dsimp only
  cases (store.seqs seq).data with
  | none => exact .pure captured
  | some data =>
    dsimp only
    split
    · exact .pure captured
    · refine .of fun {others start heap hidden} shared => ?_
      cases allocs.snapshot seq with
      | false =>
        simp only [Heap.malloc, Bool.false_eq_true, if_false, and_true]
        exact shared
      | true =>
        simp only [Heap.malloc, if_true, shared.next_eq, and_true]
        exact ((shared.push Resource.snapshot).use _).deref _

omit [Double D] in
/-- The snapshots of all buffers. -/
theorem foldl_captureOnHeap_uniform (objects : FlowObjects) (allocs : Allocs) (store : Store D)
    (order : List SeqId) (captured : List Nat) :
    Uniform fun heap => order.foldl (captureOnHeap objects allocs store) (heap, captured) := by
  induction order generalizing captured with
  | nil => exact .pure captured
  | cons seq rest inductionHypothesis =>
    exact .bind (captureOnHeap_uniform objects allocs store captured seq) inductionHypothesis

omit [Double D] in
/-- The upgrade of the pool. -/
theorem flowMemPoolUpgradeOnHeap_uniform (objects : FlowObjects) (pool : FlowMemPool D)
    (newLevel : FlowLevel) (mallocOk : Bool) :
    Uniform fun heap => flowMemPoolUpgradeOnHeap heap objects pool newLevel mallocOk := by
  unfold flowMemPoolUpgradeOnHeap
  split
  · exact .pure none
  · refine .of fun {others start heap hidden} shared => ?_
    cases mallocOk with
    | false =>
      simp only [Heap.malloc, Bool.false_eq_true, if_false, and_true]
      exact shared
    | true =>
      simp only [Heap.malloc, if_true, shared.next_eq, and_true]
      have copied := ((shared.push Resource.dynamicMem).use heap.kinds.length).foldl
        (fun pointer together => Shared.deref together pointer)
        (pool.pointers.map (objects.blocks[·.block]?))
      cases objects.dynamicMem with
      | none => exact copied
      | some oldMem => exact copied.free oldMem

omit [Double D] in
/-- The upgrade block. -/
theorem upgradeOnHeap_uniform (objects : FlowObjects) (allocs : Allocs) (store : Store D) :
    Uniform fun heap => upgradeOnHeap allocs heap objects store := by
  have captures := foldl_captureOnHeap_uniform objects allocs store seqOrder []
  unfold upgradeOnHeap
  dsimp only
  split
  · refine .of fun {others start heap hidden} shared => ?_
    have together := captures.keeps shared
    rw [← captures.result_eq shared]
    generalize (seqOrder.foldl (captureOnHeap objects allocs store) (heap, [])).2 = taken
    revert together
    generalize (seqOrder.foldl (captureOnHeap objects allocs store) (heap, [])).1 = own
    generalize (seqOrder.foldl (captureOnHeap objects allocs store) (hidden, [])).1 = seen
    intro together
    have released : ∀ {own seen : Heap Resource}, Shared others start own seen →
        Shared others start (taken.foldl Heap.free own) (taken.foldl Heap.free seen) :=
      fun together => together.foldl (fun object both => Shared.free both object) taken
    cases (flowMemPoolCheckUpgrade store.memPool).1.level.next with
    | none => exact ⟨released together, rfl⟩
    | some newLevel =>
      have upgrade := flowMemPoolUpgradeOnHeap_uniform objects
        (flowMemPoolCheckUpgrade store.memPool).1 newLevel allocs.upgrade
      have after := upgrade.keeps together
      have result_eq := upgrade.result_eq together
      revert after result_eq
      dsimp only
      rcases flowMemPoolUpgradeOnHeap own objects (flowMemPoolCheckUpgrade store.memPool).1
        newLevel allocs.upgrade with ⟨ownAfter, upgraded⟩
      rcases flowMemPoolUpgradeOnHeap seen objects (flowMemPoolCheckUpgrade store.memPool).1
        newLevel allocs.upgrade with ⟨seenAfter, seenUpgraded⟩
      rintro after rfl
      cases upgraded with
      | none => exact ⟨released after, rfl⟩
      | some objects =>
        refine ⟨released ((useFlow_shared after objects _).foldl
          (fun object both => Shared.use both object) taken), rfl⟩
  · exact .pure objects

/-- The DATA branch. -/
theorem processDataOnHeap_uniform (cfg : FeatureConfig) (platform : Platform D)
    (streamType : StreamType) (allocs : Allocs) (packet : RawPacket) (flow : Flow D) :
    Uniform fun heap => processDataOnHeap cfg platform streamType allocs packet heap flow := by
  refine .of fun {others start heap hidden} shared => ?_
  have used := useFlow_shared shared flow.objects flow.state.store
  have upgrade := upgradeOnHeap_uniform flow.objects allocs flow.state.store
  have upgraded := upgrade.keeps used
  unfold processDataOnHeap
  dsimp only
  rw [← upgrade.result_eq used]
  exact ⟨useFlow_shared upgraded _ _, rfl⟩

/-- A callback makes no use of the heap but to allocate, use and give back objects. -/
theorem trafficProcessOnHeap_uniform (cfg : FeatureConfig) (platform : Platform D)
    (streamType : StreamType) (callback : Callback) (pme : Option (Flow D)) :
    Uniform fun heap => trafficProcessOnHeap cfg platform streamType callback heap pme := by
  have data : ∀ flow : Flow D, Uniform fun heap =>
      let result := processDataOnHeap cfg platform streamType callback.allocs callback.packet
        heap flow
      (result.1, some result.2, (none : Option (Output D))) := fun flow =>
    (processDataOnHeap_uniform cfg platform streamType callback.allocs callback.packet flow).map
      fun flow => (some flow, none)
  obtain ⟨flag, allocs, packet⟩ := callback
  cases flag with
  | pending =>
    cases pme with
    | none =>
      refine .of fun {others start heap hidden} shared => ?_
      have create := createOnHeap_uniform (D := D) cfg allocs (packetTsUs cfg packet)
      have created := create.keeps shared
      have result_eq := create.result_eq shared
      simp only [trafficProcessOnHeap]
      revert created result_eq
      rcases createOnHeap (D := D) cfg allocs (packetTsUs cfg packet) heap with ⟨after, flow⟩
      rcases createOnHeap (D := D) cfg allocs (packetTsUs cfg packet) hidden with
        ⟨hiddenAfter, hiddenFlow⟩
      rintro created rfl
      cases flow with
      | none => exact ⟨created, rfl⟩
      | some flow => exact ⟨(data flow).keeps created, (data flow).result_eq created⟩
    | some flow =>
      simp only [trafficProcessOnHeap]
      exact data flow
  | data =>
    cases pme with
    | none => exact .pure (none, none)
    | some flow =>
      simp only [trafficProcessOnHeap]
      exact data flow
  | close =>
    cases pme with
    | none => exact .pure (none, none)
    | some flow =>
      simp only [trafficProcessOnHeap]
      exact ⟨fun shared => (flowStateDestroy_shared (useFlow_shared shared flow.objects
        flow.state.store) flow.objects).free flow.objects.state, fun _ => rfl⟩
  | other => cases pme <;> exact .pure _

/-! ### Any number of streams -/

section Streams

variable (cfg : FeatureConfig) (platform : Platform D)

/-- A slot that is a flow of its own, in order, or empty. -/
def SlotGood (pme : Option (Flow D)) : Prop :=
  ∀ flow ∈ pme, flow.objects.Complete flow.state.store ∧ flow.state.WellFormed cfg

omit [Double D] in
theorem slotSound_iff {heap : Heap Resource} {pme : Option (Flow D)} :
    SlotSound cfg (heap, pme) ↔ heap.Owns (slotResources pme) ∧ SlotGood cfg pme :=
  ⟨fun sound => ⟨sound.owns, fun flow member =>
    ⟨sound.complete flow member, sound.wellFormed flow member⟩⟩,
    fun ⟨owns, good⟩ => ⟨owns, fun flow member => (good flow member).1,
      fun flow member => (good flow member).2⟩⟩

/-- The callbacks of one stream, without the heap: the state behind `pme`, and for every callback
the features it writes out, if it does. -/
def streamAlone (streamType : StreamType) :
    Mealy (Option (FlowFeatureState D)) Callback (Option (Output D)) where
  step pme callback :=
    (trafficProcess cfg platform streamType callback.flag callback.allocs callback.packet pme).1
  emit pme callback :=
    [(trafficProcess cfg platform streamType callback.flag callback.allocs callback.packet
      pme).2.1]

variable {Stream : Type} (streamTypeOf : Stream → StreamType)

/-- The slots of all streams, which share the heap of the process: the entry of the plugin for the
type of the stream is called with the slot of the stream. -/
def streamSlots : Tenants Stream Resource Callback (Option (Flow D))
    (Option (FlowFeatureState D)) (Option (Output D)) where
  initial := none
  step stream callback pme heap :=
    trafficProcessOnHeap cfg platform (streamTypeOf stream) callback heap pme
  owned := slotResources
  Good := SlotGood cfg
  value := Option.map Flow.state
  plain stream callback pme :=
    let result := trafficProcess cfg platform (streamTypeOf stream) callback.flag callback.allocs
      callback.packet pme
    (result.1, result.2.1)
  initial_owned := rfl
  initial_good _ member := absurd member (Option.not_mem_none _)
  uniform stream callback pme :=
    trafficProcessOnHeap_uniform cfg platform (streamTypeOf stream) callback pme
  alone stream callback _ _ owns good := (slotSound_iff cfg).mp
    (trafficProcessOnHeap_sound cfg platform (streamTypeOf stream) callback
      ((slotSound_iff cfg).mpr ⟨owns, good⟩)).1
  value_step stream callback _ _ owns good :=
    (trafficProcessOnHeap_sound cfg platform (streamTypeOf stream) callback
      ((slotSound_iff cfg).mpr ⟨owns, good⟩)).2

variable [DecidableEq Stream]

/-- In whatever order the callbacks of any number of streams come, and whichever allocations fail,
every stream has the state, and has written out the features, that its own callbacks give. No
object is used or given back that is not live. The live objects are those of the open flows, four
for each; no two flows share one, and every other object came back once. -/
theorem streamSlots_isolated (callbacks : List (Stream × Callback)) :
    let slots := streamSlots cfg platform streamTypeOf
    let heap := (slots.run callbacks).1
    let pme := (slots.run callbacks).2
    (∀ stream,
      let own := Tenants.only stream callbacks
      (pme stream).map Flow.state =
          (streamAlone cfg platform (streamTypeOf stream)).run none own ∧
        Tenants.only stream (slots.outputs callbacks) =
          (streamAlone cfg platform (streamTypeOf stream)).trace none own) ∧
      heap.fault = false ∧
      (∀ object, heap.live object = true ↔
        ∃ stream, object ∈ (slotResources (pme stream)).map Prod.fst) ∧
      (∀ stream flow, pme stream = some flow → (flow.objects.resources.map Prod.fst).Nodup ∧
        flow.objects.resources.map Prod.snd = [.state, .firstNLens, .memPool, .dynamicMem]) ∧
      (∀ stream other, stream ≠ other → List.Disjoint ((slotResources (pme stream)).map Prod.fst)
        ((slotResources (pme other)).map Prod.fst)) ∧
      ∀ object < heap.kinds.length,
        heap.freed.count object = if heap.live object then 0 else 1 := by
  intro slots heap pme
  refine ⟨slots.run_alone callbacks, slots.run_fault callbacks, slots.run_live_iff callbacks,
    fun stream flow opened => ?_,
    fun stream other apart => slots.run_owned_disjoint callbacks apart,
    fun object inside => slots.run_count_freed callbacks inside⟩
  have distinct : ((slotResources (pme stream)).map Prod.fst).Nodup :=
    slots.run_owned_nodup callbacks stream
  have good : SlotGood cfg (pme stream) := slots.run_good callbacks stream
  obtain ⟨array, memPool, older, block, -, -, resources_eq⟩ := (good flow opened).1.objects_eq
  rw [opened] at distinct
  exact ⟨distinct, by rw [resources_eq]; rfl⟩

/-- A TCP and a UDP stream that are open at the same time. -/
theorem streamSlots_isolated_two :
    let slots := streamSlots (featConfigRead defaultThresholds defaultSwitches)
      (barePlatform Float) fun stream : Bool => if stream then .tcp else .udp
    let pme := (slots.run [(true, ⟨.pending, .succeed, barePacket 1 1 0⟩),
      (false, ⟨.pending, .succeed, barePacket 2 1 0⟩),
      (true, ⟨.data, .succeed, barePacket 3 2 0⟩)]).2
    List.Disjoint ((slotResources (pme true)).map Prod.fst)
      ((slotResources (pme false)).map Prod.fst) :=
  (streamSlots_isolated (featConfigRead defaultThresholds defaultSwitches) (barePlatform Float)
    (fun stream : Bool => if stream then .tcp else .udp) _).2.2.2.2.1 true false (by decide)

end Streams

end TiFeatures
