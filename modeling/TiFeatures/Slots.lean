/-
This file follows one stream slot through any sequence of callbacks. After every
callback the live objects are those of one complete flow, or there are none; every
other object was given back once; and a flow that closes reports the number of
the packets handled since it was created, modulo the width of the counter.
-/

import TiFeatures.Calls
import TiFeatures.Lifecycle

namespace TiFeatures

open HeapLedger

variable {D : Type} [Double D] (cfg : FeatureConfig) (platform : Platform D)
  (streamType : StreamType)

/-! ### The account of a slot -/

/-- The slot after one more callback. -/
theorem slotRun_concat (callbacks : List Callback) (callback : Callback) :
    slotRun cfg platform streamType (callbacks ++ [callback]) =
      let slot := slotRun cfg platform streamType callbacks
      let result := trafficProcessOnHeap cfg platform streamType callback slot.1 slot.2
      (result.1, result.2.1) :=
  List.foldl_concat _ _ _ _

/-- The account is kept by every sequence of callbacks. -/
theorem slotRun_sound (callbacks : List Callback) :
    SlotSound cfg (slotRun cfg platform streamType callbacks) := by
  induction callbacks using List.reverseRecOn with
  | nil => exact .none Heap.empty_owns
  | append_singleton before callback inductionHypothesis =>
    rw [slotRun_concat]
    exact (trafficProcessOnHeap_sound cfg platform streamType callback inductionHypothesis).1

/-- The values behind `pme` are those of the callbacks without the heap. -/
theorem slotRun_values (callbacks : List Callback) :
    (slotRun cfg platform streamType callbacks).2.map Flow.state =
      callbacks.foldl (fun pme callback => (trafficProcess cfg platform streamType callback.flag
        callback.allocs callback.packet pme).1) none := by
  induction callbacks using List.reverseRecOn with
  | nil => rfl
  | append_singleton before callback inductionHypothesis =>
    rw [slotRun_concat, List.foldl_concat, ← inductionHypothesis]
    exact (trafficProcessOnHeap_sound cfg platform streamType callback
      (slotRun_sound cfg platform streamType before)).2.1

/-! ### Packets since the creation -/

/-- The callbacks that count a packet. -/
def StateFlag.counts : StateFlag → Bool
  | .pending | .data => true
  | .close | .other => false

/-- The number of packets a flow has counted. -/
def FlowFeatureState.totalPackets (state : FlowFeatureState D) : Nat :=
  state.fields.counters.totalPackets

theorem processData_totalPackets (allocs : Allocs) (packet : RawPacket)
    (state : FlowFeatureState D) :
    (processData cfg platform streamType allocs packet state).totalPackets =
      u64 (state.totalPackets + 1) := by
  simp only [FlowFeatureState.totalPackets, processData, dataFields, countersCall_counters]

/-- Until it closes, a flow counts the callbacks with a packet. -/
theorem foldl_trafficProcess_totalPackets (callbacks : List Callback)
    (notClosed : ∀ callback ∈ callbacks, callback.flag ≠ .close) {state : FlowFeatureState D}
    {handled : Nat} (counted : state.totalPackets = u64 handled) :
    ∃ after, callbacks.foldl (fun pme callback => (trafficProcess cfg platform streamType
        callback.flag callback.allocs callback.packet pme).1) (some state) = some after ∧
      after.totalPackets = u64 (handled + callbacks.countP (·.flag.counts)) := by
  induction callbacks generalizing state handled with
  | nil => exact ⟨state, rfl, counted⟩
  | cons callback rest inductionHypothesis =>
    have later : ∀ other ∈ rest, other.flag ≠ .close := fun other member =>
      notClosed other (List.mem_cons_of_mem _ member)
    have packet : (processData cfg platform streamType callback.allocs callback.packet
        state).totalPackets = u64 (handled + 1) := by
      rw [processData_totalPackets, counted]
      exact Nat.mod_add_mod _ _ _
    have isPacket := notClosed callback List.mem_cons_self
    rw [List.foldl_cons, List.countP_cons]
    cases flag : callback.flag with
    | pending =>
      obtain ⟨after, run, total⟩ := inductionHypothesis later packet
      exact ⟨after, run, by rw [total, StateFlag.counts, if_pos rfl]; congr 1; omega⟩
    | data =>
      obtain ⟨after, run, total⟩ := inductionHypothesis later packet
      exact ⟨after, run, by rw [total, StateFlag.counts, if_pos rfl]; congr 1; omega⟩
    | close => exact absurd flag isPacket
    | other =>
      obtain ⟨after, run, total⟩ := inductionHypothesis later counted
      exact ⟨after, run, total⟩

/-- The creation of a state counts its packet. -/
theorem trafficProcess_creates {allocs : Allocs} {packet : RawPacket} {flag : StateFlag}
    {state : FlowFeatureState D}
    (created : (trafficProcess cfg platform streamType flag allocs packet none).1 = some state) :
    flag = .pending ∧ state.totalPackets = u64 1 := by
  cases flag with
  | pending =>
    refine ⟨rfl, ?_⟩
    unfold trafficProcess at created
    dsimp only at created
    cases create : createFlow (D := D) cfg allocs (packetTsUs cfg packet) with
    | none =>
      rw [create] at created
      cases created
    | some initial =>
      rw [create] at created
      cases created
      have zero : initial.totalPackets = 0 := by
        rw [FlowFeatureState.totalPackets, (createFlow_eq_some create).1]
        rfl
      rw [processData_totalPackets, zero]
  | data => cases created
  | close => cases created
  | other => cases created

/-- A flow holds the number of packets since its creation. -/
theorem slotRun_totalPackets {before : List Callback} {opening : Callback}
    (empty : (slotRun cfg platform streamType before).2 = none)
    (opens : (slotRun cfg platform streamType (before ++ [opening])).2.isSome = true)
    {during : List Callback} (notClosed : ∀ callback ∈ during, callback.flag ≠ .close) :
    ∃ flow, (slotRun cfg platform streamType (before ++ opening :: during)).2 = some flow ∧
      flow.state.totalPackets = u64 (1 + during.countP (·.flag.counts)) := by
  have valuesBefore := slotRun_values cfg platform streamType before
  have valuesOpened := slotRun_values cfg platform streamType (before ++ [opening])
  have values := slotRun_values cfg platform streamType (before ++ opening :: during)
  rw [empty, Option.map_none] at valuesBefore
  rw [List.foldl_concat, ← valuesBefore] at valuesOpened
  rw [List.foldl_append, List.foldl_cons, ← valuesBefore, ← valuesOpened] at values
  obtain ⟨opened, opened_eq⟩ := Option.isSome_iff_exists.mp opens
  rw [opened_eq, Option.map_some] at valuesOpened values
  obtain ⟨-, one⟩ := trafficProcess_creates cfg platform streamType valuesOpened.symm
  obtain ⟨after, run, total⟩ := foldl_trafficProcess_totalPackets cfg platform streamType during
    notClosed one
  rw [run] at values
  obtain ⟨flow, flow_eq, state_eq⟩ := Option.map_eq_some_iff.mp values
  exact ⟨flow, flow_eq, state_eq ▸ total⟩

/-! ### The lifecycle of the flows of a slot -/

/-- After every sequence of callbacks no object was used or given back after it had been given
back, the live objects are those of one complete flow if `pme` is set and none otherwise, and
every other object was given back once. A flow that closes writes out the number of packets
handled since its creation, modulo the width of `total_packets`, and leaves the slot empty. -/
theorem slotRun_lifecycle :
    (∀ callbacks : List Callback,
      let slot := slotRun cfg platform streamType callbacks
      slot.1.fault = false ∧
        slot.1.liveKinds.Perm (if slot.2.isSome then
          [.state, .firstNLens, .memPool, .dynamicMem] else []) ∧
          ∀ object < slot.1.kinds.length,
            slot.1.freed.count object = if slot.1.live object then 0 else 1) ∧
      ∀ (before : List Callback) (opening : Callback) (during : List Callback) (closing : Callback),
        (slotRun cfg platform streamType before).2 = none →
        (slotRun cfg platform streamType (before ++ [opening])).2.isSome = true →
        (∀ callback ∈ during, callback.flag ≠ .close) → closing.flag = .close →
          let slot := slotRun cfg platform streamType (before ++ opening :: during)
          let closed := trafficProcessOnHeap cfg platform streamType closing slot.1 slot.2
          closed.2.1 = none ∧ ∃ features, closed.2.2 = some features ∧
            addNumber "total_packets" ((u64 (1 + during.countP (·.flag.counts)) : Nat) : D) ∈
              features := by
  refine ⟨fun callbacks => ?_, fun before opening during closing empty opens notClosed closes => ?_⟩
  · obtain ⟨owns, complete, -⟩ := slotRun_sound cfg platform streamType callbacks
    refine ⟨owns.noFault, ?_, fun object inside => ?_⟩
    · have kinds := owns.liveKinds_perm
      revert kinds complete
      cases (slotRun cfg platform streamType callbacks).2 with
      | none => exact fun _ kinds => kinds
      | some flow =>
        intro complete kinds
        obtain ⟨array, memPool, older, block, -, -, resources_eq⟩ :=
          (complete flow rfl).objects_eq
        exact kinds.trans (.of_eq (congrArg (List.map Prod.snd) resources_eq))
    · rw [owns.count_freed inside]
      exact if_congr (owns.live_iff object).symm rfl rfl
  · obtain ⟨flow, flow_eq, total⟩ := slotRun_totalPackets cfg platform streamType empty opens
      notClosed
    dsimp only
    rw [flow_eq]
    simp only [trafficProcessOnHeap, closes]
    refine ⟨trivial, _, rfl, ?_⟩
    rw [← total]
    have inView : flow.state.view.counters.totalPackets = flow.state.totalPackets := rfl
    rw [← inView, flowStateComputeFeatures]
    exact List.mem_append_right _ List.mem_cons_self

/-- A slot that is empty holds a flow after a PENDING callback whose allocations succeed. -/
theorem slotRun_opens {callbacks : List Callback}
    (empty : (slotRun cfg platform streamType callbacks).2 = none) (packet : RawPacket) :
    (slotRun cfg platform streamType
      (callbacks ++ [⟨.pending, .succeed, packet⟩])).2.isSome = true := by
  have values := slotRun_values cfg platform streamType
    (callbacks ++ [⟨.pending, .succeed, packet⟩])
  obtain ⟨state, created⟩ := createFlow_succeed (D := D) cfg (packetTsUs cfg packet)
  have opened : (trafficProcess cfg platform streamType .pending .succeed packet none).1 =
      some (processData cfg platform streamType .succeed packet state) := by
    simp only [trafficProcess, created]
  rw [List.foldl_concat, ← slotRun_values, empty, Option.map_none, opened] at values
  rw [← Option.isSome_map, values]
  rfl

/-- Every allocation succeeds but that of the block of the pool. -/
def refusedBlock : Allocs := { Allocs.succeed with dynamicMem := false }

/-- A slot stays empty if the block cannot be allocated. -/
theorem slotRun_refused (packet : RawPacket) :
    (slotRun cfg platform streamType [⟨.pending, refusedBlock, packet⟩]).2 = none := rfl

/-- A creation that fails, one that succeeds, two more packets, and the end of the flow. -/
theorem slotRun_lifecycle_three :
    let slot := slotRun defaultConfig (barePlatform Float) .tcp
      [⟨.pending, refusedBlock, barePacket 1 1 0⟩, ⟨.pending, .succeed, barePacket 2 1 0⟩,
        ⟨.data, .succeed, barePacket 3 2 100⟩, ⟨.data, .succeed, barePacket 4 1 200⟩]
    let closed := trafficProcessOnHeap defaultConfig (barePlatform Float) .tcp
      ⟨.close, .succeed, barePacket 5 1 0⟩ slot.1 slot.2
    closed.2.1 = none ∧ ∃ features, closed.2.2 = some features ∧
      addNumber "total_packets" ((3 : Nat) : Float) ∈ features :=
  (slotRun_lifecycle defaultConfig (barePlatform Float) .tcp).2
    [⟨.pending, refusedBlock, barePacket 1 1 0⟩] ⟨.pending, .succeed, barePacket 2 1 0⟩
    [⟨.data, .succeed, barePacket 3 2 100⟩, ⟨.data, .succeed, barePacket 4 1 200⟩]
    ⟨.close, .succeed, barePacket 5 1 0⟩ (slotRun_refused _ _ _ _)
    (slotRun_opens _ _ _ (slotRun_refused _ _ _ _) _) (by decide) rfl

/-- The callbacks of a flow with one packet and a number of others. -/
def longRun (others : Nat) : List Callback :=
  ⟨.pending, .succeed, barePacket 1 1 0⟩ ::
    List.replicate others ⟨.data, .succeed, barePacket 1 1 0⟩

theorem longRun_counts (others : Nat) : (longRun others).countP (·.flag.counts) = others + 1 := by
  rw [longRun, List.countP_cons, List.countP_replicate]
  rfl

theorem slotRun_longRun (others : Nat) :
    (slotRun cfg platform streamType (longRun others)).2.map (·.state.totalPackets) =
      some (u64 (1 + others)) := by
  have counted : (List.replicate others
      (⟨.data, .succeed, barePacket 1 1 0⟩ : Callback)).countP (·.flag.counts) = others :=
    List.countP_replicate.trans (if_pos rfl)
  have notClosed : ∀ callback ∈ List.replicate others
      (⟨.data, .succeed, barePacket 1 1 0⟩ : Callback), callback.flag ≠ .close := by
    intro callback member
    rw [List.eq_of_mem_replicate member]
    decide
  obtain ⟨flow, flow_eq, total⟩ := slotRun_totalPackets cfg platform streamType
    (show (slotRun cfg platform streamType []).2 = none from rfl) (slotRun_opens _ _ _ rfl _)
    notClosed
  rw [counted] at total
  rw [longRun, ← List.nil_append (_ :: _), flow_eq]
  exact congrArg some total

/-- A flow with `2 ^ 64` packets reports none. -/
theorem slotRun_totalPackets_wraps :
    (longRun (2 ^ 64 - 1)).countP (·.flag.counts) = 2 ^ 64 ∧
      (slotRun (featConfigRead defaultThresholds defaultSwitches) (barePlatform Float) .tcp
        (longRun (2 ^ 64 - 1))).2.map (·.state.totalPackets) = some 0 := by
  have wraps : u64 (1 + (2 ^ 64 - 1)) = 0 := by decide
  exact ⟨longRun_counts _, (slotRun_longRun _ _ _ _).trans (congrArg some wraps)⟩

end TiFeatures
