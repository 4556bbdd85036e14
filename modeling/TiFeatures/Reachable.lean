/-
This file proves what holds in every state a flow can reach, whatever packets
arrive and whichever allocations fail: the layout of its memory is intact, every
count is within its capacity, and no store has left its block.
-/

import TiFeatures.Accesses
import TiFeatures.StoreAccess
import TiFeatures.StoreUpgrade

namespace TiFeatures

variable {D : Type}

/-! ### Windows -/

theorem finishWindows_valid (windowSizeUs targetWindow current : Nat) :
    ∀ access ∈ (finishWindows (D := D) windowSizeUs targetWindow poolNumWindows current).2,
      access.Valid := by
  induction current using
    finishWindows.induct (D := D) windowSizeUs targetWindow poolNumWindows with
  | case1 current more inductionHypothesis =>
    rw [finishWindows, if_pos more]
    intro access member
    rcases List.mem_cons.mp member with rfl | later
    · exact more.2
    · exact inductionHypothesis access later
  | case2 current done =>
    rw [finishWindows, if_neg done]
    intro access member
    cases member

theorem finishWindows_le (windowSizeUs targetWindow numWindows : Nat) {current : Nat}
    (within : current ≤ numWindows) :
    (finishWindows (D := D) windowSizeUs targetWindow numWindows current).1 ≤ numWindows := by
  induction current using finishWindows.induct (D := D) windowSizeUs targetWindow numWindows with
  | case1 current more inductionHypothesis =>
    rw [finishWindows, if_pos more]
    exact inductionHypothesis more.2
  | case2 current done =>
    rw [finishWindows, if_neg done]
    exact within

/-- The window counters agree with the pool. -/
structure WindowState.WellFormed (state : WindowState) : Prop where
  numWindows_eq : state.numWindows = poolNumWindows
  currentWindow_le : state.currentWindow ≤ poolNumWindows

theorem WindowState.WellFormed.started {state : WindowState} (wellFormed : state.WellFormed)
    (tsUs : Nat) : (state.started tsUs).WellFormed := by
  unfold WindowState.started
  split
  · exact ⟨wellFormed.numWindows_eq, Nat.zero_le _⟩
  · exact wellFormed

theorem WindowState.WellFormed.windowCall [Double D] {state : WindowState}
    (wellFormed : state.WellFormed) (cfg : FeatureConfig) (info : PacketInfo) :
    (windowCall (D := D) cfg info state).1.WellFormed ∧
      ∀ access ∈ (windowCall (D := D) cfg info state).2, access.Valid := by
  have unchanged : state.WellFormed ∧ ∀ access ∈ ([] : List (Access D)), access.Valid :=
    ⟨wellFormed, fun access member => absurd member List.not_mem_nil⟩
  unfold TiFeatures.windowCall calcWindowUpdate
  split
  · split
    · exact unchanged
    · have started := wellFormed.started info.tsUs
      refine ⟨⟨started.numWindows_eq, ?_⟩, fun access member => ?_⟩
      · dsimp only
        rw [started.numWindows_eq]
        exact finishWindows_le _ _ _ started.currentWindow_le
      · dsimp only at member
        rw [started.numWindows_eq] at member
        rcases List.mem_append.mp member with finished | counted
        · exact finishWindows_valid _ _ _ access finished
        · split at counted
          · rename_i inside
            obtain rfl := List.mem_singleton.mp counted
            exact inside
          · cases counted
  · exact unchanged

/-! ### The invariant of a flow -/

theorem Access.valid_of_target {access : Access D} (other : access.target ≠ .window) :
    access.Valid := by
  cases access with
  | setWindowBitrate => exact absurd rfl other
  | countWindow => exact absurd rfl other
  | _ => trivial

section Flows

variable [Double D] {cfg : FeatureConfig} {platform : Platform D}

/-- The accesses of a packet name windows that exist. -/
theorem dataAccesses_valid (cfg : FeatureConfig) (platform : Platform D) (info : PacketInfo)
    {fields : Fields D} (wellFormed : fields.window.WellFormed) :
    ∀ access ∈ dataAccesses cfg platform info fields, access.Valid := by
  intro access member
  rcases mem_dataAccesses cfg platform info fields member with other | window
  · exact Access.valid_of_target other
  · exact (wellFormed.windowCall cfg info).2 access window

/-- The store of a flow is well formed and its window counters agree with it. -/
structure FlowFeatureState.WellFormed (cfg : FeatureConfig) (state : FlowFeatureState D) :
    Prop where
  store : state.store.WellFormed
  window : state.fields.window.WellFormed
  firstNCapacity_eq : state.store.firstNCapacity = clampFirstN cfg.firstNPackets

theorem createFlow_eq_some {allocs : Allocs} {tsUs : Nat} {state : FlowFeatureState D}
    (created : createFlow cfg allocs tsUs = some state) :
    state.fields = fieldsInit cfg tsUs ∧ state.store.Initial cfg := by
  unfold createFlow at created
  split at created
  · cases created
  · obtain ⟨store, store_eq, rfl⟩ := Option.map_eq_some_iff.mp created
    refine ⟨rfl, ?_⟩
    by_cases succeed : allocs.InitOk
    · obtain ⟨initial, initial_eq, spec⟩ := flowStateInit_initial (D := D) cfg succeed
      rw [store_eq] at initial_eq
      rwa [Option.some.inj initial_eq]
    · rw [flowStateInit_none cfg succeed] at store_eq
      cases store_eq

theorem createFlow_succeed (cfg : FeatureConfig) (tsUs : Nat) :
    ∃ state : FlowFeatureState D, createFlow cfg .succeed tsUs = some state := by
  obtain ⟨store, store_eq, -⟩ := flowStateInit_initial (D := D) cfg
    (show Allocs.succeed.InitOk from ⟨rfl, rfl, rfl⟩)
  refine ⟨⟨fieldsInit cfg tsUs, store⟩, ?_⟩
  simp only [createFlow, store_eq]
  rfl

theorem createFlow_wellFormed {allocs : Allocs} {tsUs : Nat} {state : FlowFeatureState D}
    (created : createFlow cfg allocs tsUs = some state) : state.WellFormed cfg := by
  obtain ⟨fields_eq, initial⟩ := createFlow_eq_some created
  refine ⟨initial.wellFormed, ?_, initial.firstNCapacity_eq⟩
  rw [fields_eq]
  exact ⟨rfl, Nat.zero_le _⟩

/-- What a packet makes of a flow, whatever allocations fail: the level and the count are those of
the checked pool, and the accesses act on the values that the check leaves. -/
structure FlowFeatureState.Processed (cfg : FeatureConfig) (state next : FlowFeatureState D)
    (allocs : Allocs) (accesses : List (Access D)) : Prop where
  wellFormed : next.WellFormed cfg
  contents_eq : next.store.contents =
    accesses.foldl (FlowContents.access (flowMemLevelToSeqLen next.store.memPool.level)
      (clampFirstN cfg.firstNPackets))
      (if (flowMemPoolCheckUpgrade state.store.memPool).2 && allocs.upgrade then
        state.store.contents.rebound allocs.snapshot
      else state.store.contents)
  level_eq : next.store.memPool.level =
    if (flowMemPoolCheckUpgrade state.store.memPool).2 && allocs.upgrade then
      state.store.memPool.level.next.getD state.store.memPool.level
    else state.store.memPool.level
  currentPktCount_eq : next.store.memPool.currentPktCount =
    (flowMemPoolCheckUpgrade state.store.memPool).1.currentPktCount

theorem processData_store (cfg : FeatureConfig) (platform : Platform D) (streamType : StreamType)
    (allocs : Allocs) (packet : RawPacket) (state : FlowFeatureState D) :
    (processData cfg platform streamType allocs packet state).store =
      (dataAccesses cfg platform (packetInfo cfg streamType packet) state.fields).foldl
        Store.access (upgradeIfNeeded allocs state.store) := by
  rw [processData]

theorem FlowFeatureState.WellFormed.processed {state : FlowFeatureState D}
    (wellFormed : state.WellFormed cfg) (platform : Platform D) (streamType : StreamType)
    (allocs : Allocs) (packet : RawPacket) :
    state.Processed cfg (processData cfg platform streamType allocs packet state) allocs
      (dataAccesses cfg platform (packetInfo cfg streamType packet) state.fields) := by
  have checked := wellFormed.store.upgradeIfNeeded allocs
  obtain ⟨store, contents_eq, level_eq, count_eq, firstN_eq⟩ :=
    checked.wellFormed.accessedAll (dataAccesses_valid cfg platform
      (packetInfo cfg streamType packet) wellFormed.window)
  have window := (wellFormed.window.windowCall (D := D) cfg (packetInfo cfg streamType packet)).1
  rw [checked.firstNCapacity_eq, wellFormed.firstNCapacity_eq] at firstN_eq
  rw [checked.wellFormed.pool.seqLen_eq, ← level_eq, checked.firstNCapacity_eq,
    wellFormed.firstNCapacity_eq, checked.contents_eq] at contents_eq
  rw [checked.level_eq] at level_eq
  rw [checked.currentPktCount_eq] at count_eq
  rw [← processData_store] at store contents_eq level_eq count_eq firstN_eq
  exact ⟨⟨store, window, firstN_eq⟩, contents_eq, level_eq, count_eq⟩

theorem processData_wellFormed {state : FlowFeatureState D} (wellFormed : state.WellFormed cfg)
    (streamType : StreamType) (allocs : Allocs) (packet : RawPacket) :
    (processData cfg platform streamType allocs packet state).WellFormed cfg :=
  (wellFormed.processed platform streamType allocs packet).wellFormed

/-! ### Reachable states -/

/-- The states of a flow: the one its creation leaves, and those its packets lead to, whichever
allocations fail on the way. -/
inductive Reachable (cfg : FeatureConfig) (platform : Platform D) : FlowFeatureState D → Prop
  | created {allocs : Allocs} {tsUs : Nat} {state : FlowFeatureState D} :
      createFlow cfg allocs tsUs = some state → Reachable cfg platform state
  | data {state : FlowFeatureState D} (streamType : StreamType) (allocs : Allocs)
      (packet : RawPacket) : Reachable cfg platform state →
      Reachable cfg platform (processData cfg platform streamType allocs packet state)

theorem Reachable.wellFormed {state : FlowFeatureState D}
    (reachable : Reachable cfg platform state) :
    state.WellFormed cfg := by
  induction reachable with
  | created created => exact createFlow_wellFormed created
  | data streamType allocs packet _ inductionHypothesis =>
    exact processData_wellFormed inductionHypothesis streamType allocs packet

theorem Reachable.foldl {streamType : StreamType} {state : FlowFeatureState D}
    (reachable : Reachable cfg platform state) (callbacks : List (Allocs × RawPacket)) :
    Reachable cfg platform (callbacks.foldl (fun state callback =>
      processData cfg platform streamType callback.1 callback.2 state) state) := by
  induction callbacks generalizing state with
  | nil => exact reachable
  | cons callback rest inductionHypothesis =>
    exact inductionHypothesis (.data streamType callback.1 callback.2 reachable)

/-- The state of a run is reachable. -/
theorem flowRun_reachable {streamType : StreamType} {callbacks : List (Allocs × RawPacket)}
    {state : FlowFeatureState D} (run : flowRun cfg platform streamType callbacks = some state) :
    Reachable cfg platform state := by
  cases callbacks with
  | nil => cases run
  | cons first rest =>
    rw [flowRun_cons] at run
    obtain ⟨created, created_eq, rfl⟩ := Option.map_eq_some_iff.mp run
    exact (Reachable.created created_eq).foldl (first :: rest)

end Flows

end TiFeatures
