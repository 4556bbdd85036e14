/-
This file follows the bytes and the rates of the time windows through a run. The
loop of `calc_window_update` rates a window when a packet first reaches it, before
the packet is counted, so whatever the packets are the rate is computed from no bytes.
-/

import TiFeatures.Gates
import Mathlib.Data.List.GetD

namespace TiFeatures

variable {D : Type}

/-! ### The window of a packet -/

/-- The window `calc_window_update` counts a packet in. -/
def windowOf (windowSizeUs startUs : Nat) (info : PacketInfo) : Nat :=
  u32 (u64Sub info.tsUs startUs / windowSizeUs)

/-- The bytes of the packets counted in a window. -/
def windowBytes (windowSizeUs startUs : Nat) (infos : List PacketInfo) (window : Nat) : Nat :=
  ((infos.filter fun info => windowOf windowSizeUs startUs info = window).map
    PacketInfo.pktLen).sum

theorem windowBytes_concat (windowSizeUs startUs : Nat) (infos : List PacketInfo)
    (info : PacketInfo) (window : Nat) :
    windowBytes windowSizeUs startUs (infos ++ [info]) window =
      windowBytes windowSizeUs startUs infos window +
        if windowOf windowSizeUs startUs info = window then info.pktLen else 0 := by
  by_cases here : windowOf windowSizeUs startUs info = window <;>
    simp [windowBytes, List.filter_append, here]

/-! ### The loop over the windows -/

section Loop

variable (windowSizeUs targetWindow numWindows : Nat)

/-- The loop passes the window of the packet. -/
theorem le_finishWindows (current : Nat) :
    current ≤ (finishWindows (D := D) windowSizeUs targetWindow numWindows current).1 ∧
      min (targetWindow + 1) numWindows ≤
        (finishWindows (D := D) windowSizeUs targetWindow numWindows current).1 := by
  induction current using finishWindows.induct (D := D) windowSizeUs targetWindow numWindows with
  | case1 current more inductionHypothesis =>
    rw [finishWindows, if_pos more]
    exact ⟨(Nat.le_succ current).trans inductionHypothesis.1, inductionHypothesis.2⟩
  | case2 current done =>
    rw [finishWindows, if_neg done]
    exact ⟨le_refl _, by omega⟩

/-- Windows without bytes are given the rate zero, and nothing else changes. -/
theorem foldl_finishWindows (seqLen firstNCapacity current : Nat) (contents : FlowContents D)
    (empty : ∀ window, current ≤ window → window < numWindows →
      (contents.arrays .windowByteCounts).getD window 0 = 0)
    (rates : contents.arrays .windowBitrate = List.replicate poolNumWindows 0) :
    let after := (finishWindows (D := D) windowSizeUs targetWindow numWindows current).2.foldl
      (FlowContents.access seqLen firstNCapacity) contents
    after.arrays .windowByteCounts = contents.arrays .windowByteCounts ∧
      after.arrays .windowBitrate = List.replicate poolNumWindows 0 := by
  induction current using finishWindows.induct (D := D) windowSizeUs targetWindow numWindows
    generalizing contents with
  | case1 current more inductionHypothesis =>
    rw [finishWindows, if_pos more]
    have rated : (contents.access seqLen firstNCapacity
        (.setWindowBitrate current windowSizeUs)).arrays .windowBitrate =
          (contents.arrays .windowBitrate).set current 0 := by
      have none := empty current (le_refl _) more.2
      simp only [FlowContents.access, Function.update_self, none, Nat.zero_mul]
      rw [show u64 0 = 0 from rfl, Nat.zero_div]
      rfl
    have kept : (contents.access seqLen firstNCapacity
        (.setWindowBitrate current windowSizeUs)).arrays .windowByteCounts =
          contents.arrays .windowByteCounts := by
      simp only [FlowContents.access,
        Function.update_of_ne (show ArrayId.windowByteCounts ≠ .windowBitrate by decide)]
    obtain ⟨bytes, zero⟩ := inductionHypothesis (contents.access seqLen firstNCapacity
        (.setWindowBitrate current windowSizeUs))
      (fun window above inside => by
        rw [kept]
        exact empty window (Nat.le_of_succ_le above) inside)
      (by rw [rated, rates, List.set_replicate_self])
    exact ⟨bytes.trans kept, zero⟩
  | case2 current done =>
    rw [finishWindows, if_neg done]
    exact ⟨rfl, rates⟩

end Loop

/-! ### One packet -/

/-- The windows after a list of packets: every packet is counted in its window, the index has
passed the windows of all packets, and every rate is zero. -/
structure WindowsCount (windowSizeMs startUs : Nat) (infos : List PacketInfo) (state : WindowState)
    (contents : FlowContents D) : Prop where
  windowSizeMs_eq : state.windowSizeMs = windowSizeMs
  numWindows_eq : state.numWindows = poolNumWindows
  windowStartUs_eq : state.windowStartUs = startUs
  passed : ∀ info ∈ infos, min (windowOf (windowSizeMs * 1000) startUs info + 1)
    poolNumWindows ≤ state.currentWindow
  length_eq : (contents.arrays .windowByteCounts).length = poolNumWindows
  bytes : ∀ window < poolNumWindows, (contents.arrays .windowByteCounts).getD window 0 =
    u32 (windowBytes (windowSizeMs * 1000) startUs infos window)
  rates_eq : contents.arrays .windowBitrate = List.replicate poolNumWindows 0

section Packet

variable {windowSizeMs startUs : Nat} {infos : List PacketInfo} {state : WindowState}
  {contents : FlowContents D}

/-- A window no packet has reached is empty. -/
theorem WindowsCount.empty (count : WindowsCount windowSizeMs startUs infos state contents)
    {window : Nat} (above : state.currentWindow ≤ window) (inside : window < poolNumWindows) :
    (contents.arrays .windowByteCounts).getD window 0 = 0 := by
  have none : infos.filter (fun info =>
      windowOf (windowSizeMs * 1000) startUs info = window) = [] := by
    refine List.filter_eq_nil_iff.mpr fun info member same => ?_
    have reached := count.passed info member
    rw [decide_eq_true_eq] at same
    omega
  rw [count.bytes window inside, windowBytes, none]
  rfl

/-- Counting a packet adds its bytes to its window. -/
theorem getD_countWindow (seqLen firstNCapacity : Nat) {target : Nat} (pktLen : Nat)
    (inside : target < (contents.arrays .windowByteCounts).length) (window : Nat) :
    ((contents.access seqLen firstNCapacity (.countWindow target pktLen)).arrays
        .windowByteCounts).getD window 0 =
      if target = window then u32 ((contents.arrays .windowByteCounts).getD target 0 + pktLen)
      else (contents.arrays .windowByteCounts).getD window 0 := by
  simp only [FlowContents.access, List.getD_eq_getElem?_getD, List.getElem?_set, if_pos inside]
  split <;> rfl

theorem started_eq {state : WindowState} (begun : state.windowStartUs ≠ 0) (tsUs : Nat) :
    state.started tsUs = state := if_neg begun

theorem WindowState.started_windowSizeMs (state : WindowState) (tsUs : Nat) :
    (state.started tsUs).windowSizeMs = state.windowSizeMs := by
  unfold WindowState.started
  split <;> rfl

/-- A packet counts in the windows, which it starts if they have not started. -/
theorem WindowsCount.step [Double D] {cfg : FeatureConfig} (need : cfg.needWindowUpdate = true)
    (size : windowSizeMs ≠ 0) {info : PacketInfo}
    (count : WindowsCount windowSizeMs startUs infos (state.started info.tsUs) contents)
    (seqLen firstNCapacity : Nat) :
    WindowsCount windowSizeMs startUs (infos ++ [info]) (windowCall (D := D) cfg info state).1
      ((windowCall cfg info state).2.foldl (FlowContents.access seqLen firstNCapacity)
        contents) := by
  have sameSize := state.started_windowSizeMs info.tsUs
  have sized : (state.started info.tsUs).windowSizeMs ≠ 0 := count.windowSizeMs_eq ▸ size
  simp only [windowCall, if_pos need, calcWindowUpdate, ← sameSize, if_neg sized]
  generalize state.started info.tsUs = state at count
  have target_eq : u32 (u64Sub info.tsUs state.windowStartUs / (state.windowSizeMs * 1000)) =
      windowOf (windowSizeMs * 1000) startUs info := by
    rw [count.windowStartUs_eq, count.windowSizeMs_eq]
    rfl
  simp only [target_eq, count.numWindows_eq]
  set target := windowOf (windowSizeMs * 1000) startUs info with target_def
  obtain ⟨forward, reached⟩ := le_finishWindows (D := D) (state.windowSizeMs * 1000) target
    poolNumWindows state.currentWindow
  obtain ⟨kept, zero⟩ := foldl_finishWindows (state.windowSizeMs * 1000) target poolNumWindows
    seqLen firstNCapacity state.currentWindow contents (fun window above inside =>
      count.empty above inside) count.rates_eq
  rw [List.foldl_append]
  set finished := (finishWindows (D := D) (state.windowSizeMs * 1000) target poolNumWindows
    state.currentWindow).2.foldl (FlowContents.access seqLen firstNCapacity) contents
  have length_eq : (finished.arrays .windowByteCounts).length = poolNumWindows := by
    rw [kept, count.length_eq]
  refine ⟨count.windowSizeMs_eq, rfl, count.windowStartUs_eq, ?_, ?_, ?_, ?_⟩
  · intro other member
    rcases List.mem_append.mp member with before | last
    · exact (count.passed other before).trans forward
    · rw [List.mem_singleton.mp last]
      exact reached
  · split
    · exact List.length_set.trans length_eq
    · exact length_eq
  · intro window inside
    rw [windowBytes_concat, ← target_def]
    split
    · rename_i valid
      rw [List.foldl_cons, List.foldl_nil, getD_countWindow _ _ _ (length_eq ▸ valid), kept,
        count.bytes window inside, count.bytes target valid]
      split
      · rename_i here
        rw [here]
        exact Nat.mod_add_mod _ _ _
      · rw [Nat.add_zero]
    · rename_i outside
      have other : target ≠ window := fun same => outside (same ▸ inside)
      rw [List.foldl_nil, if_neg other, Nat.add_zero, kept, count.bytes window inside]
  · split
    · exact zero
    · exact zero

end Packet

/-! ### Flows -/

section Flows

variable [Double D] {cfg : FeatureConfig} {windowSizeMs startUs : Nat} {infos : List PacketInfo}
  {state : WindowState}

omit [Double D] in
theorem WindowsCount.congr {contents other : FlowContents D}
    (count : WindowsCount windowSizeMs startUs infos state contents)
    (same : other.at .window = contents.at .window) :
    WindowsCount windowSizeMs startUs infos state other := by
  simp only [FlowContents.at, Prod.mk.injEq, List.cons.injEq, and_true] at same
  obtain ⟨-, bytes, rates⟩ := same
  exact { count with
    length_eq := bytes ▸ count.length_eq
    bytes := bytes ▸ count.bytes
    rates_eq := rates ▸ count.rates_eq }

/-- All accesses of the window update change the windows. -/
theorem filterMap_windowCall (cfg : FeatureConfig) (platform : Platform D) (info : PacketInfo)
    (fields : Fields D) :
    (callAccesses cfg platform info fields .window).filterMap (Access.at .window) =
      (windowCall cfg info fields.window).2 := by
  refine (List.filterMap_congr fun access member => if_pos ?_).trans List.filterMap_some
  exact targets_window cfg platform info fields _ (List.mem_map_of_mem member)

/-- The windows after a packet are those that the window update makes. -/
theorem processData_windowCall {flow : FlowFeatureState D} (wellFormed : flow.WellFormed cfg)
    (platform : Platform D) (streamType : StreamType) (callback : Allocs × RawPacket) :
    let next := processData cfg platform streamType callback.1 callback.2 flow
    let call := windowCall (D := D) cfg (packetInfo cfg streamType callback.2) flow.fields.window
    next.fields.window = call.1 ∧ ∃ seqLen firstNCapacity, next.store.contents.at .window =
      (call.2.foldl (FlowContents.access seqLen firstNCapacity) flow.store.contents).at
        .window := by
  have windows := wellFormed.processData_at platform streamType callback.1 callback.2
    (show ∀ seq, Target.window ≠ .ring seq from fun _ => Target.noConfusion)
  dsimp only at windows ⊢
  rw [show Target.window.call = .window from rfl, filterMap_windowCall] at windows
  exact ⟨rfl, _, _, windows⟩

section Rule

variable {platform : Platform D} {streamType : StreamType} {first : Allocs × RawPacket}
  {rest : List (Allocs × RawPacket)} {flow : FlowFeatureState D}

/-- What every packet preserves holds of every run. -/
theorem flowRun_history (Holds : List PacketInfo → FlowFeatureState D → Prop)
    (start : ∀ {created}, createFlow cfg first.1 (packetTsUs cfg first.2) = some created →
      Holds [packetInfo cfg streamType first.2]
        (processData cfg platform streamType first.1 first.2 created))
    (step : ∀ {infos state} (callback : Allocs × RawPacket),
      FlowFeatureState.WellFormed cfg state → Holds infos state →
      Holds (infos ++ [packetInfo cfg streamType callback.2])
        (processData cfg platform streamType callback.1 callback.2 state))
    (run : flowRun cfg platform streamType (first :: rest) = some flow) :
    Holds (packetInfos cfg streamType ((first :: rest).map Prod.snd)) flow := by
  rw [flowRun_cons] at run
  obtain ⟨created, created_eq, rfl⟩ := Option.map_eq_some_iff.mp run
  have later : ∀ (callbacks : List (Allocs × RawPacket)) {infos : List PacketInfo}
      {state : FlowFeatureState D}, state.WellFormed cfg → Holds infos state →
      Holds (infos ++ packetInfos cfg streamType (callbacks.map Prod.snd))
        (callbacks.foldl (fun state callback =>
          processData cfg platform streamType callback.1 callback.2 state) state) := by
    intro callbacks
    induction callbacks with
    | nil => exact fun _ holds => (List.append_nil _).symm ▸ holds
    | cons callback others inductionHypothesis =>
      intro infos state wellFormed holds
      have next := inductionHypothesis (processData_wellFormed wellFormed streamType callback.1
        callback.2) (step callback wellFormed holds)
      rwa [List.append_assoc] at next
  exact later rest (processData_wellFormed (createFlow_wellFormed created_eq) streamType first.1
    first.2) (start created_eq)

variable (Holds : List PacketInfo → WindowState → FlowContents D → Prop)
  (congr : ∀ {infos state} {contents other : FlowContents D}, Holds infos state contents →
    other.at .window = contents.at .window → Holds infos state other)

include congr

/-- What the update of the windows brings about holds of the windows after the packet. -/
theorem processData_windows {infos : List PacketInfo} {state : FlowFeatureState D}
    (wellFormed : state.WellFormed cfg) (callback : Allocs × RawPacket)
    (updated : ∀ seqLen firstNCapacity : Nat,
      let call := windowCall (D := D) cfg (packetInfo cfg streamType callback.2)
        state.fields.window
      Holds infos call.1
        (call.2.foldl (FlowContents.access seqLen firstNCapacity) state.store.contents)) :
    let next := processData cfg platform streamType callback.1 callback.2 state
    Holds infos next.fields.window next.store.contents := by
  obtain ⟨window_eq, seqLen, firstNCapacity, same⟩ :=
    processData_windowCall wellFormed platform streamType callback
  dsimp only at window_eq ⊢
  rw [window_eq]
  exact congr (updated seqLen firstNCapacity) same

/-- What a window update preserves holds of the windows of every run. -/
theorem flowRun_windows_history
    (step : ∀ {infos state} {contents : FlowContents D} (info : PacketInfo)
      (seqLen firstNCapacity : Nat), Holds infos state contents →
      Holds (infos ++ [info]) (windowCall (D := D) cfg info state).1
        ((windowCall cfg info state).2.foldl (FlowContents.access seqLen firstNCapacity) contents))
    (begun : ∀ {created : FlowFeatureState D},
      createFlow cfg first.1 (packetTsUs cfg first.2) = some created →
      Holds [] created.fields.window created.store.contents)
    (run : flowRun cfg platform streamType (first :: rest) = some flow) :
    Holds (packetInfos cfg streamType ((first :: rest).map Prod.snd)) flow.fields.window
      flow.store.contents := by
  refine flowRun_history (fun infos state => Holds infos state.fields.window state.store.contents)
    (fun created_eq => ?_) (fun callback wellFormed holds => ?_) run
  · exact processData_windows Holds congr (createFlow_wellFormed created_eq) first
      fun seqLen firstNCapacity => step _ seqLen firstNCapacity (begun created_eq)
  · exact processData_windows Holds congr wellFormed callback
      fun seqLen firstNCapacity => step _ seqLen firstNCapacity holds

/-- What a window update preserves, whether or not it starts the windows, holds of the windows of
every run. -/
theorem flowRun_windows_rule
    (step : ∀ {infos state} {contents : FlowContents D} {info : PacketInfo}
      (seqLen firstNCapacity : Nat), Holds infos (state.started info.tsUs) contents →
      Holds (infos ++ [info]) (windowCall (D := D) cfg info state).1
        ((windowCall cfg info state).2.foldl (FlowContents.access seqLen firstNCapacity) contents))
    (running : ∀ {infos state} {contents : FlowContents D} (tsUs : Nat),
      Holds infos state contents → Holds infos (state.started tsUs) contents)
    (begun : ∀ {created : FlowFeatureState D},
      createFlow cfg first.1 (packetTsUs cfg first.2) = some created →
      Holds [] (created.fields.window.started (packetTsUs cfg first.2)) created.store.contents)
    (run : flowRun cfg platform streamType (first :: rest) = some flow) :
    Holds (packetInfos cfg streamType ((first :: rest).map Prod.snd)) flow.fields.window
      flow.store.contents := by
  refine flowRun_history (fun infos state => Holds infos state.fields.window state.store.contents)
    (fun created_eq => ?_) (fun callback wellFormed holds => ?_) run
  · exact processData_windows Holds congr (createFlow_wellFormed created_eq) first
      fun seqLen firstNCapacity =>
        @step _ _ _ (packetInfo cfg streamType first.2) seqLen firstNCapacity (begun created_eq)
  · exact processData_windows Holds congr wellFormed callback fun seqLen firstNCapacity =>
      step seqLen firstNCapacity (running _ holds)

end Rule

/-- A new flow has counted no packet. -/
theorem createFlow_windowsCount {allocs : Allocs} {tsUs : Nat} {created : FlowFeatureState D}
    (created_eq : createFlow cfg allocs tsUs = some created) :
    WindowsCount cfg.windowSizeMs tsUs [] (created.fields.window.started tsUs)
      created.store.contents := by
  obtain ⟨fields_eq, initial⟩ := createFlow_eq_some created_eq
  rw [fields_eq, initial.contents_eq]
  have zeros : ∀ window, (List.replicate poolNumWindows 0).getD window 0 = 0 := fun window =>
    (List.getD_eq_getElem?_getD ..).trans (List.getElem?_getD_replicate_default_eq _ _ _)
  exact ⟨rfl, rfl, rfl, fun _ member => absurd member List.not_mem_nil, rfl,
    fun window _ => zeros window, rfl⟩

/-- Every run counts its packets in their windows and rates none of the windows. -/
theorem flowRun_windowsCount (need : cfg.needWindowUpdate = true) (size : cfg.windowSizeMs ≠ 0)
    {platform : Platform D} {streamType : StreamType} {first : Allocs × RawPacket}
    {rest : List (Allocs × RawPacket)} (positive : packetTsUs cfg first.2 ≠ 0)
    {flow : FlowFeatureState D}
    (run : flowRun cfg platform streamType (first :: rest) = some flow) :
    WindowsCount cfg.windowSizeMs (packetTsUs cfg first.2)
      (packetInfos cfg streamType ((first :: rest).map Prod.snd)) flow.fields.window
      flow.store.contents := by
  refine flowRun_windows_rule (WindowsCount cfg.windowSizeMs (packetTsUs cfg first.2))
    (fun count same => count.congr same) (fun seqLen firstNCapacity count =>
      count.step need size seqLen firstNCapacity)
    (fun tsUs count => (started_eq (count.windowStartUs_eq ▸ positive) tsUs).symm ▸ count)
    (fun created_eq => createFlow_windowsCount created_eq) run

end Flows

end TiFeatures
