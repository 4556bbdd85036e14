/-
This file counts the packets of the time windows. A packet is counted in the
window its time falls in, measured from the first packet, and whether a flow has
a window with a packet is a question about its packets.
-/

import TiFeatures.WindowRates

namespace TiFeatures

variable {D : Type}

/-! ### The packets of a window -/

/-- The number of packets counted in a window. -/
def windowPackets (windowSizeUs startUs : Nat) (infos : List PacketInfo) (window : Nat) : Nat :=
  (infos.filter fun info => windowOf windowSizeUs startUs info = window).length

theorem windowPackets_concat (windowSizeUs startUs : Nat) (infos : List PacketInfo)
    (info : PacketInfo) (window : Nat) :
    windowPackets windowSizeUs startUs (infos ++ [info]) window =
      windowPackets windowSizeUs startUs infos window +
        if windowOf windowSizeUs startUs info = window then 1 else 0 := by
  by_cases here : windowOf windowSizeUs startUs info = window <;>
    simp [windowPackets, List.filter_append, here]

/-- The windows and the packets in them after a list of packets. -/
structure PacketsCount (windowSizeMs startUs : Nat) (infos : List PacketInfo)
    (state : WindowState) (contents : FlowContents D) : Prop
    extends WindowsCount windowSizeMs startUs infos state contents where
  packets_length : (contents.arrays .windowPktCounts).length = poolNumWindows
  packets : ∀ window < poolNumWindows, (contents.arrays .windowPktCounts).getD window 0 =
    u32 (windowPackets (windowSizeMs * 1000) startUs infos window)

section Packet

variable {windowSizeMs startUs : Nat} {infos : List PacketInfo} {state : WindowState}
  {contents : FlowContents D}

theorem PacketsCount.congr {other : FlowContents D}
    (count : PacketsCount windowSizeMs startUs infos state contents)
    (same : other.at .window = contents.at .window) :
    PacketsCount windowSizeMs startUs infos state other := by
  have windows := count.toWindowsCount.congr same
  simp only [FlowContents.at, Prod.mk.injEq, List.cons.injEq, and_true] at same
  obtain ⟨packets, -, -⟩ := same
  exact { windows with
    packets_length := packets ▸ count.packets_length
    packets := packets ▸ count.packets }

/-- Rating windows leaves the other arrays alone. -/
theorem foldl_finishWindows_kept
    (windowSizeUs target numWindows seqLen firstNCapacity current : Nat)
    (contents : FlowContents D) :
    let after := (finishWindows (D := D) windowSizeUs target numWindows current).2.foldl
      (FlowContents.access seqLen firstNCapacity) contents
    ∀ array, array ≠ .windowBitrate → after.arrays array = contents.arrays array := by
  induction current using finishWindows.induct (D := D) windowSizeUs target numWindows
    generalizing contents with
  | case1 current more inductionHypothesis =>
    rw [finishWindows, if_pos more]
    refine fun array other => (inductionHypothesis (contents.access seqLen firstNCapacity
      (.setWindowBitrate current windowSizeUs)) array other).trans ?_
    simp only [FlowContents.access, Function.update_of_ne other]
  | case2 current done =>
    rw [finishWindows, if_neg done]
    exact fun array other => rfl

/-- The window update passes the window of the packet and counts the packet in it. -/
theorem windowCall_eq [Double D] {cfg : FeatureConfig} (need : cfg.needWindowUpdate = true)
    {info : PacketInfo} (sized : (state.started info.tsUs).windowSizeMs ≠ 0) :
    let started := state.started info.tsUs
    let target := windowOf (started.windowSizeMs * 1000) started.windowStartUs info
    let finished := finishWindows (D := D) (started.windowSizeMs * 1000) target
      started.numWindows started.currentWindow
    windowCall cfg info state = ({ started with currentWindow := finished.1 },
      finished.2 ++ if target < started.numWindows then [.countWindow target info.pktLen]
        else []) := by
  have sameSize := state.started_windowSizeMs info.tsUs
  simp only [windowCall, if_pos need, calcWindowUpdate, ← sameSize, if_neg sized]
  rfl

/-- A packet is counted in its window. -/
theorem PacketsCount.step [Double D] {cfg : FeatureConfig} (need : cfg.needWindowUpdate = true)
    (size : windowSizeMs ≠ 0) {info : PacketInfo}
    (count : PacketsCount windowSizeMs startUs infos (state.started info.tsUs) contents)
    (seqLen firstNCapacity : Nat) :
    PacketsCount windowSizeMs startUs (infos ++ [info]) (windowCall (D := D) cfg info state).1
      ((windowCall cfg info state).2.foldl (FlowContents.access seqLen firstNCapacity)
        contents) := by
  have windows := count.toWindowsCount.step need size seqLen firstNCapacity
  have sized : (state.started info.tsUs).windowSizeMs ≠ 0 := count.windowSizeMs_eq ▸ size
  rw [windowCall_eq need sized] at windows ⊢
  dsimp only at windows ⊢
  rw [count.windowSizeMs_eq, count.windowStartUs_eq, count.numWindows_eq] at windows ⊢
  set target := windowOf (windowSizeMs * 1000) startUs info with target_def
  have kept := foldl_finishWindows_kept (windowSizeMs * 1000) target poolNumWindows
    seqLen firstNCapacity (state.started info.tsUs).currentWindow contents .windowPktCounts
    (by decide)
  rw [List.foldl_append] at windows ⊢
  set finished := (finishWindows (D := D) (windowSizeMs * 1000) target poolNumWindows
    (state.started info.tsUs).currentWindow).2.foldl (FlowContents.access seqLen firstNCapacity)
    contents
  have length_eq : (finished.arrays .windowPktCounts).length = poolNumWindows := by
    rw [kept, count.packets_length]
  refine ⟨windows, ?_, ?_⟩
  · split
    · exact List.length_set.trans length_eq
    · exact length_eq
  · intro window inside
    rw [windowPackets_concat, ← target_def]
    split
    · rename_i valid
      have written : ((finished.access seqLen firstNCapacity
          (.countWindow target info.pktLen)).arrays .windowPktCounts).getD window 0 =
          if target = window then u32 ((finished.arrays .windowPktCounts).getD target 0 + 1)
          else (finished.arrays .windowPktCounts).getD window 0 := by
        simp only [FlowContents.access, List.getD_eq_getElem?_getD, List.getElem?_set,
          if_pos (length_eq.symm ▸ valid)]
        split <;> rfl
      rw [List.foldl_cons, List.foldl_nil, written, kept, count.packets window inside,
        count.packets target valid]
      split
      · rename_i here
        rw [here]
        exact Nat.mod_add_mod _ _ _
      · rw [Nat.add_zero]
    · rename_i outside
      have other : target ≠ window := fun same => outside (same ▸ inside)
      rw [List.foldl_nil, if_neg other, Nat.add_zero, kept, count.packets window inside]

end Packet

/-! ### Flows -/

section Flows

variable [Double D] {cfg : FeatureConfig} {platform : Platform D} {streamType : StreamType}
  {first : Allocs × RawPacket} {rest : List (Allocs × RawPacket)} {flow : FlowFeatureState D}

/-- Every run counts its packets in their windows. -/
theorem flowRun_packetsCount (need : cfg.needWindowUpdate = true) (size : cfg.windowSizeMs ≠ 0)
    (positive : packetTsUs cfg first.2 ≠ 0)
    (run : flowRun cfg platform streamType (first :: rest) = some flow) :
    PacketsCount cfg.windowSizeMs (packetTsUs cfg first.2)
      (packetInfos cfg streamType ((first :: rest).map Prod.snd)) flow.fields.window
      flow.store.contents := by
  refine flowRun_windows_rule (PacketsCount cfg.windowSizeMs (packetTsUs cfg first.2))
    (fun count same => count.congr same) (fun seqLen firstNCapacity count =>
      count.step need size seqLen firstNCapacity)
    (fun tsUs count => (started_eq (count.windowStartUs_eq ▸ positive) tsUs).symm ▸ count) ?_ run
  intro created created_eq
  have windows := createFlow_windowsCount created_eq
  obtain ⟨fields_eq, initial⟩ := createFlow_eq_some created_eq
  rw [initial.contents_eq] at windows ⊢
  refine ⟨windows, rfl, fun window _ => ?_⟩
  exact (List.getD_eq_getElem?_getD ..).trans (List.getElem?_getD_replicate_default_eq _ _ _)

/-- The windows are not touched if they have no size. -/
theorem flowRun_noWindows (size : cfg.windowSizeMs = 0)
    (run : flowRun cfg platform streamType (first :: rest) = some flow) :
    flow.store.contents.arrays .windowPktCounts = List.replicate poolNumWindows 0 := by
  have unsized := flowRun_windows_rule (fun _ state contents =>
      state.windowSizeMs = 0 ∧
        contents.arrays .windowPktCounts = List.replicate poolNumWindows 0) ?_ ?_ ?_ ?_ run
  · exact unsized.2
  · intro infos state contents other kept same
    simp only [FlowContents.at, Prod.mk.injEq, List.cons.injEq, and_true] at same
    exact ⟨kept.1, same.1.trans kept.2⟩
  · intro infos state contents info seqLen firstNCapacity kept
    rw [state.started_windowSizeMs] at kept
    rw [windowCall_zero cfg info kept.1]
    exact kept
  · intro infos state contents tsUs kept
    rwa [state.started_windowSizeMs]
  · intro created created_eq
    obtain ⟨fields_eq, initial⟩ := createFlow_eq_some created_eq
    rw [fields_eq, initial.contents_eq, WindowState.started_windowSizeMs]
    exact ⟨size, rfl⟩

/-! ### Windows with a packet -/

/-- Some window holds a packet when the flow closes. The counts are 32 bits wide. -/
def WindowShown (cfg : FeatureConfig) (infos : List PacketInfo) : Prop :=
  cfg.windowSizeMs ≠ 0 ∧ ∃ first ∈ infos.head?, ∃ window < poolNumWindows,
    0 < u32 (windowPackets (cfg.windowSizeMs * 1000) first.tsUs infos window)

omit [Double D] in
theorem countValidWindows_pos_iff (counts : List Nat) :
    countValidWindows counts > 0 ↔ ∃ window < counts.length, 0 < counts.getD window 0 := by
  simp only [countValidWindows, gt_iff_lt, List.length_filter_pos_iff, decide_eq_true_eq]
  constructor
  · rintro ⟨count, member, positive⟩
    obtain ⟨window, inside, rfl⟩ := List.getElem_of_mem member
    exact ⟨window, inside, by rwa [List.getD_eq_getElem _ _ inside]⟩
  · rintro ⟨window, inside, positive⟩
    rw [List.getD_eq_getElem _ _ inside] at positive
    exact ⟨_, List.getElem_mem inside, positive⟩

omit [Double D] in
theorem length_validWindows {counts values : List Nat} (same : counts.length ≤ values.length) :
    (validWindows counts values).length = countValidWindows counts := by
  rw [validWindows, List.length_map, countValidWindows]
  conv_rhs => rw [← List.map_fst_zip same, List.filter_map, List.length_map]
  rfl

omit [Double D] in
theorem validWindows_replicate_zero (size : Nat) (values : List Nat) :
    validWindows (List.replicate size 0) values = [] := by
  rw [validWindows, List.map_eq_nil_iff, List.filter_eq_nil_iff]
  intro window member
  have counted := (List.of_mem_zip member).1
  simp only [List.eq_of_mem_replicate counted, gt_iff_lt, lt_irrefl, decide_false,
    Bool.false_eq_true, not_false_eq_true]

/-- Whether a flow has a window with a packet. -/
theorem flowRun_windowShown_iff (need : cfg.needWindowUpdate = true)
    (positive : packetTsUs cfg first.2 ≠ 0)
    (run : flowRun cfg platform streamType (first :: rest) = some flow) :
    let shown := WindowShown cfg (packetInfos cfg streamType ((first :: rest).map Prod.snd))
    (countValidWindows flow.view.windowPktCounts > 0 ↔ shown) ∧
      ((validWindows flow.view.windowPktCounts flow.view.windowBitrate).length > 0 ↔ shown) := by
  have view_eq := (flowRun_reachable run).wellFormed.view_eq
  have counts_eq : flow.view.windowPktCounts = flow.store.contents.arrays .windowPktCounts :=
    congrArg View.windowPktCounts view_eq
  have rates_eq : flow.view.windowBitrate = flow.store.contents.arrays .windowBitrate :=
    congrArg View.windowBitrate view_eq
  intro shown
  rw [counts_eq, rates_eq]
  by_cases size : cfg.windowSizeMs = 0
  · have hidden : ¬ shown := fun holds => holds.1 size
    have empty : countValidWindows (List.replicate poolNumWindows 0) = 0 := by decide
    rw [flowRun_noWindows size run]
    constructor
    · simp only [empty, gt_iff_lt, lt_irrefl, hidden]
    · simp only [validWindows_replicate_zero, List.length_nil, gt_iff_lt, lt_irrefl, hidden]
  · have count := flowRun_packetsCount need size positive run
    have shown_iff : countValidWindows (flow.store.contents.arrays .windowPktCounts) > 0 ↔
        shown := by
      rw [countValidWindows_pos_iff, count.packets_length]
      constructor
      · rintro ⟨window, inside, counted⟩
        rw [count.packets window inside] at counted
        exact ⟨size, _, rfl, window, inside, counted⟩
      · rintro ⟨-, head, head_eq, window, inside, counted⟩
        obtain rfl := Option.some.inj head_eq
        refine ⟨window, inside, ?_⟩
        rw [count.packets window inside]
        exact counted
    have rates_length : (flow.store.contents.arrays .windowBitrate).length = poolNumWindows := by
      rw [count.rates_eq, List.length_replicate]
    rw [length_validWindows (count.packets_length.trans rates_length.symm).le]
    exact ⟨shown_iff, shown_iff⟩

end Flows

end TiFeatures
