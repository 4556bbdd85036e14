/-
This file compares the number of windows that the byte statistics copy with the
number they allocate room for. The room is that of the windows with a packet, and
the windows with a byte are copied. Both are counted over the packets, whatever
the times of these are.
-/

import TiFeatures.Histogram
import Mathlib.Algebra.BigOperators.Group.List.Basic

namespace TiFeatures

variable {D : Type}

/-! ### The window of every packet -/

/-- The time at which the windows start after another packet. Zero stands for a start to come. -/
def nextStart (startUs : Nat) (info : PacketInfo) : Nat :=
  if startUs = 0 then info.tsUs else startUs

/-- The packets with the windows `calc_window_update` finds for them. -/
def placed (windowSizeUs : Nat) : Nat → List PacketInfo → List (Nat × PacketInfo)
  | _, [] => []
  | startUs, info :: rest =>
    (windowOf windowSizeUs (nextStart startUs info) info, info) ::
      placed windowSizeUs (nextStart startUs info) rest

theorem placed_concat (windowSizeUs startUs : Nat) (infos : List PacketInfo) (info : PacketInfo) :
    placed windowSizeUs startUs (infos ++ [info]) = placed windowSizeUs startUs infos ++
      [(windowOf windowSizeUs (nextStart (infos.foldl nextStart startUs) info) info, info)] := by
  induction infos generalizing startUs with
  | nil => rfl
  | cons first infos inductionHypothesis =>
    rw [List.cons_append, placed, placed, inductionHypothesis]
    rfl

theorem map_snd_placed (windowSizeUs startUs : Nat) (infos : List PacketInfo) :
    (placed windowSizeUs startUs infos).map Prod.snd = infos := by
  induction infos generalizing startUs with
  | nil => rfl
  | cons info rest inductionHypothesis =>
    exact congrArg (List.cons info) (inductionHypothesis (nextStart startUs info))

/-- The windows are updated. -/
def Windowed (cfg : FeatureConfig) : Prop := cfg.needWindowUpdate = true ∧ cfg.windowSizeMs ≠ 0

instance : DecidablePred Windowed := fun cfg =>
  inferInstanceAs (Decidable (cfg.needWindowUpdate = true ∧ cfg.windowSizeMs ≠ 0))

/-- The packets of a flow with their windows, if the windows are updated. -/
def windowPlaces (cfg : FeatureConfig) (infos : List PacketInfo) : List (Nat × PacketInfo) :=
  if Windowed cfg then placed (cfg.windowSizeMs * 1000) 0 infos else []

theorem mem_of_mem_windowPlaces {cfg : FeatureConfig} {infos : List PacketInfo}
    {place : Nat × PacketInfo} (member : place ∈ windowPlaces cfg infos) : place.2 ∈ infos := by
  rw [windowPlaces] at member
  split at member
  · rw [← map_snd_placed (cfg.windowSizeMs * 1000) 0 infos]
    exact List.mem_map_of_mem member
  · exact absurd member List.not_mem_nil

/-- The number of packets placed in a window. -/
def placedPackets (places : List (Nat × PacketInfo)) (window : Nat) : Nat :=
  places.countP fun place => place.1 = window

/-- The bytes of the packets placed in a window. -/
def placedBytes (places : List (Nat × PacketInfo)) (window : Nat) : Nat :=
  ((places.filter fun place => place.1 = window).map fun place => place.2.pktLen).sum

theorem placedPackets_concat (places : List (Nat × PacketInfo)) (place : Nat × PacketInfo)
    (window : Nat) : placedPackets (places ++ [place]) window =
      placedPackets places window + if place.1 = window then 1 else 0 := by
  rw [placedPackets, List.countP_append, List.countP_singleton]
  simp only [decide_eq_true_eq]
  rfl

theorem placedBytes_concat (places : List (Nat × PacketInfo)) (place : Nat × PacketInfo)
    (window : Nat) : placedBytes (places ++ [place]) window =
      placedBytes places window + if place.1 = window then place.2.pktLen else 0 := by
  by_cases here : place.1 = window <;>
    simp [placedBytes, List.filter_append, here]

/-- Packets of one byte or more count no more than their bytes. -/
theorem placedPackets_le_placedBytes {places : List (Nat × PacketInfo)}
    (long : ∀ place ∈ places, 1 ≤ place.2.pktLen) (window : Nat) :
    placedPackets places window ≤ placedBytes places window := by
  have counted := List.length_le_sum_of_one_le
    ((places.filter fun place => place.1 = window).map fun place => place.2.pktLen)
    (List.forall_mem_map.mpr fun place member => long place (List.mem_of_mem_filter member))
  rw [List.length_map, ← List.countP_eq_length_filter] at counted
  exact counted

/-! ### The counters -/

/-- A counter for every window, in 32 bits. -/
def windowTable (count : Nat → Nat) : List Nat :=
  (List.range poolNumWindows).map fun window => u32 (count window)

theorem windowTable_congr {count other : Nat → Nat}
    (same : ∀ window < poolNumWindows, count window = other window) :
    windowTable count = windowTable other :=
  List.map_congr_left fun window member => congrArg u32 (same window (List.mem_range.mp member))

/-- Adding to the counter of one window. -/
theorem windowTable_set {count : Nat → Nat} {target : Nat} (inside : target < poolNumWindows)
    (amount : Nat) :
    (windowTable count).set target (u32 ((windowTable count).getD target 0 + amount)) =
      windowTable fun window => count window + if target = window then amount else 0 := by
  have old : (windowTable count).getD target 0 = u32 (count target) := by
    rw [windowTable, List.getD_eq_getElem?_getD, List.getElem?_map, List.getElem?_range inside]
    rfl
  rw [old]
  refine List.ext_getElem ?_ fun window left _ => ?_
  · simp only [windowTable, List.length_set, List.length_map]
  · simp only [windowTable, List.getElem_set, List.getElem_map, List.getElem_range]
    split
    · rename_i same
      rw [same]
      exact Nat.mod_add_mod _ _ _
    · rfl

/-- The windows of a flow hold the packets placed in them. -/
structure Placements (cfg : FeatureConfig) (infos : List PacketInfo) (state : WindowState)
    (contents : FlowContents D) : Prop where
  windowSizeMs_eq : state.windowSizeMs = cfg.windowSizeMs
  numWindows_eq : state.numWindows = poolNumWindows
  windowStartUs_eq : Windowed cfg → state.windowStartUs = infos.foldl nextStart 0
  packets_eq : contents.arrays .windowPktCounts =
    windowTable (placedPackets (windowPlaces cfg infos))
  bytes_eq : contents.arrays .windowByteCounts =
    windowTable (placedBytes (windowPlaces cfg infos))

section Packet

variable {cfg : FeatureConfig} {infos : List PacketInfo} {state : WindowState}
  {contents : FlowContents D}

theorem Placements.congr {other : FlowContents D} (places : Placements cfg infos state contents)
    (same : other.at .window = contents.at .window) : Placements cfg infos state other := by
  simp only [FlowContents.at, Prod.mk.injEq, List.cons.injEq, and_true] at same
  exact { places with
    packets_eq := same.1.trans places.packets_eq
    bytes_eq := same.2.1.trans places.bytes_eq }

theorem WindowState.started_windowStartUs (state : WindowState) (info : PacketInfo) :
    (state.started info.tsUs).windowStartUs = nextStart state.windowStartUs info := by
  unfold WindowState.started nextStart
  split
  · rfl
  · rfl

theorem WindowState.started_numWindows (state : WindowState) (tsUs : Nat) :
    (state.started tsUs).numWindows = state.numWindows := by
  unfold WindowState.started
  split
  · rfl
  · rfl

/-- A packet is placed in its window. -/
theorem Placements.step [Double D] (places : Placements cfg infos state contents)
    (info : PacketInfo) (seqLen firstNCapacity : Nat) :
    Placements cfg (infos ++ [info]) (windowCall (D := D) cfg info state).1
      ((windowCall cfg info state).2.foldl (FlowContents.access seqLen firstNCapacity)
        contents) := by
  by_cases windowed : Windowed cfg
  · have size_eq := (state.started_windowSizeMs info.tsUs).trans places.windowSizeMs_eq
    have number_eq := (state.started_numWindows info.tsUs).trans places.numWindows_eq
    have start_eq : (state.started info.tsUs).windowStartUs =
        nextStart (infos.foldl nextStart 0) info := by
      rw [state.started_windowStartUs, places.windowStartUs_eq windowed]
    set target := windowOf (cfg.windowSizeMs * 1000) (nextStart (infos.foldl nextStart 0) info)
      info with target_def
    have places_eq : windowPlaces cfg (infos ++ [info]) =
        windowPlaces cfg infos ++ [(target, info)] := by
      rw [windowPlaces, if_pos windowed, placed_concat, windowPlaces, if_pos windowed]
    rw [windowCall_eq windowed.1 (size_eq ▸ windowed.2)]
    dsimp only
    rw [size_eq, number_eq, start_eq, ← target_def, List.foldl_append]
    have others := foldl_finishWindows_kept (cfg.windowSizeMs * 1000) target
      poolNumWindows seqLen firstNCapacity (state.started info.tsUs).currentWindow contents
    have packets := (others .windowPktCounts (by decide)).trans places.packets_eq
    have bytes := (others .windowByteCounts (by decide)).trans places.bytes_eq
    refine ⟨rfl, rfl, fun _ => ?_, ?_, ?_⟩
    · rw [List.foldl_concat]
    · rw [places_eq, funext (placedPackets_concat _ _)]
      split
      · rename_i inside
        rw [← windowTable_set inside, ← packets]
        rfl
      · rename_i outside
        rw [List.foldl_nil, packets]
        refine windowTable_congr fun window within => ?_
        have other : target ≠ window := fun same => outside (same ▸ within)
        rw [if_neg other, Nat.add_zero]
    · rw [places_eq, funext (placedBytes_concat _ _)]
      split
      · rename_i inside
        rw [← windowTable_set inside, ← bytes]
        rfl
      · rename_i outside
        rw [List.foldl_nil, bytes]
        refine windowTable_congr fun window within => ?_
        have other : target ≠ window := fun same => outside (same ▸ within)
        rw [if_neg other, Nat.add_zero]
  · have idle : windowCall (D := D) cfg info state = (state, []) := by
      by_cases need : cfg.needWindowUpdate = true
      · exact windowCall_zero cfg info
          (places.windowSizeMs_eq.trans (not_not.mp fun size => windowed ⟨need, size⟩))
      · rw [windowCall, if_neg need]
    have none : ∀ infos, windowPlaces cfg infos = [] := fun infos => if_neg windowed
    rw [idle]
    exact ⟨places.windowSizeMs_eq, places.numWindows_eq, fun holds => absurd holds windowed,
      places.packets_eq.trans (by rw [none, none]), places.bytes_eq.trans (by rw [none, none])⟩

end Packet

/-! ### Flows -/

section Flows

variable [Double D] {cfg : FeatureConfig} {platform : Platform D} {streamType : StreamType}
  {first : Allocs × RawPacket} {rest : List (Allocs × RawPacket)} {flow : FlowFeatureState D}

/-- Every run places its packets in their windows. -/
theorem flowRun_placements (run : flowRun cfg platform streamType (first :: rest) = some flow) :
    Placements cfg (packetInfos cfg streamType ((first :: rest).map Prod.snd)) flow.fields.window
      flow.store.contents := by
  refine flowRun_windows_history (Placements cfg) (fun places same => places.congr same)
    (fun info seqLen firstNCapacity places => places.step info seqLen firstNCapacity) ?_ run
  intro created created_eq
  obtain ⟨fields_eq, initial⟩ := createFlow_eq_some created_eq
  have none : windowPlaces cfg [] = [] := ite_self _
  rw [fields_eq, initial.contents_eq]
  refine ⟨rfl, rfl, fun _ => rfl, ?_, ?_⟩
  · rw [none]
    rfl
  · rw [none]
    rfl

/-! ### The copy loop -/

/-- What the copy loop for the byte windows writes. -/
def copiedBytes (view : View D) : List Nat := view.windowByteCounts.filter fun count => count > 0

/-- The array that is sorted and converted: a place the loop does not write keeps what `malloc`
put there. -/
def copyTarget (platform : Platform D) (view : View D) : List Nat :=
  (List.range (countValidWindows view.windowPktCounts)).map fun index =>
    (copiedBytes view).getD index (platform.malloced index)

/-- The byte statistics sort that array. -/
theorem mem_windowByte (platform : Platform D) (view : View D) :
    addNumber "window_byte_count_median"
        (calcMedianUint (sortUint (copyTarget platform view)) : D) ∈
      windowByte platform view.windowPktCounts view.windowByteCounts :=
  List.mem_of_getElem? (i := 4) rfl

/-- The copy loop writes every place there is, and no other, so what is read is what it wrote. -/
structure CopyExact (view : View D) : Prop where
  length_eq : (copiedBytes view).length = countValidWindows view.windowPktCounts
  target_eq : ∀ platform : Platform D, copyTarget platform view = copiedBytes view

omit [Double D] in
theorem copyExact_iff (view : View D) : CopyExact view ↔
    (copiedBytes view).length = countValidWindows view.windowPktCounts := by
  refine ⟨CopyExact.length_eq, fun length_eq => ⟨length_eq, fun platform => ?_⟩⟩
  refine List.ext_getElem ?_ fun index left right => ?_
  · rw [copyTarget, List.length_map, List.length_range, length_eq]
  · simp only [copyTarget, List.getElem_map, List.getElem_range]
    rw [List.getD_eq_getElem _ _ right]

/-- The number of windows whose counter is not zero. -/
def countedWindows (count : Nat → Nat) : Nat :=
  ((List.range poolNumWindows).filter fun window => u32 (count window) > 0).length

omit [Double D] in
theorem length_filter_windowTable (count : Nat → Nat) :
    ((windowTable count).filter fun entry => entry > 0).length = countedWindows count := by
  rw [windowTable, List.filter_map, List.length_map]
  rfl

omit [Double D] in
/-- As many windows hold a byte as hold a packet if every packet has one and no counter wraps. -/
theorem countedWindows_placed {places : List (Nat × PacketInfo)}
    (long : ∀ place ∈ places, 1 ≤ place.2.pktLen)
    (fits : ∀ window < poolNumWindows, placedBytes places window < 2 ^ 32) :
    countedWindows (placedBytes places) = countedWindows (placedPackets places) := by
  refine congrArg List.length (List.filter_congr fun window member => ?_)
  have bytes := fits window (List.mem_range.mp member)
  have fewer := placedPackets_le_placedBytes long window
  rw [u32_of_lt bytes, u32_of_lt (fewer.trans_lt bytes), decide_eq_decide]
  refine ⟨fun some => Nat.pos_of_ne_zero fun none => ?_, fun some => some.trans_le fewer⟩
  have empty : places.filter (fun place => place.1 = window) = [] := by
    rw [placedPackets, List.countP_eq_length_filter] at none
    exact List.length_eq_zero_iff.mp none
  rw [placedBytes, empty] at some
  exact absurd some (Nat.lt_irrefl 0)

/-- The windows that are copied are those that hold a byte, and those there is room for are those
that hold a packet. -/
theorem flowRun_copiedBytes (run : flowRun cfg platform streamType (first :: rest) = some flow) :
    let places := windowPlaces cfg (packetInfos cfg streamType ((first :: rest).map Prod.snd))
    (copiedBytes flow.view).length = countedWindows (placedBytes places) ∧
      countValidWindows flow.view.windowPktCounts = countedWindows (placedPackets places) := by
  intro places
  have placements := flowRun_placements run
  obtain ⟨packets, bytes⟩ := flowRun_view_windows run
  rw [copiedBytes, countValidWindows, packets, bytes, placements.packets_eq, placements.bytes_eq]
  exact ⟨length_filter_windowTable _, length_filter_windowTable _⟩

/-- The copy loop is exact after a run exactly if as many windows hold a byte as hold a packet,
both counted in 32 bits. -/
theorem flowRun_copyExact_iff
    (run : flowRun cfg platform streamType (first :: rest) = some flow) :
    let places := windowPlaces cfg (packetInfos cfg streamType ((first :: rest).map Prod.snd))
    CopyExact flow.view ↔
      countedWindows (placedBytes places) = countedWindows (placedPackets places) := by
  intro places
  obtain ⟨copied, valid⟩ := flowRun_copiedBytes run
  rw [copyExact_iff, copied, valid]

/-- The copy loop is exact after packets that all have a length, if no counter wraps. -/
theorem flowRun_copyExact_of_lengths
    (run : flowRun cfg platform streamType (first :: rest) = some flow)
    (long : ∀ info ∈ packetInfos cfg streamType ((first :: rest).map Prod.snd), 1 ≤ info.pktLen)
    (fits : ∀ window < poolNumWindows, placedBytes (windowPlaces cfg
      (packetInfos cfg streamType ((first :: rest).map Prod.snd))) window < 2 ^ 32) :
    CopyExact flow.view := by
  obtain ⟨copied, valid⟩ := flowRun_copiedBytes run
  rw [copyExact_iff, copied, valid]
  exact countedWindows_placed (fun place member => long place.2 (mem_of_mem_windowPlaces member))
    fits

end Flows

/-- Packets with bytes in three windows, of which the second and the third are not adjacent. -/
def spreadPackets : List RawPacket :=
  [barePacket 1 1 100, { barePacket 5 2 200 with tvSec := 1 },
    { barePacket 7 1 300 with tvSec := 4 }, { barePacket 9 2 400 with tvSec := 4 }]

/-- Windows whose packets have bytes are copied. -/
theorem flowRun_copyExact_spread : ∃ flow : FlowFeatureState Float,
    flowRun defaultConfig (barePlatform Float) .tcp (allocated spreadPackets) = some flow ∧
      CopyExact flow.view ∧ countValidWindows flow.view.windowPktCounts = 3 ∧
      copiedBytes flow.view = [100, 200, 700] := by
  obtain ⟨flow, run, -⟩ := flowRun_allocated (D := Float) defaultConfig (barePlatform Float) .tcp
    (barePacket 1 1 100) spreadPackets.tail
  have placements := flowRun_placements run
  obtain ⟨packets, bytes⟩ := flowRun_view_windows run
  refine ⟨flow, run, (flowRun_copyExact_iff run).mpr (by decide), ?_, ?_⟩
  · rw [packets, placements.packets_eq]
    decide
  · rw [copiedBytes, bytes, placements.bytes_eq]
    decide

/-- A packet without bytes leaves the only place of the array as `malloc` left it. -/
theorem flowRun_copies_nothing : ∃ flow : FlowFeatureState Float,
    flowRun defaultConfig (barePlatform Float) .tcp (allocated [barePacket 1 1 0]) =
        some flow ∧
      countValidWindows flow.view.windowPktCounts = 1 ∧ copiedBytes flow.view = [] := by
  obtain ⟨flow, run, -⟩ := flowRun_allocated (D := Float) defaultConfig (barePlatform Float) .tcp
    (barePacket 1 1 0) []
  have placements := flowRun_placements run
  obtain ⟨packets, bytes⟩ := flowRun_view_windows run
  refine ⟨flow, run, ?_, ?_⟩
  · rw [packets, placements.packets_eq]
    decide
  · rw [copiedBytes, bytes, placements.bytes_eq]
    decide

end TiFeatures
