/-
This file settles which bitrates the windows of a flow are given and which peak and
statistics of them are written. Every rate is zero, so what is written is right if
and only if the rate of the bytes of every window is rounded down to zero as well.
-/

import TiFeatures.Arithmetic
import TiFeatures.Keys
import TiFeatures.Windows

namespace TiFeatures

variable {D : Type} [Double D]

/-! ### The rate of a window -/

/-- The bits a second of a window with a number of bytes, rounded down. -/
def windowRate (windowSizeUs bytes : Nat) : Nat := bytes * 8 * 1000000 / windowSizeUs

/-- A window holds a packet: `calc_window_update` counts one in it. -/
def WindowHolds (windowSizeUs : Nat) (infos : List PacketInfo) (window : Nat) : Prop :=
  ∃ first ∈ infos.head?, window < poolNumWindows ∧
    ∃ info ∈ infos, windowOf windowSizeUs first.tsUs info = window

/-- A window holds a packet and has ended when the last packet arrives. -/
def WindowEnded (windowSizeUs : Nat) (infos : List PacketInfo) (window : Nat) : Prop :=
  WindowHolds windowSizeUs infos window ∧ ∃ first ∈ infos.head?, ∃ last ∈ infos.getLast?,
    first.tsUs + (window + 1) * windowSizeUs ≤ last.tsUs

/-- The rates of the bytes in the windows that hold a packet. -/
def View.trueRates {D : Type} (view : View D) (windowSizeUs : Nat) : List Nat :=
  validWindows view.windowPktCounts (view.windowByteCounts.map (windowRate windowSizeUs))

/-- The keys of the statistics of the rates. -/
def instantBitrateKeys : List String :=
  suffixed "instant_bitrate" ["_mean", "_std", "_min", "_max", "_median", "_q1", "_q3", "_skew",
    "_kurt"] ++ suffixed "bitrate_percentile" ["_25", "_50", "_75", "_90"]

/-- The rate of every window that holds a packet is that of its bytes, whether the window has
ended or not, and the peak and the statistics written are those of these rates. -/
structure RatesReflectBytes (cfg : FeatureConfig) (infos : List PacketInfo) (view : View D)
    (output : Output D) : Prop where
  rate : ∀ window, WindowHolds (cfg.windowSizeMs * 1000) infos window →
    view.windowBitrate.getD window 0 =
      windowRate (cfg.windowSizeMs * 1000) (view.windowByteCounts.getD window 0)
  peak : ∀ value, addNumber "peak_bitrate" value ∈ output ↔
    Group.behaviorPattern.on cfg.toSwitches = true ∧
      0 < (view.trueRates (cfg.windowSizeMs * 1000)).length ∧
      value = scanMax 0 (prepareDoubleBuffer D (view.trueRates (cfg.windowSizeMs * 1000)))
  instant : ∀ key ∈ instantBitrateKeys, ∀ value, (key, value) ∈ output ↔
    Group.behaviorBitrate.on cfg.toSwitches = true ∧ (key, value) ∈
      instantBitrate (prepareDoubleBuffer D (view.trueRates (cfg.windowSizeMs * 1000)))

/-- The peak is written if a window holds a packet. -/
theorem mem_behaviorPattern_peak {state : CounterState} {tcpPackets : Nat}
    {iatStats : RunningStats D} {windowPktCounts windowBitrate : List Nat} {value : D} :
    addNumber "peak_bitrate" value ∈
        behaviorPattern state tcpPackets iatStats windowPktCounts windowBitrate ↔
      0 < (validWindows windowPktCounts windowBitrate).length ∧
        value = scanMax 0 (prepareDoubleBuffer D (validWindows windowPktCounts windowBitrate)) := by
  simp [behaviorPattern, addNumber, addString]

/-- The statistics of the rates come before the entropies. -/
theorem mem_behaviorBitrate_instant {windowPktCounts windowByteCounts windowBitrate : List Nat}
    {key : String} (own : key ∈ instantBitrateKeys) {value : Json D} :
    (key, value) ∈ behaviorBitrate windowPktCounts windowByteCounts windowBitrate ↔
      (key, value) ∈
        instantBitrate (prepareDoubleBuffer D (validWindows windowPktCounts windowBitrate)) := by
  have keys_eq : Output.keys (trafficEntropy (D := D) windowByteCounts) =
      ["traffic_entropy_ts_mean", "traffic_entropy_ts_peak"] := by
    unfold trafficEntropy
    dsimp only
    split <;> rfl
  have others : ∀ name ∈ instantBitrateKeys,
      name ∉ ["traffic_entropy_ts_mean", "traffic_entropy_ts_peak"] := by decide
  refine List.mem_append.trans (or_iff_left fun member => others key own ?_)
  exact keys_eq ▸ List.mem_map_of_mem (f := Prod.fst) member

/-! ### Flows -/

section Flows

variable {cfg : FeatureConfig} {platform : Platform D} {streamType : StreamType}
  {first : Allocs × RawPacket} {rest : List (Allocs × RawPacket)} {flow : FlowFeatureState D}

/-- What the closing code sees of the windows of a run. -/
theorem flowRun_windows (need : cfg.needWindowUpdate = true) (size : cfg.windowSizeMs ≠ 0)
    (positive : packetTsUs cfg first.2 ≠ 0)
    (run : flowRun cfg platform streamType (first :: rest) = some flow) :
    flow.view.windowBitrate = List.replicate poolNumWindows 0 ∧
      flow.view.windowByteCounts.length = poolNumWindows ∧
      ∀ window < poolNumWindows, flow.view.windowByteCounts.getD window 0 =
        u32 (windowBytes (cfg.windowSizeMs * 1000) (packetTsUs cfg first.2)
          (packetInfos cfg streamType ((first :: rest).map Prod.snd)) window) := by
  have count := flowRun_windowsCount need size positive run
  rw [(flowRun_reachable run).wellFormed.view_eq]
  exact ⟨count.rates_eq, count.length_eq, count.bytes⟩

omit [Double D] in
theorem windowBytes_eq_zero {windowSizeUs : Nat} {info : PacketInfo} {others : List PacketInfo}
    {window : Nat} (inside : window < poolNumWindows)
    (empty : ¬ WindowHolds windowSizeUs (info :: others) window) :
    windowBytes windowSizeUs info.tsUs (info :: others) window = 0 := by
  have none : (info :: others).filter (fun other =>
      windowOf windowSizeUs info.tsUs other = window) = [] :=
    List.filter_eq_nil_iff.mpr fun other member same =>
      empty ⟨info, rfl, inside, other, member, of_decide_eq_true same⟩
  rw [windowBytes, none]
  rfl

/-- The rates are those of the bytes if every true rate is rounded down to zero. -/
theorem flowRun_windowBitrate_eq (need : cfg.needWindowUpdate = true)
    (size : cfg.windowSizeMs ≠ 0) (positive : packetTsUs cfg first.2 ≠ 0)
    (run : flowRun cfg platform streamType (first :: rest) = some flow)
    (small : ∀ window, WindowHolds (cfg.windowSizeMs * 1000)
        (packetInfos cfg streamType ((first :: rest).map Prod.snd)) window →
      u32 (windowBytes (cfg.windowSizeMs * 1000) (packetTsUs cfg first.2)
        (packetInfos cfg streamType ((first :: rest).map Prod.snd)) window) * 8 * 1000000 <
          cfg.windowSizeMs * 1000) :
    flow.view.windowByteCounts.map (windowRate (cfg.windowSizeMs * 1000)) =
      flow.view.windowBitrate := by
  obtain ⟨rates_eq, length_eq, bytes⟩ := flowRun_windows need size positive run
  rw [rates_eq]
  refine List.eq_replicate_iff.mpr ⟨by rw [List.length_map, length_eq], fun rate member => ?_⟩
  obtain ⟨count, among, rfl⟩ := List.mem_map.mp member
  obtain ⟨window, inside, rfl⟩ := List.getElem_of_mem among
  have counted := bytes window (length_eq ▸ inside)
  rw [List.getD_eq_getElem _ _ inside] at counted
  rw [counted, windowRate]
  by_cases holds : WindowHolds (cfg.windowSizeMs * 1000)
      (packetInfos cfg streamType ((first :: rest).map Prod.snd)) window
  · exact Nat.div_eq_of_lt (small window holds)
  · have none : windowBytes (cfg.windowSizeMs * 1000) (packetTsUs cfg first.2)
        (packetInfos cfg streamType ((first :: rest).map Prod.snd)) window = 0 :=
      windowBytes_eq_zero (length_eq ▸ inside) holds
    rw [none]
    exact Nat.zero_div _

/-- The rates of a flow, its peak and the statistics of the rates are those of the bytes if and
only if every window that holds a packet holds so few bytes that its rate is rounded down to
zero. -/
theorem flowRun_ratesReflectBytes_iff (need : cfg.needWindowUpdate = true)
    (size : cfg.windowSizeMs ≠ 0) (positive : packetTsUs cfg first.2 ≠ 0)
    (run : flowRun cfg platform streamType (first :: rest) = some flow)
    {closing : Allocs × RawPacket} {output : Output D}
    (closes : flowOutput cfg platform streamType (first :: rest) closing = some output) :
    let infos := packetInfos cfg streamType ((first :: rest).map Prod.snd)
    RatesReflectBytes cfg infos flow.view output ↔
      ∀ window, WindowHolds (cfg.windowSizeMs * 1000) infos window →
        u32 (windowBytes (cfg.windowSizeMs * 1000) (packetTsUs cfg first.2) infos window) * 8 *
          1000000 < cfg.windowSizeMs * 1000 := by
  intro infos
  have sizeUs : 0 < cfg.windowSizeMs * 1000 :=
    Nat.mul_pos (Nat.pos_of_ne_zero size) (by decide)
  rw [flowOutput_eq, run] at closes
  obtain rfl := Option.some.inj closes
  obtain ⟨rates_eq, -, bytes⟩ := flowRun_windows need size positive run
  constructor
  · intro reflects window holds
    have inside : window < poolNumWindows := holds.choose_spec.2.1
    have rated := reflects.rate window holds
    rw [bytes window inside, rates_eq, List.getD_replicate _ inside, windowRate, eq_comm,
      Nat.div_eq_zero_iff_lt sizeUs] at rated
    exact rated
  · intro small
    have same := flowRun_windowBitrate_eq need size positive run small
    have trueRates_eq : flow.view.trueRates (cfg.windowSizeMs * 1000) =
        validWindows flow.view.windowPktCounts flow.view.windowBitrate := by
      rw [View.trueRates, same]
    refine ⟨fun window holds => ?_, fun value => ?_, fun key own value => ?_⟩
    · have inside : window < poolNumWindows := holds.choose_spec.2.1
      rw [bytes window inside, rates_eq, List.getD_replicate _ inside, windowRate]
      exact (Nat.div_eq_of_lt (small window holds)).symm
    · rw [trueRates_eq, ← mem_behaviorPattern_peak]
      exact Group.mem_flowStateComputeFeatures
        (show "peak_bitrate" ∈ Group.behaviorPattern.keys by decide)
    · rw [trueRates_eq, ← mem_behaviorBitrate_instant own]
      have among : ∀ name ∈ instantBitrateKeys, name ∈ Group.behaviorBitrate.keys := by decide
      exact Group.mem_flowStateComputeFeatures (among key own)

end Flows

/-! ### Two packets -/

theorem scanMax_zeros {values : List Nat} (zeros : ∀ value ∈ values, value = 0) :
    scanMax 0 (prepareDoubleBuffer ℝ values) = 0 := by
  rw [prepareDoubleBuffer_eq, scanMax]
  induction values with
  | nil => rfl
  | cons value others inductionHypothesis =>
    obtain ⟨rfl, rest⟩ := List.forall_mem_cons.mp zeros
    rw [List.map_cons, List.foldl_cons, Nat.cast_zero, ite_self]
    exact inductionHypothesis rest

/-- A packet of 1000 bytes in a window of one second, which has ended when the next packet
arrives: the rate of the window and the peak are zero, not 8000. -/
theorem rates_miss_bytes : ∃ (flow : FlowFeatureState ℝ) (output : Output ℝ),
    let infos := packetInfos defaultConfig .tcp [barePacket 1 1 1000, laterPacket]
    flowRun defaultConfig (barePlatform ℝ) .tcp
        (allocated [barePacket 1 1 1000, laterPacket]) = some flow ∧
      flowOutput defaultConfig (barePlatform ℝ) .tcp
        (allocated [barePacket 1 1 1000, laterPacket]) (.succeed, laterPacket) = some output ∧
      WindowEnded (defaultConfig.windowSizeMs * 1000) infos 0 ∧
      flow.view.windowBitrate.getD 0 0 = 0 ∧
      windowRate (defaultConfig.windowSizeMs * 1000) (flow.view.windowByteCounts.getD 0 0) =
        8000 ∧
      addNumber "peak_bitrate" 0 ∈ output ∧
      ¬ RatesReflectBytes defaultConfig infos flow.view output := by
  obtain ⟨flow, run, -⟩ := flowRun_allocated (D := ℝ) defaultConfig (barePlatform ℝ) .tcp
    (barePacket 1 1 1000) [laterPacket]
  obtain ⟨rates_eq, -, bytes⟩ := flowRun_windows rfl (by decide) (by decide) run
  have holds : WindowHolds (defaultConfig.windowSizeMs * 1000)
      (packetInfos defaultConfig .tcp [barePacket 1 1 1000, laterPacket]) 0 :=
    ⟨_, rfl, by decide, _, List.mem_cons_self, rfl⟩
  have rate : flow.view.windowBitrate.getD 0 0 = 0 := by
    rw [rates_eq]
    rfl
  have trueRate : windowRate (defaultConfig.windowSizeMs * 1000)
      (flow.view.windowByteCounts.getD 0 0) = 8000 := by
    rw [bytes 0 (by decide)]
    decide
  have shown := (flowRun_windowShown_iff rfl (by decide) run).2.mpr
    ⟨by decide, _, rfl, 0, by decide, by decide⟩
  have peak : addNumber "peak_bitrate" (0 : ℝ) ∈ flowStateComputeFeatures defaultConfig
      (barePlatform ℝ) .tcp laterPacket flow.view := by
    refine (Group.mem_flowStateComputeFeatures
      (show "peak_bitrate" ∈ Group.behaviorPattern.keys by decide)).mpr ⟨rfl, ?_⟩
    refine mem_behaviorPattern_peak.mpr ⟨shown, (scanMax_zeros fun rate member => ?_).symm⟩
    obtain ⟨window, among, rfl⟩ := List.mem_map.mp member
    have inside := (List.of_mem_zip (List.mem_of_mem_filter among)).2
    rw [rates_eq] at inside
    exact List.eq_of_mem_replicate inside
  refine ⟨flow, _, run, by rw [flowOutput_eq, run]; rfl, ⟨holds, _, rfl, _, rfl, by decide⟩, rate,
    trueRate, peak, fun reflects => ?_⟩
  have wanted := reflects.rate 0 holds
  rw [rate, trueRate] at wanted
  exact absurd wanted (by decide)

/-- The default configuration with windows of an hour. -/
def hourConfig : FeatureConfig := { defaultConfig with windowSizeMs := 3600000 }

/-- A packet three hours after the first one. -/
def muchLaterPacket : RawPacket := { barePacket 1 0 300 with tvSec := 10800 }

/-- In windows of an hour the rates of a few hundred bytes are right. -/
theorem rates_reflect_few : ∃ (flow : FlowFeatureState Float) (output : Output Float),
    flowRun hourConfig (barePlatform Float) .tcp
        (allocated [barePacket 1 1 100, laterPacket, muchLaterPacket]) = some flow ∧
      flowOutput hourConfig (barePlatform Float) .tcp
        (allocated [barePacket 1 1 100, laterPacket, muchLaterPacket])
        (.succeed, muchLaterPacket) = some output ∧
      RatesReflectBytes hourConfig
        (packetInfos hourConfig .tcp [barePacket 1 1 100, laterPacket, muchLaterPacket])
        flow.view output := by
  obtain ⟨flow, run, -⟩ := flowRun_allocated (D := Float) hourConfig (barePlatform Float) .tcp
    (barePacket 1 1 100) [laterPacket, muchLaterPacket]
  have closes : flowOutput hourConfig (barePlatform Float) .tcp
      (allocated [barePacket 1 1 100, laterPacket, muchLaterPacket])
      (.succeed, muchLaterPacket) = some (flowStateComputeFeatures hourConfig
        (barePlatform Float) .tcp muchLaterPacket flow.view) := by
    rw [flowOutput_eq, run]
    rfl
  refine ⟨flow, _, run, closes,
    (flowRun_ratesReflectBytes_iff rfl (by decide) (by decide) run closes).mpr ?_⟩
  intro window _
  have few : windowBytes (hourConfig.windowSizeMs * 1000)
      (packetTsUs hourConfig (barePacket 1 1 100))
      (packetInfos hourConfig .tcp [barePacket 1 1 100, laterPacket, muchLaterPacket]) window ≤
        400 :=
    List.Sublist.sum_le_sum (List.filter_sublist.map _) fun _ _ => Nat.zero_le _
  have size : 400 * 8 * 1000000 < hourConfig.windowSizeMs * 1000 := by decide
  exact (Nat.mul_le_mul_right _ (Nat.mul_le_mul_right _ ((Nat.mod_le _ _).trans few))).trans_lt
    size

end TiFeatures
