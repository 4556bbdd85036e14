/-
This file compares the durations and the intervals of the recorded bursts with the
times of their packets. A burst is recorded when the packet that breaks it arrives:
its duration reaches up to that packet, and from zero for the first run, and its
interval is the gap behind it instead of the one before it.
-/

import TiFeatures.Bursts

namespace TiFeatures

open BoundedStore

variable {D : Type}

/-! ### The times of broken runs -/

/-- The time from the first packet of a run to the last. -/
def runDuration (run : List PacketInfo) : Nat := lastTsUs run - firstTsUs run

/-- The idle time between two runs. -/
def idleTime (earlier later : List PacketInfo) : Nat := firstTsUs later - lastTsUs earlier

/-- The times of a broken run: it begins no sooner than the time kept as its start, and the packet
that broke it comes after its last one. -/
structure BrokenRun.Timed (broken : BrokenRun) : Prop where
  start_le : broken.startUs ≤ firstTsUs broken.run
  first_le : firstTsUs broken.run ≤ lastTsUs broken.run
  last_lt : lastTsUs broken.run < broken.nextUs
  next_lt : broken.nextUs < 2 ^ 64

/-- The duration kept of a burst is longer than the burst. -/
theorem BrokenRun.Timed.runDuration_lt {broken : BrokenRun} (timed : broken.Timed) :
    runDuration broken.run < u64Sub broken.nextUs broken.startUs := by
  obtain ⟨start_le, first_le, last_lt, next_lt⟩ := timed
  rw [u64Sub_of_le (by omega) next_lt, runDuration]
  omega

/-- The broken ones among runs in order of time have the times of broken runs. -/
theorem brokenRuns_timed {startUs : Nat} {runs : List (List PacketInfo)}
    (start : ∀ run ∈ runs.head?, startUs ≤ firstTsUs run)
    (ordered : ∀ run ∈ runs, firstTsUs run ≤ lastTsUs run)
    (range : ∀ run ∈ runs, firstTsUs run < 2 ^ 64)
    (apart : runs.IsChain fun earlier later => lastTsUs earlier < firstTsUs later) :
    ∀ broken ∈ brokenRuns startUs runs, broken.Timed := by
  induction runs generalizing startUs with
  | nil => exact fun broken member => absurd member List.not_mem_nil
  | cons run others inductionHypothesis =>
    cases others with
    | nil => exact fun broken member => absurd member List.not_mem_nil
    | cons next rest =>
      intro broken member
      rw [List.isChain_cons_cons] at apart
      rcases List.mem_cons.mp member with rfl | later
      · exact ⟨start run rfl, ordered run List.mem_cons_self, apart.1,
          range next (List.mem_cons_of_mem _ List.mem_cons_self)⟩
      · refine inductionHypothesis ?_ (fun other inside => ordered other
          (List.mem_cons_of_mem _ inside)) (fun other inside => range other
          (List.mem_cons_of_mem _ inside)) apart.2 broken later
        intro other other_eq
        rw [Option.some.inj other_eq]

theorem firstTsUs_eq {infos : List PacketInfo} (nonempty : infos ≠ []) :
    firstTsUs infos = (infos.head nonempty).tsUs := by
  rw [firstTsUs, List.head?_eq_some_head nonempty]
  rfl

theorem lastTsUs_eq {infos : List PacketInfo} (nonempty : infos ≠ []) :
    lastTsUs infos = (infos.getLast nonempty).tsUs := by
  rw [lastTsUs, List.getLast?_eq_some_getLast nonempty]
  rfl

/-- Packets in order of time begin no later than they end. -/
theorem firstTsUs_le_lastTsUs {infos : List PacketInfo}
    (ordered : (infos.map PacketInfo.tsUs).Pairwise (· ≤ ·)) :
    firstTsUs infos ≤ lastTsUs infos := by
  cases infos with
  | nil => exact le_refl _
  | cons first rest =>
    rw [firstTsUs_eq (List.cons_ne_nil _ _), lastTsUs_eq (List.cons_ne_nil _ _)]
    rcases List.mem_cons.mp (List.getLast_mem (List.cons_ne_nil first rest)) with last | later
    · rw [last]
      rfl
    · rw [List.map_cons, List.pairwise_cons] at ordered
      exact ordered.1 _ (List.mem_map_of_mem later)

/-- The broken runs of packets in order of time have the times of broken runs. -/
theorem packetRuns_timed (thresholdUs : Nat) {infos : List PacketInfo}
    (ordered : (infos.map PacketInfo.tsUs).Pairwise (· ≤ ·))
    (range : ∀ info ∈ infos, info.tsUs < 2 ^ 64) :
    ∀ broken ∈ brokenRuns 0 (packetRuns thresholdUs infos), broken.Timed := by
  have flat : (packetRuns thresholdUs infos).flatten = infos := List.flatten_splitBy _ _
  have nonempty : ∀ run ∈ packetRuns thresholdUs infos, run ≠ [] :=
    fun run member => List.ne_nil_of_mem_splitBy member
  have within : ∀ run ∈ packetRuns thresholdUs infos, run.Sublist infos :=
    fun run member => flat ▸ List.sublist_flatten_of_mem member
  refine brokenRuns_timed (fun run _ => Nat.zero_le _) (fun run member => ?_)
    (fun run member => ?_) ?_
  · exact firstTsUs_le_lastTsUs (ordered.sublist ((within run member).map _))
  · rw [firstTsUs_eq (nonempty run member)]
    exact range _ ((within run member).subset (List.head_mem _))
  · refine (List.isChain_getLast_head_splitBy (withinBurst thresholdUs) infos).imp ?_
    rintro earlier later ⟨earlierNonempty, laterNonempty, breaks⟩
    rw [lastTsUs_eq earlierNonempty, firstTsUs_eq laterNonempty]
    have gap := of_decide_eq_false breaks
    omega

/-! ### Recorded bursts -/

/-- The bursts a flow records of its packets, if it collects them. -/
def recordedBursts (cfg : FeatureConfig) (capacity : Nat) (infos : List PacketInfo) :
    List BrokenRun :=
  if cfg.enableBurst then keptRuns capacity cfg.burstIatThresholdUs infos else []

theorem recordedBursts_timed (cfg : FeatureConfig) (capacity : Nat) {infos : List PacketInfo}
    (ordered : (infos.map PacketInfo.tsUs).Pairwise (· ≤ ·))
    (range : ∀ info ∈ infos, info.tsUs < 2 ^ 64) :
    ∀ broken ∈ recordedBursts cfg capacity infos, broken.Timed := by
  intro broken member
  rw [recordedBursts] at member
  split at member
  · exact packetRuns_timed _ ordered range _ (List.mem_of_mem_filter (List.mem_of_mem_take member))
  · exact absurd member List.not_mem_nil

/-- No burst is recorded exactly if no broken run has more than one packet. -/
theorem recordedBursts_eq_nil_iff (cfg : FeatureConfig) {capacity : Nat} (room : 0 < capacity)
    (infos : List PacketInfo) :
    recordedBursts cfg capacity infos = [] ↔ (cfg.enableBurst = true →
      ∀ run ∈ (packetRuns cfg.burstIatThresholdUs infos).dropLast, u32 run.length ≤ 1) := by
  rw [recordedBursts]
  by_cases collected : cfg.enableBurst = true
  · rw [if_pos collected, keptRuns, List.take_eq_nil_iff, or_iff_right room.ne', recordedRuns,
      List.filter_eq_nil_iff, ← map_run_brokenRuns 0, List.forall_mem_map,
      forall_prop_of_true collected]
    simp only [decide_eq_true_eq, not_lt]
  · rw [if_neg collected]
    exact iff_of_true rfl fun on => absurd on collected

section Flows

variable [Double D] (cfg : FeatureConfig) (platform : Platform D) (streamType : StreamType)
  (first : RawPacket) (rest : List RawPacket)

/-- A flow that does not collect bursts records none. -/
theorem flowAccesses_bursts_off (off : ¬ cfg.enableBurst = true) :
    (flowAccesses cfg platform streamType first rest).filterMap Access.burstRecord = [] := by
  refine filterMap_flowAccesses_eq_nil cfg platform streamType first rest fun info fields => ?_
  rw [filterMap_burstRecord, burstCall, if_neg off]
  rfl

theorem stored_burstDurations {value : Nat} (small : value < 2 ^ 64) :
    ArrayId.stored .burstDurations value = value := Nat.mod_eq_of_lt small

theorem stored_burstIntervals {value : Nat} (small : value < 2 ^ 64) :
    ArrayId.stored .burstIntervals value = value := Nat.mod_eq_of_lt small

/-- The burst arrays of a flow at close hold the bursts it records. -/
theorem flowRun_recordedBursts
    (positive : ∀ info ∈ packetInfos cfg streamType (first :: rest), 0 < info.tsUs)
    (ordered : ((packetInfos cfg streamType (first :: rest)).map PacketInfo.tsUs).Pairwise
      (· ≤ ·)) :
    ∃ state, flowRun cfg platform streamType (allocated (first :: rest)) = some state ∧
      0 < state.store.memPool.actualSeqLen ∧
      let kept := recordedBursts cfg state.store.memPool.actualSeqLen
        (packetInfos cfg streamType (first :: rest))
      state.view.burstDurations =
          kept.map (fun broken => u64Sub broken.nextUs broken.startUs) ∧
        state.view.burstIntervals =
          kept.tail.map fun broken => broken.nextUs - lastTsUs broken.run := by
  have range := packetInfos_tsUs_lt cfg streamType (first :: rest)
  have room : ∀ state, flowRun cfg platform streamType (allocated (first :: rest)) = some state →
      0 < state.store.memPool.actualSeqLen := by
    intro state run
    rw [(flowRun_reachable run).wellFormed.store.pool.seqLen_eq]
    cases state.store.memPool.level <;> decide
  by_cases collected : cfg.enableBurst = true
  · obtain ⟨state, run, bursts⟩ := flowRun_bursts cfg platform streamType first rest collected
      positive ordered
    have timed := recordedBursts_timed cfg state.store.memPool.actualSeqLen ordered range
    refine ⟨state, run, room state run, ?_⟩
    rw [recordedBursts, if_pos collected] at timed ⊢
    refine ⟨bursts.durations_eq.trans ?_, bursts.intervals_eq.trans ?_⟩
    · rw [List.map_map]
      refine List.map_congr_left fun broken _ => ?_
      rw [Function.comp_apply, BrokenRun.record, stored_burstDurations (u64Sub_lt _ _)]
    · rw [← List.map_tail, List.map_map]
      refine List.map_congr_left fun broken member => ?_
      have small := (timed broken (List.mem_of_mem_tail member)).next_lt
      rw [Function.comp_apply, BrokenRun.record,
        stored_burstIntervals ((Nat.sub_le _ _).trans_lt small)]
  · obtain ⟨state, run, -, after⟩ := flowRun_allocated cfg platform streamType first rest
    refine ⟨state, run, room state run, ?_⟩
    have bursts := flowContents_bursts cfg platform streamType first rest
    rw [flowAccesses_bursts_off cfg platform streamType first rest collected, ← after.contents_eq]
      at bursts
    have view_eq := after.wellFormed.view_eq
    rw [recordedBursts, if_neg collected]
    exact ⟨(congrArg View.burstDurations view_eq).trans bursts.durations_eq,
      (congrArg View.burstIntervals view_eq).trans bursts.intervals_eq⟩

/-! ### Durations -/

/-- The durations at close are those of the recorded bursts, none is longer than the flow, and the
burst features are computed from them. -/
structure FlowFeatureState.DurationsTrue (state : FlowFeatureState D) (infos : List PacketInfo) :
    Prop where
  durations_eq : state.view.burstDurations =
    (recordedBursts cfg state.store.memPool.actualSeqLen infos).map
      fun broken => runDuration broken.run
  within_flow : ∀ duration ∈ state.view.burstDurations, duration ≤ runDuration infos
  features_eq : Group.burst.features cfg platform state.view =
    Group.burst.features cfg platform { state.view with
      burstDurations := (recordedBursts cfg state.store.memPool.actualSeqLen infos).map
        fun broken => runDuration broken.run }

/-- The durations at close are those of the recorded bursts exactly if there are none, as the
duration kept of a burst is always too long. -/
theorem flowRun_durationsTrue_iff
    (positive : ∀ info ∈ packetInfos cfg streamType (first :: rest), 0 < info.tsUs)
    (ordered : ((packetInfos cfg streamType (first :: rest)).map PacketInfo.tsUs).Pairwise
      (· ≤ ·)) :
    ∃ state, flowRun cfg platform streamType (allocated (first :: rest)) = some state ∧
      let infos := packetInfos cfg streamType (first :: rest)
      (state.DurationsTrue cfg platform infos ↔ (cfg.enableBurst = true →
        ∀ run ∈ (packetRuns cfg.burstIatThresholdUs infos).dropLast, u32 run.length ≤ 1)) := by
  obtain ⟨state, run, room, durations_eq, -⟩ := flowRun_recordedBursts cfg platform streamType
    first rest positive ordered
  refine ⟨state, run, ?_⟩
  dsimp only
  rw [← recordedBursts_eq_nil_iff cfg room]
  constructor
  · intro durationsTrue
    have same := durations_eq.symm.trans durationsTrue.durations_eq
    refine List.eq_nil_iff_forall_not_mem.mpr fun broken member => ?_
    have timed := recordedBursts_timed cfg state.store.memPool.actualSeqLen ordered
      (packetInfos_tsUs_lt cfg streamType (first :: rest)) broken member
    exact timed.runDuration_lt.ne' (List.map_inj_left.mp same broken member)
  · intro none
    rw [none, List.map_nil] at durations_eq
    refine ⟨?_, ?_, ?_⟩
    · rw [none, durations_eq, List.map_nil]
    · rw [durations_eq]
      exact fun duration member => absurd member List.not_mem_nil
    · rw [none, List.map_nil]
      exact congrArg (fun durations => Group.burst.features cfg platform
        { state.view with burstDurations := durations }) durations_eq

/-- The duration kept of a burst that a third packet breaks is too long. -/
theorem flowRun_duration_too_long : ∃ state : FlowFeatureState Float,
    flowRun defaultConfig (barePlatform Float) .tcp
        (allocated [barePacket 1 1 100, barePacket 2 1 100, barePacket 5000 1 100]) =
          some state ∧
      ¬ state.DurationsTrue defaultConfig (barePlatform Float) (packetInfos defaultConfig .tcp
        [barePacket 1 1 100, barePacket 2 1 100, barePacket 5000 1 100]) := by
  obtain ⟨state, run, true_iff⟩ := flowRun_durationsTrue_iff defaultConfig
    (barePlatform Float) .tcp (barePacket 1 1 100) [barePacket 2 1 100, barePacket 5000 1 100]
    (by decide) (by decide)
  refine ⟨state, run, fun durationsTrue => ?_⟩
  have none := true_iff.mp durationsTrue rfl
  exact absurd none (by decide)

/-- A flow whose packets are all within the threshold records no burst. -/
theorem flowRun_durationsTrue_two : ∃ state : FlowFeatureState Float,
    flowRun defaultConfig (barePlatform Float) .tcp
        (allocated [barePacket 1 1 100, barePacket 2 1 100]) = some state ∧
      state.DurationsTrue defaultConfig (barePlatform Float) (packetInfos defaultConfig .tcp
        [barePacket 1 1 100, barePacket 2 1 100]) := by
  obtain ⟨state, run, true_iff⟩ := flowRun_durationsTrue_iff defaultConfig
    (barePlatform Float) .tcp (barePacket 1 1 100) [barePacket 2 1 100] (by decide) (by decide)
  exact ⟨state, run, true_iff.mpr fun _ => by decide⟩

/-! ### Intervals -/

/-- The intervals at close are the idle times between successive recorded bursts, and the burst
features are computed from these. -/
structure FlowFeatureState.IntervalsTrue (state : FlowFeatureState D) (infos : List PacketInfo) :
    Prop where
  intervals_eq : state.view.burstIntervals =
    (recordedBursts cfg state.store.memPool.actualSeqLen infos).consecutivePairs.map
      fun pair => idleTime pair.1.run pair.2.run
  features_eq : Group.burst.features cfg platform state.view =
    Group.burst.features cfg platform { state.view with
      burstIntervals :=
        (recordedBursts cfg state.store.memPool.actualSeqLen infos).consecutivePairs.map
          fun pair => idleTime pair.1.run pair.2.run }

/-- The intervals at close are the idle times between successive recorded bursts exactly if the
gap behind the later burst is as long as the idle time before it. -/
theorem flowRun_intervalsTrue_iff
    (positive : ∀ info ∈ packetInfos cfg streamType (first :: rest), 0 < info.tsUs)
    (ordered : ((packetInfos cfg streamType (first :: rest)).map PacketInfo.tsUs).Pairwise
      (· ≤ ·)) :
    ∃ state, flowRun cfg platform streamType (allocated (first :: rest)) = some state ∧
      let infos := packetInfos cfg streamType (first :: rest)
      (state.IntervalsTrue cfg platform infos ↔
        ∀ pair ∈ (recordedBursts cfg state.store.memPool.actualSeqLen infos).consecutivePairs,
          pair.2.nextUs - lastTsUs pair.2.run = idleTime pair.1.run pair.2.run) := by
  obtain ⟨state, run, -, -, intervals_eq⟩ := flowRun_recordedBursts cfg platform streamType
    first rest positive ordered
  refine ⟨state, run, ?_⟩
  dsimp only
  have later_eq : ∀ kept : List BrokenRun, kept.tail = kept.consecutivePairs.map Prod.snd := by
    intro kept
    rw [List.consecutivePairs, List.map_snd_zip]
    exact (List.length_tail ..).trans_le (Nat.sub_le _ _)
  rw [later_eq, List.map_map] at intervals_eq
  rw [← List.map_inj_left]
  constructor
  · exact fun intervalsTrue => intervals_eq.symm.trans intervalsTrue.intervals_eq
  · intro same
    have true_eq := intervals_eq.trans same
    exact ⟨true_eq, congrArg (fun intervals => Group.burst.features cfg platform
      { state.view with burstIntervals := intervals }) true_eq⟩

/-- Five packets that form two bursts, each broken by the next packet. -/
def twoBursts (endUs : Nat) : List RawPacket :=
  [barePacket 1 1 100, barePacket 2 1 100, barePacket 5002 1 100, barePacket 5003 1 100,
    barePacket endUs 1 100]

/-- The interval between two bursts is the gap behind the second one. -/
theorem flowRun_interval_behind : ∃ state : FlowFeatureState Float,
    flowRun defaultConfig (barePlatform Float) .tcp (allocated (twoBursts 20000)) = some state ∧
      ¬ state.IntervalsTrue defaultConfig (barePlatform Float)
        (packetInfos defaultConfig .tcp (twoBursts 20000)) := by
  obtain ⟨state, run, true_iff⟩ := flowRun_intervalsTrue_iff defaultConfig (barePlatform Float)
    .tcp (barePacket 1 1 100) (twoBursts 20000).tail (by decide) (by decide)
  refine ⟨state, run, fun intervalsTrue => ?_⟩
  have equal := true_iff.mp intervalsTrue
  rw [(flowRun_reachable run).wellFormed.store.pool.seqLen_eq] at equal
  revert equal
  cases state.store.memPool.level <;> decide

/-- The interval between two bursts is right where the packets are equally spaced. -/
theorem flowRun_intervalsTrue_even : ∃ state : FlowFeatureState Float,
    flowRun defaultConfig (barePlatform Float) .tcp (allocated (twoBursts 10003)) = some state ∧
      state.IntervalsTrue defaultConfig (barePlatform Float)
        (packetInfos defaultConfig .tcp (twoBursts 10003)) := by
  obtain ⟨state, run, true_iff⟩ := flowRun_intervalsTrue_iff defaultConfig (barePlatform Float)
    .tcp (barePacket 1 1 100) (twoBursts 10003).tail (by decide) (by decide)
  refine ⟨state, run, true_iff.mpr ?_⟩
  rw [(flowRun_reachable run).wellFormed.store.pool.seqLen_eq]
  cases state.store.memPool.level <;> decide

end Flows

end TiFeatures
