/-
This file compares the inter-arrival times and response delays a flow holds with the
range of the times of its packets. Each of them is an unsigned difference from a
remembered time, and nothing keeps a packet that comes before that time from
wrapping it around.
-/

import TiFeatures.Arithmetic
import TiFeatures.Gaps
import TiFeatures.Responses

namespace TiFeatures

open BoundedStore

variable {D : Type}

/-! ### Ranges -/

/-- The distance between the smallest and the largest time. -/
def timeRange (times : List Nat) : Nat := times.max?.getD 0 - times.min?.getD 0

theorem sub_le_timeRange {times : List Nat} {earlier later : Nat} (first : earlier ∈ times)
    (second : later ∈ times) : later - earlier ≤ timeRange times := by
  have below : times.min?.getD 0 ≤ earlier := List.min?_getD_le_of_mem first
  have above : later ≤ times.max?.getD 0 := List.le_max?_getD_of_mem second
  rw [timeRange]
  omega

/-- An unsigned difference is in a range if the remembered time is not later, or if it is so much
later that the difference wraps around into the range again. -/
def FitsRange (range : Nat) (pair : Nat × Nat) : Prop :=
  pair.1 ≤ pair.2 ∨ 2 ^ 64 ≤ range + (pair.1 - pair.2)

instance (range : Nat) (pair : Nat × Nat) : Decidable (FitsRange range pair) :=
  inferInstanceAs (Decidable (_ ∨ _))

theorem u64Sub_of_lt {first second : Nat} (order : first < second) (small : second < 2 ^ 64) :
    u64Sub first second = 2 ^ 64 - (second - first) := by
  rw [u64Sub, Nat.mod_eq_of_lt small, Nat.mod_eq_of_lt (by omega)]
  omega

theorem u64Sub_le_iff {times : List Nat} (small : ∀ time ∈ times, time < 2 ^ 64)
    {pair : Nat × Nat} (first : pair.1 ∈ times) (second : pair.2 ∈ times) :
    u64Sub pair.2 pair.1 ≤ timeRange times ↔ FitsRange (timeRange times) pair := by
  rw [FitsRange]
  by_cases order : pair.1 ≤ pair.2
  · rw [u64Sub_of_le order (small _ second)]
    exact iff_of_true (sub_le_timeRange first second) (Or.inl order)
  · have later := small _ first
    rw [u64Sub_of_lt (not_le.mp order) later, or_iff_right order]
    omega

/-! ### Pairs of times -/

theorem gapsBy_eq_consecutivePairs (sub : Nat → Nat → Nat) (times : List Nat) :
    gapsBy sub times = times.consecutivePairs.map fun pair => sub pair.2 pair.1 := by
  induction times using gapsBy.induct with
  | case1 first second rest inductionHypothesis =>
    rw [gapsBy, inductionHypothesis]
    rfl
  | case2 times short =>
    rcases times with _ | ⟨first, _ | ⟨second, rest⟩⟩
    · rfl
    · rfl
    · exact absurd rfl (short first second rest)

theorem mem_of_mem_consecutivePairs {times : List Nat} {pair : Nat × Nat}
    (member : pair ∈ times.consecutivePairs) : pair.1 ∈ times ∧ pair.2 ∈ times :=
  ⟨(List.of_mem_zip member).1, List.mem_of_mem_tail (List.of_mem_zip member).2⟩

/-- The remembered and the new time of the last inter-arrival times. -/
def iatPairs (cfg : FeatureConfig) (infos : List PacketInfo) : List (Nat × Nat) :=
  if cfg.needIatSeq then (infos.map PacketInfo.tsUs).consecutivePairs.rtake 5000 else []

/-- The remembered and the new time of the first inter-arrival times of a direction, among the
packets after the first. -/
def Side.iatPairs (cfg : FeatureConfig) (infos : List PacketInfo) (side : Side) :
    List (Nat × Nat) :=
  if cfg.needFwdBwdIats then
    ((side.of infos.tail).map PacketInfo.tsUs).consecutivePairs.take 5000
  else []

/-- The times of the requests and responses whose delays are kept. -/
def delayPairs (cfg : FeatureConfig) (infos : List PacketInfo) : List (Nat × Nat) :=
  if cfg.enableIatResponse then
    ((exchanges infos).take 1000).map fun pair => (pair.1.tsUs, pair.2.tsUs)
  else []

/-- The pairs of times whose differences a flow holds. -/
def heldPairs (cfg : FeatureConfig) (infos : List PacketInfo) : List (Nat × Nat) :=
  iatPairs cfg infos ++ (Side.fwd.iatPairs cfg infos ++ Side.bwd.iatPairs cfg infos) ++
    delayPairs cfg infos

theorem mem_of_mem_heldPairs {cfg : FeatureConfig} {infos : List PacketInfo} {pair : Nat × Nat}
    (member : pair ∈ heldPairs cfg infos) :
    pair.1 ∈ infos.map PacketInfo.tsUs ∧ pair.2 ∈ infos.map PacketInfo.tsUs := by
  have side : ∀ side : Side, pair ∈ side.iatPairs cfg infos →
      pair.1 ∈ infos.map PacketInfo.tsUs ∧ pair.2 ∈ infos.map PacketInfo.tsUs := by
    intro side inside
    rw [Side.iatPairs] at inside
    split at inside
    · have within : (side.of infos.tail).map PacketInfo.tsUs ⊆ infos.map PacketInfo.tsUs :=
        List.map_subset _ fun info found => List.mem_of_mem_tail (List.mem_of_mem_filter found)
      have both := mem_of_mem_consecutivePairs (List.mem_of_mem_take inside)
      exact ⟨within both.1, within both.2⟩
    · exact absurd inside List.not_mem_nil
  rw [heldPairs, List.mem_append, List.mem_append, List.mem_append] at member
  rcases member with (iat | fwd | bwd) | delay
  · rw [TiFeatures.iatPairs] at iat
    split at iat
    · exact mem_of_mem_consecutivePairs (List.mem_of_mem_drop iat)
    · exact absurd iat List.not_mem_nil
  · exact side .fwd fwd
  · exact side .bwd bwd
  · rw [delayPairs] at delay
    split at delay
    · obtain ⟨exchange, inside, rfl⟩ := List.mem_map.mp delay
      have both := List.of_mem_zip (List.mem_of_mem_filter (List.mem_of_mem_take inside))
      exact ⟨List.mem_map_of_mem (List.mem_of_mem_filter both.1),
        List.mem_map_of_mem (List.mem_of_mem_filter (List.mem_of_mem_tail both.2))⟩
    · exact absurd delay List.not_mem_nil

/-! ### Held differences -/

/-- The unsigned difference of a pair of times. -/
def wrappedGap (pair : Nat × Nat) : Nat := u64Sub pair.2 pair.1

section Views

variable [Double D] (cfg : FeatureConfig) (platform : Platform D) (streamType : StreamType)
  (first : RawPacket) (rest : List RawPacket)

/-- Without a need for them, no packet appends inter-arrival times of a direction. -/
theorem appended_iats_off (off : ¬ cfg.needFwdBwdIats = true) (info : PacketInfo)
    (state : IatState D) (side : Side) :
    (iatCall cfg info state).2.filterMap (Access.appended side.iats) = [] := by
  by_cases start : state.lastArrivalUs = 0
  · rw [iatCall_first cfg info start]
    rfl
  · simp only [iatCall_later cfg info start, off, Bool.false_and, Bool.false_eq_true, if_false,
      List.nil_append]
    split
    · rfl
    · rfl

/-- The inter-arrival times at close are the differences of their pairs. -/
theorem closingView_iatSeq
    (positive : ∀ info ∈ packetInfos cfg streamType (first :: rest), info.tsUs > 0) :
    (closingView cfg platform streamType first rest).seqs .iatSeq =
      (iatPairs cfg (packetInfos cfg streamType (first :: rest))).map wrappedGap := by
  rw [closingView_seqs, flowContents_seqs, pushed_iats cfg platform streamType first rest positive,
    iatPairs]
  split
  · rw [gapsBy_eq_consecutivePairs, map_rtake]
    rfl
  · rfl

/-- The inter-arrival times of a direction at close are the differences of their pairs. -/
theorem closingView_iats
    (positive : ∀ info ∈ packetInfos cfg streamType (first :: rest), info.tsUs > 0)
    (side : Side) :
    (closingView cfg platform streamType first rest).arrays side.iats =
      (side.iatPairs cfg (packetInfos cfg streamType (first :: rest))).map wrappedGap := by
  rw [closingView_arrays, flowContents_arrays, Side.iatPairs]
  by_cases need : cfg.needFwdBwdIats = true
  · rw [if_pos need, (flowAccesses_iats cfg platform streamType first rest need positive side).1,
      gapsBy_eq_consecutivePairs, ← List.map_take]
    rfl
  · rw [if_neg need, filterMap_flowAccesses_eq_nil]
    · rfl
    · intro info fields
      rw [filterMap_dataAccesses cfg platform info fields (.array side.iats)
        fun _ => Access.appended_eq_none]
      cases side with
      | fwd => exact appended_iats_off cfg need info fields.iat .fwd
      | bwd => exact appended_iats_off cfg need info fields.iat .bwd

/-- The response delays at close are the differences of their pairs, in milliseconds. -/
theorem closingView_delays
    (nonzero : ∀ info ∈ packetInfos cfg streamType (first :: rest), info.tsUs ≠ 0) :
    (closingView cfg platform streamType first rest).respDelays =
      (delayPairs cfg (packetInfos cfg streamType (first :: rest))).map
        fun pair => (wrappedGap pair : D) / 1000 := by
  rw [closingView_respDelays, flowContents_respDelays, delayPairs]
  by_cases collected : cfg.enableIatResponse = true
  · rw [if_pos collected, flowAccesses_delays collected streamType first rest nonzero,
      ← List.map_take, List.map_map]
    rfl
  · rw [if_neg collected, filterMap_flowAccesses_eq_nil]
    · rfl
    · intro info fields
      rw [filterMap_dataAccesses cfg platform info fields .respDelay
        fun _ => Access.delay_eq_none]
      simp only [Target.call, callAccesses, responseCall, if_neg collected, List.filterMap_nil]

end Views

/-! ### Flows -/

/-- Every inter-arrival time and every response delay a flow holds is within the range of its
times. The delays are in milliseconds. -/
structure FlowFeatureState.GapsInRange (state : FlowFeatureState ℝ) (times : List Nat) :
    Prop where
  iats : ∀ iat ∈ state.view.seqs .iatSeq, iat ≤ timeRange times
  sideIats : ∀ side : Side, ∀ iat ∈ state.view.arrays side.iats, iat ≤ timeRange times
  delays : ∀ delay ∈ state.view.respDelays, delay * 1000 ≤ Nat.cast (timeRange times)

section Flows

variable (cfg : FeatureConfig) (platform : Platform ℝ) (streamType : StreamType)
  (first : RawPacket) (rest : List RawPacket)

/-- After every packet of a run, what the flow holds is within the range of the times so far. -/
def RunInRange : Prop :=
  ∀ seen, seen <+: rest → ∃ state,
    flowRun cfg platform streamType (allocated (first :: seen)) = some state ∧
      state.GapsInRange ((packetInfos cfg streamType (first :: seen)).map PacketInfo.tsUs)

/-- What a flow holds is in range exactly if every pair of times whose difference it holds fits
the range. -/
theorem gapsInRange_iff_fit {state : FlowFeatureState ℝ}
    (view_eq : state.view = closingView cfg platform streamType first rest)
    (nonzero : ∀ info ∈ packetInfos cfg streamType (first :: rest), info.tsUs ≠ 0) :
    let infos := packetInfos cfg streamType (first :: rest)
    let times := infos.map PacketInfo.tsUs
    state.GapsInRange times ↔ ∀ pair ∈ heldPairs cfg infos, FitsRange (timeRange times) pair := by
  intro infos times
  have positive : ∀ info ∈ infos, info.tsUs > 0 :=
    fun info member => Nat.pos_of_ne_zero (nonzero info member)
  have small : ∀ time ∈ times, time < 2 ^ 64 :=
    List.forall_mem_map.mpr (packetInfos_tsUs_lt cfg streamType (first :: rest))
  have fits : ∀ pair ∈ heldPairs cfg infos,
      wrappedGap pair ≤ timeRange times ↔ FitsRange (timeRange times) pair := by
    intro pair member
    have both := mem_of_mem_heldPairs member
    exact u64Sub_le_iff small both.1 both.2
  have inMilliseconds : ∀ pair : Nat × Nat, (Nat.cast (wrappedGap pair) / 1000 : ℝ) * 1000 ≤
      Nat.cast (timeRange times) ↔ wrappedGap pair ≤ timeRange times := by
    intro pair
    have back : (Nat.cast (wrappedGap pair) / 1000 : ℝ) * 1000 = Nat.cast (wrappedGap pair) :=
      div_mul_cancel₀ _ (by norm_num)
    rw [back, Nat.cast_le]
  have iats_eq : state.view.seqs .iatSeq = (iatPairs cfg infos).map wrappedGap := by
    rw [view_eq]
    exact closingView_iatSeq cfg platform streamType first rest positive
  have sides_eq : ∀ side : Side, state.view.arrays side.iats =
      (side.iatPairs cfg infos).map wrappedGap := by
    rw [view_eq]
    exact closingView_iats cfg platform streamType first rest positive
  have delays_eq : state.view.respDelays =
      (delayPairs cfg infos).map fun pair => (Nat.cast (wrappedGap pair) / 1000 : ℝ) := by
    rw [view_eq]
    exact closingView_delays cfg platform streamType first rest nonzero
  rw [← forall₂_congr fits, heldPairs, List.forall_mem_append, List.forall_mem_append,
    List.forall_mem_append]
  constructor
  · rintro ⟨iats, sideIats, delays⟩
    rw [iats_eq, List.forall_mem_map] at iats
    have sides : ∀ side : Side, ∀ pair ∈ side.iatPairs cfg infos,
        wrappedGap pair ≤ timeRange times := by
      intro side
      rw [← List.forall_mem_map (P := (· ≤ timeRange times)), ← sides_eq]
      exact sideIats side
    rw [delays_eq, List.forall_mem_map] at delays
    exact ⟨⟨iats, sides .fwd, sides .bwd⟩,
      fun pair member => (inMilliseconds pair).mp (delays pair member)⟩
  · rintro ⟨⟨iats, fwd, bwd⟩, delays⟩
    refine ⟨?_, fun side => ?_, ?_⟩
    · rw [iats_eq, List.forall_mem_map]
      exact iats
    · rw [sides_eq, List.forall_mem_map]
      cases side with
      | fwd => exact fwd
      | bwd => exact bwd
    · rw [delays_eq, List.forall_mem_map]
      exact fun pair member => (inMilliseconds pair).mpr (delays pair member)

/-- In a run of packets in any order, all that is held after any of them is in range exactly if
every pair of times whose difference is held fits the range. -/
theorem flowRun_gapsInRange_iff
    (nonzero : ∀ info ∈ packetInfos cfg streamType (first :: rest), info.tsUs ≠ 0) :
    RunInRange cfg platform streamType first rest ↔ ∀ seen, seen <+: rest →
      ∀ pair ∈ heldPairs cfg (packetInfos cfg streamType (first :: seen)), FitsRange
        (timeRange ((packetInfos cfg streamType (first :: seen)).map PacketInfo.tsUs)) pair := by
  refine forall₂_congr fun seen within => ?_
  have nonzeroSeen : ∀ info ∈ packetInfos cfg streamType (first :: seen), info.tsUs ≠ 0 := by
    intro info member
    refine nonzero info (List.map_subset _ ?_ member)
    exact List.cons_subset_cons _ within.subset
  have view_eq := flowRun_view cfg platform streamType first seen
  obtain ⟨state, run, closing⟩ := Option.map_eq_some_iff.mp view_eq
  refine Iff.trans ?_ (gapsInRange_iff_fit cfg platform streamType first seen closing nonzeroSeen)
  constructor
  · rintro ⟨other, otherRun, inRange⟩
    obtain rfl := Option.some.inj (run.symm.trans otherRun)
    exact inRange
  · exact fun inRange => ⟨state, run, inRange⟩

/-- A packet two microseconds before the first has an inter-arrival time of centuries. -/
theorem flowRun_gap_wraps :
    (∀ info ∈ packetInfos defaultConfig .tcp [barePacket 5 1 100, barePacket 3 1 100],
        info.tsUs ≠ 0) ∧
      ¬ RunInRange defaultConfig (barePlatform ℝ) .tcp (barePacket 5 1 100)
        [barePacket 3 1 100] := by
  have nonzero : ∀ info ∈ packetInfos defaultConfig .tcp
      [barePacket 5 1 100, barePacket 3 1 100], info.tsUs ≠ 0 := by decide
  refine ⟨nonzero, fun inRange => ?_⟩
  have fit := (flowRun_gapsInRange_iff defaultConfig (barePlatform ℝ) .tcp (barePacket 5 1 100)
    [barePacket 3 1 100] nonzero).mp inRange _ (List.prefix_refl _)
  exact absurd (fit (5, 3) (by decide)) (by decide)

/-- What a flow of two packets in order holds is in range. -/
theorem flowRun_gapsInRange_two : RunInRange defaultConfig (barePlatform ℝ) .tcp
    (barePacket 3 1 100) [barePacket 5 2 100] := by
  refine (flowRun_gapsInRange_iff defaultConfig (barePlatform ℝ) .tcp (barePacket 3 1 100)
    [barePacket 5 2 100] (by decide)).mpr fun seen within => ?_
  rcases List.prefix_cons_iff.mp within with rfl | ⟨none, rfl, short⟩
  · decide
  · rw [List.prefix_nil.mp short]
    decide

end Flows

end TiFeatures
