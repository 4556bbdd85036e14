/-
This file proves that three accounts of one quantity agree: the sums of the counters,
the values of an array or a circular buffer, and the running statistics. The values
are only read when they fit the temporary buffer, and then none of them is missing,
as the buffer is smaller than the largest capacity.
-/

import TiFeatures.Gaps
import TiFeatures.LogIats
import TiFeatures.Squares

namespace TiFeatures

/-! ### What is collected -/

section Collected

variable {D : Type} [Double D] (cfg : FeatureConfig) (platform : Platform D)

/-- What the keys of a direction begin with. -/
def Side.name : Side → String
  | .fwd => "fwd"
  | .bwd => "bwd"

/-- The statistics of a direction. -/
def Side.stats (stats : DirectionalRunningStats D) : Side → RunningStats D
  | .fwd => stats.fwd
  | .bwd => stats.bwd

/-- A sample is added to the statistics of its direction. -/
theorem directionalStatsUpdate_side (side : Side) (stats : DirectionalRunningStats D)
    (direction : Nat) (sample : D) :
    side.stats (directionalStatsUpdate stats direction sample) =
      if direction = side.dir then runningStatsUpdate (side.stats stats) sample
      else side.stats stats := by
  rw [directionalStatsUpdate]
  cases side with
  | fwd =>
    by_cases fwd : direction = dirFwd
    · rw [if_pos fwd, Side.dir, if_pos fwd]
      rfl
    · rw [if_neg fwd, Side.dir, if_neg fwd]
      split <;> rfl
  | bwd =>
    by_cases fwd : direction = dirFwd
    · have other : direction ≠ dirBwd := fwd ▸ by decide
      rw [if_pos fwd, Side.dir, if_neg other]
      rfl
    · rw [if_neg fwd, Side.dir]
      split <;> rfl

/-- The running statistics of the packet lengths of a direction. -/
def Side.pktLenStats (state : PktLenState D) : Side → RunningStats D
  | .fwd => state.fwdPktLen.fwd
  | .bwd => state.bwdPktLen.bwd

/-- The packet lengths of a direction. -/
def Side.lengths (side : Side) (infos : List PacketInfo) : List Nat :=
  (side.of infos).map PacketInfo.pktLen

/-- A packet adds its length to the statistics of its direction. -/
theorem pktLenCall_stats (side : Side) (info : PacketInfo) (state : PktLenState D) :
    side.pktLenStats (pktLenCall cfg info state).1 =
      if cfg.needFwdBwdPktLens then
        (if info.direction = side.dir then [info.pktLen] else []).foldl addSample
          (side.pktLenStats state)
      else side.pktLenStats state := by
  have updated : side.pktLenStats (pktLenCall cfg info state).1 =
      if cfg.needFwdBwdPktLens then
        if info.direction = side.dir then
          runningStatsUpdate (side.pktLenStats state) (info.pktLen : D)
        else side.pktLenStats state
      else side.pktLenStats state := by
    rw [pktLenCall_state]
    cases cfg.needFwdBwdPktLens with
    | false => cases side <;> rfl
    | true =>
      cases side with
      | fwd => exact directionalStatsUpdate_side .fwd state.fwdPktLen _ _
      | bwd => exact directionalStatsUpdate_side .bwd state.bwdPktLen _ _
  rw [updated]
  split
  · split <;> rfl
  · rfl

variable (streamType : StreamType) (first : RawPacket) (rest : List RawPacket)

/-- The running statistics of a direction are made of the lengths of its packets. -/
theorem flowFields_pktLenStats (side : Side) :
    side.pktLenStats (flowFields cfg platform streamType first rest).pktLen =
      runningStatsOf D (if cfg.needFwdBwdPktLens then
        side.lengths (packetInfos cfg streamType (first :: rest)) else []) := by
  have lengths_eq : side.lengths (packetInfos cfg streamType (first :: rest)) =
      (packetInfos cfg streamType (first :: rest)).flatMap fun info =>
        if info.direction = side.dir then [info.pktLen] else [] := by
    rw [flatMap_side, Side.lengths]
    exact List.map_eq_flatMap
  rw [lengths_eq]
  exact run_stats (fun fields => side.pktLenStats fields.pktLen) _ cfg.needFwdBwdPktLens
    (fun info fields => pktLenCall_stats cfg side info fields.pktLen) (by cases side <;> rfl) _

/-- The array of a direction holds the first 5000 lengths of its packets. -/
theorem closingView_pktLens (collected : cfg.needFwdBwdPktLens = true) (side : Side) :
    (closingView cfg platform streamType first rest).arrays side.pktLens =
      (side.lengths (packetInfos cfg streamType (first :: rest))).take 5000 := by
  rw [closingView_arrays, flowContents_arrays, filterMap_flowAccesses cfg platform streamType
    first rest (appended_pktLens cfg platform side), flatMap_side, flatMap_if_singleton,
    if_pos collected]
  rfl

/-- The circular buffer of the inter-arrival times is pushed what the running statistics take. -/
theorem flowAccesses_iatSeq :
    (flowAccesses cfg platform streamType first rest).filterMap (Access.pushed .iatSeq) =
      if cfg.needIatSeq then timedGaps (packetInfos cfg streamType (first :: rest)) else [] := by
  have start : (fieldsInit cfg (packetTsUs cfg first) : Fields D).iat.lastArrivalUs = lastTsUs [] ∧
      ([] : List (Access D)).filterMap (Access.pushed .iatSeq) =
        if cfg.needIatSeq then timedGaps [] else [] := ⟨rfl, (ite_self _).symm⟩
  refine (Mealy.trace_history (fun infos (fields : Fields D) (accesses : List (Access D)) =>
    fields.iat.lastArrivalUs = lastTsUs infos ∧
      accesses.filterMap (Access.pushed .iatSeq) =
        if cfg.needIatSeq then timedGaps infos else []) ?_ start
      (packetInfos cfg streamType (first :: rest))).2
  rintro seen fields accesses info ⟨arrival_eq, pushed_eq⟩
  rw [List.filterMap_append, pushed_eq, timedGaps_concat, lastTsUs_concat]
  by_cases early : fields.iat.lastArrivalUs = 0
  · have pushed : ((flowMachine cfg platform).emit fields info).filterMap
        (Access.pushed .iatSeq) = [] := by
      refine (filterMap_dataAccesses cfg platform info fields (.ring .iatSeq)
        fun _ => Access.pushed_eq_none).trans ?_
      simp only [Target.call, callAccesses, iatCall_first cfg info early, List.filterMap_nil]
    refine ⟨?_, ?_⟩
    · exact congrArg (fun call => call.1.lastArrivalUs) (iatCall_first cfg info early)
    · rw [pushed, if_pos (arrival_eq.symm.trans early), List.append_nil, List.append_nil]
  · have pushed := pushed_iatSeq cfg platform info early
    refine ⟨?_, ?_⟩
    · exact congrArg (fun call => call.1.lastArrivalUs) (iatCall_later cfg info early)
    · have later : ¬ lastTsUs seen = 0 := arrival_eq ▸ early
      rw [if_neg later, ← arrival_eq]
      refine (congrArg (_ ++ ·) pushed).trans ?_
      split <;> rfl

end Collected

/-! ### Exact arithmetic -/

/-- A sum over a count is the mean. -/
theorem real_sumUint_div (values : List Nat) :
    sumUint ℝ values / Nat.cast values.length = Moments.mean (values.map (Nat.cast : Nat → ℝ)) := by
  rw [real_sumUint, Moments.mean, List.length_map, Nat.cast_list_sum]

/-- A running statistic has the mean and the standard deviation of its samples. -/
theorem real_runningStatsOf {samples : List Nat} (fits : samples.length < 2 ^ 64) :
    let values := samples.map (Nat.cast : Nat → ℝ)
    (runningStatsOf ℝ samples).mean = Moments.mean values ∧
      runningStatsStd (runningStatsOf ℝ samples) = Real.sqrt (Moments.sampleVariance values) := by
  have welford := foldl_runningStatsUpdate_welford (samples.map (Nat.cast : Nat → ℝ))
    ((List.length_map _).trans_lt fits)
  rw [runningStatsOf_eq_foldl]
  exact ⟨welford.mean_eq, congrArg Real.sqrt welford.variance_eq⟩

/-- The standard deviation computed from a sum of squares is that of the values. -/
theorem real_sampleStd (values : List ℝ) :
    sampleStd values.length (sumSqDouble values) (sumDouble values / Nat.cast values.length) =
      Real.sqrt (Moments.sampleVariance values) := by
  rw [sampleStd, real_sumSqDouble, real_sumDouble]
  split
  · rw [Moments.sampleVariance_eq]
    rfl
  · rename_i few
    rw [Moments.sampleVariance_of_few few, Real.sqrt_zero]

/-! ### Values read from a filled buffer -/

/-- Values that fit the temporary buffer are all there are: the buffer is smaller than the
capacities they are kept in. -/
theorem take_eq_of_fits {Value : Type} {values : List Value} {size : Nat} (small : size ≤ 512)
    (fits : (values.take 5000).length ≤ size) :
    values.take 5000 = values ∧ values.length ≤ 512 := by
  rw [List.length_take] at fits
  exact ⟨List.take_of_length_le (by omega), by omega⟩

theorem rtake_eq_of_fits {Value : Type} {values : List Value} {size : Nat} (small : size ≤ 512)
    (fits : (values.rtake 5000).length ≤ size) :
    values.rtake 5000 = values ∧ values.length ≤ 512 := by
  rw [BoundedStore.length_rtake] at fits
  exact ⟨BoundedStore.rtake_of_length_le (by omega), by omega⟩

/-- The counters of lengths that fit the temporary buffer have not wrapped. -/
theorem u64_of_few {lengths : List Nat} (few : lengths.length ≤ 512)
    (inRange : ∀ length ∈ lengths, length < 2 ^ 32) :
    u64 lengths.length = lengths.length ∧ u64 lengths.sum = lengths.sum := by
  have total : lengths.sum ≤ lengths.length * 2 ^ 32 :=
    List.sum_le_card_nsmul lengths (2 ^ 32) fun length member => (inRange length member).le
  exact ⟨u64_of_lt (by omega), u64_of_lt (by omega)⟩

/-- Lengths kept in an array, of which at most as many are read as the buffer holds, give one
mean: that of the array, that of the counters and that of the running statistics. -/
theorem real_lengths_mean {lengths : List Nat} (few : lengths.length ≤ 512)
    (inRange : ∀ length ∈ lengths, length < 2 ^ 32) :
    let mean := Moments.mean (lengths.map (Nat.cast : Nat → ℝ))
    sumUint ℝ lengths / Nat.cast lengths.length = mean ∧
      Nat.cast (u64 lengths.sum) / Nat.cast (u64 lengths.length) = mean ∧
      (runningStatsOf ℝ lengths).mean = mean := by
  obtain ⟨packets_eq, bytes_eq⟩ := u64_of_few few inRange
  refine ⟨real_sumUint_div lengths, ?_, (real_runningStatsOf (by omega)).1⟩
  rw [packets_eq, bytes_eq, ← real_sumUint, real_sumUint_div]

/-- The extremes of the running statistics are those of the lengths. -/
theorem real_lengths_extremes {lengths : List Nat} (nonempty : lengths ≠ [])
    (inRange : ∀ length ∈ lengths, length < 2 ^ 32) :
    let values := lengths.map (Nat.cast : Nat → ℝ)
    IsLeast { value | value ∈ values } (runningStatsOf ℝ lengths).minVal ∧
      IsGreatest { value | value ∈ values } (runningStatsOf ℝ lengths).maxVal := by
  rw [runningStatsOf_eq_foldl]
  have some : lengths.map (Nat.cast : Nat → ℝ) ≠ [] :=
    fun none => nonempty (List.map_eq_nil_iff.mp none)
  refine ⟨foldl_runningStatsUpdate_isLeast some ?_, foldl_runningStatsUpdate_isGreatest some ?_⟩
  · refine List.forall_mem_map.mpr fun length member => Nat.cast_le.mpr ?_
    exact (inRange length member).le.trans (by norm_num)
  · refine List.forall_mem_map.mpr fun length _ => ?_
    exact (neg_nonpos.mpr (Nat.cast_nonneg _)).trans (Nat.cast_nonneg _)

/-! ### The object written -/

/-- The object has a number under a key, and no other number. -/
def HoldsNumber (output : Output ℝ) (key : String) (value : ℝ) : Prop :=
  ∀ other, addNumber key other ∈ output ↔ other = value

/-- Wherever the mean of the stored lengths of a direction is written, it is the quotient of the
counters and the running mean, and the extremes written are those of the stored lengths. -/
def View.LengthsAgree (view : View ℝ) (output : Output ℝ) (side : Side) : Prop :=
  ∀ mean, addNumber (side.name ++ "_packet_length_mean") mean ∈ output →
    HoldsNumber output (side.name ++ "_avg_packet_length") mean ∧
    (side.pktLenStats view.pktLen).mean = mean ∧
    ∃ least greatest,
      HoldsNumber output (side.name ++ "_packet_length_min") least ∧
      HoldsNumber output (side.name ++ "_packet_length_max") greatest ∧
      IsLeast { length | length ∈ (view.arrays side.pktLens).map (Nat.cast : Nat → ℝ) } least ∧
      IsGreatest { length | length ∈ (view.arrays side.pktLens).map (Nat.cast : Nat → ℝ) }
        greatest

/-- If the inter-arrival times in the circular buffer fit the temporary buffer, the running mean
and standard deviation written are those of the buffer. -/
def View.IatsAgree (view : View ℝ) (output : Output ℝ) : Prop :=
  1 ≤ (view.seqs .iatSeq).length → (view.seqs .iatSeq).length ≤ view.tempUintBufferSize →
    ∃ mean std,
      HoldsNumber output "iat_mean" mean ∧ HoldsNumber output "iat_sequence_mean" mean ∧
      HoldsNumber output "iat_std" std ∧ HoldsNumber output "iat_sequence_std" std

section Object

variable {cfg : FeatureConfig} {platform : Platform ℝ} {streamType : StreamType}
  {packet : RawPacket} {view : View ℝ}

/-- A number that a group writes is the only one under its key. -/
theorem Group.holdsNumber {group : Group} {key : String} {value : ℝ} (own : key ∈ group.keys)
    (isOn : group.on cfg.toSwitches = true)
    (member : addNumber key value ∈ group.features cfg platform view) :
    HoldsNumber (flowStateComputeFeatures cfg platform streamType packet view) key value := by
  intro other
  refine (Group.mem_flowStateComputeFeatures own).trans ⟨fun found => ?_, fun same => ?_⟩
  · exact Group.number_unique found.2 member
  · exact ⟨isOn, same ▸ member⟩

/-- The mean of a direction is written only if its lengths fit the buffer. -/
theorem fitsTemp_of_mean_mem (side : Side) {mean : ℝ}
    (member : addNumber (side.name ++ "_packet_length_mean") mean ∈
      Group.basicPktLength.features cfg platform view) :
    (view.arrays side.pktLens).length > 0 ∧
      (view.arrays side.pktLens).length ≤ view.tempUintBufferSize := by
  have fits : view.fitsTemp (view.arrays side.pktLens).length = true := by
    have written : side.name ++ "_packet_length_mean" ∈
        Output.keys (Group.basicPktLength.features cfg platform view) :=
      List.mem_map_of_mem (f := Prod.fst) member
    cases side with
    | fwd =>
      exact (@Group.mem_keys_features_iff ℝ _ cfg platform view .basicPktLength _
        (.tail _ (.head _)) _ (by decide)).mp written
    | bwd =>
      exact (@Group.mem_keys_features_iff ℝ _ cfg platform view .basicPktLength _
        (.tail _ (.tail _ (.head _))) _ (by decide)).mp written
  rw [View.fitsTemp, Bool.and_eq_true, decide_eq_true_iff, decide_eq_true_iff] at fits
  exact fits

theorem mem_basicPktLength (side : Side) {feature : String × Json ℝ}
    (member : feature ∈ pktLengthDistribution side.name (view.arrays side.pktLens)
      (side.pktLenStats view.pktLen) view.tempUintBufferSize) :
    feature ∈ Group.basicPktLength.features cfg platform view := by
  cases side with
  | fwd => exact List.mem_append_left _ (List.mem_append_right _ member)
  | bwd => exact List.mem_append_right _ member

/-- The mean and the extremes of a direction, if its lengths fit the buffer. -/
theorem pktLengths_mem (side : Side)
    (fits : (view.arrays side.pktLens).length > 0 ∧
      (view.arrays side.pktLens).length ≤ view.tempUintBufferSize) :
    let features := Group.basicPktLength.features cfg platform view
    addNumber (side.name ++ "_packet_length_mean") (sumUint ℝ (view.arrays side.pktLens) /
        Nat.cast (view.arrays side.pktLens).length) ∈ features ∧
      addNumber (side.name ++ "_packet_length_min") (side.pktLenStats view.pktLen).minVal ∈
        features ∧
      addNumber (side.name ++ "_packet_length_max") (side.pktLenStats view.pktLen).maxVal ∈
        features := by
  refine ⟨mem_basicPktLength side ?_, mem_basicPktLength side ?_, mem_basicPktLength side ?_⟩
  · rw [pktLengthDistribution, if_pos fits]
    exact .head _
  · rw [pktLengthDistribution, if_pos fits]
    exact .tail _ (.tail _ (.head _))
  · rw [pktLengthDistribution, if_pos fits]
    exact .tail _ (.tail _ (.tail _ (.head _)))

/-- The quotient of the counters of a direction. -/
theorem avgPacketLength_mem (side : Side) (counted : side.packets view.counters > 0) :
    addNumber (side.name ++ "_avg_packet_length") (Nat.cast (side.bytes view.counters) /
        Nat.cast (side.packets view.counters)) ∈
      Group.basicRatios.features cfg platform view := by
  cases side with
  | fwd =>
    refine List.mem_of_getElem? (i := 3) ?_
    exact congrArg (fun value => some (addNumber "fwd_avg_packet_length" value))
      (if_pos counted)
  | bwd =>
    refine List.mem_of_getElem? (i := 4) ?_
    exact congrArg (fun value => some (addNumber "bwd_avg_packet_length" value))
      (if_pos counted)

/-- The times are read from the front of the scratch area, where they were written last. -/
theorem take_iatStatsArea {iatSeq : List Nat} {maxLen : Nat} (fits : iatSeq.length ≤ maxLen) :
    (iatStatsArea ℝ iatSeq maxLen).take iatSeq.length =
      iatSeq.map (Nat.cast : Nat → ℝ) := by
  obtain ⟨area_length, -⟩ := bufferAt_iatTempArea (D := ℝ) fits
  have raw_length := length_prepareDoubleBuffer (D := ℝ) iatSeq
  have found := bufferAt_memcpyAt_self (show 0 + (prepareDoubleBuffer ℝ iatSeq).length ≤
    (iatTempArea iatSeq maxLen : List ℝ).length by omega)
  rw [raw_length, prepareDoubleBuffer_eq] at found
  rw [iatStatsArea, prepareDoubleBuffer_eq]
  exact found

/-- The running statistics and those of the circular buffer, if it fits. -/
theorem iatStats_mem (fits : (view.seqs .iatSeq).length > 0 ∧
      (view.seqs .iatSeq).length ≤ view.tempUintBufferSize) :
    let values := (view.seqs .iatSeq).map (Nat.cast : Nat → ℝ)
    let features := Group.iatStats.features cfg platform view
    addNumber "iat_mean" view.iat.iatStats.mean ∈ features ∧
      addNumber "iat_std" (runningStatsStd view.iat.iatStats) ∈ features ∧
      addNumber "iat_sequence_mean" (Moments.mean values) ∈ features ∧
      addNumber "iat_sequence_std" (Real.sqrt (Moments.sampleVariance values)) ∈ features := by
  have read := take_iatStatsArea fits.2
  have length_eq : ((view.seqs .iatSeq).map (Nat.cast : Nat → ℝ)).length =
      (view.seqs .iatSeq).length := List.length_map _
  have sequence : ∀ (index : Nat) {feature}, (iatSequenceFeatures (D := ℝ) (view.seqs .iatSeq)
      view.tempUintBufferSize)[index]? = some feature →
        feature ∈ Group.iatStats.features cfg platform view := fun _ _ found =>
    List.mem_append_right _ (List.mem_of_getElem? found)
  refine ⟨List.mem_append_left _ (.head _), List.mem_append_left _ (.tail _ (.head _)),
    sequence 10 ?_, sequence 11 ?_⟩
  · rw [iatSequenceFeatures, if_pos fits, Moments.mean, length_eq, ← real_sumDouble, ← read]
    rfl
  · rw [iatSequenceFeatures, if_pos fits, ← real_sampleStd, length_eq, ← read]
    rfl

end Object

/-! ### Flows -/

/-- The view keeps three accounts of the packet lengths of each direction, and two of the
inter-arrival times. -/
structure View.Accounts (view : View ℝ) (lengths : Side → List Nat) (iats : List Nat) :
    Prop where
  stored_eq : ∀ side : Side, view.arrays side.pktLens = (lengths side).take 5000
  packets_eq : ∀ side : Side, side.packets view.counters = u64 (lengths side).length
  bytes_eq : ∀ side : Side, side.bytes view.counters = u64 (lengths side).sum
  stats_eq : ∀ side : Side, side.pktLenStats view.pktLen = runningStatsOf ℝ (lengths side)
  lengths_lt : ∀ side, ∀ length ∈ lengths side, length < 2 ^ 32
  iatSeq_eq : view.seqs .iatSeq = iats.rtake 5000
  iatStats_eq : view.iat.iatStats = runningStatsOf ℝ iats
  buffer_le : view.tempUintBufferSize ≤ 512

namespace View.Accounts

variable {cfg : FeatureConfig} {platform : Platform ℝ} {streamType : StreamType}
  {packet : RawPacket} {view : View ℝ} {lengths : Side → List Nat} {iats : List Nat}

theorem lengthsAgree (accounts : view.Accounts lengths iats)
    (ratiosOn : Group.basicRatios.on cfg.toSwitches = true) (side : Side) :
    view.LengthsAgree (flowStateComputeFeatures cfg platform streamType packet view) side := by
  intro mean written
  have keys : side.name ++ "_packet_length_mean" ∈ Group.basicPktLength.keys ∧
      side.name ++ "_packet_length_min" ∈ Group.basicPktLength.keys ∧
      side.name ++ "_packet_length_max" ∈ Group.basicPktLength.keys ∧
      side.name ++ "_avg_packet_length" ∈ Group.basicRatios.keys := by
    cases side <;> decide +kernel
  obtain ⟨meanKey, minKey, maxKey, avgKey⟩ := keys
  obtain ⟨isOn, emitted⟩ := (Group.mem_flowStateComputeFeatures meanKey).mp written
  have fits := fitsTemp_of_mean_mem side emitted
  obtain ⟨meanMem, minMem, maxMem⟩ := @pktLengths_mem cfg platform view side fits
  -- the lengths fit the buffer, so that none of them was left out
  have inside := fits
  rw [accounts.stored_eq side] at inside
  obtain ⟨stored_eq, few⟩ := take_eq_of_fits accounts.buffer_le inside.2
  rw [stored_eq] at inside
  have all_eq := (accounts.stored_eq side).trans stored_eq
  have inRange := accounts.lengths_lt side
  obtain ⟨batch, counted, welford⟩ := real_lengths_mean few inRange
  obtain ⟨least, greatest⟩ := real_lengths_extremes (List.ne_nil_of_length_pos inside.1) inRange
  have mean_eq : mean = Moments.mean ((lengths side).map (Nat.cast : Nat → ℝ)) := by
    rw [← batch, ← all_eq]
    exact Group.number_unique emitted meanMem
  have some : side.packets view.counters > 0 := by
    rw [accounts.packets_eq side, (u64_of_few few inRange).1]
    exact inside.1
  have avgMem := @avgPacketLength_mem cfg platform view side some
  rw [accounts.packets_eq side, accounts.bytes_eq side, counted, ← mean_eq] at avgMem
  refine ⟨Group.holdsNumber avgKey ratiosOn avgMem, ?_, _, _, Group.holdsNumber minKey isOn minMem,
    Group.holdsNumber maxKey isOn maxMem, ?_, ?_⟩
  · rw [accounts.stats_eq side, welford, mean_eq]
  · rw [accounts.stats_eq side, all_eq]
    exact least
  · rw [accounts.stats_eq side, all_eq]
    exact greatest

theorem iatsAgree (accounts : view.Accounts lengths iats)
    (iatsOn : Group.iatStats.on cfg.toSwitches = true) :
    view.IatsAgree (flowStateComputeFeatures cfg platform streamType packet view) := by
  intro some fits
  have keys : "iat_mean" ∈ Group.iatStats.keys ∧ "iat_sequence_mean" ∈ Group.iatStats.keys ∧
      "iat_std" ∈ Group.iatStats.keys ∧ "iat_sequence_std" ∈ Group.iatStats.keys := by
    decide +kernel
  obtain ⟨meanKey, seqMeanKey, stdKey, seqStdKey⟩ := keys
  obtain ⟨meanMem, stdMem, seqMeanMem, seqStdMem⟩ := @iatStats_mem cfg platform view ⟨some, fits⟩
  -- the times fit the buffer, so that none of them was pushed out
  have inside := fits
  rw [accounts.iatSeq_eq] at inside
  obtain ⟨kept_eq, few⟩ := rtake_eq_of_fits accounts.buffer_le inside
  obtain ⟨mean_eq, std_eq⟩ := real_runningStatsOf (few.trans_lt (by norm_num))
  rw [accounts.iatStats_eq, mean_eq] at meanMem
  rw [accounts.iatStats_eq, std_eq] at stdMem
  rw [accounts.iatSeq_eq, kept_eq] at seqMeanMem seqStdMem
  exact ⟨_, _, Group.holdsNumber meanKey iatsOn meanMem,
    Group.holdsNumber seqMeanKey iatsOn seqMeanMem, Group.holdsNumber stdKey iatsOn stdMem,
    Group.holdsNumber seqStdKey iatsOn seqStdMem⟩

end View.Accounts

section Flows

variable {platform : Platform ℝ}

/-- In a flow without allocation failures the accounts are of all packets of the flow. -/
theorem closingView_accounts {cfg : FeatureConfig} (lengthsKept : cfg.needFwdBwdPktLens = true)
    (iatsKept : cfg.needIatSeq = true) (iatsCounted : cfg.enableIatStats = true)
    (streamType : StreamType) (first : RawPacket) (rest : List RawPacket) :
    (closingView cfg platform streamType first rest).Accounts
      (fun side => side.lengths (packetInfos cfg streamType (first :: rest)))
      (timedGaps (packetInfos cfg streamType (first :: rest))) := by
  have counters := flowFields_sides cfg platform streamType first rest
  have lengths_length : ∀ (side : Side) infos,
      (side.lengths infos).length = (side.of infos).length := fun _ _ => List.length_map _
  exact
    { stored_eq := closingView_pktLens cfg platform streamType first rest lengthsKept
      packets_eq := fun side => (counters side).1.trans (by rw [lengths_length])
      bytes_eq := fun side => (counters side).2.1
      stats_eq := fun side => by
        have stats_eq := flowFields_pktLenStats cfg platform streamType first rest side
        rwa [if_pos lengthsKept] at stats_eq
      lengths_lt := fun side => List.forall_mem_map.mpr fun info member => by
        obtain ⟨packet, -, rfl⟩ := List.mem_map.mp (List.mem_of_mem_filter member)
        exact (packetInfo_inRange cfg streamType packet).pktLen_lt
      iatSeq_eq := by
        rw [closingView_seqs, flowContents_seqs, flowAccesses_iatSeq, if_pos iatsKept]
      iatStats_eq := by
        have stats_eq := (flowFields_iatSampled cfg platform streamType first rest).stats_eq
        rwa [if_pos iatsCounted] at stats_eq
      buffer_le := Nat.min_le_right _ _ }

/-- The means of a flow agree, however many packets it has and whatever these are. -/
theorem flowRun_meansAgree {thresholds : Thresholds} {switches : Switches}
    (ratiosOn : Group.basicRatios.on switches = true)
    (lengthsOn : Group.basicPktLength.on switches = true)
    (iatsOn : Group.iatStats.on switches = true) (streamType : StreamType) (first : RawPacket)
    (rest : List RawPacket) :
    let cfg := featConfigRead thresholds switches
    ∃ flow, flowRun cfg platform streamType (allocated (first :: rest)) = some flow ∧
      ∀ closing : RawPacket,
        let output := flowStateComputeFeatures cfg platform streamType closing flow.view
        (∀ side, flow.view.LengthsAgree output side) ∧ flow.view.IatsAgree output := by
  intro cfg
  have lengthsSwitch : switches.enableBasicPktLength = true := (Bool.and_eq_true_iff.mp lengthsOn).2
  have iatsSwitch : switches.enableIatStats = true := (Bool.and_eq_true_iff.mp iatsOn).2
  have lengthsKept : cfg.needFwdBwdPktLens = true := by
    show (compoundFlags switches).needFwdBwdPktLens = true
    simp only [compoundFlags, lengthsSwitch, Bool.true_or]
  have iatsKept : cfg.needIatSeq = true := by
    show (compoundFlags switches).needIatSeq = true
    simp only [compoundFlags, iatsSwitch, Bool.true_or]
  obtain ⟨flow, run, found⟩ := Option.map_eq_some_iff.mp
    (flowRun_view cfg platform streamType first rest)
  have accounts := @closingView_accounts platform cfg lengthsKept iatsKept iatsSwitch streamType
    first rest
  rw [← found] at accounts
  exact ⟨flow, run, fun closing => ⟨accounts.lengthsAgree ratiosOn, accounts.iatsAgree iatsOn⟩⟩

/-- Two packets of 100 and 200 bytes. -/
theorem flowRun_meansAgree_two : ∃ flow : FlowFeatureState ℝ,
    flowRun defaultConfig (barePlatform ℝ) .tcp
        (allocated [barePacket 1 1 100, barePacket 2 1 200]) = some flow ∧
      let output := flowStateComputeFeatures defaultConfig (barePlatform ℝ) .tcp
        (barePacket 3 1 0) flow.view
      addNumber "fwd_packet_length_mean" (sumUint ℝ [100, 200] / Nat.cast 2) ∈ output ∧
        HoldsNumber output "fwd_avg_packet_length" (sumUint ℝ [100, 200] / Nat.cast 2) ∧
        flow.view.IatsAgree output := by
  obtain ⟨flow, run, agree⟩ := @flowRun_meansAgree (barePlatform ℝ) defaultThresholds
    defaultSwitches rfl rfl rfl .tcp (barePacket 1 1 100) [barePacket 2 1 200]
  obtain ⟨lengths, iats⟩ := agree (barePacket 3 1 0)
  have view_eq := flowRun_view (D := ℝ) defaultConfig (barePlatform ℝ) .tcp (barePacket 1 1 100)
    [barePacket 2 1 200]
  rw [show flowRun defaultConfig (barePlatform ℝ) .tcp _ = some flow from run] at view_eq
  have found : flow.view = _ := Option.some.inj view_eq
  have stored : flow.view.arrays .fwdPktLens = [100, 200] := by
    rw [found]
    refine (closingView_pktLens defaultConfig (barePlatform ℝ) .tcp _ _ rfl .fwd).trans ?_
    decide
  have buffer : flow.view.tempUintBufferSize = 64 := by
    rw [found]
    decide
  have fits : (flow.view.arrays .fwdPktLens).length > 0 ∧
      (flow.view.arrays .fwdPktLens).length ≤ flow.view.tempUintBufferSize := by
    rw [stored, buffer]
    decide
  obtain ⟨meanMem, -, -⟩ := @pktLengths_mem defaultConfig (barePlatform ℝ) flow.view .fwd fits
  rw [show flow.view.arrays Side.fwd.pktLens = [100, 200] from stored] at meanMem
  have meanKey : "fwd_packet_length_mean" ∈ Group.basicPktLength.keys := by decide +kernel
  have written : addNumber "fwd_packet_length_mean" (sumUint ℝ [100, 200] / Nat.cast 2) ∈
      flowStateComputeFeatures defaultConfig (barePlatform ℝ) .tcp (barePacket 3 1 0)
        flow.view := (Group.mem_flowStateComputeFeatures meanKey).mpr ⟨rfl, meanMem⟩
  exact ⟨flow, run, written, (lengths .fwd _ written).1, iats⟩

end Flows

end TiFeatures
