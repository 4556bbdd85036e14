/-
This file proves when the mean, the minimum and the maximum that are written for
a statistic are in order. In exact arithmetic a running statistic is in order
once it has a sample, and out of order before. The payload of a direction is in
order unless its empty packets pull the mean below the least payload.
-/

import TiFeatures.Arithmetic
import TiFeatures.Keys
import TiFeatures.Samples

namespace TiFeatures

/-! ### Running means -/

section RunningMean

variable {K : Type*} [Field K] [LinearOrder K] [IsStrictOrderedRing K]

/-- Moving a mean toward a value by a fraction of the distance does not go below both. -/
theorem le_runningMean {lowest mean value : K} (count : Nat) (mean_ge : lowest ≤ mean)
    (value_ge : lowest ≤ value) : lowest ≤ mean + (value - mean) / count := by
  rcases le_total mean value with up | down
  · exact mean_ge.trans
      (le_add_of_nonneg_right (div_nonneg (sub_nonneg.mpr up) (Nat.cast_nonneg count)))
  · cases count with
    | zero => rwa [Nat.cast_zero, div_zero, add_zero]
    | succ count =>
      have positive : (1 : K) ≤ (count + 1 : Nat) := Nat.one_le_cast.mpr (Nat.succ_pos count)
      have moved : (mean - value) / (count + 1 : Nat) ≤ mean - value :=
        div_le_self (sub_nonneg.mpr down) positive
      rw [← neg_sub mean value, neg_div, ← sub_eq_add_neg]
      linarith

/-- Moving a mean toward a value by a fraction of the distance does not go above both. -/
theorem runningMean_le {highest mean value : K} (count : Nat) (mean_le : mean ≤ highest)
    (value_le : value ≤ highest) : mean + (value - mean) / count ≤ highest := by
  have mirrored := le_runningMean count (neg_le_neg mean_le) (neg_le_neg value_le)
  rw [neg_sub_neg, ← neg_sub value mean, neg_div, ← neg_add] at mirrored
  exact neg_le_neg_iff.mp mirrored

end RunningMean

/-! ### Ordered statistics -/

theorem real_blt_iff (first second : ℝ) : Double.blt first second = true ↔ first < second :=
  @decide_eq_true_iff _ (Classical.propDecidable _)

/-- The mean of a statistic lies between its minimum and its maximum. -/
structure RunningStats.Ordered (stats : RunningStats ℝ) : Prop where
  minVal_le : stats.minVal ≤ stats.mean
  le_maxVal : stats.mean ≤ stats.maxVal

section Update

variable (stats : RunningStats ℝ) (sample : ℝ)

theorem runningStatsUpdate_minVal_le_iff (value : ℝ) :
    (runningStatsUpdate stats sample).minVal ≤ value ↔ stats.minVal ≤ value ∨ sample ≤ value := by
  unfold runningStatsUpdate
  dsimp only
  split
  · rename_i below
    exact ⟨Or.inr, Or.rec ((real_blt_iff _ _).mp below).le.trans id⟩
  · rename_i notBelow
    have above := not_lt.mp fun below => notBelow ((real_blt_iff _ _).mpr below)
    exact ⟨Or.inl, Or.rec id above.trans⟩

theorem le_runningStatsUpdate_maxVal_iff (value : ℝ) :
    value ≤ (runningStatsUpdate stats sample).maxVal ↔ value ≤ stats.maxVal ∨ value ≤ sample := by
  unfold runningStatsUpdate
  dsimp only
  split
  · rename_i above
    exact ⟨Or.inr, Or.rec (fun within => within.trans ((real_blt_iff _ _).mp above).le) id⟩
  · rename_i notAbove
    have below := not_lt.mp fun above => notAbove ((real_blt_iff _ _).mpr above)
    exact ⟨Or.inl, Or.rec id fun within => within.trans below⟩

/-- Another sample keeps a statistic in order. -/
theorem RunningStats.Ordered.update {stats : RunningStats ℝ} (ordered : stats.Ordered) :
    (runningStatsUpdate stats sample).Ordered where
  minVal_le :=
    le_runningMean (u64 (stats.count + 1))
      ((runningStatsUpdate_minVal_le_iff stats sample _).mpr (.inl ordered.minVal_le))
      ((runningStatsUpdate_minVal_le_iff stats sample _).mpr (.inr le_rfl))
  le_maxVal :=
    runningMean_le (u64 (stats.count + 1))
      ((le_runningStatsUpdate_maxVal_iff stats sample _).mpr (.inl ordered.le_maxVal))
      ((le_runningStatsUpdate_maxVal_iff stats sample _).mpr (.inr le_rfl))

/-- The first sample puts a statistic in order: it is the mean. -/
theorem runningStatsUpdate_init_ordered :
    (runningStatsUpdate runningStatsInit sample).Ordered := by
  have mean_eq : (runningStatsUpdate runningStatsInit sample).mean = sample := by
    show (0 : ℝ) + (sample - 0) / (Nat.cast 1 : ℝ) = sample
    rw [Nat.cast_one, zero_add, sub_zero, div_one]
  constructor
  · rw [mean_eq]
    exact (runningStatsUpdate_minVal_le_iff runningStatsInit sample _).mpr (.inr le_rfl)
  · rw [mean_eq]
    exact (le_runningStatsUpdate_maxVal_iff runningStatsInit sample _).mpr (.inr le_rfl)

theorem runningStatsInit_not_ordered : ¬ (runningStatsInit : RunningStats ℝ).Ordered := by
  intro ordered
  have below : (Nat.cast (10 ^ 18) : ℝ) ≤ 0 := ordered.minVal_le
  exact absurd below (not_le.mpr (Nat.cast_pos.mpr (by norm_num)))

end Update

/-- A statistic is in order if it has a sample. -/
theorem runningStatsOf_ordered_iff (samples : List Nat) :
    (runningStatsOf ℝ samples).Ordered ↔ samples ≠ [] := by
  induction samples using List.reverseRecOn with
  | nil => exact iff_of_false runningStatsInit_not_ordered fun nonempty => nonempty rfl
  | append_singleton samples sample inductionHypothesis =>
    refine iff_of_true ?_ (List.append_ne_nil_of_right_ne_nil _ (List.cons_ne_nil _ _))
    rw [runningStatsOf_concat]
    cases samples with
    | nil => exact runningStatsUpdate_init_ordered _
    | cons first rest => exact (inductionHypothesis.mpr (List.cons_ne_nil _ _)).update _

/-- The minimum is within a bound if some sample is, or the value it starts from. -/
theorem foldl_runningStatsUpdate_minVal_le_iff (samples : List ℝ) (stats : RunningStats ℝ)
    (value : ℝ) : (samples.foldl runningStatsUpdate stats).minVal ≤ value ↔
      stats.minVal ≤ value ∨ ∃ sample ∈ samples, sample ≤ value := by
  induction samples generalizing stats with
  | nil => simp only [List.foldl_nil, List.not_mem_nil, false_and, exists_false, or_false]
  | cons sample samples inductionHypothesis =>
    rw [List.foldl_cons, inductionHypothesis, runningStatsUpdate_minVal_le_iff, or_assoc]
    simp only [List.mem_cons, or_and_right, exists_or, exists_eq_left]

/-- The maximum is above a bound if some sample is, or the value it starts from. -/
theorem le_foldl_runningStatsUpdate_maxVal_iff (samples : List ℝ) (stats : RunningStats ℝ)
    (value : ℝ) : value ≤ (samples.foldl runningStatsUpdate stats).maxVal ↔
      value ≤ stats.maxVal ∨ ∃ sample ∈ samples, value ≤ sample := by
  induction samples generalizing stats with
  | nil => simp only [List.foldl_nil, List.not_mem_nil, false_and, exists_false, or_false]
  | cons sample samples inductionHypothesis =>
    rw [List.foldl_cons, inductionHypothesis, le_runningStatsUpdate_maxVal_iff, or_assoc]
    simp only [List.mem_cons, or_and_right, exists_or, exists_eq_left]

/-- A running statistic of integers is one of their values. -/
theorem runningStatsOf_eq_foldl (D : Type) [Double D] (samples : List Nat) :
    runningStatsOf D samples =
      (samples.map fun sample : Nat => (sample : D)).foldl runningStatsUpdate runningStatsInit := by
  rw [List.foldl_map]
  rfl

theorem runningStatsOf_minVal_le_iff (samples : List Nat) (value : ℝ) :
    (runningStatsOf ℝ samples).minVal ≤ value ↔
      (Nat.cast (10 ^ 18) : ℝ) ≤ value ∨ ∃ sample ∈ samples, (Nat.cast sample : ℝ) ≤ value := by
  rw [runningStatsOf_eq_foldl, foldl_runningStatsUpdate_minVal_le_iff]
  simp only [List.mem_map, exists_exists_and_eq_and]
  rfl

theorem le_runningStatsOf_maxVal_iff (samples : List Nat) (value : ℝ) :
    value ≤ (runningStatsOf ℝ samples).maxVal ↔
      value ≤ -(Nat.cast (10 ^ 18) : ℝ) ∨ ∃ sample ∈ samples, value ≤ (Nat.cast sample : ℝ) := by
  rw [runningStatsOf_eq_foldl, le_foldl_runningStatsUpdate_maxVal_iff]
  simp only [List.mem_map, exists_exists_and_eq_and]
  rfl

/-- The count is the number of samples, kept in 64 bits. -/
theorem foldl_runningStatsUpdate_count [Double D] (samples : List D) :
    (samples.foldl runningStatsUpdate runningStatsInit).count = u64 samples.length := by
  induction samples using List.reverseRecOn with
  | nil => rfl
  | append_singleton samples sample inductionHypothesis =>
    rw [List.foldl_concat, List.length_append]
    show u64 ((samples.foldl runningStatsUpdate runningStatsInit).count + 1) = _
    rw [inductionHypothesis, u64_add_u64]
    rfl

theorem runningStatsOf_count (D : Type) [Double D] (samples : List Nat) :
    (runningStatsOf D samples).count = u64 samples.length := by
  rw [runningStatsOf_eq_foldl, foldl_runningStatsUpdate_count, List.length_map]

/-! ### The values written -/

/-- The name that the keys of a statistic begin with. -/
def Summary.name : Summary → String
  | .iat => "iat"
  | .fwdIat => "fwd_iat"
  | .bwdIat => "bwd_iat"
  | .fwdPayload => "fwd_payload"
  | .bwdPayload => "bwd_payload"
  | .payloadSize => "payload_size"
  | .payloadByte => "payload_byte"
  | .tcpWindow => "tcp_window"
  | .ipTtl => "ip_ttl"
  | .ipTos => "ip_tos"
  | .udpLength => "udp_length"

/-- The group that writes a statistic. -/
def Summary.group : Summary → Group
  | .iat => .iatStats
  | .fwdIat | .bwdIat => .iatFwdBwd
  | .fwdPayload | .bwdPayload => .basicPayloadDir
  | .payloadSize => .payloadSize
  | .payloadByte => .payloadHist
  | .tcpWindow => .protocolTcpWindow
  | .ipTtl | .ipTos => .protocolIp
  | .udpLength => .protocolUdp

/-- The direction whose payload a statistic is about. -/
def Summary.payloadSide : Summary → Option Side
  | .fwdPayload => some .fwd
  | .bwdPayload => some .bwd
  | _ => none

section Written

variable {D : Type} [Double D]

/-- The mean that is written for a statistic. The one of a direction is taken over all its
packets, and written if there are any. -/
def Summary.mean (fields : Fields D) (summary : Summary) : Option D :=
  match summary.payloadSide with
  | some side =>
    if side.packets fields.counters > 0 then
      some ((side.payloadBytes fields.counters : D) / (side.packets fields.counters : D))
    else none
  | none => some (summary.stats fields).mean

/-- The minimum that is written for a statistic. -/
def Summary.least (fields : Fields D) (summary : Summary) : D :=
  match summary.payloadSide with
  | some _ => if (summary.stats fields).count > 0 then (summary.stats fields).minVal else 0
  | none => (summary.stats fields).minVal

/-- The maximum that is written for a statistic. -/
def Summary.greatest (fields : Fields D) (summary : Summary) : D :=
  match summary.payloadSide with
  | some _ => if (summary.stats fields).count > 0 then (summary.stats fields).maxVal else 0
  | none => (summary.stats fields).maxVal

variable (cfg : FeatureConfig) (platform : Platform D) (view : View D)

/-- The group of a statistic writes its mean, minimum and maximum. -/
theorem Summary.written (summary : Summary) :
    (∀ mean, summary.mean view.toFields = some mean →
      addNumber (summary.name ++ "_mean") mean ∈ summary.group.features cfg platform view) ∧
      addNumber (summary.name ++ "_min") (summary.least view.toFields) ∈
        summary.group.features cfg platform view ∧
      addNumber (summary.name ++ "_max") (summary.greatest view.toFields) ∈
        summary.group.features cfg platform view := by
  have running : ∀ (name : String) (stats : RunningStats D) (features : Output D),
      runningStatsFeatures name stats ⊆ features →
      (∀ mean, some stats.mean = some mean → addNumber (name ++ "_mean") mean ∈ features) ∧
        addNumber (name ++ "_min") stats.minVal ∈ features ∧
        addNumber (name ++ "_max") stats.maxVal ∈ features := by
    intro name stats features subset
    refine ⟨?_, subset (.tail _ (.tail _ (.head _))),
      subset (.tail _ (.tail _ (.tail _ (.head _))))⟩
    rintro mean ⟨⟩
    exact subset (.head _)
  have direction : ∀ (dir : String) (stats : RunningStats D) (iats : List Nat) (maxLen : Nat),
      let features := iatDirFeatures dir stats iats maxLen
      (∀ mean, some stats.mean = some mean → addNumber (dir ++ "_iat_mean") mean ∈ features) ∧
        addNumber (dir ++ "_iat_min") stats.minVal ∈ features ∧
        addNumber (dir ++ "_iat_max") stats.maxVal ∈ features := by
    intro dir stats iats maxLen
    refine ⟨?_, .tail _ (.tail _ (.tail _ (.head _))),
      .tail _ (.tail _ (.tail _ (.tail _ (.head _))))⟩
    rintro mean ⟨⟩
    exact .head _
  have payload : ∀ (dir : String) (bytes packets : Nat) (stats : RunningStats D),
      let features := payloadDirTotals dir bytes packets stats
      (∀ mean, (if packets > 0 then some ((bytes : D) / (packets : D)) else none) = some mean →
        addNumber (dir ++ "_payload_mean") mean ∈ features) ∧
        addNumber (dir ++ "_payload_min") (if stats.count > 0 then stats.minVal else 0) ∈
          features ∧
        addNumber (dir ++ "_payload_max") (if stats.count > 0 then stats.maxVal else 0) ∈
          features := by
    intro dir bytes packets stats
    refine ⟨fun mean some_eq => ?_, List.mem_append_right _ (.tail _ (.head _)),
      List.mem_append_right _ (.tail _ (.tail _ (.head _)))⟩
    split at some_eq
    · rename_i positive
      obtain rfl := Option.some.inj some_eq
      rw [payloadDirTotals, if_pos positive]
      exact List.mem_append_left _ (List.mem_append_right _ (.head _))
    · cases some_eq
  cases summary with
  | iat =>
    refine ⟨?_, .tail _ (.tail _ (.head _)), .tail _ (.tail _ (.tail _ (.head _)))⟩
    rintro mean ⟨⟩
    exact .head _
  | fwdIat =>
    obtain ⟨mean, least, greatest⟩ := direction "fwd" view.iat.fwdIat.fwd (view.arrays .fwdIats)
      view.tempUintBufferSize
    exact ⟨fun value some_eq => List.mem_append_left _ (mean value some_eq),
      List.mem_append_left _ least, List.mem_append_left _ greatest⟩
  | bwdIat =>
    obtain ⟨mean, least, greatest⟩ := direction "bwd" view.iat.bwdIat.bwd (view.arrays .bwdIats)
      view.tempUintBufferSize
    exact ⟨fun value some_eq => List.mem_append_right _ (mean value some_eq),
      List.mem_append_right _ least, List.mem_append_right _ greatest⟩
  | fwdPayload =>
    obtain ⟨mean, least, greatest⟩ := payload "fwd" view.counters.fwdPayloadBytes
      view.counters.fwdPackets view.payloadDir.fwdPayloadStats
    have inside : ∀ feature, feature ∈ payloadDirTotals "fwd" view.counters.fwdPayloadBytes
        view.counters.fwdPackets view.payloadDir.fwdPayloadStats →
        feature ∈ Group.basicPayloadDir.features cfg platform view := fun feature member =>
      List.mem_append_left _ (List.mem_append_left _ (List.mem_append_left _ member))
    exact ⟨fun value some_eq => inside _ (mean value some_eq), inside _ least,
      inside _ greatest⟩
  | bwdPayload =>
    obtain ⟨mean, least, greatest⟩ := payload "bwd" view.counters.bwdPayloadBytes
      view.counters.bwdPackets view.payloadDir.bwdPayloadStats
    have inside : ∀ feature, feature ∈ payloadDirTotals "bwd" view.counters.bwdPayloadBytes
        view.counters.bwdPackets view.payloadDir.bwdPayloadStats →
        feature ∈ Group.basicPayloadDir.features cfg platform view := fun feature member =>
      List.mem_append_left _ (List.mem_append_left _ (List.mem_append_right _ member))
    exact ⟨fun value some_eq => inside _ (mean value some_eq), inside _ least,
      inside _ greatest⟩
  | payloadSize =>
    exact running _ _ _ fun _ member => List.mem_append_left _ (List.mem_append_left _ member)
  | payloadByte =>
    exact running _ _ _ fun _ member => List.mem_append_left _ (List.mem_append_right _ member)
  | tcpWindow => exact running _ _ _ fun _ member => List.mem_append_left _ member
  | ipTtl =>
    exact running _ _ _ fun _ member => List.mem_append_left _ (List.mem_append_left _
      (List.mem_append_left _ (List.mem_append_left _ member)))
  | ipTos =>
    exact running _ _ _ fun _ member => List.mem_append_left _ (List.mem_append_left _
      (List.mem_append_left _ (List.mem_append_right _ member)))
  | udpLength => exact running _ _ _ fun _ member => List.mem_append_left _ member

variable {cfg platform view}

/-- The mean of a direction without packets is not written. -/
theorem Summary.mean_absent {summary : Summary} (absent : summary.mean view.toFields = none)
    (value : D) :
    addNumber (summary.name ++ "_mean") value ∉ summary.group.features cfg platform view := by
  intro member
  have written : summary.name ++ "_mean" ∈
      Output.keys (summary.group.features cfg platform view) :=
    List.mem_map_of_mem (f := Prod.fst) member
  cases summary with
  | fwdPayload =>
    have inside : ⟨fun view => view.counters.fwdPackets > 0, ["fwd_payload_mean"]⟩ ∈
        (Group.basicPayloadDir.sections : List (KeySection D)) := .tail _ (.head _)
    have shown := (Group.mem_keys_features_iff inside (.head _)).mp written
    cases absent.symm.trans (if_pos (of_decide_eq_true shown))
  | bwdPayload =>
    have inside : ⟨fun view => view.counters.bwdPackets > 0, ["bwd_payload_mean"]⟩ ∈
        (Group.basicPayloadDir.sections : List (KeySection D)) :=
      .tail _ (.tail _ (.tail _ (.tail _ (.head _))))
    have shown := (Group.mem_keys_features_iff inside (.head _)).mp written
    cases absent.symm.trans (if_pos (of_decide_eq_true shown))
  | _ => cases absent

/-- A group writes one number under each of its keys. -/
theorem Group.number_unique {group : Group} {key : String} {first second : D}
    (member : addNumber key first ∈ group.features cfg platform view)
    (otherMember : addNumber key second ∈ group.features cfg platform view) : first = second :=
  Json.num.inj (Group.value_unique member otherMember)

/-- The group of a statistic writes one mean, one minimum and one maximum. -/
theorem Summary.mem_features (summary : Summary) (value : D) :
    (addNumber (summary.name ++ "_mean") value ∈ summary.group.features cfg platform view ↔
        summary.mean view.toFields = some value) ∧
      (addNumber (summary.name ++ "_min") value ∈ summary.group.features cfg platform view ↔
        summary.least view.toFields = value) ∧
      (addNumber (summary.name ++ "_max") value ∈ summary.group.features cfg platform view ↔
        summary.greatest view.toFields = value) := by
  obtain ⟨mean, least, greatest⟩ := summary.written cfg platform view
  refine ⟨⟨fun member => ?_, mean value⟩, ⟨fun member => ?_, fun same => same ▸ least⟩,
    ⟨fun member => ?_, fun same => same ▸ greatest⟩⟩
  · cases found : summary.mean view.toFields with
    | none => exact absurd member (Summary.mean_absent found value)
    | some other =>
      exact congrArg some (Group.number_unique (mean other found) member)
  · exact Group.number_unique least member
  · exact Group.number_unique greatest member

/-- The keys of a statistic belong to its group. -/
theorem Summary.key_mem (summary : Summary) {suffix : String}
    (known : suffix ∈ ["_mean", "_min", "_max"]) :
    summary.name ++ suffix ∈ summary.group.keys := by
  have all : ∀ suffix ∈ ["_mean", "_min", "_max"],
      summary.name ++ suffix ∈ summary.group.keys := by
    cases summary <;> decide +kernel
  exact all suffix known

end Written

/-! ### The payload of a direction -/

/-- The payload counters of the packets of a direction, 64 bits wide, allow for an order: if some
payload has been counted, the mean over all packets is at least one of the sizes and at most one of
them. -/
def PayloadCovered (infos : List PacketInfo) : Prop :=
  let packets := u64 infos.length
  let bytes := u64 (infos.map PacketInfo.payloadLen).sum
  let sizes := payloadSizes infos
  packets > 0 →
    if u64 sizes.length > 0 then
      (∃ size ∈ sizes, size * packets ≤ bytes) ∧ ∃ size ∈ sizes, bytes ≤ size * packets
    else bytes = 0

/-- The payload of a direction is in order if its counters allow for it. -/
theorem payload_ordered_iff {infos : List PacketInfo}
    (ranges : ∀ info ∈ infos, info.payloadLen < 2 ^ 32) :
    let packets := u64 infos.length
    let bytes := u64 (infos.map PacketInfo.payloadLen).sum
    let stats := runningStatsOf ℝ (payloadSizes infos)
    (packets > 0 →
      (if stats.count > 0 then stats.minVal else 0) ≤ (Nat.cast bytes / Nat.cast packets : ℝ) ∧
        (Nat.cast bytes / Nat.cast packets : ℝ) ≤ if stats.count > 0 then stats.maxVal else 0) ↔
      PayloadCovered infos := by
  intro packets bytes stats
  refine forall_congr' fun positive => ?_
  have denominator : (0 : ℝ) < Nat.cast packets := Nat.cast_pos.mpr positive
  have nonneg : (0 : ℝ) ≤ Nat.cast bytes / Nat.cast packets :=
    div_nonneg (Nat.cast_nonneg bytes) denominator.le
  have count_eq : stats.count = u64 (payloadSizes infos).length := runningStatsOf_count ℝ _
  rw [count_eq]
  by_cases counted : u64 (payloadSizes infos).length > 0
  · simp only [if_pos counted]
    refine and_congr ?_ ?_
    · have within : ∀ size : Nat, (Nat.cast size : ℝ) ≤ Nat.cast bytes / Nat.cast packets ↔
          size * packets ≤ bytes := by
        intro size
        rw [le_div_iff₀ denominator, ← Nat.cast_mul, Nat.cast_le]
      rw [runningStatsOf_minVal_le_iff]
      simp only [within]
      refine or_iff_right_of_imp fun large => ?_
      obtain ⟨size, member⟩ := List.exists_mem_of_ne_nil (payloadSizes infos) fun empty => by
        rw [empty] at counted
        exact absurd counted (by decide)
      refine ⟨size, member, (Nat.mul_le_mul_right packets ?_).trans large⟩
      obtain ⟨info, inside, rfl⟩ := List.mem_map.mp (List.mem_of_mem_filter member)
      exact (ranges info inside).le.trans (by norm_num)
    · have within : ∀ size : Nat, Nat.cast bytes / Nat.cast packets ≤ (Nat.cast size : ℝ) ↔
          bytes ≤ size * packets := by
        intro size
        rw [div_le_iff₀ denominator, ← Nat.cast_mul, Nat.cast_le]
      rw [le_runningStatsOf_maxVal_iff]
      simp only [within]
      refine or_iff_right_of_imp fun negative => ?_
      have start : (0 : ℝ) < Nat.cast (10 ^ 18) := Nat.cast_pos.mpr (by norm_num)
      exact absurd (nonneg.trans negative) (not_le.mpr (neg_neg_of_pos start))
  · simp only [if_neg counted]
    rw [div_le_iff₀ denominator, zero_mul, and_iff_right nonneg]
    exact Nat.cast_nonpos

theorem sum_map_le {infos : List PacketInfo} {amount : PacketInfo → Nat} {bound : Nat}
    (within : ∀ info ∈ infos, amount info ≤ bound) :
    (infos.map amount).sum ≤ infos.length * bound := by
  have total := List.sum_le_card_nsmul (infos.map amount) bound (List.forall_mem_map.mpr within)
  rwa [List.length_map, smul_eq_mul] at total

/-- As long as the counters do not wrap, the payload of a direction is out of order only if every
payload that is not empty is larger than the mean. -/
theorem payloadCovered_iff {infos : List PacketInfo} (few : infos.length ≤ 2 ^ 32)
    (ranges : ∀ info ∈ infos, info.payloadLen < 2 ^ 32) :
    PayloadCovered infos ↔ payloadSizes infos = [] ∨
      ∃ size ∈ payloadSizes infos, size * infos.length ≤ (infos.map PacketInfo.payloadLen).sum := by
  have sizes_le : (payloadSizes infos).length ≤ infos.length :=
    (List.length_filter_le _ _).trans_eq (List.length_map _)
  have bytes_le : (infos.map PacketInfo.payloadLen).sum ≤ infos.length * (2 ^ 32 - 1) :=
    sum_map_le fun info member => Nat.le_pred_of_lt (ranges info member)
  rw [PayloadCovered, u64_of_lt (show infos.length < 2 ^ 64 by omega),
    u64_of_lt (show (payloadSizes infos).length < 2 ^ 64 by omega),
    u64_of_lt (show (infos.map PacketInfo.payloadLen).sum < 2 ^ 64 by omega)]
  have kept : ∀ info ∈ infos, info.payloadLen > 0 → info.payloadLen ∈ payloadSizes infos :=
    fun info member sent => List.mem_filter.mpr ⟨List.mem_map_of_mem member, decide_eq_true sent⟩
  by_cases empty : payloadSizes infos = []
  · refine iff_of_true (fun _ => ?_) (.inl empty)
    have none : (infos.map PacketInfo.payloadLen).sum ≤ infos.length * 0 := by
      refine sum_map_le fun info member => Nat.le_zero.mpr (Nat.eq_zero_of_not_pos fun sent => ?_)
      exact List.ne_nil_of_mem (kept info member sent) empty
    rw [if_neg (by rw [empty]; exact Nat.lt_irrefl 0)]
    exact Nat.le_zero.mp (none.trans_eq (Nat.mul_zero _))
  · have counted := List.length_pos_of_ne_nil empty
    have positive : infos.length > 0 := counted.trans_le sizes_le
    obtain ⟨largest, member, largest_ge⟩ := (payloadSizes infos).toFinset.exists_max_image id
      ((List.toFinset_nonempty_iff _).mpr empty)
    have bounded : (infos.map PacketInfo.payloadLen).sum ≤ infos.length * largest := by
      refine sum_map_le fun info inside => ?_
      rcases Nat.eq_zero_or_pos info.payloadLen with zero | sent
      · rw [zero]
        exact Nat.zero_le _
      · exact largest_ge _ (List.mem_toFinset.mpr (kept info inside sent))
    simp only [if_pos counted, empty, false_or]
    refine ⟨fun covered => (covered positive).1, fun within _ => ⟨within, ?_⟩⟩
    exact ⟨largest, List.mem_toFinset.mp member, bounded.trans_eq (Nat.mul_comm _ _)⟩

/-! ### Flows -/

/-- The mean, the minimum and the maximum that an object holds for a statistic are in order. -/
def Summary.Ordered (output : Output ℝ) (summary : Summary) : Prop :=
  ∀ mean least greatest, addNumber (summary.name ++ "_mean") mean ∈ output →
    addNumber (summary.name ++ "_min") least ∈ output →
    addNumber (summary.name ++ "_max") greatest ∈ output → least ≤ mean ∧ mean ≤ greatest

/-- The packets let a statistic be in order: it collects a sample or, for the payload of a
direction, the counters allow for an order. -/
def Summary.Filled (cfg : FeatureConfig) (infos : List PacketInfo) (summary : Summary) : Prop :=
  match summary.payloadSide with
  | some side => PayloadCovered (side.of infos)
  | none => summary.gate.on cfg = true ∧ summary.samples infos ≠ []

section Flows

variable {cfg : FeatureConfig} {platform : Platform ℝ} {streamType : StreamType}

/-- The object is in order for a statistic if its group is off or what the group writes is in
order. -/
theorem Summary.ordered_iff {packet : RawPacket} {view : View ℝ} (summary : Summary) :
    summary.Ordered (flowStateComputeFeatures cfg platform streamType packet view) ↔
      (summary.group.on cfg.toSwitches = true →
        ∀ mean, summary.mean view.toFields = some mean →
          summary.least view.toFields ≤ mean ∧ mean ≤ summary.greatest view.toFields) := by
  have written : ∀ suffix ∈ ["_mean", "_min", "_max"], ∀ value,
      addNumber (summary.name ++ suffix) value ∈
          flowStateComputeFeatures cfg platform streamType packet view ↔
        summary.group.on cfg.toSwitches = true ∧
          addNumber (summary.name ++ suffix) value ∈
            summary.group.features cfg platform view := fun suffix known value =>
    Group.mem_flowStateComputeFeatures (summary.key_mem known)
  have features : ∀ value,
      (addNumber (summary.name ++ "_mean") value ∈ summary.group.features cfg platform view ↔
          summary.mean view.toFields = some value) ∧
        (addNumber (summary.name ++ "_min") value ∈ summary.group.features cfg platform view ↔
          summary.least view.toFields = value) ∧
        (addNumber (summary.name ++ "_max") value ∈ summary.group.features cfg platform view ↔
          summary.greatest view.toFields = value) := fun value => summary.mem_features value
  simp only [Summary.Ordered, written _ (.head _), written _ (.tail _ (.head _)),
    written _ (.tail _ (.tail _ (.head _))), features]
  constructor
  · exact fun ordered isOn mean found => ordered mean _ _ ⟨isOn, found⟩ ⟨isOn, rfl⟩ ⟨isOn, rfl⟩
  · rintro ordered mean _ _ ⟨isOn, found⟩ ⟨-, rfl⟩ ⟨-, rfl⟩
    exact ordered isOn mean found

variable {thresholds : Thresholds} {switches : Switches}

/-- The payload statistics of a direction are in order if the counters of its packets allow for
an order. -/
theorem payloadSide_ordered_iff (collected : cfg.needPayloadDir = true) (first : RawPacket)
    (rest : List RawPacket) (side : Side) :
    let fields := flowFields cfg platform streamType first rest
    let stats := side.payloadStats fields.payloadDir
    (∀ mean, (if side.packets fields.counters > 0 then
          some (Nat.cast (side.payloadBytes fields.counters) /
            Nat.cast (side.packets fields.counters) : ℝ) else none) = some mean →
        (if stats.count > 0 then stats.minVal else 0) ≤ mean ∧
          mean ≤ if stats.count > 0 then stats.maxVal else 0) ↔
      PayloadCovered (side.of (packetInfos cfg streamType (first :: rest))) := by
  have stats_eq := flowFields_payloadStats cfg platform streamType first rest side
  obtain ⟨packets_eq, -, bytes_eq⟩ := flowFields_sides cfg platform streamType first rest side
  have ranges : ∀ info ∈ side.of (packetInfos cfg streamType (first :: rest)),
      info.payloadLen < 2 ^ 32 := by
    intro info member
    obtain ⟨packet, -, rfl⟩ := List.mem_map.mp (List.mem_of_mem_filter member)
    exact packetInfo_payloadLen_lt cfg streamType packet
  rw [if_pos collected] at stats_eq
  intro fields stats
  refine Iff.trans ?_ (payload_ordered_iff ranges)
  rw [← stats_eq, ← packets_eq, ← bytes_eq]
  constructor
  · exact fun ordered positive => ordered _ (if_pos positive)
  · intro ordered mean found
    split at found
    · rename_i positive
      obtain rfl := Option.some.inj found
      exact ordered positive
    · cases found

/-- A statistic that is written is in order if the packets let it be. -/
theorem Summary.ordered_iff_filled (summary : Summary) (isOn : summary.group.on switches = true)
    (first : RawPacket) (rest : List RawPacket) :
    let cfg := featConfigRead thresholds switches
    let fields : Fields ℝ := flowFields cfg platform streamType first rest
    (∀ mean, summary.mean fields = some mean →
        summary.least fields ≤ mean ∧ mean ≤ summary.greatest fields) ↔
      summary.Filled cfg (packetInfos cfg streamType (first :: rest)) := by
  intro cfg fields
  have running : ∀ stats : RunningStats ℝ, stats = runningStatsOf ℝ
      (if summary.gate.on cfg then summary.samples (packetInfos cfg streamType (first :: rest))
        else []) →
      ((∀ mean, some stats.mean = some mean → stats.minVal ≤ mean ∧ mean ≤ stats.maxVal) ↔
        summary.gate.on cfg = true ∧
          summary.samples (packetInfos cfg streamType (first :: rest)) ≠ []) := by
    intro stats stats_eq
    simp only [Option.some.injEq, forall_eq']
    have ordered_iff : stats.minVal ≤ stats.mean ∧ stats.mean ≤ stats.maxVal ↔ stats.Ordered :=
      ⟨fun ordered => ⟨ordered.1, ordered.2⟩, fun ordered => ⟨ordered.1, ordered.2⟩⟩
    rw [ordered_iff, stats_eq, runningStatsOf_ordered_iff]
    cases summary.gate.on cfg with
    | true => simp only [if_true, true_and]
    | false => simp only [Bool.false_eq_true, if_false, ne_eq, not_true, false_and]
  have stats_eq := summary.flowFields_stats cfg platform streamType first rest
  cases summary with
  | fwdPayload =>
    have collected : cfg.needPayloadDir = true := isOn
    exact payloadSide_ordered_iff collected first rest .fwd
  | bwdPayload =>
    have collected : cfg.needPayloadDir = true := isOn
    exact payloadSide_ordered_iff collected first rest .bwd
  | _ => exact running _ stats_eq

/-- A flow is written with a statistic in order if its group is off or the packets let it be. -/
theorem Summary.output_ordered_iff {callbacks : List (Allocs × RawPacket)}
    {closing : Allocs × RawPacket} {output : Output ℝ}
    (written : flowOutput (featConfigRead thresholds switches) platform streamType callbacks
      closing = some output) (summary : Summary) :
    summary.Ordered output ↔
      (summary.group.on switches = true → summary.Filled (featConfigRead thresholds switches)
        (packetInfos (featConfigRead thresholds switches) streamType
          (callbacks.map Prod.snd))) := by
  rw [flowOutput_eq] at written
  obtain ⟨flow, run, rfl⟩ := Option.map_eq_some_iff.mp written
  match callbacks with
  | [] => cases run
  | first :: rest =>
    have fields_eq : flow.view.toFields = flow.fields := rfl
    rw [Summary.ordered_iff, fields_eq, flowRun_fields run]
    exact forall_congr' fun isOn => summary.ordered_iff_filled isOn first.2 (rest.map Prod.snd)

/-- Every statistic that is written for a flow is in order if and only if the packets let each
statistic be whose group is on. -/
theorem flowOutput_ordered_iff {callbacks : List (Allocs × RawPacket)}
    {closing : Allocs × RawPacket} {output : Output ℝ}
    (written : flowOutput (featConfigRead thresholds switches) platform streamType callbacks
      closing = some output) :
    (∀ summary : Summary, summary.Ordered output) ↔
      ∀ summary : Summary, summary.group.on switches = true →
        summary.Filled (featConfigRead thresholds switches)
          (packetInfos (featConfigRead thresholds switches) streamType
            (callbacks.map Prod.snd)) :=
  forall_congr' fun summary => summary.output_ordered_iff written

/-- With no other statistic switched on, the lengths of datagrams are in order. -/
theorem flowOutput_ordered_udp : ∃ output : Output ℝ,
    flowOutput (featConfigRead defaultThresholds { defaultSwitches with
        enableBasic := false, enableIat := false, enablePayload := false,
        enableProtocolTcpWindow := false, enableProtocolIp := false })
      (barePlatform ℝ) .udp (allocated [barePacket 1 1 100]) (Allocs.succeed, barePacket 1 1 0) =
        some output ∧
      ∀ summary : Summary, summary.Ordered output := by
  obtain ⟨flow, run, -⟩ := flowRun_allocated (D := ℝ) (featConfigRead defaultThresholds
    { defaultSwitches with
      enableBasic := false, enableIat := false, enablePayload := false,
      enableProtocolTcpWindow := false, enableProtocolIp := false })
    (barePlatform ℝ) .udp (barePacket 1 1 100) []
  have written := (flowOutput_eq _ (barePlatform ℝ) .udp _
    (Allocs.succeed, barePacket 1 1 0)).trans (congrArg (Option.map _) run)
  refine ⟨_, written, (flowOutput_ordered_iff written).mpr fun summary isOn => ?_⟩
  cases summary with
  | udpLength => exact ⟨rfl, List.cons_ne_nil _ _⟩
  | _ => cases isOn

/-- A flow of TCP packets has no lengths of datagrams, and an empty packet pulls the mean payload
below the least one. -/
theorem flowOutput_not_ordered : ∃ output : Output ℝ,
    flowOutput defaultConfig (barePlatform ℝ) .tcp
        (allocated [barePacket 1 1 100, barePacket 2 1 0]) (Allocs.succeed, barePacket 2 1 0) =
      some output ∧
      ¬ Summary.udpLength.Ordered output ∧ ¬ Summary.fwdPayload.Ordered output := by
  obtain ⟨flow, run, -⟩ := flowRun_allocated (D := ℝ) defaultConfig (barePlatform ℝ) .tcp
    (barePacket 1 1 100) [barePacket 2 1 0]
  have written := (flowOutput_eq defaultConfig (barePlatform ℝ) .tcp _
    (Allocs.succeed, barePacket 2 1 0)).trans (congrArg (Option.map _) run)
  refine ⟨_, written, ?_, ?_⟩
  · rw [Summary.output_ordered_iff written]
    intro filled
    exact (filled rfl).2 rfl
  · rw [Summary.output_ordered_iff written]
    intro filled
    have covered : PayloadCovered (Side.fwd.of (packetInfos defaultConfig .tcp
      [barePacket 1 1 100, barePacket 2 1 0])) := filled rfl
    have sizes_eq : payloadSizes (Side.fwd.of (packetInfos defaultConfig .tcp
      [barePacket 1 1 100, barePacket 2 1 0])) = [100] := by decide
    obtain ⟨size, member, within⟩ := (covered (by decide)).1
    rw [sizes_eq] at member
    obtain rfl := List.mem_singleton.mp member
    exact absurd within (by decide)

end Flows

end TiFeatures
