/-
This file reads the quartiles of the payload bytes off their histogram. The scan
over the 256 counts latches the first value whose cumulative count exceeds a
threshold, which is the entry of the sorted bytes at the threshold.
-/

import TiFeatures.Library.OrderStatistics
import TiFeatures.PayloadBytes
import Mathlib.Algebra.Order.Floor.Semifield

namespace TiFeatures

/-! ### The scan -/

theorem pairwise_sortUint (values : List Nat) : (sortUint values).Pairwise (· ≤ ·) :=
  List.pairwise_insertionSort (· ≤ ·) values

theorem length_sortUint (values : List Nat) : (sortUint values).length = values.length :=
  List.length_insertionSort _ _

theorem mem_sortUint {values : List Nat} {value : Nat} :
    value ∈ sortUint values ↔ value ∈ values :=
  List.mem_insertionSort _

/-- The entry of the sorted values at an index, which a threshold of the scan stands for. -/
def orderStatistic (values : List Nat) (index : Nat) : Nat := (sortUint values).getD index 0

theorem orderStatistic_mono {values : List Nat} {first second : Nat} (order : first ≤ second)
    (within : second < values.length) :
    orderStatistic values first ≤ orderStatistic values second :=
  OrderStatistics.getD_le_getD (pairwise_sortUint values) order
    (within.trans_eq (length_sortUint values).symm) 0

theorem orderStatistic_mem {values : List Nat} {index : Nat} (within : index < values.length) :
    orderStatistic values index ∈ values := by
  rw [orderStatistic, List.getD_eq_getElem _ _ (by rwa [length_sortUint])]
  exact mem_sortUint.mp (List.getElem_mem _)

/-- The cumulative count exceeds a threshold from the entry at the threshold on. -/
theorem lt_countP_iff {values : List Nat} {threshold : Nat} (within : threshold < values.length)
    (value : Nat) :
    threshold < values.countP (fun other => other < value + 1) ↔
      orderStatistic values threshold ≤ value := by
  have inside : threshold < (sortUint values).length :=
    within.trans_eq (length_sortUint values).symm
  have counted : values.countP (fun other => other < value + 1) =
      (sortUint values).countP fun other => other ≤ value := by
    rw [sortUint, (List.perm_insertionSort (· ≤ ·) values).countP_eq]
    exact List.countP_congr fun other _ => by
      rw [decide_eq_true_eq, decide_eq_true_eq, Nat.lt_succ_iff]
  rw [counted, OrderStatistics.lt_countP_le_iff (pairwise_sortUint values) inside, orderStatistic,
    List.getD_eq_getElem _ _ inside]

/-- A latch of the scan holds the entry at its threshold once the scan is past it. -/
def Latched (values : List Nat) (threshold value : Nat) (latch : Option Nat) : Prop :=
  latch = if orderStatistic values threshold < value then some (orderStatistic values threshold)
    else none

/-- What the loop body does to a latch. -/
theorem Latched.step {values : List Nat} {threshold value : Nat} {latch : Option Nat}
    (latched : Latched values threshold value latch) (within : threshold < values.length) :
    Latched values threshold (value + 1)
      (if values.countP (fun other => other < value + 1) > threshold ∧ latch = none then some value
        else latch) := by
  unfold Latched at latched ⊢
  by_cases past : orderStatistic values threshold < value
  · rw [if_pos past] at latched
    rw [if_pos (Nat.lt_succ_of_lt past), latched, if_neg fun fresh => nomatch fresh.2]
  · rw [if_neg past] at latched
    by_cases here : orderStatistic values threshold = value
    · have exceeds := (lt_countP_iff within value).mpr here.le
      rw [if_pos ⟨exceeds, latched⟩, here, if_pos (Nat.lt_succ_self value)]
    · have before : ¬ orderStatistic values threshold ≤ value := fun reached =>
        past (lt_of_le_of_ne reached here)
      rw [if_neg fun fresh => before ((lt_countP_iff within value).mp fresh.1), latched,
        if_neg fun reached => before (Nat.lt_succ_iff.mp reached)]

/-- A latch past its threshold. -/
theorem Latched.getD_eq {values : List Nat} {threshold value : Nat} {latch : Option Nat}
    (latched : Latched values threshold value latch)
    (past : orderStatistic values threshold < value) :
    latch.getD 0 = orderStatistic values threshold := by
  rw [show latch = _ from latched, if_pos past, Option.getD_some]

/-- The values below the next one are those below this one and its occurrences. -/
theorem countP_lt_succ (values : List Nat) (value : Nat) :
    values.countP (fun other => other < value) + values.countP (fun other => other = value) =
      values.countP fun other => other < value + 1 :=
  countP_add_countP values (fun _ => by omega) fun _ below same => by omega

/-- The scan finds the entries at its three thresholds. -/
theorem quartileScan_eq {values : List Nat} (short : values.length < 2 ^ 32)
    {th25 th50 th75 : Nat} (first : th25 ≤ th50) (second : th50 ≤ th75)
    (third : th75 < values.length) (remaining value : Nat) (p25 p50 : Option Nat)
    (latched25 : Latched values th25 value p25) (latched50 : Latched values th50 value p50)
    (ahead : value ≤ orderStatistic values th75)
    (reached : orderStatistic values th75 < value + remaining) :
    quartileScan th25 th50 th75
        ((List.range' value remaining).map fun other =>
          u32 (values.countP fun entry => entry = other))
        value (values.countP fun other => other < value) p25 p50 =
      (orderStatistic values th25, orderStatistic values th50, orderStatistic values th75) := by
  induction remaining generalizing value p25 p50 with
  | zero => omega
  | succ remaining inductionHypothesis =>
    have cum_eq : u32 (values.countP (fun other => other < value) +
        u32 (values.countP fun entry => entry = value)) =
        values.countP fun other => other < value + 1 := by
      have small := List.countP_le_length (l := values) (p := fun other => other < value + 1)
      have part := countP_lt_succ values value
      rw [u32_of_lt (by omega : values.countP (fun entry => decide (entry = value)) < 2 ^ 32), part,
        u32_of_lt (by omega)]
    have next25 := latched25.step (by omega)
    have next50 := latched50.step (by omega)
    have exceeds := lt_countP_iff third value
    rw [List.range'_succ, List.map_cons, quartileScan]
    simp only [cum_eq]
    by_cases here : orderStatistic values th75 ≤ value
    · have mono := orderStatistic_mono second third
      have mono' := orderStatistic_mono first (second.trans_lt third)
      rw [if_pos (exceeds.mpr here), next25.getD_eq (by omega), next50.getD_eq (by omega),
        le_antisymm here ahead]
    · rw [if_neg fun past => here (exceeds.mp past)]
      exact inductionHypothesis (value + 1) _ _ next25 next50 (by omega) (by omega)

/-! ### Thresholds -/

/-- Arithmetic in which a quarter, a half and three quarters of a 32-bit count are truncated to
the integer below. -/
structure ExactQuarters (D : Type) [Double D] : Prop where
  quarter : ∀ count : Nat, count < 2 ^ 32 →
    Double.truncate ((1 / 4 : D) * (count : D)) = ((count / 4 : Nat) : Int)
  half : ∀ count : Nat, count < 2 ^ 32 →
    Double.truncate ((1 / 2 : D) * (count : D)) = ((count / 2 : Nat) : Int)
  threeQuarters : ∀ count : Nat, count < 2 ^ 32 →
    Double.truncate ((3 / 4 : D) * (count : D)) = ((3 * count / 4 : Nat) : Int)

/-- A fraction of a count over the reals is truncated to the integer below. -/
theorem real_truncate_fraction (part whole count : Nat) :
    Double.truncate ((part : ℝ) / (whole : ℝ) * (count : ℝ)) =
      ((part * count / whole : Nat) : Int) := by
  have value_eq : (Nat.cast part : ℝ) / Nat.cast whole * Nat.cast count =
      Nat.cast (part * count) / Nat.cast whole := by
    rw [Nat.cast_mul, div_mul_eq_mul_div]
  have nonneg : 0 ≤ (Nat.cast part : ℝ) / Nat.cast whole * Nat.cast count :=
    mul_nonneg (div_nonneg (Nat.cast_nonneg _) (Nat.cast_nonneg _)) (Nat.cast_nonneg _)
  refine (if_pos nonneg).trans ?_
  show ⌊(Nat.cast part : ℝ) / Nat.cast whole * Nat.cast count⌋ = _
  rw [← Int.natCast_floor_eq_floor nonneg, value_eq, Nat.floor_div_eq_div]

theorem real_exactQuarters : ExactQuarters ℝ := by
  have one_eq : (1 : ℝ) = ((1 : Nat) : ℝ) := real_exactIntegers.one_eq
  refine ⟨fun count _ => ?_, fun count _ => ?_, fun count _ => real_truncate_fraction 3 4 count⟩
  · have truncated := real_truncate_fraction 1 4 count
    rw [← one_eq, Nat.one_mul] at truncated
    exact truncated
  · have truncated := real_truncate_fraction 1 2 count
    rw [← one_eq, Nat.one_mul] at truncated
    exact truncated

/-! ### The features -/

theorem sumU32_eq (table : List Nat) : sumU32 table = u32 table.sum := by
  have run : ∀ (counts : List Nat) (total : Nat),
      counts.foldl (fun total count => u32 (total + count)) (u32 total) =
        u32 (total + counts.sum) := by
    intro counts
    induction counts with
    | nil => exact fun total => rfl
    | cons count counts inductionHypothesis =>
      intro total
      rw [List.foldl_cons, u32_add_u32, inductionHypothesis, List.sum_cons, Nat.add_assoc]
  have summed := run table 0
  rwa [Nat.zero_add] at summed

/-- The histogram by value, as the counts of the values in their order. -/
theorem tally_toNat (bytes : List UInt8) :
    tally UInt8.toNat 256 bytes = (List.range' 0 256).map fun value =>
      u32 ((bytes.map UInt8.toNat).countP fun byte => byte = value) := by
  rw [tally, List.range_eq_range']
  refine List.map_congr_left fun value _ => ?_
  rw [List.countP_map]
  rfl

variable {D : Type} [Double D]

/-- The quartiles that the histogram of a stream gives are the entries of the sorted stream at a
quarter, a half and three quarters of its last index. -/
theorem byteQuartiles_tally (quarters : ExactQuarters D) {bytes : List UInt8}
    (nonempty : bytes ≠ []) (short : bytes.length < 2 ^ 32) :
    let values := bytes.map UInt8.toNat
    byteQuartiles (D := D) (tally UInt8.toNat 256 bytes) =
      [addNumber "payload_byte_q1" (orderStatistic values ((bytes.length - 1) / 4) : D),
        addNumber "payload_byte_median" (orderStatistic values ((bytes.length - 1) / 2) : D),
        addNumber "payload_byte_q3" (orderStatistic values (3 * (bytes.length - 1) / 4) : D)] := by
  intro values
  have positive := List.length_pos_iff.mpr nonempty
  have length_eq : values.length = bytes.length := List.length_map _
  have total : sumU32 (tally UInt8.toNat 256 bytes) = bytes.length := by
    rw [sumU32_eq, u32_sum_tally fun byte => byte.toNat_lt, u32_of_lt short]
  have small : bytes.length - 1 < 2 ^ 32 := by omega
  have th25 : quantileThreshold (1 / 4 : D) bytes.length = (bytes.length - 1) / 4 := by
    rw [quantileThreshold, quarters.quarter _ small, Int.toNat_natCast, u32_of_lt (by omega)]
  have th50 : quantileThreshold (1 / 2 : D) bytes.length = (bytes.length - 1) / 2 := by
    rw [quantileThreshold, quarters.half _ small, Int.toNat_natCast, u32_of_lt (by omega)]
  have th75 : quantileThreshold (3 / 4 : D) bytes.length = 3 * (bytes.length - 1) / 4 := by
    rw [quantileThreshold, quarters.threeQuarters _ small, Int.toNat_natCast, u32_of_lt (by omega)]
  have reached : orderStatistic values (3 * (bytes.length - 1) / 4) < 0 + 256 := by
    have member : orderStatistic values (3 * (bytes.length - 1) / 4) ∈ values :=
      orderStatistic_mem (by omega)
    obtain ⟨byte, -, value_eq⟩ := List.mem_map.mp member
    rw [← value_eq]
    exact byte.toNat_lt
  have none_below : values.countP (fun other => other < 0) = 0 :=
    List.countP_eq_zero.mpr fun other _ => Bool.eq_false_iff.mp (decide_eq_false
      (Nat.not_lt_zero other))
  have first : (bytes.length - 1) / 4 ≤ (bytes.length - 1) / 2 := by omega
  have second : (bytes.length - 1) / 2 ≤ 3 * (bytes.length - 1) / 4 := by omega
  have third : 3 * (bytes.length - 1) / 4 < values.length := by omega
  have fresh : ∀ threshold : Nat, Latched values threshold 0 none := fun threshold =>
    (if_neg (Nat.not_lt_zero _)).symm
  have scanned := quartileScan_eq (length_eq.trans_lt short) first second third 256 0 none none
    (fresh _) (fresh _) (Nat.zero_le _) reached
  rw [none_below, ← tally_toNat] at scanned
  rw [byteQuartiles]
  simp only [total]
  rw [if_pos positive, th25, th50, th75, scanned]

/-- The quartiles of the payload bytes are order statistics of the stream, however it is cut into
payloads, and lie between its least and its greatest byte. -/
theorem payloadRun_byteQuartiles (quarters : ExactQuarters D) (platform : Platform D)
    (payloads : List (List UInt8)) (nonempty : payloads.flatten ≠ [])
    (short : payloads.flatten.length < 2 ^ 32) :
    let n := payloads.flatten.length
    let sorted := sortUint (payloads.flatten.map UInt8.toNat)
    let q1 := sorted.getD ((n - 1) / 4) 0
    let median := sorted.getD ((n - 1) / 2) 0
    let q3 := sorted.getD (3 * (n - 1) / 4) 0
    byteQuartiles (payloadRun platform payloads).payloadByteHistFull =
      [addNumber "payload_byte_q1" (q1 : D), addNumber "payload_byte_median" (median : D),
        addNumber "payload_byte_q3" (q3 : D)] ∧
    ∃ least greatest : Nat,
      IsLeast {value | ∃ byte ∈ payloads.flatten, byte.toNat = value} least ∧
      IsGreatest {value | ∃ byte ∈ payloads.flatten, byte.toNat = value} greatest ∧
      least ≤ q1 ∧ q1 ≤ median ∧ median ≤ q3 ∧ q3 ≤ greatest := by
  intro n sorted q1 median q3
  obtain ⟨collected, -⟩ := payloadRun_collected platform payloads
  have positive : 0 < n := List.length_pos_iff.mpr nonempty
  have length_eq : (payloads.flatten.map UInt8.toNat).length = n := List.length_map _
  have entry : ∀ index < n, ∃ byte ∈ payloads.flatten,
      byte.toNat = orderStatistic (payloads.flatten.map UInt8.toNat) index := fun index within =>
    List.mem_map.mp (orderStatistic_mem (length_eq.symm ▸ within))
  have extremes : ∀ byte ∈ payloads.flatten,
      sorted.getD 0 0 ≤ byte.toNat ∧ byte.toNat ≤ sorted.getD (sorted.length - 1) 0 :=
    fun byte member => OrderStatistics.getD_le_of_mem (pairwise_sortUint _)
      (mem_sortUint.mpr (List.mem_map_of_mem member)) 0
  have sorted_length : sorted.length = n := (length_sortUint _).trans length_eq
  have mono : ∀ first second : Nat, first ≤ second → second < n →
      sorted.getD first 0 ≤ sorted.getD second 0 := fun first second order within =>
    orderStatistic_mono order (length_eq.symm ▸ within)
  refine ⟨?_, sorted.getD 0 0, sorted.getD (sorted.length - 1) 0,
    ⟨entry 0 positive, ?_⟩, ⟨?_, ?_⟩, mono _ _ (by omega) (by omega),
    mono _ _ (by omega) (by omega), mono _ _ (by omega) (by omega),
    mono _ _ (by omega) (by omega)⟩
  · rw [collected.histFull_eq]
    exact byteQuartiles_tally quarters nonempty short
  · rintro value ⟨byte, member, rfl⟩
    exact (extremes byte member).1
  · rw [sorted_length]
    exact entry (n - 1) (by omega)
  · rintro value ⟨byte, member, rfl⟩
    exact (extremes byte member).2

theorem payloadRun_byteQuartiles_get : ∃ platform : Platform ℝ,
    byteQuartiles (payloadRun platform [[71, 69], [84]]).payloadByteHistFull =
      ([addNumber "payload_byte_q1" ((69 : Nat) : ℝ),
        addNumber "payload_byte_median" ((71 : Nat) : ℝ),
        addNumber "payload_byte_q3" ((71 : Nat) : ℝ)] : Output ℝ) :=
  ⟨barePlatform ℝ, (payloadRun_byteQuartiles real_exactQuarters (barePlatform ℝ) [[71, 69], [84]]
    (by decide) (by decide)).1⟩

end TiFeatures
