/-
This file follows the logarithms of the inter-arrival times through the scratch
area of `calc_derived_iat`. The area has room for two arrays; the logarithms are
written to the second one, which is also where the times are copied to be sorted,
so what the logarithm statistics read are the sorted times themselves.
-/

import TiFeatures.Arithmetic
import TiFeatures.Iat

namespace TiFeatures

/-! ### Copies in the scratch area -/

section Copies

variable {D : Type}

/-- The elements of a buffer from an offset on. -/
def bufferAt (buffer : List D) (offset count : Nat) : List D := (buffer.drop offset).take count

theorem length_memcpyAt {buffer values : List D} {offset : Nat}
    (fits : offset + values.length ≤ buffer.length) :
    (memcpyAt buffer offset values).length = buffer.length := by
  rw [memcpyAt, List.length_append, List.length_append, List.length_take, List.length_drop]
  omega

/-- Where values were copied to, they are found. -/
theorem bufferAt_memcpyAt_self {buffer values : List D} {offset : Nat}
    (fits : offset + values.length ≤ buffer.length) :
    bufferAt (memcpyAt buffer offset values) offset values.length = values := by
  have front : (buffer.take offset).length = offset := by
    rw [List.length_take]
    omega
  rw [bufferAt, memcpyAt, List.append_assoc, List.drop_append_of_le_length front.ge,
    List.drop_eq_nil_of_le front.le, List.nil_append, List.take_append_of_le_length le_rfl,
    List.take_length]

/-- A copy behind some elements leaves them alone. -/
theorem bufferAt_memcpyAt_before {buffer values : List D} {offset start count : Nat}
    (before : start + count ≤ offset) (fits : offset + values.length ≤ buffer.length) :
    bufferAt (memcpyAt buffer offset values) start count = bufferAt buffer start count := by
  have front : (buffer.take offset).length = offset := by
    rw [List.length_take]
    omega
  rw [bufferAt, bufferAt, memcpyAt, List.append_assoc,
    List.drop_append_of_le_length (by omega), List.take_append_of_le_length, List.drop_take,
    List.take_take, Nat.min_eq_left (by omega)]
  rw [List.length_drop]
  omega

/-- A copy in front of some elements leaves them alone. -/
theorem bufferAt_memcpyAt_after {buffer values : List D} {offset start count : Nat}
    (after : offset + values.length ≤ start) (fits : offset + values.length ≤ buffer.length) :
    bufferAt (memcpyAt buffer offset values) start count = bufferAt buffer start count := by
  have front : (buffer.take offset ++ values).length = offset + values.length := by
    rw [List.length_append, List.length_take]
    omega
  rw [bufferAt, bufferAt, memcpyAt, List.drop_append, front,
    List.drop_eq_nil_of_le (front.trans_le after), List.nil_append, List.drop_drop]
  congr 2
  omega

end Copies

/-! ### What the logarithm statistics read -/

section Reads

variable {D : Type} [Double D] (iatSeq : List Nat) (maxLen : Nat)

/-- The logarithms of the inter-arrival times. -/
def logIats (D : Type) [Double D] (iatSeq : List Nat) : List D :=
  iatSeq.map fun value : Nat => Double.log ((value : D) + 1)

/-- The scratch area when the statistics are computed. -/
def iatStatsArea (D : Type) [Double D] (iatSeq : List Nat) (maxLen : Nat) : List D :=
  memcpyAt (iatTempArea iatSeq maxLen) 0 (prepareDoubleBuffer D iatSeq)

/-- The values that are summed for the logarithm statistics. -/
def logIatSummed (D : Type) [Double D] (iatSeq : List Nat) (maxLen : Nat) : List D :=
  bufferAt (iatStatsArea D iatSeq maxLen) maxLen iatSeq.length

/-- The values that are sorted for the logarithm statistics, and passed to the moments. -/
def logIatSorted (D : Type) [Double D] (iatSeq : List Nat) (maxLen : Nat) : List D :=
  bufferAt (memcpyAt (iatStatsArea D iatSeq maxLen) maxLen
    (sortDouble (logIatSummed D iatSeq maxLen))) maxLen iatSeq.length

/-- The logarithm statistics are computed from these values. -/
theorem iatSequenceFeatures_log (filled : iatSeq.length > 0 ∧ iatSeq.length ≤ maxLen) :
    let summed := logIatSummed D iatSeq maxLen
    let sorted := logIatSorted D iatSeq maxLen
    let lmean := sumDouble summed / (iatSeq.length : D)
    let lstd := sampleStd iatSeq.length (sumSqDouble summed) lmean
    (iatSequenceFeatures iatSeq maxLen : Output D).drop 19 =
      [addNumber "log_iat_sequence_mean" lmean,
        addNumber "log_iat_sequence_std" lstd,
        addNumber "log_iat_sequence_min" (sorted.getD 0 0),
        addNumber "log_iat_sequence_max" (sorted.getD (iatSeq.length - 1) 0),
        addNumber "log_iat_sequence_median" (calcMedianDouble sorted),
        addNumber "log_iat_sequence_q1" (calcQ1Double sorted),
        addNumber "log_iat_sequence_q3" (calcQ3Double sorted),
        addNumber "log_iat_sequence_skew" (calcSkewness sorted lmean lstd),
        addNumber "log_iat_sequence_kurt" (calcKurtosis sorted lmean lstd)] := by
  rw [iatSequenceFeatures, if_pos filled]
  rfl

variable {iatSeq maxLen}

theorem map_log_eq (values : List Nat) :
    (values.map fun value => Double.log ((value : D) + 1)) = logIats D values := by
  rw [bind_pure_comp, List.map_eq_map, List.map_map]
  rfl

theorem length_logIats (values : List Nat) : (logIats D values).length = values.length :=
  List.length_map _

theorem length_sortDouble (values : List D) : (sortDouble values).length = values.length :=
  List.length_insertionSort _ values

/-- The copy that is sorted takes the place of the logarithms. -/
theorem bufferAt_iatTempArea (fits : iatSeq.length ≤ maxLen) :
    (iatTempArea iatSeq maxLen : List D).length = 2 * maxLen ∧
      bufferAt (iatTempArea iatSeq maxLen) maxLen iatSeq.length =
        sortDouble (prepareDoubleBuffer D iatSeq) := by
  set raw := prepareDoubleBuffer D iatSeq with raw_def
  set cleared : List D := List.replicate (2 * maxLen) 0 with cleared_def
  set filled := memcpyAt cleared 0 raw with filled_def
  set logged := memcpyAt filled maxLen (logIats D iatSeq) with logged_def
  set copied := memcpyAt logged maxLen (logged.take iatSeq.length) with copied_def
  have area_eq : iatTempArea iatSeq maxLen =
      memcpyAt copied maxLen (sortDouble (bufferAt copied maxLen iatSeq.length)) := by
    rw [iatTempArea, map_log_eq]
    rfl
  have raw_length : raw.length = iatSeq.length := length_prepareDoubleBuffer iatSeq
  have log_length := length_logIats (D := D) iatSeq
  have cleared_length : cleared.length = 2 * maxLen := List.length_replicate
  have filled_length : filled.length = 2 * maxLen :=
    (length_memcpyAt (by omega)).trans cleared_length
  have logged_length : logged.length = 2 * maxLen :=
    (length_memcpyAt (by omega)).trans filled_length
  have taken_length : (logged.take iatSeq.length).length = iatSeq.length := by
    rw [List.length_take]
    omega
  have copied_length : copied.length = 2 * maxLen :=
    (length_memcpyAt (by omega)).trans logged_length
  -- the copy is taken of the times, which the logarithms have left alone
  have taken : logged.take iatSeq.length = raw := by
    have kept : bufferAt logged 0 iatSeq.length = bufferAt filled 0 iatSeq.length :=
      bufferAt_memcpyAt_before (by omega) (by omega)
    have found := bufferAt_memcpyAt_self (show 0 + raw.length ≤ cleared.length by omega)
    rw [raw_length] at found
    exact kept.trans found
  have sortedCopy : bufferAt copied maxLen iatSeq.length = raw := by
    have found := bufferAt_memcpyAt_self
      (show maxLen + (logged.take iatSeq.length).length ≤ logged.length by omega)
    rw [taken_length, taken] at found
    rwa [copied_def, taken]
  have sorted_length : (sortDouble raw).length = iatSeq.length :=
    (length_sortDouble raw).trans raw_length
  rw [area_eq, sortedCopy]
  have fitsCopy : maxLen + (sortDouble raw).length ≤ copied.length := by omega
  refine ⟨(length_memcpyAt fitsCopy).trans copied_length, ?_⟩
  have found := bufferAt_memcpyAt_self fitsCopy
  rwa [sorted_length] at found

/-- The values that are summed are the inter-arrival times, sorted. -/
theorem logIatSummed_eq (fits : iatSeq.length ≤ maxLen) :
    logIatSummed D iatSeq maxLen = sortDouble (prepareDoubleBuffer D iatSeq) := by
  obtain ⟨area_length, found⟩ := bufferAt_iatTempArea (D := D) fits
  have raw_length := length_prepareDoubleBuffer (D := D) iatSeq
  rw [← found]
  exact bufferAt_memcpyAt_after (by omega) (by omega)

/-- The values that are sorted and passed to the moments are these, sorted once more. -/
theorem logIatSorted_eq (fits : iatSeq.length ≤ maxLen) :
    logIatSorted D iatSeq maxLen =
      sortDouble (sortDouble (prepareDoubleBuffer D iatSeq)) := by
  obtain ⟨area_length, -⟩ := bufferAt_iatTempArea (D := D) fits
  have raw_length := length_prepareDoubleBuffer (D := D) iatSeq
  have stats_length : (iatStatsArea D iatSeq maxLen).length = 2 * maxLen :=
    (length_memcpyAt (by omega)).trans area_length
  have sorted_length : (sortDouble (sortDouble (prepareDoubleBuffer D iatSeq))).length =
      iatSeq.length := by
    rw [length_sortDouble, length_sortDouble, raw_length]
  rw [logIatSorted, logIatSummed_eq fits]
  have found := bufferAt_memcpyAt_self (show maxLen +
    (sortDouble (sortDouble (prepareDoubleBuffer D iatSeq))).length ≤
      (iatStatsArea D iatSeq maxLen).length by omega)
  rwa [sorted_length] at found

end Reads

/-! ### The logarithm statistics -/

/-- The logarithm statistics are those of the logarithms: these are summed, sorted and passed to
the moments. -/
structure LogStatistics (D : Type) [Double D] (iatSeq : List Nat) (maxLen : Nat) : Prop where
  summed_eq : logIatSummed D iatSeq maxLen = logIats D iatSeq
  sorted_eq : logIatSorted D iatSeq maxLen = sortDouble (logIats D iatSeq)
  passed_eq : logIatSorted D iatSeq maxLen = logIats D iatSeq

/-- A logarithm is below its inter-arrival time, unless both are zero. -/
theorem log_add_one_le (iat : Nat) :
    Real.log ((iat : ℝ) + 1) ≤ iat ∧ (Real.log ((iat : ℝ) + 1) = iat → iat = 0) := by
  have positive : 0 < (iat : ℝ) + 1 := by positivity
  constructor
  · have below := Real.log_le_sub_one_of_pos positive
    linarith
  · intro same
    by_contra nonzero
    have above : (iat : ℝ) + 1 ≠ 1 := by
      rw [Ne, add_eq_right]
      exact Nat.cast_ne_zero.mpr nonzero
    have below := Real.log_lt_sub_one_of_pos positive above
    linarith

/-- The logarithm statistics are those of the logarithms if and only if all inter-arrival times
are zero. -/
theorem logStatistics_iff {iatSeq : List Nat} {maxLen : Nat} (fits : iatSeq.length ≤ maxLen) :
    LogStatistics ℝ iatSeq maxLen ↔ ∀ iat ∈ iatSeq, iat = 0 := by
  constructor
  · intro statistics
    have same := (logIatSummed_eq fits).symm.trans statistics.summed_eq
    have perm : (logIats ℝ iatSeq).Perm (prepareDoubleBuffer ℝ iatSeq) :=
      same ▸ List.perm_insertionSort _ _
    have sums : (iatSeq.map fun iat : Nat => Real.log ((iat : ℝ) + 1)).sum =
        (iatSeq.map fun iat : Nat => (iat : ℝ)).sum := by
      rw [prepareDoubleBuffer_eq] at perm
      exact perm.sum_eq
    intro iat member
    by_contra nonzero
    have below : ∃ iat ∈ iatSeq, Real.log ((iat : ℝ) + 1) < iat :=
      ⟨iat, member, lt_of_le_of_ne (log_add_one_le iat).1 fun equal =>
        nonzero ((log_add_one_le iat).2 equal)⟩
    exact (List.sum_lt_sum _ _ (fun other _ => (log_add_one_le other).1) below).ne sums
  · intro zeros
    have raw_eq : prepareDoubleBuffer ℝ iatSeq = List.replicate iatSeq.length 0 := by
      refine List.eq_replicate_iff.mpr ⟨length_prepareDoubleBuffer iatSeq, fun value member => ?_⟩
      rw [prepareDoubleBuffer_eq] at member
      obtain ⟨iat, inside, rfl⟩ := List.mem_map.mp member
      rw [zeros iat inside]
      exact Nat.cast_zero
    have logs_eq : logIats ℝ iatSeq = List.replicate iatSeq.length 0 := by
      refine List.eq_replicate_iff.mpr ⟨length_logIats iatSeq, fun value member => ?_⟩
      obtain ⟨iat, inside, rfl⟩ := List.mem_map.mp member
      have log_zero : Real.log ((Nat.cast 0 : ℝ) + 1) = 0 := by
        rw [Nat.cast_zero, zero_add, Real.log_one]
      rw [zeros iat inside]
      exact log_zero
    have sorted_eq : ∀ count, sortDouble (List.replicate count (0 : ℝ)) = List.replicate count 0 :=
      fun count => List.perm_replicate.mp (List.perm_insertionSort _ _)
    have summed := logIatSummed_eq (D := ℝ) fits
    have sorted := logIatSorted_eq (D := ℝ) fits
    rw [raw_eq, sorted_eq] at summed sorted
    rw [sorted_eq] at sorted
    refine ⟨summed.trans logs_eq.symm, sorted.trans ?_, sorted.trans logs_eq.symm⟩
    rw [logs_eq, sorted_eq]

/-- Packets that arrive together have logarithm statistics of the logarithms. -/
theorem logStatistics_zeros : LogStatistics ℝ (List.replicate 12 0) 64 :=
  (logStatistics_iff (by decide)).mpr fun _ member => List.eq_of_mem_replicate member

/-- An inter-arrival time of one takes the place of its logarithm. -/
theorem logStatistics_one : ¬ LogStatistics ℝ [1] 64 := by
  intro statistics
  have same := (logIatSummed_eq (D := ℝ) (show [1].length ≤ 64 by decide)).symm.trans
    statistics.summed_eq
  rw [prepareDoubleBuffer_eq] at same
  have log_eq : (Nat.cast 1 : ℝ) = Real.log (Nat.cast 1 + 1) := List.singleton_inj.mp same
  exact absurd ((log_add_one_le 1).2 log_eq.symm) (by decide)

end TiFeatures
