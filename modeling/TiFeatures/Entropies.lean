/-
This file bounds the entropies of an object by the bits that their classes take. Over
exact arithmetic none of them is negative, whatever packets the flow had, and each is at
most the logarithm of the number of its bins, or of its bytes.
-/

import TiFeatures.Correlations
import TiFeatures.Library.Entropy
import TiFeatures.Means
import TiFeatures.Quartiles
import TiFeatures.TopK

namespace TiFeatures

open Counts

/-! ### Tables -/

/-- A table of counts in 32 bits. -/
structure CountTable (size : Nat) (table : List Nat) : Prop where
  length_eq : table.length = size
  count_lt : ∀ count ∈ table, count < 2 ^ 32

namespace CountTable

variable {size : Nat} {table : List Nat}

theorem zeros (size : Nat) : CountTable size (List.replicate size 0) :=
  ⟨List.length_replicate, fun _ member => List.eq_of_mem_replicate member ▸ Nat.two_pow_pos 32⟩

theorem modify (counted : CountTable size table) (index : Nat) :
    CountTable size (table.modify index fun count => u32 (count + 1)) := by
  refine ⟨(List.length_modify ..).trans counted.length_eq, fun count member => ?_⟩
  obtain ⟨place, within, rfl⟩ := List.getElem_of_mem member
  rw [List.getElem_modify]
  split
  · exact u32_lt _
  · exact counted.count_lt _ (List.getElem_mem _)

theorem set (counted : CountTable size table) (index value : Nat) :
    CountTable size (table.set index (u32 value)) := by
  refine ⟨List.length_set.trans counted.length_eq, fun count member => ?_⟩
  rcases List.mem_or_eq_of_mem_set member with old | rfl
  · exact counted.count_lt count old
  · exact u32_lt value

/-- What every item preserves holds after all of them. -/
theorem foldl {Item : Type} {step : List Nat → Item → List Nat}
    (kept : ∀ {table} item, CountTable size table → CountTable size (step table item))
    (items : List Item) (counted : CountTable size table) :
    CountTable size (items.foldl step table) := by
  induction items generalizing table with
  | nil => exact counted
  | cons item items inductionHypothesis => exact inductionHypothesis (kept item counted)

theorem sum_lt (counted : CountTable size table) (few : size < 2 ^ 32) : table.sum < 2 ^ 64 := by
  have bound := List.sum_le_card_nsmul table (2 ^ 32) fun count member =>
    (counted.count_lt count member).le
  rw [counted.length_eq, smul_eq_mul] at bound
  omega

end CountTable

/-! ### The loops -/

/-- A loop over a histogram adds what each class gives. -/
theorem foldl_entropy (whole : ℝ) (hist : List Nat) (start : ℝ) :
    hist.foldl (fun (entropy : ℝ) (bin : Nat) =>
      if bin > 0 then
        entropy - Nat.cast bin / whole * Real.logb (2 : Nat) (Nat.cast bin / whole)
      else entropy) start =
      start + (hist.map fun bin : Nat =>
        -(Nat.cast bin / whole * Real.logb (2 : Nat) (Nat.cast bin / whole))).sum := by
  induction hist generalizing start with
  | nil => exact (add_zero start).symm
  | cons bin hist inductionHypothesis =>
    rw [List.foldl_cons, inductionHypothesis, List.map_cons, List.sum_cons, ← add_assoc]
    split
    · rw [sub_eq_add_neg]
    · have empty : bin = 0 := Nat.eq_zero_of_not_pos ‹_›
      rw [empty, Nat.cast_zero, zero_div, zero_mul, neg_zero, add_zero]

theorem foldl_u64 (values : List Nat) :
    values.foldl (fun total bin => u64 (total + bin)) 0 = u64 values.sum := by
  induction values using List.reverseRecOn with
  | nil => rfl
  | append_singleton values value inductionHypothesis =>
    rw [List.foldl_concat, inductionHypothesis, u64_add_u64, List.sum_append, List.sum_singleton]

/-- `calc_shannon_entropy` is the entropy of its histogram. -/
theorem real_calcShannonEntropy {hist : List Nat} (small : hist.sum < 2 ^ 64) :
    calcShannonEntropy ℝ hist = entropy 2 hist := by
  rw [calcShannonEntropy, foldl_u64, u64_of_lt small]
  by_cases nothing : hist.sum = 0
  · rw [if_pos (beq_iff_eq.mpr nothing), entropy_of_nothing 2 nothing]
  · rw [if_neg (mt beq_iff_eq.mp nothing)]
    exact (foldl_entropy hist.sum hist 0).trans (zero_add _)

theorem calcShannonEntropy_mem {hist : List Nat} {size bits : Nat}
    (counted : CountTable size hist) (few : size ≤ 2 ^ bits) (narrow : bits < 32) :
    calcShannonEntropy ℝ hist ∈ Set.Icc (0 : ℝ) bits := by
  have small := counted.sum_lt (few.trans_lt (Nat.pow_lt_pow_right Nat.one_lt_two narrow))
  rw [real_calcShannonEntropy small]
  exact entropy_mem_of_length Nat.one_lt_two (counted.length_eq.trans_le few)

/-- `calc_iat_entropy_double` has 32 bins. -/
theorem calcIatEntropyDouble_mem (seq : List ℝ) :
    calcIatEntropyDouble seq ∈ Set.Icc (0 : ℝ) (5 : Nat) := by
  have nothing : (0 : ℝ) ∈ Set.Icc (0 : ℝ) (5 : Nat) := ⟨le_rfl, Nat.cast_nonneg 5⟩
  unfold calcIatEntropyDouble
  split
  · exact nothing
  · dsimp only
    split
    · exact nothing
    · refine calcShannonEntropy_mem ?_ (show 32 ≤ 2 ^ 5 from le_rfl) (by decide)
      exact CountTable.foldl (fun _ counted => counted.set _ _) _ (CountTable.zeros 32)

theorem iatSequenceFeatures_entropy (iatSeq : List Nat) (maxLen : Nat) :
    ∃ bits ∈ Set.Icc (0 : ℝ) (5 : Nat),
      addNumber "iat_entropy" bits ∈ (iatSequenceFeatures iatSeq maxLen : Output ℝ) := by
  rw [iatSequenceFeatures]
  split
  · exact ⟨_, calcIatEntropyDouble_mem _, .head _⟩
  · exact ⟨0, ⟨le_rfl, Nat.cast_nonneg 5⟩, .head _⟩

/-- `calc_direction_entropy` has a class for each direction. -/
theorem real_calcDirectionEntropy (dirs : List Int) :
    (calcDirectionEntropy dirs : ℝ) =
      entropy 2 [(dirs.filter fun dir => dir > 0).length,
        (dirs.filter fun dir => dir < 0).length] := by
  rw [calcDirectionEntropy]
  generalize (dirs.filter fun dir => dir > 0).length = fwd
  generalize (dirs.filter fun dir => dir < 0).length = bwd
  have sum_eq : [fwd, bwd].sum = fwd + bwd := List.sum_pair
  split
  · rename_i single
    refine ((entropy_eq_zero_iff Nat.one_lt_two _).mpr ?_).symm
    rw [sum_eq, List.forall_mem_cons, List.forall_mem_singleton]
    omega
  · rw [entropy, sum_eq, List.map_cons, List.map_singleton, List.sum_pair, entropyTerm,
      entropyTerm, ← neg_add]
    rfl

/-! ### Bytes -/

theorem byteHistogram_eq (data : List UInt8) : byteHistogram data = tally UInt8.toNat 256 data := by
  induction data using List.reverseRecOn with
  | nil => exact (tally_nil _ _).symm
  | append_singleton data byte inductionHypothesis =>
    rw [tally_concat, ← inductionHypothesis, byteHistogram, List.foldl_concat]
    rfl

theorem sum_tally {data : List UInt8} (short : data.length < 2 ^ 32) :
    (tally UInt8.toNat 256 data).sum = data.length := by
  have counted := sum_countP_range UInt8.toNat 0 256 data
  simp only [zero_add, Nat.zero_le, true_and] at counted
  have counts_eq : tally UInt8.toNat 256 data = (List.range 256).map fun value =>
      data.countP fun byte => byte.toNat = value :=
    List.map_congr_left fun value _ => u32_of_lt (List.countP_le_length.trans_lt short)
  rw [counts_eq, counted]
  exact List.countP_eq_length.mpr fun byte _ => decide_eq_true byte.toNat_lt

/-- `calc_byte_entropy` is the entropy of the tally of the bytes that it is given. -/
theorem real_calcByteEntropy {data : List UInt8} {len : Int} (within : len ≤ data.length)
    (short : len < 2 ^ 32) :
    (calcByteEntropy data len : ℝ) = entropy 2 (tally UInt8.toNat 256 (data.take len.toNat)) := by
  have taken : (data.take len.toNat).length = len.toNat := by
    rw [List.length_take]
    omega
  have sum_eq : (tally UInt8.toNat 256 (data.take len.toNat)).sum = len.toNat :=
    (sum_tally (by omega)).trans taken
  rcases lt_or_ge 0 len with some | none
  · have whole : (Double.ofInt len : ℝ) = Nat.cast len.toNat := by
      rw [real_ofInt, ← Int.cast_natCast, Int.toNat_of_nonneg some.le]
    rw [calcByteEntropy, if_neg some.ne', byteHistogram_eq, whole, entropy, sum_eq]
    exact (foldl_entropy _ _ 0).trans (zero_add _)
  · rw [entropy_of_nothing 2 (sum_eq.trans (Int.toNat_of_nonpos none)), calcByteEntropy]
    split
    · rfl
    · rw [Int.toNat_of_nonpos none, List.take_zero]
      refine (foldl_entropy _ _ 0).trans ?_
      rw [zero_add]
      refine List.sum_eq_zero (List.forall_mem_map.mpr fun bin member => ?_)
      rw [List.eq_of_mem_replicate member, Nat.cast_zero, zero_div, zero_mul, neg_zero]

theorem calcByteEntropy_mem {data : List UInt8} {len : Int} (within : len ≤ data.length)
    (short : len < 2 ^ 32) : (calcByteEntropy data len : ℝ) ∈ Set.Icc (0 : ℝ) (8 : Nat) := by
  rw [real_calcByteEntropy within short]
  exact entropy_mem_of_length Nat.one_lt_two (length_tally _ _ _).le

/-- The entropy of a prefix of the first bytes is at most the logarithm of its length. -/
theorem firstBytesEntropy_mem (firstBytes : List UInt8) {bits : Nat} (narrow : bits < 32) :
    (firstBytesEntropy firstBytes (2 ^ bits) : ℝ) ∈ Set.Icc (0 : ℝ) bits := by
  have limited : 2 ^ bits < 2 ^ 32 := Nat.pow_lt_pow_right Nat.one_lt_two narrow
  unfold firstBytesEntropy
  split
  · generalize len_eq : (if firstBytes.length > 2 ^ bits then 2 ^ bits else firstBytes.length) = len
    have within : len ≤ firstBytes.length ∧ len ≤ 2 ^ bits := by
      rw [← len_eq]
      split <;> omega
    rw [real_calcByteEntropy (Int.ofNat_le.mpr within.1) (by omega)]
    refine entropy_mem_of_sum Nat.one_lt_two ?_
    rw [Int.toNat_natCast, sum_tally ((List.length_take_le _ _).trans_lt (by omega)),
      List.length_take]
    omega
  · exact ⟨le_rfl, Nat.cast_nonneg bits⟩

/-! ### Transitions -/

/-- The bytes that follow a byte value. -/
def successors (pairs : List (UInt8 × UInt8)) (source : Nat) : List UInt8 :=
  (pairs.filter fun pair => pair.1.toNat = source).map Prod.snd

theorem successors_concat (pairs : List (UInt8 × UInt8)) (pair : UInt8 × UInt8) (source : Nat) :
    successors (pairs ++ [pair]) source =
      if pair.1.toNat = source then successors pairs source ++ [pair.2]
      else successors pairs source := by
  rw [successors, List.filter_append, List.map_append, List.filter_singleton]
  split
  · rw [decide_eq_true ‹_›]
    rfl
  · rw [decide_eq_false ‹_›]
    exact List.append_nil _

/-- The transitions out of a byte value are the tally of the bytes that follow it. -/
theorem markovTransitions_eq (data : List UInt8) :
    markovTransitions data = (List.range 256).map fun source =>
      tally UInt8.toNat 256 (successors (data.zip (data.drop 1)) source) := by
  have counted : ∀ pairs : List (UInt8 × UInt8),
      pairs.foldl (fun trans pair => trans.modify pair.1.toNat fun row =>
          row.modify pair.2.toNat fun count => u32 (count + 1))
        (List.replicate 256 (List.replicate 256 0)) =
        (List.range 256).map fun source => tally UInt8.toNat 256 (successors pairs source) := by
    intro pairs
    induction pairs using List.reverseRecOn with
    | nil =>
      refine (List.eq_replicate_iff.mpr ⟨?_, List.forall_mem_map.mpr fun source _ => ?_⟩).symm
      · rw [List.length_map, List.length_range]
      · exact tally_nil _ _
    | append_singleton pairs pair inductionHypothesis =>
      rw [List.foldl_concat, inductionHypothesis]
      refine List.ext_getElem ?_ fun index _ _ => ?_
      · rw [List.length_modify, List.length_map, List.length_map]
      · simp only [List.getElem_modify, List.getElem_map, List.getElem_range, successors_concat]
        split
        · rw [tally_concat]
        · rfl
  exact counted _

/-- There are as many transitions out of a byte value as times that it is not the last byte. -/
theorem sum_successors {data : List UInt8} (short : data.length < 2 ^ 32) (source : Nat) :
    (tally UInt8.toNat 256 (successors (data.zip (data.drop 1)) source)).sum =
      data.dropLast.countP fun byte => byte.toNat = source := by
  have fewer : (successors (data.zip (data.drop 1)) source).length ≤ data.length := by
    rw [successors, List.length_map]
    refine (List.length_filter_le _ _).trans ?_
    rw [List.length_zip]
    exact min_le_left _ _
  rw [sum_tally (fewer.trans_lt short), successors, List.length_map, ← List.countP_eq_length_filter,
    List.dropLast_eq_take, ← Moments.map_fst_zip_drop, List.countP_map]
  rfl

/-- A loop over rows adds what each row gives, by its share. -/
theorem foldl_rows (whole : ℝ) {rows : List (List Nat × Nat)}
    (balanced : ∀ row ∈ rows, row.2 = row.1.sum) (start : ℝ) :
    rows.foldl (fun (total : ℝ) row =>
      if row.2 > 0 then
        total + Nat.cast row.2 / whole * row.1.foldl (fun (h : ℝ) (count : Nat) =>
          if count > 0 then
            h - Nat.cast count / Nat.cast row.2 *
              Real.logb (2 : Nat) (Nat.cast count / Nat.cast row.2)
          else h) 0
      else total) start =
      start + (rows.map fun row => Nat.cast row.1.sum / whole * entropy 2 row.1).sum := by
  induction rows generalizing start with
  | nil => exact (add_zero start).symm
  | cons row rows inductionHypothesis =>
    obtain ⟨own, others⟩ := List.forall_mem_cons.mp balanced
    rw [List.foldl_cons, inductionHypothesis others, List.map_cons, List.sum_cons, ← add_assoc,
      foldl_entropy, zero_add, own]
    split
    · rfl
    · have empty : row.1.sum = 0 := Nat.eq_zero_of_not_pos ‹_›
      rw [empty, Nat.cast_zero, zero_div, zero_mul, add_zero]

/-- `calc_markov_entropy` is the entropy of the next byte when the byte before it is known. -/
theorem real_calcMarkovEntropy {data : List UInt8} {len : Int} (some : 2 ≤ len)
    (within : len ≤ data.length) (short : len < 2 ^ 32) :
    (calcMarkovEntropy data len : ℝ) =
      conditionalEntropy 2 (markovTransitions (data.take len.toNat)) := by
  have length_eq : (data.take len.toNat).length = len.toNat := by
    rw [List.length_take]
    omega
  rw [calcMarkovEntropy, if_neg (not_lt.mpr some)]
  generalize data.take len.toNat = taken at length_eq
  have small : taken.length < 2 ^ 32 := by omega
  have sums : ∀ source, (tally UInt8.toNat 256 (successors (taken.zip (taken.drop 1)) source)).sum =
      u32 (taken.dropLast.countP fun byte => byte.toNat = source) := by
    intro source
    rw [sum_successors small, u32_of_lt]
    refine List.countP_le_length.trans_lt ?_
    rw [List.length_dropLast]
    omega
  have zip_eq : (markovTransitions taken).zip (byteHistogram taken.dropLast) =
      (List.range 256).map fun source =>
        (tally UInt8.toNat 256 (successors (taken.zip (taken.drop 1)) source),
          u32 (taken.dropLast.countP fun byte => byte.toNat = source)) := by
    rw [markovTransitions_eq, byteHistogram_eq, tally, List.zip_map']
  have whole : (Double.ofInt (len - 1) : ℝ) =
      Nat.cast ((markovTransitions taken).map List.sum).sum := by
    have shorter : taken.dropLast.length < 2 ^ 32 := by
      rw [List.length_dropLast]
      omega
    have sums_eq : (markovTransitions taken).map List.sum =
        tally UInt8.toNat 256 taken.dropLast := by
      rw [markovTransitions_eq, List.map_map, tally]
      exact List.map_congr_left fun source _ => sums source
    rw [sums_eq, sum_tally shorter, List.length_dropLast, real_ofInt, length_eq, ← Int.cast_natCast]
    congr 1
    omega
  have balanced : ∀ row ∈ (markovTransitions taken).zip (byteHistogram taken.dropLast),
      row.2 = row.1.sum := by
    rw [zip_eq]
    exact List.forall_mem_map.mpr fun source _ => (sums source).symm
  refine (foldl_rows (Double.ofInt (len - 1)) balanced 0).trans ?_
  rw [zero_add, conditionalEntropy, zip_eq, ← whole, markovTransitions_eq, List.map_map,
    List.map_map]
  rfl

theorem calcMarkovEntropy_mem {data : List UInt8} {len : Int} (within : len ≤ data.length)
    (short : len < 2 ^ 32) : (calcMarkovEntropy data len : ℝ) ∈ Set.Icc (0 : ℝ) (8 : Nat) := by
  rcases lt_or_ge len 2 with few | some
  · rw [calcMarkovEntropy, if_pos few]
    exact ⟨le_rfl, Nat.cast_nonneg 8⟩
  · rw [real_calcMarkovEntropy some within short]
    refine conditionalEntropy_mem Nat.one_lt_two ?_
    rw [markovTransitions_eq]
    exact List.forall_mem_map.mpr fun source _ => (length_tally _ _ _).le

/-! ### Lengths and windows -/

/-- The histogram of the lengths has at most 4096 bins. -/
theorem lengthDistribution_entropy {lens : List Nat} (some : lens.length > 0) :
    ∃ bits ∈ Set.Icc (0 : ℝ) (12 : Nat),
      addNumber "packet_length_entropy" bits ∈ (lengthDistribution lens : Output ℝ) := by
  rw [lengthDistribution, if_pos some]
  refine ⟨_, ?_, .tail _ (.head _)⟩
  generalize bins_eq :
    (if lens.foldl max (lens.getD 0 0) > 0 ∧ lens.foldl max (lens.getD 0 0) < 4096 then
      lens.foldl max (lens.getD 0 0) + 1 else 4096) = bins
  have few : bins ≤ 2 ^ 12 := by
    rw [← bins_eq]
    split <;> omega
  exact calcShannonEntropy_mem (CountTable.foldl (fun _ counted => counted.modify _) _
    (CountTable.zeros bins)) few (by decide)

theorem scanMax_mem {range : Set ℝ} {start : ℝ} (inside : start ∈ range) {values : List ℝ}
    (within : ∀ value ∈ values, value ∈ range) : scanMax start values ∈ range := by
  obtain ⟨-, -, same | member⟩ := scanMax_spec start values
  · exact same.symm ▸ inside
  · exact within _ member

/-- A window gives at most one bit. -/
theorem trafficEntropy_mem (windowByteCounts : List Nat) :
    ∃ mean ∈ Set.Icc (0 : ℝ) (1 : Nat), ∃ peak ∈ Set.Icc (0 : ℝ) (1 : Nat),
      (trafficEntropy windowByteCounts : Output ℝ) =
        [addNumber "traffic_entropy_ts_mean" mean, addNumber "traffic_entropy_ts_peak" peak] := by
  have nothing : (0 : ℝ) ∈ Set.Icc (0 : ℝ) (1 : Nat) := ⟨le_rfl, Nat.cast_nonneg 1⟩
  rw [trafficEntropy]
  generalize windowByteCounts.filter (fun count => count > 0) = counts
  split
  · rename_i shown
    have some : 0 < counts.length := of_decide_eq_true (Bool.and_eq_true_iff.mp shown).1
    have terms_eq : ((counts >>= fun count => pure (Nat.cast count)).map fun count : ℝ =>
        (-(count / sumUint ℝ counts)) * Real.logb (2 : Nat) (count / sumUint ℝ counts)) =
          counts.map fun count => entropyTerm 2 count counts.sum := by
      rw [bind_pure_comp, List.map_eq_map, List.map_map]
      refine List.map_congr_left fun count _ => ?_
      rw [Function.comp_apply, real_sumUint, entropyTerm, neg_mul]
    have terms : ∀ term ∈ counts.map fun count => entropyTerm 2 count counts.sum,
        term ∈ Set.Icc (0 : ℝ) (1 : Nat) := by
      refine List.forall_mem_map.mpr fun count member => ?_
      have within := List.le_sum_of_mem member
      exact ⟨entropyTerm_nonneg Nat.one_lt_two within,
        Nat.cast_one (R := ℝ) ▸ entropyTerm_le_one Nat.one_lt_two within⟩
    have size : (0 : ℝ) < Nat.cast counts.length := Nat.cast_pos.mpr some
    have sum_le := List.sum_le_card_nsmul _ _ fun term member => (terms term member).2
    rw [List.length_map, nsmul_eq_mul] at sum_le
    refine ⟨entropy 2 counts / Nat.cast counts.length, ⟨?_, ?_⟩, _, scanMax_mem nothing terms, ?_⟩
    · exact div_nonneg (entropy_nonneg Nat.one_lt_two counts) size.le
    · rw [div_le_iff₀ size, mul_comm]
      exact sum_le
    · rw [entropy, ← real_sumDouble, ← terms_eq]
      rfl
  · exact ⟨0, nothing, 0, nothing, rfl⟩

/-! ### Payloads -/

/-- A running mean stays in the interval of its samples. -/
theorem runningStatsUpdate_mem {s : RunningStats ℝ} {least greatest x : ℝ}
    (before : s.mean ∈ Set.Icc least greatest) (inside : x ∈ Set.Icc least greatest) :
    (runningStatsUpdate s x).mean ∈ Set.Icc least greatest :=
  ⟨le_runningMean _ before.1 inside.1, runningMean_le _ before.2 inside.2⟩

/-- The mean entropies of the payloads of a flow. -/
structure PayloadState.EntropiesWithin (state : PayloadState ℝ) : Prop where
  byte_mem : state.payloadEntropyStats.mean ∈ Set.Icc (0 : ℝ) (8 : Nat)
  markov_mem : state.payloadMarkovEntropyStats.mean ∈ Set.Icc (0 : ℝ) (8 : Nat)

theorem payloadStateInit_entropiesWithin :
    (payloadStateInit : PayloadState ℝ).EntropiesWithin :=
  ⟨⟨le_rfl, Nat.cast_nonneg 8⟩, ⟨le_rfl, Nat.cast_nonneg 8⟩⟩

theorem PayloadState.EntropiesWithin.payload {state : PayloadState ℝ}
    (within : state.EntropiesWithin) (platform : Platform ℝ) (payload : List UInt8) :
    (calcPayloadStats platform state payload payload.length).1.EntropiesWithin := by
  have len_le : toInt32 payload.length ≤ payload.length := by
    unfold toInt32
    split <;> omega
  have len_lt : toInt32 payload.length < 2 ^ 32 := by
    unfold toInt32
    split <;> omega
  rw [calcPayloadStats]
  split
  · exact within
  · refine ⟨?_, ?_⟩
    · show (payload.foldl updatePayloadByte _).payloadEntropyStats.mean ∈ _
      rw [foldl_updatePayloadByte PayloadState.payloadEntropyStats fun _ _ => rfl]
      exact runningStatsUpdate_mem within.byte_mem (calcByteEntropy_mem len_le len_lt)
    · show (payload.foldl updatePayloadByte _).payloadMarkovEntropyStats.mean ∈ _
      rw [foldl_updatePayloadByte PayloadState.payloadMarkovEntropyStats fun _ _ => rfl]
      exact runningStatsUpdate_mem within.markov_mem (calcMarkovEntropy_mem len_le len_lt)

/-- Every run keeps the mean entropies of the payloads within a byte. -/
theorem payloadRun_entropiesWithin (platform : Platform ℝ) (payloads : List (List UInt8)) :
    (payloadRun platform payloads).EntropiesWithin := by
  induction payloads using List.reverseRecOn with
  | nil => exact payloadStateInit_entropiesWithin
  | append_singleton payloads payload inductionHypothesis =>
    rw [payloadRun, List.foldl_concat]
    exact inductionHypothesis.payload platform payload

theorem flowRun_entropiesWithin {cfg : FeatureConfig} {platform : Platform ℝ}
    {streamType : StreamType} {callbacks : List (Allocs × RawPacket)} {flow : FlowFeatureState ℝ}
    (run : flowRun cfg platform streamType callbacks = some flow) :
    flow.fields.payload.EntropiesWithin := by
  cases callbacks with
  | nil => cases run
  | cons first rest =>
    rw [flowRun_fields run, flowFields_payload]
    split
    · exact payloadRun_entropiesWithin platform _
    · exact payloadStateInit_entropiesWithin

/-! ### Objects -/

/-- The entropies that an object may have. -/
inductive Entropy where
  | packetLengths | iats | directions | payload | payloadMarkov | first64 | first128 | first256
  | trafficMean | trafficPeak

namespace Entropy

def key : Entropy → String
  | packetLengths => "packet_length_entropy"
  | iats => "iat_entropy"
  | directions => "direction_sequence_entropy"
  | payload => "payload_entropy"
  | payloadMarkov => "payload_markov_entropy"
  | first64 => "payload_first_64_entropy"
  | first128 => "payload_first_128_entropy"
  | first256 => "payload_first_256_entropy"
  | trafficMean => "traffic_entropy_ts_mean"
  | trafficPeak => "traffic_entropy_ts_peak"

/-- The bits that its classes take, or its bytes if they are fewer. -/
def bits : Entropy → Nat
  | packetLengths => 12
  | iats => 5
  | directions => 1
  | payload => 8
  | payloadMarkov => 8
  | first64 => 6
  | first128 => 7
  | first256 => 8
  | trafficMean => 1
  | trafficPeak => 1

def group : Entropy → Group
  | packetLengths => .sequenceStats
  | iats => .iatStats
  | directions => .sequenceStats
  | payload => .payloadStats
  | payloadMarkov => .payloadStats
  | first64 => .payloadMagic
  | first128 => .payloadStats
  | first256 => .payloadStats
  | trafficMean => .behaviorBitrate
  | trafficPeak => .behaviorBitrate

/-- An entropy is written, and within its bits; that of the lengths if there are any. -/
theorem mem_features {cfg : FeatureConfig} {platform : Platform ℝ} {view : View ℝ}
    (within : view.payload.EntropiesWithin) (entropy : Entropy)
    (shown : entropy = packetLengths → (view.seqs .pktLenSeq).length > 0) :
    ∃ value ∈ Set.Icc (0 : ℝ) entropy.bits,
      addNumber entropy.key value ∈ entropy.group.features cfg platform view := by
  cases entropy with
  | packetLengths =>
    obtain ⟨value, inside, member⟩ := lengthDistribution_entropy (shown rfl)
    refine ⟨value, inside, ?_⟩
    exact List.mem_append_left _ (List.mem_append_left _ (List.mem_append_right _ member))
  | iats =>
    obtain ⟨value, inside, member⟩ :=
      iatSequenceFeatures_entropy (view.seqs .iatSeq) view.tempUintBufferSize
    exact ⟨value, inside, List.mem_append_right _ member⟩
  | directions =>
    refine ⟨_, ?_, List.mem_append_left _ (List.mem_append_left _ (List.mem_append_left _
      (List.mem_append_left _ (List.mem_append_left _ (List.mem_append_right _
        (.tail _ (.head _)))))))⟩
    rw [real_calcDirectionEntropy]
    exact entropy_mem_of_length Nat.one_lt_two (show 2 ≤ 2 ^ 1 from le_rfl)
  | payload => exact ⟨_, within.byte_mem, List.mem_append_right _ (.head _)⟩
  | payloadMarkov => exact ⟨_, within.markov_mem, List.mem_append_right _ (.tail _ (.head _))⟩
  | first64 =>
    exact ⟨_, firstBytesEntropy_mem view.payload.payloadFirstBytes (show 6 < 32 by decide),
      List.mem_of_getElem? (i := 17) rfl⟩
  | first128 =>
    exact ⟨_, firstBytesEntropy_mem view.payload.payloadFirstBytes (show 7 < 32 by decide),
      List.mem_append_right _ (List.mem_of_getElem? (i := 4) rfl)⟩
  | first256 =>
    exact ⟨_, firstBytesEntropy_mem view.payload.payloadFirstBytes (show 8 < 32 by decide),
      List.mem_append_right _ (List.mem_of_getElem? (i := 5) rfl)⟩
  | trafficMean =>
    obtain ⟨mean, inside, peak, -, traffic_eq⟩ := trafficEntropy_mem view.windowByteCounts
    refine ⟨mean, inside, List.mem_append_right _ ?_⟩
    rw [traffic_eq]
    exact .head _
  | trafficPeak =>
    obtain ⟨mean, -, peak, inside, traffic_eq⟩ := trafficEntropy_mem view.windowByteCounts
    refine ⟨peak, inside, List.mem_append_right _ ?_⟩
    rw [traffic_eq]
    exact .tail _ (.head _)

end Entropy

/-- The section of the entropy of the lengths is shown only if there are any. -/
theorem lengths_section : ∃ part : KeySection ℝ, part ∈ Group.sequenceStats.sections ∧
    Entropy.packetLengths.key ∈ part.keys ∧
      ∀ view : View ℝ, part.shown view = true → (view.seqs .pktLenSeq).length > 0 := by
  refine ⟨_, .tail _ (.tail _ (.tail _ (.head _))), ?_, fun view => of_decide_eq_true⟩
  exact .tail _ (.head _)

/-- Every entropy in the object of a flow is a number that is not negative and takes at most the
bits of its classes. -/
theorem flowOutput_entropies {cfg : FeatureConfig} {platform : Platform ℝ}
    {streamType : StreamType} {callbacks : List (Allocs × RawPacket)}
    {closing : Allocs × RawPacket} {output : Output ℝ}
    (closed : flowOutput cfg platform streamType callbacks closing = some output)
    (entropy : Entropy) {value : Json ℝ} (written : (entropy.key, value) ∈ output) :
    ∃ bits ∈ Set.Icc (0 : ℝ) entropy.bits, value = .num bits := by
  rw [flowOutput_eq] at closed
  obtain ⟨flow, run, rfl⟩ := Option.map_eq_some_iff.mp closed
  have known := @Entropy.mem_features cfg platform flow.view (flowRun_entropiesWithin run) entropy
  suffices found : entropy.key ∈ entropy.group.keys ∧
      ((entropy.key, value) ∈ entropy.group.features cfg platform flow.view →
        entropy = .packetLengths → (flow.view.seqs .pktLenSeq).length > 0) by
    obtain ⟨-, member⟩ := (Group.mem_flowStateComputeFeatures found.1).mp written
    obtain ⟨bits, inside, other⟩ := known (found.2 member)
    exact ⟨bits, inside, Group.value_unique member other⟩
  by_cases lengths : entropy = .packetLengths
  · -- the section of the lengths is shown only if there are any
    obtain ⟨part, inside, own, shown_iff⟩ := lengths_section
    rw [lengths]
    refine ⟨?_, fun member _ => shown_iff flow.view ?_⟩
    · rw [← Group.keys_eq (D := ℝ)]
      exact List.mem_flatMap.mpr ⟨part, inside, own⟩
    · exact (Group.mem_keys_features_iff inside own).mp (List.mem_map_of_mem member)
  · obtain ⟨_, -, other⟩ := known fun same => absurd same lengths
    exact ⟨Group.key_mem other, fun _ same => absurd same lengths⟩

/-- A packet in each direction. -/
theorem flowOutput_entropies_two : ∃ output : Output ℝ,
    flowOutput defaultConfig (barePlatform ℝ) .tcp
      (allocated [barePacket 1 1 100, barePacket 2 2 100]) (.succeed, barePacket 3 1 0) =
        some output ∧
      ∃ bits ∈ Set.Icc (0 : ℝ) (1 : Nat),
        addNumber "direction_sequence_entropy" bits ∈ output := by
  obtain ⟨flow, run, -⟩ := flowRun_allocated (D := ℝ) defaultConfig (barePlatform ℝ) .tcp
    (barePacket 1 1 100) [barePacket 2 2 100]
  have closed := flowOutput_eq defaultConfig (barePlatform ℝ) .tcp
    (allocated [barePacket 1 1 100, barePacket 2 2 100]) (.succeed, barePacket 3 1 0)
  rw [run] at closed
  obtain ⟨value, -, member⟩ := @Entropy.mem_features defaultConfig (barePlatform ℝ) flow.view
    (flowRun_entropiesWithin run) .directions Entropy.noConfusion
  have written := (@Group.mem_flowStateComputeFeatures ℝ _ defaultConfig (barePlatform ℝ) flow.view
    .tcp (barePacket 3 1 0) _ _ (Group.key_mem member) _).mpr ⟨rfl, member⟩
  obtain ⟨bits, inside, same⟩ := flowOutput_entropies closed .directions written
  exact ⟨_, closed, bits, inside, Json.num.inj same ▸ written⟩

end TiFeatures
