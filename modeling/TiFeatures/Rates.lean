/-
This file looks at the windows of the rate sequences. Every packet is added to a
window that exists, and the windows conserve the bytes, unless the number of windows
wraps to zero.
-/

import TiFeatures.Arithmetic
import TiFeatures.Sequence

namespace TiFeatures

/-! ### Windows of bytes -/

/-- A packet adds its bytes to its window, if its direction counts. -/
def addRateBytes (tsSeq : List Nat) (counts : Int → Bool) (bytes : List Nat)
    (packet : Nat × Nat × Int) : List Nat :=
  if counts packet.2.2 then
    bytes.modify (rateWindowIndex tsSeq packet.1) fun sum => sum + packet.2.1
  else bytes

/-- The bytes of the packets of one direction, window by window. -/
def rateBytes (tsSeq lens : List Nat) (dirs : List Int) (counts : Int → Bool) : List Nat :=
  (tsSeq.zip (lens.zip dirs)).foldl (addRateBytes tsSeq counts)
    (List.replicate (rateWindowCount tsSeq) 0)

/-- Arithmetic in which the rates of byte counts are exact: a byte in a window of 50 ms is a rate
of 160 bits a second. -/
structure ExactRates (D : Type) [Double D] : Prop where
  zero_eq : (0 : D) = ((0 : Nat) : D)
  rate_eq : ∀ bytes len : Nat, ((160 * bytes : Nat) : D) + (len : D) * 8 / (5 / 100) =
    ((160 * (bytes + len) : Nat) : D)

theorem real_exactRates : ExactRates ℝ where
  zero_eq := real_exactIntegers.zero_eq
  rate_eq bytes len := by
    have rate : (Nat.cast (160 * bytes) : ℝ) + Nat.cast len * Nat.cast 8 /
        (Nat.cast 5 / Nat.cast 100) = Nat.cast (160 * (bytes + len)) := by
      push_cast
      ring
    exact rate

variable {D : Type} [Double D]

/-- The loop body adds the rate of the bytes. -/
theorem ExactRates.map_addRateBytes (exact : ExactRates D) (tsSeq : List Nat)
    (counts : Int → Bool) (bytes : List Nat) (packet : Nat × Nat × Int) :
    (addRateBytes tsSeq counts bytes packet).map (fun bytes => ((160 * bytes : Nat) : D)) =
      if counts packet.2.2 then
        (bytes.map fun bytes => ((160 * bytes : Nat) : D)).modify
          (rateWindowIndex tsSeq packet.1) fun sum => sum + (packet.2.1 : D) * 8 / (5 / 100)
      else bytes.map fun bytes => ((160 * bytes : Nat) : D) := by
  rw [addRateBytes]
  split
  · refine List.ext_getElem (by simp only [List.length_map, List.length_modify]) ?_
    intro index within _
    rw [List.getElem_map, List.getElem_modify, List.getElem_modify, List.getElem_map]
    split
    · exact (exact.rate_eq _ _).symm
    · rfl
  · rfl

/-- The rates are those of the bytes. -/
theorem ExactRates.rateSequence_eq (exact : ExactRates D) (tsSeq lens : List Nat)
    (dirs : List Int) (counts : Int → Bool) :
    (rateSequence tsSeq lens dirs counts : List D) =
      (rateBytes tsSeq lens dirs counts).map fun bytes => ((160 * bytes : Nat) : D) := by
  have start : List.replicate (rateWindowCount tsSeq) (0 : D) =
      (List.replicate (rateWindowCount tsSeq) 0).map fun bytes => ((160 * bytes : Nat) : D) := by
    rw [List.map_replicate, exact.zero_eq]
  rw [rateSequence, rateBytes, start]
  exact List.foldl_hom _ fun bytes packet => (exact.map_addRateBytes tsSeq counts bytes packet).symm

/-! ### The sum over the windows -/

theorem sum_modify_add {values : List Nat} {index : Nat} (within : index < values.length)
    (amount : Nat) :
    (values.modify index fun value => value + amount).sum = values.sum + amount := by
  induction values generalizing index with
  | nil => exact absurd within (Nat.not_lt_zero _)
  | cons value rest inductionHypothesis =>
    cases index with
    | zero =>
      rw [List.modify_zero_cons, List.sum_cons, List.sum_cons]
      omega
    | succ index =>
      rw [List.modify_succ_cons, List.sum_cons, List.sum_cons,
        inductionHypothesis (Nat.lt_of_succ_lt_succ within)]
      omega

theorem length_addRateBytes (tsSeq : List Nat) (counts : Int → Bool) (bytes : List Nat)
    (packet : Nat × Nat × Int) :
    (addRateBytes tsSeq counts bytes packet).length = bytes.length := by
  rw [addRateBytes]
  split
  · exact List.length_modify ..
  · rfl

/-- The bytes of the packets of a direction. -/
def directionBytes (packets : List (Nat × Int)) (counts : Int → Bool) : Nat :=
  ((packets.filter fun packet => counts packet.2).map Prod.fst).sum

/-- The windows gain the bytes of the packets that count, if each of them falls into one. -/
theorem sum_foldl_addRateBytes (tsSeq : List Nat) (counts : Int → Bool)
    (packets : List (Nat × Nat × Int)) (bytes : List Nat)
    (within : ∀ packet ∈ packets, counts packet.2.2 = true →
      rateWindowIndex tsSeq packet.1 < bytes.length) :
    (packets.foldl (addRateBytes tsSeq counts) bytes).sum =
      bytes.sum + directionBytes (packets.map Prod.snd) counts := by
  induction packets generalizing bytes with
  | nil => rfl
  | cons packet rest inductionHypothesis =>
    have later : ∀ other ∈ rest, counts other.2.2 = true →
        rateWindowIndex tsSeq other.1 < (addRateBytes tsSeq counts bytes packet).length := by
      intro other member counted
      rw [length_addRateBytes]
      exact within other (List.mem_cons_of_mem _ member) counted
    rw [List.foldl_cons, inductionHypothesis _ later, directionBytes, directionBytes, List.map_cons,
      List.filter_cons, addRateBytes]
    split
    · rename_i counted
      rw [sum_modify_add (within packet List.mem_cons_self counted), List.map_cons, List.sum_cons,
        Nat.add_assoc]
    · rfl

/-- The windows together have the bytes of the direction, if every packet falls into one. -/
theorem sum_rateBytes {tsSeq lens : List Nat} {dirs : List Int} {counts : Int → Bool}
    (lens_length : lens.length = tsSeq.length) (dirs_length : dirs.length = tsSeq.length)
    (within : ∀ packet ∈ tsSeq.zip (lens.zip dirs), counts packet.2.2 = true →
      rateWindowIndex tsSeq packet.1 < rateWindowCount tsSeq) :
    (rateBytes tsSeq lens dirs counts).sum = directionBytes (lens.zip dirs) counts := by
  have summed := sum_foldl_addRateBytes tsSeq counts (tsSeq.zip (lens.zip dirs))
    (List.replicate (rateWindowCount tsSeq) 0) fun packet member counted => by
      rw [List.length_replicate]
      exact within packet member counted
  rw [List.map_snd_zip (by rw [List.length_zip]; omega), List.sum_replicate, nsmul_zero,
    Nat.zero_add] at summed
  exact summed

/-! ### Windows that exist -/

/-- Every packet falls into a window, unless there are none. -/
theorem rateWindowIndex_lt {tsSeq : List Nat} (some_window : rateWindowCount tsSeq ≠ 0) (ts : Nat) :
    rateWindowIndex tsSeq ts < rateWindowCount tsSeq := by
  have count_lt : rateWindowCount tsSeq < 2 ^ 32 := u32_lt _
  rw [rateWindowIndex]
  split
  · rw [u32]
    omega
  · omega

/-- There is no window when the number of whole windows is the largest of 32 bits. -/
theorem rateWindowCount_eq_zero (tsSeq : List Nat) :
    rateWindowCount tsSeq = 0 ↔
      u32 (u64Sub (tsSeq.getD (tsSeq.length - 1) 0) (tsSeq.getD 0 0) / 50000) = 2 ^ 32 - 1 := by
  rw [rateWindowCount, u32]
  have whole_lt := u32_lt (u64Sub (tsSeq.getD (tsSeq.length - 1) 0) (tsSeq.getD 0 0) / 50000)
  omega

/-- Every rate is added to a window that exists, and the rates of each direction sum to 160 times
its bytes. -/
structure RatesConserved (tsSeq lens : List Nat) (dirs : List Int) : Prop where
  within : ∀ packet ∈ tsSeq.zip (lens.zip dirs), packet.2.2 ≠ 0 →
    rateWindowIndex tsSeq packet.1 < rateWindowCount tsSeq
  up_sum : (rateSequence tsSeq lens dirs fun dir => dir > 0 : List ℝ).sum =
    ((160 * directionBytes (lens.zip dirs) fun dir => dir > 0 : Nat) : ℝ)
  down_sum : (rateSequence tsSeq lens dirs fun dir => dir < 0 : List ℝ).sum =
    ((160 * directionBytes (lens.zip dirs) fun dir => dir < 0 : Nat) : ℝ)

/-- The sum of the rates over the reals. -/
theorem real_sum_rateSequence {tsSeq lens : List Nat} {dirs : List Int} {counts : Int → Bool}
    (lens_length : lens.length = tsSeq.length) (dirs_length : dirs.length = tsSeq.length)
    (within : ∀ packet ∈ tsSeq.zip (lens.zip dirs), counts packet.2.2 = true →
      rateWindowIndex tsSeq packet.1 < rateWindowCount tsSeq) :
    (rateSequence tsSeq lens dirs counts : List ℝ).sum =
      ((160 * directionBytes (lens.zip dirs) counts : Nat) : ℝ) := by
  rw [real_exactRates.rateSequence_eq, ← sum_rateBytes lens_length dirs_length within]
  have cast_sum : ∀ values : List Nat,
      (values.map fun bytes => (Nat.cast (160 * bytes) : ℝ)).sum = Nat.cast (160 * values.sum) := by
    intro values
    induction values with
    | nil => exact Nat.cast_zero.symm
    | cons value rest inductionHypothesis =>
      rw [List.map_cons, List.sum_cons, inductionHypothesis, List.sum_cons, Nat.mul_add,
        Nat.cast_add]
  exact cast_sum _

/-- The rates are conserved when there is a window, or no packet has a direction. -/
theorem ratesConserved_iff {tsSeq lens : List Nat} {dirs : List Int}
    (lens_length : lens.length = tsSeq.length) (dirs_length : dirs.length = tsSeq.length) :
    RatesConserved tsSeq lens dirs ↔
      u32 (u64Sub (tsSeq.getD (tsSeq.length - 1) 0) (tsSeq.getD 0 0) / 50000) ≠ 2 ^ 32 - 1 ∨
        ∀ dir ∈ dirs, dir = 0 := by
  have every : ∀ dir ∈ dirs, ∃ packet ∈ tsSeq.zip (lens.zip dirs), packet.2.2 = dir := by
    intro dir member
    have dirs_eq : ((tsSeq.zip (lens.zip dirs)).map Prod.snd).map Prod.snd = dirs := by
      rw [List.map_snd_zip (by rw [List.length_zip]; omega), List.map_snd_zip (by omega)]
    rw [← dirs_eq, List.map_map] at member
    exact List.mem_map.mp member
  rw [ne_eq, ← rateWindowCount_eq_zero]
  constructor
  · intro conserved
    by_cases none_window : rateWindowCount tsSeq = 0
    · refine Or.inr fun dir member => ?_
      obtain ⟨packet, inside, rfl⟩ := every dir member
      by_contra directed
      have written := conserved.within packet inside directed
      rw [none_window] at written
      exact Nat.not_lt_zero _ written
    · exact Or.inl none_window
  · intro condition
    have within : ∀ packet ∈ tsSeq.zip (lens.zip dirs), packet.2.2 ≠ 0 →
        rateWindowIndex tsSeq packet.1 < rateWindowCount tsSeq := by
      intro packet member directed
      rcases condition with some_window | undirected
      · exact rateWindowIndex_lt some_window packet.1
      · exact absurd (undirected _ (List.of_mem_zip (List.of_mem_zip member).2).2) directed
    refine ⟨within, real_sum_rateSequence lens_length dirs_length fun packet member up => ?_,
      real_sum_rateSequence lens_length dirs_length fun packet member down => ?_⟩
    · exact within packet member (of_decide_eq_true up).ne'
    · exact within packet member (of_decide_eq_true down).ne

/-- Two packets a little less than seven years apart, for which there is no window. -/
theorem ratesConserved_wraps : ¬ RatesConserved [1, 214748364750001] [100, 100] [1, 1] := by
  intro conserved
  exact absurd (conserved.within (1, 100, 1) List.mem_cons_self (by decide)) (by decide)

theorem ratesConserved_second : RatesConserved [1, 1000001] [100, 100] [1, -1] :=
  (@ratesConserved_iff [1, 1000001] [100, 100] [1, -1] rfl rfl).mpr (Or.inl (by decide))

end TiFeatures
