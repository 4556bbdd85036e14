/-
This file settles when the standard deviations computed from arrays of integers
are those of the arrays. The five loops that add up squares multiply in 32 bits,
so the sum is right exactly if no value reaches 65536.
-/

import TiFeatures.Moments
import TiFeatures.WindowCopies

namespace TiFeatures

variable {D : Type}

/-! ### The loops -/

/-- The loops that square the values of an array of `unsigned int`. -/
inductive SquareLoop where
  | windowPackets
  | windowBytes
  | firstN
  | lengths (side : Side)
  deriving DecidableEq

namespace SquareLoop

/-- The values that a loop adds up. -/
def values (view : View D) : SquareLoop → List Nat
  | .windowPackets => view.windowPktCounts.filter fun count => count > 0
  | .windowBytes => copiedBytes view
  | .firstN => view.firstNLens
  | .lengths side => view.arrays side.pktLens

/-- The number of values that the sums are divided by. -/
def count (view : View D) : SquareLoop → Nat
  | .windowPackets | .windowBytes => countValidWindows view.windowPktCounts
  | .firstN => view.firstNLens.length
  | .lengths side => (view.arrays side.pktLens).length

/-- The name that the keys of a loop begin with. -/
def name : SquareLoop → String
  | .windowPackets => "window_packet_count"
  | .windowBytes => "window_byte_count"
  | .firstN => "first_n_packets_length"
  | .lengths .fwd => "fwd_packet_length"
  | .lengths .bwd => "bwd_packet_length"

/-- The group that a loop belongs to. -/
def group : SquareLoop → Group
  | .windowPackets => .windowPkt
  | .windowBytes => .windowByte
  | .firstN => .basicFirstN
  | .lengths _ => .basicPktLength

/-- The loop is reached: there is a value, and the lengths fit the temporary buffer. -/
def Reached (view : View D) : SquareLoop → Prop
  | .windowPackets | .windowBytes => countValidWindows view.windowPktCounts ≠ 0
  | .firstN => view.firstNLens.length > 0
  | .lengths side => (view.arrays side.pktLens).length > 0 ∧
      (view.arrays side.pktLens).length ≤ view.tempUintBufferSize

/-- `sum_sq`. -/
def sumSq [Double D] (loop : SquareLoop) (view : View D) : D := sumSqUint D (loop.values view)

/-- `mean`. -/
def mean [Double D] (loop : SquareLoop) (view : View D) : D :=
  sumUint D (loop.values view) / (loop.count view : D)

/-- The argument of `sqrt`. -/
def radicand [Double D] (loop : SquareLoop) (view : View D) : D :=
  (loop.sumSq view - (loop.count view : D) * loop.mean view * loop.mean view) /
    ((loop.count view - 1 : Nat) : D)

/-- The standard deviation of the lengths of a direction, if they fit the buffer. -/
theorem mem_pktLengthDistribution [Double D] (dir : String) {pktLens : List Nat}
    (stats : RunningStats D) {maxLen : Nat}
    (fits : pktLens.length > 0 ∧ pktLens.length ≤ maxLen) :
    addNumber (dir ++ "_packet_length_std") (sampleStd pktLens.length (sumSqUint D pktLens)
        (sumUint D pktLens / (pktLens.length : D))) ∈
      pktLengthDistribution dir pktLens stats maxLen := by
  rw [pktLengthDistribution, if_pos fits]
  exact List.mem_cons_of_mem _ List.mem_cons_self

/-- A loop that is reached writes the root of its radicand. -/
theorem std_mem [Double D] (loop : SquareLoop) (cfg : FeatureConfig) (platform : Platform D)
    {view : View D} (reached : loop.Reached view) :
    addNumber (loop.name ++ "_std")
        (if loop.count view > 1 then Double.sqrt (loop.radicand view) else 0) ∈
      loop.group.features cfg platform view := by
  cases loop with
  | windowPackets =>
    refine List.mem_of_getElem? (i := 1) ?_
    rw [group, Group.features, if_neg reached]
    rfl
  | windowBytes =>
    refine List.mem_of_getElem? (i := 1) ?_
    rw [group, Group.features, if_neg reached]
    rfl
  | firstN =>
    have some : view.firstNLens.length > 0 := reached
    refine List.mem_of_getElem? (i := 3) ?_
    rw [group, Group.features, basicFirstN, if_pos some]
    rfl
  | lengths side =>
    cases side with
    | fwd =>
      exact List.mem_append_left _ (List.mem_append_right _
        (mem_pktLengthDistribution "fwd" view.pktLen.fwdPktLen.fwd reached))
    | bwd =>
      exact List.mem_append_right _
        (mem_pktLengthDistribution "bwd" view.pktLen.bwdPktLen.bwd reached)

/-! ### Exact arithmetic -/

/-- The values a loop adds up and a zero for every other value its sums are divided by. -/
def array (loop : SquareLoop) (view : View ℝ) : List ℝ :=
  (loop.values view).map (Nat.cast : Nat → ℝ) ++
    List.replicate (loop.count view - (loop.values view).length) 0

/-- The sum of squares is right, and so the root is that of the sample variance. -/
structure Exact (loop : SquareLoop) (view : View ℝ) : Prop where
  sumSq_eq : loop.sumSq view =
    ((loop.values view).map fun value : Nat => (Nat.cast value : ℝ) * Nat.cast value).sum
  radicand_eq : (loop.values view).length ≤ loop.count view →
    loop.radicand view = Moments.sampleVariance (loop.array view)
  radicand_nonneg : (loop.values view).length ≤ loop.count view → 0 ≤ loop.radicand view

end SquareLoop

/-- A sum in exact arithmetic is that of the integers. -/
theorem real_sumSqUint (values : List Nat) :
    sumSqUint ℝ values = Nat.cast (values.map fun value => u32 (value * value)).sum := by
  have folded := Moments.foldl_add_term (fun value : Nat => (Nat.cast (u32 (value * value)) : ℝ))
    values 0
  rw [zero_add] at folded
  rw [Nat.cast_list_sum, List.map_map]
  exact folded

theorem sumUint_eq [Double D] (values : List Nat) :
    sumUint D values = values.foldl (fun sum (value : Nat) => sum + (value : D)) 0 := by
  rw [sumUint, bind_pure_comp]
  exact List.foldl_map

/-- Values converted before they are added up. -/
theorem sumDouble_prepareDoubleBuffer [Double D] (values : List Nat) :
    sumDouble (prepareDoubleBuffer D values) = sumUint D values := by
  rw [prepareDoubleBuffer_eq, sumDouble, List.foldl_map, sumUint_eq]

theorem real_sumUint (values : List Nat) : sumUint ℝ values = Nat.cast values.sum := by
  have folded := Moments.foldl_add_term (fun value : Nat => (Nat.cast value : ℝ)) values 0
  rw [zero_add] at folded
  rw [sumUint_eq, Nat.cast_list_sum]
  exact folded

theorem real_sumDouble (values : List ℝ) : sumDouble values = values.sum := by
  have folded := Moments.foldl_add_term (fun value : ℝ => value) values 0
  rw [zero_add, List.map_id'] at folded
  exact folded

theorem real_sumSqDouble (values : List ℝ) :
    sumSqDouble values = (values.map fun value => value * value).sum := by
  have folded := Moments.foldl_add_term (fun value : ℝ => value * value) values 0
  rw [zero_add] at folded
  exact folded

/-- A guarded quotient lies between -1 and 1 if its numerator is within its denominator. -/
theorem guarded_div_mem_iff {num den : ℝ} (nonneg : 0 ≤ den) (zero : den = 0 → num = 0) :
    (-1 ≤ (if Double.blt 0 den then num / den else 0) ∧
      (if Double.blt 0 den then num / den else 0) ≤ 1) ↔ |num| ≤ den := by
  rcases nonneg.eq_or_lt with equal | positive
  · have fails : ¬ Double.blt 0 den = true := by
      rw [real_blt_iff, ← equal]
      exact lt_irrefl _
    rw [if_neg fails, zero equal.symm, ← equal, abs_zero]
    exact iff_of_true ⟨neg_nonpos.mpr zero_le_one, zero_le_one⟩ le_rfl
  · have lower : -1 ≤ num / den ↔ -den ≤ num := by rw [le_div_iff₀ positive, neg_one_mul]
    rw [if_pos ((real_blt_iff _ _).mpr positive), abs_le]
    exact and_congr lower (div_le_one positive)

/-- A guarded quotient is zero if its numerator or its denominator is. -/
theorem guarded_div_eq_zero_iff {num den : ℝ} (nonneg : 0 ≤ den) :
    (if Double.blt 0 den then num / den else 0) = 0 ↔ den = 0 ∨ num = 0 := by
  rcases nonneg.eq_or_lt with equal | positive
  · have fails : ¬ Double.blt 0 den = true := by
      rw [real_blt_iff, ← equal]
      exact lt_irrefl _
    rw [if_neg fails]
    exact iff_of_true rfl (Or.inl equal.symm)
  · rw [if_pos ((real_blt_iff _ _).mpr positive), or_iff_right positive.ne']
    exact div_eq_zero_iff.trans (or_iff_left positive.ne')

theorem u32_square_eq_iff (value : Nat) : u32 (value * value) = value * value ↔ value < 2 ^ 16 := by
  have square : value < 2 ^ 16 ↔ value * value < 2 ^ 32 := by
    rw [show (2 ^ 32 : Nat) = 2 ^ 16 * 2 ^ 16 by norm_num]
    exact Nat.mul_self_lt_mul_self_iff.symm
  rw [square]
  exact Nat.mod_eq_iff_lt (by decide)

/-- Reduced terms sum to the sum of the terms exactly if none is reduced. -/
theorem sum_u32_eq_iff {Item : Type} (term : Item → Nat) (items : List Item) :
    (items.map fun item => u32 (term item)).sum = (items.map term).sum ↔
      ∀ item ∈ items, u32 (term item) = term item := by
  induction items with
  | nil => simp only [List.map_nil, List.not_mem_nil, false_implies, implies_true]
  | cons item items inductionHypothesis =>
    have first : u32 (term item) ≤ term item := Nat.mod_le _ _
    have others : (items.map fun item => u32 (term item)).sum ≤ (items.map term).sum :=
      List.sum_le_sum fun item _ => Nat.mod_le _ _
    rw [List.map_cons, List.map_cons, List.sum_cons, List.sum_cons, List.forall_mem_cons,
      ← inductionHypothesis]
    omega

namespace SquareLoop

/-- The sum of squares is right exactly if no value reaches 65536. -/
theorem sumSq_eq_iff (loop : SquareLoop) (view : View ℝ) :
    loop.sumSq view =
        ((loop.values view).map fun value : Nat => (Nat.cast value : ℝ) * Nat.cast value).sum ↔
      ∀ value ∈ loop.values view, value < 2 ^ 16 := by
  have squares : ((loop.values view).map fun value : Nat =>
      (Nat.cast value : ℝ) * Nat.cast value).sum =
        Nat.cast ((loop.values view).map fun value => value * value).sum := by
    rw [Nat.cast_list_sum, List.map_map]
    exact congrArg List.sum (List.map_congr_left fun value _ => (Nat.cast_mul value value).symm)
  rw [sumSq, real_sumSqUint, squares, Nat.cast_inj, sum_u32_eq_iff]
  exact forall₂_congr fun value _ => u32_square_eq_iff value

/-- With the right sum of squares the radicand is the sample variance. -/
theorem radicand_eq (loop : SquareLoop) {view : View ℝ}
    (within : (loop.values view).length ≤ loop.count view)
    (right : loop.sumSq view =
      ((loop.values view).map fun value : Nat => (Nat.cast value : ℝ) * Nat.cast value).sum) :
    loop.radicand view = Moments.sampleVariance (loop.array view) := by
  have length_eq : (loop.array view).length = loop.count view := by
    rw [array, List.length_append, List.length_map, List.length_replicate,
      Nat.add_sub_cancel' within]
  have sum_eq : (loop.array view).sum = sumUint ℝ (loop.values view) := by
    rw [array, List.sum_append, List.sum_replicate, smul_zero, add_zero, real_sumUint,
      Nat.cast_list_sum]
  have squares_eq : ((loop.array view).map fun value => value * value).sum = loop.sumSq view := by
    rw [right, array, List.map_append, List.sum_append, List.map_replicate, List.sum_replicate,
      mul_zero, smul_zero, add_zero, List.map_map]
    rfl
  have mean_eq : Moments.mean (loop.array view) = loop.mean view := by
    rw [Moments.mean, sum_eq, length_eq]
    rfl
  rw [Moments.sampleVariance, Moments.centralSum_two_eq, squares_eq, mean_eq, length_eq]
  rfl

/-- The standard deviation of a loop is that of its values exactly if none of them reaches
65536. -/
theorem exact_iff (loop : SquareLoop) (view : View ℝ) :
    loop.Exact view ↔ ∀ value ∈ loop.values view, value < 2 ^ 16 := by
  rw [← sumSq_eq_iff]
  refine ⟨Exact.sumSq_eq, fun right => ⟨right, fun within => loop.radicand_eq within right,
    fun within => ?_⟩⟩
  rw [loop.radicand_eq within right]
  exact Moments.sampleVariance_nonneg _

/-- Two windows of 65536 bytes: both squares are zero in 32 bits, and the root is taken of a
negative number. -/
theorem radicand_negative : ∃ flow : FlowFeatureState ℝ,
    flowRun defaultConfig (barePlatform ℝ) .tcp (allocated
        [barePacket 1 1 32768, barePacket 2 1 32768, { barePacket 1 1 32768 with tvSec := 2 },
          { barePacket 2 1 32768 with tvSec := 2 }]) = some flow ∧
      windowBytes.values flow.view = [65536, 65536] ∧ windowBytes.count flow.view = 2 ∧
      windowBytes.sumSq flow.view = 0 ∧ windowBytes.radicand flow.view < 0 := by
  obtain ⟨flow, run, -⟩ := flowRun_allocated (D := ℝ) defaultConfig (barePlatform ℝ) .tcp
    (barePacket 1 1 32768) [barePacket 2 1 32768, { barePacket 1 1 32768 with tvSec := 2 },
      { barePacket 2 1 32768 with tvSec := 2 }]
  have placements := flowRun_placements run
  obtain ⟨packets, bytes⟩ := flowRun_view_windows run
  have values_eq : windowBytes.values flow.view = [65536, 65536] := by
    rw [values, copiedBytes, bytes, placements.bytes_eq]
    decide
  have count_eq : windowBytes.count flow.view = 2 := by
    rw [count, packets, placements.packets_eq]
    decide
  have sumSq_eq : windowBytes.sumSq flow.view = 0 := by
    rw [sumSq, values_eq, real_sumSqUint, show ([65536, 65536].map fun value =>
      u32 (value * value)).sum = 0 by decide, Nat.cast_zero]
  refine ⟨flow, run, values_eq, count_eq, sumSq_eq, ?_⟩
  rw [radicand, sumSq_eq, mean, count_eq, values_eq, real_sumUint]
  norm_num

end SquareLoop

end TiFeatures
