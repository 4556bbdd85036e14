/-
This file settles that the two correlations are coefficients. They are computed from
raw sums; in exact arithmetic the product under the root is that of two variances,
and the inequality of Cauchy and Schwarz bounds the quotient.
-/

import TiFeatures.Library.Covariance
import TiFeatures.Squares

namespace TiFeatures

/-! ### The sums -/

section Sums

variable {D : Type} [Double D]

/-- The five sums over a paired sample. -/
def pearsonSums (pairs : List (D × D)) : D × D × D × D × D :=
  pairs.foldl (fun sums pair =>
    (sums.1 + pair.1, sums.2.1 + pair.2, sums.2.2.1 + pair.1 * pair.2,
      sums.2.2.2.1 + pair.1 * pair.1, sums.2.2.2.2 + pair.2 * pair.2)) (0, 0, 0, 0, 0)

/-- `num`. -/
def pearsonNum (pairs : List (D × D)) : D :=
  let sums := pearsonSums pairs
  (pairs.length : D) * sums.2.2.1 - sums.1 * sums.2.1

/-- The argument of `sqrt`. -/
def pearsonProduct (pairs : List (D × D)) : D :=
  let sums := pearsonSums pairs
  ((pairs.length : D) * sums.2.2.2.1 - sums.1 * sums.1) *
    ((pairs.length : D) * sums.2.2.2.2 - sums.2.1 * sums.2.1)

theorem pearson_eq (pairs : List (D × D)) :
    pearson pairs =
      if Double.blt 0 (Double.sqrt (pearsonProduct pairs)) then
        pearsonNum pairs / Double.sqrt (pearsonProduct pairs)
      else 0 := rfl

end Sums

/-- A sum over a sample, as one over its indices. -/
theorem sum_map_eq_sum_index (term : ℝ × ℝ → ℝ) (pairs : List (ℝ × ℝ)) :
    (pairs.map term).sum = ∑ index : Fin pairs.length, term pairs[index] :=
  (Fin.sum_univ_fun_getElem pairs term).symm

theorem real_pearsonSums (pairs : List (ℝ × ℝ)) :
    pearsonSums pairs =
      ((pairs.map fun pair => pair.1).sum, (pairs.map fun pair => pair.2).sum,
        (pairs.map fun pair => pair.1 * pair.2).sum, (pairs.map fun pair => pair.1 * pair.1).sum,
        (pairs.map fun pair => pair.2 * pair.2).sum) := by
  induction pairs using List.reverseRecOn with
  | nil => rfl
  | append_singleton pairs pair inductionHypothesis =>
    simp only [List.map_append, List.map_singleton, List.sum_append, List.sum_singleton]
    rw [pearsonSums] at inductionHypothesis ⊢
    rw [List.foldl_concat, inductionHypothesis]

/-- The numerator is a covariance. -/
theorem real_pearsonNum (pairs : List (ℝ × ℝ)) :
    pearsonNum pairs = Covariance.scaled (Finset.univ : Finset (Fin pairs.length))
      (fun index => pairs[index].1) fun index => pairs[index].2 := by
  rw [pearsonNum, real_pearsonSums, Covariance.scaled, Finset.card_univ, Fintype.card_fin]
  simp only [sum_map_eq_sum_index]

theorem real_pearsonProduct (pairs : List (ℝ × ℝ)) :
    pearsonProduct pairs =
      Covariance.scaled (Finset.univ : Finset (Fin pairs.length))
        (fun index => pairs[index].1) (fun index => pairs[index].1) *
      Covariance.scaled (Finset.univ : Finset (Fin pairs.length))
        (fun index => pairs[index].2) fun index => pairs[index].2 := by
  rw [pearsonProduct, real_pearsonSums, Covariance.scaled, Covariance.scaled, Finset.card_univ,
    Fintype.card_fin]
  simp only [sum_map_eq_sum_index]

/-! ### Coefficients -/

/-- A value that is computed as a correlation from some product under a root. -/
structure IsCorrelation (value product : ℝ) (undefined : Prop) : Prop where
  product_nonneg : 0 ≤ product
  lower : -1 ≤ value
  upper : value ≤ 1
  eq_zero_iff : value = 0 ↔ undefined

/-- The covariance of a paired sample, times the square of its size. -/
noncomputable def sampleCovariance (pairs : List (ℝ × ℝ)) : ℝ :=
  Nat.cast pairs.length * (pairs.map fun pair => pair.1 * pair.2).sum -
    (pairs.map fun pair => pair.1).sum * (pairs.map fun pair => pair.2).sum

theorem pearsonNum_eq (pairs : List (ℝ × ℝ)) : pearsonNum pairs = sampleCovariance pairs := by
  rw [pearsonNum, real_pearsonSums]
  rfl

theorem pearsonProduct_nonneg (pairs : List (ℝ × ℝ)) : 0 ≤ pearsonProduct pairs := by
  rw [real_pearsonProduct]
  exact mul_nonneg (Covariance.scaled_self_nonneg _ _) (Covariance.scaled_self_nonneg _ _)

/-- The product is zero if one of the series is constant. -/
theorem pearsonProduct_eq_zero_iff (pairs : List (ℝ × ℝ)) :
    pearsonProduct pairs = 0 ↔
      (∀ first ∈ pairs, ∀ second ∈ pairs, first.1 = second.1) ∨
        ∀ first ∈ pairs, ∀ second ∈ pairs, first.2 = second.2 := by
  have indexed : ∀ part : ℝ × ℝ → ℝ,
      (∀ i ∈ Finset.univ, ∀ j ∈ Finset.univ, (fun index : Fin pairs.length => part pairs[index]) i =
        (fun index : Fin pairs.length => part pairs[index]) j) ↔
      ∀ first ∈ pairs, ∀ second ∈ pairs, part first = part second := by
    intro part
    constructor
    · intro same first member second other
      obtain ⟨i, first_within, rfl⟩ := List.getElem_of_mem member
      obtain ⟨j, second_within, rfl⟩ := List.getElem_of_mem other
      exact same ⟨i, first_within⟩ (Finset.mem_univ _) ⟨j, second_within⟩ (Finset.mem_univ _)
    · intro same i _ j _
      exact same _ (List.getElem_mem _) _ (List.getElem_mem _)
  rw [real_pearsonProduct, mul_eq_zero, Covariance.scaled_self_eq_zero_iff,
    Covariance.scaled_self_eq_zero_iff, indexed Prod.fst, indexed Prod.snd]

theorem pearsonNum_sq_le (pairs : List (ℝ × ℝ)) : pearsonNum pairs ^ 2 ≤ pearsonProduct pairs := by
  rw [real_pearsonNum, real_pearsonProduct]
  exact Covariance.scaled_sq_le _ _ _

theorem pearson_isCorrelation (pairs : List (ℝ × ℝ)) :
    IsCorrelation (pearson pairs) (pearsonProduct pairs)
      ((∀ first ∈ pairs, ∀ second ∈ pairs, first.1 = second.1) ∨
        (∀ first ∈ pairs, ∀ second ∈ pairs, first.2 = second.2) ∨ sampleCovariance pairs = 0) := by
  have nonneg := pearsonProduct_nonneg pairs
  have root_nonneg : 0 ≤ (Double.sqrt (pearsonProduct pairs) : ℝ) := Real.sqrt_nonneg _
  have root_zero_iff : (Double.sqrt (pearsonProduct pairs) : ℝ) = 0 ↔ pearsonProduct pairs = 0 :=
    Real.sqrt_eq_zero nonneg
  have within : |pearsonNum pairs| ≤ Double.sqrt (pearsonProduct pairs) :=
    Real.abs_le_sqrt (pearsonNum_sq_le pairs)
  have num_zero : (Double.sqrt (pearsonProduct pairs) : ℝ) = 0 → pearsonNum pairs = 0 :=
    fun zero => abs_nonpos_iff.mp (within.trans_eq zero)
  obtain ⟨lower, upper⟩ := (guarded_div_mem_iff root_nonneg num_zero).mpr within
  rw [← or_assoc, ← pearsonProduct_eq_zero_iff, ← pearsonNum_eq, pearson_eq, ← root_zero_iff]
  exact ⟨nonneg, lower, upper, guarded_div_eq_zero_iff root_nonneg⟩

/-- A correlation that is not computed is zero. -/
theorem guarded_isCorrelation (pairs : List (ℝ × ℝ)) {skipped undefined : Prop}
    [Decidable skipped]
    (undefined_iff : undefined ↔ skipped ∨
      (∀ first ∈ pairs, ∀ second ∈ pairs, first.1 = second.1) ∨
      (∀ first ∈ pairs, ∀ second ∈ pairs, first.2 = second.2) ∨ sampleCovariance pairs = 0) :
    IsCorrelation (if skipped then 0 else pearson pairs) (pearsonProduct pairs) undefined := by
  have computed := pearson_isCorrelation pairs
  by_cases holds : skipped
  · rw [if_pos holds]
    exact ⟨computed.product_nonneg, neg_nonpos.mpr zero_le_one, zero_le_one,
      iff_of_true rfl (undefined_iff.mpr (Or.inl holds))⟩
  · rw [if_neg holds]
    exact ⟨computed.product_nonneg, computed.lower, computed.upper,
      computed.eq_zero_iff.trans ((or_iff_right holds).symm.trans undefined_iff.symm)⟩

/-! ### Both functions -/

theorem real_ofInt (value : Int) : (Double.ofInt value : ℝ) = Int.cast value := by
  have size := Int.cast_natCast (R := ℝ) value.natAbs
  rw [Double.ofInt]
  split
  · rename_i negative
    rw [Int.ofNat_natAbs_of_nonpos negative.le, Int.cast_neg] at size
    exact (congrArg Neg.neg size.symm).trans (neg_neg _)
  · rename_i nonneg
    rw [Int.natAbs_of_nonneg (not_lt.mp nonneg)] at size
    exact size.symm

/-- The sample of `calc_length_direction_correlation`. -/
noncomputable def lengthDirectionPairs (pktLens : List Nat) (dirs : List Int) : List (ℝ × ℝ) :=
  (pktLens.zip dirs).map fun pair => (Nat.cast pair.1, Int.cast pair.2)

/-- The sample of `calc_length_iat_correlation`. -/
noncomputable def lengthIatPairs (pktLens iatSeq : List Nat) : List (ℝ × ℝ) :=
  (pktLens.zip iatSeq).map fun pair => (Nat.cast pair.1, Nat.cast pair.2)

/-- Both correlations are coefficients. They are zero where a series is empty, the counts do not
match, one of the series is constant over the paired range, or the covariance is zero. -/
theorem correlations_isCorrelation :
    (∀ (pktLens : List Nat) (dirs : List Int),
      let pairs := pktLens.zip dirs
      IsCorrelation (calcLengthDirectionCorrelation pktLens dirs)
        (pearsonProduct (lengthDirectionPairs pktLens dirs))
        (pktLens = [] ∨ dirs = [] ∨ pktLens.length ≠ dirs.length ∨
          (∀ first ∈ pairs, ∀ second ∈ pairs, first.1 = second.1) ∨
          (∀ first ∈ pairs, ∀ second ∈ pairs, first.2 = second.2) ∨
          sampleCovariance (lengthDirectionPairs pktLens dirs) = 0)) ∧
    ∀ pktLens iatSeq : List Nat,
      let pairs := pktLens.zip iatSeq
      IsCorrelation (calcLengthIatCorrelation pktLens iatSeq)
        (pearsonProduct (lengthIatPairs pktLens iatSeq))
        (pktLens = [] ∨ iatSeq = [] ∨ pktLens.length ≠ iatSeq.length + 1 ∨
          (∀ first ∈ pairs, ∀ second ∈ pairs, first.1 = second.1) ∨
          (∀ first ∈ pairs, ∀ second ∈ pairs, first.2 = second.2) ∨
          sampleCovariance (lengthIatPairs pktLens iatSeq) = 0) := by
  refine ⟨fun pktLens dirs => ?_, fun pktLens iatSeq => ?_⟩
  · have pairs_eq : ((pktLens.zip dirs).map fun pair => (Nat.cast pair.1, Double.ofInt pair.2)) =
        lengthDirectionPairs pktLens dirs := by
      simp only [real_ofInt, lengthDirectionPairs]
    have empty_dirs : dirs = [] → pktLens = [] ∨ pktLens.length ≠ dirs.length := by
      rintro rfl
      rw [← List.length_eq_zero_iff]
      exact Decidable.em _
    rw [calcLengthDirectionCorrelation, pairs_eq]
    refine guarded_isCorrelation _ ?_
    simp only [lengthDirectionPairs, List.forall_mem_map, Nat.cast_inj, Int.cast_inj,
      List.length_eq_zero_iff]
    tauto
  · rw [calcLengthIatCorrelation]
    refine guarded_isCorrelation (lengthIatPairs pktLens iatSeq) ?_
    simp only [lengthIatPairs, List.forall_mem_map, Nat.cast_inj, List.length_eq_zero_iff, or_assoc]

end TiFeatures
