/-
This file is a small library of the entropy of counts, with the logarithm to any base. It
is at most the logarithm of the number of classes and at most that of the total, and it is
zero only if one class has everything.
-/

import Mathlib.Algebra.BigOperators.Group.List.Basic
import Mathlib.Analysis.SpecialFunctions.Log.Base
import Mathlib.Analysis.SpecialFunctions.Log.NegMulLog
import Mathlib.Tactic.Linarith

namespace Counts

/-- The surprise that a class with a part of a total gives, times the part. -/
noncomputable def entropyTerm (base part total : ℕ) : ℝ :=
  -((part / total : ℝ) * Real.logb base (part / total))

/-- The entropy of counts. -/
noncomputable def entropy (base : ℕ) (counts : List ℕ) : ℝ :=
  (counts.map fun part => entropyTerm base part counts.sum).sum

/-- The entropy that is left in a table of counts when the row is known. -/
noncomputable def conditionalEntropy (base : ℕ) (rows : List (List ℕ)) : ℝ :=
  (rows.map fun row => (row.sum / (rows.map List.sum).sum : ℝ) * entropy base row).sum

variable {base part total : ℕ}

@[simp]
theorem entropyTerm_zero (base total : ℕ) : entropyTerm base 0 total = 0 := by
  rw [entropyTerm, Nat.cast_zero, zero_div, zero_mul, neg_zero]

theorem entropyTerm_eq (base part total : ℕ) :
    entropyTerm base part total = Real.negMulLog (part / total) / Real.log base := by
  rw [entropyTerm, Real.negMulLog, Real.logb, neg_mul, neg_div, mul_div_assoc]

theorem part_div_le_one (within : part ≤ total) : (part / total : ℝ) ≤ 1 :=
  div_le_one_of_le₀ (Nat.cast_le.mpr within) (Nat.cast_nonneg total)

theorem sum_shares {counts : List ℕ} (some : 0 < counts.sum) :
    (counts.map fun part : ℕ => (part / counts.sum : ℝ)).sum = 1 := by
  have whole : (counts.sum : ℝ) ≠ 0 := Nat.cast_ne_zero.mpr some.ne'
  simp only [div_eq_mul_inv]
  rw [List.sum_map_mul_right, ← Nat.cast_list_sum, mul_inv_cancel₀ whole]

theorem entropy_of_nothing (base : ℕ) {counts : List ℕ} (nothing : counts.sum = 0) :
    entropy base counts = 0 := by
  refine List.sum_eq_zero (List.forall_mem_map.mpr fun part member => ?_)
  rw [List.sum_eq_zero_iff.mp nothing part member, entropyTerm_zero]

section Bases

variable (proper : 1 < base)

include proper

theorem one_lt_base : (1 : ℝ) < base := Nat.one_lt_cast.mpr proper

theorem log_base_pos : 0 < Real.log base := Real.log_pos (one_lt_base proper)

theorem entropyTerm_nonneg (within : part ≤ total) : 0 ≤ entropyTerm base part total := by
  rw [entropyTerm_eq]
  exact div_nonneg (Real.negMulLog_nonneg (by positivity) (part_div_le_one within))
    (log_base_pos proper).le

/-- A class gives nothing only if it has nothing or everything. -/
theorem entropyTerm_eq_zero_iff (within : part ≤ total) :
    entropyTerm base part total = 0 ↔ part = 0 ∨ part = total := by
  rcases part.eq_zero_or_pos with rfl | some
  · exact iff_of_true (entropyTerm_zero base total) (.inl rfl)
  · have whole : (0 : ℝ) < total := Nat.cast_pos.mpr (some.trans_le within)
    have share : (0 : ℝ) < part / total := div_pos (Nat.cast_pos.mpr some) whole
    have large := one_lt_base proper
    rw [entropyTerm, neg_eq_zero, mul_eq_zero, or_iff_right share.ne', or_iff_right some.ne',
      Real.logb_eq_zero]
    constructor
    · rintro (zero | one | minus | nothing | one | negative)
      · exact absurd zero (zero_lt_one.trans large).ne'
      · exact absurd one large.ne'
      · exact absurd minus (neg_one_lt_zero.trans (zero_lt_one.trans large)).ne'
      · exact absurd nothing share.ne'
      · exact Nat.cast_injective ((div_eq_one_iff_eq whole.ne').mp one)
      · exact absurd negative (neg_one_lt_zero.trans share).ne'
    · rintro rfl
      exact .inr (.inr (.inr (.inr (.inl (div_self whole.ne')))))

/-- The inequality of Gibbs for one class, against equal shares. -/
theorem entropyTerm_le_uniform {classes : ℕ} (some : 0 < classes) (part total : ℕ) :
    entropyTerm base part total ≤ part / total * (Real.logb base classes - (Real.log base)⁻¹) +
      (classes : ℝ)⁻¹ * (Real.log base)⁻¹ := by
  have size : (0 : ℝ) < classes := Nat.cast_pos.mpr some
  rcases (div_nonneg part.cast_nonneg total.cast_nonneg : (0 : ℝ) ≤ part / total).eq_or_lt with
    nothing | share
  · rw [entropyTerm, ← nothing, zero_mul, zero_mul, neg_zero, zero_add]
    exact mul_nonneg (inv_nonneg.mpr size.le) (inv_nonneg.mpr (log_base_pos proper).le)
  · have bound := Real.log_le_sub_one_of_pos (inv_pos.mpr (mul_pos size share))
    rw [Real.log_inv, Real.log_mul size.ne' share.ne'] at bound
    have scaled := mul_le_mul_of_nonneg_left bound share.le
    have cancelled : (part / total : ℝ) * ((classes * (part / total) : ℝ)⁻¹ - 1) =
        (classes : ℝ)⁻¹ - part / total := by
      rw [mul_sub, mul_one, mul_inv, mul_left_comm, mul_inv_cancel₀ share.ne', mul_one]
    rw [cancelled] at scaled
    calc entropyTerm base part total
        = -(part / total * Real.log (part / total)) * (Real.log base)⁻¹ := by
          rw [entropyTerm_eq, Real.negMulLog, neg_mul, div_eq_mul_inv]
      _ ≤ (part / total * (Real.log classes - 1) + (classes : ℝ)⁻¹) * (Real.log base)⁻¹ :=
          mul_le_mul_of_nonneg_right (by linarith) (inv_nonneg.mpr (log_base_pos proper).le)
      _ = _ := by
          rw [Real.logb, div_eq_mul_inv (Real.log classes)]
          ring

/-- The surprise is at most that of a single one of the total. -/
theorem entropyTerm_le_total (part total : ℕ) :
    entropyTerm base part total ≤ part / total * Real.logb base total := by
  rcases part.eq_zero_or_pos with rfl | some
  · rw [entropyTerm_zero, Nat.cast_zero, zero_div, zero_mul]
  · rcases total.eq_zero_or_pos with rfl | whole
    · rw [entropyTerm, Nat.cast_zero, div_zero, zero_mul, neg_zero]
    · have partPos : (0 : ℝ) < part := Nat.cast_pos.mpr some
      have wholePos : (0 : ℝ) < total := Nat.cast_pos.mpr whole
      have least : 0 ≤ Real.logb base part :=
        Real.logb_nonneg (one_lt_base proper) (Nat.one_le_cast.mpr some)
      rw [entropyTerm, Real.logb_div partPos.ne' wholePos.ne', ← mul_neg, neg_sub]
      exact mul_le_mul_of_nonneg_left (sub_le_self _ least) (div_nonneg partPos.le wholePos.le)

theorem entropy_nonneg (counts : List ℕ) : 0 ≤ entropy base counts :=
  List.sum_nonneg (List.forall_mem_map.mpr fun _ member =>
    entropyTerm_nonneg proper (List.le_sum_of_mem member))

/-- The entropy is at most the logarithm of the number of classes. -/
theorem entropy_le_classes {counts : List ℕ} (some : 0 < counts.length) :
    entropy base counts ≤ Real.logb base counts.length := by
  rcases counts.sum.eq_zero_or_pos with nothing | whole
  · rw [entropy_of_nothing base nothing]
    exact Real.logb_nonneg (one_lt_base proper) (Nat.one_le_cast.mpr some)
  · have size : (counts.length : ℝ) ≠ 0 := Nat.cast_ne_zero.mpr some.ne'
    calc entropy base counts
        ≤ (counts.map fun part : ℕ =>
            (part / counts.sum : ℝ) * (Real.logb base counts.length - (Real.log base)⁻¹) +
              (counts.length : ℝ)⁻¹ * (Real.log base)⁻¹).sum :=
          List.sum_le_sum fun part _ => entropyTerm_le_uniform proper some part counts.sum
      _ = Real.logb base counts.length := by
          rw [List.sum_map_add, List.sum_map_mul_right, sum_shares whole, one_mul,
            List.map_const', List.sum_replicate, nsmul_eq_mul, mul_inv_cancel_left₀ size,
            sub_add_cancel]

/-- The entropy is at most the logarithm of the total. -/
theorem entropy_le_total {counts : List ℕ} (some : 0 < counts.sum) :
    entropy base counts ≤ Real.logb base counts.sum :=
  calc entropy base counts
      ≤ (counts.map fun part : ℕ => (part / counts.sum : ℝ) * Real.logb base counts.sum).sum :=
        List.sum_le_sum fun part _ => entropyTerm_le_total proper part counts.sum
    _ = Real.logb base counts.sum := by rw [List.sum_map_mul_right, sum_shares some, one_mul]

/-- There is no entropy only if one class has everything. -/
theorem entropy_eq_zero_iff (counts : List ℕ) :
    entropy base counts = 0 ↔ ∀ part ∈ counts, part = 0 ∨ part = counts.sum := by
  have terms : entropy base counts = 0 ↔
      ∀ part ∈ counts, entropyTerm base part counts.sum = 0 := by
    rw [← List.forall_mem_map (P := (· = 0)) (f := (entropyTerm base · counts.sum))]
    refine ⟨List.all_zero_of_le_zero_le_of_sum_eq_zero ?_, List.sum_eq_zero⟩
    exact List.forall_mem_map.mpr fun _ member =>
      entropyTerm_nonneg proper (List.le_sum_of_mem member)
  rw [terms]
  exact forall₂_congr fun part member => entropyTerm_eq_zero_iff proper (List.le_sum_of_mem member)

/-- The logarithm of a number is at most its number of digits. -/
theorem logb_le {number digits : ℕ} (some : 0 < number) (small : number ≤ base ^ digits) :
    Real.logb base number ≤ digits := by
  rw [Real.logb_le_iff_le_rpow (one_lt_base proper) (Nat.cast_pos.mpr some),
    Real.rpow_natCast]
  exact_mod_cast small

theorem entropy_mem_of_length {counts : List ℕ} {digits : ℕ} (few : counts.length ≤ base ^ digits) :
    entropy base counts ∈ Set.Icc (0 : ℝ) digits := by
  refine ⟨entropy_nonneg proper counts, ?_⟩
  rcases counts.length.eq_zero_or_pos with nothing | some
  · rw [List.length_eq_zero_iff.mp nothing, entropy_of_nothing base List.sum_nil]
    exact Nat.cast_nonneg digits
  · exact (entropy_le_classes proper some).trans (logb_le proper some few)

theorem entropy_mem_of_sum {counts : List ℕ} {digits : ℕ} (few : counts.sum ≤ base ^ digits) :
    entropy base counts ∈ Set.Icc (0 : ℝ) digits := by
  refine ⟨entropy_nonneg proper counts, ?_⟩
  rcases counts.sum.eq_zero_or_pos with nothing | some
  · rw [entropy_of_nothing base nothing]
    exact Nat.cast_nonneg digits
  · exact (entropy_le_total proper some).trans (logb_le proper some few)

theorem conditionalEntropy_mem {rows : List (List ℕ)} {digits : ℕ}
    (few : ∀ row ∈ rows, row.length ≤ base ^ digits) :
    conditionalEntropy base rows ∈ Set.Icc (0 : ℝ) digits := by
  have share_nonneg : ∀ row : List ℕ, (0 : ℝ) ≤ row.sum / (rows.map List.sum).sum :=
    fun row => div_nonneg (Nat.cast_nonneg _) (Nat.cast_nonneg _)
  constructor
  · exact List.sum_nonneg (List.forall_mem_map.mpr fun row _ =>
      mul_nonneg (share_nonneg row) (entropy_nonneg proper row))
  · rcases (rows.map List.sum).sum.eq_zero_or_pos with nothing | some
    · rw [conditionalEntropy, nothing, List.sum_eq_zero]
      · exact Nat.cast_nonneg digits
      · refine List.forall_mem_map.mpr fun row _ => ?_
        rw [Nat.cast_zero, div_zero, zero_mul]
    · calc conditionalEntropy base rows
          ≤ (rows.map fun row : List ℕ =>
              (row.sum / (rows.map List.sum).sum : ℝ) * (digits : ℝ)).sum :=
            List.sum_le_sum fun row member => mul_le_mul_of_nonneg_left
              (entropy_mem_of_length proper (few row member)).2 (share_nonneg row)
        _ = digits := by
            have shares := sum_shares some
            rw [List.map_map] at shares
            rw [List.sum_map_mul_right]
            exact (congrArg (· * (digits : ℝ)) shares).trans (one_mul _)

/-- One class gives at most one digit. -/
theorem entropyTerm_le_one (within : part ≤ total) : entropyTerm base part total ≤ 1 := by
  have both : entropy base [part, total - part] ≤ (1 : ℕ) :=
    (entropy_mem_of_length proper (show 2 ≤ base ^ 1 by rw [pow_one]; exact proper)).2
  have sum_eq : [part, total - part].sum = total := by
    rw [List.sum_cons, List.sum_singleton, Nat.add_sub_cancel' within]
  have rest := entropyTerm_nonneg proper (Nat.sub_le total part)
  rw [entropy, sum_eq, List.map_cons, List.map_singleton, List.sum_cons, List.sum_singleton,
    Nat.cast_one] at both
  linarith

end Bases

end Counts
