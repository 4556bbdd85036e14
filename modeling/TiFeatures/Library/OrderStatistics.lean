/-
This file is a small library of order statistics: an entry of a sorted list is the
least value that more entries than its index do not exceed.
-/

import Mathlib.Data.List.GetD
import Mathlib.Data.List.Sort

namespace OrderStatistics

variable {Value : Type} [LinearOrder Value]

/-- An entry of a sorted list is at most a bound where the entries up to the bound are more than
its index. -/
theorem lt_countP_le_iff {values : List Value} (sorted : values.Pairwise (· ≤ ·)) {index : Nat}
    (within : index < values.length) (bound : Value) :
    index < values.countP (fun value => value ≤ bound) ↔ values[index] ≤ bound := by
  induction values generalizing index with
  | nil => exact absurd within (Nat.not_lt_zero _)
  | cons value values inductionHypothesis =>
    obtain ⟨least, rest⟩ := List.pairwise_cons.mp sorted
    by_cases small : value ≤ bound
    · rw [List.countP_cons, if_pos (decide_eq_true small)]
      cases index with
      | zero => exact iff_of_true (Nat.succ_pos _) small
      | succ index =>
        rw [Nat.succ_lt_succ_iff, List.getElem_cons_succ]
        exact inductionHypothesis rest (Nat.lt_of_succ_lt_succ within)
    · have none_small : (value :: values).countP (fun value => value ≤ bound) = 0 := by
        refine List.countP_eq_zero.mpr fun other member => ?_
        rw [decide_eq_true_eq]
        rcases List.mem_cons.mp member with rfl | later
        · exact small
        · exact fun below => small ((least other later).trans below)
      rw [none_small]
      refine iff_of_false (Nat.not_lt_zero _) fun below => ?_
      cases index with
      | zero => exact small below
      | succ index => exact small ((least _ (List.getElem_mem _)).trans below)

/-- The entries of a sorted list grow with their index. -/
theorem getD_le_getD {values : List Value} (sorted : values.Pairwise (· ≤ ·)) {first second : Nat}
    (order : first ≤ second) (within : second < values.length) (fallback : Value) :
    values.getD first fallback ≤ values.getD second fallback := by
  rw [List.getD_eq_getElem _ _ (order.trans_lt within), List.getD_eq_getElem _ _ within]
  exact List.sortedLE_iff_getElem_le_getElem_of_le.mp (List.sortedLE_iff_pairwise.mpr sorted) order

/-- Every entry of a sorted list lies between the first and the last. -/
theorem getD_le_of_mem {values : List Value} (sorted : values.Pairwise (· ≤ ·)) {value : Value}
    (member : value ∈ values) (fallback : Value) :
    values.getD 0 fallback ≤ value ∧ value ≤ values.getD (values.length - 1) fallback := by
  obtain ⟨index, within, rfl⟩ := List.getElem_of_mem member
  rw [← List.getD_eq_getElem values fallback within]
  exact ⟨getD_le_getD sorted (Nat.zero_le _) within fallback,
    getD_le_getD sorted (by omega) (by omega) fallback⟩

end OrderStatistics
