/-
This file is a small library of the exchange sort: for every pair of indices in turn,
the entries change places if the later one has the greater key. What is left is the
given list in another order, with the keys falling from entry to entry.
-/

import Mathlib.Data.List.GetD
import Mathlib.Data.List.Induction
import Mathlib.Data.List.Sort

namespace Exchange

variable {Item Key : Type} [LinearOrder Key] (key : Item → Key) (fallback : Item)

/-- The entries at two indices change places if the second has the greater key. -/
def exchange (items : List Item) (first second : Nat) : List Item :=
  let a := items.getD first fallback
  let b := items.getD second fallback
  if key a < key b then (items.set first b).set second a else items

/-- The exchanges of one index with some others, one after the other. -/
def sweep (first : Nat) (others : List Nat) (items : List Item) : List Item :=
  others.foldl (fun items second => exchange key fallback items first second) items

/-- The exchanges of the first indices with all that follow them. -/
def sweeps (size count : Nat) (items : List Item) : List Item :=
  (List.range count).foldl (fun items first =>
    sweep key fallback first ((List.range size).filter fun second => first < second) items) items

/-- The exchange sort. -/
def sort (items : List Item) : List Item := sweeps key fallback items.length items.length items

/-! ### One exchange -/

section Once

variable {key fallback} {items : List Item} {first second : Nat}

theorem length_exchange : (exchange key fallback items first second).length = items.length := by
  rw [exchange]
  split
  · rw [List.length_set, List.length_set]
  · rfl

/-- The entries in front of both indices stay. -/
theorem getD_exchange_of_lt (order : first < second) {index : Nat} (before : index < first) :
    (exchange key fallback items first second).getD index fallback =
      items.getD index fallback := by
  rw [exchange]
  split
  · rw [List.getD_eq_getElem?_getD, List.getElem?_set_ne (by omega),
      List.getElem?_set_ne (by omega), ← List.getD_eq_getElem?_getD]
  · rfl

/-- Entries that are exchanged are found at each other's index, and all others stay. -/
theorem getD_exchange_of_gt (order : first < second) (within : second < items.length)
    (greater : key (items.getD first fallback) < key (items.getD second fallback)) (index : Nat) :
    (exchange key fallback items first second).getD index fallback =
      if index = first then items.getD second fallback
      else if index = second then items.getD first fallback
      else items.getD index fallback := by
  rw [exchange]
  rw [if_pos greater, List.getD_eq_getElem?_getD]
  by_cases last : index = second
  · subst last
    rw [List.getElem?_set_self (by rwa [List.length_set]), if_neg order.ne', if_pos rfl,
      Option.getD_some]
  · rw [List.getElem?_set_ne (Ne.symm last), if_neg last]
    by_cases front : index = first
    · subst front
      rw [List.getElem?_set_self (order.trans within), if_pos rfl, Option.getD_some]
    · rw [List.getElem?_set_ne (Ne.symm front), if_neg front, ← List.getD_eq_getElem?_getD]

theorem exchange_of_le
    (smaller : key (items.getD second fallback) ≤ key (items.getD first fallback)) :
    exchange key fallback items first second = items := if_neg (not_lt.mpr smaller)

/-- An entry behind the first index comes from behind the first index. -/
theorem exists_getD_exchange (order : first < second) (within : second < items.length)
    {index : Nat} (behind : first ≤ index) (inside : index < items.length) :
    ∃ source, first ≤ source ∧ source < items.length ∧
      (exchange key fallback items first second).getD index fallback =
        items.getD source fallback := by
  rcases le_or_gt (key (items.getD second fallback)) (key (items.getD first fallback)) with
    smaller | greater
  · exact ⟨index, behind, inside, by rw [exchange_of_le smaller]⟩
  · rw [getD_exchange_of_gt order within greater]
    split
    · exact ⟨second, order.le, within, rfl⟩
    · split
      · exact ⟨first, le_rfl, order.trans within, rfl⟩
      · exact ⟨index, behind, inside, rfl⟩

theorem exchange_perm (order : first < second) (within : second < items.length) :
    (exchange key fallback items first second).Perm items := by
  rw [exchange]
  split
  · rw [List.getD_eq_getElem _ _ within, List.getD_eq_getElem _ _ (order.trans within)]
    exact List.set_set_perm (order.trans within) within
  · exact List.Perm.refl _

end Once

/-! ### Sweeps -/

/-- The entries in another order, the first of them with no smaller key than all behind them. -/
structure Settled (start : List Item) (count : Nat) (items : List Item) : Prop where
  perm : items.Perm start
  key_le : ∀ first, first < count → ∀ second, first < second → second < items.length →
    key (items.getD second fallback) ≤ key (items.getD first fallback)

section Run

variable {key fallback} {start items : List Item} {first : Nat}

theorem Settled.exchange {second : Nat} (settled : Settled key fallback start first items)
    (order : first < second) (within : second < items.length) :
    Settled key fallback start first (Exchange.exchange key fallback items first second) := by
  refine ⟨(exchange_perm order within).trans settled.perm,
    fun front before index behind inside => ?_⟩
  rw [length_exchange] at inside
  rw [getD_exchange_of_lt order before]
  rcases Nat.lt_or_ge index first with early | late
  · rw [getD_exchange_of_lt order early]
    exact settled.key_le front before index behind inside
  · obtain ⟨source, source_le, source_lt, found⟩ :=
      @exists_getD_exchange _ _ _ key fallback items first second order within index late inside
    rw [found]
    exact settled.key_le front before source (before.trans_le source_le) source_lt

/-- The entry at the first index takes the lead over another one and keeps it over the others. -/
theorem key_le_exchange {second : Nat} (order : first < second) (within : second < items.length)
    {seen : List Nat} (behind : ∀ index ∈ seen, first < index)
    (leads : ∀ index ∈ seen, key (items.getD index fallback) ≤ key (items.getD first fallback)) :
    ∀ index ∈ seen ++ [second],
      key ((exchange key fallback items first second).getD index fallback) ≤
        key ((exchange key fallback items first second).getD first fallback) := by
  rw [List.forall_mem_append, List.forall_mem_singleton]
  rcases le_or_gt (key (items.getD second fallback)) (key (items.getD first fallback)) with
    smaller | greater
  · rw [exchange_of_le smaller]
    exact ⟨leads, smaller⟩
  · simp only [getD_exchange_of_gt order within greater, if_true]
    rw [if_neg order.ne']
    refine ⟨fun index member => ?_, greater.le⟩
    rw [if_neg (behind index member).ne']
    split
    · exact greater.le
    · exact (leads index member).trans greater.le

/-- A sweep leaves an entry that leads all it was compared with. -/
theorem Settled.sweep (settled : Settled key fallback start first items) {others : List Nat}
    (behind : ∀ second ∈ others, first < second ∧ second < start.length) :
    Settled key fallback start first (Exchange.sweep key fallback first others items) ∧
      ∀ second ∈ others,
        key ((Exchange.sweep key fallback first others items).getD second fallback) ≤
          key ((Exchange.sweep key fallback first others items).getD first fallback) := by
  induction others using List.reverseRecOn with
  | nil => exact ⟨settled, fun second member => absurd member List.not_mem_nil⟩
  | append_singleton others second inductionHypothesis =>
    rw [List.forall_mem_append, List.forall_mem_singleton] at behind
    obtain ⟨earlier, order, within⟩ := behind
    obtain ⟨swept, leads⟩ := inductionHypothesis earlier
    have step : Exchange.sweep key fallback first (others ++ [second]) items =
        Exchange.exchange key fallback (Exchange.sweep key fallback first others items) first
          second := List.foldl_concat _ _ _ _
    rw [← swept.perm.length_eq] at within
    rw [step]
    exact ⟨swept.exchange order within,
      key_le_exchange order within (fun index member => (earlier index member).1) leads⟩

/-- After the sweeps of the first indices the entries at them are settled. -/
theorem settled_sweeps (start : List Item) (count : Nat) :
    Settled key fallback start count (sweeps key fallback start.length count start) := by
  induction count with
  | zero => exact ⟨List.Perm.refl _, fun first before => absurd before (Nat.not_lt_zero first)⟩
  | succ count inductionHypothesis =>
    have step : sweeps key fallback start.length (count + 1) start =
        sweep key fallback count ((List.range start.length).filter fun second => count < second)
          (sweeps key fallback start.length count start) := by
      rw [sweeps, List.range_succ, List.foldl_concat]
      rfl
    have others : ∀ second,
        second ∈ (List.range start.length).filter (fun second => count < second) ↔
          count < second ∧ second < start.length := fun second => by
      rw [List.mem_filter, List.mem_range, decide_eq_true_iff, and_comm]
    obtain ⟨swept, leads⟩ := inductionHypothesis.sweep fun second member =>
      (others second).mp member
    rw [step]
    refine ⟨swept.perm, fun first before second behind inside => ?_⟩
    rcases Nat.lt_succ_iff_lt_or_eq.mp before with early | rfl
    · exact swept.key_le first early second behind inside
    · exact leads second ((others second).mpr ⟨behind, swept.perm.length_eq ▸ inside⟩)

end Run

/-! ### The sort -/

variable (items : List Item)

theorem settled_sort : Settled key fallback items items.length (sort key fallback items) :=
  settled_sweeps items items.length

theorem sort_perm : (sort key fallback items).Perm items := (settled_sort key fallback items).perm

theorem length_sort : (sort key fallback items).length = items.length :=
  (sort_perm key fallback items).length_eq

/-- The keys fall. -/
theorem pairwise_sort :
    (sort key fallback items).Pairwise fun first second => key second ≤ key first := by
  refine List.pairwise_iff_getElem.mpr fun first second first_lt second_lt order => ?_
  have settled := (settled_sort key fallback items).key_le first
    (first_lt.trans_eq (length_sort key fallback items)) second order second_lt
  rw [List.getD_eq_getElem _ _ (order.trans second_lt), List.getD_eq_getElem _ _ second_lt]
    at settled
  exact settled

end Exchange
