/-
This file settles what the top frequencies are. The loops search for the place of a
magnitude and move the smaller ones on by one; together they select the largest
magnitudes behind the first, ties by their index, and the first of them is the peak of
the power spectral density.
-/

import TiFeatures.FreqDomain
import TiFeatures.Library.Selection
import TiFeatures.Summaries

namespace TiFeatures

open Selection

/-! ### The loops -/

section Loops

variable {D : Type} [Double D]

/-- The loop that moves the entries behind `j` on by one, from the last one down. -/
def shiftTopK (j : Nat) : Nat → List (Int × D) → List (Int × D)
  | 0, top => top
  | l + 1, top =>
    if l + 1 > j then shiftTopK j l (top.set (l + 1) (top.getD l (0, 0))) else top

/-- The loop over `j`: the first entry with a smaller magnitude gives way. -/
def placeTopK (index : Int) (mag : D) (top : List (Int × D)) : List (Int × D) :=
  match (List.range top.length).find? fun j => Double.blt (top.getD j (0, 0)).2 mag with
  | some j => (shiftTopK j (top.length - 1) top).set j (index, mag)
  | none => top

theorem length_shiftTopK (j l : Nat) (top : List (Int × D)) :
    (shiftTopK j l top).length = top.length := by
  induction l generalizing top with
  | zero => rfl
  | succ l inductionHypothesis =>
    rw [shiftTopK]
    split
    · rw [inductionHypothesis, List.length_set]
    · rfl

/-- The loop moves the entries on, and leaves those up to `j` and behind its start as they are. -/
theorem getElem?_shiftTopK {j l : Nat} {top : List (Int × D)} (within : l < top.length)
    (place : Nat) :
    (shiftTopK j l top)[place]? =
      if j < place ∧ place ≤ l then top[place - 1]? else top[place]? := by
  induction l generalizing top with
  | zero =>
    rw [shiftTopK, if_neg (by omega)]
  | succ l inductionHypothesis =>
    rw [shiftTopK]
    by_cases behind : l + 1 > j
    · rw [if_pos behind, inductionHypothesis (by rw [List.length_set]; omega)]
      have moved : (top.set (l + 1) (top.getD l (0, 0)))[l + 1]? = top[l]? := by
        rw [List.getElem?_set_self within, List.getD_eq_getElem _ _ (by omega),
          List.getElem?_eq_getElem]
      have kept : ∀ other, l + 1 ≠ other →
          (top.set (l + 1) (top.getD l (0, 0)))[other]? = top[other]? := fun other apart =>
        List.getElem?_set_ne apart
      by_cases last : place = l + 1
      · subst last
        rw [if_neg (by omega), if_pos ⟨behind, le_rfl⟩, moved]
        rfl
      · by_cases inside : j < place ∧ place ≤ l
        · rw [if_pos inside, if_pos ⟨inside.1, by omega⟩, kept _ (by omega)]
        · rw [if_neg inside, if_neg (by omega), kept _ (Ne.symm last)]
    · rw [if_neg behind, if_neg (by omega)]

/-- An entry gives way at its place, and the last one falls off. -/
theorem set_shiftTopK {j : Nat} {top : List (Int × D)} (within : j < top.length)
    (entry : Int × D) :
    (shiftTopK j (top.length - 1) top).set j entry =
      top.take j ++ entry :: (top.drop j).dropLast := by
  have front_length : (top.take j).length = j := by
    rw [List.length_take]
    omega
  refine List.ext_getElem? fun place => ?_
  rcases Nat.lt_trichotomy place j with before | rfl | behind
  · rw [List.getElem?_set_ne (by omega), getElem?_shiftTopK (by omega), if_neg (by omega),
      List.getElem?_append_left (by omega), List.getElem?_take_of_lt before]
  · rw [List.getElem?_set_self (by rwa [length_shiftTopK]),
      List.getElem?_append_right front_length.le, front_length, Nat.sub_self]
    rfl
  · obtain ⟨distance, rfl⟩ := Nat.exists_eq_add_of_lt behind
    have moved : j + distance + 1 - j = distance + 1 := by omega
    rw [List.getElem?_set_ne (by omega), getElem?_shiftTopK (by omega),
      List.getElem?_append_right (by omega), front_length, moved, List.getElem?_cons_succ,
      List.getElem?_dropLast, List.getElem?_drop, List.length_drop]
    by_cases inside : distance < top.length - j - 1
    · rw [if_pos (by omega), if_pos inside]
      rfl
    · rw [if_neg (by omega), if_neg inside, List.getElem?_eq_none (by omega)]

theorem insertTopK_eq (index : Int) (mag : D) (top : List (Int × D)) :
    insertTopK index mag top =
      match (List.range top.length).find? fun j => Double.blt (top.getD j (0, 0)).2 mag with
      | some j => top.take j ++ (index, mag) :: (top.drop j).dropLast
      | none => top := by
  induction top with
  | nil => rfl
  | cons entry rest inductionHypothesis =>
    have found_eq : ((List.range (entry :: rest).length).find? fun j =>
        Double.blt ((entry :: rest).getD j (0, 0)).2 mag) =
        if Double.blt entry.2 mag then some 0 else
          ((List.range rest.length).find? fun j =>
            Double.blt (rest.getD j (0, 0)).2 mag).map Nat.succ := by
      rw [List.length_cons, List.range_succ_eq_map, List.find?_cons, List.find?_map]
      cases smaller : Double.blt entry.2 mag with
      | true => simp only [List.getD_cons_zero, smaller, if_true]
      | false =>
        simp only [List.getD_cons_zero, smaller]
        rfl
    rw [insertTopK, found_eq]
    by_cases smaller : Double.blt entry.2 mag = true
    · rw [if_pos smaller, if_pos smaller]
      rfl
    · rw [if_neg smaller, if_neg smaller, inductionHypothesis]
      cases (List.range rest.length).find? fun j => Double.blt (rest.getD j (0, 0)).2 mag with
      | none => rfl
      | some j => rfl

/-- The loops insert the entry into the list. -/
theorem placeTopK_eq (index : Int) (mag : D) (top : List (Int × D)) :
    placeTopK index mag top = insertTopK index mag top := by
  rw [placeTopK, insertTopK_eq]
  cases found : (List.range top.length).find? fun j => Double.blt (top.getD j (0, 0)).2 mag with
  | none => rfl
  | some j => exact set_shiftTopK (List.mem_range.mp (List.mem_of_find?_eq_some found)) _

/-- `fft_get_top_k`, with its loops over the entries. -/
def fftGetTopKLoops (magnitudes : List D) (k : Nat) : List (Int × D) :=
  (List.range' 1 (magnitudes.length - 1)).foldl
    (fun top (i : Nat) => placeTopK i (magnitudes.getD i 0) top) (List.replicate k (-1, -1))

theorem tail_range_zip (magnitudes : List D) :
    ((List.range magnitudes.length).zip magnitudes).tail =
      (List.range' 1 (magnitudes.length - 1)).map fun i => (i, magnitudes.getD i 0) := by
  refine List.ext_getElem ?_ fun index within _ => ?_
  · rw [List.length_tail, List.length_zip, List.length_range, min_self, List.length_map,
      List.length_range']
  · rw [List.length_tail, List.length_zip, List.length_range, min_self] at within
    rw [List.getElem_tail, List.getElem_zip, List.getElem_range, List.getElem_map,
      List.getElem_range', Nat.one_mul, Nat.add_comm 1, List.getD_eq_getElem]

/-- The loops compute the list. -/
theorem fftGetTopKLoops_eq {magnitudes : List D} (many : 1 < magnitudes.length) (k : Nat) :
    fftGetTopKLoops magnitudes k = fftGetTopK magnitudes k := by
  rw [fftGetTopK, if_neg (not_le.mpr many), tail_range_zip, List.foldl_map, fftGetTopKLoops]
  simp only [placeTopK_eq]

end Loops

/-! ### The selection -/

/-- The entry of a frequency. -/
noncomputable def topEntry (magnitudes : List ℝ) (index : Nat) : Int × ℝ :=
  (index, magnitudes.getD index 0)

/-- An entry goes in front of the smaller ones, and what does not fit any more is cut off. -/
theorem insertTopK_map {magnitudes : List ℝ} {index : Nat} (nonneg : 0 ≤ magnitudes.getD index 0)
    (chosen : List Nat) (free : Nat) :
    insertTopK index (magnitudes.getD index 0)
        (chosen.map (topEntry magnitudes) ++ List.replicate free (-1, -1)) =
      ((insertBehind (fun index => magnitudes.getD index 0) index chosen).map
          (topEntry magnitudes) ++ List.replicate free (-1, -1)).take (chosen.length + free) := by
  induction chosen with
  | nil =>
    cases free with
    | zero => rfl
    | succ free =>
      have smaller : Double.blt (-1 : ℝ) (magnitudes.getD index 0) = true :=
        (real_blt_iff _ _).mpr (neg_one_lt_zero.trans_le nonneg)
      rw [List.map_nil, List.nil_append, List.replicate_succ, insertTopK, if_pos smaller,
        ← List.replicate_succ, List.dropLast_replicate, List.length_nil, Nat.zero_add,
        insertBehind, List.orderedInsert_nil, List.map_singleton, List.singleton_append,
        List.take_succ_cons, List.take_replicate, min_eq_left (Nat.le_succ free)]
      rfl
  | cons head tail inductionHypothesis =>
    have longer : (head :: tail).length + free = (tail.length + free) + 1 := by
      rw [List.length_cons]
      omega
    have compared : Double.blt (topEntry magnitudes head).2 (magnitudes.getD index 0) = true ↔
        magnitudes.getD head 0 < magnitudes.getD index 0 := real_blt_iff _ _
    rw [List.map_cons, List.cons_append, insertTopK, insertBehind, List.orderedInsert_cons, longer]
    by_cases smaller : magnitudes.getD head 0 < magnitudes.getD index 0
    · rw [if_pos (compared.mpr smaller), if_pos smaller, List.dropLast_eq_take,
        List.length_cons, List.length_append, List.length_map, List.length_replicate,
        Nat.add_sub_cancel, List.map_cons, List.map_cons, List.cons_append, List.cons_append,
        List.take_succ_cons]
      rfl
    · rw [if_neg (mt compared.mp smaller), if_neg smaller, List.map_cons,
        List.cons_append, List.take_succ_cons, inductionHypothesis]
      rfl

/-- The entries behind some frequencies are those selected of them, and then the unused ones. -/
theorem foldl_insertTopK (magnitudes : List ℝ) (nonneg : ∀ index, 0 ≤ magnitudes.getD index 0)
    (k : Nat) (items : List Nat) :
    items.foldl (fun top (i : Nat) => insertTopK i (magnitudes.getD i 0) top)
        (List.replicate k (-1, -1)) =
      (select (fun index => magnitudes.getD index 0) k items).map (topEntry magnitudes) ++
        List.replicate (k - items.length) (-1, -1) := by
  induction items using List.reverseRecOn with
  | nil => rfl
  | append_singleton items item inductionHypothesis =>
    have length_eq := length_select (fun index => magnitudes.getD index 0) k items
    have grown := (@perm_insertBehind _ _ _ (fun index => magnitudes.getD index 0) item
      (select (fun index => magnitudes.getD index 0) k items)).length_eq
    have room : min k items.length + (k - items.length) = k := by omega
    rw [List.foldl_concat, inductionHypothesis, insertTopK_map (nonneg item), length_eq, room,
      List.take_append, List.length_map, grown, List.length_cons, length_eq, List.take_replicate,
      ← List.map_take, ← select_concat, List.length_append, List.length_singleton]
    rw [show min (k - (min k items.length + 1)) (k - items.length) =
      k - (items.length + 1) by omega]

/-- A scan finds the greatest value. -/
theorem scanMax_spec (start : ℝ) (values : List ℝ) :
    start ≤ scanMax start values ∧ (∀ value ∈ values, value ≤ scanMax start values) ∧
      (scanMax start values = start ∨ scanMax start values ∈ values) := by
  induction values using List.reverseRecOn with
  | nil => exact ⟨le_rfl, fun value member => absurd member List.not_mem_nil, Or.inl rfl⟩
  | append_singleton values value inductionHypothesis =>
    obtain ⟨start_le, upper, found⟩ := inductionHypothesis
    have step : scanMax start (values ++ [value]) =
        if Double.blt (scanMax start values) value then value else scanMax start values := by
      rw [scanMax, List.foldl_concat]
      rfl
    rw [step]
    simp only [List.mem_append, List.mem_singleton]
    by_cases greater : scanMax start values < value
    · rw [if_pos ((real_blt_iff _ _).mpr greater)]
      refine ⟨start_le.trans greater.le, fun other member => ?_, Or.inr (Or.inr rfl)⟩
      rcases member with before | rfl
      · exact (upper other before).trans greater.le
      · exact le_rfl
    · rw [if_neg (mt (real_blt_iff _ _).mp greater)]
      refine ⟨start_le, fun other member => ?_, found.imp_right Or.inl⟩
      rcases member with before | rfl
      · exact upper other before
      · exact not_lt.mp greater

/-- The peak is the square of the greatest magnitude behind the first. -/
theorem fftComputePsdPeak_eq {magnitudes : List ℝ} (many : 1 < magnitudes.length) {greatest : ℝ}
    (member : greatest ∈ magnitudes.tail)
    (upper : ∀ mag ∈ magnitudes.tail, 0 ≤ mag ∧ mag ≤ greatest) :
    fftComputePsdPeak magnitudes = greatest * greatest := by
  obtain ⟨-, above, found⟩ := scanMax_spec 0 (magnitudes.tail.map fun mag => mag * mag)
  rw [fftComputePsdPeak, if_neg (not_le.mpr many)]
  refine le_antisymm ?_ (above _ (List.mem_map_of_mem member))
  rcases found with start | inside
  · exact start.trans_le (mul_self_nonneg _)
  · obtain ⟨mag, mag_member, square⟩ := List.mem_map.mp inside
    exact square ▸ mul_self_le_mul_self (upper mag mag_member).1 (upper mag mag_member).2

/-- The magnitudes that are not negative, also where none is read. -/
theorem getD_nonneg {magnitudes : List ℝ} (nonneg : ∀ mag ∈ magnitudes, 0 ≤ mag) (index : Nat) :
    0 ≤ magnitudes.getD index 0 := by
  rcases lt_or_ge index magnitudes.length with within | beyond
  · exact (nonneg _ (List.getElem_mem within)).trans_eq
      (List.getD_eq_getElem magnitudes 0 within).symm
  · exact (List.getD_eq_default magnitudes 0 beyond).ge

/-- The magnitudes behind the first, by their index. -/
theorem tail_eq_map (magnitudes : List ℝ) :
    magnitudes.tail =
      (List.range' 1 (magnitudes.length - 1)).map fun index => magnitudes.getD index 0 := by
  have zipped := congrArg (List.map Prod.snd) (tail_range_zip magnitudes)
  rw [List.map_tail, List.map_snd_zip (by rw [List.length_range]), List.map_map] at zipped
  exact zipped

/-- The entries are the selected ones, and then the unused ones. -/
theorem fftGetTopK_eq {magnitudes : List ℝ} (nonneg : ∀ mag ∈ magnitudes, 0 ≤ mag)
    (many : 1 < magnitudes.length) (k : Nat) :
    fftGetTopK magnitudes k =
      (select (fun index => magnitudes.getD index 0) k
          (List.range' 1 (magnitudes.length - 1))).map (topEntry magnitudes) ++
        List.replicate (k - (magnitudes.length - 1)) (-1, -1) := by
  have folded := foldl_insertTopK magnitudes (getD_nonneg nonneg) k
    (List.range' 1 (magnitudes.length - 1))
  rw [List.length_range'] at folded
  rw [fftGetTopK, if_neg (not_le.mpr many), tail_range_zip, List.foldl_map]
  exact folded

/-- The peak is the square of the magnitude selected first. -/
theorem fftComputePsdPeak_select {magnitudes : List ℝ} (nonneg : ∀ mag ∈ magnitudes, 0 ≤ mag)
    (many : 1 < magnitudes.length) {k best : Nat} {others : List Nat}
    (selection : IsSelection (fun index => magnitudes.getD index 0) k
      (List.range' 1 (magnitudes.length - 1)) (best :: others)) :
    fftComputePsdPeak magnitudes = magnitudes.getD best 0 * magnitudes.getD best 0 := by
  have best_member := selection.subset best List.mem_cons_self
  refine fftComputePsdPeak_eq many ?_ ?_
  · rw [tail_eq_map]
    exact List.mem_map_of_mem best_member
  · rw [tail_eq_map]
    exact List.forall_mem_map.mpr fun other member =>
      ⟨getD_nonneg nonneg other, selection.key_le_head member⟩

/-- The entries are those of the largest magnitudes behind the first, from the largest on and ties
by their index; the others are not used. The peak is the square of the first. -/
theorem fftGetTopK_selects {magnitudes : List ℝ} (nonneg : ∀ mag ∈ magnitudes, 0 ≤ mag)
    (many : 1 < magnitudes.length) {k : Nat} (positive : 1 ≤ k) :
    let mag := fun index : Nat => magnitudes.getD index 0
    fftGetTopKLoops magnitudes k = fftGetTopK magnitudes k ∧
      ∃ chosen : List Nat,
        fftGetTopK magnitudes k = (chosen.map fun (index : Nat) => ((index : Int), mag index)) ++
          List.replicate (k - (magnitudes.length - 1)) (-1, -1) ∧
        chosen.length = min k (magnitudes.length - 1) ∧
        (∀ index ∈ chosen, 1 ≤ index ∧ index < magnitudes.length) ∧ chosen.Nodup ∧
        (chosen.Pairwise fun first second =>
          mag second < mag first ∨ mag first = mag second ∧ first < second) ∧
        (∀ index ∈ chosen, ∀ other, 1 ≤ other → other < magnitudes.length → other ∉ chosen →
          mag other < mag index ∨ mag index = mag other ∧ index < other) ∧
        ∃ first, (fftGetTopK magnitudes k).head? = some first ∧
          fftComputePsdPeak magnitudes = first.2 * first.2 := by
  intro mag
  have inside_iff : ∀ index, index ∈ List.range' 1 (magnitudes.length - 1) ↔
      1 ≤ index ∧ index < magnitudes.length := by
    intro index
    rw [List.mem_range'_1]
    omega
  have selection := select_isSelection mag k (List.pairwise_lt_range' (s := 1)
    (n := magnitudes.length - 1))
  have top_eq := fftGetTopK_eq nonneg many k
  have length_eq := selection.length_eq
  rw [List.length_range'] at length_eq
  refine ⟨fftGetTopKLoops_eq many k, _, top_eq, length_eq,
    fun index member => (inside_iff index).mp (selection.subset index member), selection.nodup,
    selection.sorted, fun index member other lower upper missing =>
      selection.ahead index member other ((inside_iff other).mpr ⟨lower, upper⟩) missing, ?_⟩
  obtain ⟨best, others, chosen_eq⟩ : ∃ best others,
      select mag k (List.range' 1 (magnitudes.length - 1)) = best :: others := by
    refine List.exists_cons_of_length_pos ?_
    omega
  rw [chosen_eq] at selection
  rw [top_eq, chosen_eq]
  exact ⟨topEntry magnitudes best, rfl, fftComputePsdPeak_select nonneg many selection⟩

theorem fftGetTopK_selects_get : 1 < ([9, 1, 4, 4] : List ℝ).length ∧ 1 ≤ 2 ∧
    ∃ chosen : List Nat, chosen.length = 2 ∧ fftGetTopK ([9, 1, 4, 4] : List ℝ) 2 =
      (chosen.map fun (index : Nat) => ((index : Int), ([9, 1, 4, 4] : List ℝ).getD index 0)) ++
        [] := by
  have nonneg : ∀ mag ∈ ([9, 1, 4, 4] : List ℝ), 0 ≤ mag := by
    simp only [List.forall_mem_cons]
    norm_num
  obtain ⟨-, chosen, top_eq, length_eq, -⟩ :=
    fftGetTopK_selects nonneg (by decide) (show 1 ≤ 2 by decide)
  exact ⟨by decide, by decide, chosen, length_eq, top_eq⟩

end TiFeatures
