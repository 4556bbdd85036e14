/-
This file reads the runs of the length sequence as its maximal blocks of equal
lengths. The loop writes the length of a run when the next one begins, and that of
the last one behind the loop; a sequence of one length takes a shortcut, which
writes what the loop and the statistics behind it would.
-/

import TiFeatures.Library.Runs
import TiFeatures.Squares

namespace TiFeatures

/-! ### The array -/

/-- `runs[run_n++] = cur`, which fails behind the end of the array. -/
def storeRun (runs : List Nat) (runN cur : Nat) : Option (List Nat × Nat) :=
  if runN < runs.length then some (runs.set runN cur, runN + 1) else none

/-- The loop of `calc_run_length` and the write behind it, on the array it fills: the array and
`run_n`. -/
def storeRuns : List Nat → List Nat → Nat → Nat → Nat → Option (List Nat × Nat)
  | [], runs, runN, _, cur => storeRun runs runN cur
  | value :: rest, runs, runN, previous, cur =>
    if value = previous then storeRuns rest runs runN value (cur + 1)
    else (storeRun runs runN cur).bind fun stored => storeRuns rest stored.1 stored.2 value 1

theorem storeRun_append {stored free : List Nat} (room : 0 < free.length) (cur : Nat) :
    storeRun (stored ++ free) stored.length cur =
      some ((stored ++ [cur]) ++ free.drop 1, (stored ++ [cur]).length) := by
  cases free with
  | nil => exact absurd room (lt_irrefl _)
  | cons first free =>
    have within : stored.length < (stored ++ first :: free).length := by
      rw [List.length_append, List.length_cons]
      omega
    rw [storeRun, if_pos within, List.set_append_right _ _ le_rfl, Nat.sub_self, List.set_cons_zero,
      List.append_assoc, List.length_append]
    rfl

/-- Where the array has room for them, the loop writes the runs behind those it has written. -/
theorem storeRuns_eq (rest : List Nat) {stored free : List Nat} {previous cur : Nat}
    (room : (collectRuns rest previous cur).length ≤ free.length) :
    storeRuns rest (stored ++ free) stored.length previous cur =
      some ((stored ++ collectRuns rest previous cur) ++
          free.drop (collectRuns rest previous cur).length,
        stored.length + (collectRuns rest previous cur).length) := by
  induction rest generalizing stored free previous cur with
  | nil =>
    rw [collectRuns, List.length_singleton] at room
    rw [storeRuns, storeRun_append room, List.length_append]
    rfl
  | cons value rest inductionHypothesis =>
    by_cases same : value = previous
    · rw [collectRuns, if_pos same] at room ⊢
      rw [storeRuns, if_pos same]
      exact inductionHypothesis room
    · rw [collectRuns, if_neg same, List.length_cons] at room ⊢
      have further : (collectRuns rest value 1).length ≤ (free.drop 1).length := by
        rw [List.length_drop]
        omega
      rw [storeRuns, if_neg same, storeRun_append (by omega), Option.bind_some,
        inductionHypothesis further, List.drop_drop, List.append_assoc stored,
        List.singleton_append, List.length_append, List.length_singleton, add_assoc]
      rw [Nat.add_comm 1]

/-! ### The runs -/

/-- The block of the values before is open: it is one block with the values that follow and are
equal to them. -/
theorem splitBy_replicate (count previous : Nat) (rest : List Nat)
    (breaks : ∀ value ∈ rest.head?, value ≠ previous) :
    (List.replicate (count + 1) previous ++ rest).splitBy (fun first second => first == second) =
      List.replicate (count + 1) previous :: rest.splitBy fun first second => first == second := by
  have equal : (List.replicate (count + 1) previous).IsChain
      fun first second => (first == second) = true := by
    refine (MaximalRuns.isChain_beq_iff _).mpr fun first member second other => ?_
    rw [List.eq_of_mem_replicate member, List.eq_of_mem_replicate other]
  have single := List.splitBy_of_isChain (List.cons_ne_nil _ _) equal
  rw [List.splitBy_append]
  · exact congrArg (· ++ _) single
  · intro last last_eq value value_eq
    rw [List.eq_of_mem_replicate (List.mem_of_getLast? last_eq)]
    exact beq_eq_false_iff_ne.mpr fun same => breaks value value_eq same.symm

/-- The runs are the lengths of the blocks. -/
theorem collectRuns_eq (rest : List Nat) (previous cur : Nat) :
    collectRuns rest previous (cur + 1) =
      ((List.replicate (cur + 1) previous ++ rest).splitBy
        fun first second => first == second).map List.length := by
  induction rest generalizing previous cur with
  | nil =>
    rw [splitBy_replicate _ _ [] fun value value_eq => absurd value_eq (Option.not_mem_none value),
      List.map_cons, List.length_replicate]
    rfl
  | cons value rest inductionHypothesis =>
    by_cases same : value = previous
    · subst same
      rw [collectRuns, if_pos rfl, inductionHypothesis, List.replicate_succ' (n := cur + 1),
        List.append_assoc]
      rfl
    · have breaks : ∀ next ∈ (value :: rest).head?, next ≠ previous := fun next next_eq =>
        Option.some.inj next_eq ▸ same
      rw [collectRuns, if_neg same, splitBy_replicate _ _ _ breaks, List.map_cons,
        List.length_replicate]
      exact congrArg _ (inductionHypothesis value 0)

/-- A run begins at the first value and wherever the value changes. -/
theorem length_collectRuns (rest : List Nat) (previous cur : Nat) :
    (collectRuns rest previous cur).length =
      1 + ((previous :: rest).zip rest).countP fun pair => pair.1 ≠ pair.2 := by
  induction rest generalizing previous cur with
  | nil => rfl
  | cons value rest inductionHypothesis =>
    rw [List.zip_cons_cons, List.countP_cons]
    by_cases same : value = previous
    · subst same
      rw [collectRuns, if_pos rfl, inductionHypothesis,
        if_neg fun changed => (of_decide_eq_true changed : value ≠ value) rfl, Nat.add_zero]
    · rw [collectRuns, if_neg same, List.length_cons, inductionHypothesis,
        if_pos (decide_eq_true (Ne.symm same)), Nat.add_assoc]

theorem sum_collectRuns (rest : List Nat) (previous cur : Nat) :
    (collectRuns rest previous cur).sum = cur + rest.length := by
  induction rest generalizing previous cur with
  | nil => rfl
  | cons value rest inductionHypothesis =>
    rw [collectRuns, List.length_cons]
    split
    · rw [inductionHypothesis]
      omega
    · rw [List.sum_cons, inductionHypothesis]
      omega

theorem runLengths_eq (lens : List Nat) :
    runLengths lens = (lens.splitBy fun first second => first == second).map List.length := by
  cases lens with
  | nil => rfl
  | cons first rest => exact collectRuns_eq rest first 0

theorem sum_runLengths (lens : List Nat) : (runLengths lens).sum = lens.length := by
  cases lens with
  | nil => rfl
  | cons first rest => rw [runLengths, sum_collectRuns, List.length_cons, add_comm]

theorem length_runLengths {lens : List Nat} (nonempty : lens ≠ []) :
    (runLengths lens).length =
      1 + ((lens.zip lens.tail).countP fun pair => pair.1 ≠ pair.2) := by
  obtain ⟨first, rest, rfl⟩ := List.exists_cons_of_ne_nil nonempty
  exact length_collectRuns rest first 1

theorem length_runLengths_le (lens : List Nat) : (runLengths lens).length ≤ lens.length := by
  rw [runLengths_eq, List.length_map]
  exact MaximalRuns.length_splitBy_le _ _

/-! ### The statistics -/

section Statistics

variable {D : Type} [Double D]

/-- What `calc_run_length` computes behind its shortcut. -/
def runLengthStatistics (lens : List Nat) : Output D :=
  let runs := runLengths lens
  let runsD := prepareDoubleBuffer D runs
  let first := runs.getD 0 0
  let mean := sumDouble runsD / (runs.length : D)
  let std := sampleStd runs.length (sumSqDouble runsD) mean
  let sorted := sortUint runs
  [addNumber "length_run_mean" mean,
    addNumber "length_run_std" std,
    addNumber "length_run_min" ((runs.foldl min first : Nat) : D),
    addNumber "length_run_max" ((runs.foldl max first : Nat) : D),
    addNumber "length_run_median" (calcMedianUint sorted : D),
    addNumber "length_run_q1" (calcQ1Uint D sorted : D),
    addNumber "length_run_q3" (calcQ3Uint D sorted : D),
    addNumber "length_run_skew" (calcSkewness runsD mean std),
    addNumber "length_run_kurt" (calcKurtosis runsD mean std)]

end Statistics

/-- The mean of the runs. -/
theorem runLengths_mean (lens : List Nat) :
    (sumDouble (prepareDoubleBuffer ℝ (runLengths lens)) / Nat.cast (runLengths lens).length : ℝ) =
      Nat.cast lens.length / Nat.cast (runLengths lens).length := by
  rw [sumDouble_prepareDoubleBuffer, real_sumUint, sum_runLengths]

theorem mean_mem_runLengthStatistics (lens : List Nat) (mean : ℝ) :
    addNumber "length_run_mean" mean ∈ runLengthStatistics lens ↔
      mean = Nat.cast lens.length / Nat.cast (runLengths lens).length := by
  rw [← runLengths_mean]
  constructor
  · intro member
    rcases List.mem_cons.mp member with same | later
    · exact Json.num.inj (Prod.mk.inj same).2
    · have key : "length_run_mean" ∈ ["length_run_std", "length_run_min", "length_run_max",
          "length_run_median", "length_run_q1", "length_run_q3", "length_run_skew",
          "length_run_kurt"] := List.mem_map_of_mem (f := Prod.fst) later
      exact absurd key (by decide)
  · rintro rfl
    exact List.mem_cons_self

/-- The shortcut for one length writes what the statistics would. -/
theorem calcRunLength_eq {lens : List Nat} (nonempty : lens ≠ []) :
    (calcRunLength lens : Output ℝ) = runLengthStatistics lens := by
  rcases lens with - | ⟨first, - | ⟨second, rest⟩⟩
  · exact absurd rfl nonempty
  · have one : (Nat.cast 1 : ℝ) = 1 := Nat.cast_one
    have mean_eq : (sumDouble (prepareDoubleBuffer ℝ [1]) / Nat.cast 1 : ℝ) = 1 :=
      (runLengths_mean [first]).trans (div_self (one.trans_ne one_ne_zero))
    show _ = [addNumber "length_run_mean" (sumDouble (prepareDoubleBuffer ℝ [1]) / Nat.cast 1),
      addNumber "length_run_std" 0, addNumber "length_run_min" (Nat.cast 1),
      addNumber "length_run_max" (Nat.cast 1), addNumber "length_run_median" (Nat.cast 1),
      addNumber "length_run_q1" (Nat.cast 1), addNumber "length_run_q3" (Nat.cast 1),
      addNumber "length_run_skew" 0, addNumber "length_run_kurt" 0]
    rw [mean_eq, one]
    rfl
  · rfl

/-- The runs fit the array, are the lengths of the maximal blocks of equal lengths, and give the
mean that is written. -/
theorem calcRunLength_blocks (lens : List Nat) (nonempty : lens ≠ []) :
    (∀ free : List Nat, free.length = lens.length →
      storeRuns lens.tail free 0 (lens.headD 0) 1 =
        some (runLengths lens ++ free.drop (runLengths lens).length,
          (runLengths lens).length)) ∧
      (∃ blocks, MaximalRuns.EqualBlocks lens blocks) ∧
      (∀ blocks, MaximalRuns.EqualBlocks lens blocks →
        runLengths lens = blocks.map List.length) ∧
      (runLengths lens).length = 1 + ((lens.zip lens.tail).countP fun pair => pair.1 ≠ pair.2) ∧
      (runLengths lens).length ≤ lens.length ∧ (runLengths lens).sum = lens.length ∧
      (∀ mean : ℝ, addNumber "length_run_mean" mean ∈ (calcRunLength lens : Output ℝ) ↔
        mean * Nat.cast (runLengths lens).length = Nat.cast lens.length) ∧
      (calcRunLength lens : Output ℝ) = runLengthStatistics lens := by
  have some_run : (Nat.cast (runLengths lens).length : ℝ) ≠ 0 := by
    rw [Nat.cast_ne_zero, length_runLengths nonempty]
    omega
  refine ⟨fun free length_eq => ?_, ⟨_, MaximalRuns.equalBlocks_iff.mpr rfl⟩,
    fun blocks divided => ?_, length_runLengths nonempty, length_runLengths_le lens,
    sum_runLengths lens, fun mean => ?_, calcRunLength_eq nonempty⟩
  · obtain ⟨first, rest, rfl⟩ := List.exists_cons_of_ne_nil nonempty
    have room : (collectRuns rest first 1).length ≤ free.length :=
      length_eq ▸ length_runLengths_le (first :: rest)
    have stored := @storeRuns_eq rest [] free first 1 room
    rw [List.nil_append, List.nil_append, List.length_nil, Nat.zero_add] at stored
    exact stored
  · rw [← MaximalRuns.equalBlocks_iff.mp divided]
    exact runLengths_eq lens
  · rw [calcRunLength_eq nonempty]
    exact (mean_mem_runLengthStatistics lens mean).trans (eq_div_iff some_run)

/-- Two lengths of 60 and one of 1500 are two runs. -/
theorem calcRunLength_blocks_get : ([60, 60, 1500] : List Nat) ≠ [] ∧
    runLengths [60, 60, 1500] = [2, 1] ∧
    storeRuns [60, 1500] [0, 0, 0] 0 60 1 = some ([2, 1, 0], 2) ∧
    ∀ mean : ℝ, addNumber "length_run_mean" mean ∈ (calcRunLength [60, 60, 1500] : Output ℝ) ↔
      mean * Nat.cast 2 = Nat.cast 3 := by
  have nonempty : ([60, 60, 1500] : List Nat) ≠ [] := List.cons_ne_nil _ _
  obtain ⟨stored, -, -, -, -, -, mean_iff, -⟩ := calcRunLength_blocks [60, 60, 1500] nonempty
  exact ⟨nonempty, rfl, stored [0, 0, 0] rfl, mean_iff⟩

end TiFeatures
