/-
This file is a small library of the maximal runs of a list: how the runs change
when the list grows at its end, what the first of the runs that pass a filter are
when a stricter filter loses none of them, and which blocks of equal items a list
consists of.
-/

import Mathlib.Data.List.SplitBy

namespace MaximalRuns

variable {Item : Type} {related : Item → Item → Bool} {items : List Item}
  {closed : List (List Item)} {last : List Item}

/-- The last run of a list is not empty. -/
theorem last_ne_nil (runs_eq : items.splitBy related = closed ++ [last]) : last ≠ [] :=
  List.ne_nil_of_mem_splitBy (runs_eq ▸ List.mem_append_right _ List.mem_cons_self)

/-- The last item of the last run is the last item. -/
theorem getLast?_last (runs_eq : items.splitBy related = closed ++ [last]) :
    last.getLast? = items.getLast? := by
  rw [← List.flatten_splitBy related items, runs_eq, List.flatten_append, List.flatten_singleton,
    List.getLast?_append_of_ne_nil _ (last_ne_nil runs_eq)]

/-- An item related to the last one joins the last run. -/
theorem splitBy_concat_related (runs_eq : items.splitBy related = closed ++ [last]) {item : Item}
    (joins : ∀ previous ∈ items.getLast?, related previous item = true) :
    (items ++ [item]).splitBy related = closed ++ [last ++ [item]] := by
  have nonempty := last_ne_nil runs_eq
  obtain ⟨flat, nonempties, chains, breaks⟩ := List.splitBy_eq_iff.mp runs_eq
  refine List.splitBy_eq_iff.mpr ⟨?_, ?_, ?_, ?_⟩
  · rw [flat]
    simp only [List.flatten_append, List.flatten_singleton, List.append_assoc]
  · intro member
    rcases List.mem_append.mp member with before | grown
    · exact nonempties (List.mem_append_left _ before)
    · exact absurd (List.mem_singleton.mp grown).symm (List.append_ne_nil_of_left_ne_nil nonempty _)
  · intro run member
    rcases List.mem_append.mp member with before | grown
    · exact chains run (List.mem_append_left _ before)
    · rw [List.mem_singleton.mp grown]
      refine List.isChain_append.mpr ⟨chains last (List.mem_append_right _ List.mem_cons_self),
        List.isChain_singleton _, fun previous previous_eq next next_eq => ?_⟩
      rw [getLast?_last runs_eq] at previous_eq
      obtain rfl := Option.some.inj next_eq
      exact joins previous previous_eq
  · rw [List.isChain_append] at breaks ⊢
    refine ⟨breaks.1, List.isChain_singleton _, fun run run_eq next next_eq => ?_⟩
    obtain rfl := Option.some.inj next_eq
    obtain ⟨runNonempty, _, apart⟩ := breaks.2.2 run run_eq last rfl
    refine ⟨runNonempty, List.append_ne_nil_of_left_ne_nil nonempty _, ?_⟩
    rwa [List.head_append_of_ne_nil]

/-- An item not related to the last one starts a run. -/
theorem splitBy_concat_unrelated (runs_eq : items.splitBy related = closed ++ [last]) {item : Item}
    (breaks : ∀ previous ∈ items.getLast?, related previous item = false) :
    (items ++ [item]).splitBy related = (closed ++ [last]) ++ [[item]] := by
  rw [List.splitBy_append_cons [] breaks, runs_eq]
  rfl

/-- There are no more runs than items. -/
theorem length_splitBy_le (related : Item → Item → Bool) (items : List Item) :
    (items.splitBy related).length ≤ items.length := by
  have count : ∀ runs : List (List Item), (∀ run ∈ runs, run ≠ []) →
      runs.length ≤ runs.flatten.length := by
    intro runs nonempty
    induction runs with
    | nil => exact le_refl _
    | cons run others inductionHypothesis =>
      rw [List.length_cons, List.flatten_cons, List.length_append]
      have rest := inductionHypothesis fun other member =>
        nonempty other (List.mem_cons_of_mem _ member)
      have first := List.length_pos_iff.mpr (nonempty run List.mem_cons_self)
      omega
  have total := count (items.splitBy related) fun _ member => List.ne_nil_of_mem_splitBy member
  rwa [List.flatten_splitBy] at total

/-- A stricter filter that passes the first of the items another one passes finds the same
first items. -/
theorem take_filter_of_forall {wide strict : Item → Bool} (items : List Item) (count : Nat)
    (narrow : ∀ item ∈ items, strict item = true → wide item = true)
    (passes : ∀ item ∈ (items.filter wide).take count, strict item = true) :
    (items.filter strict).take count = (items.filter wide).take count := by
  have again : items.filter strict = (items.filter wide).filter strict := by
    rw [List.filter_filter]
    refine List.filter_congr fun item member => ?_
    cases stricter : strict item with
    | true => rw [narrow item member stricter]; rfl
    | false => rfl
  rw [again]
  have firsts : ((items.filter wide).take count).filter strict = (items.filter wide).take count :=
    List.filter_eq_self.mpr passes
  conv_lhs => rw [← List.take_append_drop count (items.filter wide), List.filter_append, firsts]
  by_cases many : count ≤ (items.filter wide).length
  · rw [List.take_append_of_le_length (by rw [List.length_take]; omega), List.take_take,
      Nat.min_self]
  · rw [List.drop_eq_nil_of_le (by omega), List.filter_nil, List.append_nil, List.take_take,
      Nat.min_self]

/-! ### Equal items -/

/-- Blocks of equal items that make up a list and cannot be longer: neighbouring blocks have
different items. -/
structure EqualBlocks (items : List Item) (blocks : List (List Item)) : Prop where
  flatten_eq : blocks.flatten = items
  nonempty : ∀ block ∈ blocks, block ≠ []
  equal : ∀ block ∈ blocks, ∀ first ∈ block, ∀ second ∈ block, first = second
  apart : blocks.IsChain fun block next => ∀ last ∈ block, ∀ first ∈ next, last ≠ first

theorem isChain_beq_iff [DecidableEq Item] (block : List Item) :
    (block.IsChain fun first second => (first == second) = true) ↔
      ∀ first ∈ block, ∀ second ∈ block, first = second := by
  simp only [beq_iff_eq]
  rw [List.isChain_iff_pairwise]
  constructor
  · intro pairwise first member second other
    exact pairwise.forall_of_forall (fun _ _ => rfl) member other
  · intro same
    exact List.pairwise_iff_forall_sublist.mpr fun within =>
      same _ (within.subset List.mem_cons_self) _
        (within.subset (List.mem_cons_of_mem _ List.mem_cons_self))

/-- A list has exactly one division into maximal blocks of equal items. -/
theorem equalBlocks_iff [DecidableEq Item] {blocks : List (List Item)} :
    EqualBlocks items blocks ↔
      items.splitBy (fun first second => first == second) = blocks := by
  rw [List.splitBy_eq_iff]
  constructor
  · intro divided
    refine ⟨divided.flatten_eq.symm, fun member => divided.nonempty _ member rfl,
      fun block member => (isChain_beq_iff block).mpr (divided.equal block member), ?_⟩
    refine divided.apart.imp_of_mem_imp fun block next member other differ => ?_
    refine ⟨divided.nonempty block member, divided.nonempty next other, ?_⟩
    exact beq_eq_false_iff_ne.mpr (differ _ (List.getLast_mem _) _ (List.head_mem _))
  · rintro ⟨flat, nonempties, chains, breaks⟩
    have equal : ∀ block ∈ blocks, ∀ first ∈ block, ∀ second ∈ block, first = second :=
      fun block member => (isChain_beq_iff block).mp (chains block member)
    refine ⟨flat.symm, fun block member empty => nonempties (empty ▸ member), equal, ?_⟩
    refine breaks.imp_of_mem_imp fun block next member other broken => ?_
    obtain ⟨blockNonempty, nextNonempty, differ⟩ := broken
    intro last lastMember first firstMember
    rw [equal block member last lastMember _ (List.getLast_mem blockNonempty),
      equal next other first firstMember _ (List.head_mem nextNonempty)]
    exact beq_eq_false_iff_ne.mp differ

end MaximalRuns
