/-
This file is a small library of bounded selection: items come in a strict order and
each is inserted behind those whose key is not smaller, into a list that is cut to a
fixed length. The list holds the items with the greatest keys, ties in the order in
which they came.
-/

import Mathlib.Data.List.Induction
import Mathlib.Data.List.Sort

namespace Selection

variable {Item Key : Type} [LinearOrder Key] {key : Item → Key}

/-- An item behind those whose keys are not smaller. -/
def insertBehind (key : Item → Key) (item : Item) (chosen : List Item) : List Item :=
  chosen.orderedInsert (fun new old => key old < key new) item

/-- The items inserted one by one, and cut to the length at the end of each step. -/
def select (key : Item → Key) (count : Nat) (items : List Item) : List Item :=
  items.foldl (fun chosen item => (insertBehind key item chosen).take count) []

theorem perm_insertBehind (item : Item) (chosen : List Item) :
    (insertBehind key item chosen).Perm (item :: chosen) := List.perm_orderedInsert _ _ _

/-- What is cut off before an insertion would be cut off behind it. -/
theorem take_insertBehind_take (count : Nat) (item : Item) (chosen : List Item) :
    (insertBehind key item (chosen.take count)).take count =
      (insertBehind key item chosen).take count := by
  induction chosen generalizing count with
  | nil => rw [List.take_nil]
  | cons head tail inductionHypothesis =>
    cases count with
    | zero => rw [List.take_zero, List.take_zero]
    | succ count =>
      rw [List.take_succ_cons, insertBehind, insertBehind, List.orderedInsert_cons,
        List.orderedInsert_cons]
      by_cases greater : key head < key item
      · rw [if_pos greater, if_pos greater, List.take_succ_cons, List.take_succ_cons]
        cases count with
        | zero => rfl
        | succ count =>
          rw [List.take_succ_cons, List.take_succ_cons, List.take_take, min_eq_left (by omega)]
      · rw [if_neg greater, if_neg greater, List.take_succ_cons, List.take_succ_cons]
        exact congrArg _ (inductionHypothesis count)

theorem select_concat (count : Nat) (items : List Item) (item : Item) :
    select key count (items ++ [item]) =
      (insertBehind key item (select key count items)).take count := by
  rw [select, List.foldl_concat]
  rfl

theorem length_select (key : Item → Key) (count : Nat) (items : List Item) :
    (select key count items).length = min count items.length := by
  induction items using List.reverseRecOn with
  | nil => exact (Nat.min_zero count).symm
  | append_singleton items item inductionHypothesis =>
    rw [select_concat, List.length_take, (perm_insertBehind item _).length_eq, List.length_cons,
      inductionHypothesis, List.length_append, List.length_singleton]
    omega

/-! ### The order -/

variable [LinearOrder Item]

/-- An item is ahead of another with a smaller key, and of a later one with the same key. -/
def Ahead (key : Item → Key) (first second : Item) : Prop :=
  key second < key first ∨ key first = key second ∧ first < second

/-- The items that are ahead of all others, up to some number of them. -/
structure IsSelection (key : Item → Key) (count : Nat) (items chosen : List Item) : Prop where
  length_eq : chosen.length = min count items.length
  subset : ∀ item ∈ chosen, item ∈ items
  sorted : chosen.Pairwise (Ahead key)
  ahead : ∀ item ∈ chosen, ∀ other ∈ items, other ∉ chosen → Ahead key item other

theorem IsSelection.nodup {count : Nat} {items chosen : List Item}
    (selection : IsSelection key count items chosen) : chosen.Nodup :=
  selection.sorted.imp fun {first second} ahead same => by
    subst same
    rcases ahead with smaller | ⟨_, before⟩
    · exact lt_irrefl _ smaller
    · exact lt_irrefl _ before

theorem Ahead.key_le {first second : Item} (ahead : Ahead key first second) :
    key second ≤ key first := by
  rcases ahead with smaller | ⟨equal, _⟩
  · exact smaller.le
  · exact equal.ge

/-- The first item of a selection has the greatest key. -/
theorem IsSelection.key_le_head {count : Nat} {items others : List Item} {best : Item}
    (selection : IsSelection key count items (best :: others)) {item : Item}
    (member : item ∈ items) : key item ≤ key best := by
  by_cases chosen : item ∈ best :: others
  · rcases List.mem_cons.mp chosen with rfl | behind
    · exact le_rfl
    · exact ((List.pairwise_cons.mp selection.sorted).1 item behind).key_le
  · exact (selection.ahead best List.mem_cons_self item member chosen).key_le

/-- A later item keeps the list sorted. -/
theorem pairwise_insertBehind {item : Item} {chosen : List Item}
    (sorted : chosen.Pairwise (Ahead key)) (later : ∀ other ∈ chosen, other < item) :
    (insertBehind key item chosen).Pairwise (Ahead key) := by
  induction chosen with
  | nil => exact List.pairwise_singleton _ _
  | cons head tail inductionHypothesis =>
    obtain ⟨head_ahead, tail_sorted⟩ := List.pairwise_cons.mp sorted
    rw [insertBehind, List.orderedInsert_cons]
    by_cases greater : key head < key item
    · rw [if_pos greater]
      refine List.pairwise_cons.mpr ⟨fun other member => Or.inl ?_, sorted⟩
      rcases List.mem_cons.mp member with rfl | inside
      · exact greater
      · rcases head_ahead other inside with smaller | ⟨equal, _⟩
        · exact smaller.trans greater
        · exact equal ▸ greater
    · rw [if_neg greater]
      refine List.pairwise_cons.mpr ⟨fun other member => ?_,
        inductionHypothesis tail_sorted fun other inside =>
          later other (List.mem_cons_of_mem _ inside)⟩
      rcases List.mem_cons.mp ((perm_insertBehind item tail).mem_iff.mp member) with rfl | inside
      · rcases (not_lt.mp greater).lt_or_eq with smaller | equal
        · exact Or.inl smaller
        · exact Or.inr ⟨equal.symm, later head List.mem_cons_self⟩
      · exact head_ahead other inside

/-- The selection is the front of a sorted list of all items. -/
theorem exists_sorted (key : Item → Key) (count : Nat) {items : List Item}
    (increasing : items.Pairwise (· < ·)) :
    ∃ all : List Item, all.Perm items ∧ all.Pairwise (Ahead key) ∧
      select key count items = all.take count := by
  induction items using List.reverseRecOn with
  | nil => exact ⟨[], List.Perm.nil, List.Pairwise.nil, List.take_nil.symm⟩
  | append_singleton items item inductionHypothesis =>
    obtain ⟨before, -, later⟩ := List.pairwise_append.mp increasing
    obtain ⟨all, same, sorted, select_eq⟩ := inductionHypothesis before
    refine ⟨insertBehind key item all, ?_, ?_, ?_⟩
    · exact (perm_insertBehind item all).trans
        ((same.cons item).trans (List.perm_append_singleton item items).symm)
    · exact pairwise_insertBehind sorted fun other member =>
        later other (same.mem_iff.mp member) item List.mem_cons_self
    · rw [select_concat, select_eq, take_insertBehind_take]

theorem select_isSelection (key : Item → Key) (count : Nat) {items : List Item}
    (increasing : items.Pairwise (· < ·)) :
    IsSelection key count items (select key count items) := by
  obtain ⟨all, same, sorted, select_eq⟩ := exists_sorted key count increasing
  rw [select_eq]
  refine ⟨select_eq ▸ length_select key count items,
    fun item member => same.mem_iff.mp (List.mem_of_mem_take member),
    sorted.sublist (List.take_sublist _ _), fun item member other inside missing => ?_⟩
  have parts := List.take_append_drop count all
  have whole : other ∈ all.take count ++ all.drop count := by
    rw [parts]
    exact same.mem_iff.mpr inside
  rw [← parts, List.pairwise_append] at sorted
  exact sorted.2.2 item member other ((List.mem_append.mp whole).resolve_left missing)

end Selection
