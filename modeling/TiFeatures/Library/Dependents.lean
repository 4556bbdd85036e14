/-
This file extends the heap of an allocator with objects that hang on others, as the
topics of a connection do. An object may only be given back after those that hang on
it. A set of objects is rooted if whatever one of them hangs on is among them; rooted
sets can be put side by side, and one of them can be torn down without the others.
-/

import TiFeatures.Library.Ledger

namespace HeapLedger

variable {Kind : Type} (parent : Kind → Option Nat)

/-! ### Objects that hang on others -/

namespace Heap

/-- A live object hangs on this one. -/
def hasDependents (heap : Heap Kind) (object : Nat) : Bool :=
  (List.range heap.kinds.length).any fun child =>
    heap.live child && (heap.kinds[child]?.bind parent == some object)

/-- Give an object back, which nothing may hang on any more. -/
def close (heap : Heap Kind) (object : Nat) : Heap Kind :=
  { heap.free object with fault := (heap.free object).fault || heap.hasDependents parent object }

namespace Owns

variable {parent} {heap : Heap Kind} {owned : List (Nat × Kind)}

/-- Nothing hangs on an object if nothing owned does. -/
theorem hasDependents_eq_false (owns : heap.Owns owned) {object : Nat}
    (childless : ∀ entry ∈ owned, parent entry.2 ≠ some object) :
    heap.hasDependents parent object = false := by
  rw [hasDependents, List.any_eq_false]
  intro child _ dependent
  obtain ⟨live, hangs⟩ := Bool.and_eq_true_iff.mp dependent
  obtain ⟨entry, member, rfl⟩ := List.mem_map.mp ((owns.live_iff child).mp live)
  rw [owns.kind entry member, Option.bind_some, beq_iff_eq] at hangs
  exact childless entry member hangs

/-- An object that nothing hangs on is closed as it is given back. -/
theorem close {object : Nat} {kind : Kind} (owns : heap.Owns ((object, kind) :: owned))
    (childless : ∀ entry ∈ (object, kind) :: owned, parent entry.2 ≠ some object) :
    (heap.close parent object).Owns owned := by
  have freed := owns.free
  have closed : heap.close parent object = heap.free object := by
    rw [Heap.close, owns.hasDependents_eq_false childless, Bool.or_false]
  rwa [closed]

end Owns

end Heap

/-! ### Rooted sets -/

/-- Whatever one of the objects hangs on is among them. -/
def Rooted (owned : List (Nat × Kind)) : Prop :=
  ∀ entry ∈ owned, ∀ object, parent entry.2 = some object → object ∈ owned.map Prod.fst

variable {parent}

theorem Rooted.nil : Rooted parent ([] : List (Nat × Kind)) :=
  fun _ member => absurd member List.not_mem_nil

theorem Rooted.append {front back : List (Nat × Kind)} (first : Rooted parent front)
    (second : Rooted parent back) : Rooted parent (front ++ back) := by
  intro entry member object hangs
  rw [List.map_append, List.mem_append]
  rcases List.mem_append.mp member with inside | inside
  · exact Or.inl (first entry inside object hangs)
  · exact Or.inr (second entry inside object hangs)

/-- An object that hangs on nothing. -/
theorem Rooted.singleton {object : Nat} {kind : Kind} (root : parent kind = none) :
    Rooted parent [(object, kind)] := by
  intro entry member base hangs
  rw [List.mem_singleton.mp member, root] at hangs
  cases hangs

/-- Nothing of a rooted set hangs on an object outside it. -/
theorem Rooted.childless {owned : List (Nat × Kind)} (rooted : Rooted parent owned) {object : Nat}
    (outside : object ∉ owned.map Prod.fst) :
    ∀ entry ∈ owned, parent entry.2 ≠ some object :=
  fun entry member hangs => outside (rooted entry member object hangs)

namespace Heap.Owns

variable {heap : Heap Kind} {owned : List (Nat × Kind)}

/-- A root that the rest does not hang on can be closed beside it. -/
theorem close_root {object : Nat} {kind : Kind} (owns : heap.Owns ((object, kind) :: owned))
    (root : parent kind = none) (rooted : Rooted parent owned) :
    (heap.close parent object).Owns owned := by
  have distinct := (List.nodup_append'.mp owns.nodup).1
  rw [List.map_cons, List.nodup_cons] at distinct
  refine owns.close fun entry member => ?_
  rcases List.mem_cons.mp member with rfl | inside
  · rw [root]
    exact nofun
  · exact rooted.childless distinct.1 entry inside

/-- Objects that nothing hangs on can be closed one after the other. -/
theorem foldl_close {entries : List (Nat × Kind)} (owns : heap.Owns (entries ++ owned))
    (childless : ∀ closed ∈ entries, ∀ entry ∈ entries ++ owned,
      parent entry.2 ≠ some closed.1) :
    ((entries.map Prod.fst).foldl (Heap.close parent) heap).Owns owned := by
  induction entries generalizing heap with
  | nil => exact owns
  | cons entry rest inductionHypothesis =>
    refine inductionHypothesis (owns.close (childless entry List.mem_cons_self))
      fun closed member other inside => ?_
    exact childless closed (List.mem_cons_of_mem _ member) other
      (List.mem_cons_of_mem _ inside)

end Heap.Owns

end HeapLedger
