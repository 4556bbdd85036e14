/-
This file is a small library of heaps as their allocator sees them: which objects
were handed out, of which kind, and which came back. A heap owns a list of objects
when exactly these are live, every other object came back once, and no object was
used or given back that was not live.
-/

import Mathlib.Data.List.Nodup
import Mathlib.Data.List.Range

namespace HeapLedger

/-- The kinds of the objects handed out, which are numbered in this order, the objects that came
back, and whether an object that was not live was used or given back. -/
structure Heap (Kind : Type) where
  kinds : List Kind
  freed : List Nat
  fault : Bool

variable {Kind : Type}

namespace Heap

/-- The heap before any allocation. -/
def empty : Heap Kind := ⟨[], [], false⟩

/-- An object was handed out and did not come back. -/
def live (heap : Heap Kind) (object : Nat) : Bool :=
  object < heap.kinds.length && !heap.freed.contains object

/-- The heap with one more object, whose number is that of the objects before. -/
def push (heap : Heap Kind) (kind : Kind) : Heap Kind :=
  { heap with kinds := heap.kinds ++ [kind] }

/-- Allocate an object, unless the allocation fails. -/
def malloc (heap : Heap Kind) (kind : Kind) (ok : Bool) : Heap Kind × Option Nat :=
  if ok then (heap.push kind, some heap.kinds.length) else (heap, none)

/-- Read or write an object. -/
def use (heap : Heap Kind) (object : Nat) : Heap Kind :=
  { heap with fault := heap.fault || !heap.live object }

/-- Read or write through a pointer, which is `none` where it leads to no object. -/
def deref (heap : Heap Kind) (pointer : Option Nat) : Heap Kind :=
  match pointer with
  | some object => heap.use object
  | none => { heap with fault := true }

/-- Give an object back. -/
def free (heap : Heap Kind) (object : Nat) : Heap Kind :=
  { heap with
    freed := object :: heap.freed
    fault := heap.fault || !heap.live object }

/-- The kinds of the live objects. -/
def liveKinds (heap : Heap Kind) : List Kind :=
  ((List.range heap.kinds.length).filter heap.live).filterMap (heap.kinds[·]?)

/-- Exactly the listed objects are live, and they are of the listed kinds. -/
structure Owns (heap : Heap Kind) (owned : List (Nat × Kind)) : Prop where
  noFault : heap.fault = false
  balance : (owned.map Prod.fst ++ heap.freed).Perm (List.range heap.kinds.length)
  kind : ∀ entry ∈ owned, heap.kinds[entry.1]? = some entry.2

theorem empty_owns : (empty : Heap Kind).Owns [] :=
  ⟨rfl, List.Perm.refl _, fun _ member => absurd member List.not_mem_nil⟩

namespace Owns

variable {heap : Heap Kind} {owned : List (Nat × Kind)}

theorem nodup (owns : heap.Owns owned) : (owned.map Prod.fst ++ heap.freed).Nodup :=
  owns.balance.nodup_iff.mpr List.nodup_range

/-- The live objects are the owned ones. -/
theorem live_iff (owns : heap.Owns owned) (object : Nat) :
    heap.live object = true ↔ object ∈ owned.map Prod.fst := by
  have member := owns.balance.mem_iff (a := object)
  rw [List.mem_append, List.mem_range] at member
  have apart := (List.nodup_append'.mp owns.nodup).2.2
  simp only [live, Bool.and_eq_true, decide_eq_true_iff, Bool.not_eq_true', ← member,
    List.contains_eq_mem, decide_eq_false_iff_not]
  constructor
  · rintro ⟨inside | back, kept⟩
    · exact inside
    · exact absurd back kept
  · exact fun inside => ⟨Or.inl inside, fun back => apart inside back⟩

theorem perm (owns : heap.Owns owned) {other : List (Nat × Kind)} (same : owned.Perm other) :
    heap.Owns other where
  noFault := owns.noFault
  balance := ((same.map Prod.fst).symm.append_right _).trans owns.balance
  kind entry member := owns.kind entry (same.mem_iff.mpr member)

/-- Using an owned object changes nothing. -/
theorem use (owns : heap.Owns owned) {object : Nat} (inside : object ∈ owned.map Prod.fst) :
    heap.use object = heap := by
  have noFault := owns.noFault
  rw [Heap.use, (owns.live_iff object).mpr inside]
  cases heap
  cases noFault
  rfl

theorem use_owns (owns : heap.Owns owned) {object : Nat}
    (inside : object ∈ owned.map Prod.fst) : (heap.use object).Owns owned := by
  rwa [owns.use inside]

/-- Using owned objects changes nothing. -/
theorem foldl_use (owns : heap.Owns owned) {objects : List Nat}
    (inside : ∀ object ∈ objects, object ∈ owned.map Prod.fst) :
    objects.foldl Heap.use heap = heap := by
  induction objects with
  | nil => rfl
  | cons object rest inductionHypothesis =>
    rw [List.foldl_cons, owns.use (inside object List.mem_cons_self)]
    exact inductionHypothesis fun other member => inside other (List.mem_cons_of_mem _ member)

/-- Going through pointers to owned objects changes nothing. -/
theorem foldl_deref (owns : heap.Owns owned) {pointers : List (Option Nat)}
    (inside : ∀ pointer ∈ pointers, ∃ object ∈ owned.map Prod.fst, pointer = some object) :
    pointers.foldl Heap.deref heap = heap := by
  induction pointers with
  | nil => rfl
  | cons pointer rest inductionHypothesis =>
    obtain ⟨object, member, rfl⟩ := inside pointer List.mem_cons_self
    rw [List.foldl_cons, Heap.deref, owns.use member]
    exact inductionHypothesis fun other later => inside other (List.mem_cons_of_mem _ later)

/-- A new object is owned as well. -/
theorem push (owns : heap.Owns owned) (kind : Kind) :
    (heap.push kind).Owns ((heap.kinds.length, kind) :: owned) where
  noFault := owns.noFault
  balance := by
    simp only [Heap.push, List.length_append, List.length_singleton, List.range_succ,
      List.map_cons, List.cons_append]
    exact (List.perm_append_singleton _ _).symm.trans (owns.balance.append_right _)
  kind entry member := by
    rcases List.mem_cons.mp member with rfl | older
    · exact List.getElem?_concat_length
    · have found := owns.kind entry older
      obtain ⟨inside, -⟩ := List.getElem?_eq_some_iff.mp found
      exact (List.getElem?_append_left inside).trans found

theorem push_last (owns : heap.Owns owned) (kind : Kind) :
    (heap.push kind).Owns (owned ++ [(heap.kinds.length, kind)]) :=
  (owns.push kind).perm (List.perm_append_singleton _ _).symm

/-- An object given back is no longer owned. -/
theorem free {object : Nat} {kind : Kind} (owns : heap.Owns ((object, kind) :: owned)) :
    (heap.free object).Owns owned where
  noFault := by
    simp only [Heap.free, owns.noFault, (owns.live_iff object).mpr List.mem_cons_self,
      Bool.not_true, Bool.or_false]
  balance := List.perm_middle.trans owns.balance
  kind entry member := owns.kind entry (List.mem_cons_of_mem _ member)

theorem free_middle (front : List (Nat × Kind)) {back : List (Nat × Kind)} {object : Nat}
    {kind : Kind} (owns : heap.Owns (front ++ (object, kind) :: back)) :
    (heap.free object).Owns (front ++ back) :=
  (owns.perm List.perm_middle).free

/-- Giving objects back leaves the others. -/
theorem foldl_free {objects : List Nat} {kind : Kind}
    (owns : heap.Owns (objects.map (·, kind) ++ owned)) :
    (objects.foldl Heap.free heap).Owns owned := by
  induction objects generalizing heap with
  | nil => exact owns
  | cons object rest inductionHypothesis => exact inductionHypothesis owns.free

/-- Every object came back once, unless it is owned. -/
theorem count_freed (owns : heap.Owns owned) {object : Nat} (inside : object < heap.kinds.length) :
    heap.freed.count object = if object ∈ owned.map Prod.fst then 0 else 1 := by
  have distinct := List.nodup_append'.mp owns.nodup
  have member := owns.balance.mem_iff (a := object)
  rw [List.mem_append, List.mem_range] at member
  split
  · exact List.count_eq_zero.mpr (distinct.2.2 ‹_›)
  · have back := (member.mpr inside).resolve_left ‹_›
    exact List.count_eq_one_of_mem distinct.2.1 back

/-- The kinds of the live objects are those of the owned ones. -/
theorem liveKinds_perm (owns : heap.Owns owned) :
    heap.liveKinds.Perm (owned.map Prod.snd) := by
  have same : ((List.range heap.kinds.length).filter heap.live).Perm (owned.map Prod.fst) := by
    refine (List.perm_ext_iff_of_nodup (List.nodup_range.filter _)
      (List.nodup_append'.mp owns.nodup).1).mpr fun object => ?_
    rw [List.mem_filter, owns.live_iff, and_iff_right_iff_imp]
    intro inside
    exact owns.balance.mem_iff.mp (List.mem_append_left _ inside)
  have kinds : (owned.map Prod.fst).filterMap (heap.kinds[·]?) = owned.map Prod.snd := by
    rw [List.filterMap_map, ← List.filterMap_eq_map]
    exact List.filterMap_congr fun entry member => owns.kind entry member
  exact (same.filterMap _).trans (List.Perm.of_eq kinds)

end Owns

end Heap

end HeapLedger
