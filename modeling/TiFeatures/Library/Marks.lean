/-
This file is a small library that decides whether the values of a list are
distinct from numbers that mark them. The marks met so far are the bits of one
number, so each value is looked at once. Distinct values tell the items they come
from apart.
-/

import Mathlib.Data.List.Nodup
import Mathlib.Data.List.Pairwise
import Mathlib.Data.Nat.Bitwise

namespace DistinctMarks

/-- No mark of a list has been met before, where `met` has the bits of the earlier ones. -/
def fresh (met : Nat) : List Nat → Bool
  | [] => true
  | mark :: rest => !met.testBit mark && fresh (met ||| 1 <<< mark) rest

theorem testBit_meet (met mark other : Nat) :
    (met ||| 1 <<< mark).testBit other = (met.testBit other || decide (mark = other)) := by
  rw [Nat.testBit_or, Nat.one_shiftLeft, Nat.testBit_two_pow]

/-- Fresh marks are distinct, and none of them has been met. -/
theorem nodup_of_fresh {met : Nat} {marks : List Nat} (isFresh : fresh met marks = true) :
    marks.Nodup ∧ ∀ mark ∈ marks, met.testBit mark = false := by
  induction marks generalizing met with
  | nil => exact ⟨.nil, List.forall_mem_nil _⟩
  | cons mark rest inductionHypothesis =>
    rw [fresh, Bool.and_eq_true, Bool.not_eq_true'] at isFresh
    obtain ⟨unmet, restFresh⟩ := isFresh
    obtain ⟨distinct, others⟩ := inductionHypothesis restFresh
    simp only [testBit_meet, Bool.or_eq_false_iff, decide_eq_false_iff_not] at others
    exact ⟨List.Pairwise.cons (fun other member => (others other member).2) distinct,
      List.forall_mem_cons.mpr ⟨unmet, fun other member => (others other member).1⟩⟩

/-- Values with fresh marks are distinct. -/
theorem nodup_of_fresh_map {Value : Type} (mark : Value → Nat) {values : List Value}
    (isFresh : fresh 0 (values.map mark) = true) : values.Nodup :=
  (nodup_of_fresh isFresh).1.of_map mark

/-- Where the values of all items are distinct, a value belongs to one item. -/
theorem eq_of_nodup_flatMap {Item Value : Type} {values : Item → List Value} {items : List Item}
    (distinct : (items.flatMap values).Nodup) {first second : Item} (inside : first ∈ items)
    (otherInside : second ∈ items) {value : Value} (member : value ∈ values first)
    (otherMember : value ∈ values second) : first = second := by
  have symmetric : Std.Symm (Function.onFun List.Disjoint values) :=
    ⟨fun _ _ disjoint _ inFirst inSecond => disjoint inSecond inFirst⟩
  by_contra different
  exact (List.nodup_flatMap.mp distinct).2.forall inside otherInside different member otherMember

end DistinctMarks
