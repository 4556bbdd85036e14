/-
This file lays regions out one after the other. The offset of a region is the
total size of the regions before it, and two regions of one layout never
overlap. Carving a block by advancing an offset, region by region, gives these
offsets.
-/

import Mathlib.Algebra.GroupWithZero.Nat
import Mathlib.Data.List.Basic
import Mathlib.Logic.Function.Basic

namespace Layout

variable {Region : Type} [DecidableEq Region]

/-- The total size of the regions that precede one. -/
def offsetOf (size : Region → Nat) : List Region → Region → Nat
  | [], _ => 0
  | head :: rest, region => if region = head then 0 else size head + offsetOf size rest region

/-- The total size of a list of regions. -/
def totalSize (size : Region → Nat) (regions : List Region) : Nat := (regions.map size).sum

/-- Place the regions one after the other from an offset on; the result is where each was put
and the offset after the last. -/
def carve (size : Region → Nat) (regions : List Region) (start : Nat) (place : Region → Nat) :
    (Region → Nat) × Nat :=
  regions.foldl (fun state region =>
    (Function.update state.1 region state.2, state.2 + size region)) (place, start)

/-- A region ends within the layout. -/
theorem offsetOf_end (size : Region → Nat) {regions : List Region} {region : Region}
    (member : region ∈ regions) :
    offsetOf size regions region + size region ≤ totalSize size regions := by
  induction regions with
  | nil => cases member
  | cons head rest inductionHypothesis =>
    rw [offsetOf, totalSize, List.map_cons, List.sum_cons]
    split
    · rename_i same
      rw [same]
      omega
    · rename_i different
      have tail := inductionHypothesis ((List.mem_cons.mp member).resolve_left different)
      rw [totalSize] at tail
      omega

/-- Where a head and then the regions behind it are given their values, every region of the layout
has its value. -/
theorem ite_mem_update {Value : Type} {head : Region} {rest : List Region} (apart : head ∉ rest)
    (size : Region → Nat) (start : Nat) (value : Nat → Region → Value) (before : Region → Value)
    (region : Region) :
    (if region ∈ rest then value (start + size head + offsetOf size rest region) region
      else Function.update before head (value start head) region) =
      if region ∈ head :: rest then value (start + offsetOf size (head :: rest) region) region
      else before region := by
  by_cases isHead : region = head
  · subst isHead
    rw [if_neg apart, if_pos List.mem_cons_self, Function.update_self, offsetOf, if_pos rfl]
    rfl
  · rw [offsetOf, if_neg isHead, Function.update_of_ne isHead, Nat.add_assoc]
    simp only [List.mem_cons, isHead, false_or]

/-- Two regions of a layout do not overlap. -/
theorem offsetOf_disjoint (size : Region → Nat) {regions : List Region} {first second : Region}
    (firstMember : first ∈ regions) (secondMember : second ∈ regions) (different : first ≠ second) :
    offsetOf size regions first + size first ≤ offsetOf size regions second ∨
      offsetOf size regions second + size second ≤ offsetOf size regions first := by
  induction regions with
  | nil => cases firstMember
  | cons head rest inductionHypothesis =>
    rw [offsetOf, offsetOf]
    by_cases firstHead : first = head
    · rw [if_pos firstHead, if_neg (firstHead ▸ different.symm), firstHead]
      omega
    · by_cases secondHead : second = head
      · rw [if_pos secondHead, if_neg firstHead, secondHead]
        omega
      · rw [if_neg firstHead, if_neg secondHead]
        have tail := inductionHypothesis ((List.mem_cons.mp firstMember).resolve_left firstHead)
          ((List.mem_cons.mp secondMember).resolve_left secondHead)
        omega

theorem carve_cons (size : Region → Nat) (head : Region) (rest : List Region) (start : Nat)
    (place : Region → Nat) :
    carve size (head :: rest) start place =
      carve size rest (start + size head) (Function.update place head start) := rfl

theorem carve_snd (size : Region → Nat) (regions : List Region) (start : Nat)
    (place : Region → Nat) :
    (carve size regions start place).2 = start + totalSize size regions := by
  induction regions generalizing start place with
  | nil => rfl
  | cons head rest inductionHypothesis =>
    rw [carve_cons, inductionHypothesis, totalSize, totalSize, List.map_cons, List.sum_cons]
    omega

/-- Carving leaves the place of a region it is not given. -/
theorem carve_fst_of_notMem (size : Region → Nat) {regions : List Region} {region : Region}
    (absent : region ∉ regions) (start : Nat) (place : Region → Nat) :
    (carve size regions start place).1 region = place region := by
  induction regions generalizing start place with
  | nil => rfl
  | cons head rest inductionHypothesis =>
    obtain ⟨notHead, notRest⟩ := not_or.mp (mt List.mem_cons.mpr absent)
    rw [carve_cons, inductionHypothesis notRest, Function.update_of_ne notHead]

/-- Carving puts every region at the total size of those before it. -/
theorem carve_fst (size : Region → Nat) {regions : List Region} (distinct : regions.Nodup)
    {region : Region} (member : region ∈ regions) (start : Nat) (place : Region → Nat) :
    (carve size regions start place).1 region = start + offsetOf size regions region := by
  induction regions generalizing start place with
  | nil => cases member
  | cons head rest inductionHypothesis =>
    obtain ⟨notRest, restDistinct⟩ := List.nodup_cons.mp distinct
    rw [carve_cons, offsetOf]
    by_cases same : region = head
    · rw [if_pos same, same, carve_fst_of_notMem size notRest, Function.update_self]
      rfl
    · rw [if_neg same, inductionHypothesis restDistinct
        ((List.mem_cons.mp member).resolve_left same)]
      omega

end Layout
