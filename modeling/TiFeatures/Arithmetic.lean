/-
This file states what is relied on of `double` where a result depends on it:
operations on integers below `2 ^ 53` whose result is such an integer are exact,
and a quotient of C integers is compared correctly with an integer. The hardware's
arithmetic does this, and so does the arithmetic of the reals; nothing is said of
integers that no C type holds.
-/

import TiFeatures.Stats
import Mathlib.Analysis.SpecialFunctions.Log.Base
import Mathlib.Analysis.SpecialFunctions.Pow.Real
import Mathlib.Analysis.SpecialFunctions.Trigonometric.Basic

namespace TiFeatures

/-- Arithmetic that is exact on small integers. -/
structure ExactIntegers (D : Type) [Double D] : Prop where
  zero_eq : (0 : D) = ((0 : Nat) : D)
  one_eq : (1 : D) = ((1 : Nat) : D)
  add_eq : ∀ a b : Nat, a + b < 2 ^ 53 → (a : D) + (b : D) = ((a + b : Nat) : D)
  sub_eq : ∀ a b : Nat, b ≤ a → a < 2 ^ 53 → (a : D) - (b : D) = ((a - b : Nat) : D)
  mul_eq : ∀ a b : Nat, a < 2 ^ 53 → b < 2 ^ 53 → a * b < 2 ^ 53 →
    (a : D) * (b : D) = ((a * b : Nat) : D)
  div_eq : ∀ a b : Nat, 0 < b → b < 2 ^ 53 → a * b < 2 ^ 53 →
    ((a * b : Nat) : D) / (b : D) = (a : D)
  sqrt_eq : ∀ a : Nat, a * a < 2 ^ 53 → Double.sqrt ((a * a : Nat) : D) = (a : D)
  blt_eq : ∀ a b : Nat, a < 2 ^ 53 → b < 2 ^ 53 → Double.blt (a : D) (b : D) = decide (a < b)
  beq_eq : ∀ a b : Nat, a < 2 ^ 53 → b < 2 ^ 53 → ((a : D) == (b : D)) = decide (a = b)
  blt_div_eq : ∀ a b c : Nat, 0 < c → c < 2 ^ 53 → a * c < 2 ^ 53 → b < 2 ^ 64 →
    Double.blt (a : D) ((b : D) / (c : D)) = decide (a * c < b)

/-- Arithmetic in which a quotient of C integers is compared correctly with zero and one. -/
structure OrderedQuotients (D : Type) [Double D] : Prop where
  zero_ble_zero : Double.ble (0 : D) 0 = true
  zero_ble_one : Double.ble (0 : D) 1 = true
  zero_ble_div : ∀ part whole : Nat, part < 2 ^ 64 → 0 < whole → whole < 2 ^ 64 →
    Double.ble 0 ((part : D) / (whole : D)) = true
  div_ble_one : ∀ part whole : Nat, part ≤ whole → 0 < whole → whole < 2 ^ 64 →
    Double.ble ((part : D) / (whole : D)) 1 = true

namespace ExactIntegers

variable {D : Type} [Double D] (exact : ExactIntegers D)

include exact

/-- Small integers stay apart. -/
theorem cast_inj {a b : Nat} (first : a < 2 ^ 53) (second : b < 2 ^ 53) :
    (a : D) = (b : D) ↔ a = b := by
  refine ⟨fun same => ?_, congrArg _⟩
  have equal := exact.beq_eq a b first second
  rw [same, exact.beq_eq b b second second, decide_eq_true rfl] at equal
  exact of_decide_eq_true equal.symm

theorem zero_ne_one : (0 : D) ≠ 1 := by
  rw [exact.zero_eq, exact.one_eq]
  exact fun same => absurd ((exact.cast_inj (by decide) (by decide)).mp same) (by decide)

theorem ofBool_inj {first second : Bool} :
    (Double.ofBool first : D) = Double.ofBool second ↔ first = second := by
  refine ⟨fun same => ?_, congrArg _⟩
  cases first <;> cases second
  · rfl
  · exact absurd same exact.zero_ne_one
  · exact absurd same.symm exact.zero_ne_one
  · rfl

/-- A quotient of positive integers is positive. -/
theorem blt_zero_div (b : Nat) {c : Nat} (positive : 0 < c) (within : c < 2 ^ 53)
    (small : b < 2 ^ 64) :
    Double.blt (0 : D) ((b : D) / (c : D)) = decide (0 < b) := by
  have compared := exact.blt_div_eq 0 b c positive within (by rw [Nat.zero_mul]; decide) small
  rwa [← exact.zero_eq, Nat.zero_mul] at compared

end ExactIntegers

/-! ### The reals -/

/-- Exact arithmetic. There is no infinity, and zero stands in its place. -/
noncomputable instance : Double ℝ where
  zero := 0
  one := 1
  add := (· + ·)
  sub := (· - ·)
  mul := (· * ·)
  div := (· / ·)
  neg := (- ·)
  natCast := Nat.cast
  beq first second := @decide (first = second) (Classical.propDecidable _)
  blt first second := @decide (first < second) (Classical.propDecidable _)
  infinity := 0
  sqrt := Real.sqrt
  log := Real.log
  log2 := Real.logb (2 : Nat)
  pow := Real.rpow
  cos := Real.cos
  sin := Real.sin
  truncate value := if 0 ≤ value then ⌊value⌋ else ⌈value⌉

theorem real_ble_iff (first second : ℝ) : Double.ble first second = true ↔ first ≤ second := by
  have less : Double.blt first second = true ↔ first < second :=
    @decide_eq_true_iff _ (Classical.propDecidable _)
  have same : (first == second) = true ↔ first = second :=
    @decide_eq_true_iff _ (Classical.propDecidable _)
  rw [Double.ble, Bool.or_eq_true, less, same, le_iff_lt_or_eq]

theorem real_orderedQuotients : OrderedQuotients ℝ where
  zero_ble_zero := (real_ble_iff _ _).mpr le_rfl
  zero_ble_one := (real_ble_iff _ _).mpr zero_le_one
  zero_ble_div part whole _ _ _ := (real_ble_iff _ _).mpr
    (div_nonneg (Nat.cast_nonneg part) (Nat.cast_nonneg whole))
  div_ble_one part whole within positive _ := by
    have denominator : 0 < (Nat.cast whole : ℝ) := Nat.cast_pos.mpr positive
    exact (real_ble_iff _ _).mpr ((div_le_one denominator).mpr (Nat.cast_le.mpr within))

theorem real_exactIntegers : ExactIntegers ℝ where
  zero_eq := (Nat.cast_zero (R := ℝ)).symm
  one_eq := (Nat.cast_one (R := ℝ)).symm
  add_eq a b _ := (Nat.cast_add (R := ℝ) a b).symm
  sub_eq a b order _ := (Nat.cast_sub (R := ℝ) order).symm
  mul_eq a b _ _ _ := (Nat.cast_mul a b : ((a * b : Nat) : ℝ) = _).symm
  div_eq a b positive _ _ := by
    have nonzero : (Nat.cast b : ℝ) ≠ 0 := Nat.cast_ne_zero.mpr positive.ne'
    exact (congrArg (· / (Nat.cast b : ℝ)) (Nat.cast_mul a b)).trans
      (mul_div_cancel_right₀ _ nonzero)
  sqrt_eq a _ := (congrArg Real.sqrt (Nat.cast_mul a a)).trans
    (Real.sqrt_mul_self (Nat.cast_nonneg a))
  blt_eq a b _ _ := (@decide_eq_decide _ _ (Classical.propDecidable _) _).mpr Nat.cast_lt
  beq_eq a b _ _ := (@decide_eq_decide _ _ (Classical.propDecidable _) _).mpr Nat.cast_inj
  blt_div_eq a b c positive _ _ _ := by
    have denominator : 0 < (Nat.cast c : ℝ) := Nat.cast_pos.mpr positive
    refine (@decide_eq_decide _ _ (Classical.propDecidable _) _).mpr ?_
    have product : (Nat.cast a : ℝ) * Nat.cast c = Nat.cast (a * c) := (Nat.cast_mul a c).symm
    exact (lt_div_iff₀ denominator).trans (product ▸ Nat.cast_lt)

end TiFeatures
