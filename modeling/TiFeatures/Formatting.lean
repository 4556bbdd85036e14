/-
This file models the text that an output stream makes by default of a `double` with
the value of a natural number: up to six digits exactly, and a longer number by its
six leading digits and an exponent. Two numbers have one text if they are the same or
are rounded alike.
-/

import TiFeatures.Library.Rounding
import TiFeatures.Library.Texts
import Mathlib.Data.List.Basic

namespace TiFeatures

open Rounding

/-! ### The text of a number -/

/-- Six digits as a decimal fraction behind the first of them, without zeros at its end. -/
def mantissaText (digits : List Char) : List Char :=
  let kept := digits.tail.rdropWhile (· == '0')
  digits.take 1 ++ if kept.isEmpty then [] else '.' :: kept

/-- An exponent, with a sign and at least two digits. -/
def exponentText (exponent : Nat) : List Char :=
  '+' :: ((if exponent < 10 then ['0'] else []) ++ Nat.toDigits 10 exponent)

/-- What `serialize_double_array` writes for a `double` with the value of a natural number: up to
six significant digits. -/
def defaultText (value : Nat) : String :=
  String.ofList (if value < 10 ^ 6 then Nat.toDigits 10 value
    else
      let parts := scientific 5 value
      mantissaText (Nat.toDigits 10 parts.1) ++ 'e' :: exponentText parts.2)

example : defaultText 99999840 = "9.99998e+07" := by decide +kernel

/-! ### Digits -/

theorem toDigits_injective : Function.Injective (Nat.toDigits 10) := fun first second same => by
  rw [← Nat.ofDigitChars_ten_toDigits (n := first), same, Nat.ofDigitChars_ten_toDigits]

theorem notMem_toDigits {mark : Char} (other : mark.isDigit = false) (value : Nat) :
    mark ∉ Nat.toDigits 10 value := fun member =>
  Bool.false_ne_true (other.symm.trans
    (Nat.isDigit_of_mem_toDigits (by decide) (by decide) member))

theorem toList_toString_nat (value : Nat) : (toString value).toList = Nat.toDigits 10 value :=
  Nat.toList_repr

/-- An integer is written as its digits, behind a sign if it is negative. -/
theorem toList_toString_int (value : Int) : (toString value).toList =
    (if value < 0 then ['-'] else []) ++ Nat.toDigits 10 value.natAbs := by
  cases value with
  | ofNat value => exact toList_toString_nat value
  | negSucc value =>
    show ("-" ++ Nat.repr (value + 1)).toList = _
    rw [String.toList_append, Nat.toList_repr, if_pos (Int.negSucc_lt_zero value)]
    rfl

theorem toString_nat_injective : Function.Injective (toString : Nat → String) :=
  fun first second same => by
    refine toDigits_injective ?_
    rw [← toList_toString_nat, same, toList_toString_nat]

theorem minus_mem_toString_int (value : Int) : '-' ∈ (toString value).toList ↔ value < 0 := by
  rw [toList_toString_int, List.mem_append, or_iff_left (notMem_toDigits rfl value.natAbs)]
  by_cases negative : value < 0
  · rw [if_pos negative]
    exact iff_of_true List.mem_cons_self negative
  · rw [if_neg negative]
    exact iff_of_false List.not_mem_nil negative

theorem toString_int_injective : Function.Injective (toString : Int → String) := by
  intro first second same
  have sign : first < 0 ↔ second < 0 := by
    rw [← minus_mem_toString_int, same, minus_mem_toString_int]
  have chars := congrArg String.toList same
  simp only [toList_toString_int, sign] at chars
  have size := toDigits_injective (List.append_cancel_left chars)
  omega

/-- A number has six digits. -/
theorem length_toDigits_six {digits : Nat} (lower : 10 ^ 5 ≤ digits) (upper : digits < 10 ^ 6) :
    (Nat.toDigits 10 digits).length = 6 := by
  have at_most := (Nat.length_toDigits_le_iff (b := 10) (k := 6) (by decide) (by decide)).mpr upper
  have at_least := mt (Nat.length_toDigits_le_iff (b := 10) (k := 5) (by decide) (by decide)).mp
    (Nat.not_lt.mpr lower)
  omega

/-! ### Reading a text back -/

theorem mem_mantissaText {digits : List Char} {mark : Char} (member : mark ∈ mantissaText digits) :
    mark ∈ digits ∨ mark = '.' := by
  unfold mantissaText at member
  rcases List.mem_append.mp member with first | kept
  · exact Or.inl (List.mem_of_mem_take first)
  · split at kept
    · exact absurd kept List.not_mem_nil
    · rcases List.mem_cons.mp kept with point | inside
      · exact Or.inr point
      · exact Or.inl (List.mem_of_mem_tail ((List.rdropWhile_prefix _ _).subset inside))

theorem mem_exponentText {exponent : Nat} {mark : Char} (member : mark ∈ exponentText exponent) :
    mark = '+' ∨ mark = '0' ∨ mark ∈ Nat.toDigits 10 exponent := by
  rcases List.mem_cons.mp member with sign | inside
  · exact Or.inl sign
  · rcases List.mem_append.mp inside with zero | digit
    · split at zero
      · exact Or.inr (Or.inl (List.mem_singleton.mp zero))
      · exact absurd zero List.not_mem_nil
    · exact Or.inr (Or.inr digit)

/-- The zeros that are left out can be put back. -/
theorem mantissaText_injective {first second : List Char} (first_length : first.length = 6)
    (second_length : second.length = 6) (same : mantissaText first = mantissaText second) :
    first = second := by
  obtain ⟨firstHead, firstTail, rfl⟩ := List.exists_cons_of_length_eq_add_one first_length
  obtain ⟨secondHead, secondTail, rfl⟩ := List.exists_cons_of_length_eq_add_one second_length
  obtain ⟨head_eq, rest_eq⟩ := List.cons.inj same
  have kept_eq : firstTail.rdropWhile (· == '0') = secondTail.rdropWhile (· == '0') := by
    simp only [List.take_zero] at rest_eq
    split at rest_eq <;> split at rest_eq
    · rename_i first_empty second_empty
      exact (List.isEmpty_iff.mp first_empty).trans (List.isEmpty_iff.mp second_empty).symm
    · exact absurd rest_eq (List.cons_ne_nil _ _).symm
    · exact absurd rest_eq (List.cons_ne_nil _ _)
    · exact (List.cons.inj rest_eq).2
  have tail_length : firstTail.length = secondTail.length :=
    Nat.succ.inj (first_length.trans second_length.symm)
  rw [head_eq, Texts.eq_of_rdropWhile_eq tail_length kept_eq]

/-- A zero in front does not change the value of an exponent. -/
theorem exponentText_injective : Function.Injective exponentText := by
  have value_eq : ∀ exponent, Nat.ofDigitChars 10 (exponentText exponent).tail 0 = exponent := by
    intro exponent
    show Nat.ofDigitChars 10 (_ ++ _) 0 = exponent
    rw [Nat.ofDigitChars_append]
    split
    · exact Nat.ofDigitChars_ten_toDigits
    · exact Nat.ofDigitChars_ten_toDigits
  intro first second same
  rw [← value_eq first, same, value_eq]

/-- A character that is no digit, point, sign or `e` is in no text. -/
theorem notMem_defaultText {mark : Char} (other : mark.isDigit = false)
    (listed : mark ∉ ['.', 'e', '+', '0']) (value : Nat) : mark ∉ (defaultText value).toList := by
  simp only [List.mem_cons, List.not_mem_nil, or_false, not_or] at listed
  obtain ⟨point, letter, sign, zero⟩ := listed
  have digits := notMem_toDigits other
  rw [defaultText, String.toList_ofList]
  split
  · exact digits value
  · intro member
    rcases List.mem_append.mp member with mantissa | exponent
    · exact (mem_mantissaText mantissa).elim (digits _) point
    · rcases List.mem_cons.mp exponent with is_letter | inside
      · exact letter is_letter
      · exact (mem_exponentText inside).elim sign fun later => later.elim zero (digits _)

theorem toList_defaultText_of_lt {value : Nat} (short : value < 10 ^ 6) :
    (defaultText value).toList = Nat.toDigits 10 value := by
  rw [defaultText, if_pos short, String.toList_ofList]

theorem toList_defaultText_of_ge {value : Nat} (long : 10 ^ 6 ≤ value) :
    (defaultText value).toList = mantissaText (Nat.toDigits 10 (scientific 5 value).1) ++
      'e' :: exponentText (scientific 5 value).2 := by
  rw [defaultText, if_neg (Nat.not_lt.mpr long), String.toList_ofList]

theorem letter_notMem_mantissaText (digits : Nat) :
    'e' ∉ mantissaText (Nat.toDigits 10 digits) := fun member =>
  (mem_mantissaText member).elim (notMem_toDigits rfl digits) (by decide)

theorem letter_notMem_exponentText (exponent : Nat) : 'e' ∉ exponentText exponent :=
  fun member => (mem_exponentText member).elim (by decide) fun later =>
    later.elim (by decide) (notMem_toDigits rfl exponent)

/-- A number of up to six digits has its text alone. -/
theorem defaultText_inj_of_lt {first second : Nat} (short : first < 10 ^ 6)
    (same : defaultText first = defaultText second) : first = second := by
  have chars := congrArg String.toList same
  rw [toList_defaultText_of_lt short] at chars
  rcases Nat.lt_or_ge second (10 ^ 6) with also_short | long
  · rw [toList_defaultText_of_lt also_short] at chars
    exact toDigits_injective chars
  · rw [toList_defaultText_of_ge long] at chars
    refine absurd ?_ (@notMem_toDigits 'e' rfl first)
    rw [chars]
    exact List.mem_append_right _ List.mem_cons_self

/-- Longer numbers have one text exactly if they have the same leading digits. -/
theorem defaultText_eq_iff_of_ge {first second : Nat} (first_long : 10 ^ 6 ≤ first)
    (second_long : 10 ^ 6 ≤ second) :
    defaultText first = defaultText second ↔ scientific 5 first = scientific 5 second := by
  rw [← String.toList_inj, toList_defaultText_of_ge first_long,
    toList_defaultText_of_ge second_long]
  refine ⟨fun same => ?_, fun same => by rw [same]⟩
  obtain ⟨mantissa, -, exponent⟩ := (List.append_cons_inj_of_notMem
    (letter_notMem_mantissaText _) (letter_notMem_exponentText _)).mp same
  obtain ⟨first_lower, first_upper⟩ := @scientific_digits 5 first
    (Nat.le_trans (by decide) first_long)
  obtain ⟨second_lower, second_upper⟩ := @scientific_digits 5 second
    (Nat.le_trans (by decide) second_long)
  have digits_eq := mantissaText_injective (length_toDigits_six first_lower first_upper)
    (length_toDigits_six second_lower second_upper) mantissa
  exact Prod.ext (toDigits_injective digits_eq) (exponentText_injective exponent)

end TiFeatures
