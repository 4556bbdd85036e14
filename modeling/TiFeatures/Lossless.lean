/-
This file says which sequences can be read back from the text they are written out as.
Integers are written out in full; a rate keeps six digits, which tells it from other
rates as long as it is below 10^8 bits a second.
-/

import TiFeatures.Formatting
import TiFeatures.Rates

namespace TiFeatures

open Rounding

/-! ### Integers -/

/-- Values whose texts have no comma are separated by commas. -/
theorem serialize_map_eq {Value : Type} {text : Value → String}
    (free : ∀ value, ',' ∉ (text value).toList) {first second : List Value}
    (first_nonempty : first ≠ []) (second_nonempty : second ≠ [])
    (same : serialize text first = serialize text second) : first.map text = second.map text :=
  Texts.map_eq_of_intercalate rfl free first_nonempty second_nonempty same

theorem serializeUintArray_injective {first second : List Nat} (first_nonempty : first ≠ [])
    (second_nonempty : second ≠ []) (same : serializeUintArray first = serializeUintArray second) :
    first = second := by
  have free : ∀ value : Nat, ',' ∉ (toString value).toList := fun value => by
    rw [toList_toString_nat]
    exact notMem_toDigits rfl value
  exact List.map_injective_iff.mpr toString_nat_injective
    (serialize_map_eq free first_nonempty second_nonempty same)

theorem serializeDirArray_injective {first second : List Int} (first_nonempty : first ≠ [])
    (second_nonempty : second ≠ []) (same : serializeDirArray first = serializeDirArray second) :
    first = second := by
  have free : ∀ value : Int, ',' ∉ (toString value).toList := fun value member => by
    rw [toList_toString_int] at member
    rcases List.mem_append.mp member with sign | digit
    · split at sign
      · exact absurd sign (by decide)
      · exact absurd sign List.not_mem_nil
    · exact notMem_toDigits rfl _ digit
  exact List.map_injective_iff.mpr toString_int_injective
    (serialize_map_eq free first_nonempty second_nonempty same)

/-! ### Rates below 10^8 -/

/-- No other rate has the text of a rate below 10^8. -/
theorem eq_of_rate_text {bytes other : Nat} (slow : bytes < 625000)
    (same : defaultText (160 * bytes) = defaultText (160 * other)) : bytes = other := by
  rcases Nat.lt_or_ge (160 * bytes) (10 ^ 6) with short | long
  · have := defaultText_inj_of_lt short same
    omega
  rcases Nat.lt_or_ge (160 * other) (10 ^ 6) with other_short | other_long
  · have := defaultText_inj_of_lt other_short same.symm
    omega
  have alike := (defaultText_eq_iff_of_ge long other_long).mp same
  have large : 10 ^ 5 ≤ 160 * bytes := Nat.le_trans (by decide) long
  have other_large : 10 ^ 5 ≤ 160 * other := Nat.le_trans (by decide) other_long
  have log_lt : Nat.log 10 (160 * bytes) < 8 :=
    Nat.log_lt_of_lt_pow (by omega) (show 160 * bytes < 10 ^ 8 by omega)
  have unit_le : ∀ value, Nat.log 10 value < 8 → lastUnit 5 value ≤ 100 := fun value small =>
    show 10 ^ (Nat.log 10 value - 5) ≤ 10 ^ 2 from Nat.pow_le_pow_right (by decide) (by omega)
  have unit := unit_le _ log_lt
  have near := scientificValue_near large
  -- A carry to 10^8 is out of reach: the last rate below it is 160 less.
  have exponent_lt : (scientific 5 (160 * bytes)).2 < 8 := by
    rcases scientific_exponent large with kept | ⟨carried, value_eq⟩
    · omega
    · rw [carried]
      rcases Nat.lt_or_ge (Nat.log 10 (160 * bytes)) 7 with below | at_seven
      · omega
      · rw [show Nat.log 10 (160 * bytes) = 7 by omega] at value_eq
        omega
  have other_log_lt : Nat.log 10 (160 * other) < 8 := by
    rw [alike] at exponent_lt
    rcases scientific_exponent other_large with kept | ⟨carried, -⟩
    · omega
    · omega
  have other_unit := unit_le _ other_log_lt
  have other_near := scientificValue_near other_large
  rw [← alike] at other_near
  omega

/-! ### Rates from 10^8 on -/

/-- From 10^8 on one of the two neighbours of a rate has its text. -/
theorem exists_rate_text {bytes : Nat} (fast : 625000 ≤ bytes) :
    ∃ other, other ≠ bytes ∧ defaultText (160 * bytes) = defaultText (160 * other) := by
  have long : 10 ^ 6 ≤ 160 * bytes := by omega
  have large : 10 ^ 5 ≤ 160 * bytes := by omega
  have close : 4 * 160 ≤ lastUnit 5 (160 * bytes) := by
    have exponent_ge : 8 ≤ Nat.log 10 (160 * bytes) :=
      Nat.le_log_of_pow_le (by decide) (show 10 ^ 8 ≤ 160 * bytes by omega)
    have unit_ge : 10 ^ 3 ≤ lastUnit 5 (160 * bytes) :=
      Nat.pow_le_pow_right (by decide) (by omega)
    omega
  rcases scientific_neighbour large (by decide) close with above | ⟨-, below⟩
  · refine ⟨bytes + 1, by omega, (defaultText_eq_iff_of_ge long (by omega)).mpr ?_⟩
    exact above
  · refine ⟨bytes - 1, by omega, (defaultText_eq_iff_of_ge long (by omega)).mpr ?_⟩
    rw [Nat.mul_sub]
    exact below

/-! ### Sequences -/

/-- The platform writes a number of the size of a natural number with six significant digits. -/
def Platform.PrintsSixDigits (platform : Platform ℝ) : Prop :=
  ∀ value : Nat, platform.formatDouble (value : ℝ) = defaultText value

/-- The rates of the bytes in the windows of a rate sequence. -/
noncomputable def ratesOf (counts : List Nat) : List ℝ :=
  counts.map fun bytes => ((160 * bytes : Nat) : ℝ)

/-- The rate sequences of a flow are of this form. -/
theorem rateSequence_eq_ratesOf (tsSeq lens : List Nat) (dirs : List Int) (counts : Int → Bool) :
    rateSequence tsSeq lens dirs counts = ratesOf (rateBytes tsSeq lens dirs counts) :=
  real_exactRates.rateSequence_eq tsSeq lens dirs counts

theorem ratesOf_injective : Function.Injective ratesOf :=
  List.map_injective_iff.mpr fun first second same => by
    have : 160 * first = 160 * second := Nat.cast_injective same
    omega

theorem Platform.PrintsSixDigits.serializeDoubleArray_ratesOf {platform : Platform ℝ}
    (prints : platform.PrintsSixDigits) (counts : List Nat) :
    serializeDoubleArray platform (ratesOf counts) =
      serialize (fun bytes => defaultText (160 * bytes)) counts := by
  rw [serializeDoubleArray, serialize, serialize, ratesOf, List.map_map]
  exact congrArg (String.intercalate ",") (List.map_congr_left fun bytes _ => prints (160 * bytes))

/-- The integer sequences can be read back from their texts. Of the rates exactly those arrays can
that hold no rate of 10^8 or more. -/
theorem serialized_lossless_iff {platform : Platform ℝ} (prints : platform.PrintsSixDigits) :
    (∀ first second : List Nat, first ≠ [] → second ≠ [] →
      serializeUintArray first = serializeUintArray second → first = second) ∧
    (∀ first second : List Int, first ≠ [] → second ≠ [] →
      serializeDirArray first = serializeDirArray second → first = second) ∧
    ∀ counts : List Nat, counts ≠ [] →
      ((∀ others : List Nat, others ≠ [] →
        serializeDoubleArray platform (ratesOf counts) =
          serializeDoubleArray platform (ratesOf others) → ratesOf counts = ratesOf others) ↔
        ∀ bytes ∈ counts, bytes < 625000) := by
  refine ⟨fun _ _ => serializeUintArray_injective, fun _ _ => serializeDirArray_injective,
    fun counts nonempty => ⟨fun lossless bytes member => ?_,
      fun slow others others_nonempty same => ?_⟩⟩
  · by_contra fast
    obtain ⟨other, differs, alike⟩ := exists_rate_text (Nat.not_lt.mp fast)
    obtain ⟨before, after, rfl⟩ := List.append_of_mem member
    have same_text : serialize (fun bytes => defaultText (160 * bytes)) (before ++ bytes :: after) =
        serialize (fun bytes => defaultText (160 * bytes)) (before ++ other :: after) := by
      rw [serialize, serialize, List.map_append, List.map_cons, alike, List.map_append,
        List.map_cons]
    have same := ratesOf_injective (lossless (before ++ other :: after) (by simp) (by
      rw [prints.serializeDoubleArray_ratesOf, prints.serializeDoubleArray_ratesOf, same_text]))
    exact differs (List.cons.inj (List.append_cancel_left same)).1.symm
  · rw [prints.serializeDoubleArray_ratesOf, prints.serializeDoubleArray_ratesOf] at same
    have texts := serialize_map_eq (fun bytes => notMem_defaultText rfl (by decide) (160 * bytes))
      nonempty others_nonempty same
    exact congrArg ratesOf (Texts.eq_of_map_eq
      (fun bytes member other => eq_of_rate_text (slow bytes member)) texts)

/-- A platform that writes the whole part of a number. -/
noncomputable def roundingPlatform : Platform ℝ :=
  { barePlatform ℝ with formatDouble := fun value => defaultText ⌊value⌋₊ }

theorem roundingPlatform_printsSixDigits : roundingPlatform.PrintsSixDigits :=
  fun value => congrArg defaultText (Nat.floor_natCast value)

/-- One byte more in a window of 625000 bytes changes the rate and not its text. -/
theorem serialized_rates_collide :
    rateSequence [1] [625000] [1] (fun dir => dir > 0) ≠
        (rateSequence [1] [625001] [1] fun dir => dir > 0 : List ℝ) ∧
      serializeDoubleArray roundingPlatform (rateSequence [1] [625000] [1] fun dir => dir > 0) =
        serializeDoubleArray roundingPlatform
          (rateSequence [1] [625001] [1] fun dir => dir > 0) := by
  have first : rateBytes [1] [625000] [1] (fun dir => dir > 0) = [625000] := by decide
  have second : rateBytes [1] [625001] [1] (fun dir => dir > 0) = [625001] := by decide
  rw [rateSequence_eq_ratesOf, rateSequence_eq_ratesOf, first, second]
  refine ⟨fun same => absurd (ratesOf_injective same) (by decide), ?_⟩
  rw [roundingPlatform_printsSixDigits.serializeDoubleArray_ratesOf,
    roundingPlatform_printsSixDigits.serializeDoubleArray_ratesOf]
  decide +kernel

theorem serialized_lossless_slow :
    serializeDoubleArray roundingPlatform (ratesOf [624999]) ≠
      serializeDoubleArray roundingPlatform (ratesOf [625000]) := fun same =>
  absurd (ratesOf_injective
    (((serialized_lossless_iff roundingPlatform_printsSixDigits).2.2 [624999] (by decide)).mpr
      (by decide) [625000] (by decide) same)) (by decide)

end TiFeatures
