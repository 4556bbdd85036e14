/-
This file says when a text can be read back: a list of texts with a separator between
them, and a text with the marks at its end left out.
-/

import Mathlib.Data.List.DropRight

namespace Texts

/-! ### Separated texts -/

/-- Texts without the separator can be read back from the text they are joined to. -/
theorem intercalate_injective {separator : String} {mark : Char}
    (separator_eq : separator.toList = [mark]) {first second : List String}
    (first_nonempty : first ≠ []) (second_nonempty : second ≠ [])
    (first_free : ∀ text ∈ first, mark ∉ text.toList)
    (second_free : ∀ text ∈ second, mark ∉ text.toList)
    (joined : separator.intercalate first = separator.intercalate second) : first = second := by
  have parts : ∀ texts : List String, texts ≠ [] → (∀ text ∈ texts, mark ∉ text.toList) →
      (separator.intercalate texts).toList.splitOn mark = texts.map String.toList := by
    intro texts nonempty free
    rw [String.toList_intercalate, separator_eq]
    refine List.splitOn_intercalate mark (fun chars member => ?_)
      (mt List.map_eq_nil_iff.mp nonempty)
    obtain ⟨text, inside, rfl⟩ := List.mem_map.mp member
    exact free text inside
  refine List.map_injective_iff.mpr (fun _ _ => String.toList_inj.mp) ?_
  rw [← parts first first_nonempty first_free, ← parts second second_nonempty second_free, joined]

/-- Values whose texts differ can be read back from their joined texts. -/
theorem map_eq_of_intercalate {Value : Type} {text : Value → String} {separator : String}
    {mark : Char} (separator_eq : separator.toList = [mark])
    (free : ∀ value, mark ∉ (text value).toList) {first second : List Value}
    (first_nonempty : first ≠ []) (second_nonempty : second ≠ [])
    (joined : separator.intercalate (first.map text) = separator.intercalate (second.map text)) :
    first.map text = second.map text :=
  intercalate_injective separator_eq (mt List.map_eq_nil_iff.mp first_nonempty)
    (mt List.map_eq_nil_iff.mp second_nonempty) (List.forall_mem_map.mpr fun value _ => free value)
    (List.forall_mem_map.mpr fun value _ => free value) joined

/-- Texts without the mark can be read back where each is closed by the mark. -/
theorem flatMap_closed_injective {mark : Char} {first second : List (List Char)}
    (first_free : ∀ text ∈ first, mark ∉ text) (second_free : ∀ text ∈ second, mark ∉ text)
    (joined : first.flatMap (· ++ [mark]) = second.flatMap (· ++ [mark])) : first = second := by
  have separated : ∀ texts : List (List Char),
      texts.flatMap (· ++ [mark]) = [mark].intercalate (texts ++ [[]]) := by
    intro texts
    induction texts with
    | nil => rfl
    | cons text rest inductionHypothesis =>
      rw [List.flatMap_cons, inductionHypothesis, List.cons_append,
        List.intercalate_cons_of_ne_nil
          (List.append_ne_nil_of_right_ne_nil _ (List.cons_ne_nil _ _))]
  have parts : ∀ texts : List (List Char), (∀ text ∈ texts, mark ∉ text) →
      (texts.flatMap (· ++ [mark])).splitOn mark = texts ++ [[]] := by
    intro texts free
    rw [separated]
    refine List.splitOn_intercalate mark (fun text member => ?_)
      (List.append_ne_nil_of_right_ne_nil _ (List.cons_ne_nil _ _))
    rcases List.mem_append.mp member with inside | last
    · exact free text inside
    · rw [List.mem_singleton.mp last]
      exact List.not_mem_nil
  have same := parts first first_free
  rw [joined, parts second second_free] at same
  exact (List.append_cancel_right same).symm

/-- Values that no other value shares its image with can be read back from their images. -/
theorem eq_of_map_eq {Value Image : Type} {text : Value → Image} {first second : List Value}
    (alone : ∀ value ∈ first, ∀ other, text value = text other → value = other)
    (same : first.map text = second.map text) : first = second := by
  induction first generalizing second with
  | nil => exact (List.map_eq_nil_iff.mp same.symm).symm
  | cons value rest inductionHypothesis =>
    cases second with
    | nil => exact absurd same (List.cons_ne_nil _ _)
    | cons other others =>
      obtain ⟨value_eq, rest_eq⟩ := List.cons.inj same
      rw [alone value List.mem_cons_self other value_eq,
        inductionHypothesis (fun item member => alone item (List.mem_cons_of_mem _ member)) rest_eq]

/-! ### Marks at the end -/

/-- Lists of one length are the same if they are without the marks at their ends. -/
theorem eq_of_rdropWhile_eq {Item : Type} [DecidableEq Item] {mark : Item}
    {first second : List Item} (length_eq : first.length = second.length)
    (kept : first.rdropWhile (· == mark) = second.rdropWhile (· == mark)) : first = second := by
  have whole : ∀ items : List Item, items = items.rdropWhile (· == mark) ++
      List.replicate (items.length - (items.rdropWhile (· == mark)).length) mark := by
    intro items
    have split_eq : items.rdropWhile (· == mark) ++ items.rtakeWhile (· == mark) = items :=
      List.rdropWhile_append_rtakeWhile
    have marks : items.rtakeWhile (· == mark) =
        List.replicate (items.rtakeWhile (· == mark)).length mark :=
      List.eq_replicate_iff.mpr ⟨rfl, fun item member => by
        have passed : (item == mark) = true := List.mem_rtakeWhile_imp (p := (· == mark)) member
        exact eq_of_beq passed⟩
    have lengths := congrArg List.length split_eq
    rw [List.length_append] at lengths
    conv_lhs => rw [← split_eq]
    rw [marks, show (items.rtakeWhile (· == mark)).length =
      items.length - (items.rdropWhile (· == mark)).length by omega]
  rw [whole first, whole second, kept, length_eq]

end Texts
