/-
This file settles what the LZ78 complexity counts. The dictionary of the loop holds
texts, with every length written out in decimal and closed by a bar; no two sequences
have the same text, so the phrases are those of the parse over the lengths themselves.
-/

import TiFeatures.Formatting
import TiFeatures.Library.Phrases
import TiFeatures.Sequence

namespace TiFeatures

open IncrementalParse

/-! ### The keys of the dictionary -/

/-- The text that the loop builds for a sequence of values. -/
def phraseKey (values : List Nat) : String :=
  values.foldl (fun cur value => cur ++ (toString value ++ "|")) ""

theorem phraseKey_concat (values : List Nat) (value : Nat) :
    phraseKey (values ++ [value]) = phraseKey values ++ (toString value ++ "|") := by
  rw [phraseKey, List.foldl_concat]
  rfl

theorem toList_phraseKey (values : List Nat) :
    (phraseKey values).toList = values.flatMap fun value => Nat.toDigits 10 value ++ ['|'] := by
  induction values using List.reverseRecOn with
  | nil => rfl
  | append_singleton values value inductionHypothesis =>
    rw [phraseKey_concat, String.toList_append, String.toList_append, inductionHypothesis,
      toList_toString_nat, List.flatMap_append, List.flatMap_singleton]
    rfl

/-- A sequence can be read back from its text. -/
theorem phraseKey_injective : Function.Injective phraseKey := by
  intro first second same
  have chars := congrArg String.toList same
  simp only [toList_phraseKey] at chars
  have free : ∀ values : List Nat, ∀ text ∈ values.map (Nat.toDigits 10), '|' ∉ text :=
    fun values => List.forall_mem_map.mpr fun value _ => notMem_toDigits rfl value
  refine List.map_injective_iff.mpr toDigits_injective ?_
  refine Texts.flatMap_closed_injective (free first) (free second) ?_
  rwa [List.flatMap_map, List.flatMap_map]

/-! ### One phrase -/

section Phrase

variable {dict : List String} {words : Set (List Nat)}

/-- Every prefix of a longer list is one of the list, or the whole. -/
theorem forall_prefix_concat {property : List Nat → Prop} {cur : List Nat} {value : Nat}
    (before : ∀ front, front <+: cur → front ≠ [] → property front)
    (whole : property (cur ++ [value])) :
    ∀ front, front <+: cur ++ [value] → front ≠ [] → property front := by
  intro front within nonempty
  rcases List.prefix_concat_iff.mp within with rfl | shorter
  · exact whole
  · exact before front shorter nonempty

/-- The inner loop finds the shortest prefix that is new, if there is one. -/
theorem lz78Phrase_spec (same : ∀ values, phraseKey values ∈ dict ↔ values ∈ words)
    (seq cur : List Nat) (known : ∀ front, front <+: cur → front ≠ [] → front ∈ words) :
    (∃ phrase rest, cur ++ seq = phrase ++ rest ∧ ShortestNew words phrase ∧
      lz78Phrase dict seq (phraseKey cur) = (some (phraseKey phrase), rest)) ∨
    ((∀ front, front <+: cur ++ seq → front ≠ [] → front ∈ words) ∧
      lz78Phrase dict seq (phraseKey cur) = (none, [])) := by
  induction seq generalizing cur with
  | nil =>
    rw [List.append_nil]
    exact Or.inr ⟨known, rfl⟩
  | cons value rest inductionHypothesis =>
    have step : lz78Phrase dict (value :: rest) (phraseKey cur) =
        if phraseKey (cur ++ [value]) ∈ dict then
          lz78Phrase dict rest (phraseKey (cur ++ [value]))
        else (some (phraseKey (cur ++ [value])), rest) := by
      rw [lz78Phrase, phraseKey_concat]
    have whole : cur ++ value :: rest = (cur ++ [value]) ++ rest := by
      rw [List.append_assoc]
      rfl
    rw [step, whole]
    by_cases member : cur ++ [value] ∈ words
    · rw [if_pos ((same _).mpr member)]
      exact inductionHypothesis _ (forall_prefix_concat known member)
    · rw [if_neg (mt (same _).mp member)]
      refine Or.inl ⟨cur ++ [value], rest, rfl, ⟨?_, member, ?_⟩, rfl⟩
      · exact List.append_ne_nil_of_right_ne_nil _ (List.cons_ne_nil _ _)
      · intro front within nonempty shorter
        rcases List.prefix_concat_iff.mp within with equal | before
        · exact absurd equal shorter
        · exact known front before nonempty

end Phrase

/-! ### All phrases -/

theorem lz78Phrases_of_some {dict : List String} {value : Nat} {rest remaining : List Nat}
    {phrase : String} (phrases : Nat)
    (found : lz78Phrase dict (value :: rest) "" = (some phrase, remaining)) :
    lz78Phrases dict phrases (value :: rest) =
      lz78Phrases (phrase :: dict) (phrases + 1) remaining := by
  rw [lz78Phrases]
  split
  · rename_i other_eq _
    obtain ⟨phrase_eq, remaining_eq⟩ := Prod.mk.inj (found.symm.trans other_eq)
    rw [Option.some.inj phrase_eq, remaining_eq]
  · rename_i none_eq _
    cases (Prod.mk.inj (found.symm.trans none_eq)).1

theorem lz78Phrases_of_none {dict : List String} {value : Nat} {rest remaining : List Nat}
    (phrases : Nat) (found : lz78Phrase dict (value :: rest) "" = (none, remaining)) :
    lz78Phrases dict phrases (value :: rest) = lz78Phrases dict phrases remaining := by
  rw [lz78Phrases]
  split
  · rename_i some_eq _
    cases (Prod.mk.inj (found.symm.trans some_eq)).1
  · rename_i other_eq _
    rw [(Prod.mk.inj (found.symm.trans other_eq)).2]

/-- The outer loop counts the phrases of the parse. -/
theorem lz78Phrases_eq {dict : List String} {words : Set (List Nat)}
    (same : ∀ values, phraseKey values ∈ dict ↔ values ∈ words) (count : Nat) (seq : List Nat) :
    ∃ phrases remainder, Parse words seq phrases remainder ∧
      lz78Phrases dict count seq = count + phrases.length := by
  induction length_eq : seq.length using Nat.strong_induction_on
    generalizing dict words count seq with
  | _ length inductionHypothesis =>
  subst length_eq
  cases seq with
  | nil =>
    refine ⟨[], [], .done fun front within nonempty => ?_, ?_⟩
    · exact absurd (List.prefix_nil.mp within) nonempty
    · rw [lz78Phrases]
      rfl
  | cons value rest =>
    have nothing : ∀ front, front <+: ([] : List Nat) → front ≠ [] → front ∈ words :=
      fun front within nonempty => absurd (List.prefix_nil.mp within) nonempty
    rcases lz78Phrase_spec same (value :: rest) [] nothing with
      ⟨phrase, remaining, whole, shortest, found⟩ | ⟨known, found⟩
    · rw [List.nil_append] at whole
      have grown : ∀ values, phraseKey values ∈ phraseKey phrase :: dict ↔
          values ∈ insert phrase words := by
        intro values
        rw [List.mem_cons, same, Set.mem_insert_iff, phraseKey_injective.eq_iff]
      have shorter : remaining.length < (value :: rest).length := by
        rw [whole, List.length_append]
        have := List.length_pos_iff.mpr shortest.nonempty
        omega
      obtain ⟨phrases, remainder, parse, count_eq⟩ :=
        inductionHypothesis _ shorter grown (count + 1) remaining rfl
      refine ⟨phrase :: phrases, remainder, whole ▸ .phrase shortest parse, ?_⟩
      rw [lz78Phrases_of_some count found, count_eq, List.length_cons]
      omega
    · refine ⟨[], value :: rest, .done known, ?_⟩
      rw [lz78Phrases_of_none count found, lz78Phrases]
      rfl

/-- The complexity of a sequence is the number of phrases of its one parse from the empty
dictionary, which leaves nothing or a phrase it has found before. No two sequences have the same
key. -/
theorem calcLz78Complexity_eq {D : Type} [Double D] {seq : List Nat} (many : 2 ≤ seq.length) :
    Function.Injective phraseKey ∧
      (∃ phrases remainder, Parse ∅ seq phrases remainder) ∧
      ∀ phrases remainder, Parse ∅ seq phrases remainder →
        calcLz78Complexity seq = (phrases.length : D) ∧
          phrases.flatten ++ remainder = seq ∧ (remainder ≠ [] → remainder ∈ phrases) := by
  have same : ∀ values, phraseKey values ∈ ([] : List String) ↔ values ∈ (∅ : Set (List Nat)) :=
    fun values => iff_of_false List.not_mem_nil (Set.notMem_empty values)
  obtain ⟨phrases, remainder, parse, count_eq⟩ := lz78Phrases_eq same 0 seq
  refine ⟨phraseKey_injective, ⟨phrases, remainder, parse⟩, fun other rest otherParse => ?_⟩
  obtain ⟨rfl, rfl⟩ := parse.unique otherParse
  refine ⟨?_, parse.flatten_append, fun nonempty => ?_⟩
  · rw [calcLz78Complexity, if_neg (by omega), count_eq, Nat.zero_add]
  · exact (parse.remainder_mem nonempty).resolve_left (Set.notMem_empty _)

theorem calcLz78Complexity_get : 2 ≤ [7, 7, 1500, 7, 1500].length ∧
    ∃ phrases remainder, Parse ∅ [7, 7, 1500, 7, 1500] phrases remainder ∧
      calcLz78Complexity [7, 7, 1500, 7, 1500] = (phrases.length : Float) := by
  have many : 2 ≤ [7, 7, 1500, 7, 1500].length := by decide
  obtain ⟨-, ⟨phrases, remainder, parse⟩, complexity⟩ := calcLz78Complexity_eq (D := Float) many
  exact ⟨many, phrases, remainder, parse, (complexity phrases remainder parse).1⟩

end TiFeatures
