/-
This file is a small library of incremental parsing: a sequence is cut into phrases,
each the shortest prefix of what remains that is not in the dictionary yet. A sequence
has one such parse.
-/

import Mathlib.Data.Set.Insert

namespace IncrementalParse

variable {Symbol : Type}

/-- A phrase that is not in the dictionary, while its shorter prefixes are. -/
structure ShortestNew (dict : Set (List Symbol)) (phrase : List Symbol) : Prop where
  nonempty : phrase ≠ []
  fresh : phrase ∉ dict
  known : ∀ front, front <+: phrase → front ≠ [] → front ≠ phrase → front ∈ dict

/-- The parse of a sequence from a dictionary, with the phrases that are added to it and a
remainder in which nothing is new. -/
inductive Parse : Set (List Symbol) → List Symbol → List (List Symbol) → List Symbol → Prop
  | done {dict : Set (List Symbol)} {remainder : List Symbol}
      (known : ∀ front, front <+: remainder → front ≠ [] → front ∈ dict) :
      Parse dict remainder [] remainder
  | phrase {dict : Set (List Symbol)} {phrase rest : List Symbol} {phrases : List (List Symbol)}
      {remainder : List Symbol} (shortest : ShortestNew dict phrase)
      (parse : Parse (insert phrase dict) rest phrases remainder) :
      Parse dict (phrase ++ rest) (phrase :: phrases) remainder

variable {dict : Set (List Symbol)} {seq remainder : List Symbol} {phrases : List (List Symbol)}

/-- Two shortest new prefixes of a sequence are the same. -/
theorem ShortestNew.eq_of_prefix {first second : List Symbol} (shortest : ShortestNew dict first)
    (other : ShortestNew dict second) (firstWithin : first <+: seq)
    (secondWithin : second <+: seq) : first = second := by
  by_contra differ
  rcases List.prefix_or_prefix_of_prefix firstWithin secondWithin with within | within
  · exact shortest.fresh (other.known first within shortest.nonempty differ)
  · exact other.fresh (shortest.known second within other.nonempty (Ne.symm differ))

/-- A sequence has one parse. -/
theorem Parse.unique {otherPhrases : List (List Symbol)} {otherRemainder : List Symbol}
    (parse : Parse dict seq phrases remainder)
    (other : Parse dict seq otherPhrases otherRemainder) :
    otherPhrases = phrases ∧ otherRemainder = remainder := by
  induction parse generalizing otherPhrases otherRemainder with
  | done known =>
    cases other with
    | done _ => exact ⟨rfl, rfl⟩
    | phrase shortest _ =>
      exact absurd (known _ (List.prefix_append _ _) shortest.nonempty) shortest.fresh
  | @phrase dict phrase rest _ _ shortest _ inductionHypothesis =>
    generalize whole : phrase ++ rest = seq at other
    cases other with
    | done known =>
      exact absurd (known _ ⟨_, whole⟩ shortest.nonempty) shortest.fresh
    | phrase otherShortest otherParse =>
      obtain rfl := shortest.eq_of_prefix otherShortest ⟨_, whole⟩ (List.prefix_append _ _)
      obtain rfl := List.append_cancel_left whole
      obtain ⟨phrases_eq, remainder_eq⟩ := inductionHypothesis otherParse
      exact ⟨congrArg _ phrases_eq, remainder_eq⟩

/-- The phrases and the remainder make up the sequence. -/
theorem Parse.flatten_append (parse : Parse dict seq phrases remainder) :
    phrases.flatten ++ remainder = seq := by
  induction parse with
  | done known => rfl
  | phrase shortest parse inductionHypothesis =>
    rw [List.flatten_cons, List.append_assoc, inductionHypothesis]

/-- The remainder is in the dictionary at the end, unless nothing remains. -/
theorem Parse.remainder_mem (parse : Parse dict seq phrases remainder) (nonempty : remainder ≠ []) :
    remainder ∈ dict ∨ remainder ∈ phrases := by
  induction parse with
  | done known => exact Or.inl (known _ List.prefix_rfl nonempty)
  | phrase shortest parse inductionHypothesis =>
    rcases inductionHypothesis nonempty with (rfl | before) | later
    · exact Or.inr List.mem_cons_self
    · exact Or.inl before
    · exact Or.inr (List.mem_cons_of_mem _ later)

end IncrementalParse
