/-
This file is a small library on values that are paired off: each value of a list of
pairs is exchanged for the other one of its pair, and all other values stay.
-/

import Mathlib.Data.List.Nodup

namespace Pairing

variable {Value : Type} [DecidableEq Value]

/-- The values that are paired off. -/
def members (pairs : List (Value × Value)) : List Value :=
  pairs.map Prod.fst ++ pairs.map Prod.snd

/-- The pairs read both ways. -/
def bothWays (pairs : List (Value × Value)) : List (Value × Value) :=
  pairs ++ pairs.map Prod.swap

/-- The other value of the pair of a value, the value itself if it is in no pair. -/
def partner (pairs : List (Value × Value)) (value : Value) : Value :=
  ((bothWays pairs).lookup value).getD value

variable {pairs : List (Value × Value)} {first second value : Value}

omit [DecidableEq Value] in
theorem map_fst_bothWays : (bothWays pairs).map Prod.fst = members pairs := by
  rw [bothWays, List.map_append, List.map_map]
  rfl

/-- With distinct keys the entry of a key is the one that is found. -/
theorem lookup_eq_some {table : List (Value × Value)} (distinct : (table.map Prod.fst).Nodup)
    (member : (first, second) ∈ table) : table.lookup first = some second := by
  obtain ⟨front, back, rfl⟩ := List.append_of_mem member
  refine List.lookup_eq_some_iff.mpr ⟨front, back, rfl, fun entry inside => ?_⟩
  rw [List.map_append, List.map_cons] at distinct
  have apart := (List.nodup_append.mp distinct).2.2 entry.1 (List.mem_map_of_mem inside) first
    List.mem_cons_self
  exact bne_iff_ne.mpr apart.symm

theorem partner_of_mem_bothWays (distinct : (members pairs).Nodup)
    (paired : (first, second) ∈ bothWays pairs) : partner pairs first = second := by
  rw [partner, lookup_eq_some (map_fst_bothWays ▸ distinct) paired, Option.getD_some]

theorem partner_fst (distinct : (members pairs).Nodup) (paired : (first, second) ∈ pairs) :
    partner pairs first = second :=
  partner_of_mem_bothWays distinct (List.mem_append_left _ paired)

theorem partner_snd (distinct : (members pairs).Nodup) (paired : (first, second) ∈ pairs) :
    partner pairs second = first :=
  partner_of_mem_bothWays distinct
    (List.mem_append_right _ (List.mem_map_of_mem (f := Prod.swap) paired))

theorem partner_of_notMem (apart : value ∉ members pairs) : partner pairs value = value := by
  have none : (bothWays pairs).lookup value = none := by
    refine List.lookup_eq_none_iff.mpr fun entry inside => bne_iff_ne.mpr fun same => apart ?_
    rw [← map_fst_bothWays, same]
    exact List.mem_map_of_mem inside
  rw [partner, none, Option.getD_none]

/-- The partner of the partner of a value is the value. -/
theorem partner_partner (distinct : (members pairs).Nodup) (value : Value) :
    partner pairs (partner pairs value) = value := by
  by_cases inside : value ∈ members pairs
  · rcases List.mem_append.mp inside with member | member
    · obtain ⟨⟨first, second⟩, paired, rfl⟩ := List.mem_map.mp member
      rw [partner_fst distinct paired, partner_snd distinct paired]
    · obtain ⟨⟨first, second⟩, paired, rfl⟩ := List.mem_map.mp member
      rw [partner_snd distinct paired, partner_fst distinct paired]
  · rw [partner_of_notMem inside, partner_of_notMem inside]

end Pairing
